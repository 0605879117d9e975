import EthernetPhy.Bus.Board
import EthernetPhy.Proofs.LinkEdges
import EthernetPhy.Proofs.RecordKeeping
import EthernetPhy.Proofs.SweepAndReset
import EthernetPhy.Proofs.UpdatesInOrder
import EthernetPhy.Simulator.Setup
import Mathlib.Data.List.Chain

/-!
# What the messages tell

An operation that gives up says so in a warning, and the link is logged as it comes and goes.  So the
messages tell what the result hides: `Transceiver.settledState` answers that the link is down whether
the link is down or a wait has run out, and only the second comes with a warning.

* `faultsTold`, `changesTold` : the faults and the changes of the link that messages stand for;
* `Tells` : the messages of an operation tell the fault with which it gave up, if it did, and what
  becomes of the state that the caller was told last;
* `RecordM.Candid` : an operation of which this holds, from every record and on every machine;
* `Transceiver.Action.Warns` : what the warnings of one action tell;
* `messages_tell` : **a warning for each action that gives up and no other, the mode of each speed
  that was waited for with success, and changes of the link that alternate.**
-/

namespace EthernetPhy

open Event

/-! ### Messages and what they stand for -/

/-- A request that is no message. -/
abbrev Request.Silent (q : Request) : Prop := q.isLog = false

/-- The message, if an event is one. -/
@[simp] def Event.message? : Event → Option Message
  | ⟨.log message, _⟩ => some message
  | ⟨.read .., _⟩ | ⟨.write .., _⟩ | ⟨.delay _, _⟩ | ⟨.drive _, _⟩ => none

/-- The messages among some events, in order. -/
def messages (es : List Event) : List Message := es.filterMap Event.message?

/-- The warnings among some events. -/
def warnings (es : List Event) : List Message := (messages es).filter fun m => m.severity = .warn

/-- The messages of normal progress among some events. -/
def infos (es : List Event) : List Message := (messages es).filter fun m => m.severity = .info

namespace Message

/-- The fault of which a message warns. -/
def fault? : Message → Option Fault
  | nothingDetected => some .noPhy
  | resetTimedOut _ | negotiationTimedOut _ | speedTimedOut _ => some .timeout
  | cannotNegotiate _ => some .unsupported
  | detected .. | awaitingNegotiation _ | clockDelaySet .. | ready _ | awaitingSpeed _
  | resolved .. | linkUp _ | linkDown _ => none

/-- The change of the link that a message tells. -/
def change? : Message → Option LinkState
  | linkUp _ => some .up
  | linkDown _ => some .down
  | detected .. | nothingDetected | resetTimedOut _ | cannotNegotiate _ | awaitingNegotiation _
  | negotiationTimedOut _ | clockDelaySet .. | ready _ | awaitingSpeed _ | speedTimedOut _
  | resolved .. => none

theorem isSome_fault? (m : Message) : m.fault?.isSome = decide (m.severity = .warn) := by
  cases m <;> rfl

end Message

/-- The faults of which some events warn, in order. -/
def faultsTold (es : List Event) : List Fault := (messages es).filterMap Message.fault?

/-- The changes of the link that some events tell, in order. -/
def changesTold (es : List Event) : List LinkState := (messages es).filterMap Message.change?

section

variable {es es' : List Event}

theorem messages_eq_nil (h : ∀ e ∈ es, e.request.Silent) : messages es = [] := by
  rw [messages, List.filterMap_eq_nil_iff]
  rintro ⟨q, answer⟩ he
  cases q with
  | log message => cases h _ he
  | _ => rfl

theorem faultsTold_append : faultsTold (es ++ es') = faultsTold es ++ faultsTold es' := by
  simp [faultsTold, messages]

theorem changesTold_append : changesTold (es ++ es') = changesTold es ++ changesTold es' := by
  simp [changesTold, messages]

theorem map_fault?_warnings (es : List Event) :
    (warnings es).map Message.fault? = (faultsTold es).map some := by
  rw [warnings, faultsTold]
  induction messages es with
  | nil => rfl
  | cons m ms ih =>
    have hwarn := m.isSome_fault?
    rw [List.filter_cons, List.filterMap_cons, ← hwarn]
    cases hfault : m.fault? with
    | none => exact ih
    | some f => simpa [hfault] using ih

theorem warnings_of_faultsTold {f : Fault} (h : faultsTold es = [f]) :
    ∃ w : Message, warnings es = [w] ∧ w.fault? = some f := by
  have hmap := map_fault?_warnings es
  rw [h] at hmap
  obtain ⟨w, hw, hfault⟩ := List.map_eq_singleton_iff.1 hmap
  exact ⟨w, hw, hfault⟩

theorem told_logged {message : Message} (hfault : message.fault? = none)
    (hchange : message.change? = none) :
    faultsTold [logged message] = [] ∧ changesTold [logged message] = [] := by
  simp [faultsTold, changesTold, messages, hfault, hchange]

theorem told_warning {message : Message} {f : Fault} (hfault : message.fault? = some f) :
    faultsTold [logged message] = [f] ∧ changesTold [logged message] = [] := by
  have hchange : message.change? = none := by
    cases message <;> first | rfl | cases hfault
  simp [faultsTold, changesTold, messages, hfault, hchange]

theorem warnings_eq_nil (h : faultsTold es = []) : warnings es = [] := by
  have hmap := map_fault?_warnings es
  rw [h] at hmap
  exact List.map_eq_nil_iff.1 hmap

end

/-! ### Operations that tell -/

/-- The operation itself has given up; it was stopped neither by a frame nor by the reset line. -/
def Fault.isGivingUp : Fault → Bool
  | noPhy | timeout | unsupported => true
  | bus _ | resetLine => false

/-- The fault with which an operation gave up, if it did. -/
def givenUp {α : Type} : Except Fault α → List Fault
  | .ok _ => []
  | .error f => if f.isGivingUp then [f] else []

/-- States of the link, each of them another one than that before it, from a first to a last. -/
inductive Toggles : LinkState → List LinkState → LinkState → Prop
  /-- No change. -/
  | nil (a : LinkState) : Toggles a [] a
  /-- A change and those after it. -/
  | cons {a b c : LinkState} {later : List LinkState} (h : a ≠ b) (hlater : Toggles b later c) :
    Toggles a (b :: later) c

namespace Toggles

variable {a b c : LinkState} {l l' : List LinkState}

theorem append (h : Toggles a l b) (h' : Toggles b l' c) : Toggles a (l ++ l') c := by
  induction h with
  | nil => exact h'
  | cons hne _ ih => exact .cons hne (ih h')

theorem isChain (h : Toggles a l b) : (a :: l).IsChain (· ≠ ·) := by
  induction h with
  | nil => exact .singleton _
  | cons hne _ ih => exact .cons_cons hne ih

end Toggles

/-- The messages of an operation that started with the record `r`, had the events `es` and ended with
the result and the record `out`, tell how it went:

* `faults` : of which fault they warn is in the result, if the operation gave up;
* `changes` : the changes of the link lead from what the caller was told last before it to what the
  caller is told afterwards. -/
structure Tells {α : Type} (r : PhyRecord) (es : List Event) (out : Except Fault α × PhyRecord) :
    Prop where
  faults : faultsTold es = givenUp out.1
  changes : Toggles r.reported (changesTold es) out.2.reported

namespace PhyM

variable {α β : Type} {x : PhyM α} {message : Message}

/-- The messages of an operation tell with which fault it gave up, and no change of the link. -/
def Candid (x : PhyM α) : Prop :=
  x.run.Ensures fun es result => faultsTold es = givenUp result ∧ changesTold es = []

theorem candid_pure {a : α} : Candid (pure a : PhyM α) := ⟨rfl, rfl⟩

theorem candid_throw {f : Fault} (h : f.isGivingUp = false) : Candid (throw f : PhyM α) := by
  refine ⟨?_, rfl⟩
  show [] = givenUp (.error f)
  rw [givenUp, h]
  rfl

theorem candid_bind {f : α → PhyM β} (hx : Candid x) (hf : ∀ a, Candid (f a)) :
    Candid (x >>= f) := by
  refine ensures_bind hx (fun es a h => (hf a).mono fun es' result h' => ?_) fun es e h => h
  rw [faultsTold_append, changesTold_append, h.1, h'.1, h.2, h'.2]
  exact ⟨rfl, rfl⟩

theorem candid_bus {x : BusM α} (hx : x.run.Asks Request.Silent) :
    Candid (liftM x : PhyM α) := by
  rw [Candid, run_liftM_bus, Program.ensures_map]
  refine Program.Ensures.mono hx fun es result h => ?_
  have hnone := messages_eq_nil h
  rw [faultsTold, changesTold, hnone]
  cases result <;> exact ⟨rfl, rfl⟩

theorem candid_read {phy : PhyAddress} {reg : RegAddress} :
    Candid (liftM (BusM.read phy reg) : PhyM Word) :=
  candid_bus (.ask rfl fun _ => .done)

theorem candid_program {x : Program α} (hx : x.Asks Request.Silent) :
    Candid (liftM x : PhyM α) := by
  rw [Candid, run_liftM_program, Program.ensures_map]
  refine Program.Ensures.mono hx fun es a h => ?_
  have hnone := messages_eq_nil h
  rw [faultsTold, changesTold, hnone]
  exact ⟨rfl, rfl⟩

theorem candid_log (hfault : message.fault? = none) (hchange : message.change? = none) :
    Candid (liftM (Program.log message) : PhyM Unit) := by
  rw [Candid, run_liftM_program, Program.ensures_map]
  exact fun _ => told_logged hfault hchange

theorem candid_giveUp {f : Fault} (hfault : message.fault? = some f) (hf : f.isGivingUp = true) :
    Candid (do Program.log message; throw f : PhyM α) := by
  intro answer
  obtain ⟨hfaults, hchanges⟩ := told_warning hfault
  refine ⟨hfaults.trans ?_, hchanges⟩
  show [f] = givenUp (.error f)
  rw [givenUp, hf]
  rfl

end PhyM

namespace RecordM

variable {α β : Type} {x : RecordM α} {message : Message}

/-- The messages of an operation tell how it went, from every record. -/
def Candid (x : RecordM α) : Prop := ∀ r, (x.runOn r).Ensures (Tells r)

theorem candid_pure {a : α} : Candid (pure a : RecordM α) := fun _ => ⟨rfl, .nil _⟩

theorem candid_get : Candid (get : RecordM PhyRecord) := fun _ => ⟨rfl, .nil _⟩

theorem candid_modify {g : PhyRecord → PhyRecord} (h : ∀ r, (g r).reported = r.reported) :
    Candid (modify g : RecordM Unit) := by
  intro r
  refine ⟨rfl, ?_⟩
  show Toggles r.reported [] (g r).reported
  rw [h r]
  exact .nil _

theorem candid_bind {f : α → RecordM β} (hx : Candid x) (hf : ∀ a, Candid (f a)) :
    Candid (x >>= f) := by
  intro r
  refine ensures_bind (hx r) (fun es a r' h => ?_) fun es e r' h => ⟨h.faults, h.changes⟩
  refine (hf a r').mono fun es' out h' => ⟨?_, ?_⟩
  · rw [faultsTold_append, h.faults, h'.faults]
    rfl
  · rw [changesTold_append]
    exact h.changes.append h'.changes

theorem candid_phy {x : PhyM α} (hx : PhyM.Candid x) : Candid (liftM x : RecordM α) := by
  intro r
  rw [runOn_liftM_phy, Program.ensures_map]
  refine Program.Ensures.mono hx fun es result h => ⟨h.1, ?_⟩
  rw [h.2]
  exact .nil _

theorem candid_here {x : PhyRecord → PhyM α} {f : α → β} (hx : ∀ r, PhyM.Candid (x r)) :
    Candid (do return f (← x (← get)) : RecordM β) :=
  candid_bind candid_get fun r => candid_bind (candid_phy (hx r)) fun _ => candid_pure

theorem candid_program {x : Program α} (hx : x.Asks Request.Silent) :
    Candid (liftM x : RecordM α) := by
  intro r
  rw [runOn_liftM_program, Program.ensures_map]
  refine Program.Ensures.mono hx fun es a h => ?_
  have hnone := messages_eq_nil h
  refine ⟨?_, ?_⟩
  · rw [faultsTold, hnone]
    rfl
  · rw [changesTold, hnone]
    exact .nil _

theorem candid_read {phy : PhyAddress} {reg : RegAddress} :
    Candid (liftM (BusM.read phy reg) : RecordM Word) := by
  intro r
  rw [runOn_liftM_bus, BusM.run_read, Program.map_ask]
  rintro (c | v)
  · exact ⟨rfl, .nil _⟩
  · exact ⟨rfl, .nil _⟩

theorem candid_bus {x : BusM α} (hx : x.run.Asks Request.Silent) :
    Candid (liftM x : RecordM α) :=
  candid_phy (PhyM.candid_bus hx)

theorem candid_sleep {ms : UInt32} : Candid (liftM (Program.sleep ms) : RecordM Unit) :=
  candid_program (.ask rfl fun _ => .done)

theorem candid_log (hfault : message.fault? = none) (hchange : message.change? = none) :
    Candid (liftM (Program.log message) : RecordM Unit) := by
  intro r
  rw [runOn_liftM_program, Program.ensures_map]
  intro answer
  obtain ⟨hfaults, hchanges⟩ := told_logged hfault hchange
  refine ⟨hfaults, ?_⟩
  show Toggles r.reported (changesTold [logged message]) r.reported
  rw [hchanges]
  exact .nil _

/-- A warning, and then the fault of which it warns; the record may change before that. -/
theorem candid_giveUp {f : Fault} (hfault : message.fault? = some f) (hf : f.isGivingUp = true)
    (hx : ∀ r, ∃ r', x.runOn r = .done (.error f, r') ∧ r'.reported = r.reported) :
    Candid (do Program.log message; x) := by
  intro r
  obtain ⟨r', hrun, hreported⟩ := hx r
  obtain ⟨hfaults, hchanges⟩ := told_warning hfault
  rw [ensures_log_bind, hrun]
  refine ⟨hfaults.trans ?_, ?_⟩
  · show [f] = givenUp (.error f)
    rw [givenUp, hf]
    rfl
  · show Toggles r.reported (changesTold [logged message]) r'.reported
    rw [hchanges, hreported]
    exact .nil _

theorem lookOut_candid {interval : UInt32} {phy : PhyAddress} {reg : RegAddress}
    {test : Word → Bool} {found : Word → RecordM Unit} {ranOut : RecordM Unit} {looks : Nat}
    (hfound : ∀ v, Candid (found v)) (hout : Candid ranOut) :
    Candid (lookOut interval phy reg test found ranOut looks) := by
  induction looks with
  | zero => exact hout
  | succ looks ih =>
    refine candid_bind candid_sleep fun _ => candid_bind candid_read fun value => ?_
    split
    · exact hfound value
    · exact ih

end RecordM

/-! ### Procedures that are candid -/

theorem BusM.silent_withinPage {α : Type} {phy : PhyAddress} {page : Word} {body : BusM α}
    (h : body.run.Asks Request.Silent) : (withinPage phy page body).run.Asks Request.Silent :=
  asks_withinPage (fun _ => rfl) h

theorem BusM.silent_modify {phy : PhyAddress} {reg : RegAddress} {clear set : Word} :
    (BusM.modify phy reg clear set).run.Asks Request.Silent :=
  asks_modify rfl fun _ => rfl

namespace Clause22

section

open PhyM

variable {phy : PhyAddress}

theorem linkIsUp_candid : Candid (linkIsUp phy) :=
  candid_bind candid_read fun _ => candid_bind candid_read fun _ => candid_pure

theorem negotiationIsComplete_candid : Candid (negotiationIsComplete phy) :=
  candid_bind candid_read fun _ => candid_pure

theorem negotiate_candid : Candid (negotiate phy) := by
  have hable : Candid (requireAbility phy) := by
    refine candid_bind candid_read fun status => ?_
    split
    · exact candid_pure
    · exact candid_giveUp rfl rfl
  rw [negotiate_eq]
  refine candid_bind hable fun _ => candid_bind (candid_bus BusM.silent_modify) fun _ => ?_
  exact candid_bind (candid_bus BusM.silent_modify) fun _ => candid_bus BusM.silent_modify

theorem forceMode_candid {mode : LinkMode} : Candid (forceMode phy mode) :=
  candid_bind candid_read fun _ => candid_bus (.ask rfl fun _ => .done)

theorem identifier_candid : Candid (identifier phy) :=
  candid_bind candid_read fun _ => candid_bind candid_read fun _ => candid_pure

theorem abilities_candid : Candid (abilities phy) := by
  refine candid_bind candid_read fun status => ?_
  split
  · exact candid_bind candid_read fun _ => candid_pure
  · exact candid_pure

theorem partnerAbilities_candid : Candid (partnerAbilities phy) :=
  candid_bind candid_read fun _ => candid_bind candid_read fun _ => candid_pure

theorem awaitReset_candid {looks : Nat} : Candid (awaitReset phy looks) := by
  induction looks with
  | zero => exact candid_giveUp rfl rfl
  | succ looks ih =>
    refine candid_bind candid_read fun control => ?_
    split
    · exact candid_bind (candid_program (.ask rfl fun _ => .done)) fun _ => ih
    · exact candid_pure

theorem reset_candid {polls : UInt32} : Candid (reset phy polls) :=
  candid_bind (candid_bus (.ask rfl fun _ => .done)) fun _ => awaitReset_candid

end

section

open RecordM

theorem trackLink_candid {timeout : UInt32} : Candid (trackLink timeout) := by
  refine candid_bind candid_get fun record => candid_bind candid_read fun status => ?_
  split
  · exact candid_pure
  split
  · exact candid_bind candid_read fun _ => candid_modify fun _ => rfl
  · refine candid_bind (candid_log rfl rfl) fun _ => ?_
    rw [awaitNegotiation_eq_lookOut]
    refine lookOut_candid (fun _ => candid_modify fun _ => rfl) ?_
    exact candid_giveUp rfl rfl fun r => ⟨_, rfl, rfl⟩

theorem discover_candid : Candid discover := by
  have hsweep : (sweep PhyAddress.all).Asks Request.Silent :=
    (sweep_ensures_swept _).mono fun _ _ h e he => by
      obtain ⟨phy, -, hq | hq⟩ := h.seeks e he
      · rw [hq]
        rfl
      · rw [hq]
        rfl
  refine candid_bind (candid_program hsweep) fun found => ?_
  cases found with
  | none => exact candid_giveUp rfl rfl fun r => ⟨_, rfl, rfl⟩
  | some found =>
    exact candid_bind (candid_modify fun _ => rfl) fun _ => candid_log rfl rfl

end

end Clause22

namespace Transceiver

section

open PhyM

variable {phy : PhyAddress}

theorem configure_candid {settings : Settings} : Candid (configure settings phy) := by
  have hset : ∀ {α : Type} (setting : Option α) {act : α → BusM Unit},
      (∀ value, (act value).run.Asks Request.Silent) →
      Candid (liftM (whenSet setting act) : PhyM Unit) := by
    intro α setting act h
    cases setting with
    | none => exact candid_bus .done
    | some value => exact candid_bus (h value)
  refine candid_bind (candid_bus (BusM.silent_withinPage (Program.asks_run_bind BusM.silent_modify
    fun _ => BusM.silent_modify))) fun _ => ?_
  refine candid_bind (candid_log rfl rfl) fun _ => ?_
  refine candid_bind (hset _ fun _ => BusM.silent_withinPage (.ask rfl fun _ => .done)) fun _ => ?_
  refine candid_bind (hset _ fun _ => BusM.silent_withinPage BusM.silent_modify) fun _ => ?_
  refine candid_bind (hset _ fun _ => BusM.silent_withinPage BusM.silent_modify) fun _ => ?_
  exact Clause22.negotiate_candid

theorem applySettings_candid {settings : Settings} : Candid (applySettings settings phy) := by
  rw [Candid, run_applySettings]
  exact fun _ => configure_candid

theorem resolvedMode_candid : Candid (resolvedMode phy) :=
  candid_bind candid_read fun _ => candid_pure

theorem linkMode_candid : Candid (linkMode phy) := by
  refine candid_bind Clause22.linkIsUp_candid fun up => ?_
  split
  · exact resolvedMode_candid
  · exact candid_pure

theorem liveMode_candid : Candid (liveMode phy) :=
  candid_bind (candid_bus (BusM.silent_withinPage (.ask rfl fun _ => .done))) fun _ => candid_pure

/-- A line that does not take a level is a fault without a warning. -/
theorem ResetPin.perform_candid (o : ResetPin.Operation) : Candid o.perform := by
  have hdrive : ∀ level, Candid (ResetPin.drive level) := by
    refine fun level => candid_bind (candid_program (.ask rfl fun _ => .done)) fun took => ?_
    split
    · exact candid_pure
    · exact candid_throw rfl
  have hwait : ∀ time, Candid (liftM (Program.wait time) : PhyM Unit) :=
    fun _ => candid_program (.ask rfl fun _ => .done)
  cases o with
  | hold => exact hdrive .low
  | release => exact hdrive .high
  | pulse =>
    exact candid_bind (hdrive .low) fun _ => candid_bind (hwait _) fun _ =>
      candid_bind (hdrive .high) fun _ => hwait _

end

section

open RecordM

/-- **A look tells the change that it finds**: what it saw is another state than the caller was told
last. -/
theorem newLink_candid : Candid newLink := by
  refine candid_bind candid_get fun r => candid_bind (candid_phy linkMode_candid) fun mode r => ?_
  simp only [runOn_bind, runOn_modify, runOn_modifyGet, Program.done_bind, takeChange_observe]
  cases hr : r.reported with
  | down =>
    cases mode with
    | none => exact ⟨rfl, hr ▸ .nil _⟩
    | some mode => exact fun _ => ⟨rfl, hr ▸ .cons (by decide) (.nil _)⟩
  | up =>
    cases mode with
    | none => exact fun _ => ⟨rfl, hr ▸ .cons (by decide) (.nil _)⟩
    | some mode => exact ⟨rfl, hr ▸ .nil _⟩

theorem awaitNewLinkWithin_candid {looks : Nat} : Candid (awaitNewLinkWithin looks) := by
  induction looks with
  | zero => exact candid_pure
  | succ looks ih =>
    refine candid_bind newLink_candid fun mode => ?_
    split
    · exact candid_pure
    · exact candid_bind candid_sleep fun _ => ih

theorem settle_candid {phy : PhyAddress} {status : Word} : Candid (settle phy status) :=
  candid_bind (candid_modify fun _ => rfl) fun _ => candid_log rfl rfl

theorem awaitSpeed_candid {settings : Settings} : Candid (awaitSpeed settings) := by
  refine candid_bind candid_get fun r => candid_bind candid_read fun status => ?_
  split
  · exact candid_bind (candid_modify fun _ => rfl) fun _ => settle_candid
  · refine candid_bind (candid_log rfl rfl) fun _ => ?_
    rw [awaitResolution_eq_lookOut]
    refine lookOut_candid (fun status => ?_) ?_
    · exact candid_bind (candid_modify fun _ => rfl) fun _ =>
        candid_bind candid_sleep fun _ => settle_candid
    · exact candid_giveUp rfl rfl fun r => ⟨_, rfl, rfl⟩

theorem refreshMode_candid : Candid refreshMode := by
  refine candid_bind candid_get fun r => candid_bind (candid_phy resolvedMode_candid) fun mode => ?_
  split
  · exact candid_modify fun _ => rfl
  · exact candid_pure

theorem refresh_candid (settings : Settings) : Candid (refresh settings) := by
  refine candid_bind Clause22.trackLink_candid fun _ => candid_bind candid_get fun r => ?_
  split
  · exact candid_bind awaitSpeed_candid fun _ => candid_bind candid_get fun _ => candid_pure
  · exact candid_bind refreshMode_candid fun _ => candid_bind candid_get fun _ => candid_pure

end

open RecordM

/-! ### The wait that the result hides -/

section

variable {σ : Type} (m : Machine σ) (settings : Settings)

/-- One of the waits of `settledState` runs out: that for the negotiation, or that for the speed,
which begins where the first one has ended if the link is up. -/
def WaitRanOut (r : PhyRecord) (s : σ) : Prop :=
  let track := ((Clause22.trackLink settings.negotiationTimeout).runOn r).run m s
  track.result.1 = .error .timeout ∨
    track.result.1 = .ok () ∧ track.result.2.current = .up ∧
      (((awaitSpeed settings).runOn track.result.2).run m track.final).result.1 = .error .timeout

theorem run_current_error {x : RecordM Unit} (r : PhyRecord) (s : σ) {e : Fault} :
    (((do x; return (← get).current : RecordM LinkState).runOn r).run m s).result.1 = .error e ↔
      ((x.runOn r).run m s).result.1 = .error e := by
  rw [runOn_bind, Program.run_bind]
  obtain ⟨⟨e' | ⟨⟩, r'⟩, es, s'⟩ := (x.runOn r).run m s
  · simp
  · simp [Except.map]

/-- The waits of `settledState` are those of `refresh`, whose timeout is that of one of them. -/
theorem refresh_timeout_iff (r : PhyRecord) (s : σ) :
    (((refresh settings).runOn r).run m s).result.1 = .error .timeout ↔ WaitRanOut m settings r s := by
  rw [WaitRanOut, refresh, runOn_bind, Program.run_bind]
  generalize ((Clause22.trackLink settings.negotiationTimeout).runOn r).run m s = track
  obtain ⟨⟨e | ⟨⟩, r'⟩, es, s'⟩ := track
  · simp
  · simp only [reduceCtorEq, false_or, true_and]
    rw [runOn_get_bind]
    cases hc : r'.current with
    | up => exact (run_current_error m r' s').trans (by simp)
    | down =>
      refine (run_current_error m r' s').trans ?_
      -- Without a link there is nothing to wait for.
      obtain ⟨c, -, hout⟩ | ⟨v, -, hout⟩ := (refreshMode_ensures r').run m s'
      · rw [hout]
        simp
      · rw [hout]
        simp

theorem run_settledState_events (r : PhyRecord) (s : σ) :
    (((settledState settings).runOn r).run m s).events =
      (((refresh settings).runOn r).run m s).events := by
  rw [settledState, runOn_tryCatch, Program.run_bind]
  obtain ⟨⟨⟨_ | _⟩ | result, r'⟩, es, s'⟩ := ((refresh settings).runOn r).run m s <;> simp

/-- **A wait that has run out is told though the result hides it.** -/
theorem settledState_told (r : PhyRecord) (s : σ) :
    let out := ((settledState settings).runOn r).run m s
    (WaitRanOut m settings r s → out.result.1 = .ok .down ∧ faultsTold out.events = [.timeout]) ∧
      (¬WaitRanOut m settings r s → faultsTold out.events = givenUp out.result.1) ∧
      Toggles r.reported (changesTold out.events) out.result.2.reported := by
  have htells := (refresh_candid settings r).run m s
  simp only [run_settledState, run_settledState_events]
  rw [← refresh_timeout_iff]
  generalize ((refresh settings).runOn r).run m s = out at htells
  obtain ⟨⟨result, r'⟩, es, s'⟩ := out
  refine ⟨fun hout => ?_, fun hout => ?_, htells.changes⟩
  · obtain rfl : result = .error .timeout := hout
    exact ⟨rfl, htells.faults⟩
  · refine htells.faults.trans ?_
    obtain (_ | _) | state := result
    all_goals first | rfl | exact absurd rfl hout

end

/-! ### One action -/

/-- All operations but two are candid; a bring-up begins with a new record, and `settledState` turns a
timeout into a state. -/
theorem Operation.candid (settings : Settings) {o : Operation} (hup : o ≠ .bringUp)
    (hstate : o ≠ .settledState) : Candid (o.perform settings) := by
  cases o with
  | bringUp => exact absurd rfl hup
  | settledState => exact absurd rfl hstate
  | address => exact candid_bind candid_get fun _ => candid_pure
  | negotiated => exact candid_bind candid_get fun _ => candid_pure
  | reset =>
    exact candid_bind (candid_bind candid_get fun _ => candid_phy Clause22.reset_candid) fun _ =>
      candid_pure
  | applySettings => exact candid_here fun _ => applySettings_candid
  | closePage =>
    refine candid_bind candid_get fun r => candid_bind (candid_bus (.ask rfl fun _ => .done)) ?_
    exact fun _ => candid_pure
  | linkIsUp => exact candid_here fun _ => Clause22.linkIsUp_candid
  | linkMode => exact candid_here fun _ => linkMode_candid
  | newLink => exact candid_bind newLink_candid fun _ => candid_pure
  | awaitNewLink timeout => exact candid_bind awaitNewLinkWithin_candid fun _ => candid_pure
  | awaitSpeed => exact candid_bind awaitSpeed_candid fun _ => candid_pure
  | resolvedMode => exact candid_here fun _ => resolvedMode_candid
  | liveMode => exact candid_here fun _ => liveMode_candid
  | negotiate => exact candid_here fun _ => Clause22.negotiate_candid
  | negotiationIsComplete => exact candid_here fun _ => Clause22.negotiationIsComplete_candid
  | forceMode mode => exact candid_here fun _ => Clause22.forceMode_candid
  | abilities => exact candid_here fun _ => Clause22.abilities_candid
  | partnerAbilities => exact candid_here fun _ => Clause22.partnerAbilities_candid
  | identifier => exact candid_here fun _ => Clause22.identifier_candid
  | isKnown => exact candid_here fun _ => Clause22.identifier_candid
  | unmaskLinkInterrupt =>
    exact candid_here fun _ => PhyM.candid_bus (BusM.silent_withinPage BusM.silent_modify)
  | maskInterrupts =>
    exact candid_here fun _ =>
      PhyM.candid_bus (BusM.silent_withinPage (.ask rfl fun _ => .done))
  | pendingInterrupts =>
    exact candid_here fun _ =>
      PhyM.candid_bus (BusM.silent_withinPage (.ask rfl fun _ => .done))

/-- The messages of a bring-up tell how it went with the new record. -/
theorem bringUp_tells (settings : Settings) (r : PhyRecord) :
    ((bringUp settings).runOn r).Ensures (Tells {}) := by
  rw [bringUp, runOn_bind, runOn_set, Program.done_bind]
  refine candid_bind Clause22.discover_candid (fun _ => ?_) {}
  refine candid_bind (candid_bind candid_get fun _ => candid_phy Clause22.reset_candid) fun _ => ?_
  exact candid_bind candid_get fun _ => candid_bind (candid_phy applySettings_candid) fun _ =>
    candid_log rfl rfl

theorem run_return {α β σ : Type} {x : RecordM α} {f : α → β} (m : Machine σ) (r : PhyRecord)
    (s : σ) :
    let out := (x.runOn r).run m s
    ((do return f (← x) : RecordM β).runOn r).run m s =
      ⟨(out.result.1.map f, out.result.2), out.events, out.final⟩ := by
  rw [runOn_bind, Program.run_bind]
  obtain ⟨⟨e | a, r'⟩, es, s'⟩ := (x.runOn r).run m s
  · simp [Except.map]
  · simp [Except.map]

section

variable {σ : Type} (m : Machine σ) (settings : Settings)

/-- What an action from a record does on a machine. -/
def Action.outcome (a : Action) (r : PhyRecord) (s : σ) :
    Outcome σ (Except Fault Answer × PhyRecord) :=
  ((a.perform settings).runOn r).run m s

/-- A wait has run out that the result of an action hides. -/
def Action.HidesTimeout (a : Action) (r : PhyRecord) (s : σ) : Prop :=
  a = .operate .settledState ∧ WaitRanOut m settings r s

/-- The warnings of an action:

* `gaveUp` : if it gives up, there is one, and it stands for the fault;
* `hidden` : if it answers that the link is down because a wait has run out, there is one for that;
* `silent` : otherwise there is none. -/
structure Action.Warns (a : Action) (r : PhyRecord) (s : σ) : Prop where
  gaveUp : ∀ f, (a.outcome m settings r s).result.1 = .error f → f.isGivingUp = true →
    ∃ w : Message, warnings (a.outcome m settings r s).events = [w] ∧ w.fault? = some f
  hidden : a.HidesTimeout m settings r s →
    (a.outcome m settings r s).result.1 = .ok (.state .down) ∧
      ∃ w : Message, warnings (a.outcome m settings r s).events = [w] ∧ w.fault? = some .timeout
  silent : (∀ f, (a.outcome m settings r s).result.1 = .error f → f.isGivingUp = false) →
    ¬a.HidesTimeout m settings r s → warnings (a.outcome m settings r s).events = []

variable {m settings}

theorem Action.warns_of_told {a : Action} {r : PhyRecord} {s : σ}
    (hhidden : a.HidesTimeout m settings r s →
      (a.outcome m settings r s).result.1 = .ok (.state .down) ∧
        faultsTold (a.outcome m settings r s).events = [.timeout])
    (htold : ¬a.HidesTimeout m settings r s → faultsTold (a.outcome m settings r s).events =
      givenUp (a.outcome m settings r s).result.1) : a.Warns m settings r s where
  gaveUp f hf hgiven := by
    have hnot : ¬a.HidesTimeout m settings r s := fun h => by
      rw [(hhidden h).1] at hf
      cases hf
    refine warnings_of_faultsTold ?_
    rw [htold hnot, hf, givenUp, hgiven]
    rfl
  hidden h := ⟨(hhidden h).1, warnings_of_faultsTold (hhidden h).2⟩
  silent hnone hnot := by
    refine warnings_eq_nil ?_
    rw [htold hnot]
    cases hresult : (a.outcome m settings r s).result.1 with
    | ok answer => rfl
    | error f =>
      rw [givenUp, hnone f hresult]
      rfl

/-- What the messages of an action tell that is neither a bring-up nor hides anything. -/
theorem Action.tells {a : Action} (hup : a ≠ .operate .bringUp) (hstate : a ≠ .operate .settledState)
    (r : PhyRecord) (s : σ) :
    Tells r (a.outcome m settings r s).events (a.outcome m settings r s).result := by
  have hcandid : Candid (a.perform settings) := by
    cases a with
    | resetPin o => exact candid_bind (candid_phy (ResetPin.perform_candid o)) fun _ => candid_pure
    | operate o =>
      exact Operation.candid settings (fun h => hup (congrArg _ h)) fun h => hstate (congrArg _ h)
  exact (hcandid r).run m s

theorem outcome_settledState (r : PhyRecord) (s : σ) :
    let out := ((settledState settings).runOn r).run m s
    (Action.operate .settledState).outcome m settings r s =
      ⟨(out.result.1.map .state, out.result.2), out.events, out.final⟩ :=
  run_return m r s

theorem outcome_bringUp (r : PhyRecord) (s : σ) :
    let out := ((bringUp settings).runOn r).run m s
    (Action.operate .bringUp).outcome m settings r s =
      ⟨(out.result.1.map fun _ => .done, out.result.2), out.events, out.final⟩ :=
  run_return m r s

theorem givenUp_map {α β : Type} (f : α → β) (result : Except Fault α) :
    givenUp (result.map f) = givenUp result := by
  cases result <;> rfl

/-- **Each action warns if it gives up or hides that a wait has run out, and not otherwise.** -/
theorem Action.warns (a : Action) (r : PhyRecord) (s : σ) : a.Warns m settings r s := by
  by_cases hstate : a = .operate .settledState
  · subst hstate
    obtain ⟨hhidden, htold, -⟩ := settledState_told m settings r s
    refine warns_of_told (fun h => ?_) fun h => ?_
    · rw [outcome_settledState]
      obtain ⟨hdown, hfault⟩ := hhidden h.2
      exact ⟨congrArg (Except.map _) hdown, hfault⟩
    · rw [outcome_settledState, givenUp_map]
      exact htold fun hout => h ⟨rfl, hout⟩
  refine warns_of_told (fun h => absurd h.1 hstate) fun _ => ?_
  by_cases hup : a = .operate .bringUp
  · subst hup
    rw [outcome_bringUp, givenUp_map]
    exact ((bringUp_tells settings r).run m s).faults
  · exact (Action.tells hup hstate r s).faults

/-- The changes of the link that an action tells lead from what the caller was told last to what the
caller is told afterwards. -/
theorem Action.toggles {a : Action} (hup : a ≠ .operate .bringUp) (r : PhyRecord) (s : σ) :
    Toggles r.reported (changesTold (a.outcome m settings r s).events)
      (a.outcome m settings r s).result.2.reported := by
  by_cases hstate : a = .operate .settledState
  · subst hstate
    rw [outcome_settledState]
    exact (settledState_told m settings r s).2.2
  · exact (Action.tells hup hstate r s).changes

/-! ### The speed -/

theorem infos_rounds {interval : UInt32} {phy : PhyAddress} {reg : RegAddress} {values : List Word}
    (es : List Event) : infos (rounds interval phy reg values ++ es) = infos es := by
  have hnone : messages (rounds interval phy reg values) = [] := messages_eq_nil fun e he => by
    obtain ⟨v, -, rfl | rfl⟩ := mem_rounds.1 he
    · rfl
    · rfl
  rw [infos, infos, messages, List.filterMap_append]
  rw [messages] at hnone
  rw [hnone]
  rfl

/-- **A wait for the speed logs the mode that it leaves in the record if it succeeds**, and nothing
of the kind if it fails. -/
theorem awaitSpeed_infos (settings : Settings) (r : PhyRecord) :
    ((awaitSpeed settings).runOn r).Ensures fun es out =>
      (out.1 = .ok () → ∃ mode, out.2.negotiated = some mode ∧
        infos es = [.resolved r.address mode]) ∧
      ∀ e, out.1 = .error e → infos es = [] := by
  refine (awaitSpeed_ensures settings r).mono fun es out h => ?_
  have hround : ∀ {v : Word} {values : List Word} {es : List Event},
      infos (got r.address Register.physr v :: logged (.awaitingSpeed r.address) ::
        (rounds Timing.speedInterval r.address Register.physr values ++ es)) = infos es :=
    fun {_ _ es} => infos_rounds es
  cases h with
  | lost c => exact ⟨nofun, fun _ _ => rfl⟩
  | resolved v hv => exact ⟨fun _ => ⟨_, rfl, rfl⟩, nofun⟩
  | waitLost v values c hv hlen => exact ⟨nofun, fun _ _ => hround.trans rfl⟩
  | waited v values w hv hlen hw => exact ⟨fun _ => ⟨_, rfl, hround.trans rfl⟩, nofun⟩
  | ranOut v values hv hlen => exact ⟨nofun, fun _ _ => hround.trans rfl⟩

/-! ### Whole runs -/

/-- All events of a session, in order. -/
def Session.events (s : Session σ) : List Event := s.deeds.flatMap Deed.events

variable (m settings)

theorem Session.toggles_act {a : Action} (hup : a ≠ .operate .bringUp) {told : LinkState}
    {s : Session σ} (h : Toggles told (changesTold s.events) s.record.reported) :
    Toggles told (changesTold (s.act m settings a).events)
      (s.act m settings a).record.reported := by
  have hevents : (s.act m settings a).events =
      s.events ++ (a.outcome m settings s.record s.state).events := by
    simp [events, act, Action.outcome]
  rw [hevents, changesTold_append]
  exact h.append (Action.toggles hup s.record s.state)

/-- **The changes that are told in a run lead from what the caller was told before it to what the
caller is told after it.** -/
theorem Session.toggles_acts {actions : List Action} (hup : .operate .bringUp ∉ actions)
    {told : LinkState} {s : Session σ}
    (h : Toggles told (changesTold s.events) s.record.reported) :
    Toggles told (changesTold (s.acts m settings actions).events)
      (s.acts m settings actions).record.reported := by
  induction actions generalizing s with
  | nil => exact h
  | cons a rest ih =>
    obtain ⟨hfirst, hrest⟩ := not_or.1 fun h => hup (List.mem_cons.2 h)
    exact ih hrest (Session.toggles_act m settings (Ne.symm hfirst) h)

/-- **The messages tell what the results hide.**  Each action, from every record and on every machine,
warns once if it gives up, and `settledState` also if it answers that the link is down because a wait
has run out; otherwise there is no warning.  A wait for the speed logs the mode if and only if it
succeeds, and it is the mode in the record.  In a run from a new record or after a bring-up, the link
is logged to go up and down in turn, first up. -/
theorem messages_tell :
    (∀ (a : Action) (r : PhyRecord) (s : σ), a.Warns m settings r s) ∧
      (∀ (r : PhyRecord) (s : σ),
        let out := ((awaitSpeed settings).runOn r).run m s
        (out.result.1 = .ok () → ∃ mode, out.result.2.negotiated = some mode ∧
          infos out.events = [.resolved r.address mode]) ∧
        ∀ e, out.result.1 = .error e → infos out.events = []) ∧
      ∀ (r : PhyRecord) (s : σ), Started m settings r s →
        ∀ actions : List Action, .operate .bringUp ∉ actions →
          let run := Session.acts m settings { record := r, state := s } actions
          (.down :: changesTold run.events).IsChain (· ≠ ·) := by
  refine ⟨fun a r s => a.warns r s, fun r s => (awaitSpeed_infos settings r).run m s,
    fun r s hstarted actions hup => ?_⟩
  rw [← hstarted.reported_eq]
  exact (Session.toggles_acts m settings hup (s := { record := r, state := s }) (.nil _)).isChain

/-- A link comes, goes and comes again; then a wait runs out, which only the warning tells from a link
that goes. -/
theorem messages_tell_flickering :
    let m := SimulatedBus.bus.machine
    let up : Word := Bmsr.linkStatus ||| Bmsr.anComplete
    let s : Board SimulatedBus :=
      { bus := ((SimulatedBus.apply {} 0 .powerUp).apply 0 .linkUpGigabitFull).apply 0
          (.queue Register.bmsr [up, up, 0, 0, up, up, 0, 0, 0]) }
    let actions : List Action :=
      [.operate .newLink, .operate .newLink, .operate .newLink, .operate .settledState]
    let run := Session.acts m { negotiationTimeout := 100 } { state := s } actions
    (Started m { negotiationTimeout := 100 } {} s ∧ .operate .bringUp ∉ actions ∧
      changesTold run.events = [.up, .down, .up] ∧
      warnings run.events = [.negotiationTimedOut 0] ∧ run.record.current = .down) ∧
      (.down :: changesTold run.events).IsChain (· ≠ ·) :=
  ⟨⟨.new _, by decide, by decide +kernel, by decide +kernel, by decide +kernel⟩,
    (messages_tell _ _).2.2 _ _ (.new _) _ (by decide)⟩

end

end Transceiver

end EthernetPhy
