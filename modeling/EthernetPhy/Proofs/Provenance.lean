import EthernetPhy.Proofs.LinkEdges
import Mathlib.Data.List.DropRight

/-!
# Where the mode in the record comes from

Four operations write the mode that the record holds, by three different ways through the code, with
unresolved status words, waits that run out and failed frames in between.  Still the mode is
determined by what was read: it is that of the last resolved status word that one of these operations
has read since the last bring-up.

* `resolvedWords` : the resolved status words among what some events have read;
* `RecordM.TakesOver` : an operation takes over the last of them, whatever else comes of it;
* `Session.decodedWords` : the words that count, read off what has been done;
* `negotiated_eq_decoded` : **the mode in the record is that of the last word that counts.**
-/

namespace EthernetPhy

open Event RecordM

/-! ### Resolved status words -/

/-- The resolved status word that an event has read, if it has. -/
def Event.resolvedWord? : Event → Option Word
  | ⟨.read _ reg, .ok v⟩ => if reg = Register.physr ∧ Physr.isResolved v then some v else none
  | ⟨.read .., .error _⟩ | ⟨.write .., _⟩ | ⟨.delay _, _⟩ | ⟨.drive _, _⟩ | ⟨.log _, _⟩ => none

/-- The resolved status words that some events have read, in order. -/
def resolvedWords (es : List Event) : List Word := es.filterMap Event.resolvedWord?

/-- The mode in the last of some status words. -/
def lastMode (words : List Word) : Option LinkMode := words.getLast?.map Physr.mode

section

variable {e : Event} {es es' : List Event} {words words' : List Word}

@[simp] theorem resolvedWords_nil : resolvedWords [] = [] := rfl

@[simp] theorem resolvedWords_cons :
    resolvedWords (e :: es) = e.resolvedWord?.toList ++ resolvedWords es := by
  rw [resolvedWords, List.filterMap_cons]
  cases e.resolvedWord? <;> rfl

@[simp] theorem resolvedWords_append :
    resolvedWords (es ++ es') = resolvedWords es ++ resolvedWords es' :=
  List.filterMap_append

theorem resolvedWords_eq_nil (h : ∀ e ∈ es, ∀ phy, e.request ≠ .read phy Register.physr) :
    resolvedWords es = [] := by
  rw [resolvedWords, List.filterMap_eq_nil_iff]
  rintro ⟨q, answer⟩ he
  cases q with
  | read phy reg =>
    have hreg : reg ≠ Register.physr := fun hreg => h _ he phy (by rw [hreg])
    cases answer <;> simp [resolvedWord?, hreg]
  | _ => rfl

theorem resolvedWords_rounds {interval : UInt32} {phy : PhyAddress} {values : List Word}
    (h : ∀ v ∈ values, Physr.isResolved v = false) :
    resolvedWords (rounds interval phy Register.physr values) = [] := by
  rw [resolvedWords, List.filterMap_eq_nil_iff]
  intro e he
  obtain ⟨v, hv, rfl | rfl⟩ := mem_rounds.1 he
  · rfl
  · simp [resolvedWord?, h v hv]

theorem lastMode_append : lastMode (words ++ words') = (lastMode words' <|> lastMode words) := by
  rw [lastMode, List.getLast?_append]
  cases h : words'.getLast? <;> simp [lastMode, h]

end

/-! ### Operations that take over what they read -/

namespace RecordM

variable {α β : Type}

/-- However its requests are answered, `x` leaves in the record the mode of the last resolved status
word that it has read, and the mode that was there if it has read none. -/
def TakesOver (x : RecordM α) : Prop :=
  ∀ r, (x.runOn r).Ensures fun es out =>
    out.2.negotiated = (lastMode (resolvedWords es) <|> r.negotiated)

theorem takesOver_pure {a : α} : TakesOver (pure a : RecordM α) := fun _ => rfl

theorem takesOver_bind {x : RecordM α} {f : α → RecordM β} (hx : TakesOver x)
    (hf : ∀ a, TakesOver (f a)) : TakesOver (x >>= f) := by
  intro r
  refine ensures_bind (hx r) (fun es a r' h => ?_) (fun es e r' h => h)
  refine (hf a r').mono fun es' out h' => ?_
  have hassoc : ∀ o o' o'' : Option LinkMode, (o <|> (o' <|> o'')) = ((o <|> o') <|> o'') := by
    intro o o' o''
    cases o <;> rfl
  rw [h', h, resolvedWords_append, lastMode_append, hassoc]

theorem takesOver_sleep {duration : UInt32} :
    TakesOver (liftM (Program.sleep duration) : RecordM Unit) := by
  intro r
  rw [runOn_liftM_program]
  exact fun _ => rfl

end RecordM

theorem Clause22.LinkTracked.resolvedWords_eq {timeout : UInt32} {r : PhyRecord} {es : List Event}
    {out : Except Fault Unit × PhyRecord} (h : LinkTracked timeout r es out) :
    resolvedWords es = [] := by
  refine resolvedWords_eq_nil fun e he phy hq => ?_
  have hread := h.request_eq e he (by rw [hq]; rfl)
  rw [hq] at hread
  exact absurd (Request.read.inj hread).2 (by decide)

namespace Transceiver

section

variable {settings : Settings} {r : PhyRecord} {es : List Event}

/-- Of all the words that a wait for the speed reads only the last can be resolved, and that one is
taken over. -/
theorem SpeedAwaited.negotiated_eq {out : Except Fault Unit × PhyRecord}
    (h : SpeedAwaited settings r es out) :
    out.2.negotiated = (lastMode (resolvedWords es) <|> r.negotiated) := by
  cases h with
  | lost c => rfl
  | resolved v hv => simp [resolvedWord?, lastMode, hv]
  | waitLost v values c hv hlen =>
    obtain ⟨hfirst, hrest⟩ := List.forall_mem_cons.1 hv
    simp [resolvedWord?, lastMode, hfirst, resolvedWords_rounds hrest]
  | waited v values w hv hlen hw =>
    obtain ⟨hfirst, hrest⟩ := List.forall_mem_cons.1 hv
    simp [resolvedWord?, lastMode, hfirst, resolvedWords_rounds hrest, hw]
  | ranOut v values hv hlen =>
    obtain ⟨hfirst, hrest⟩ := List.forall_mem_cons.1 hv
    simp [resolvedWord?, lastMode, hfirst, resolvedWords_rounds hrest]

theorem StateSettled.negotiated_eq {out : Except Fault LinkState × PhyRecord}
    (h : StateSettled settings r es out) :
    out.2.negotiated = (lastMode (resolvedWords es) <|> r.negotiated) := by
  -- Following the negotiation reads no status word, so what comes after it decides.
  have hspeed : ∀ {es es' : List Event} {r' : PhyRecord} {result : Except Fault Unit}
      {track : Except Fault Unit × PhyRecord},
      Clause22.LinkTracked settings.negotiationTimeout r es track →
      SpeedAwaited settings { r with current := .up } es' (result, r') →
      r'.negotiated = (lastMode (resolvedWords (es ++ es')) <|> r.negotiated) := by
    intro es es' r' result track h h'
    rw [resolvedWords_append, h.resolvedWords_eq, List.nil_append]
    exact h'.negotiated_eq
  cases h with
  | trackLost es c h => rw [h.resolvedWords_eq]; rfl
  | trackRanOut es h => rw [h.resolvedWords_eq]; rfl
  | resolved es es' r' h h' => exact hspeed h h'
  | speedLost es es' c h h' => exact hspeed h h'
  | speedRanOut es es' h h' => exact hspeed h h'
  | refreshLost es c h => simp [h.resolvedWords_eq, resolvedWord?, lastMode]
  | refreshed es v h =>
    rw [resolvedWords_append, h.resolvedWords_eq, List.nil_append]
    cases hv : Physr.isResolved v <;> simp [resolvedWord?, lastMode, Physr.mode?, hv]

end

theorem awaitSpeed_takesOver (settings : Settings) : TakesOver (awaitSpeed settings) :=
  fun r => (awaitSpeed_ensures settings r).mono fun _ _ h => h.negotiated_eq

theorem settledState_takesOver (settings : Settings) : TakesOver (settledState settings) :=
  fun r => (settledState_ensures settings r).mono fun _ _ h => h.negotiated_eq

theorem linkIsUp_ensures_resolvedWords (phy : PhyAddress) :
    (Clause22.linkIsUp phy).run.Ensures fun es _ => resolvedWords es = [] := by
  have hstatus : Register.bmsr ≠ Register.physr := by decide
  rw [Clause22.linkIsUp, PhyM.ensures_read_bind]
  refine ⟨fun c => rfl, fun b => ?_⟩
  rw [PhyM.ensures_read_bind]
  exact ⟨fun c => by simp [resolvedWord?, hstatus], fun b' => by simp [resolvedWord?, hstatus]⟩

/-- The mode that a look finds is that of the resolved status word that it has read, if any. -/
theorem linkMode_ensures_lastMode (phy : PhyAddress) :
    (linkMode phy).run.Ensures fun es result =>
      (∀ mode, result = .ok mode → lastMode (resolvedWords es) = mode) ∧
        ∀ e, result = .error e → resolvedWords es = [] := by
  rw [linkMode]
  refine PhyM.ensures_bind (linkIsUp_ensures_resolvedWords phy) (fun es up h => ?_)
    (fun es e h => ⟨fun mode hmode => (by cases hmode), fun _ _ => h⟩)
  cases up with
  | false => exact ⟨fun mode hmode => by rw [List.append_nil, h, ← Except.ok.inj hmode]; rfl,
      fun e he => by cases he⟩
  | true =>
    refine (resolvedMode_ensures phy).mono fun es' result h' => ?_
    rw [resolvedWords_append, h, List.nil_append]
    obtain ⟨c, rfl, rfl⟩ | ⟨v, rfl, rfl⟩ := h'
    · exact ⟨fun mode hmode => (by cases hmode), fun _ _ => rfl⟩
    · refine ⟨fun mode hmode => ?_, fun e he => (by cases he)⟩
      rw [← Except.ok.inj hmode]
      cases hv : Physr.isResolved v <;> simp [resolvedWord?, lastMode, Physr.mode?, hv]

theorem newLink_takesOver : TakesOver newLink := by
  intro r
  rw [newLink, runOn_get_bind]
  refine ensures_liftM_bind (linkMode_ensures_lastMode r.address) (fun es mode h => ?_)
    (fun es e h => by rw [h.2 e rfl]; rfl)
  obtain rfl := h.1 mode rfl
  -- What is left changes the record as the look demands and may log, which reads nothing.
  have hdone : ∀ more, resolvedWords more = [] →
      (lastMode (resolvedWords es) <|> r.negotiated) =
        (lastMode (resolvedWords (es ++ more)) <|> r.negotiated) := by
    intro more hmore
    rw [resolvedWords_append, hmore, List.append_nil]
  simp only [runOn_bind, runOn_modify, runOn_modifyGet, Program.done_bind, takeChange_observe]
  split
  · exact fun _ => hdone _ rfl
  · exact fun _ => hdone _ rfl
  · exact hdone [] rfl

theorem awaitNewLinkWithin_takesOver (looks : Nat) : TakesOver (awaitNewLinkWithin looks) := by
  induction looks with
  | zero => exact takesOver_pure
  | succ looks ih =>
    refine takesOver_bind newLink_takesOver fun mode => ?_
    cases mode with
    | some mode => exact takesOver_pure
    | none => exact takesOver_bind takesOver_sleep fun _ => ih

/-! ### The words that count -/

/-- Whether an action decodes the status word for the record. -/
def Action.decodes : Action → Bool
  | .operate .settledState | .operate .awaitSpeed => true
  | .operate .newLink | .operate (.awaitNewLink _) => true
  | _ => false

theorem Action.takesOver (settings : Settings) {a : Action} (h : a.decodes = true) :
    TakesOver (a.perform settings) := by
  cases a with
  | resetPin o => cases h
  | operate o =>
    cases o with
    | settledState => exact takesOver_bind (settledState_takesOver settings) fun _ => takesOver_pure
    | awaitSpeed => exact takesOver_bind (awaitSpeed_takesOver settings) fun _ => takesOver_pure
    | newLink => exact takesOver_bind newLink_takesOver fun _ => takesOver_pure
    | awaitNewLink timeout =>
      exact takesOver_bind (awaitNewLinkWithin_takesOver _) fun _ => takesOver_pure
    | _ => cases h

/-- All other actions but a bring-up leave the mode in the record as it is. -/
theorem Action.keeps_negotiated (settings : Settings) {a : Action} (h : a.decodes = false)
    (hup : a ≠ .operate .bringUp) : Keeps PhyRecord.negotiated (a.perform settings) := by
  cases a with
  | resetPin o => exact keeps_bind keeps_liftM_phy fun _ => keeps_pure
  | operate o =>
    refine Operation.keeps settings ?_
    cases o with
    | bringUp => exact absurd rfl hup
    | settledState => cases h
    | awaitSpeed => cases h
    | newLink => cases h
    | awaitNewLink timeout => cases h
    | _ => rfl

namespace Session

variable {σ : Type}

/-- The resolved status words that the actions since the last bring-up have read in order to decode
them, in order. -/
def decodedWords (s : Session σ) : List Word :=
  let deeds := s.deeds.rtakeWhile fun d => d.action ≠ .operate .bringUp
  (deeds.filter fun d => d.action.decodes).flatMap fun d => resolvedWords d.events

theorem decodedWords_act (m : Machine σ) (settings : Settings) (s : Session σ) (a : Action) :
    (s.act m settings a).decodedWords =
      if a = .operate .bringUp then []
      else s.decodedWords ++
        if a.decodes then
          resolvedWords (((a.perform settings).runOn s.record).run m s.state).events
        else [] := by
  by_cases hup : a = .operate .bringUp
  · simp [decodedWords, act, hup]
  · cases hd : a.decodes <;> simp [decodedWords, act, hup, hd]

/-- The mode in the record is that of the last word that counts. -/
def Sourced (s : Session σ) : Prop := s.record.negotiated = lastMode s.decodedWords

/-- **Every action keeps the mode in step with what was read**, whatever comes of it. -/
theorem Sourced.act {s : Session σ} (h : s.Sourced) (m : Machine σ) (settings : Settings)
    (a : Action) : (s.act m settings a).Sourced := by
  rw [Sourced, decodedWords_act]
  show (((a.perform settings).runOn s.record).run m s.state).result.2.negotiated = _
  by_cases hup : a = .operate .bringUp
  · subst hup
    rw [if_pos rfl, Action.perform, Operation.perform, run_return_record]
    exact (bringUp_ensures_new (fun _ _ => rfl) settings s.record).run m s.state
  · rw [if_neg hup]
    cases hd : a.decodes with
    | true =>
      rw [(Action.takesOver settings hd s.record).run m s.state, h, if_pos rfl, lastMode_append]
    | false =>
      rw [(Action.keeps_negotiated settings hd hup).run m s.state, h, if_neg Bool.false_ne_true,
        List.append_nil]

theorem Sourced.acts {s : Session σ} (h : s.Sourced) (m : Machine σ) (settings : Settings)
    (actions : List Action) : (s.acts m settings actions).Sourced := by
  induction actions generalizing s with
  | nil => exact h
  | cons a rest ih => exact ih (h.act m settings a)

end Session

/-- **The mode in the record is that of the last resolved status word that counts**, on every bus
and after every run from a new record: the last one that an operation has read to decode it since
the last bring-up, and none if there has been no such word.  So no such word is passed over, and
nothing else is taken for one: no unresolved word, no word of another register, and neither a link
that goes down nor a fault changes the mode.  Asking for the mode gives it and does nothing else. -/
theorem negotiated_eq_decoded {σ : Type} (m : Machine σ) (settings : Settings) (s : σ)
    (actions : List Action) :
    let session := Session.acts m settings { state := s } actions
    session.record.negotiated = lastMode session.decodedWords ∧
      ((Operation.negotiated.perform settings).runOn session.record).run m session.state =
        ⟨(.ok (.mode (lastMode session.decodedWords)), session.record), [], session.state⟩ := by
  intro session
  have hnew : Session.Sourced { state := s } := rfl
  have hmode : session.record.negotiated = lastMode session.decodedWords :=
    hnew.acts m settings actions
  refine ⟨hmode, ?_⟩
  rw [← hmode]
  rfl

/-- The mode outlives a fault: the second wait for the speed cannot read the status word. -/
example :
    let up := (SimulatedBus.apply {} 0 .powerUp).apply 0 .linkUpGigabitFull
    let s : Board SimulatedBus := { bus := up.apply 0 (.failReadsAfter Register.physr 1) }
    let actions : List Action := [.operate .awaitSpeed, .operate .awaitSpeed]
    (Session.acts SimulatedBus.bus.machine {} { state := s } actions).record.negotiated =
      some ⟨.mbps1000, .full⟩ := rfl

end Transceiver

end EthernetPhy
