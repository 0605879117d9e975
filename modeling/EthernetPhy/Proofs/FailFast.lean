import EthernetPhy.Bus.Board
import EthernetPhy.Proofs.Actions
import EthernetPhy.Proofs.FirstFault
import EthernetPhy.Proofs.SweepAndReset
import EthernetPhy.Simulator.Setup

/-!
# Operations fail fast

Every operation of a transceiver, of its reset line and of the standard procedures ends with the
fault of the first frame that fails, and does nothing after it but go back to page `0` if it had
selected another one.  Two kinds of failure are set aside by design: those of the sweep for a PHY,
which passes over an address at which a frame fails, and that of the reset with which writing the
settings begins.

The main result is `perform_firstFaultWins`.  Most operations fail fast from any history on
(`FailsFast`); what is set aside is at the beginning of the other ones, and nothing is any more
from then on (`Strict`).
-/

namespace EthernetPhy

/-! ### What is set aside -/

namespace Request

/-- A read of an identifier register. -/
def readsIdentifier : Request → Bool
  | .read _ reg => reg = Register.phyidr1 || reg = Register.phyidr2
  | _ => false

/-- A write of basic mode control. -/
def writesControl : Request → Bool
  | .write _ reg _ => reg = Register.bmcr
  | _ => false

theorem isWrite_eq_false {q : Request} (h : q.readsIdentifier = true ∨ q.isFrame = false) :
    q.isWrite = false := by
  cases q with
  | write => obtain h | h := h <;> cases h
  | _ => rfl

theorem selects_eq_false {q : Request} (h : q.isWrite = false) : q.selects = false := by
  cases q <;> first | rfl | cases h

theorem writesControl_eq_false {q : Request} (h : q.isWrite = false) : q.writesControl = false := by
  cases q <;> first | rfl | cases h

theorem isWrite_of_writesControl {q : Request} (h : q.writesControl = true) : q.isWrite = true := by
  cases q <;> first | rfl | cases h

end Request

/-- The number of writes of basic mode control among some events. -/
def controlWrites (es : List Event) : Nat := es.countP fun e => e.request.writesControl

/-- Sets aside the reads of identifier registers before the first write. -/
def sweepReads (before : List Event) (q : Request) : Bool :=
  q.readsIdentifier && before.all fun e => !e.request.isWrite

/-- Sets aside one write of basic mode control, the first one being number `0`. -/
def controlWrite (n : Nat) (before : List Event) (q : Request) : Bool :=
  q.writesControl && controlWrites before == n

/-- What an operation of a transceiver sets aside: the reads of a sweep, and the write of basic mode
control with which writing the settings begins; within a bring-up it comes after that of the
reset. -/
def Transceiver.Action.exempt : Transceiver.Action → List Event → Request → Bool
  | .operate .bringUp, before, q => sweepReads before q || controlWrite 1 before q
  | .operate .applySettings, before, q => controlWrite 0 before q
  | _, _, _ => false

/-- What a standard procedure sets aside: the reads of a sweep. -/
def Clause22.Procedure.exempt : Clause22.Procedure → List Event → Request → Bool
  | .discover, before, q => sweepReads before q
  | _, _, _ => false

section

variable {n : Nat} {before : List Event}

theorem strict_controlWrite (h : n < controlWrites before) :
    Strict (controlWrite n) before := by
  intro es q
  have hcount : controlWrites (before ++ es) ≠ n := by
    rw [controlWrites, List.countP_append]
    unfold controlWrites at h
    omega
  simp [controlWrite, hcount]

theorem strict_sweepReads (h : 0 < controlWrites before) : Strict sweepReads before := by
  intro es q
  obtain ⟨e, he, hcontrol⟩ := List.countP_pos_iff.1 h
  have hwrite := Request.isWrite_of_writesControl hcontrol
  -- A write of basic mode control is a write, which ends the sweep for good.
  have hall : ((before ++ es).all fun e => !e.request.isWrite) = false := by
    rw [List.all_eq_false]
    exact ⟨e, List.mem_append_left es he, by rw [hwrite]; decide⟩
  rw [sweepReads, hall, Bool.and_false]

end

/-! ### Waits -/

namespace RecordM

theorem lookOut_failsFast {interval : UInt32} {phy : PhyAddress} {reg : RegAddress}
    {test : Word → Bool} {found : Word → RecordM Unit} {ranOut : RecordM Unit} {looks : Nat}
    (hfound : ∀ v, FailsFast (found v)) (hout : FailsFast ranOut) :
    FailsFast (lookOut interval phy reg test found ranOut looks) := by
  induction looks with
  | zero => exact hout
  | succ looks ih =>
    refine failsFast_bind (failsFast_program Program.failsFast_wait) fun _ => ?_
    refine failsFast_bind failsFast_read fun value => ?_
    split
    · exact hfound value
    · exact ih

end RecordM

/-! ### Standard procedures -/

namespace Clause22

section

open PhyM

variable {phy : PhyAddress}

theorem linkIsUp_failsFast : FailsFast (linkIsUp phy) :=
  failsFast_bind failsFast_read fun _ => failsFast_bind failsFast_read fun _ => failsFast_pure

theorem negotiationIsComplete_failsFast : FailsFast (negotiationIsComplete phy) :=
  failsFast_bind failsFast_read fun _ => failsFast_pure

theorem negotiate_failsFast : FailsFast (negotiate phy) := by
  refine failsFast_bind failsFast_read fun status => ?_
  split
  · refine failsFast_bind failsFast_read fun _ => ?_
    refine failsFast_bind (failsFast_write (by decide)) fun _ => ?_
    refine failsFast_bind failsFast_read fun _ => ?_
    refine failsFast_bind (failsFast_write (by decide)) fun _ => ?_
    exact failsFast_bind failsFast_read fun _ => failsFast_write (by decide)
  · exact failsFast_bind (failsFast_program Program.failsFast_log) fun _ =>
      failsFast_throw_bind rfl

theorem forceMode_failsFast {mode : LinkMode} : FailsFast (forceMode phy mode) :=
  failsFast_bind failsFast_read fun _ => failsFast_write (by decide)

theorem identifier_failsFast : FailsFast (identifier phy) :=
  failsFast_bind failsFast_read fun _ => failsFast_bind failsFast_read fun _ => failsFast_pure

theorem abilities_failsFast : FailsFast (abilities phy) := by
  refine failsFast_bind failsFast_read fun status => ?_
  split
  · exact failsFast_bind failsFast_read fun _ => failsFast_pure
  · exact failsFast_pure

theorem partnerAbilities_failsFast : FailsFast (partnerAbilities phy) :=
  failsFast_bind failsFast_read fun _ => failsFast_bind failsFast_read fun _ => failsFast_pure

theorem awaitReset_failsFast {looks : Nat} : FailsFast (awaitReset phy looks) := by
  induction looks with
  | zero =>
    exact failsFast_bind (failsFast_program Program.failsFast_log) fun _ => failsFast_throw rfl
  | succ looks ih =>
    refine failsFast_bind failsFast_read fun control => ?_
    split
    · exact failsFast_bind (failsFast_program Program.failsFast_wait) fun _ => ih
    · exact failsFast_pure

theorem reset_failsFast {polls : UInt32} : FailsFast (reset phy polls) :=
  failsFast_bind (failsFast_write (by decide)) fun _ => awaitReset_failsFast

end

section

open RecordM

theorem trackLink_failsFast {timeout : UInt32} : FailsFast (trackLink timeout) := by
  refine failsFast_bind failsFast_get fun record => ?_
  refine failsFast_bind failsFast_read fun status => ?_
  split
  · exact failsFast_pure
  split
  · exact failsFast_bind failsFast_read fun _ => failsFast_modify
  · refine failsFast_bind (failsFast_program Program.failsFast_log) fun _ => ?_
    rw [awaitNegotiation_eq_lookOut]
    refine lookOut_failsFast (fun _ => failsFast_modify) ?_
    exact failsFast_bind (failsFast_program Program.failsFast_log) fun _ =>
      failsFast_bind failsFast_modify fun _ => failsFast_throw rfl

end

end Clause22

/-! ### The sweep for a PHY -/

namespace Clause22

theorem Swept.readsIdentifier {phys : List PhyAddress} {es : List Event}
    {found : Option (PhyAddress × Word × Word)} (h : Swept phys es found) :
    ∀ e ∈ es, e.request.readsIdentifier = true := by
  intro e he
  obtain ⟨phy, -, hq | hq⟩ := h.seeks e he
  · rw [hq]
    rfl
  · rw [hq]
    rfl

theorem sweep_ensures (phys : List PhyAddress) :
    (sweep phys).Ensures fun es _ => ∀ e ∈ es, e.request.readsIdentifier = true :=
  (sweep_ensures_swept phys).mono fun _ _ h => h.readsIdentifier

/-- A sweep reads identifiers and does nothing else, and no frame is the cause of its result. -/
theorem discover_ensures (r : PhyRecord) :
    (discover.runOn r).Ensures fun es out => PhyM.cause out.1 = none ∧
      ∀ e ∈ es, e.request.readsIdentifier = true ∨ e.request.isFrame = false := by
  refine (discover_ensures_swept r).mono fun es out h => ?_
  obtain ⟨search, found, message, hsearch, rfl, rfl⟩ := h
  refine ⟨?_, List.forall_mem_append.2
    ⟨fun e he => .inl (hsearch.readsIdentifier e he), List.forall_mem_singleton.2 (.inr rfl)⟩⟩
  cases found <;> rfl

/-- A sweep fails fast once its reads are set aside: it has nothing else that could fail. -/
theorem discover_stopsFast {exempt : List Event → Request → Bool}
    (hexempt : ∀ before q, sweepReads before q = true → exempt before q = true) (r : PhyRecord) :
    (discover.runOn r).Ensures (StopsFast exempt [] fun out => PhyM.cause out.1) := by
  refine (discover_ensures r).mono fun es out h => ?_
  obtain ⟨hcause, hes⟩ := h
  have hwrite : ∀ e ∈ es, e.request.isWrite = false := fun e he =>
    Request.isWrite_eq_false (hes e he)
  -- A read of the sweep comes before every write, since there is none.
  have hnone : firstFailure? exempt [] es = none := by
    refine firstFailure?_eq_none_of_forall fun es₁ e es₂ h => ?_
    subst h
    obtain hread | hframe := hes e (by simp)
    · refine .inr (hexempt _ _ ?_)
      rw [sweepReads, hread, List.nil_append, Bool.true_and, List.all_eq_true]
      intro e' he'
      rw [hwrite e' (List.mem_append_left _ he')]
      rfl
    · exact .inl (Event.failure?_eq_none hframe)
  refine ⟨fun f hf => (by rw [hnone] at hf; cases hf), fun _ => ⟨hcause, fun phy => ?_⟩⟩
  exact selectedPage_append_of_not_selects fun e he => Request.selects_eq_false (hwrite e he)

theorem ResetAwaited.isWrite_eq_false {phy : PhyAddress} {looks : Nat} {es : List Event}
    {result : Except Fault Unit} (h : ResetAwaited phy looks es result) :
    ∀ e ∈ es, e.request.isWrite = false ∧ e.request.readsIdentifier = false :=
  h.forall_request (P := fun q => q.isWrite = false ∧ q.readsIdentifier = false)
    ⟨rfl, rfl⟩ ⟨rfl, rfl⟩ fun _ => ⟨rfl, rfl⟩

theorem reset_ensures {phy : PhyAddress} {polls : UInt32} :
    (reset phy polls).run.Ensures fun es _ => ∃ answer rest,
      es = ⟨.write phy Register.bmcr Bmcr.reset, answer⟩ :: rest ∧
        ∀ e ∈ rest, e.request.isWrite = false ∧ e.request.readsIdentifier = false := by
  refine (reset_ensures_done phy polls).mono fun es _ h => ?_
  cases h with
  | refused c => exact ⟨_, [], rfl, List.forall_mem_nil _⟩
  | awaited h => exact ⟨_, _, rfl, h.isWrite_eq_false⟩

end Clause22

/-! ### Operations of a transceiver -/

namespace Transceiver

section

open BusM

variable {phy : PhyAddress}

theorem setClockDelay_failsFast {mode : ClockDelay} : FailsFast (setClockDelay phy mode) :=
  failsFast_withinPage (by decide)
    (plain_bind (plain_modify (by decide)) fun _ => plain_modify (by decide))

theorem setLed_failsFast {value : Word} : FailsFast (setLed phy value) :=
  failsFast_withinPage (by decide) (plain_write (by decide))

theorem setClockOut_failsFast {on : Bool} : FailsFast (setClockOut phy on) :=
  failsFast_withinPage (by decide) (plain_modify (by decide))

theorem setPowerSaving_failsFast {on : Bool} : FailsFast (setPowerSaving phy on) :=
  failsFast_withinPage (by decide) (plain_modify (by decide))

theorem whenSet_failsFast {α : Type} {setting : Option α} {act : α → BusM Unit}
    (h : ∀ value, FailsFast (act value)) : FailsFast (whenSet setting act) := by
  cases setting with
  | none => exact failsFast_pure
  | some value => exact h value

end

section

open PhyM

variable {phy : PhyAddress}

/-- What `applySettings` does after the reset with which it begins. -/
def configure (settings : Settings) (phy : PhyAddress) : PhyM Unit := do
  setClockDelay phy settings.clockDelay
  Program.log (.clockDelaySet phy settings.clockDelay)
  whenSet settings.led (setLed phy)
  whenSet settings.clockOut (setClockOut phy)
  whenSet settings.powerSaving (setPowerSaving phy)
  Clause22.negotiate phy

theorem configure_failsFast {settings : Settings} : FailsFast (configure settings phy) :=
  failsFast_bind (failsFast_bus setClockDelay_failsFast) fun _ =>
    failsFast_bind (failsFast_program Program.failsFast_log) fun _ =>
    failsFast_bind (failsFast_bus (whenSet_failsFast fun _ => setLed_failsFast)) fun _ =>
    failsFast_bind (failsFast_bus (whenSet_failsFast fun _ => setClockOut_failsFast)) fun _ =>
    failsFast_bind (failsFast_bus (whenSet_failsFast fun _ => setPowerSaving_failsFast)) fun _ =>
      Clause22.negotiate_failsFast

theorem resolvedMode_failsFast : FailsFast (resolvedMode phy) :=
  failsFast_bind failsFast_read fun _ => failsFast_pure

theorem liveMode_failsFast : FailsFast (liveMode phy) :=
  failsFast_bind (failsFast_bus (BusM.failsFast_withinPage (by decide) BusM.plain_read)) fun _ =>
    failsFast_pure

theorem linkMode_failsFast : FailsFast (linkMode phy) := by
  refine failsFast_bind Clause22.linkIsUp_failsFast fun up => ?_
  split
  · exact resolvedMode_failsFast
  · exact failsFast_pure

theorem unmaskLinkInterrupt_failsFast : FailsFast (unmaskLinkInterrupt phy) :=
  failsFast_bus (BusM.failsFast_withinPage (by decide) (BusM.plain_modify (by decide)))

theorem maskInterrupts_failsFast : FailsFast (maskInterrupts phy) :=
  failsFast_bus (BusM.failsFast_withinPage (by decide) (BusM.plain_write (by decide)))

theorem pendingInterrupts_failsFast : FailsFast (pendingInterrupts phy) :=
  failsFast_bus (BusM.failsFast_withinPage (by decide) BusM.plain_read)

/-- An operation on the reset line has no frames. -/
theorem ResetPin.perform_failsFast (o : ResetPin.Operation) : FailsFast o.perform := by
  have hdrive : ∀ level, FailsFast (ResetPin.drive level) := fun level => by
    refine failsFast_bind (failsFast_program Program.failsFast_drive) fun taken => ?_
    split
    · exact failsFast_pure
    · exact failsFast_throw rfl
  cases o with
  | hold => exact hdrive .low
  | release => exact hdrive .high
  | pulse =>
    exact failsFast_bind (hdrive .low) fun _ =>
      failsFast_bind (failsFast_program Program.failsFast_wait) fun _ =>
      failsFast_bind (hdrive .high) fun _ => failsFast_program Program.failsFast_wait

end

section

open RecordM

theorem newLink_failsFast : FailsFast newLink := by
  refine failsFast_bind failsFast_get fun r => ?_
  refine failsFast_bind (failsFast_phy linkMode_failsFast) fun mode => ?_
  refine failsFast_bind failsFast_modify fun _ => ?_
  refine failsFast_bind (fun _ => .done rfl) fun change => ?_
  split
  · exact failsFast_bind (failsFast_program Program.failsFast_log) fun _ => failsFast_pure
  · exact failsFast_bind (failsFast_program Program.failsFast_log) fun _ => failsFast_pure
  · exact failsFast_pure

theorem awaitNewLinkWithin_failsFast {looks : Nat} : FailsFast (awaitNewLinkWithin looks) := by
  induction looks with
  | zero => exact failsFast_pure
  | succ looks ih =>
    refine failsFast_bind newLink_failsFast fun mode => ?_
    split
    · exact failsFast_pure
    · exact failsFast_bind (failsFast_program Program.failsFast_wait) fun _ => ih

theorem settle_failsFast {phy : PhyAddress} {status : Word} : FailsFast (settle phy status) :=
  failsFast_bind failsFast_modify fun _ => failsFast_program Program.failsFast_log

theorem awaitSpeed_failsFast {settings : Settings} : FailsFast (awaitSpeed settings) := by
  refine failsFast_bind failsFast_get fun r => ?_
  refine failsFast_bind failsFast_read fun status => ?_
  split
  · exact failsFast_bind failsFast_modify fun _ => settle_failsFast
  · refine failsFast_bind (failsFast_program Program.failsFast_log) fun _ => ?_
    rw [awaitResolution_eq_lookOut]
    refine lookOut_failsFast (fun status => ?_) ?_
    · exact failsFast_bind failsFast_modify fun _ =>
        failsFast_bind (failsFast_program Program.failsFast_wait) fun _ => settle_failsFast
    · exact failsFast_bind (failsFast_program Program.failsFast_log) fun _ =>
        failsFast_bind failsFast_modify fun _ => failsFast_throw rfl

theorem refreshMode_failsFast : FailsFast refreshMode := by
  refine failsFast_bind failsFast_get fun r => ?_
  refine failsFast_bind (failsFast_phy resolvedMode_failsFast) fun mode => ?_
  split
  · exact failsFast_modify
  · exact failsFast_pure

theorem refresh_failsFast {settings : Settings} : FailsFast (refresh settings) := by
  refine failsFast_bind Clause22.trackLink_failsFast fun _ => ?_
  refine failsFast_bind failsFast_get fun r => ?_
  split
  · exact failsFast_bind awaitSpeed_failsFast fun _ =>
      failsFast_bind failsFast_get fun _ => failsFast_pure
  · exact failsFast_bind refreshMode_failsFast fun _ =>
      failsFast_bind failsFast_get fun _ => failsFast_pure

theorem settledState_failsFast {settings : Settings} : FailsFast (settledState settings) :=
  failsFast_tryCatch refresh_failsFast (fun _ => rfl) fun e h => by
    cases e with
    | timeout => exact failsFast_pure
    | bus c => cases h
    | _ => exact failsFast_throw rfl

end

/-! ### Bringing up a transceiver -/

theorem run_applySettings (settings : Settings) (phy : PhyAddress) :
    (applySettings settings phy).run =
      .ask (.write phy Register.bmcr Bmcr.reset) fun _ => (configure settings phy).run := rfl

theorem applySettings_ensures {settings : Settings} {phy : PhyAddress}
    {exempt : List Event → Request → Bool} {before : List Event}
    (hfirst : exempt before (.write phy Register.bmcr Bmcr.reset) = true)
    (hstrict : ∀ answer, Strict exempt (before ++ [⟨.write phy Register.bmcr Bmcr.reset, answer⟩]))
    (hclosed : Closed before) :
    (applySettings settings phy).run.Ensures (StopsFast exempt before PhyM.cause) := by
  rw [run_applySettings]
  intro answer
  have hclosed' := hclosed.concat (e := ⟨.write phy Register.bmcr Bmcr.reset, answer⟩) (.inl rfl)
  refine (configure_failsFast exempt _ (hstrict answer) hclosed').mono fun es result h => ?_
  exact (stopsFast_cons_of_pass (.inr hfirst)).2 h

theorem exempt_bringUp_eq_false {before : List Event} {q : Request}
    (hread : q.readsIdentifier = false) (h : q.writesControl = true → controlWrites before ≠ 1) :
    (Action.operate .bringUp).exempt before q = false := by
  rw [Action.exempt, sweepReads, hread, Bool.false_and, Bool.false_or, controlWrite]
  cases hq : q.writesControl with
  | false => rfl
  | true => simpa using h hq

theorem strict_exempt_bringUp {before : List Event} (h : 1 < controlWrites before) :
    Strict (Action.operate .bringUp).exempt before := by
  intro es q
  rw [Action.exempt, strict_sweepReads (by omega) es q, strict_controlWrite h es q]
  rfl

/-- The reset of a bring-up is not set aside, and writes basic mode control once. -/
theorem reset_stopsFast (settings : Settings) {before : List Event} (hclosed : Closed before)
    (hbefore : controlWrites before = 0) (r : PhyRecord) :
    ((reset settings).runOn r).Ensures fun es out =>
      StopsFast (Action.operate .bringUp).exempt before (fun out => PhyM.cause out.1) es out ∧
        controlWrites es = 1 := by
  rw [reset, RecordM.runOn_get_bind, RecordM.runOn_liftM_phy, Program.ensures_map]
  have hreset : (Clause22.reset r.address settings.resetPolls).run.Ensures
      (StopsFast (fun _ _ => false) before PhyM.cause) :=
    Clause22.reset_failsFast _ before (fun _ _ => rfl) hclosed
  refine (hreset.and Clause22.reset_ensures).mono fun es result h => ?_
  obtain ⟨hfast, answer, rest, rfl, hrest⟩ := h
  have hcontrol : ∀ e ∈ rest, e.request.writesControl = false := fun e he =>
    Request.writesControl_eq_false (hrest e he).1
  -- The write is number `0`, and after it there is no write and no read of an identifier.
  have hpos : ∀ es₁ e es₂,
      ⟨.write r.address Register.bmcr Bmcr.reset, answer⟩ :: rest = es₁ ++ e :: es₂ →
      (Action.operate .bringUp).exempt (before ++ es₁) e.request = false := by
    rintro (_ | ⟨first, es₁⟩) e es₂ hes
    · obtain ⟨rfl, -⟩ := List.cons.inj hes
      exact exempt_bringUp_eq_false rfl fun _ => by simp [hbefore]
    · have he : e ∈ rest := by simp [(List.cons.inj hes).2]
      exact exempt_bringUp_eq_false (hrest e he).2 fun h => by simp [hcontrol e he] at h
  have hfast' := hfast.of_forall hpos
  refine ⟨⟨hfast'.failed, hfast'.passed⟩, ?_⟩
  have hzero : controlWrites rest = 0 := List.countP_eq_zero.2 fun e he => by simp [hcontrol e he]
  rw [controlWrites, List.countP_cons]
  change controlWrites rest + _ = 1
  rw [hzero]
  rfl

/-- A bring-up fails fast once the reads of its sweep and the second reset are set aside. -/
theorem bringUp_stopsFast (settings : Settings) (r : PhyRecord) :
    ((bringUp settings).runOn r).Ensures
      (StopsFast (Action.operate .bringUp).exempt [] fun out => PhyM.cause out.1) := by
  rw [bringUp, RecordM.runOn_bind, RecordM.runOn_set, Program.done_bind]
  have hsweep : ∀ before q, sweepReads before q = true →
      (Action.operate .bringUp).exempt before q = true := fun before q h => by
    rw [Action.exempt, h, Bool.true_or]
  have hread : (Clause22.discover.runOn {}).Ensures fun es _ => controlWrites es = 0 :=
    (Clause22.discover_ensures {}).mono fun es out h => List.countP_eq_zero.2 fun e he => by
      simp [Request.writesControl_eq_false (Request.isWrite_eq_false (h.2 e he))]
  refine RecordM.ensures_stopsFast_bind (Clause22.discover_stopsFast hsweep {}) hread
    fun es _ r' hes hclosed => ?_
  rw [List.nil_append] at hclosed ⊢
  have hreset := reset_stopsFast settings hclosed hes r'
  refine RecordM.ensures_stopsFast_bind (hreset.mono fun _ _ h => h.1)
    (hreset.mono fun _ _ h => h.2) fun es' _ r'' hes' hclosed' => ?_
  -- Basic mode control has been written once, so its next write is the one that is set aside.
  have hcount : controlWrites (es ++ es') = 1 := by
    rw [controlWrites, List.countP_append]
    change controlWrites es + controlWrites es' = 1
    rw [hes, hes']
  rw [RecordM.runOn_get_bind]
  have happly : ((liftM (applySettings settings r''.address) : RecordM Unit).runOn r'').Ensures
      (StopsFast (Action.operate .bringUp).exempt (es ++ es') fun out => PhyM.cause out.1) := by
    rw [RecordM.runOn_liftM_phy, Program.ensures_map]
    refine (applySettings_ensures ?_ (fun answer => ?_) hclosed').mono fun _ _ h =>
      ⟨h.failed, h.passed⟩
    · simp [Action.exempt, controlWrite, hcount, Request.writesControl]
    · refine strict_exempt_bringUp ?_
      rw [controlWrites, List.countP_append]
      change 1 < controlWrites (es ++ es') + 1
      omega
  refine RecordM.ensures_stopsFast_bind happly (.of_forall fun _ _ => trivial)
    fun more _ _ _ hclosed'' => fun _ => ?_
  exact (stopsFast_cons_of_pass (.inl rfl)).2 (stopsFast_nil rfl (hclosed''.concat (.inl rfl)))

theorem applySettings_stopsFast (settings : Settings) (r : PhyRecord) :
    (((Action.operate .applySettings).perform settings).runOn r).Ensures
      (StopsFast (Action.operate .applySettings).exempt [] fun out => PhyM.cause out.1) := by
  rw [Action.perform, Operation.perform, RecordM.runOn_get_bind]
  refine RecordM.ensures_stopsFast_bind ?_ (.of_forall fun _ _ => trivial)
    fun es _ r' _ hclosed => stopsFast_nil rfl hclosed
  rw [RecordM.runOn_liftM_phy, Program.ensures_map]
  refine (applySettings_ensures rfl (fun answer => ?_) closed_nil).mono fun _ _ h =>
    ⟨h.failed, h.passed⟩
  exact strict_controlWrite Nat.one_pos

/-! ### All operations -/

open RecordM

theorem Action.failsFast (settings : Settings) {a : Action} (hup : a ≠ .operate .bringUp)
    (happly : a ≠ .operate .applySettings) : FailsFast (a.perform settings) := by
  cases a with
  | resetPin o =>
    exact failsFast_bind (failsFast_phy (ResetPin.perform_failsFast o)) fun _ => failsFast_pure
  | operate o =>
    cases o with
    | bringUp => exact absurd rfl hup
    | applySettings => exact absurd rfl happly
    | address => exact failsFast_bind failsFast_get fun _ => failsFast_pure
    | reset =>
      exact failsFast_bind (failsFast_bind failsFast_get fun _ =>
        failsFast_phy Clause22.reset_failsFast) fun _ => failsFast_pure
    | closePage =>
      exact failsFast_bind failsFast_get fun _ =>
        failsFast_bind (failsFast_bus BusM.failsFast_closePage) fun _ => failsFast_pure
    | linkIsUp => exact failsFast_here fun _ => Clause22.linkIsUp_failsFast
    | linkMode => exact failsFast_here fun _ => linkMode_failsFast
    | newLink => exact failsFast_bind newLink_failsFast fun _ => failsFast_pure
    | awaitNewLink timeout =>
      exact failsFast_bind awaitNewLinkWithin_failsFast fun _ => failsFast_pure
    | settledState => exact failsFast_bind settledState_failsFast fun _ => failsFast_pure
    | awaitSpeed => exact failsFast_bind awaitSpeed_failsFast fun _ => failsFast_pure
    | negotiated => exact failsFast_bind failsFast_get fun _ => failsFast_pure
    | resolvedMode => exact failsFast_here fun _ => resolvedMode_failsFast
    | liveMode => exact failsFast_here fun _ => liveMode_failsFast
    | negotiate => exact failsFast_here fun _ => Clause22.negotiate_failsFast
    | negotiationIsComplete =>
      exact failsFast_here fun _ => Clause22.negotiationIsComplete_failsFast
    | forceMode mode => exact failsFast_here fun _ => Clause22.forceMode_failsFast
    | abilities => exact failsFast_here fun _ => Clause22.abilities_failsFast
    | partnerAbilities => exact failsFast_here fun _ => Clause22.partnerAbilities_failsFast
    | identifier => exact failsFast_here fun _ => Clause22.identifier_failsFast
    | isKnown => exact failsFast_here fun _ => Clause22.identifier_failsFast
    | unmaskLinkInterrupt => exact failsFast_here fun _ => unmaskLinkInterrupt_failsFast
    | maskInterrupts => exact failsFast_here fun _ => maskInterrupts_failsFast
    | pendingInterrupts => exact failsFast_here fun _ => pendingInterrupts_failsFast

theorem Action.stopsFast (settings : Settings) (a : Action) (r : PhyRecord) :
    ((a.perform settings).runOn r).Ensures
      (StopsFast a.exempt [] fun out => PhyM.cause out.1) := by
  by_cases hup : a = .operate .bringUp
  · subst hup
    refine RecordM.ensures_stopsFast_bind (bringUp_stopsFast settings r)
      (.of_forall fun _ _ => trivial) fun es _ r' _ hclosed => stopsFast_nil rfl hclosed
  by_cases happly : a = .operate .applySettings
  · subst happly
    exact applySettings_stopsFast settings r
  have hnever : a.exempt = fun _ _ => false := by
    funext before q
    unfold Action.exempt
    split
    · exact absurd rfl hup
    · exact absurd rfl happly
    · rfl
  rw [hnever]
  exact Action.failsFast settings hup happly r _ [] (fun _ _ => rfl) closed_nil

end Transceiver

namespace Clause22

open RecordM

theorem Procedure.failsFast {p : Procedure} (hdiscover : p ≠ .discover)
    (hshared : ∀ phy, p ≠ .bestShared phy) : FailsFast p.perform := by
  cases p with
  | discover => exact absurd rfl hdiscover
  | bestShared phy => exact absurd rfl (hshared phy)
  | linkIsUp phy => exact failsFast_bind (failsFast_phy linkIsUp_failsFast) fun _ => failsFast_pure
  | negotiationIsComplete phy =>
    exact failsFast_bind (failsFast_phy negotiationIsComplete_failsFast) fun _ => failsFast_pure
  | reset phy polls => exact failsFast_bind (failsFast_phy reset_failsFast) fun _ => failsFast_pure
  | negotiate phy => exact failsFast_bind (failsFast_phy negotiate_failsFast) fun _ => failsFast_pure
  | trackLink timeout => exact failsFast_bind trackLink_failsFast fun _ => failsFast_pure
  | forceMode phy mode =>
    exact failsFast_bind (failsFast_phy forceMode_failsFast) fun _ => failsFast_pure
  | identifier phy =>
    exact failsFast_bind (failsFast_phy identifier_failsFast) fun _ => failsFast_pure
  | abilities phy => exact failsFast_bind (failsFast_phy abilities_failsFast) fun _ => failsFast_pure
  | partnerAbilities phy =>
    exact failsFast_bind (failsFast_phy partnerAbilities_failsFast) fun _ => failsFast_pure

theorem Procedure.stopsFast {p : Procedure} (hshared : ∀ phy, p ≠ .bestShared phy)
    (r : PhyRecord) :
    (p.perform.runOn r).Ensures (StopsFast p.exempt [] fun out => PhyM.cause out.1) := by
  by_cases hdiscover : p = .discover
  · subst hdiscover
    refine ensures_stopsFast_bind (discover_stopsFast (fun _ _ h => h) r)
      (.of_forall fun _ _ => trivial) fun es _ r' _ hclosed => stopsFast_nil rfl hclosed
  have hnever : p.exempt = fun _ _ => false := by
    funext before q
    unfold Procedure.exempt
    split
    · exact absurd rfl hdiscover
    · rfl
  rw [hnever]
  exact Procedure.failsFast hdiscover hshared r _ [] (fun _ _ => rfl) closed_nil

end Clause22

/-! ### What a caller may rely on -/

/-- What an operation promises that had the events `es` and ended with `result`, where `exempt` is
what it sets aside:

* `failed` : if a frame failed, the fault of the first one is the result; and after it nothing was
  asked for but page `0`, if the frame was an access within another page;
* `passed` : if none failed, no failed frame is the result. -/
structure FirstFaultWins {α : Type} (exempt : List Event → Request → Bool) (es : List Event)
    (result : Except Fault α) : Prop where
  failed : ∀ f, firstFailure? exempt [] es = some f →
    result = .error (.bus f.cause) ∧ f.after.map Event.request = f.restore
  passed : firstFailure? exempt [] es = none → ∀ c, result ≠ .error (.bus c)

theorem StopsFast.firstFaultWins {α : Type} {exempt : List Event → Request → Bool}
    {es : List Event} {out : Except Fault α × PhyRecord}
    (h : StopsFast exempt [] (fun out => PhyM.cause out.1) es out) :
    FirstFaultWins exempt es out.1 := by
  refine ⟨fun f hf => ?_, fun hnone c hc => ?_⟩
  · obtain ⟨hcause, hends⟩ := h.failed f hf
    exact ⟨PhyM.cause_eq_some.1 hcause, hends.after⟩
  · have hcause := (h.passed hnone).1
    rw [PhyM.cause_eq_some.2 hc] at hcause
    cases hcause

/-- **The first fault wins**, for every operation of a transceiver and of its reset line and for
every standard procedure that works on one side of a link, on every bus, from every record and with
all settings. -/
theorem perform_firstFaultWins {σ : Type} (m : Machine σ) (s : σ) (settings : Settings)
    (r : PhyRecord) :
    (∀ a : Transceiver.Action,
      let out := ((a.perform settings).runOn r).run m s
      FirstFaultWins a.exempt out.events out.result.1) ∧
      ∀ p : Clause22.Procedure, (∀ phy, p ≠ .bestShared phy) →
        let out := (p.perform.runOn r).run m s
        FirstFaultWins p.exempt out.events out.result.1 :=
  ⟨fun a => ((a.stopsFast settings r).run m s).firstFaultWins,
    fun p hp => ((p.stopsFast hp r).run m s).firstFaultWins⟩

/-- A PHY whose basic mode status cannot be read: the first read ends the procedure. -/
theorem perform_firstFaultWins_trackLink :
    let s : Board SimulatedBus :=
      { bus := (SimulatedBus.apply {} 0 .powerUp).apply 0 (.failReads Register.bmsr) }
    let p : Clause22.Procedure := .trackLink 100
    let out := (p.perform.runOn {}).run SimulatedBus.bus.machine s
    (∀ phy, p ≠ .bestShared phy) ∧ out.result.1 = .error (.bus .noResponse) ∧
      FirstFaultWins p.exempt out.events out.result.1 :=
  ⟨nofun, rfl, (perform_firstFaultWins _ _ {} _).2 _ nofun⟩

end EthernetPhy
