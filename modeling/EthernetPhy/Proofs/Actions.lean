import EthernetPhy.Proofs.SettledState
import EthernetPhy.Transceiver.Operation
import EthernetPhy.Transceiver.ResetPin

/-!
# What a caller may do, and what it leaves alone

An `Action` is an operation of a transceiver or of its reset line.  A run of a driver is a list of
actions in any order, in which a failed one does not stop the next; `Session` is a transceiver in use,
with all that has been done so far.

`RecordM.Keeps view x` says that `x` never changes what `view` sees of the record, whatever comes of
it.  The main result is `Transceiver.Action.keeps_reported`: only a bring-up and a look for a new
link change what the caller was told last.
-/

namespace EthernetPhy

/-! ### Views that an operation keeps -/

namespace RecordM

variable {α β γ : Type} {view : PhyRecord → γ}

/-- However its requests are answered, `x` leaves a record on which `view` is as it was. -/
def Keeps (view : PhyRecord → γ) (x : RecordM α) : Prop :=
  ∀ r, (x.runOn r).Ensures fun _ out => view out.2 = view r

theorem keeps_pure {a : α} : Keeps view (pure a : RecordM α) := fun _ => rfl

theorem keeps_get : Keeps view (get : RecordM PhyRecord) := fun _ => rfl

theorem keeps_throw {e : Fault} : Keeps view (throw e : RecordM α) := fun _ => rfl

theorem keeps_modify {g : PhyRecord → PhyRecord} (h : ∀ r, view (g r) = view r) :
    Keeps view (modify g : RecordM Unit) := h

theorem keeps_bind {x : RecordM α} {f : α → RecordM β} (hx : Keeps view x)
    (hf : ∀ a, Keeps view (f a)) : Keeps view (x >>= f) := by
  intro r
  refine ensures_bind (hx r) (fun es a r' h => ?_) (fun es e r' h => h)
  exact (hf a r').mono fun es' out h' => h'.trans h

theorem keeps_liftM_phy {x : PhyM α} : Keeps view (liftM x : RecordM α) := by
  intro r
  rw [runOn_liftM_phy, Program.ensures_map]
  exact .of_forall fun _ _ => rfl

theorem keeps_liftM_bus {x : BusM α} : Keeps view (liftM x : RecordM α) := by
  intro r
  rw [runOn_liftM_bus, Program.ensures_map]
  exact .of_forall fun _ _ => rfl

theorem keeps_liftM_program {x : Program α} : Keeps view (liftM x : RecordM α) := by
  intro r
  rw [runOn_liftM_program, Program.ensures_map]
  exact .of_forall fun _ _ => rfl

theorem keeps_here {x : PhyRecord → PhyM α} {f : α → β} :
    Keeps view (do return f (← x (← get)) : RecordM β) :=
  keeps_bind keeps_get fun _ => keeps_bind keeps_liftM_phy fun _ => keeps_pure

theorem Keeps.run {σ : Type} {x : RecordM α} (h : Keeps view x) (m : Machine σ) (s : σ)
    (r : PhyRecord) : view ((x.runOn r).run m s).result.2 = view r :=
  (h r).run m s

theorem run_return_record {σ : Type} {x : RecordM α} {f : α → β} (m : Machine σ) (s : σ)
    (r : PhyRecord) : (((do return f (← x) : RecordM β).runOn r).run m s).result.2 =
      ((x.runOn r).run m s).result.2 := by
  rw [runOn_bind, Program.run_bind]
  obtain ⟨⟨e | a, r'⟩, es, s'⟩ := (x.runOn r).run m s <;> rfl

end RecordM

open RecordM

namespace Transceiver

/-! ### Actions -/

/-- What a caller may do with a transceiver and its reset line. -/
inductive Action where
  /-- An operation of the transceiver. -/
  | operate (operation : Operation)
  /-- An operation of the reset line. -/
  | resetPin (operation : ResetPin.Operation)
  deriving DecidableEq

/-- Performs an action with some settings. -/
def Action.perform (settings : Settings) : Action → RecordM Answer
  | .operate o => o.perform settings
  | .resetPin o => do o.perform; return .done

/-- Whether an action may look for a new link. -/
def Action.polls : Action → Bool
  | .operate .newLink | .operate (.awaitNewLink _) => true
  | _ => false

/-! ### A transceiver in use -/

/-- Something that was done, with what reached the outside meanwhile. -/
structure Deed where
  /-- What was done. -/
  action : Action
  /-- Its requests with their answers. -/
  events : List Event

/-- A transceiver in use on a machine. -/
structure Session (σ : Type) where
  /-- The record of the transceiver. -/
  record : PhyRecord := {}
  /-- The state of the machine. -/
  state : σ
  /-- What has been done since the record was new, in order. -/
  deeds : List Deed := []

namespace Session

variable {σ : Type}

/-- The session after one more action. -/
def act (m : Machine σ) (settings : Settings) (s : Session σ) (a : Action) : Session σ :=
  let out := ((a.perform settings).runOn s.record).run m s.state
  ⟨out.result.2, out.final, s.deeds ++ [⟨a, out.events⟩]⟩

/-- The session after some actions; a failed one does not stop the next. -/
def acts (m : Machine σ) (settings : Settings) (s : Session σ) (actions : List Action) :
    Session σ :=
  actions.foldl (act m settings) s

end Session

/-! ### Operations that leave the record alone -/

/-- Whether an operation may change the record. -/
def Operation.writesRecord : Operation → Bool
  | .bringUp | .newLink | .awaitNewLink _ | .settledState | .awaitSpeed => true
  | _ => false

theorem reset_keeps {γ : Type} {view : PhyRecord → γ} (settings : Settings) :
    Keeps view (reset settings) :=
  keeps_bind keeps_get fun _ => keeps_liftM_phy

/-- **Only a bring-up and the operations that follow the link change the record.** -/
theorem Operation.keeps {γ : Type} {view : PhyRecord → γ} (settings : Settings) {o : Operation}
    (h : o.writesRecord = false) : Keeps view (o.perform settings) := by
  cases o with
  | bringUp => cases h
  | newLink => cases h
  | awaitNewLink timeout => cases h
  | settledState => cases h
  | awaitSpeed => cases h
  | address => exact keeps_bind keeps_get fun _ => keeps_pure
  | negotiated => exact keeps_bind keeps_get fun _ => keeps_pure
  | reset => exact keeps_bind (reset_keeps settings) fun _ => keeps_pure
  | closePage => exact keeps_bind keeps_get fun _ => keeps_bind keeps_liftM_bus fun _ => keeps_pure
  | _ => exact keeps_here

/-! ### What the caller was told last -/

theorem awaitSpeed_keeps_reported (settings : Settings) :
    Keeps PhyRecord.reported (awaitSpeed settings) :=
  fun r => (awaitSpeed_ensures settings r).mono fun _ _ h => h.record_eq.2

theorem settledState_keeps_reported (settings : Settings) :
    Keeps PhyRecord.reported (settledState settings) :=
  fun r => (settledState_ensures settings r).mono fun _ _ h => h.record_eq.2

section

variable {γ : Type} {view : PhyRecord → γ}

theorem discover_keeps (h : ∀ r phy, view { r with address := phy } = view r) :
    Keeps view Clause22.discover := by
  refine keeps_bind keeps_liftM_program fun found => ?_
  cases found with
  | none => exact keeps_bind keeps_liftM_program fun _ => keeps_throw
  | some found => exact keeps_bind (keeps_modify fun _ => h _ _) fun _ => keeps_liftM_program

/-- After a bring-up, successful or not, all but the address is as in a new record. -/
theorem bringUp_ensures_new (h : ∀ r phy, view { r with address := phy } = view r)
    (settings : Settings) (r : PhyRecord) :
    ((bringUp settings).runOn r).Ensures fun _ out => view out.2 = view {} := by
  rw [bringUp, runOn_bind, runOn_set, Program.done_bind]
  exact keeps_bind (discover_keeps h) (fun _ =>
    keeps_bind (reset_keeps settings) fun _ => keeps_bind keeps_get fun _ =>
      keeps_bind keeps_liftM_phy fun _ => keeps_liftM_program) {}

end

/-- **Only a bring-up and a look for a new link change what the caller was told last.** -/
theorem Action.keeps_reported (settings : Settings) {a : Action} (hpolls : a.polls = false)
    (hup : a ≠ .operate .bringUp) : Keeps PhyRecord.reported (a.perform settings) := by
  cases a with
  | resetPin o => exact keeps_bind keeps_liftM_phy fun _ => keeps_pure
  | operate o =>
    by_cases hwrites : o.writesRecord = false
    · exact Operation.keeps settings hwrites
    · cases o with
      | bringUp => exact absurd rfl hup
      | newLink => cases hpolls
      | awaitNewLink timeout => cases hpolls
      | settledState => exact keeps_bind (settledState_keeps_reported settings) fun _ => keeps_pure
      | awaitSpeed => exact keeps_bind (awaitSpeed_keeps_reported settings) fun _ => keeps_pure
      | _ => exact absurd rfl hwrites

end Transceiver

end EthernetPhy
