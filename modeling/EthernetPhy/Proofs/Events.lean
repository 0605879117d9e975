import EthernetPhy.Program.Run
import EthernetPhy.Word
import Mathlib.Algebra.GroupWithZero.Nat

/-!
# Events

What a statement about a run may say of its events: which of them are frames on the bus, which of
these failed, what the reads of one register found, and what was asked and how much time it took.
-/

namespace EthernetPhy

namespace Request

/-- A management frame. -/
@[simp] def isFrame : Request → Bool
  | read .. | write .. => true
  | _ => false

/-- A frame that writes a register. -/
@[simp] def isWrite : Request → Bool
  | write .. => true
  | _ => false

/-- A wait. -/
@[simp] def isDelay : Request → Bool
  | delay _ => true
  | _ => false

/-- A message. -/
@[simp] def isLog : Request → Bool
  | log _ => true
  | _ => false

/-- The nanoseconds that a request takes. -/
def nanoseconds : Request → Nat
  | delay time => time.nanoseconds
  | _ => 0

end Request

namespace Event

/-- A read that found `v`. -/
abbrev got (phy : PhyAddress) (reg : RegAddress) (v : Word) : Event := ⟨.read phy reg, .ok v⟩

/-- A read that failed. -/
abbrev lost (phy : PhyAddress) (reg : RegAddress) (c : BusFault) : Event :=
  ⟨.read phy reg, .error c⟩

/-- A write that was accepted. -/
abbrev wrote (phy : PhyAddress) (reg : RegAddress) (value : Word) : Event :=
  ⟨.write phy reg value, .ok ()⟩

/-- A write that failed. -/
abbrev refused (phy : PhyAddress) (reg : RegAddress) (value : Word) (c : BusFault) : Event :=
  ⟨.write phy reg value, .error c⟩

/-- A wait of some milliseconds. -/
abbrev slept (ms : UInt32) : Event := ⟨.delay (.ms ms), ()⟩

/-- A message. -/
abbrev logged (message : Message) : Event := ⟨.log message, ()⟩

/-- Why a frame failed, if it did. -/
@[simp] def failure? : Event → Option BusFault
  | ⟨.read .., .error c⟩ | ⟨.write .., .error c⟩ => some c
  | ⟨.read .., .ok _⟩ | ⟨.write .., .ok _⟩ | ⟨.delay _, _⟩ | ⟨.drive _, _⟩ | ⟨.log _, _⟩ => none

theorem failure?_eq_none {e : Event} (h : e.request.isFrame = false) : e.failure? = none := by
  obtain ⟨q, answer⟩ := e
  cases q <;> first | rfl | cases h

/-- The answer to a read of one register. -/
@[simp] def reply? (phy : PhyAddress) (reg : RegAddress) : Event → Option (Except BusFault Word)
  | ⟨.read phy' reg', answer⟩ => if phy' = phy ∧ reg' = reg then some answer else none
  | ⟨.write .., _⟩ | ⟨.delay _, _⟩ | ⟨.drive _, _⟩ | ⟨.log _, _⟩ => none

end Event

/-- The answers to the reads of one register, in order. -/
def replies (phy : PhyAddress) (reg : RegAddress) (es : List Event) :
    List (Except BusFault Word) :=
  es.filterMap (Event.reply? phy reg)

/-- The frames among some events, in order. -/
def frames (es : List Event) : List Event := es.filter fun e => e.request.isFrame

section

variable {phy : PhyAddress} {reg : RegAddress} {e : Event} {es es' : List Event}

@[simp] theorem replies_nil : replies phy reg [] = [] := rfl

@[simp] theorem replies_cons :
    replies phy reg (e :: es) = (e.reply? phy reg).toList ++ replies phy reg es := by
  rw [replies, List.filterMap_cons]
  cases e.reply? phy reg <;> rfl

@[simp] theorem replies_append :
    replies phy reg (es ++ es') = replies phy reg es ++ replies phy reg es' :=
  List.filterMap_append

theorem replies_eq_nil {phy' : PhyAddress} {reg' : RegAddress}
    (h : ∀ e ∈ es, e.request.isFrame = true → e.request = .read phy' reg') (hne : reg' ≠ reg) :
    replies phy reg es = [] := by
  rw [replies, List.filterMap_eq_nil_iff]
  rintro ⟨q, answer⟩ he
  have hq := h _ he
  cases q with
  | read phy'' reg'' =>
    obtain ⟨-, rfl⟩ := Request.read.inj (hq rfl)
    simp [hne]
  | _ => rfl

@[simp] theorem frames_nil : frames [] = [] := rfl

@[simp] theorem frames_cons :
    frames (e :: es) = if e.request.isFrame then e :: frames es else frames es :=
  List.filter_cons

@[simp] theorem frames_append : frames (es ++ es') = frames es ++ frames es' :=
  List.filter_append ..

theorem replies_eq_nil_of_frames (h : frames es = []) : replies phy reg es = [] := by
  rw [frames, List.filter_eq_nil_iff] at h
  rw [replies, List.filterMap_eq_nil_iff]
  rintro ⟨q, answer⟩ he
  cases q with
  | read phy' reg' => exact absurd rfl (h _ he)
  | _ => rfl

end

/-! ### What is asked, and the time that it takes -/

/-- The requests in some events, without messages. -/
def asked (es : List Event) : List Request :=
  (es.filter fun e => !e.request.isLog).map Event.request

/-- Some requests, one time after the other. -/
def times (n : Nat) (qs : List Request) : List Request := (List.replicate n qs).flatten

/-- The nanoseconds that were waited in some events. -/
def waited (es : List Event) : Nat := (es.map fun e => e.request.nanoseconds).sum

section

variable {e : Event} {es es' : List Event} {n : Nat} {qs : List Request}

@[simp] theorem asked_nil : asked [] = [] := rfl

@[simp] theorem asked_cons :
    asked (e :: es) = if e.request.isLog then asked es else e.request :: asked es := by
  rw [asked, List.filter_cons]
  cases e.request.isLog <;> rfl

@[simp] theorem asked_append : asked (es ++ es') = asked es ++ asked es' := by
  simp [asked]

theorem times_succ : times (n + 1) qs = qs ++ times n qs := rfl

theorem times_succ' : times (n + 1) qs = times n qs ++ qs := by
  simp [times, List.replicate_succ']

@[simp] theorem waited_nil : waited [] = 0 := rfl

@[simp] theorem waited_cons : waited (e :: es) = e.request.nanoseconds + waited es := rfl

@[simp] theorem waited_append : waited (es ++ es') = waited es + waited es' := by
  rw [waited, List.map_append, List.sum_append, waited, waited]

theorem waited_eq_zero (h : ∀ e ∈ es, e.request.isDelay = false) : waited es = 0 := by
  induction es with
  | nil => rfl
  | cons e es ih =>
    obtain ⟨he, hes⟩ := List.forall_mem_cons.1 h
    have htime : e.request.nanoseconds = 0 := by
      obtain ⟨q, answer⟩ := e
      cases q <;> first | rfl | cases he
    rw [waited_cons, htime, ih hes]

/-- Messages take no time. -/
theorem waited_eq_sum_asked : waited es = ((asked es).map Request.nanoseconds).sum := by
  induction es with
  | nil => rfl
  | cons e es ih =>
    rw [waited_cons, ih, asked_cons]
    split
    · rename_i hlog
      have htime : e.request.nanoseconds = 0 := by
        obtain ⟨q, answer⟩ := e
        cases q <;> first | rfl | cases hlog
      rw [htime, Nat.zero_add]
    · rw [List.map_cons, List.sum_cons]

theorem sum_nanoseconds_times : ((times n qs).map Request.nanoseconds).sum =
    n * (qs.map Request.nanoseconds).sum := by
  induction n with
  | zero => rw [Nat.zero_mul]; rfl
  | succ n ih => rw [times_succ, List.map_append, List.sum_append, ih, Nat.succ_mul, Nat.add_comm]

end

end EthernetPhy
