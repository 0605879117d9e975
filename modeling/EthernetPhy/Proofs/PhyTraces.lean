import EthernetPhy.Bus.Board
import EthernetPhy.Bus.Layers
import EthernetPhy.Proofs.FirstFault
import EthernetPhy.Proofs.SimulatedFrames
import EthernetPhy.Simulator.Bus

/-!
# A run as one PHY sees it

Simulated PHYs share nothing but the lists of frames, so a run on a bus of them is, for each PHY, a
run on that PHY alone: a frame for it gets its answer, and every other event passes it by.

* `SimulatedPhy.Trace lossy a p es p'` : the events `es` lead the PHY at `a` from `p` to `p'`, where
  a frame may be lost on its way to it if frames are `lossy`;
* `SimulatedBus.run_trace`, `SimulatedBus.run_trace_scripted` : **every run is such a trace of every
  PHY**, without losses on a simulated bus, and with losses behind a script that makes frames fail.

What a program ensures of its events therefore says, together with the traces, what it does to each
PHY.  The rest of the file is about the PHYs at which nothing else than a loss can go wrong: a
register is `Clear` if its reads neither fail nor find a queued value, and a PHY is `Healthy` if all
its registers are and all of them can be written.
-/

namespace EthernetPhy

/-! ### Traces of one PHY -/

namespace SimulatedPhy

/-- One event as the PHY at an address may see it. -/
inductive Passes (lossy : Prop) (a : PhyAddress) (p : SimulatedPhy) : Event → SimulatedPhy → Prop
  /-- A read that reaches the PHY. -/
  | read (reg : RegAddress) :
    Passes lossy a p ⟨.read a reg, (p.read reg).1⟩ (p.read reg).2
  /-- A write that reaches the PHY. -/
  | write (reg : RegAddress) (value : Word) :
    Passes lossy a p ⟨.write a reg value, (p.write reg value).1⟩ (p.write reg value).2
  /-- A frame that is lost on its way to the PHY. -/
  | lost (e : Event) (h : lossy) (hphy : e.request.phy? = some a) (hfail : e.failure? ≠ none) :
    Passes lossy a p e p
  /-- An event that is no frame for the PHY. -/
  | other (e : Event) (hphy : e.request.phy? ≠ some a) : Passes lossy a p e p

/-- The events lead the PHY at an address from one state to another. -/
inductive Trace (lossy : Prop) (a : PhyAddress) : SimulatedPhy → List Event → SimulatedPhy → Prop
  | nil (p : SimulatedPhy) : Trace lossy a p [] p
  | cons {p p' p'' : SimulatedPhy} {e : Event} {es : List Event} :
    Passes lossy a p e p' → Trace lossy a p' es p'' → Trace lossy a p (e :: es) p''

variable {lossy : Prop} {a : PhyAddress} {p p' p'' : SimulatedPhy} {reg : RegAddress} {value : Word}
  {e : Event} {es es' : List Event}

@[simp] theorem trace_nil : Trace lossy a p [] p' ↔ p' = p := by
  constructor
  · rintro ⟨⟩
    rfl
  · rintro rfl
    exact .nil _

theorem trace_cons :
    Trace lossy a p (e :: es) p'' ↔ ∃ p', Passes lossy a p e p' ∧ Trace lossy a p' es p'' := by
  constructor
  · rintro (_ | ⟨h, hes⟩)
    exact ⟨_, h, hes⟩
  · rintro ⟨p', h, hes⟩
    exact .cons h hes

theorem trace_append :
    Trace lossy a p (es ++ es') p'' ↔ ∃ p', Trace lossy a p es p' ∧ Trace lossy a p' es' p'' := by
  induction es generalizing p with
  | nil => simp
  | cons e es ih =>
    rw [List.cons_append, trace_cons]
    constructor
    · rintro ⟨q, he, hrest⟩
      obtain ⟨p', hes, hes'⟩ := ih.1 hrest
      exact ⟨p', .cons he hes, hes'⟩
    · rintro ⟨p', hcons, hes'⟩
      obtain ⟨q, he, hes⟩ := trace_cons.1 hcons
      exact ⟨q, he, ih.2 ⟨p', hes, hes'⟩⟩

theorem Passes.of_read {answer : Except BusFault Word}
    (h : Passes lossy a p ⟨.read a reg, answer⟩ p') :
    (answer = (p.read reg).1 ∧ p' = (p.read reg).2) ∨
      lossy ∧ p' = p ∧ ∃ c, answer = .error c := by
  cases h with
  | read => exact .inl ⟨rfl, rfl⟩
  | lost _ hlossy _ hfail =>
    cases answer with
    | ok value => exact absurd rfl hfail
    | error c => exact .inr ⟨hlossy, rfl, c, rfl⟩
  | other _ hphy => exact absurd rfl hphy

theorem Passes.of_write {answer : Except BusFault Unit}
    (h : Passes lossy a p ⟨.write a reg value, answer⟩ p') :
    (answer = (p.write reg value).1 ∧ p' = (p.write reg value).2) ∨
      lossy ∧ p' = p ∧ ∃ c, answer = .error c := by
  cases h with
  | write => exact .inl ⟨rfl, rfl⟩
  | lost _ hlossy _ hfail =>
    cases answer with
    | ok value => exact absurd rfl hfail
    | error c => exact .inr ⟨hlossy, rfl, c, rfl⟩
  | other _ hphy => exact absurd rfl hphy

theorem Passes.of_got {v : Word} (h : Passes lossy a p (.got a reg v) p') :
    p.read reg = (.ok v, p') := by
  obtain ⟨hanswer, rfl⟩ | ⟨-, -, c, hc⟩ := h.of_read
  · rw [hanswer]
  · cases hc

theorem Passes.of_wrote (h : Passes lossy a p (.wrote a reg value) p') : p' = p.accept reg value := by
  obtain ⟨hanswer, rfl⟩ | ⟨-, -, c, hc⟩ := h.of_write
  · unfold SimulatedPhy.write at hanswer ⊢
    split at hanswer
    · cases hanswer
    · rename_i hpasses
      rw [if_neg hpasses]
  · cases hc

theorem Passes.of_other (h : Passes lossy a p e p') (he : e.request.phy? ≠ some a) : p' = p := by
  cases h with
  | read => exact absurd rfl he
  | write => exact absurd rfl he
  | lost => rfl
  | other => rfl

theorem Trace.invariant {I : SimulatedPhy → Prop} (h : Trace lossy a p es p') (h₀ : I p)
    (hread : ∀ p reg, I p → I (p.read reg).2) (hwrite : ∀ p reg value, I p → I (p.write reg value).2) :
    I p' := by
  induction h with
  | nil => exact h₀
  | cons hstep _ ih =>
    cases hstep with
    | read reg => exact ih (hread _ reg h₀)
    | write reg value => exact ih (hwrite _ reg value h₀)
    | lost => exact ih h₀
    | other => exact ih h₀

theorem Trace.mono {lossy' : Prop} (h : Trace lossy a p es p') (hlossy : lossy → lossy') :
    Trace lossy' a p es p' := by
  induction h with
  | nil => exact .nil _
  | cons hstep _ ih =>
    refine .cons ?_ ih
    cases hstep with
    | read reg => exact .read reg
    | write reg value => exact .write reg value
    | lost _ h hphy hfail => exact .lost _ (hlossy h) hphy hfail
    | other _ hphy => exact .other _ hphy

/-- Only the frames matter to a PHY. -/
theorem trace_frames : Trace lossy a p (frames es) p' ↔ Trace lossy a p es p' := by
  induction es generalizing p with
  | nil => rfl
  | cons e es ih =>
    cases hframe : e.request.isFrame with
    | true =>
      rw [frames_cons, if_pos hframe, trace_cons, trace_cons]
      exact exists_congr fun q => and_congr_right fun _ => ih
    | false =>
      have hother : e.request.phy? ≠ some a := by
        rw [Request.phy?_eq_none hframe]
        exact (Option.some_ne_none a).symm
      have hsame : ∀ {q}, Passes lossy a p e q ↔ q = p :=
        ⟨fun h => h.of_other hother, fun h => h ▸ .other e hother⟩
      rw [frames_cons, hframe, if_neg Bool.false_ne_true, ih, trace_cons]
      simp [hsame]

theorem Trace.eq_of_others (h : Trace lossy a p es p')
    (hes : ∀ e ∈ es, e.request.phy? ≠ some a) : p' = p := by
  induction h with
  | nil => rfl
  | cons hstep _ ih =>
    obtain ⟨he, hes⟩ := List.forall_mem_cons.1 hes
    rw [ih hes, hstep.of_other he]

end SimulatedPhy

/-! ### Runs are traces -/

/-- The state of a machine after some requests. -/
def Machine.after {σ : Type} (m : Machine σ) (qs : List Request) (s : σ) : σ :=
  qs.foldl (fun s q => (m.answer q s).2) s

/-- The PHY at an address of a board after some events. -/
def Board.phyAfter (b : Board SimulatedBus) (es : List Event) (a : PhyAddress) : SimulatedPhy :=
  (SimulatedBus.bus.machine.after (es.map Event.request) b).bus.phy a

/-- The PHY at an address behind the script of a board, after some events. -/
def Board.phyBehind (b : Board (Scripted SimulatedBus)) (es : List Event) (a : PhyAddress) :
    SimulatedPhy :=
  (SimulatedBus.bus.scripted.machine.after (es.map Event.request) b).bus.inner.phy a

theorem Program.final_eq_after {σ α : Type} (m : Machine σ) (x : Program α) (s : σ) :
    (x.run m s).final = m.after ((x.run m s).events.map Event.request) s := by
  induction x generalizing s with
  | done a => rfl
  | ask q next ih =>
    rw [run_ask, List.map_cons]
    exact ih _ _

namespace SimulatedPhy

section

variable {σ α : Type} {lossy : Prop} {a : PhyAddress} {m : Machine σ} {I : σ → Prop} {s : σ}
  (phy : σ → SimulatedPhy)

/-- If each answer of a machine is an event of a PHY in it, a run is up to each moment a trace of
this PHY. -/
theorem trace_before (hstep : ∀ q s, I s →
      Passes lossy a (phy s) ⟨q, (m.answer q s).1⟩ (phy (m.answer q s).2) ∧ I (m.answer q s).2)
    (x : Program α) (hs : I s) {before rest : List Event}
    (h : (x.run m s).events = before ++ rest) :
    Trace lossy a (phy s) before (phy (m.after (before.map Event.request) s)) := by
  induction x generalizing s before with
  | done result =>
    obtain ⟨rfl, -⟩ := List.append_eq_nil_iff.1 h.symm
    exact .nil _
  | ask q next ih =>
    cases before with
    | nil => exact .nil _
    | cons e before =>
      rw [Program.run_ask] at h
      obtain ⟨rfl, hrest⟩ := List.cons.inj h
      obtain ⟨hpass, hnext⟩ := hstep q s hs
      exact .cons hpass (ih _ hnext hrest)

theorem trace_run (hstep : ∀ q s, I s →
      Passes lossy a (phy s) ⟨q, (m.answer q s).1⟩ (phy (m.answer q s).2) ∧ I (m.answer q s).2)
    (x : Program α) (hs : I s) :
    Trace lossy a (phy s) (x.run m s).events (phy (x.run m s).final) := by
  rw [Program.final_eq_after]
  exact trace_before phy hstep x hs (List.append_nil _).symm

end

end SimulatedPhy

namespace SimulatedBus

open SimulatedPhy

variable {α : Type} {lossy : Prop}

theorem read_passes (b : SimulatedBus) (phy a : PhyAddress) (reg : RegAddress) :
    Passes lossy a (b.phy a) ⟨.read phy reg, (b.read phy reg).1⟩ ((b.read phy reg).2.phy a) := by
  change Passes lossy a (b.phy a) _ ((b.setPhy phy ((b.phy phy).read reg).2).phy a)
  by_cases h : phy = a
  · subst h
    rw [phy_setPhy_self]
    exact .read reg
  · rw [phy_setPhy_of_ne _ _ h]
    exact .other _ fun hphy => h (Option.some.inj hphy)

theorem write_passes (b : SimulatedBus) (phy a : PhyAddress) (reg : RegAddress) (value : Word) :
    Passes lossy a (b.phy a) ⟨.write phy reg value, (b.write phy reg value).1⟩
      ((b.write phy reg value).2.phy a) := by
  change Passes lossy a (b.phy a) _ ((b.setPhy phy ((b.phy phy).write reg value).2).phy a)
  by_cases h : phy = a
  · subst h
    rw [phy_setPhy_self]
    exact .write reg value
  · rw [phy_setPhy_of_ne _ _ h]
    exact .other _ fun hphy => h (Option.some.inj hphy)

theorem drive_bus {σ : Type} (level : Level) (b : Board σ) : (b.drive level).2.bus = b.bus := by
  unfold Board.drive
  split <;> rfl

theorem answer_passes (q : Request) (b : Board SimulatedBus) (a : PhyAddress) :
    Passes lossy a (b.bus.phy a) ⟨q, (bus.machine.answer q b).1⟩
      ((bus.machine.answer q b).2.bus.phy a) := by
  cases q with
  | read phy reg => exact read_passes b.bus phy a reg
  | write phy reg value => exact write_passes b.bus phy a reg value
  | delay time => exact .other _ nofun
  | log message => exact .other _ nofun
  | drive level =>
    change Passes lossy a (b.bus.phy a) _ ((b.drive level).2.bus.phy a)
    rw [drive_bus]
    exact .other _ nofun

theorem run_trace_before (lossy : Prop) (x : Program α) (b : Board SimulatedBus) (a : PhyAddress)
    {before rest : List Event} (h : (x.run bus.machine b).events = before ++ rest) :
    Trace lossy a (b.bus.phy a) before (b.phyAfter before a) :=
  trace_before (I := fun _ => True) (fun b => b.bus.phy a)
    (fun q b _ => ⟨answer_passes q b a, trivial⟩) x trivial h

/-- **A run on a simulated bus is a trace of each of its PHYs.** -/
theorem run_trace (lossy : Prop) (x : Program α) (b : Board SimulatedBus) (a : PhyAddress) :
    Trace lossy a (b.bus.phy a) (x.run bus.machine b).events
      ((x.run bus.machine b).final.bus.phy a) :=
  trace_run (I := fun _ => True) (fun b => b.bus.phy a)
    (fun q b _ => ⟨answer_passes q b a, trivial⟩) x trivial

end SimulatedBus

/-! ### Runs on which frames are lost -/

/-- Whether an override makes up no answer: it loses a frame, or lets it pass. -/
def Override.isHonest : Override → Bool
  | .fail _ | .forward => true
  | .reply _ => false

/-- Whether no override that is left makes up an answer. -/
def Scripted.Honest {σ : Type} (s : Scripted σ) : Prop := ∀ o ∈ s.overrides, o.isHonest = true

namespace SimulatedBus

open SimulatedPhy

variable {α : Type}

theorem passes_of_failure {a : PhyAddress} {p : SimulatedPhy} {e : Event} (h : e.failure? ≠ none) :
    Passes True a p e p := by
  by_cases hphy : e.request.phy? = some a
  · exact .lost e trivial hphy h
  · exact .other e hphy

/-- A frame behind a script is lost, or it is one on the bus behind. -/
theorem scripted_answer_passes (q : Request) {b : Board (Scripted SimulatedBus)}
    (hb : b.bus.Honest) (a : PhyAddress) :
    let out := bus.scripted.machine.answer q b
    Passes True a (b.bus.inner.phy a) ⟨q, out.1⟩ (out.2.bus.inner.phy a) ∧ out.2.bus.Honest := by
  cases q with
  | read phy reg =>
    obtain ⟨⟨overrides, inner⟩, elapsed, line⟩ := b
    obtain _ | ⟨⟨cause⟩ | ⟨value⟩ | ⟨⟩, rest⟩ := overrides
    · exact ⟨read_passes inner phy a reg, hb⟩
    · exact ⟨passes_of_failure (Option.some_ne_none cause), (List.forall_mem_cons.1 hb).2⟩
    · cases (List.forall_mem_cons.1 hb).1
    · exact ⟨read_passes inner phy a reg, (List.forall_mem_cons.1 hb).2⟩
  | write phy reg value =>
    obtain ⟨⟨overrides, inner⟩, elapsed, line⟩ := b
    obtain _ | ⟨⟨cause⟩ | ⟨value⟩ | ⟨⟩, rest⟩ := overrides
    · exact ⟨write_passes inner phy a reg value, hb⟩
    · exact ⟨passes_of_failure (Option.some_ne_none cause), (List.forall_mem_cons.1 hb).2⟩
    · cases (List.forall_mem_cons.1 hb).1
    · exact ⟨write_passes inner phy a reg value, (List.forall_mem_cons.1 hb).2⟩
  | delay time => exact ⟨.other _ nofun, hb⟩
  | log message => exact ⟨.other _ nofun, hb⟩
  | drive level =>
    change Passes True a (b.bus.inner.phy a) _ ((b.drive level).2.bus.inner.phy a) ∧
      (b.drive level).2.bus.Honest
    rw [drive_bus]
    exact ⟨.other _ nofun, hb⟩

theorem run_trace_scripted_before (x : Program α) {b : Board (Scripted SimulatedBus)}
    (hb : b.bus.Honest) (a : PhyAddress) {before rest : List Event}
    (h : (x.run bus.scripted.machine b).events = before ++ rest) :
    Trace True a (b.bus.inner.phy a) before (b.phyBehind before a) :=
  trace_before (I := fun b : Board (Scripted SimulatedBus) => b.bus.Honest)
    (fun b => b.bus.inner.phy a)
    (fun q _ hb => scripted_answer_passes q hb a) x hb h

/-- **A run behind a script that makes frames fail is a trace with losses of each PHY.** -/
theorem run_trace_scripted (x : Program α) {b : Board (Scripted SimulatedBus)}
    (hb : b.bus.Honest) (a : PhyAddress) :
    Trace True a (b.bus.inner.phy a) (x.run bus.scripted.machine b).events
      ((x.run bus.scripted.machine b).final.bus.inner.phy a) :=
  trace_run (I := fun b : Board (Scripted SimulatedBus) => b.bus.Honest)
    (fun b => b.bus.inner.phy a)
    (fun q _ hb => scripted_answer_passes q hb a) x hb

end SimulatedBus

/-! ### Registers at which nothing goes wrong -/

namespace SimulatedPhy

/-- Reads of a register neither fail nor find a queued value. -/
structure Clear (p : SimulatedPhy) (reg : RegAddress) : Prop where
  passes : reg ∉ p.failingReads
  unlimited : p.readsLeft.get? reg = none
  unqueued : (p.queued.get? reg).getD [] = []

/-- No frame fails at the PHY, and no value is queued there. -/
structure Healthy (p : SimulatedPhy) : Prop where
  clear : ∀ reg, p.Clear reg
  accepts : p.failingWrites = []

variable {lossy : Prop} {a : PhyAddress} {p p' : SimulatedPhy} {reg : RegAddress} {es : List Event}

theorem Clear.passRead (h : p.Clear reg) : p.passRead reg = some p := by
  rw [SimulatedPhy.passRead, if_neg h.passes, h.unlimited]

theorem Clear.takeQueued (h : p.Clear reg) : p.takeQueued reg = none :=
  takeQueued_eq_none h.unqueued

theorem Clear.read (h : p.Clear reg) : p.read reg = (.ok (p.answer reg).1, (p.answer reg).2) := by
  rw [SimulatedPhy.read, h.passRead]

theorem Clear.read_snd (h : p.Clear reg) (hreg : reg ≠ Register.bmcr) : (p.read reg).2 = p := by
  rw [h.read, answer, h.takeQueued, if_neg hreg]
  split
  · rfl
  · split <;> rfl

/-- The PHY stays as it is if it is asked for clear registers only, and every read of one of them
finds the same. -/
theorem Trace.of_reads (h : Trace False a p es p')
    (hes : ∀ e ∈ es, e.request.phy? = some a →
      ∃ reg, e.request = .read a reg ∧ p.Clear reg ∧ reg ≠ Register.bmcr) :
    p' = p ∧ ∀ reg, ∀ reply ∈ replies a reg es, reply = (p.read reg).1 := by
  induction h with
  | nil => exact ⟨rfl, fun reg => List.forall_mem_nil _⟩
  | @cons p q p' e es hstep _ ih =>
    obtain ⟨he, hes⟩ := List.forall_mem_cons.1 hes
    -- The first event changes nothing, so that the rest starts with the same PHY.
    have hfirst : q = p ∧ ∀ reg, ∀ reply ∈ e.reply? a reg, reply = (p.read reg).1 := by
      cases hstep with
      | read reg =>
        obtain ⟨reg', hreq, hclear, hreg⟩ := he rfl
        obtain ⟨-, rfl⟩ := Request.read.inj hreq
        refine ⟨hclear.read_snd hreg, fun reg' reply hreply => ?_⟩
        by_cases hsame : reg = reg'
        · subst hsame
          simpa [eq_comm] using hreply
        · simp [hsame] at hreply
      | write reg value =>
        obtain ⟨reg', hreq, -⟩ := he rfl
        cases hreq
      | lost _ h => exact h.elim
      | other _ hphy =>
        refine ⟨rfl, fun reg reply hreply => ?_⟩
        obtain ⟨q, answer⟩ := e
        cases q with
        | read phy reg' =>
          have hne : phy ≠ a := fun h => hphy (congrArg some h)
          simp [hne] at hreply
        | _ => cases hreply
    obtain ⟨rfl, hreply⟩ := hfirst
    obtain ⟨rfl, hrest⟩ := ih hes
    refine ⟨rfl, fun reg reply hmem => ?_⟩
    rw [replies_cons, List.mem_append] at hmem
    obtain hmem | hmem := hmem
    · exact hreply reg reply (by simpa using hmem)
    · exact hrest reg reply hmem

end SimulatedPhy

end EthernetPhy
