import EthernetPhy.Bus.Board
import EthernetPhy.Clause22.Procedure
import EthernetPhy.Proofs.Waits
import EthernetPhy.Simulator.Setup

/-!
# Raising a bound

Four operations of this library look at something again and again and give up after a bounded number
of looks.  Their loops differ: two of them wait before each look and two after it, and what they do
when they give up differs too.  Still a higher bound changes none of their decisions.

* `Program.CutsShort` : a program that is another one cut short, in that it gives up in some places
  where the other goes on; the rules for it follow the loops;
* `Program.CutsShort.run` : **on every machine, either both run alike, or the first gives up and has
  dealt with its surroundings as the second does at first**;
* `BoundedWait` : the four operations, each with its bound as a parameter;
* `raise_bound` : **with a higher bound a decided outcome stays as it is, down to the last message**, and
  a wait that would have run out goes on from there.
-/

namespace EthernetPhy

open Event

/-- What passed between a program and its surroundings, messages aside. -/
def dealings (es : List Event) : List Event := es.filter fun e => !e.request.isLog

theorem dealings_cons {e : Event} {es : List Event} :
    dealings (e :: es) = if e.request.isLog then dealings es else e :: dealings es := by
  rw [dealings, List.filter_cons]
  cases e.request.isLog <;> rfl

/-! ### Programs that are cut short -/

namespace Program

variable {α β σ : Type} {stop : α → Prop} {p p' : Program α}

/-- At most some messages are left to do, and then there is a result that `stop` accepts. -/
def GivesUp (stop : α → Prop) (p : Program α) : Prop :=
  p.Ensures fun es a => dealings es = [] ∧ stop a

/-- The first program is the second one cut short: it asks for the same, but may give up in places
where the second one goes on. -/
inductive CutsShort (stop : α → Prop) : Program α → Program α → Prop
  /-- Nothing is cut off. -/
  | same (p : Program α) : CutsShort stop p p
  /-- The same request, and what follows is cut short whatever the answer. -/
  | ask {q : Request} {next next' : q.Answer → Program α}
    (h : ∀ answer, CutsShort stop (next answer) (next' answer)) :
    CutsShort stop (.ask q next) (.ask q next')
  /-- The first program gives up. -/
  | gaveUp {p p' : Program α} (h : p.GivesUp stop) : CutsShort stop p p'

namespace CutsShort

theorem bind (x : Program β) {f f' : β → Program α} (h : ∀ b, CutsShort stop (f b) (f' b)) :
    CutsShort stop (x >>= f) (x >>= f') := by
  induction x with
  | done b => exact h b
  | ask q next ih => exact .ask ih

theorem map {f : α → β} {stop' : β → Prop} (h : CutsShort stop p p')
    (hstop : ∀ a, stop a → stop' (f a)) : CutsShort stop' (f <$> p) (f <$> p') := by
  induction h with
  | same p => exact .same _
  | ask _ ih => exact .ask ih
  | gaveUp h =>
    refine .gaveUp ?_
    rw [GivesUp, ensures_map]
    exact h.mono fun es a h => ⟨h.1, hstop a h.2⟩

/-- **A program that is cut short runs like the whole one, or gives up on the way**: then its dealings
are the first ones of the whole one. -/
theorem run (h : CutsShort stop p p') (m : Machine σ) (s : σ) :
    p'.run m s = p.run m s ∨
      stop (p.run m s).result ∧ dealings (p.run m s).events <+: dealings (p'.run m s).events := by
  induction h generalizing s with
  | same p => exact .inl rfl
  | @ask q next next' _ ih =>
    rw [run_ask, run_ask]
    obtain hsame | ⟨hstop, hprefix⟩ := ih (m.answer q s).1 (m.answer q s).2
    · exact .inl (by rw [hsame])
    · refine .inr ⟨hstop, ?_⟩
      rw [dealings_cons, dealings_cons]
      split
      · exact hprefix
      · exact (List.prefix_cons_inj _).2 hprefix
  | gaveUp h =>
    obtain ⟨hnone, hstop⟩ := Ensures.run h m s
    refine .inr ⟨hstop, ?_⟩
    rw [hnone]
    exact List.nil_prefix

end CutsShort

end Program

namespace PhyM

variable {α β : Type} {stop : Except Fault α → Prop}

theorem cutsShort_bind (x : PhyM β) {f f' : β → PhyM α}
    (h : ∀ b, (f b).run.CutsShort stop (f' b).run) :
    (x >>= f).run.CutsShort stop (x >>= f').run := by
  rw [ExceptT.run_bind, ExceptT.run_bind]
  refine .bind _ fun result => ?_
  cases result with
  | error e => exact .same _
  | ok b => exact h b

end PhyM

namespace RecordM

variable {α β : Type} {stop : Except Fault α → Prop} {x x' : RecordM α}

/-- From every record the first operation is the second one cut short. -/
def CutsShort (stop : Except Fault α → Prop) (x x' : RecordM α) : Prop :=
  ∀ r, (x.runOn r).CutsShort (fun out => stop out.1) (x'.runOn r)

/-- From every record an operation gives up. -/
def GivesUp (stop : Except Fault α → Prop) (x : RecordM α) : Prop :=
  ∀ r, (x.runOn r).GivesUp fun out => stop out.1

theorem cutsShort_same (x : RecordM α) : CutsShort stop x x := fun _ => .same _

theorem GivesUp.cutsShort (h : GivesUp stop x) : CutsShort stop x x' := fun r => .gaveUp (h r)

theorem cutsShort_bind (x : RecordM β) {f f' : β → RecordM α}
    (h : ∀ b, CutsShort stop (f b) (f' b)) : CutsShort stop (x >>= f) (x >>= f') := by
  intro r
  rw [runOn_bind, runOn_bind]
  refine .bind _ fun out => ?_
  obtain ⟨e | b, r'⟩ := out
  · exact .same _
  · exact h b r'

theorem cutsShort_phy {y y' : PhyM α} (h : y.run.CutsShort stop y'.run) :
    CutsShort stop (liftM y) (liftM y') := by
  intro r
  rw [runOn_liftM_phy, runOn_liftM_phy]
  exact h.map fun _ hstop => hstop

theorem CutsShort.return {f : α → β} {stop' : Except Fault β → Prop} (h : CutsShort stop x x')
    (hstop : ∀ result, stop result → stop' (result.map f)) :
    CutsShort stop' (do return f (← x)) (do return f (← x')) := by
  intro r
  rw [bind_pure_comp, bind_pure_comp, runOn_map, runOn_map]
  exact (h r).map fun out => hstop out.1

/-- With fewer looks a wait for a register is cut short. -/
theorem lookOut_cutsShort {stop : Except Fault Unit → Prop} {interval : UInt32} {phy : PhyAddress}
    {reg : RegAddress} {test : Word → Bool} {found : Word → RecordM Unit} {ranOut : RecordM Unit}
    {looks looks' : Nat} (hlooks : looks ≤ looks') (hout : GivesUp stop ranOut) :
    CutsShort stop (lookOut interval phy reg test found ranOut looks)
      (lookOut interval phy reg test found ranOut looks') := by
  induction looks generalizing looks' with
  | zero => exact hout.cutsShort
  | succ looks ih =>
    obtain _ | looks' := looks'
    · omega
    rw [lookOut, lookOut]
    refine cutsShort_bind _ fun _ => cutsShort_bind _ fun value => ?_
    split
    · exact cutsShort_same _
    · exact ih (Nat.le_of_succ_le_succ hlooks)

end RecordM

open RecordM

/-! ### The four waits -/

/-- A wait that has run out. -/
abbrev TimedOut {α : Type} (result : Except Fault α) : Prop := result = .error .timeout

namespace Clause22

theorem awaitReset_cutsShort {phy : PhyAddress} {looks looks' : Nat} (h : looks ≤ looks') :
    (awaitReset phy looks).run.CutsShort TimedOut (awaitReset phy looks').run := by
  induction looks generalizing looks' with
  | zero => exact .gaveUp fun _ => ⟨rfl, rfl⟩
  | succ looks ih =>
    obtain _ | looks' := looks'
    · omega
    rw [awaitReset, awaitReset]
    refine PhyM.cutsShort_bind _ fun control => ?_
    split
    · exact PhyM.cutsShort_bind _ fun _ => ih (Nat.le_of_succ_le_succ h)
    · exact .same _

theorem reset_cutsShort (phy : PhyAddress) {polls polls' : UInt32} (h : polls ≤ polls') :
    (reset phy polls).run.CutsShort TimedOut (reset phy polls').run :=
  PhyM.cutsShort_bind _ fun _ =>
    awaitReset_cutsShort (Nat.succ_le_succ (UInt32.le_iff_toNat_le.1 h))

theorem looks_le {timeout timeout' : UInt32} (h : timeout ≤ timeout') :
    (timeout / Timing.negotiationInterval).toNat ≤
      (timeout' / Timing.negotiationInterval).toNat := by
  rw [looks_eq, looks_eq]
  exact Nat.div_le_div_right (UInt32.le_iff_toNat_le.1 h)

theorem trackLink_cutsShort {timeout timeout' : UInt32} (h : timeout ≤ timeout') :
    CutsShort TimedOut (trackLink timeout) (trackLink timeout') := by
  rw [trackLink, trackLink]
  refine cutsShort_bind _ fun record => cutsShort_bind _ fun status => ?_
  split
  · exact cutsShort_same _
  split
  · exact cutsShort_same _
  refine cutsShort_bind _ fun _ => ?_
  rw [awaitNegotiation_eq_lookOut, awaitNegotiation_eq_lookOut]
  exact lookOut_cutsShort (looks_le h) fun r _ => ⟨rfl, rfl⟩

end Clause22

namespace Transceiver

theorem awaitSpeed_cutsShort (settings : Settings) {polls polls' : UInt32} (h : polls ≤ polls') :
    CutsShort TimedOut (awaitSpeed { settings with speedPolls := polls })
      (awaitSpeed { settings with speedPolls := polls' }) := by
  rw [awaitSpeed, awaitSpeed]
  refine cutsShort_bind _ fun record => cutsShort_bind _ fun status => ?_
  split
  · exact cutsShort_same _
  refine cutsShort_bind _ fun _ => ?_
  rw [awaitResolution_eq_lookOut, awaitResolution_eq_lookOut]
  exact lookOut_cutsShort (UInt32.le_iff_toNat_le.1 h) fun r _ => ⟨rfl, rfl⟩

theorem awaitNewLinkWithin_cutsShort {looks looks' : Nat} (h : looks ≤ looks') :
    CutsShort (· = .ok none) (awaitNewLinkWithin looks) (awaitNewLinkWithin looks') := by
  induction looks generalizing looks' with
  | zero => exact GivesUp.cutsShort fun r => ⟨rfl, rfl⟩
  | succ looks ih =>
    obtain _ | looks' := looks'
    · omega
    rw [awaitNewLinkWithin, awaitNewLinkWithin]
    refine cutsShort_bind _ fun mode => ?_
    cases mode with
    | some mode => exact cutsShort_same _
    | none => exact cutsShort_bind _ fun _ => ih (Nat.le_of_succ_le_succ h)

theorem awaitNewLink_cutsShort {timeout timeout' : UInt32} (h : timeout ≤ timeout') :
    CutsShort (· = .ok none) (awaitNewLink timeout) (awaitNewLink timeout') := by
  refine awaitNewLinkWithin_cutsShort ?_
  have hlooks := Clause22.looks_le h
  rw [looksFor, looksFor]
  omega

end Transceiver

/-! ### Decided outcomes -/

/-- An operation that looks at something until a bound is reached. -/
inductive BoundedWait where
  /-- Reset a PHY; the bound is on the looks after the first one. -/
  | reset (phy : PhyAddress)
  /-- Bring the link state of the record up to date; the bound is on the milliseconds. -/
  | negotiation
  /-- Wait until the speed is resolved; the bound is on the looks after the first one, in place of the
  one in the settings. -/
  | speed (settings : Settings)
  /-- Look for a new link; the bound is on the milliseconds. -/
  | newLink

namespace BoundedWait

/-- Performs a wait with a bound. -/
def perform (bound : UInt32) : BoundedWait → RecordM Answer
  | reset phy => do Clause22.reset phy bound; return .done
  | negotiation => do Clause22.trackLink bound; return .done
  | speed settings => do
    Transceiver.awaitSpeed { settings with speedPolls := bound }
    return .done
  | newLink => return .mode (← Transceiver.awaitNewLink bound)

/-- Whether a wait has run out: it says so, except that a wait for a new link just has not found one. -/
def RanOut : BoundedWait → Except Fault Answer → Prop
  | newLink, result => result = .ok (.mode none)
  | reset _, result | negotiation, result | speed _, result => TimedOut result

theorem perform_cutsShort (w : BoundedWait) {bound bound' : UInt32} (h : bound ≤ bound') :
    CutsShort w.RanOut (w.perform bound) (w.perform bound') := by
  have htimedOut : ∀ {α : Type} {f : α → Answer} (result : Except Fault α),
      TimedOut result → TimedOut (result.map f) := by
    rintro α f _ rfl
    rfl
  cases w with
  | reset phy => exact (cutsShort_phy (Clause22.reset_cutsShort phy h)).return htimedOut
  | negotiation => exact (Clause22.trackLink_cutsShort h).return htimedOut
  | speed settings => exact (Transceiver.awaitSpeed_cutsShort settings h).return htimedOut
  | newLink =>
    refine (Transceiver.awaitNewLink_cutsShort h).return ?_
    rintro _ rfl
    rfl

/-- **Raising a bound never changes a decided outcome**, on every bus, from every record and for every
two bounds: a wait that does not run out with the lower one does exactly the same with the higher one,
with the same result, and it leaves the same record and the same machine.  One that runs out has dealt
with the bus and the clock as the other one does at first. -/
theorem raise_bound {σ : Type} (m : Machine σ) (s : σ) (r : PhyRecord) (w : BoundedWait)
    {bound bound' : UInt32} (h : bound ≤ bound') :
    let lower := ((w.perform bound).runOn r).run m s
    let higher := ((w.perform bound').runOn r).run m s
    (¬w.RanOut lower.result.1 → higher = lower) ∧
      (w.RanOut lower.result.1 → dealings lower.events <+: dealings higher.events) := by
  intro lower higher
  obtain hsame | ⟨hout, hprefix⟩ := (w.perform_cutsShort h r).run m s
  · have hevents : dealings lower.events = dealings higher.events := by
      rw [show higher = lower from hsame]
    exact ⟨fun _ => hsame, fun _ => hevents ▸ List.prefix_rfl⟩
  · exact ⟨fun hdecided => absurd hout hdecided, fun _ => hprefix⟩

/-- A PHY whose speed is resolved at the third look. -/
def lateSpeed : Board SimulatedBus :=
  { bus := SimulatedBus.apply (SimulatedBus.apply {} 0 .powerUp) 0
      (.queue Register.physr [0, 0, Physr.resolved]) }

/-- One look after the first one is too few for it, and with two or with a thousand the outcome is the
same. -/
theorem raise_bound_thirdLook :
    let w := speed {}
    let out (bound : UInt32) := ((w.perform bound).runOn {}).run SimulatedBus.bus.machine lateSpeed
    ((1 : UInt32) ≤ 2 ∧ w.RanOut (out 1).result.1 ∧
      dealings (out 1).events <+: dealings (out 2).events) ∧
      (2 : UInt32) ≤ 1000 ∧ ¬w.RanOut (out 2).result.1 ∧ out 1000 = out 2 := by
  have hout : (((speed {}).perform 1).runOn {}
      |>.run SimulatedBus.bus.machine lateSpeed).result.1 = .error .timeout := by rfl
  have hdone : (((speed {}).perform 2).runOn {}
      |>.run SimulatedBus.bus.machine lateSpeed).result.1 = .ok .done := by rfl
  have hdecided : ¬(speed {}).RanOut (((speed {}).perform 2).runOn {}
      |>.run SimulatedBus.bus.machine lateSpeed).result.1 := by
    rw [hdone]
    exact nofun
  exact ⟨⟨by decide, hout, (raise_bound _ lateSpeed {} (speed {}) (by decide)).2 hout⟩,
    by decide, hdecided, (raise_bound _ lateSpeed {} (speed {}) (by decide)).1 hdecided⟩

end BoundedWait

end EthernetPhy
