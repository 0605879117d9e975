import EthernetPhy.Proofs.Footprints
import EthernetPhy.Proofs.LinkEdges
import Mathlib.Data.List.Basic
import Mathlib.Logic.Function.Iterate

/-!
# Waits for a new link

`Transceiver.awaitNewLink` looks for a new link again and again, and waits after each look that told
nothing.  Think of looks and waits that alternate for ever, whatever the looks tell: a wait for a new
link is the beginning of that, up to the first look that tells something or fails, or up to the bound.

* `nthPoll` : the looks, if they went on for ever;
* `pollsOfWait_eq_append` : a wait makes as many of them as told nothing, and goes on from there;
* `SawLink` : a driver of whose looks since the last bring-up the last one that did not fail saw the
  link;
* `awaitNewLink_run` : **which looks a wait makes, what it comes back with and how long it takes**, and
  that it comes back with nothing if the link has been there all the time.

What carries the last point is `Poll.Sound.quiet`: a look at a link that the caller knows of tells
nothing and leaves the caller knowing of it.
-/

namespace EthernetPhy

open Event RecordM

namespace Transceiver

section

variable {σ : Type} (m : Machine σ)

/-- The record and the machine after a look for a new link and a wait. -/
def afterRound (x : PhyRecord × σ) : PhyRecord × σ :=
  let out := (newLink.runOn x.1).run m x.2
  (out.result.2, (m.answer (.delay (.ms Timing.negotiationInterval)) out.final).2)

/-- The looks at a link, each but the first one after a look and a wait, without a bound and whatever
they tell. -/
def nthPoll (r : PhyRecord) (s : σ) (i : Nat) : Poll :=
  let x := (afterRound m)^[i] (r, s)
  pollOnce m x.1 x.2

variable {m} {r : PhyRecord} {s : σ} {k looks : Nat}

theorem pollsOfWait_succ_of_none (h : (nthPoll m r s 0).result = .ok none) :
    pollsOfWait m (looks + 1) r s = nthPoll m r s 0 ::
      pollsOfWait m looks (afterRound m (r, s)).1 (afterRound m (r, s)).2 := by
  have hresult : ((newLink.runOn r).run m s).result.1 = .ok none := h
  rw [pollsOfWait]
  simp only [hresult]
  rfl

/-- **A wait goes on after looks that told nothing** as a wait with a lower bound does from there. -/
theorem pollsOfWait_eq_append (h : ∀ i < k, (nthPoll m r s i).result = .ok none) :
    pollsOfWait m (k + looks) r s = (List.range k).map (nthPoll m r s) ++
      pollsOfWait m looks ((afterRound m)^[k] (r, s)).1 ((afterRound m)^[k] (r, s)).2 := by
  induction k generalizing r s with
  | zero => rw [Nat.zero_add]; rfl
  | succ k ih =>
    have hrest : ∀ i < k,
        (nthPoll m (afterRound m (r, s)).1 (afterRound m (r, s)).2 i).result = .ok none :=
      fun i hi => h (i + 1) (Nat.succ_lt_succ hi)
    rw [Nat.succ_add, pollsOfWait_succ_of_none (h 0 (Nat.succ_pos k)), ih hrest,
      List.range_succ_eq_map, List.map_cons, List.map_map]
    rfl

theorem pollsOfWait_of_undecided (h : ∀ i < looks, (nthPoll m r s i).result = .ok none) :
    pollsOfWait m looks r s = (List.range looks).map (nthPoll m r s) := by
  rw [← Nat.add_zero looks, pollsOfWait_eq_append h, pollsOfWait, List.append_nil, Nat.add_zero]

theorem pollsOfWait_of_decided (hk : k < looks) (h : ∀ i < k, (nthPoll m r s i).result = .ok none)
    (hdecided : (nthPoll m r s k).result ≠ .ok none) :
    pollsOfWait m looks r s = (List.range k).map (nthPoll m r s) ++ [nthPoll m r s k] := by
  obtain ⟨rest, rfl⟩ := Nat.exists_eq_add_of_lt hk
  rw [Nat.add_assoc, pollsOfWait_eq_append h, pollsOfWait]
  congr 2
  split
  · rename_i hnone
    exact absurd hnone hdecided
  · rfl

/-! ### What a wait does -/

theorem Poll.pause_of_none {p : Poll} (h : p.result = .ok none) :
    p.pause = [slept Timing.negotiationInterval] := by
  rw [Poll.pause, h]

theorem Poll.pause_of_decided {p : Poll} (h : p.result ≠ .ok none) : p.pause = [] := by
  rw [Poll.pause]
  split
  · rename_i hnone
    exact absurd hnone h
  · rfl

variable (m r s) in
/-- The first looks at a link, each with the wait after it. -/
def lookRounds (k : Nat) : List Event :=
  (List.range k).flatMap fun i => (nthPoll m r s i).events ++ [slept Timing.negotiationInterval]

theorem flatMap_pause (h : ∀ i < k, (nthPoll m r s i).result = .ok none) :
    (((List.range k).map (nthPoll m r s)).flatMap fun p => p.events ++ p.pause) =
      lookRounds m r s k := by
  rw [List.flatMap_map]
  exact List.flatMap_congr fun i hi => by rw [Poll.pause_of_none (h i (List.mem_range.1 hi))]

theorem waited_nthPoll (i : Nat) : waited (nthPoll m r s i).events = 0 := by
  have hlook : ∀ (r : PhyRecord) (s : σ), waited (pollOnce m r s).events = 0 := fun r s =>
    waited_eq_zero fun e he => (((newLink_within r rfl).run m s).1 e he).isDelay_eq_false rfl
  exact hlook _ _

/-- The rounds of a wait take the time between two looks, each. -/
theorem waited_lookRounds (k : Nat) : waited (lookRounds m r s k) = k * 50 * 1000000 := by
  induction k with
  | zero =>
    rw [Nat.zero_mul]
    rfl
  | succ k ih =>
    have hstep : lookRounds m r s (k + 1) = lookRounds m r s k ++
        ((nthPoll m r s k).events ++ [slept Timing.negotiationInterval]) := by
      rw [lookRounds, List.range_succ, List.flatMap_append, List.flatMap_singleton, lookRounds]
    have hpause : waited [slept Timing.negotiationInterval] = 50 * 1000000 := by decide
    rw [hstep, waited_append, waited_append, waited_nthPoll, hpause, ih]
    omega

/-! ### A link that is there all the time -/

/-- A look at a link that the caller knows of tells nothing, and the caller goes on to know of it. -/
theorem Poll.Sound.quiet {p : Poll} (h : p.Sound) (hknown : p.before.reported = .up)
    (hseen : p.sighting.isSome) : p.result = .ok none ∧ p.after.reported = .up := by
  cases hresult : p.result with
  | error e =>
    rw [h.blind e hresult] at hseen
    cases hseen
  | ok told =>
    obtain ⟨htold, hafter⟩ := h.told told hresult
    rw [hknown] at htold
    rw [hseen] at hafter
    exact ⟨by rw [htold]; rfl, hafter⟩

theorem nthPoll_before_succ (i : Nat) :
    (nthPoll m r s (i + 1)).before = (nthPoll m r s i).after := by
  simp only [nthPoll, Function.iterate_succ_apply', pollOnce, afterRound]

/-- **If the caller knows of the link and all looks that are made see it, none of them tells anything.** -/
theorem nthPoll_of_known (hknown : r.reported = .up) {n : Nat}
    (hseen : ∀ i < n, (∀ j < i, (nthPoll m r s j).result = .ok none) →
      (nthPoll m r s i).sighting.isSome) :
    ∀ i < n, (nthPoll m r s i).result = .ok none ∧ (nthPoll m r s i).after.reported = .up := by
  induction n with
  | zero => exact fun i hi => absurd hi (Nat.not_lt_zero i)
  | succ n ih =>
    have hearlier := ih fun i hi => hseen i (Nat.lt_succ_of_lt hi)
    have hbefore : (nthPoll m r s n).before.reported = .up := by
      cases n with
      | zero => exact hknown
      | succ n =>
        rw [nthPoll_before_succ]
        exact (hearlier n (Nat.lt_succ_self n)).2
    have hlast := (pollOnce_sound m _ _).quiet hbefore
      (hseen n (Nat.lt_succ_self n) fun j hj => (hearlier j hj).1)
    intro i hi
    obtain hi | rfl := Nat.lt_succ_iff_lt_or_eq.1 hi
    · exact hearlier i hi
    · exact hlast

/-- The link that the last look among some that did not fail saw, if it saw one. -/
def lastSighting (polls : List Poll) : Option LinkMode :=
  ((polls.filter Poll.succeeded).map Poll.sighting).getLastD none

/-- After some looks the caller knows of the link exactly if the last one that did not fail saw it. -/
theorem Chained.reported_eq {ps : List Poll} {a b : LinkState} (h : Chained a ps b)
    {last : Option LinkMode} (hlast : a = .ofBool last.isSome) :
    b = .ofBool (((ps.filter Poll.succeeded).map Poll.sighting).getLastD last).isSome := by
  induction h generalizing last with
  | nil => exact hlast
  | @cons p rest b hp _ ih =>
    cases hr : p.result with
    | error e =>
      rw [List.filter_cons_of_neg (Poll.not_succeeded hr)]
      exact ih (by rw [(hp.failed e hr).2, hlast])
    | ok told =>
      rw [List.filter_cons_of_pos (Poll.succeeded_of_ok hr), List.map_cons, List.getLastD_cons]
      exact ih (hp.told told hr).2

variable (m) in
/-- A driver that has seen the link: of its looks since the last bring-up the last one that did not fail
saw it, whatever else the driver has done. -/
inductive SawLink (settings : Settings) : PhyRecord → σ → Prop
  /-- After some actions from a new record or from a bring-up. -/
  | after {r : PhyRecord} {s : σ} {actions : List Action} (h : Started m settings r s)
    (hup : .operate .bringUp ∉ actions)
    (hlast : (lastSighting (pollsOf m settings actions r s)).isSome) :
    SawLink settings (Session.acts m settings { record := r, state := s } actions).record
      (Session.acts m settings { record := r, state := s } actions).state

theorem SawLink.reported_eq {settings : Settings} (h : SawLink m settings r s) :
    r.reported = .up := by
  cases h with
  | @after r₀ s₀ actions hstart hup hlast =>
    have hnew : r₀.reported = .ofBool (none : Option LinkMode).isSome := hstart.reported_eq
    have hchain := pollsOf_chained_acts m settings hup { record := r₀, state := s₀ }
    rw [lastSighting] at hlast
    rw [hchain.reported_eq hnew, hlast]
    rfl

/-! ### Waits for a new link -/

/-- **How a wait for a new link goes**, on every machine and from every record: it looks until a look
tells of a link or fails, with a wait of 50 milliseconds after each look before that one and none
after it, and it comes back with what that look came back with.  If no look decides, it comes back
with nothing after the last wait.  So it takes no longer than it may, unless that is less than one
wait.  Whoever has seen the link and sees it in every look is told nothing. -/
theorem awaitNewLink_run {σ : Type} (m : Machine σ) (s : σ) (r : PhyRecord) (timeout : UInt32) :
    let n := max 1 (timeout.toNat / 50)
    let poll := nthPoll m r s
    let out := ((awaitNewLink timeout).runOn r).run m s
    (∀ k < n, (∀ i < k, (poll i).result = .ok none) → (poll k).result ≠ .ok none →
        out.result = ((poll k).result, (poll k).after) ∧
          out.events = lookRounds m r s k ++ (poll k).events ∧
          waited out.events = k * 50 * 1000000) ∧
      ((∀ i < n, (poll i).result = .ok none) →
        out.result = (.ok none, (poll (n - 1)).after) ∧ out.events = lookRounds m r s n ∧
          waited out.events = n * 50 * 1000000) ∧
      (if 50 ≤ timeout.toNat then n * 50 ≤ timeout.toNat else n * 50 = 50) ∧
      ∀ settings, SawLink m settings r s →
        (∀ i < n, (∀ j < i, (poll j).result = .ok none) → (poll i).sighting.isSome) →
          out.result.1 = .ok none := by
  intro n poll out
  have hlooks : looksFor timeout = n := by
    rw [looksFor, Clause22.looks_eq]
  have hn : n ≠ 0 := by omega
  obtain ⟨hresult, hevents⟩ : out.result = _ ∧ out.events = _ := run_awaitNewLinkWithin m _ r s
  rw [hlooks] at hresult hevents
  have hundecided : (∀ i < n, (poll i).result = .ok none) →
      out.result = (.ok none, (poll (n - 1)).after) ∧ out.events = lookRounds m r s n := by
    intro hnone
    rw [pollsOfWait_of_undecided hnone] at hresult hevents
    rw [List.getLast?_map, List.getLast?_range, if_neg hn] at hresult
    refine ⟨hresult.trans ?_, hevents.trans (flatMap_pause hnone)⟩
    exact Prod.ext (hnone (n - 1) (by omega)) rfl
  refine ⟨fun k hk hnone hdecided => ?_, fun hnone => ?_, ?_, fun settings hsaw hseen => ?_⟩
  · rw [pollsOfWait_of_decided hk hnone hdecided] at hresult hevents
    rw [List.getLast?_concat] at hresult
    rw [List.flatMap_append, flatMap_pause hnone, List.flatMap_singleton,
      Poll.pause_of_decided hdecided, List.append_nil] at hevents
    refine ⟨hresult, hevents, ?_⟩
    rw [hevents, waited_append, waited_lookRounds, waited_nthPoll, Nat.add_zero]
  · obtain ⟨hout, hrounds⟩ := hundecided hnone
    exact ⟨hout, hrounds, by rw [hrounds, waited_lookRounds]⟩
  · split <;> omega
  · have hquiet := nthPoll_of_known hsaw.reported_eq hseen
    rw [(hundecided fun i hi => (hquiet i hi).1).1]

/-- A PHY whose gigabit link is up after the first look. -/
def lateLink : Board SimulatedBus :=
  { bus := ((SimulatedBus.apply {} 0 .powerUp).apply 0 .linkUpGigabitFull).apply 0
      (.queue Register.bmsr [0, 0]) }

/-- A driver that has waited for that link. -/
def waitedOnce : Session (Board SimulatedBus) :=
  Session.acts SimulatedBus.bus.machine {} { state := lateLink } [.operate (.awaitNewLink 120)]

/-- The link is told at the second look, after one wait; a wait after that finds nothing new, and takes
the time of two. -/
theorem awaitNewLink_run_gigabit :
    let run (r : PhyRecord) (s : Board SimulatedBus) :=
      ((awaitNewLink 120).runOn r).run SimulatedBus.bus.machine s
    ((run {} lateLink).result.1 = .ok (some ⟨.mbps1000, .full⟩) ∧
        waited (run {} lateLink).events = 1 * 50 * 1000000) ∧
      SawLink SimulatedBus.bus.machine {} waitedOnce.record waitedOnce.state ∧
      (run waitedOnce.record waitedOnce.state).result.1 = .ok none ∧
        waited (run waitedOnce.record waitedOnce.state).events = 2 * 50 * 1000000 := by
  have hfirst : ∀ i < 1,
      (nthPoll SimulatedBus.bus.machine {} lateLink i).result = .ok none := by
    decide +kernel
  have hsecond : (nthPoll SimulatedBus.bus.machine {} lateLink 1).result =
      .ok (some ⟨.mbps1000, .full⟩) := by
    decide +kernel
  have hdecided : (nthPoll SimulatedBus.bus.machine {} lateLink 1).result ≠ .ok none := by
    rw [hsecond]
    exact nofun
  have hsaw : SawLink SimulatedBus.bus.machine {} waitedOnce.record waitedOnce.state :=
    .after (.new lateLink) (by decide) (by decide +kernel)
  have hseen : ∀ i < 2, (nthPoll SimulatedBus.bus.machine waitedOnce.record waitedOnce.state
      i).sighting.isSome := by
    decide +kernel
  have hnone := nthPoll_of_known hsaw.reported_eq fun i hi _ => hseen i hi
  obtain ⟨hresult, -, htime⟩ :=
    (awaitNewLink_run SimulatedBus.bus.machine lateLink {} 120).1 1 (by decide) hfirst hdecided
  have hagain := awaitNewLink_run SimulatedBus.bus.machine waitedOnce.state waitedOnce.record 120
  have hnothing := hagain.2.2.2 {} hsaw fun i hi _ => hseen i hi
  have htimes := (hagain.2.1 fun i hi => (hnone i hi).1).2.2
  intro run
  refine ⟨⟨?_, htime⟩, hsaw, hnothing, htimes⟩
  simp only [run, hresult, hsecond]

end

end Transceiver

end EthernetPhy
