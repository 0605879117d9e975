import EthernetPhy.Proofs.LinkEdges
import EthernetPhy.Proofs.SweepAndReset

/-!
# What a fault leaves in the record

An operation changes its record between frames, and any frame may fail.  Whatever the operation was,
a failed frame leaves the record as it was before the frame, and no operation but two has changed it
by then: `Transceiver.settledState` goes on with the state that `Clause22.trackLink` has found, and
`Transceiver.awaitNewLink` has made looks that succeeded.

* `Transceiver.keptRecord` : the record that a failed frame leaves, for each operation;
* `perform_keepsRecord` : **that is the record, on every bus**; and a wait that has run out changes
  the state of the link and nothing else, a sweep nothing but the address, and that only if it has
  found a PHY.
-/

namespace EthernetPhy

open RecordM

/-! ### The two waits -/

theorem Clause22.LinkTracked.record_of_error {timeout : UInt32} {r : PhyRecord} {es : List Event}
    {out : Except Fault Unit × PhyRecord} (h : LinkTracked timeout r es out) :
    (∀ c, out.1 = .error (.bus c) → out.2 = r) ∧
      (out.1 = .error .timeout → out.2 = { r with current := .down }) := by
  cases h <;> simp

namespace Transceiver

theorem SpeedAwaited.record_of_error {settings : Settings} {r : PhyRecord} {es : List Event}
    {out : Except Fault Unit × PhyRecord} (h : SpeedAwaited settings r es out) :
    (∀ c, out.1 = .error (.bus c) → out.2 = r) ∧
      (out.1 = .error .timeout → out.2 = { r with current := .down }) := by
  cases h <;> simp

variable {σ : Type} (m : Machine σ) (settings : Settings)

/-! ### Looks for a new link -/

/-- A wait for a new link that fails leaves what the looks before the failed one have left. -/
theorem awaitNewLinkWithin_error (looks : Nat) (r : PhyRecord) (s : σ) {f : Fault}
    (h : (((awaitNewLinkWithin looks).runOn r).run m s).result.1 = .error f) :
    (((awaitNewLinkWithin looks).runOn r).run m s).result.2 =
      ((pollsOfWait m looks r s).filter Poll.succeeded).getLast?.elim r Poll.after := by
  induction looks generalizing r s with
  | zero => cases h
  | succ looks ih =>
    have hsound := pollOnce_sound m r s
    rw [runOn_awaitNewLinkWithin_succ, Program.run_bind] at h ⊢
    rw [pollsOfWait]
    simp only [pollOnce] at hsound ⊢
    generalize (newLink.runOn r).run m s = out at h hsound ⊢
    obtain ⟨⟨result, r'⟩, es, s'⟩ := out
    cases result with
    | error e =>
      -- The first look has failed, so it has changed nothing and does not count.
      obtain ⟨-, hsame⟩ := hsound.failed e rfl
      rw [List.filter_cons_of_neg (by simp [Poll.succeeded, Except.isOk, Except.toBool])]
      exact hsame
    | ok told =>
      cases told with
      | some mode => cases h
      | none =>
        simp only [Program.run_ask] at h ⊢
        have hrest := ih r' (m.answer (.delay (.ms Timing.negotiationInterval)) s').2 h
        rw [List.filter_cons_of_pos (by simp [Poll.succeeded, Except.isOk, Except.toBool]),
          List.getLast?_cons]
        rw [hrest]
        cases ((pollsOfWait m looks r' _).filter Poll.succeeded).getLast? <;> rfl

/-! ### The settled state -/

/-- What `refresh` does once the negotiation has been followed: a frame that fails there leaves the
record as it is. -/
theorem refresh_rest_ensures (r : PhyRecord) :
    ((do
      if (← get).current.isUp then awaitSpeed settings else refreshMode
      return (← get).current : RecordM LinkState).runOn r).Ensures fun _ out =>
        ∀ c, out.1 = .error (.bus c) → out.2 = r := by
  rw [runOn_get_bind]
  split
  · refine RecordM.ensures_bind (awaitSpeed_ensures settings r) (fun es ⟨⟩ r' h => nofun)
      (fun es e r' h c hc => ?_)
    exact h.record_of_error.1 c (congrArg Except.error (Except.error.inj hc))
  · refine RecordM.ensures_bind (refreshMode_ensures r) (fun es ⟨⟩ r' h => nofun)
      (fun es e r' h c hc => ?_)
    obtain ⟨c', -, hout⟩ | ⟨v, -, hout⟩ := h
    · exact (Prod.mk.inj hout).2
    · cases hout

/-- The settled state is what `refresh` finds, where a wait that has run out means down. -/
theorem run_settledState (r : PhyRecord) (s : σ) :
    let out := ((refresh settings).runOn r).run m s
    (((settledState settings).runOn r).run m s).result =
      (match out.result.1 with
        | .error .timeout => .ok .down
        | result => result, out.result.2) := by
  rw [settledState, runOn_tryCatch, Program.run_bind]
  obtain ⟨⟨⟨_ | _⟩ | result, r'⟩, es, s'⟩ := ((refresh settings).runOn r).run m s <;> rfl

/-- The record that a failed frame leaves behind in `settledState`: that with which it began, or
once the negotiation has been followed, the state of the link that was found then. -/
def settledRecord (r : PhyRecord) (s : σ) : PhyRecord :=
  let track := ((Clause22.trackLink settings.negotiationTimeout).runOn r).run m s
  match track.result.1 with
  | .ok () => { r with current := track.result.2.current }
  | .error _ => r

theorem settledState_error (r : PhyRecord) (s : σ) {c : BusFault}
    (h : (((settledState settings).runOn r).run m s).result.1 = .error (.bus c)) :
    (((settledState settings).runOn r).run m s).result.2 = settledRecord m settings r s := by
  have htrack := (Clause22.trackLink_ensures settings.negotiationTimeout r).run m s
  rw [run_settledState] at h ⊢
  rw [refresh, runOn_bind, Program.run_bind] at h ⊢
  rw [settledRecord]
  generalize ((Clause22.trackLink settings.negotiationTimeout).runOn r).run m s = track
    at h htrack ⊢
  obtain ⟨⟨result, r'⟩, es, s'⟩ := track
  cases result with
  | error e =>
    obtain ⟨c', rfl, rfl⟩ | ⟨rfl, -⟩ := htrack.of_error
    · rfl
    · cases h
  | ok =>
    dsimp only at h ⊢
    rw [← htrack.record_eq]
    have hrest := (refresh_rest_ensures settings r').run m s'
    split at h
    · cases h
    · exact hrest c h

/-! ### All operations -/

/-- The record that a failed frame leaves behind in an operation. -/
def keptRecord (r : PhyRecord) (s : σ) : Operation → PhyRecord
  | .settledState => settledRecord m settings r s
  | .awaitNewLink timeout =>
    -- What the last look that succeeded has left.
    let polls := pollsOfWait m (looksFor timeout) r s
    (polls.filter Poll.succeeded).getLast?.elim r Poll.after
  | _ => r

theorem run_return_error {α β : Type} {x : RecordM α} {f : α → β} (r : PhyRecord) (s : σ)
    {e : Fault} (h : (((do return f (← x) : RecordM β).runOn r).run m s).result.1 = .error e) :
    ((x.runOn r).run m s).result.1 = .error e := by
  rw [runOn_bind, Program.run_bind] at h
  generalize (x.runOn r).run m s = out at h ⊢
  obtain ⟨⟨e' | a, r'⟩, es, s'⟩ := out
  · obtain rfl : e' = e := Except.error.inj h
    rfl
  · cases h

theorem perform_error {o : Operation} (hup : o ≠ .bringUp) (r : PhyRecord) (s : σ) {c : BusFault}
    (h : (((o.perform settings).runOn r).run m s).result.1 = .error (.bus c)) :
    (((o.perform settings).runOn r).run m s).result.2 = keptRecord m settings r s o := by
  by_cases hwrites : o.writesRecord = false
  · have hkeeps : Keeps id (o.perform settings) := Operation.keeps settings hwrites
    have hkept : keptRecord m settings r s o = r := by
      cases o <;> first | rfl | cases hwrites
    rw [hkept]
    exact hkeeps.run m s r
  · cases o with
    | bringUp => exact absurd rfl hup
    | newLink =>
      rw [Operation.perform, run_return_record]
      exact ((pollOnce_sound m r s).failed _ (run_return_error m r s h)).2
    | awaitNewLink timeout =>
      rw [Operation.perform, run_return_record]
      exact awaitNewLinkWithin_error m _ r s (run_return_error m r s h)
    | settledState =>
      rw [Operation.perform, run_return_record]
      exact settledState_error m settings r s (run_return_error m r s h)
    | awaitSpeed =>
      have hspeed := ((awaitSpeed_ensures settings r).run m s).record_of_error
      rw [Operation.perform, run_return_record]
      exact hspeed.1 c (run_return_error m r s h)
    | _ => exact absurd rfl hwrites

/-- What is left in the record by what may fail:

* `frame` : a failed frame leaves what `keptRecord` says, in every operation but a bring-up;
* `track` : in `Clause22.trackLink` a failed frame leaves the record as it was, and a wait that has
  run out makes the link count as down;
* `speed` : so does the wait for the speed;
* `discover` : a sweep changes the record only if it has found a PHY, and then only the address. -/
structure KeepsRecord (r : PhyRecord) (s : σ) : Prop where
  frame : ∀ o : Operation, o ≠ .bringUp → ∀ c,
    (((o.perform settings).runOn r).run m s).result.1 = .error (.bus c) →
    (((o.perform settings).runOn r).run m s).result.2 = keptRecord m settings r s o
  track : ∀ timeout,
    let out := ((Clause22.trackLink timeout).runOn r).run m s
    (∀ c, out.result.1 = .error (.bus c) → out.result.2 = r) ∧
      (out.result.1 = .error .timeout → out.result.2 = { r with current := .down })
  speed :
    let out := ((awaitSpeed settings).runOn r).run m s
    out.result.1 = .error .timeout → out.result.2 = { r with current := .down }
  discover :
    let out := (Clause22.discover.runOn r).run m s
    (∀ e, out.result.1 = .error e → out.result.2 = r) ∧
      (out.result.1 = .ok () → ∃ phy, out.result.2 = { r with address := phy })

theorem discover_ensures_record (r : PhyRecord) :
    (Clause22.discover.runOn r).Ensures fun _ out =>
      (∀ e, out.1 = .error e → out.2 = r) ∧
        (out.1 = .ok () → ∃ phy, out.2 = { r with address := phy }) := by
  refine (Clause22.discover_ensures_swept r).mono fun es out h => ?_
  obtain ⟨search, found, message, hsearch, rfl, rfl⟩ := h
  cases found with
  | none => exact ⟨fun _ _ => rfl, nofun⟩
  | some found => exact ⟨nofun, fun _ => ⟨found.1, rfl⟩⟩

/-- **A fault leaves the record as the last success did**, on every bus, from every record and with
all settings. -/
theorem perform_keepsRecord (r : PhyRecord) (s : σ) : KeepsRecord m settings r s where
  frame _ hup _ h := perform_error m settings hup r s h
  track timeout := ((Clause22.trackLink_ensures timeout r).run m s).record_of_error
  speed := ((awaitSpeed_ensures settings r).run m s).record_of_error.2
  discover := (discover_ensures_record r).run m s

/-- Where the status word cannot be read, the state that the negotiation has shown is kept. -/
example :
    let up := (SimulatedBus.apply {} 0 .powerUp).apply 0 .linkUpGigabitFull
    let s : Board SimulatedBus := { bus := up.apply 0 (.failReads Register.physr) }
    let out := ((settledState {}).runOn {}).run SimulatedBus.bus.machine s
    out.result = (.error (.bus .noResponse), { current := .up }) := rfl

end Transceiver

end EthernetPhy
