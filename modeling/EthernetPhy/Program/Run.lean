import EthernetPhy.Program.Basic

/-!
# Running a program

A `Machine` answers requests and changes its state as it does so; it is the bus, the clock and the
reset line in one.  `Program.run` runs a program on a machine and keeps every request with its
answer, so that a statement about what happened is a statement about the list of `Event`s.

The main result is `Program.run_bind`: to run two programs one after the other is to run the second
one from where the first one stopped, and the events of the whole are those of the first followed
by those of the second.
-/

namespace EthernetPhy

/-- A request together with the answer that it got. -/
structure Event where
  /-- The request. -/
  request : Request
  /-- The answer to it. -/
  answer : request.Answer

/-- Something that answers requests. -/
structure Machine (σ : Type) where
  /-- The answer to a request and the state after it. -/
  answer : (q : Request) → σ → q.Answer × σ

/-- What is left of a run. -/
structure Outcome (σ α : Type) where
  /-- The result of the program. -/
  result : α
  /-- The requests and their answers, in order. -/
  events : List Event
  /-- The state of the machine at the end. -/
  final : σ

namespace Program

variable {σ α β : Type} (m : Machine σ)

/-- Runs a program whose earlier events, newest first, are `earlier`. -/
def runAfter (earlier : List Event) : Program α → σ → Outcome σ α
  | done a, s => ⟨a, earlier.reverse, s⟩
  | ask q next, s =>
    match m.answer q s with
    | (answer, s') => runAfter (⟨q, answer⟩ :: earlier) (next answer) s'

/-- Runs a program on a machine from a state. -/
def run (p : Program α) (s : σ) : Outcome σ α := runAfter m [] p s

theorem runAfter_eq (earlier : List Event) (p : Program α) (s : σ) :
    runAfter m earlier p s =
      ⟨(run m p s).result, earlier.reverse ++ (run m p s).events, (run m p s).final⟩ := by
  induction p generalizing earlier s with
  | done a => simp [run, runAfter]
  | ask q next ih =>
    simp only [run, runAfter]
    rw [ih, ih _ [_]]
    simp

@[simp] theorem run_done (a : α) (s : σ) : run m (done a) s = ⟨a, [], s⟩ := rfl

@[simp] theorem run_ask (q : Request) (next : q.Answer → Program α) (s : σ) :
    run m (ask q next) s =
      ⟨(run m (next (m.answer q s).1) (m.answer q s).2).result,
        ⟨q, (m.answer q s).1⟩ :: (run m (next (m.answer q s).1) (m.answer q s).2).events,
        (run m (next (m.answer q s).1) (m.answer q s).2).final⟩ := by
  change runAfter m [⟨q, (m.answer q s).1⟩] (next (m.answer q s).1) (m.answer q s).2 = _
  rw [runAfter_eq]
  simp

/-- **Runs compose**: the second program starts where the first one stopped. -/
theorem run_bind (p : Program α) (f : α → Program β) (s : σ) :
    run m (p >>= f) s =
      ⟨(run m (f (run m p s).result) (run m p s).final).result,
        (run m p s).events ++ (run m (f (run m p s).result) (run m p s).final).events,
        (run m (f (run m p s).result) (run m p s).final).final⟩ := by
  induction p generalizing s with
  | done a => simp
  | ask q next ih => simp [ih]

theorem run_map (f : α → β) (p : Program α) (s : σ) :
    run m (f <$> p) s = ⟨f (run m p s).result, (run m p s).events, (run m p s).final⟩ := by
  rw [map_eq_pure_bind, run_bind]
  simp only [pure_eq, run_done, List.append_nil]

end Program

end EthernetPhy
