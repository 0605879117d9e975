import EthernetPhy.Program.Run

/-!
# Operations on a part of a state

A driver may hold another driver inside, and hand on to it what it is asked.  A `Part` says what is
held and how it is replaced, and `Part.focus` makes an operation on the part one on the whole.  It
makes the same requests and changes nothing but the part, and it takes sequences of operations to
sequences (`Part.focus_bind`).
-/

namespace EthernetPhy

/-- A part of a state, which can be looked at and replaced. -/
structure Part (δ ε : Type) where
  /-- The part. -/
  view : δ → ε
  /-- The state with another part. -/
  put : ε → δ → δ
  view_put : ∀ e d, view (put e d) = e
  put_view : ∀ d, put (view d) d = d
  put_put : ∀ e e' d, put e' (put e d) = put e' d

namespace Part

variable {δ ε α β : Type}

/-- Does something to a part of the state. -/
def focus (q : Part δ ε) (x : DriverM ε α) : DriverM δ α :=
  ExceptT.mk fun d => do
    let out ← x.run.run (q.view d)
    return (out.1, q.put out.2 d)

variable (q : Part δ ε)

theorem run_focus (x : DriverM ε α) (d : δ) :
    (q.focus x).run.run d =
      (fun out => (out.1, q.put out.2 d)) <$> x.run.run (q.view d) := by
  rw [map_eq_pure_bind]
  rfl

theorem focus_pure (a : α) : q.focus (pure a : DriverM ε α) = pure a := by
  refine ExceptT.ext (StateT.ext fun d => ?_)
  exact congrArg (fun d' => Program.done (Except.ok a, d')) (q.put_view d)

theorem focus_get : q.focus get = q.view <$> get := by
  refine ExceptT.ext (StateT.ext fun d => ?_)
  exact congrArg (fun d' => Program.done (Except.ok (q.view d), d')) (q.put_view d)

/-- **A sequence of operations on the part is a sequence of operations on the whole.** -/
theorem focus_bind (x : DriverM ε α) (f : α → DriverM ε β) :
    q.focus (x >>= f) = q.focus x >>= fun a => q.focus (f a) := by
  refine ExceptT.ext (StateT.ext fun d => ?_)
  rw [run_focus, ExceptT.run_bind, StateT.run_bind, map_bind, ExceptT.run_bind, StateT.run_bind,
    run_focus, bind_map_left]
  congr 1
  funext out
  obtain ⟨e | a, part⟩ := out
  · rfl
  · change _ = (q.focus (f a)).run.run (q.put part d)
    simp only [run_focus, q.view_put, q.put_put]

theorem focus_phy (x : PhyM α) : q.focus (liftM x : DriverM ε α) = liftM x := by
  refine ExceptT.ext (StateT.ext fun d => ?_)
  rw [run_focus]
  change (fun out => (out.1, q.put out.2 d)) <$> ((·, q.view d) <$> x.run) = (·, d) <$> x.run
  simp only [Functor.map_map, q.put_view]

theorem focus_program (x : Program α) : q.focus (liftM x : DriverM ε α) = liftM x := by
  have hrun : ∀ {δ : Type} (d : δ), (liftM x : DriverM δ α).run.run d =
      (fun a => (Except.ok a, d)) <$> x := fun d => by
    simp [liftM, monadLift, MonadLift.monadLift, ExceptT.lift, ExceptT.run, ExceptT.mk]
    rfl
  refine ExceptT.ext (StateT.ext fun d => ?_)
  simp only [run_focus, hrun, Functor.map_map, q.put_view]

/-! ### Looking at the part -/

theorem focus_view (f : ε → α) :
    q.focus (do return f (← get)) = do return f (q.view (← get)) := by
  simp only [focus_bind, focus_get, focus_pure, bind_map_left]

theorem focus_here (x : ε → PhyM α) (f : α → β) :
    q.focus (do return f (← x (← get))) = do return f (← x (q.view (← get))) := by
  simp only [focus_bind, focus_get, focus_pure, focus_phy, bind_map_left]

/-- Putting a result into another form may wait until the part is left. -/
theorem focus_return (x : DriverM ε α) (f : α → β) :
    q.focus (do return f (← x)) = do return f (← q.focus x) := by
  simp only [focus_bind, focus_pure]

end Part

end EthernetPhy
