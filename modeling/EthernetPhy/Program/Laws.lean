import EthernetPhy.Program.Basic

/-!
# Operations as request trees

The three monads of operations are layers over `Program`.  The equations of this file take the
layers off: `simp` turns an operation written with `do` into the tree of its requests, in which a
failed frame leads straight to the end.
-/

namespace EthernetPhy

variable {α β : Type}

/-! ### Maps of programs -/

@[simp] theorem Program.map_done (f : α → β) (a : α) :
    (f <$> Program.done a) = .done (f a) := rfl

@[simp] theorem Program.map_ask (f : α → β) (q : Request) (next : q.Answer → Program α) :
    (f <$> Program.ask q next) = .ask q fun answer => f <$> next answer := rfl

/-! ### Programs that a failed frame may end -/

namespace BusM

@[simp] theorem run_read (phy : PhyAddress) (reg : RegAddress) :
    (read phy reg).run = .ask (.read phy reg) .done := rfl

@[simp] theorem run_write (phy : PhyAddress) (reg : RegAddress) (value : Word) :
    (write phy reg value).run = .ask (.write phy reg value) .done := rfl

end BusM

/-! ### Programs that a fault may end -/

namespace PhyM

@[simp] theorem run_liftM_bus (x : BusM α) :
    (liftM x : PhyM α).run = (·.mapError Fault.bus) <$> x.run := rfl

@[simp] theorem run_liftM_program (x : Program α) :
    (liftM x : PhyM α).run = Except.ok <$> x := rfl

end PhyM

/-! ### Programs that keep a record -/

namespace RecordM

@[simp] theorem runOn_pure (a : α) (r : PhyRecord) :
    (pure a : RecordM α).runOn r = .done (.ok a, r) := rfl

/-- **A sequence of operations**: the second part goes on with the record that the first one left,
and a fault of the first part ends the whole. -/
@[simp] theorem runOn_bind (x : RecordM α) (f : α → RecordM β) (r : PhyRecord) :
    (x >>= f).runOn r = x.runOn r >>= fun out =>
      match out.1 with
      | .ok a => (f a).runOn out.2
      | .error e => .done (.error e, out.2) := by
  simp only [runOn, ExceptT.run_bind, StateT.run_bind]
  congr 1
  funext out
  obtain ⟨⟨e⟩ | ⟨a⟩, r'⟩ := out <;> rfl

@[simp] theorem runOn_map (f : α → β) (x : RecordM α) (r : PhyRecord) :
    (f <$> x).runOn r = (fun out => (out.1.map f, out.2)) <$> x.runOn r := by
  simp [runOn]

@[simp] theorem runOn_throw (e : Fault) (r : PhyRecord) :
    (throw e : RecordM α).runOn r = .done (.error e, r) := rfl

@[simp] theorem runOn_tryCatch (x : RecordM α) (handle : Fault → RecordM α) (r : PhyRecord) :
    (tryCatch x handle).runOn r = x.runOn r >>= fun out =>
      match out.1 with
      | .ok a => .done (.ok a, out.2)
      | .error e => (handle e).runOn out.2 := by
  change (StateT.run _ r) = _
  simp only [runOn, tryCatch, tryCatchThe, MonadExceptOf.tryCatch, ExceptT.tryCatch, ExceptT.mk]
  change (StateT.run x r >>= _) = _
  congr 1
  funext out
  obtain ⟨⟨e⟩ | ⟨a⟩, r'⟩ := out <;> rfl

@[simp] theorem runOn_get (r : PhyRecord) : (get : RecordM PhyRecord).runOn r = .done (.ok r, r) :=
  rfl

@[simp] theorem runOn_set (r' r : PhyRecord) :
    (set r' : RecordM PUnit).runOn r = .done (.ok ⟨⟩, r') := rfl

@[simp] theorem runOn_modify (f : PhyRecord → PhyRecord) (r : PhyRecord) :
    (modify f : RecordM PUnit).runOn r = .done (.ok ⟨⟩, f r) := rfl

@[simp] theorem runOn_modifyGet (f : PhyRecord → α × PhyRecord) (r : PhyRecord) :
    (modifyGet f : RecordM α).runOn r = .done (.ok (f r).1, (f r).2) := rfl

@[simp] theorem runOn_liftM_phy (x : PhyM α) (r : PhyRecord) :
    (liftM x : RecordM α).runOn r = (·, r) <$> x.run := rfl

@[simp] theorem runOn_liftM_bus (x : BusM α) (r : PhyRecord) :
    (liftM x : RecordM α).runOn r = (fun a => (a.mapError Fault.bus, r)) <$> x.run := by
  change (·, r) <$> ((·.mapError Fault.bus) <$> x.run) = _
  simp

@[simp] theorem runOn_liftM_program (x : Program α) (r : PhyRecord) :
    (liftM x : RecordM α).runOn r = (fun a => (Except.ok a, r)) <$> x := by
  simp [runOn, liftM, monadLift, MonadLift.monadLift, ExceptT.lift, ExceptT.run, ExceptT.mk]
  rfl

end RecordM

end EthernetPhy
