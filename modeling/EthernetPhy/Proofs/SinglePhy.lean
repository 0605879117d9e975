import EthernetPhy.Proofs.Ensures
import EthernetPhy.Proofs.PhyTraces

/-!
# One PHY by itself

Simulated PHYs share nothing but the lists of frames.  So a program that keeps to one address may as
well be run on the PHY there alone, on a machine that has no bus at all.

* `KeepsTo a` : a request that is a frame for the PHY at `a`, a wait or a message;
* `SimulatedPhy.machine` : a PHY by itself, which takes every frame as meant for it;
* `SimulatedBus.run_single` : **a program that keeps to one address does on a bus what it does on
  that PHY by itself**, and leaves every other PHY as it is;
* `Access.perform` : an access on a bus as a program (`SimulatedBus.performs_access`).
-/

namespace EthernetPhy

/-- Whether a request is no frame for any address but this one, and no level of the reset line. -/
def Request.isAt (a : PhyAddress) : Request → Bool
  | .read phy _ | .write phy _ _ => phy = a
  | .delay _ | .log _ => true
  | .drive _ => false

/-- A request that keeps to one address. -/
abbrev KeepsTo (a : PhyAddress) (q : Request) : Prop := q.isAt a = true

theorem keepsTo_read {a : PhyAddress} {reg : RegAddress} : KeepsTo a (.read a reg) :=
  decide_eq_true rfl

theorem keepsTo_write {a : PhyAddress} {reg : RegAddress} {value : Word} :
    KeepsTo a (.write a reg value) :=
  decide_eq_true rfl

theorem keepsTo_delay {a : PhyAddress} {time : Delay} : KeepsTo a (.delay time) := rfl

theorem keepsTo_log {a : PhyAddress} {message : Message} : KeepsTo a (.log message) := rfl

namespace SimulatedPhy

/-- The answer of a PHY by itself; there is no clock and no reset line. -/
def respond : (q : Request) → SimulatedPhy → q.Answer × SimulatedPhy
  | .read _ reg, p => p.read reg
  | .write _ reg value, p => p.write reg value
  | .delay _, p | .log _, p => ((), p)
  | .drive _, p => (false, p)

/-- The machine that a PHY by itself is. -/
def machine : Machine SimulatedPhy := ⟨respond⟩

end SimulatedPhy

/-- Two states of a board between which nothing has happened but at one address, and in the lists of
frames and on the clock. -/
structure SameBut (a : PhyAddress) (b b' : Board SimulatedBus) : Prop where
  phy : ∀ phy, phy ≠ a → b'.bus.phy phy = b.bus.phy phy
  line : b'.line = b.line

theorem SameBut.refl {a : PhyAddress} {b : Board SimulatedBus} : SameBut a b b :=
  ⟨fun _ _ => rfl, rfl⟩

theorem SameBut.trans {a : PhyAddress} {b b' b'' : Board SimulatedBus} (h : SameBut a b b')
    (h' : SameBut a b' b'') : SameBut a b b'' :=
  ⟨fun phy hphy => (h'.phy phy hphy).trans (h.phy phy hphy), h'.line.trans h.line⟩

namespace SimulatedBus

variable {α : Type} {a : PhyAddress}

/-- A request that keeps to one address is answered by the PHY there. -/
theorem answer_single {q : Request} (hq : KeepsTo a q) (b : Board SimulatedBus) :
    let out := bus.machine.answer q b
    let single := SimulatedPhy.machine.answer q (b.bus.phy a)
    out.1 = single.1 ∧ out.2.bus.phy a = single.2 ∧ SameBut a b out.2 := by
  cases q with
  | read phy reg =>
    obtain rfl : phy = a := of_decide_eq_true hq
    exact ⟨rfl, phy_setPhy_self .., fun phy' h => phy_setPhy_of_ne _ _ h.symm, rfl⟩
  | write phy reg value =>
    obtain rfl : phy = a := of_decide_eq_true hq
    exact ⟨rfl, phy_setPhy_self .., fun phy' h => phy_setPhy_of_ne _ _ h.symm, rfl⟩
  | delay time => exact ⟨rfl, rfl, fun _ _ => rfl, rfl⟩
  | log message => exact ⟨rfl, rfl, .refl⟩
  | drive level => cases hq

/-- **A program that keeps to one address does on a bus what it does on that PHY by itself.** -/
theorem run_single {x : Program α} (hx : x.Asks (KeepsTo a)) (b : Board SimulatedBus) :
    let out := x.run bus.machine b
    let single := x.run SimulatedPhy.machine (b.bus.phy a)
    out.result = single.result ∧ out.events = single.events ∧ out.final.bus.phy a = single.final ∧
      SameBut a b out.final := by
  refine Program.run_simulates (R := fun b' p => b'.bus.phy a = p ∧ SameBut a b b') ?_ hx
    ⟨rfl, .refl⟩
  rintro q hq b' p ⟨rfl, hothers⟩
  obtain ⟨hanswer, hphy, hsame⟩ := answer_single hq b'
  exact ⟨hanswer, hphy, hothers.trans hsame⟩

end SimulatedBus

/-! ### Accesses as programs -/

/-- Makes one access by frames; the result of a read is its value. -/
def Access.perform : Access → BusM (Option Word)
  | .read phy reg => some <$> BusM.read phy reg
  | .write phy reg value => do BusM.write phy reg value; return none
  | .modify phy reg clear set => do BusM.modify phy reg clear set; return none

/-- The address of an access. -/
def Access.phy : Access → PhyAddress
  | .read phy _ | .write phy _ _ | .modify phy _ _ _ => phy

theorem Access.keepsTo (access : Access) : access.perform.run.Asks (KeepsTo access.phy) := by
  cases access with
  | read phy reg =>
    rw [perform, ExceptT.run_map]
    exact .map (.ask keepsTo_read fun _ => .done)
  | write phy reg value =>
    exact Program.asks_run_bind (BusM.asks_write keepsTo_write) fun _ => .done
  | modify phy reg clear set =>
    exact Program.asks_run_bind (BusM.asks_modify keepsTo_read fun _ => keepsTo_write) fun _ => .done

theorem PagedAccess.keepsTo {a : PhyAddress} (access : PagedAccess) :
    (access.perform a).run.Asks (KeepsTo a) := by
  have hwithin : ∀ {α : Type} {page : Word} {body : BusM α}, body.run.Asks (KeepsTo a) →
      (withinPage a page body).run.Asks (KeepsTo a) := BusM.asks_withinPage fun _ => keepsTo_write
  cases access with
  | select page => exact Program.asks_run_bind (BusM.asks_write keepsTo_write) fun _ => .done
  | close => exact Program.asks_run_bind (BusM.asks_write keepsTo_write) fun _ => .done
  | read page reg =>
    rw [perform, ExceptT.run_map]
    exact .map (hwithin (.ask keepsTo_read fun _ => .done))
  | write page reg value =>
    exact Program.asks_run_bind (hwithin (BusM.asks_write keepsTo_write)) fun _ => .done
  | modify page reg clear set =>
    exact Program.asks_run_bind (hwithin (BusM.asks_modify keepsTo_read fun _ => keepsTo_write))
      fun _ => .done

namespace Bus

variable {σ α β : Type} {bus : Bus σ}

/-- What is done on a bus is what a run of a program does there. -/
def Performs (bus : Bus σ) (act : BusAction σ α) (x : BusM α) : Prop :=
  ∀ b : Board σ, act.run.run b.bus =
    ((x.run.run bus.machine b).result, (x.run.run bus.machine b).final.bus)

theorem performs_pure (a : α) : bus.Performs (pure a) (pure a) := fun _ => rfl

theorem performs_bind {act : BusAction σ α} {x : BusM α} {f : α → BusAction σ β} {g : α → BusM β}
    (h : bus.Performs act x) (hf : ∀ a, bus.Performs (f a) (g a)) :
    bus.Performs (act >>= f) (x >>= g) := by
  intro b
  rw [ExceptT.run_bind, ExceptT.run_bind, StateT.run_bind, Program.run_bind, h b]
  cases hx : (x.run.run bus.machine b).result with
  | error c => rfl
  | ok a => exact hf a _

theorem performs_read (phy : PhyAddress) (reg : RegAddress) :
    bus.Performs (bus.read phy reg) (BusM.read phy reg) := fun _ => rfl

theorem performs_write (phy : PhyAddress) (reg : RegAddress) (value : Word) :
    bus.Performs (bus.write phy reg value) (BusM.write phy reg value) := fun _ => rfl

end Bus

namespace SimulatedBus

/-- An access on a simulated bus is a run of its program. -/
theorem performs_access (access : Access) : bus.Performs (bus.access access) access.perform := by
  cases access with
  | read phy reg =>
    exact Bus.performs_bind (Bus.performs_read phy reg) fun value => Bus.performs_pure (some value)
  | write phy reg value =>
    exact Bus.performs_bind (Bus.performs_write phy reg value) fun _ => Bus.performs_pure none
  | modify phy reg clear set =>
    refine Bus.performs_bind ?_ fun _ => Bus.performs_pure none
    exact Bus.performs_bind (Bus.performs_read phy reg) fun _ => Bus.performs_write phy reg _

theorem performs_single {α : Type} {a : PhyAddress} {act : BusAction SimulatedBus α} {x : BusM α}
    (h : bus.Performs act x) (hx : x.run.Asks (KeepsTo a)) (b : SimulatedBus) :
    let out := act.run.run b
    let single := x.run.run SimulatedPhy.machine (b.phy a)
    out.1 = single.result ∧ out.2.phy a = single.final ∧
      ∀ phy, phy ≠ a → out.2.phy phy = b.phy phy := by
  obtain ⟨hresult, -, hfinal, hsame⟩ := run_single hx { bus := b }
  dsimp only
  rw [h { bus := b }]
  exact ⟨hresult, hfinal, hsame.phy⟩

end SimulatedBus

end EthernetPhy
