import EthernetPhy.Bus.Board
import EthernetPhy.Bus.Layers
import EthernetPhy.Program.Laws
import EthernetPhy.Simulator.Setup

/-!
# Buses that are handed on

`Bus.borrow` hands a bus on to someone else, who should not be able to tell it from the bus itself.
It passes reads and writes on, but not a change of bits: that becomes a read and a write, even if the
bus has a way of its own to do it in one go.

* `Bus.accessAll` : the results of a sequence of accesses, and the state that it leaves;
* `Bus.IsPlain` : a bus that changes bits by a read and a write;
* `Bus.run_modify` : programs change bits as a borrowed bus does, which on a plain bus is what the bus
  itself does (`Bus.IsPlain.run_modify`);
* `Bus.borrow_transparent` : **a borrowed bus is as good as the bus itself for reads and writes, and
  for all accesses exactly if the bus is plain**;
* `Bus.single_borrow_locksTwice` : a bus that is not, and whose state shows it.
-/

namespace EthernetPhy

/-- Whether an access changes bits. -/
def Access.isModify : Access → Bool
  | modify .. => true
  | read .. | write .. => false

namespace Bus

variable {σ : Type} {bus : Bus σ}

/-- Makes some accesses, and goes on after one that failed: the result of each, and the state after
them. -/
def accessAll (bus : Bus σ) : List Access → σ → List (Except BusFault (Option Word)) × σ
  | [], s => ([], s)
  | a :: rest, s =>
    let out := (bus.access a).run.run s
    let later := bus.accessAll rest out.2
    (out.1 :: later.1, later.2)

/-- A bus that changes bits by a read and a write, each of them a frame of its own. -/
def IsPlain (bus : Bus σ) : Prop :=
  ∀ phy reg clear set, bus.modify phy reg clear set = (do
    let value ← bus.read phy reg
    bus.write phy reg (value.update clear set))

/-! ### One access -/

theorem IsPlain.borrow_eq (h : bus.IsPlain) : bus.borrow = bus := by
  have hmodify : bus.borrow.modify = bus.modify := by
    funext phy reg clear set
    exact (h phy reg clear set).symm
  calc bus.borrow = ⟨bus.read, bus.write, bus.borrow.modify⟩ := rfl
    _ = bus := by rw [hmodify]

/-- The buses of this library are plain: the simulated one and all layers over a bus. -/
theorem isPlain_layers : SimulatedBus.bus.IsPlain ∧ bus.checked.IsPlain ∧ bus.scripted.IsPlain ∧
    bus.recorded.IsPlain :=
  ⟨fun _ _ _ _ => rfl, fun _ _ _ _ => rfl, fun _ _ _ _ => rfl, fun _ _ _ _ => rfl⟩

/-- **A program changes bits as a borrowed bus does**, whatever the bus would do in one go. -/
theorem run_modify (bus : Bus σ) (phy : PhyAddress) (reg : RegAddress) (clear set : Word)
    (b : Board σ) :
    let out := (BusM.modify phy reg clear set).run.run bus.machine b
    (bus.borrow.modify phy reg clear set).run.run b.bus = (out.result, out.final.bus) := by
  show (bus.read phy reg >>= fun value => bus.write phy reg (value.update clear set)).run.run b.bus =
    _
  rw [BusM.modify, ExceptT.run_bind, StateT.run_bind, ExceptT.run_bind, Program.run_bind]
  have hread : (BusM.read phy reg).run.run bus.machine b =
      let out := (bus.read phy reg).run.run b.bus
      ⟨out.1, [⟨.read phy reg, out.1⟩], { b with bus := out.2 }⟩ := rfl
  rw [hread]
  obtain ⟨e | value, s⟩ := (bus.read phy reg).run.run b.bus <;> rfl

/-- On a plain bus programs change bits as the bus itself does. -/
theorem IsPlain.run_modify (h : bus.IsPlain) (phy : PhyAddress) (reg : RegAddress)
    (clear set : Word) (b : Board σ) :
    let out := (BusM.modify phy reg clear set).run.run bus.machine b
    (bus.modify phy reg clear set).run.run b.bus = (out.result, out.final.bus) := by
  have hborrow := Bus.run_modify bus phy reg clear set b
  rwa [h.borrow_eq] at hborrow

theorem access_borrow {a : Access} (h : a.isModify = false) : bus.borrow.access a = bus.access a := by
  cases a with
  | read phy reg => rfl
  | write phy reg value => rfl
  | modify phy reg clear set => cases h

theorem run_access_modify (bus : Bus σ) (phy : PhyAddress) (reg : RegAddress) (clear set : Word)
    (s : σ) : (bus.access (.modify phy reg clear set)).run.run s =
      (((bus.modify phy reg clear set).run.run s).1.map fun _ => none,
        ((bus.modify phy reg clear set).run.run s).2) := by
  show (do bus.modify phy reg clear set; return none : BusAction σ (Option Word)).run.run s = _
  rw [ExceptT.run_bind, StateT.run_bind]
  obtain ⟨e | ⟨⟩, s'⟩ := (bus.modify phy reg clear set).run.run s <;> rfl

/-- Two buses that make all accesses alike change bits alike. -/
theorem modify_eq_of_access (bus' : Bus σ) {phy : PhyAddress} {reg : RegAddress} {clear set : Word}
    (h : ∀ s, (bus.access (.modify phy reg clear set)).run.run s =
      (bus'.access (.modify phy reg clear set)).run.run s) :
    bus.modify phy reg clear set = bus'.modify phy reg clear set := by
  have hmap : ∀ {x y : Except BusFault Unit},
      x.map (fun _ => (none : Option Word)) = y.map (fun _ => none) → x = y := by
    rintro (e | ⟨⟩) (e' | ⟨⟩) hxy
    · rw [Except.error.inj hxy]
    · cases hxy
    · cases hxy
    · rfl
  funext s
  have hs := h s
  rw [run_access_modify, run_access_modify] at hs
  obtain ⟨hresult, hstate⟩ := Prod.mk.inj hs
  exact Prod.ext (hmap hresult) hstate

/-! ### Sequences of accesses -/

theorem accessAll_congr {bus' : Bus σ} {accesses : List Access}
    (h : ∀ a ∈ accesses, bus.access a = bus'.access a) (s : σ) :
    bus.accessAll accesses s = bus'.accessAll accesses s := by
  induction accesses generalizing s with
  | nil => rfl
  | cons a rest ih =>
    obtain ⟨hfirst, hrest⟩ := List.forall_mem_cons.1 h
    rw [accessAll, accessAll, hfirst, ih hrest]

/-- **A borrowed bus serves reads and writes as the bus itself does, and all accesses exactly if the
bus is plain.** -/
theorem borrow_transparent (bus : Bus σ) :
    (∀ accesses : List Access, (∀ a ∈ accesses, a.isModify = false) →
      ∀ s, bus.borrow.accessAll accesses s = bus.accessAll accesses s) ∧
      ((∀ (accesses : List Access) (s : σ),
        bus.borrow.accessAll accesses s = bus.accessAll accesses s) ↔ bus.IsPlain) := by
  refine ⟨fun accesses h s => accessAll_congr (fun a ha => access_borrow (h a ha)) s,
    fun h phy reg clear set => ?_, fun h accesses s => by rw [h.borrow_eq]⟩
  -- A single access that changes bits is a sequence, too.
  refine modify_eq_of_access bus.borrow fun s => ?_
  have hone := h [.modify phy reg clear set] s
  simp only [accessAll, Prod.mk.injEq, List.cons.injEq, and_true] at hone
  exact Prod.ext hone.1.symm hone.2.symm

/-- A bus with a check of addresses may be handed on for all accesses. -/
theorem borrow_transparent_checked :
    let bus := SimulatedBus.bus.checked
    let accesses : List Access := [.write 0 4 1, .read 32 4]
    ((∀ a ∈ accesses, a.isModify = false) ∧
      ∀ s, bus.borrow.accessAll accesses s = bus.accessAll accesses s) ∧
      ∀ (accesses : List Access) (s : SimulatedBus),
        bus.borrow.accessAll accesses s = bus.accessAll accesses s :=
  ⟨⟨by decide, (borrow_transparent SimulatedBus.bus.checked).1 _ (by decide)⟩,
    (borrow_transparent SimulatedBus.bus.checked).2.2 isPlain_layers.2.1⟩

/-! ### A bus that is not plain -/

/-- One register behind a lock. -/
structure Locked where
  /-- The register. -/
  value : Word
  /-- How often the lock was taken. -/
  locks : Nat
  deriving DecidableEq

/-- A bus of one register that takes the lock once for each access, also for one that changes bits. -/
def single : Bus Locked where
  read _ _ := ExceptT.mk fun s => (.ok s.value, { s with locks := s.locks + 1 })
  write _ _ value := ExceptT.mk fun s => (.ok (), ⟨value, s.locks + 1⟩)
  modify _ _ clear set := ExceptT.mk fun s => (.ok (), ⟨s.value.update clear set, s.locks + 1⟩)

/-- **A borrowed bus drops what the bus does in one go**: the lock is taken twice to change bits, so
that the register is free in between. -/
theorem single_borrow_locksTwice :
    single.accessAll [.modify 0 0 0 1] ⟨0, 0⟩ = ([.ok none], ⟨1, 1⟩) ∧
      single.borrow.accessAll [.modify 0 0 0 1] ⟨0, 0⟩ = ([.ok none], ⟨1, 2⟩) ∧
      ¬∀ (accesses : List Access) (s : Locked),
        single.borrow.accessAll accesses s = single.accessAll accesses s := by
  refine ⟨rfl, rfl, fun h => ?_⟩
  have hlocks : (2 : Nat) = 1 := congrArg (fun out => out.2.locks) (h [.modify 0 0 0 1] ⟨0, 0⟩)
  cases hlocks

end Bus

end EthernetPhy
