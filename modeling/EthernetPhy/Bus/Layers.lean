import EthernetPhy.Bus.Basic
import EthernetPhy.Program.Run

/-!
# Layers over a bus

Each layer makes a new bus from a bus.

* `Bus.checked` refuses what does not fit into a frame;
* `Bus.scripted` lets a list of `Override`s decide the outcome of single frames in advance;
* `Bus.recorded` keeps every frame with its answer.
-/

namespace EthernetPhy

namespace Bus

variable {σ : Type}

/-! ### Checked addresses -/

/-- A bus that refuses every access whose address or register number does not fit into a frame. -/
def checked (bus : Bus σ) : Bus σ where
  read phy reg := do
    checkAddress phy reg
    bus.read phy reg
  write phy reg value := do
    checkAddress phy reg
    bus.write phy reg value

end Bus

/-! ### Scripted outcomes -/

/-- What happens to one frame. -/
inductive Override where
  /-- It fails with a fault, and the bus behind does not see it. -/
  | fail (cause : BusFault)
  /-- A read gets this value, a write succeeds, and the bus behind does not see it. -/
  | reply (value : Word)
  /-- The bus behind decides. -/
  | forward
  deriving DecidableEq

/-- A bus state with what is to happen to the next frames; once nothing is left, the bus behind
decides. -/
structure Scripted (σ : Type) where
  /-- The outcomes of the next frames, in order. -/
  overrides : List Override := []
  /-- The state of the bus behind. -/
  inner : σ

namespace Scripted

variable {σ α : Type}

/-- Does something on the bus behind. -/
def inside (action : BusAction σ α) : BusAction (Scripted σ) α :=
  ExceptT.mk fun s =>
    match action.run.run s.inner with
    | (result, inner) => (result, { s with inner })

/-- Takes the next outcome: a fault or a value ends the frame at once, else the bus behind does it;
`replied` makes the result out of a value. -/
def next (replied : Word → α) (action : BusAction σ α) : BusAction (Scripted σ) α :=
  ExceptT.mk fun s =>
    match s.overrides with
    | [] => (inside action).run.run s
    | .fail cause :: rest => (.error cause, { s with overrides := rest })
    | .reply value :: rest => (.ok (replied value), { s with overrides := rest })
    | .forward :: rest => (inside action).run.run { s with overrides := rest }

end Scripted

namespace Bus

variable {σ : Type}

/-- A bus on which single frames have their outcome decided in advance. -/
def scripted (bus : Bus σ) : Bus (Scripted σ) where
  read phy reg := Scripted.next id (bus.read phy reg)
  write phy reg value := Scripted.next (fun _ => ()) (bus.write phy reg value)

end Bus

/-! ### Recorded frames -/

/-- A bus state with the frames that reached the bus. -/
structure Recorded (σ : Type) where
  /-- The frames, newest first. -/
  earlier : List Event := []
  /-- The state of the bus behind. -/
  inner : σ

namespace Bus

variable {σ : Type}

/-- A bus that keeps every frame with its answer. -/
def recorded (bus : Bus σ) : Bus (Recorded σ) where
  read phy reg := ExceptT.mk fun s =>
    match (bus.read phy reg).run.run s.inner with
    | (answer, inner) => (answer, ⟨⟨.read phy reg, answer⟩ :: s.earlier, inner⟩)
  write phy reg value := ExceptT.mk fun s =>
    match (bus.write phy reg value).run.run s.inner with
    | (answer, inner) => (answer, ⟨⟨.write phy reg value, answer⟩ :: s.earlier, inner⟩)

end Bus

end EthernetPhy
