import EthernetPhy.Fault
import EthernetPhy.Word

/-!
# Buses

A `Bus` is anything that carries management frames: it reads and writes registers and may change its
own state as it does so.  Changing some bits of a register is a read followed by a write unless the
bus has a way of its own to do it in one go.

* `Bus.borrow` hands a bus on to someone who may only read and write;
* `checkAddress` is the check that a frame has room for an address and a register number.
-/

namespace EthernetPhy

/-- Something done on a bus with states `σ`, which a bus fault may end. -/
abbrev BusAction (σ : Type) := ExceptT BusFault (StateM σ)

/-- A carrier of management frames with states `σ`. -/
structure Bus (σ : Type) where
  /-- Reads a register. -/
  read : PhyAddress → RegAddress → BusAction σ Word
  /-- Writes a register. -/
  write : PhyAddress → RegAddress → Word → BusAction σ Unit
  /-- Clears the bits of the first mask in a register and then sets those of the second. -/
  modify : PhyAddress → RegAddress → Word → Word → BusAction σ Unit :=
    fun phy reg clear set => do
      let value ← read phy reg
      write phy reg (value.update clear set)

/-- Checks an address and a register number against the room that a frame has for them. -/
def checkAddress (phy : PhyAddress) (reg : RegAddress) : Except BusFault Unit :=
  if phy > PhyAddress.max then .error .phyOutOfRange
  else if reg > RegAddress.max then .error .registerOutOfRange
  else .ok ()

/-- A pair of address and register number is refused with a fault that names the first of the two
that does not fit. -/
theorem checkAddress_eq_ok_iff (phy : PhyAddress) (reg : RegAddress) :
    checkAddress phy reg = .ok () ↔ phy ≤ PhyAddress.max ∧ reg ≤ RegAddress.max := by
  unfold checkAddress
  split
  · rename_i h
    simp [UInt8.not_le.2 h]
  · rename_i h
    split
    · rename_i h'
      simp [UInt8.not_le.2 h']
    · rename_i h'
      simp [UInt8.not_lt.1 h, UInt8.not_lt.1 h']

/-- One access to a register. -/
inductive Access where
  /-- A read. -/
  | read (phy : PhyAddress) (reg : RegAddress)
  /-- A write. -/
  | write (phy : PhyAddress) (reg : RegAddress) (value : Word)
  /-- A change of some bits. -/
  | modify (phy : PhyAddress) (reg : RegAddress) (clear set : Word)
  deriving DecidableEq

namespace Bus

variable {σ : Type}

/-- A bus handed on: it passes reads and writes to its owner, and changes bits by one of each. -/
def borrow (bus : Bus σ) : Bus σ where
  read := bus.read
  write := bus.write

/-- Makes one access; the result of a read is its value. -/
def access (bus : Bus σ) : Access → BusAction σ (Option Word)
  | .read phy reg => some <$> bus.read phy reg
  | .write phy reg value => do bus.write phy reg value; return none
  | .modify phy reg clear set => do bus.modify phy reg clear set; return none

end Bus

end EthernetPhy
