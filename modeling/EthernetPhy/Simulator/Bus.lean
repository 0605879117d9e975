import EthernetPhy.Bus.Basic
import EthernetPhy.Simulator.Phy

/-!
# A simulated bus

`SimulatedBus` has a simulated PHY at every address and keeps lists of all reads and writes.
`SimulatedBus.bus` is the bus that it is.  PHYs at different addresses share nothing but those two
lists.
-/

namespace EthernetPhy

/-- Simulated PHYs on one bus. -/
structure SimulatedBus where
  /-- The PHYs whose state was ever touched. -/
  phys : Table PhyAddress SimulatedPhy := {}
  /-- All reads, newest first. -/
  readLog : List (PhyAddress × RegAddress) := []
  /-- All writes, newest first. -/
  writeLog : List (PhyAddress × RegAddress × Word) := []
  deriving DecidableEq

namespace SimulatedBus

/-- The PHY at an address. -/
def phy (b : SimulatedBus) (a : PhyAddress) : SimulatedPhy := (b.phys.get? a).getD {}

/-- The bus with another PHY at an address. -/
def setPhy (b : SimulatedBus) (a : PhyAddress) (p : SimulatedPhy) : SimulatedBus :=
  { b with phys := b.phys.insert a p }

@[simp] theorem phy_setPhy_self (b : SimulatedBus) (a : PhyAddress) (p : SimulatedPhy) :
    (b.setPhy a p).phy a = p := by
  simp [phy, setPhy]

theorem phy_setPhy_of_ne (b : SimulatedBus) {a a' : PhyAddress} (p : SimulatedPhy) (h : a ≠ a') :
    (b.setPhy a p).phy a' = b.phy a' := by
  simp [phy, setPhy, Table.get?_insert_of_ne _ _ h]

/-! ### Frames -/

/-- A read frame. -/
def read (b : SimulatedBus) (a : PhyAddress) (reg : RegAddress) :
    Except BusFault Word × SimulatedBus :=
  match (b.phy a).read reg with
  | (answer, p) => (answer, { b.setPhy a p with readLog := (a, reg) :: b.readLog })

/-- A write frame. -/
def write (b : SimulatedBus) (a : PhyAddress) (reg : RegAddress) (value : Word) :
    Except BusFault Unit × SimulatedBus :=
  match (b.phy a).write reg value with
  | (answer, p) => (answer, { b.setPhy a p with writeLog := (a, reg, value) :: b.writeLog })

/-- The simulated PHYs as a bus. -/
def bus : Bus SimulatedBus where
  read a reg := ExceptT.mk fun b => b.read a reg
  write a reg value := ExceptT.mk fun b => b.write a reg value

/-! ### Logs -/

/-- All reads in order. -/
def reads (b : SimulatedBus) : List (PhyAddress × RegAddress) := b.readLog.reverse

/-- All writes in order. -/
def writes (b : SimulatedBus) : List (PhyAddress × RegAddress × Word) := b.writeLog.reverse

/-- The number of reads of one register, failed ones included. -/
def countReads (b : SimulatedBus) (a : PhyAddress) (reg : RegAddress) : Nat :=
  b.readLog.count (a, reg)

/-- Forgets all reads and writes so far. -/
def forgetFrames (b : SimulatedBus) : SimulatedBus := { b with readLog := [], writeLog := [] }

end SimulatedBus

end EthernetPhy
