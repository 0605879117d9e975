import EthernetPhy.Program.Basic
import EthernetPhy.Register.Clause22
import EthernetPhy.Register.Vendor

/-!
# Finding a PHY on the bus

Every PHY has two identifier registers, and an address without a PHY reads as an idle bus.
Discovery asks the addresses in increasing order and takes the first one at which neither
identifier register is idle.  An address at which a frame fails is passed over.
-/

namespace EthernetPhy

namespace Clause22

/-- The identifier words at an address, if a PHY is there: the second one is read whenever the first
one could be read. -/
def probe (phy : PhyAddress) : BusM (Option (Word × Word)) := do
  let id1 ← BusM.read phy Register.phyidr1
  let id2 ← BusM.read phy Register.phyidr2
  return if id1 ≠ .idle ∧ id2 ≠ .idle then some (id1, id2) else none

/-- The first address of a list that has a PHY, with its identifier words. -/
def sweep : List PhyAddress → Program (Option (PhyAddress × Word × Word))
  | [] => return none
  | phy :: rest => do
    match ← (probe phy).run with
    | .ok (some (id1, id2)) => return some (phy, id1, id2)
    | .ok none | .error _ => sweep rest

/-- Puts the first address with a PHY into the record. -/
def discover : RecordM Unit := do
  match ← sweep PhyAddress.all with
  | some (phy, id1, id2) =>
    modify fun r => { r with address := phy }
    Program.log (.detected phy id1 id2)
  | none =>
    Program.log .nothingDetected
    throw .noPhy

/-- The identifier of a PHY. -/
def identifier (phy : PhyAddress) : PhyM Identifier := do
  let id1 ← BusM.read phy Register.phyidr1
  let id2 ← BusM.read phy Register.phyidr2
  return id1 ++ id2

end Clause22

end EthernetPhy
