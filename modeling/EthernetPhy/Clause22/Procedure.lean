import EthernetPhy.Clause22.Ability
import EthernetPhy.Clause22.Discovery
import EthernetPhy.Clause22.Negotiation

/-!
# The standard procedures as data

A `Procedure` names one of the procedures of Clause 22 with its parameters; the two that keep track
of a PHY work on the record of the caller.  An `Answer` is what any operation of this library may
come back with.
-/

namespace EthernetPhy

/-- The result of an operation. -/
inductive Answer where
  /-- Nothing but success. -/
  | done
  /-- A yes or a no. -/
  | flag (b : Bool)
  /-- A number. -/
  | number (n : Nat)
  /-- A link state. -/
  | state (s : LinkState)
  /-- A link mode, if there is one. -/
  | mode (m : Option LinkMode)
  /-- A set of abilities. -/
  | abilities (a : Abilities)
  deriving DecidableEq

namespace Clause22

/-- A procedure with its parameters. -/
inductive Procedure where
  /-- Whether the link is up. -/
  | linkIsUp (phy : PhyAddress)
  /-- Whether the negotiation has finished. -/
  | negotiationIsComplete (phy : PhyAddress)
  /-- Find a PHY for the record. -/
  | discover
  /-- Reset with a bound on the looks after the first. -/
  | reset (phy : PhyAddress) (polls : UInt32)
  /-- Start the negotiation. -/
  | negotiate (phy : PhyAddress)
  /-- Bring the link state of the record up to date. -/
  | trackLink (timeout : UInt32)
  /-- Set a link mode by hand. -/
  | forceMode (phy : PhyAddress) (mode : LinkMode)
  /-- Read the identifier. -/
  | identifier (phy : PhyAddress)
  /-- Read the abilities of the PHY. -/
  | abilities (phy : PhyAddress)
  /-- Read the abilities of its partner. -/
  | partnerAbilities (phy : PhyAddress)
  /-- Read both and take the best common mode. -/
  | bestShared (phy : PhyAddress)
  deriving DecidableEq

/-- Performs a procedure on a record. -/
def Procedure.perform : Procedure → RecordM Answer
  | .linkIsUp phy => return .flag (← Clause22.linkIsUp phy)
  | .negotiationIsComplete phy => return .flag (← Clause22.negotiationIsComplete phy)
  | .discover => do Clause22.discover; return .done
  | .reset phy polls => do Clause22.reset phy polls; return .done
  | .negotiate phy => do Clause22.negotiate phy; return .done
  | .trackLink timeout => do Clause22.trackLink timeout; return .done
  | .forceMode phy mode => do Clause22.forceMode phy mode; return .done
  | .identifier phy => return .number (← Clause22.identifier phy).toNat
  | .abilities phy => return .abilities (← Clause22.abilities phy)
  | .partnerAbilities phy => return .abilities (← Clause22.partnerAbilities phy)
  | .bestShared phy => return .mode (← Clause22.bestShared phy)

end Clause22

end EthernetPhy
