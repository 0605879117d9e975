import EthernetPhy.Clause22.Procedure
import EthernetPhy.Transceiver.BringUp
import EthernetPhy.Transceiver.Link

/-!
# Operations of a transceiver

An `Operation` is what a caller can ask of a transceiver, as data: `Operation.perform` gives the
program for it.  All operations but `bringUp` work at the address in the record.
-/

namespace EthernetPhy

namespace Transceiver

/-! ### Identity and interrupts -/

/-- Whether an identifier belongs to a known part or to its family. -/
def isKnown (id : Identifier) : Bool :=
  id = .modelF || id = .modelFVd || id = .modelE
    || id &&& .familyMask = .family

/-- Lets changes of the link raise an interrupt, besides whatever does so already. -/
def unmaskLinkInterrupt (phy : PhyAddress) : PhyM Unit := do
  modifyWithin phy Page.interrupt Register.iner 0 Interrupt.linkStatus

/-- Lets nothing raise an interrupt. -/
def maskInterrupts (phy : PhyAddress) : PhyM Unit := do
  writeWithin phy Page.interrupt Register.iner 0

/-- The interrupts that are pending, which this read clears. -/
def pendingInterrupts (phy : PhyAddress) : PhyM Word := do
  readWithin phy Page.control Register.insr

/-! ### Operations as data -/

/-- What a caller can ask of a transceiver. -/
inductive Operation where
  /-- The address of the PHY. -/
  | address
  /-- Find a PHY and bring it up. -/
  | bringUp
  /-- Reset the PHY. -/
  | reset
  /-- Write the settings and start the negotiation. -/
  | applySettings
  /-- Select page `0`. -/
  | closePage
  /-- Whether the link is up. -/
  | linkIsUp
  /-- The mode of a link that is up and resolved. -/
  | linkMode
  /-- Look for a new link once. -/
  | newLink
  /-- Look for a new link for some milliseconds. -/
  | awaitNewLink (timeout : UInt32)
  /-- The state of the link, waiting as long as the settings allow. -/
  | settledState
  /-- Wait until the speed is resolved. -/
  | awaitSpeed
  /-- The mode that was decoded last. -/
  | negotiated
  /-- The mode of the link, once it is resolved. -/
  | resolvedMode
  /-- The mode of the link at this moment. -/
  | liveMode
  /-- Start the negotiation. -/
  | negotiate
  /-- Whether the negotiation has finished. -/
  | negotiationIsComplete
  /-- Set a link mode by hand. -/
  | forceMode (mode : LinkMode)
  /-- The abilities of the PHY. -/
  | abilities
  /-- The abilities of its partner. -/
  | partnerAbilities
  /-- The identifier. -/
  | identifier
  /-- Whether the identifier belongs to a known part or its family. -/
  | isKnown
  /-- Let changes of the link raise an interrupt. -/
  | unmaskLinkInterrupt
  /-- Let nothing raise an interrupt. -/
  | maskInterrupts
  /-- The interrupts that are pending. -/
  | pendingInterrupts
  deriving DecidableEq

/-- Performs an operation with some settings. -/
def Operation.perform (settings : Settings) : Operation → RecordM Answer
  | .address => return .number (← get).address.toNat
  | .bringUp => do Transceiver.bringUp settings; return .done
  | .reset => do Transceiver.reset settings; return .done
  | .applySettings => do Transceiver.applySettings settings (← get).address; return .done
  | .closePage => do EthernetPhy.closePage (← get).address; return .done
  | .linkIsUp => return .flag (← Clause22.linkIsUp (← get).address)
  | .linkMode => return .mode (← Transceiver.linkMode (← get).address)
  | .newLink => return .mode (← Transceiver.newLink)
  | .awaitNewLink timeout => return .mode (← Transceiver.awaitNewLink timeout)
  | .settledState => return .state (← Transceiver.settledState settings)
  | .awaitSpeed => do Transceiver.awaitSpeed settings; return .done
  | .negotiated => return .mode (← get).negotiated
  | .resolvedMode => return .mode (← Transceiver.resolvedMode (← get).address)
  | .liveMode => return .mode (← Transceiver.liveMode (← get).address)
  | .negotiate => do Clause22.negotiate (← get).address; return .done
  | .negotiationIsComplete => return .flag (← Clause22.negotiationIsComplete (← get).address)
  | .forceMode mode => do Clause22.forceMode (← get).address mode; return .done
  | .abilities => return .abilities (← Clause22.abilities (← get).address)
  | .partnerAbilities => return .abilities (← Clause22.partnerAbilities (← get).address)
  | .identifier => return .number (← Clause22.identifier (← get).address).toNat
  | .isKnown => return .flag (Transceiver.isKnown (← Clause22.identifier (← get).address))
  | .unmaskLinkInterrupt => do Transceiver.unmaskLinkInterrupt (← get).address; return .done
  | .maskInterrupts => do Transceiver.maskInterrupts (← get).address; return .done
  | .pendingInterrupts => return .number (← Transceiver.pendingInterrupts (← get).address).toNat

end Transceiver

end EthernetPhy
