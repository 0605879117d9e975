import EthernetPhy.Program.Part
import EthernetPhy.Transceiver.Operation
import EthernetPhy.Transceiver.ResetPin

/-!
# Drivers

A driver is what a caller holds to use a transceiver.  There are two:

* `Driver` keeps the settings and the record;
* `ResetDriver` keeps a driver inside and drives a reset line, which is the one of the board.

Both have the methods of `PhyDriver`, and a wait for a new link can be made with any driver that has
them (`PhyDriver.awaitNewLink`).  They are all that a caller can rely on; each driver has some more
methods of its own.  A `ResetDriver` has nothing of its own but the line: method by method it asks the
driver inside.
-/

namespace EthernetPhy

/-- What every driver of a PHY can be asked for.  A method that only looks at the driver is given it,
and the others may change it. -/
class PhyDriver (δ : Type) where
  /-- The address of the PHY. -/
  address : δ → PhyAddress
  /-- Find a PHY and bring it up. -/
  bringUp : DriverM δ Unit
  /-- Reset the PHY. -/
  reset : DriverM δ Unit
  /-- Whether the link is up. -/
  linkIsUp : δ → PhyM Bool
  /-- The mode of a link that is up and resolved. -/
  linkMode : δ → PhyM (Option LinkMode)
  /-- Look for a new link once. -/
  newLink : DriverM δ (Option LinkMode)
  /-- Start the negotiation. -/
  negotiate : DriverM δ Unit
  /-- Set a link mode by hand. -/
  forceMode : LinkMode → DriverM δ Unit
  /-- The abilities of the PHY. -/
  abilities : δ → PhyM Abilities
  /-- The identifier. -/
  identifier : δ → PhyM Identifier
  /-- Whether the negotiation has finished. -/
  negotiationIsComplete : δ → PhyM Bool
  /-- The abilities of its partner. -/
  partnerAbilities : δ → PhyM Abilities

open Transceiver

namespace PhyDriver

variable {δ : Type} [PhyDriver δ]

/-- Looks for a new link with any driver for about `timeout` milliseconds, and at least once. -/
def awaitNewLink (timeout : UInt32) : DriverM δ (Option LinkMode) :=
  lookWithin newLink (looksFor timeout)

/-- Performs an operation by the methods that every driver has; `own` performs the others. -/
def perform (own : Operation → DriverM δ Answer) : Operation → DriverM δ Answer
  | .address => return .number (address (← get)).toNat
  | .bringUp => do bringUp; return .done
  | .reset => do reset; return .done
  | .linkIsUp => return .flag (← linkIsUp (← get))
  | .linkMode => return .mode (← linkMode (← get))
  | .newLink => return .mode (← newLink)
  | .awaitNewLink timeout => return .mode (← awaitNewLink timeout)
  | .negotiate => do negotiate; return .done
  | .forceMode mode => do forceMode mode; return .done
  | .abilities => return .abilities (← abilities (← get))
  | .identifier => return .number (← identifier (← get)).toNat
  | .negotiationIsComplete => return .flag (← negotiationIsComplete (← get))
  | .partnerAbilities => return .abilities (← partnerAbilities (← get))
  | o => own o

end PhyDriver

/-! ### A driver without a reset line -/

/-- A driver of a transceiver. -/
structure Driver where
  /-- The settings. -/
  settings : Settings := {}
  /-- The record. -/
  record : PhyRecord := {}
  deriving DecidableEq

namespace Driver

/-- The record of a driver. -/
def recordPart : Part Driver PhyRecord where
  view := record
  put r d := { d with record := r }
  view_put _ _ := rfl
  put_view _ := rfl
  put_put _ _ _ := rfl

/-- Does something with the settings to the record. -/
def onRecord {α : Type} (x : Settings → RecordM α) : DriverM Driver α := do
  recordPart.focus (x (← get).settings)

instance : PhyDriver Driver where
  address d := d.record.address
  bringUp := onRecord Transceiver.bringUp
  reset := onRecord Transceiver.reset
  linkIsUp d := Clause22.linkIsUp d.record.address
  linkMode d := Transceiver.linkMode d.record.address
  newLink := onRecord fun _ => Transceiver.newLink
  negotiate := do Clause22.negotiate (← get).record.address
  forceMode mode := do Clause22.forceMode (← get).record.address mode
  abilities d := Clause22.abilities d.record.address
  identifier d := Clause22.identifier d.record.address
  negotiationIsComplete d := Clause22.negotiationIsComplete d.record.address
  partnerAbilities d := Clause22.partnerAbilities d.record.address

/-- The state of the link, waiting as long as the settings allow. -/
def settledState : DriverM Driver LinkState := onRecord Transceiver.settledState

/-- The mode that was decoded last. -/
def negotiated (d : Driver) : Option LinkMode := d.record.negotiated

/-- Whether the identifier belongs to a known part or its family. -/
def isKnown (d : Driver) : PhyM Bool := return Transceiver.isKnown (← PhyDriver.identifier d)

/-- Performs an operation that is not one of every driver. -/
def performOwn : Operation → DriverM Driver Answer
  | .settledState => return .state (← settledState)
  | .negotiated => return .mode (negotiated (← get))
  | .isKnown => return .flag (← isKnown (← get))
  | o => onRecord fun settings => o.perform settings

/-- Performs an operation. -/
def perform : Operation → DriverM Driver Answer := PhyDriver.perform performOwn

end Driver

/-! ### A driver with a reset line -/

/-- A driver of a transceiver with a reset line. -/
structure ResetDriver where
  /-- The driver inside. -/
  inner : Driver
  deriving DecidableEq

namespace ResetDriver

/-- The driver inside of a driver with a reset line. -/
def innerPart : Part ResetDriver Driver where
  view := inner
  put d _ := ⟨d⟩
  view_put _ _ := rfl
  put_view _ := rfl
  put_put _ _ _ := rfl

/-- A new driver, which releases its line at once; that the line may fail to take the level is not a
fault yet. -/
def new (settings : Settings) : Program ResetDriver := do
  ResetPin.attach
  return ⟨{ settings }⟩

instance : PhyDriver ResetDriver where
  address d := PhyDriver.address d.inner
  bringUp := innerPart.focus PhyDriver.bringUp
  reset := innerPart.focus PhyDriver.reset
  linkIsUp d := PhyDriver.linkIsUp d.inner
  linkMode d := PhyDriver.linkMode d.inner
  newLink := innerPart.focus PhyDriver.newLink
  negotiate := innerPart.focus PhyDriver.negotiate
  forceMode mode := innerPart.focus (PhyDriver.forceMode mode)
  abilities d := PhyDriver.abilities d.inner
  identifier d := PhyDriver.identifier d.inner
  negotiationIsComplete d := PhyDriver.negotiationIsComplete d.inner
  partnerAbilities d := PhyDriver.partnerAbilities d.inner

/-- The state of the link, waiting as long as the settings allow. -/
def settledState : DriverM ResetDriver LinkState := innerPart.focus Driver.settledState

/-- The mode that was decoded last. -/
def negotiated (d : ResetDriver) : Option LinkMode := d.inner.negotiated

/-- Whether the identifier belongs to a known part or its family. -/
def isKnown (d : ResetDriver) : PhyM Bool := d.inner.isKnown

/-- Performs an operation that is not one of every driver; those that this driver has no method for
are performed on the driver inside. -/
def performOwn : Operation → DriverM ResetDriver Answer
  | .settledState => return .state (← settledState)
  | .negotiated => return .mode (negotiated (← get))
  | .isKnown => return .flag (← isKnown (← get))
  | o => innerPart.focus (Driver.perform o)

/-- Performs an operation. -/
def perform : Operation → DriverM ResetDriver Answer := PhyDriver.perform performOwn

/-- Holds the PHY in reset. -/
def hold : DriverM ResetDriver Unit := ResetPin.hold

/-- Lets the PHY run. -/
def release : DriverM ResetDriver Unit := ResetPin.release

/-- Resets the PHY by a pulse and waits until it has come back. -/
def pulse : DriverM ResetDriver Unit := ResetPin.pulse

/-- Performs an operation on the reset line. -/
def driveReset : ResetPin.Operation → DriverM ResetDriver Answer
  | .hold => do hold; return .done
  | .release => do release; return .done
  | .pulse => do pulse; return .done

end ResetDriver

end EthernetPhy
