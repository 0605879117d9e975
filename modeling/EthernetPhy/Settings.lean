import EthernetPhy.Register.Vendor
import EthernetPhy.Timing

/-!
# Settings of a transceiver

`Settings` holds what the caller chooses once: the vendor settings that are written to the PHY and
the bounds of all waits.  A setting that is `none` is not written, so the PHY keeps the value that
its straps gave it.  `Setting` is one change, and `Settings.ofList` makes settings from a list of
changes to the defaults.
-/

namespace EthernetPhy

/-- Which clocks towards the MAC the PHY delays by itself. -/
inductive ClockDelay where
  /-- Neither clock. -/
  | neither
  /-- Both clocks. -/
  | both
  /-- The transmit clock only. -/
  | txOnly
  /-- The receive clock only. -/
  | rxOnly
  deriving DecidableEq

namespace ClockDelay

/-- Whether the transmit clock is delayed. -/
def tx : ClockDelay → Bool
  | both | txOnly => true
  | neither | rxOnly => false

/-- Whether the receive clock is delayed. -/
def rx : ClockDelay → Bool
  | both | rxOnly => true
  | neither | txOnly => false

/-- The name of a delay mode. -/
def text : ClockDelay → String
  | neither => "Rgmii"
  | both => "RgmiiId"
  | txOnly => "RgmiiTxid"
  | rxOnly => "RgmiiRxid"

end ClockDelay

/-- What the caller chooses for a transceiver. -/
structure Settings where
  /-- The clock delays. -/
  clockDelay : ClockDelay := .txOnly
  /-- The value of LED control. -/
  led : Option Word := some Lcr.greenLinkYellowActivity
  /-- Whether the clock output pin is driven. -/
  clockOut : Option Bool := none
  /-- Whether the PHY saves power while the link is down. -/
  powerSaving : Option Bool := none
  /-- Looks at a pending soft reset after the first one. -/
  resetPolls : UInt32 := Timing.resetPolls
  /-- Milliseconds for the negotiation. -/
  negotiationTimeout : UInt32 := Timing.negotiationTimeout
  /-- Looks at an unresolved speed after the first one. -/
  speedPolls : UInt32 := Timing.speedPolls
  /-- Milliseconds for the link to settle once its speed has been waited for. -/
  linkSettle : UInt32 := Timing.linkSettle
  deriving DecidableEq

/-- One change of settings. -/
inductive Setting where
  /-- The clock delays. -/
  | clockDelay (mode : ClockDelay)
  /-- The value of LED control, or leave it alone. -/
  | led (value : Option Word)
  /-- Drive the clock output pin or not. -/
  | clockOut (on : Bool)
  /-- Save power or not. -/
  | powerSaving (on : Bool)
  /-- The bound of a soft reset. -/
  | resetPolls (polls : UInt32)
  /-- The bound of the negotiation. -/
  | negotiationTimeout (ms : UInt32)
  /-- The bound of the speed resolution. -/
  | speedPolls (polls : UInt32)
  /-- The time to settle. -/
  | linkSettle (ms : UInt32)
  /-- Back to the defaults. -/
  | defaults

namespace Settings

/-- The settings after one change. -/
def apply (s : Settings) : Setting → Settings
  | .clockDelay mode => { s with clockDelay := mode }
  | .led value => { s with led := value }
  | .clockOut on => { s with clockOut := some on }
  | .powerSaving on => { s with powerSaving := some on }
  | .resetPolls polls => { s with resetPolls := polls }
  | .negotiationTimeout ms => { s with negotiationTimeout := ms }
  | .speedPolls polls => { s with speedPolls := polls }
  | .linkSettle ms => { s with linkSettle := ms }
  | .defaults => {}

/-- The defaults with the changes of a list, first to last. -/
def ofList (changes : List Setting) : Settings := changes.foldl apply {}

end Settings

end EthernetPhy
