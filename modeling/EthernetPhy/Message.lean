import EthernetPhy.Link.Mode
import EthernetPhy.Settings

/-!
# Log messages

Operations report their progress as messages.  A message is a value with its parameters; its
severity and its text are functions of it, so that what is logged can be reasoned about without
looking into texts.
-/

namespace EthernetPhy

/-- How urgent a message is. -/
inductive Severity where
  /-- Of interest while looking for an error. -/
  | debug
  /-- Normal progress. -/
  | info
  /-- An operation gave up. -/
  | warn
  deriving DecidableEq

/-- What an operation reports. -/
inductive Message where
  /-- Discovery found a PHY with these identifier words. -/
  | detected (phy : PhyAddress) (id1 id2 : Word)
  /-- Discovery found no PHY. -/
  | nothingDetected
  /-- A soft reset did not finish. -/
  | resetTimedOut (phy : PhyAddress)
  /-- The PHY cannot negotiate. -/
  | cannotNegotiate (phy : PhyAddress)
  /-- A wait for the negotiation begins. -/
  | awaitingNegotiation (phy : PhyAddress)
  /-- A wait for the negotiation ran out. -/
  | negotiationTimedOut (phy : PhyAddress)
  /-- The clock delays are set. -/
  | clockDelaySet (phy : PhyAddress) (mode : ClockDelay)
  /-- The PHY is set up and negotiates. -/
  | ready (phy : PhyAddress)
  /-- A wait for the speed begins. -/
  | awaitingSpeed (phy : PhyAddress)
  /-- A wait for the speed ran out. -/
  | speedTimedOut (phy : PhyAddress)
  /-- The speed is resolved. -/
  | resolved (phy : PhyAddress) (mode : LinkMode)
  /-- The link went up. -/
  | linkUp (phy : PhyAddress)
  /-- The link went down. -/
  | linkDown (phy : PhyAddress)
  deriving DecidableEq

/-- A word in hexadecimal digits, with `0x` in front and no leading zeros. -/
def Word.hex (v : Word) : String := "0x" ++ String.ofList (Nat.toDigits 16 v.toNat)

/-- The severity in capitals. -/
def Severity.text : Severity → String
  | debug => "DEBUG"
  | info => "INFO"
  | warn => "WARN"

namespace Message

/-- How urgent a message is. -/
def severity : Message → Severity
  | detected .. | ready _ | resolved .. | linkUp _ | linkDown _ => .info
  | awaitingNegotiation _ | clockDelaySet .. | awaitingSpeed _ => .debug
  | nothingDetected | resetTimedOut _ | cannotNegotiate _ | negotiationTimedOut _
  | speedTimedOut _ => .warn

/-- The wording of a message. -/
def text : Message → String
  | detected phy id1 id2 => s!"PHY detected at address {phy}: id {id1.hex}:{id2.hex}"
  | nothingDetected => "no PHY responded on the MDIO bus"
  | resetTimedOut phy => s!"PHY {phy} soft reset timed out"
  | cannotNegotiate phy => s!"PHY {phy} does not support auto-negotiation"
  | awaitingNegotiation phy => s!"PHY {phy}: waiting for auto-negotiation"
  | negotiationTimedOut phy => s!"PHY {phy}: auto-negotiation timed out"
  | clockDelaySet phy mode => s!"PHY {phy}: RGMII delay mode {mode.text}"
  | ready phy => s!"PHY {phy}: initialized, auto-negotiation started"
  | awaitingSpeed phy => s!"PHY {phy}: waiting for speed resolution"
  | speedTimedOut phy => s!"PHY {phy}: speed resolution timed out"
  | resolved phy mode => s!"PHY {phy}: {mode.speed.mbps} Mbps, {mode.duplex.text} duplex"
  | linkUp phy => s!"PHY {phy}: link up"
  | linkDown phy => s!"PHY {phy}: link down"

end Message

end EthernetPhy
