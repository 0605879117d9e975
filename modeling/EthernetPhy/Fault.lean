/-!
# What can go wrong

Two kinds of fault, each a closed list of causes.  A `BusFault` is the failure of one management
frame; a `Fault` is the failure of an operation on a transceiver, and a bus fault that ended an
operation is kept inside it unchanged.  All wording is here.
-/

namespace EthernetPhy

/-- Why one management frame failed. -/
inductive BusFault where
  /-- The PHY address does not fit into a frame. -/
  | phyOutOfRange
  /-- The register number does not fit into a frame. -/
  | registerOutOfRange
  /-- The bus controller did not finish the frame in time. -/
  | timeout
  /-- No PHY drove the bus. -/
  | noResponse
  deriving DecidableEq

/-- Why an operation on a transceiver failed. -/
inductive Fault where
  /-- No PHY was found on the bus. -/
  | noPhy
  /-- A bounded wait ran out. -/
  | timeout
  /-- A management frame failed. -/
  | bus (cause : BusFault)
  /-- The PHY lacks the capability that was asked for. -/
  | unsupported
  /-- The reset line could not be driven. -/
  | resetLine
  deriving DecidableEq

namespace BusFault

/-- The text of a bus fault. -/
def text : BusFault → String
  | phyOutOfRange => "invalid PHY address"
  | registerOutOfRange => "invalid register address"
  | timeout => "MDIO transaction timed out"
  | noResponse => "no response from PHY"

end BusFault

namespace Fault

/-- The text of the cause alone; that of a bus fault is its own text. -/
def text : Fault → String
  | noPhy => "no PHY found on the bus"
  | timeout => "operation timed out"
  | bus cause => cause.text
  | unsupported => "capability not supported"
  | resetLine => "reset pin error"

/-- Whether a failed frame is the cause. -/
def isBus : Fault → Bool
  | bus _ => true
  | _ => false

/-- The full message: the cause, and before it the side on which it arose. -/
def message (f : Fault) : String := (if f.isBus then "bus: " else "phy: ") ++ f.text

end Fault

end EthernetPhy
