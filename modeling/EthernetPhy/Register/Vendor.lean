import EthernetPhy.Word

/-!
# Vendor registers

Registers `16` to `30` are banked: the number written to register `31` selects the page that they
belong to.  Page `0` is the default, and every operation of this library leaves it selected.
Two registers share number `0x11`: the status word on page `0` and the transmit delay on page
`0xD08`.
-/

namespace EthernetPhy

/-! ### PHY identifiers -/

/-- The two identifier registers of a PHY, the first one as the upper half. -/
abbrev Identifier := BitVec 32

namespace Identifier

/-- Model F of the family. -/
def modelF : Identifier := 0x001CC916

/-- Model F, variant VD. -/
def modelFVd : Identifier := 0x001CC878

/-- Model E of the family. -/
def modelE : Identifier := 0x001CC915

/-- Selects the whole identifier. -/
def fullMask : Identifier := 0xFFFFFFFF

/-- The gigabit family that these parts belong to. -/
def family : Identifier := 0x001CC800

/-- Selects maker and family. -/
def familyMask : Identifier := 0xFFFFFC00

end Identifier

/-! ### Pages and register numbers -/

namespace Page

/-- The default page, with the standard registers. -/
def standard : Word := 0x0000

/-- The page of the LED control. -/
def led : Word := 0x0D04

/-- The page of the clock delays towards the MAC. -/
def clockDelay : Word := 0x0D08

/-- The page of the interrupt mask. -/
def interrupt : Word := 0x0A42

/-- The page of the PHY control registers. -/
def control : Word := 0x0A43

end Page

namespace Register

/-- LED control, page `0xD04`. -/
def lcr : RegAddress := 0x10

/-- Status word, page `0`. -/
def physr : RegAddress := 0x11

/-- Transmit clock delay, page `0xD08`. -/
def txDelay : RegAddress := 0x11

/-- Interrupt mask, page `0xA42`. -/
def iner : RegAddress := 0x12

/-- Receive clock delay, page `0xD08`. -/
def rxDelay : RegAddress := 0x15

/-- First control register, page `0xA43`. -/
def phycr1 : RegAddress := 0x18

/-- Second control register, page `0xA43`. -/
def phycr2 : RegAddress := 0x19

/-- Real-time status word, page `0xA43`. -/
def livePhysr : RegAddress := 0x1A

/-- Pending interrupts, page `0xA43`; a read clears them. -/
def insr : RegAddress := 0x1D

/-- Page select. -/
def pageSelect : RegAddress := 0x1F

end Register

/-! ### Bits of the vendor registers -/

namespace Physr

/-- The speed field. -/
def speedMask : Word := 0xC000

/-- Speed field at 1000 Mbps. -/
def speed1000 : Word := 0x8000

/-- Speed field at 100 Mbps. -/
def speed100 : Word := 0x4000

/-- Speed field at 10 Mbps. -/
def speed10 : Word := 0x0000

/-- Full duplex. -/
def duplex : Word := 0x2000

/-- Speed and duplex are resolved. -/
def resolved : Word := 0x0800

/-- The link is up at this moment. -/
def link : Word := 0x0400

end Physr

namespace LivePhysr

/-- The speed field. -/
def speedMask : Word := 0x0030

/-- Speed field at 1000 Mbps. -/
def speed1000 : Word := 0x0020

/-- Speed field at 100 Mbps. -/
def speed100 : Word := 0x0010

/-- Full duplex. -/
def duplex : Word := 0x0008

/-- The link is up at this moment. -/
def link : Word := 0x0004

end LivePhysr

namespace ClockDelayBit

/-- Transmit clock delay on, in register `0x11`. -/
def tx : Word := 0x0100

/-- Receive clock delay on, in register `0x15`. -/
def rx : Word := 0x0008

end ClockDelayBit

namespace Lcr

/-- Green on link at any speed, yellow blinks on activity. -/
def greenLinkYellowActivity : Word := 0x617F

end Lcr

namespace Phycr

/-- Power saving while the link is down. -/
def saving : Word := 0x0004

/-- Power saving stops the clock multiplier. -/
def savingPll : Word := 0x0002

/-- Power saving stops the crystal. -/
def savingCrystal : Word := 0x1000

/-- All bits for power saving. -/
def savingAll : Word := saving ||| savingPll ||| savingCrystal

/-- The clock output pin is driven. -/
def clockOut : Word := 0x0001

end Phycr

namespace Interrupt

/-- The link went up or down. -/
def linkStatus : Word := 0x0010

/-- The negotiation failed. -/
def anError : Word := 0x0001

end Interrupt

end EthernetPhy
