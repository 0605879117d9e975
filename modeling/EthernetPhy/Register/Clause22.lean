import EthernetPhy.Word

/-!
# Standard registers

Numbers and bits of the registers that IEEE 802.3 Clause 22 gives every PHY: registers `0` to `15`,
with the two registers for 1000BASE-T.  Each register has a namespace of its own for its bits.
-/

namespace EthernetPhy

/-! ### Register numbers -/

namespace Register

/-- Basic mode control. -/
def bmcr : RegAddress := 0x00

/-- Basic mode status. -/
def bmsr : RegAddress := 0x01

/-- Upper half of the PHY identifier. -/
def phyidr1 : RegAddress := 0x02

/-- Lower half of the PHY identifier. -/
def phyidr2 : RegAddress := 0x03

/-- What this PHY advertises. -/
def anar : RegAddress := 0x04

/-- What the link partner advertises. -/
def anlpar : RegAddress := 0x05

/-- Negotiation expansion. -/
def aner : RegAddress := 0x06

/-- 1000BASE-T control. -/
def ctrl1000 : RegAddress := 0x09

/-- 1000BASE-T status. -/
def stat1000 : RegAddress := 0x0A

/-- Access control of the indirect register space. -/
def mmdControl : RegAddress := 0x0D

/-- Access data of the indirect register space. -/
def mmdData : RegAddress := 0x0E

/-- Extended status. -/
def estatus : RegAddress := 0x0F

end Register

/-- What a read returns when no PHY drives the bus, which then idles high. -/
def Word.idle : Word := 0xFFFF

/-! ### Basic mode control -/

namespace Bmcr

/-- Soft reset, clears itself. -/
def reset : Word := 0x8000

/-- Loopback. -/
def loopback : Word := 0x4000

/-- Lower speed select bit: 100 Mbps unless the upper one is set. -/
def speed100 : Word := 0x2000

/-- Negotiation enabled. -/
def anEnable : Word := 0x1000

/-- Power down. -/
def powerDown : Word := 0x0800

/-- Isolation from the MAC. -/
def isolate : Word := 0x0400

/-- Restart of the negotiation, clears itself. -/
def anRestart : Word := 0x0200

/-- Full duplex. -/
def fullDuplex : Word := 0x0100

/-- Collision test. -/
def collisionTest : Word := 0x0080

/-- Upper speed select bit: 1000 Mbps. -/
def speed1000 : Word := 0x0040

end Bmcr

/-! ### Basic mode status -/

namespace Bmsr

/-- 100BASE-T4. -/
def t4 : Word := 0x8000

/-- 100BASE-TX full duplex. -/
def fastFull : Word := 0x4000

/-- 100BASE-TX half duplex. -/
def fastHalf : Word := 0x2000

/-- 10BASE-T full duplex. -/
def slowFull : Word := 0x1000

/-- 10BASE-T half duplex. -/
def slowHalf : Word := 0x0800

/-- The extended status register exists. -/
def extendedStatus : Word := 0x0100

/-- Frames without preamble are understood. -/
def preambleSuppression : Word := 0x0040

/-- The negotiation has finished. -/
def anComplete : Word := 0x0020

/-- The partner reports a fault. -/
def remoteFault : Word := 0x0010

/-- The PHY can negotiate. -/
def anAbility : Word := 0x0008

/-- The link is up; a link loss stays visible until it has been read once. -/
def linkStatus : Word := 0x0004

/-- Jabber was detected. -/
def jabber : Word := 0x0002

/-- The extended register set exists. -/
def extendedRegisters : Word := 0x0001

end Bmsr

/-! ### Advertisement and link partner ability -/

namespace Anar

/-- Next page. -/
def nextPage : Word := 0x8000

/-- Acknowledge. -/
def acknowledge : Word := 0x4000

/-- Remote fault. -/
def remoteFault : Word := 0x2000

/-- Asymmetric flow control. -/
def asymmetricPause : Word := 0x0800

/-- Symmetric flow control. -/
def pause : Word := 0x0400

/-- 100BASE-T4. -/
def t4 : Word := 0x0200

/-- 100BASE-TX full duplex. -/
def fastFull : Word := 0x0100

/-- 100BASE-TX half duplex. -/
def fastHalf : Word := 0x0080

/-- 10BASE-T full duplex. -/
def slowFull : Word := 0x0040

/-- 10BASE-T half duplex. -/
def slowHalf : Word := 0x0020

/-- All modes at 10 and 100 Mbps. -/
def allModes : Word := fastFull ||| fastHalf ||| slowFull ||| slowHalf

/-- The selector field. -/
def selectorMask : Word := 0x001F

/-- The selector value of this standard. -/
def selector : Word := 0x0001

end Anar

namespace Anlpar

/-- Asymmetric flow control. -/
def asymmetricPause : Word := 0x0800

/-- Symmetric flow control. -/
def pause : Word := 0x0400

/-- 100BASE-TX full duplex. -/
def fastFull : Word := 0x0100

/-- 100BASE-TX half duplex. -/
def fastHalf : Word := 0x0080

/-- 10BASE-T full duplex. -/
def slowFull : Word := 0x0040

/-- 10BASE-T half duplex. -/
def slowHalf : Word := 0x0020

/-- The selector value of this standard. -/
def selector : Word := 0x0001

end Anlpar

/-! ### 1000BASE-T control and status, extended status -/

namespace Ctrl1000

/-- Manual choice of master and slave. -/
def manual : Word := 0x1000

/-- Master, if the choice is manual. -/
def master : Word := 0x0800

/-- 1000BASE-T full duplex is advertised. -/
def gigabitFull : Word := 0x0200

/-- 1000BASE-T half duplex is advertised. -/
def gigabitHalf : Word := 0x0100

end Ctrl1000

namespace Stat1000

/-- The local receiver works. -/
def localReceiver : Word := 0x2000

/-- The partner's receiver works. -/
def remoteReceiver : Word := 0x1000

/-- The partner can run 1000BASE-T full duplex. -/
def gigabitFull : Word := 0x0800

/-- The partner can run 1000BASE-T half duplex. -/
def gigabitHalf : Word := 0x0400

end Stat1000

namespace Estatus

/-- 1000BASE-X full duplex. -/
def fibreFull : Word := 0x8000

/-- 1000BASE-X half duplex. -/
def fibreHalf : Word := 0x4000

/-- 1000BASE-T full duplex. -/
def gigabitFull : Word := 0x2000

/-- 1000BASE-T half duplex. -/
def gigabitHalf : Word := 0x1000

end Estatus

end EthernetPhy
