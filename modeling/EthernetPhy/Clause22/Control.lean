import EthernetPhy.Program.Basic
import EthernetPhy.Register.Clause22

/-!
# Basic mode control

Register `0` resets the PHY and sets the mode of its link by hand.  A reset clears its own bit when
it has finished; `reset` looks for that a bounded number of times.
-/

namespace EthernetPhy

namespace Bmcr

/-- The bits that select a speed. -/
def speedBits : Speed → Word
  | .mbps1000 => speed1000
  | .mbps100 => speed100
  | .mbps10 => 0

/-- The bit that selects a duplex mode. -/
def duplexBits : Duplex → Word
  | .full => fullDuplex
  | .half => 0

/-- Basic mode control with a link mode in force and the negotiation off. -/
def forced (mode : LinkMode) (v : Word) : Word :=
  v.update (anEnable ||| isolate ||| reset ||| speed100 ||| speed1000 ||| fullDuplex)
    (speedBits mode.speed ||| duplexBits mode.duplex)

/-- Basic mode control with the negotiation on and starting again. -/
def renegotiating (v : Word) : Word :=
  v.update (isolate ||| reset) (anEnable ||| anRestart)

end Bmcr

namespace Clause22

/-- Looks at a pending reset up to `looks` times, and waits after each look that still shows it. -/
def awaitReset (phy : PhyAddress) : Nat → PhyM Unit
  | 0 => do
    Program.log (.resetTimedOut phy)
    throw .timeout
  | looks + 1 => do
    let control ← BusM.read phy Register.bmcr
    if control.test Bmcr.reset then
      Program.sleep Timing.resetInterval
      awaitReset phy looks

/-- Resets a PHY, and looks `polls` times more than once for the end of the reset. -/
def reset (phy : PhyAddress) (polls : UInt32) : PhyM Unit := do
  BusM.write phy Register.bmcr Bmcr.reset
  awaitReset phy (polls.toNat + 1)

/-- Sets the mode of the link by hand. -/
def forceMode (phy : PhyAddress) (mode : LinkMode) : PhyM Unit := do
  let control ← BusM.read phy Register.bmcr
  BusM.write phy Register.bmcr (Bmcr.forced mode control)

end Clause22

end EthernetPhy
