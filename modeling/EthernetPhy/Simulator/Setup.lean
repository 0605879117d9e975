import EthernetPhy.Simulator.Bus

/-!
# Setting up simulated PHYs

A `Setup` is one change to a simulated PHY from outside, as an experimenter makes it: contents of
registers, faults, queued values, how long resets take, and whole situations such as a link that
comes up.  It is not a frame on the bus, so nothing of it appears in the logs of the bus.
-/

namespace EthernetPhy

/-- A change to a simulated PHY from outside. -/
inductive Setup where
  /-- The registers of a model F PHY after power-up, with no link. -/
  | powerUp
  /-- A link at 1000 Mbps full duplex comes up. -/
  | linkUpGigabitFull
  /-- A link at 100 Mbps half duplex comes up. -/
  | linkUpFastHalf
  /-- The link goes down. -/
  | linkDown
  /-- A register of a page has this value. -/
  | register (page : Word) (reg : RegAddress) (value : Word)
  /-- These values are queued for the next reads of a register of page `0`. -/
  | queue (reg : RegAddress) (values : List Word)
  /-- Resets stay visible for this number of reads. -/
  | resetLatency (reads : UInt32)
  /-- Reads of a register fail. -/
  | failReads (reg : RegAddress)
  /-- Reads of a register fail after this number of reads. -/
  | failReadsAfter (reg : RegAddress) (reads : UInt32)
  /-- Writes of a register fail. -/
  | failWrites (reg : RegAddress)
  deriving DecidableEq

/-! ### Registers that are set from outside -/

/-- Registers of page `0` with their values. -/
def onStandard (values : List (RegAddress × Word)) : List (Word × RegAddress × Word) :=
  values.map fun entry => (Page.standard, entry)

/-- The registers of a model F PHY after power-up: it can do every mode, the receive clock is
delayed and the clock output pin is driven. -/
def powerUpRegisters : List (Word × RegAddress × Word) :=
  onStandard [
    (Register.phyidr1, Identifier.modelF.extractLsb' 16 16),
    (Register.phyidr2, Identifier.modelF.extractLsb' 0 16),
    (Register.bmsr, Bmsr.fastFull ||| Bmsr.fastHalf ||| Bmsr.slowFull ||| Bmsr.slowHalf
      ||| Bmsr.extendedStatus ||| Bmsr.preambleSuppression ||| Bmsr.anAbility
      ||| Bmsr.extendedRegisters),
    (Register.bmcr, Bmcr.anEnable ||| Bmcr.fullDuplex ||| Bmcr.speed1000),
    (Register.anar, Anar.selector),
    (Register.anlpar, 0),
    (Register.ctrl1000, 0),
    (Register.stat1000, 0),
    (Register.estatus, Estatus.gigabitFull ||| Estatus.gigabitHalf),
    (Register.physr, 0)] ++ [
    (Page.clockDelay, Register.txDelay, 0),
    (Page.clockDelay, Register.rxDelay, ClockDelayBit.rx),
    (Page.led, Register.lcr, 0),
    (Page.control, Register.phycr1, 0),
    (Page.control, Register.phycr2, Phycr.clockOut),
    (Page.control, Register.insr, 0),
    (Page.interrupt, Register.iner, 0)]

/-- Basic mode status with the bits for an established link set or clear. -/
def statusWithLink (status : Word) (up : Bool) : Word :=
  let bits := Bmsr.linkStatus ||| Bmsr.anComplete
  if up then status.update 0 bits else status.update bits 0

/-- The registers that show a link in a given state, with what its partner announces and the status
word of the link; `status` is basic mode status before. -/
def linkRegisters (status : Word) (up : Bool) (partner gigabit word : Word) :
    List (Word × RegAddress × Word) :=
  onStandard [
    (Register.bmsr, statusWithLink status up),
    (Register.anlpar, partner),
    (Register.stat1000, gigabit),
    (Register.physr, word)]

/-- The registers that a change from outside sets where `status` is basic mode status before. -/
def Setup.registers (status : Word) : Setup → List (Word × RegAddress × Word)
  | powerUp => powerUpRegisters
  | linkUpGigabitFull =>
    linkRegisters status true
      (Anlpar.selector ||| Anlpar.fastFull ||| Anlpar.fastHalf ||| Anlpar.slowFull
        ||| Anlpar.slowHalf)
      Stat1000.gigabitFull
      (Physr.speed1000 ||| Physr.duplex ||| Physr.resolved ||| Physr.link)
  | linkUpFastHalf =>
    linkRegisters status true (Anlpar.selector ||| Anlpar.fastHalf) 0
      (Physr.speed100 ||| Physr.resolved ||| Physr.link)
  | linkDown => linkRegisters status false 0 0 0
  | register page reg value => [(page, reg, value)]
  | queue .. | resetLatency _ | failReads _ | failReadsAfter .. | failWrites _ => []

namespace SimulatedPhy

/-- Stores registers, each on its page. -/
def storeAll (p : SimulatedPhy) (values : List (Word × RegAddress × Word)) : SimulatedPhy :=
  values.foldl (fun p entry => p.store entry.1 entry.2.1 entry.2.2) p

/-- The PHY as a model F PHY after power-up. -/
def powerUp (p : SimulatedPhy) : SimulatedPhy := p.storeAll powerUpRegisters

/-- The PHY after a change from outside. -/
def apply (p : SimulatedPhy) : Setup → SimulatedPhy
  | .queue reg values =>
    { p with queued := p.queued.insert reg ((p.queued.get? reg).getD [] ++ values) }
  | .resetLatency reads => { p with resetLatency := reads }
  | .failReads reg => { p with failingReads := reg :: p.failingReads }
  | .failReadsAfter reg reads => { p with readsLeft := p.readsLeft.insert reg reads }
  | .failWrites reg => { p with failingWrites := reg :: p.failingWrites }
  | change => p.storeAll (change.registers ((p.register? Page.standard Register.bmsr).getD 0))

end SimulatedPhy

/-- The bus after a change to the PHY at an address. -/
def SimulatedBus.apply (b : SimulatedBus) (a : PhyAddress) (s : Setup) : SimulatedBus :=
  b.setPhy a ((b.phy a).apply s)

end EthernetPhy
