import EthernetPhy.Clause22.Discovery
import EthernetPhy.Clause22.Negotiation
import EthernetPhy.Paged
import EthernetPhy.Settings

/-!
# Bringing up a transceiver

`bringUp` finds a PHY, resets it, writes the settings of the caller to it and starts the
negotiation.  `applySettings` is the part after the reset.  It begins with a second reset that is
not waited for and whose failure does not count; any later failure ends it, with the settings before
that point already written and page `0` selected again.
-/

namespace EthernetPhy

namespace Transceiver

/-- The masks to clear and to set that drive `bits` to `on`. -/
def masksFor (bits : Word) (on : Bool) : Word × Word := if on then (0, bits) else (bits, 0)

/-- Sets the clock delays, each with its own bit in its own register of one page. -/
def setClockDelay (phy : PhyAddress) (mode : ClockDelay) : BusM Unit :=
  let tx := masksFor ClockDelayBit.tx mode.tx
  let rx := masksFor ClockDelayBit.rx mode.rx
  withinPage phy Page.clockDelay do
    BusM.modify phy Register.txDelay tx.1 tx.2
    BusM.modify phy Register.rxDelay rx.1 rx.2

/-- Sets the value of LED control. -/
def setLed (phy : PhyAddress) (value : Word) : BusM Unit :=
  writeWithin phy Page.led Register.lcr value

/-- Switches the clock output pin on or off. -/
def setClockOut (phy : PhyAddress) (on : Bool) : BusM Unit :=
  let masks := masksFor Phycr.clockOut on
  modifyWithin phy Page.control Register.phycr2 masks.1 masks.2

/-- Switches power saving on or off. -/
def setPowerSaving (phy : PhyAddress) (on : Bool) : BusM Unit :=
  let masks := masksFor Phycr.savingAll on
  modifyWithin phy Page.control Register.phycr1 masks.1 masks.2

/-- Does something with a setting that has a value. -/
def whenSet {α : Type} (setting : Option α) (act : α → BusM Unit) : BusM Unit :=
  match setting with
  | none => return
  | some value => act value

/-- Writes the settings to a PHY that has been reset and starts the negotiation. -/
def applySettings (settings : Settings) (phy : PhyAddress) : PhyM Unit := do
  -- Nothing hangs on this reset: it is neither waited for nor required to succeed.
  let _ ← ExceptT.lift (BusM.write phy Register.bmcr Bmcr.reset).run
  setClockDelay phy settings.clockDelay
  Program.log (.clockDelaySet phy settings.clockDelay)
  whenSet settings.led (setLed phy)
  whenSet settings.clockOut (setClockOut phy)
  whenSet settings.powerSaving (setPowerSaving phy)
  Clause22.negotiate phy

/-- Resets the PHY of the record. -/
def reset (settings : Settings) : RecordM Unit := do
  Clause22.reset (← get).address settings.resetPolls

/-- Brings up the first PHY of the bus with a new record. -/
def bringUp (settings : Settings) : RecordM Unit := do
  set ({} : PhyRecord)
  Clause22.discover
  reset settings
  let phy := (← get).address
  applySettings settings phy
  Program.log (.ready phy)

end Transceiver

end EthernetPhy
