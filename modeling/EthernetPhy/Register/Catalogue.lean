import EthernetPhy.Register.Clause22
import EthernetPhy.Register.Vendor
import EthernetPhy.Timing

/-!
# Catalogue of the published constants

The names under which the limits, registers and bits of this library are published, in blocks.
`Block.entries` is the only place that has these names; the values are the definitions that the
rest of the library uses.
-/

namespace EthernetPhy

/-- A group of published constants. -/
inductive Block where
  /-- Address limits, intervals and bounds. -/
  | limits
  /-- The value of an idle bus. -/
  | idle
  /-- Numbers of the standard registers. -/
  | standardRegisters
  /-- Bits of basic mode control. -/
  | bmcr
  /-- Bits of basic mode status. -/
  | bmsr
  /-- Bits of the advertisement. -/
  | anar
  /-- Bits of the link partner ability. -/
  | anlpar
  /-- Bits of 1000BASE-T control. -/
  | ctrl1000
  /-- Bits of 1000BASE-T status. -/
  | stat1000
  /-- Bits of extended status. -/
  | estatus
  /-- PHY identifiers and their masks. -/
  | identifiers
  /-- Page numbers. -/
  | pages
  /-- Numbers of the vendor registers. -/
  | vendorRegisters
  /-- Bits of the status word. -/
  | physr
  /-- Bits of the real-time status word. -/
  | livePhysr
  /-- Bits of the clock delays. -/
  | clockDelay
  /-- Values of LED control. -/
  | led
  /-- Bits of the control registers. -/
  | control
  /-- Bits of the interrupt registers. -/
  | interrupts

namespace Block

/-- The names and values of one block. -/
def entries : Block → List (String × Nat)
  | limits => [
      ("MAX_PHY_ADDR", PhyAddress.max.toNat),
      ("MAX_REG_ADDR", RegAddress.max.toNat),
      ("PHY_ADDR_COUNT", PhyAddress.count),
      ("RESET_POLL_INTERVAL_MS", Timing.resetInterval.toNat),
      ("RESET_POLL_LIMIT", Timing.resetPolls.toNat),
      ("ANEG_TIMEOUT_MS", Timing.negotiationTimeout.toNat),
      ("ANEG_POLL_INTERVAL_MS", Timing.negotiationInterval.toNat),
      ("SPEED_DONE_POLL_LIMIT", Timing.speedPolls.toNat),
      ("SPEED_DONE_POLL_INTERVAL_MS", Timing.speedInterval.toNat),
      ("LINK_SETTLE_MS", Timing.linkSettle.toNat),
      ("HW_RESET_PULSE_US", Timing.resetPulse.toNat),
      ("HW_RESET_RECOVERY_US", Timing.resetRecovery.toNat)]
  | idle => [("PHY_ID_INVALID", Word.idle.toNat)]
  | standardRegisters => [
      ("BMCR", Register.bmcr.toNat),
      ("BMSR", Register.bmsr.toNat),
      ("PHYIDR1", Register.phyidr1.toNat),
      ("PHYIDR2", Register.phyidr2.toNat),
      ("ANAR", Register.anar.toNat),
      ("ANLPAR", Register.anlpar.toNat),
      ("ANER", Register.aner.toNat),
      ("CTRL1000", Register.ctrl1000.toNat),
      ("STAT1000", Register.stat1000.toNat),
      ("MMD_CTRL", Register.mmdControl.toNat),
      ("MMD_DATA", Register.mmdData.toNat),
      ("ESTATUS", Register.estatus.toNat)]
  | bmcr => [
      ("RESET", Bmcr.reset.toNat),
      ("LOOPBACK", Bmcr.loopback.toNat),
      ("SPEED_100", Bmcr.speed100.toNat),
      ("AN_ENABLE", Bmcr.anEnable.toNat),
      ("POWER_DOWN", Bmcr.powerDown.toNat),
      ("ISOLATE", Bmcr.isolate.toNat),
      ("AN_RESTART", Bmcr.anRestart.toNat),
      ("DUPLEX_FULL", Bmcr.fullDuplex.toNat),
      ("COLLISION_TEST", Bmcr.collisionTest.toNat),
      ("SPEED_1000", Bmcr.speed1000.toNat)]
  | bmsr => [
      ("T4_CAPABLE", Bmsr.t4.toNat),
      ("TX_FD_CAPABLE", Bmsr.fastFull.toNat),
      ("TX_HD_CAPABLE", Bmsr.fastHalf.toNat),
      ("T10_FD_CAPABLE", Bmsr.slowFull.toNat),
      ("T10_HD_CAPABLE", Bmsr.slowHalf.toNat),
      ("ESTATUS", Bmsr.extendedStatus.toNat),
      ("MF_PREAMBLE_SUPP", Bmsr.preambleSuppression.toNat),
      ("AN_COMPLETE", Bmsr.anComplete.toNat),
      ("REMOTE_FAULT", Bmsr.remoteFault.toNat),
      ("AN_ABILITY", Bmsr.anAbility.toNat),
      ("LINK_STATUS", Bmsr.linkStatus.toNat),
      ("JABBER_DETECT", Bmsr.jabber.toNat),
      ("EXT_CAPABLE", Bmsr.extendedRegisters.toNat)]
  | anar => [
      ("NEXT_PAGE", Anar.nextPage.toNat),
      ("ACK", Anar.acknowledge.toNat),
      ("REMOTE_FAULT", Anar.remoteFault.toNat),
      ("PAUSE_ASYM", Anar.asymmetricPause.toNat),
      ("PAUSE", Anar.pause.toNat),
      ("T4", Anar.t4.toNat),
      ("TX_FD", Anar.fastFull.toNat),
      ("TX_HD", Anar.fastHalf.toNat),
      ("T10_FD", Anar.slowFull.toNat),
      ("T10_HD", Anar.slowHalf.toNat),
      ("ALL_10_100", Anar.allModes.toNat),
      ("SELECTOR_MASK", Anar.selectorMask.toNat),
      ("SELECTOR_802_3", Anar.selector.toNat)]
  | anlpar => [
      ("PAUSE_ASYM", Anlpar.asymmetricPause.toNat),
      ("PAUSE", Anlpar.pause.toNat),
      ("CAN_100_FD", Anlpar.fastFull.toNat),
      ("CAN_100_HD", Anlpar.fastHalf.toNat),
      ("CAN_10_FD", Anlpar.slowFull.toNat),
      ("CAN_10_HD", Anlpar.slowHalf.toNat),
      ("SELECTOR_802_3", Anlpar.selector.toNat)]
  | ctrl1000 => [
      ("MS_MANUAL", Ctrl1000.manual.toNat),
      ("MS_MASTER", Ctrl1000.master.toNat),
      ("ADV_1000_FULL", Ctrl1000.gigabitFull.toNat),
      ("ADV_1000_HALF", Ctrl1000.gigabitHalf.toNat)]
  | stat1000 => [
      ("LOCAL_RX_OK", Stat1000.localReceiver.toNat),
      ("REMOTE_RX_OK", Stat1000.remoteReceiver.toNat),
      ("LP_1000_FULL", Stat1000.gigabitFull.toNat),
      ("LP_1000_HALF", Stat1000.gigabitHalf.toNat)]
  | estatus => [
      ("X_1000_FULL", Estatus.fibreFull.toNat),
      ("X_1000_HALF", Estatus.fibreHalf.toNat),
      ("T_1000_FULL", Estatus.gigabitFull.toNat),
      ("T_1000_HALF", Estatus.gigabitHalf.toNat)]
  | identifiers => [
      ("RTL8211F", Identifier.modelF.toNat),
      ("RTL8211F_VD", Identifier.modelFVd.toNat),
      ("RTL8211E", Identifier.modelE.toNat),
      ("MASK", Identifier.fullMask.toNat),
      ("REALTEK_GENERIC", Identifier.family.toNat),
      ("REALTEK_MASK", Identifier.familyMask.toNat)]
  | pages => [
      ("DEFAULT", Page.standard.toNat),
      ("LED", Page.led.toNat),
      ("RGMII_DELAY", Page.clockDelay.toNat),
      ("INTERRUPT", Page.interrupt.toNat),
      ("PHY_CONTROL", Page.control.toNat)]
  | vendorRegisters => [
      ("LCR", Register.lcr.toNat),
      ("PHYSR", Register.physr.toNat),
      ("TX_DELAY", Register.txDelay.toNat),
      ("INER", Register.iner.toNat),
      ("RX_DELAY", Register.rxDelay.toNat),
      ("PHYCR1", Register.phycr1.toNat),
      ("PHYCR2", Register.phycr2.toNat),
      ("PHYSR_A43", Register.livePhysr.toNat),
      ("INSR", Register.insr.toNat),
      ("PAGE_SELECT", Register.pageSelect.toNat)]
  | physr => [
      ("SPEED_MASK", Physr.speedMask.toNat),
      ("SPEED_1000", Physr.speed1000.toNat),
      ("SPEED_100", Physr.speed100.toNat),
      ("SPEED_10", Physr.speed10.toNat),
      ("DUPLEX", Physr.duplex.toNat),
      ("SPDDONE", Physr.resolved.toNat),
      ("LINK", Physr.link.toNat)]
  | livePhysr => [
      ("SPEED_MASK", LivePhysr.speedMask.toNat),
      ("SPEED_1000", LivePhysr.speed1000.toNat),
      ("SPEED_100", LivePhysr.speed100.toNat),
      ("DUPLEX", LivePhysr.duplex.toNat),
      ("LINK", LivePhysr.link.toNat)]
  | clockDelay => [
      ("TX_DELAY_EN", ClockDelayBit.tx.toNat),
      ("RX_DELAY_EN", ClockDelayBit.rx.toNat)]
  | led => [("GREEN_LINK_YELLOW_ACT", Lcr.greenLinkYellowActivity.toNat)]
  | control => [
      ("ALDPS_ENABLE", Phycr.saving.toNat),
      ("ALDPS_PLL_OFF", Phycr.savingPll.toNat),
      ("ALDPS_XTAL_OFF", Phycr.savingCrystal.toNat),
      ("ALDPS_ALL", Phycr.savingAll.toNat),
      ("CLKOUT_EN", Phycr.clockOut.toNat)]
  | interrupts => [
      ("LINK_STATUS", Interrupt.linkStatus.toNat),
      ("AN_ERROR", Interrupt.anError.toNat)]

end Block

end EthernetPhy
