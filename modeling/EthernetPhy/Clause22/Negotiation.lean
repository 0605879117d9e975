import EthernetPhy.Clause22.Control

/-!
# Negotiation and the state of the link

The negotiation of a link mode is started by `negotiate` and followed by `trackLink`.  The link bit
of basic mode status stays clear after a link loss until it has been read, so the state at this
moment is in the second of two reads.
-/

namespace EthernetPhy

namespace Clause22

/-- Advertises every mode at 10, 100 and 1000 Mbps and starts the negotiation; a PHY that cannot
negotiate is left as it is. -/
def negotiate (phy : PhyAddress) : PhyM Unit := do
  let status ← BusM.read phy Register.bmsr
  unless status.test Bmsr.anAbility do
    Program.log (.cannotNegotiate phy)
    throw .unsupported
  let advertised ← BusM.read phy Register.anar
  BusM.write phy Register.anar (advertised ||| Anar.allModes)
  let gigabit ← BusM.read phy Register.ctrl1000
  BusM.write phy Register.ctrl1000 (gigabit ||| Ctrl1000.gigabitFull ||| Ctrl1000.gigabitHalf)
  let control ← BusM.read phy Register.bmcr
  BusM.write phy Register.bmcr (Bmcr.renegotiating control)

/-- Whether the link is up at this moment. -/
def linkIsUp (phy : PhyAddress) : PhyM Bool := do
  let _ ← BusM.read phy Register.bmsr
  let status ← BusM.read phy Register.bmsr
  return status.test Bmsr.linkStatus

/-- Whether the negotiation has finished. -/
def negotiationIsComplete (phy : PhyAddress) : PhyM Bool := do
  let status ← BusM.read phy Register.bmsr
  return status.test Bmsr.anComplete

/-- Looks at a running negotiation up to `looks` times, and waits before each look.  The link counts
as up once the negotiation has finished, and as down if it has not. -/
def awaitNegotiation (phy : PhyAddress) : Nat → RecordM Unit
  | 0 => do
    Program.log (.negotiationTimedOut phy)
    modify fun r => { r with current := .down }
    throw .timeout
  | looks + 1 => do
    Program.sleep Timing.negotiationInterval
    let status ← BusM.read phy Register.bmsr
    if status.test Bmsr.anComplete then
      modify fun r => { r with current := .up }
    else
      awaitNegotiation phy looks

/-- Brings the link state of the record up to date.  A link that was up and still is needs one read;
otherwise the negotiation is waited for, at most `timeout` milliseconds, unless it has finished
already. -/
def trackLink (timeout : UInt32) : RecordM Unit := do
  let record ← get
  let phy := record.address
  let status ← BusM.read phy Register.bmsr
  if record.current.isUp && status.test Bmsr.linkStatus then
    return
  if status.test Bmsr.anComplete then
    -- The first read may have shown a link loss that is over; this one is live.
    let live ← BusM.read phy Register.bmsr
    modify fun r => { r with current := .ofBool (live.test Bmsr.linkStatus) }
  else
    Program.log (.awaitingNegotiation phy)
    awaitNegotiation phy (timeout / Timing.negotiationInterval).toNat

end Clause22

end EthernetPhy
