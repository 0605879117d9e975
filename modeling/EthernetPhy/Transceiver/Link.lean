import EthernetPhy.Clause22.Negotiation
import EthernetPhy.Link.StatusWord
import EthernetPhy.Paged

/-!
# Following the link

Two ways to follow the link of a transceiver, which share its record:

* `settledState` waits, within the bounds of the settings, until the negotiation has finished and
  the speed is resolved; a wait that runs out counts as a link that is down;
* `newLink` looks once without waiting and says when a link has come up; `awaitNewLink` repeats it.

The mode of the link is taken from a status word only when that word says that it is resolved.
-/

namespace EthernetPhy

namespace Transceiver

/-! ### Looking without waiting -/

/-- The mode of the link, once it is resolved. -/
def resolvedMode (phy : PhyAddress) : PhyM (Option LinkMode) := do
  let status ← BusM.read phy Register.physr
  return Physr.mode? status

/-- The mode of the link at this moment, if the link is up. -/
def liveMode (phy : PhyAddress) : PhyM (Option LinkMode) := do
  let status ← readWithin phy Page.control Register.livePhysr
  return LivePhysr.mode? status

/-- The mode of a link that is up and resolved. -/
def linkMode (phy : PhyAddress) : PhyM (Option LinkMode) := do
  if ← Clause22.linkIsUp phy then resolvedMode phy else return none

/-- Looks at the link once.  The mode is returned when the link has come up since the last change
that was reported, and a link that has gone down is logged. -/
def newLink : RecordM (Option LinkMode) := do
  let phy := (← get).address
  let mode ← linkMode phy
  modify fun r => r.observe mode
  match ← modifyGet PhyRecord.takeChange with
  | some .up =>
    Program.log (.linkUp phy)
    return mode
  | some .down =>
    Program.log (.linkDown phy)
    return none
  | none => return none

/-- Looks up to `looks` times, and waits after each look that did not find a new link. -/
def lookWithin {δ : Type} (look : DriverM δ (Option LinkMode)) : Nat → DriverM δ (Option LinkMode)
  | 0 => return none
  | looks + 1 => do
    match ← look with
    | some mode => return some mode
    | none =>
      Program.sleep Timing.negotiationInterval
      lookWithin look looks

/-- The number of looks that fit into about `timeout` milliseconds, and at least one. -/
def looksFor (timeout : UInt32) : Nat := max 1 (timeout / Timing.negotiationInterval).toNat

/-- Looks at the link up to `looks` times until a new one comes up. -/
def awaitNewLinkWithin (looks : Nat) : RecordM (Option LinkMode) := lookWithin newLink looks

/-- Looks at the link for about `timeout` milliseconds, and at least once, until a new one comes
up. -/
def awaitNewLink (timeout : UInt32) : RecordM (Option LinkMode) :=
  awaitNewLinkWithin (looksFor timeout)

/-! ### Waiting for the speed -/

/-- Takes over the mode of a resolved status word. -/
def settle (phy : PhyAddress) (status : Word) : RecordM Unit := do
  let mode := Physr.mode status
  modify fun r => { r with negotiated := some mode }
  Program.log (.resolved phy mode)

/-- Looks at an unresolved speed up to `looks` times, and waits before each look.  A link whose
speed had to be waited for counts as up and is given time to settle. -/
def awaitResolution (settings : Settings) (phy : PhyAddress) : Nat → RecordM Unit
  | 0 => do
    Program.log (.speedTimedOut phy)
    modify fun r => { r with current := .down }
    throw .timeout
  | looks + 1 => do
    Program.sleep Timing.speedInterval
    let status ← BusM.read phy Register.physr
    if Physr.isResolved status then
      modify fun r => { r with current := .up }
      Program.sleep settings.linkSettle
      settle phy status
    else
      awaitResolution settings phy looks

/-- Waits until the speed is resolved and takes over the mode of the link. -/
def awaitSpeed (settings : Settings) : RecordM Unit := do
  let phy := (← get).address
  let status ← BusM.read phy Register.physr
  if Physr.isResolved status then
    modify fun r => { r with current := Physr.linkState status }
    settle phy status
  else
    Program.log (.awaitingSpeed phy)
    awaitResolution settings phy settings.speedPolls.toNat

/-- Takes over the mode of a link that is down, if it is resolved all the same. -/
def refreshMode : RecordM Unit := do
  match ← resolvedMode (← get).address with
  | some mode => modify fun r => { r with negotiated := some mode }
  | none => return

/-- Brings the record up to date, with all waits that this takes. -/
def refresh (settings : Settings) : RecordM LinkState := do
  Clause22.trackLink settings.negotiationTimeout
  if (← get).current.isUp then
    awaitSpeed settings
  else
    refreshMode
  return (← get).current

/-- The state of the link, with the record brought up to date; a wait that runs out means down. -/
def settledState (settings : Settings) : RecordM LinkState :=
  tryCatch (refresh settings) fun
    | .timeout => return .down
    | fault => throw fault

end Transceiver

end EthernetPhy
