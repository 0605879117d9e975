import EthernetPhy.Program.Basic

/-!
# The reset line of a transceiver

A transceiver may have a reset line that holds the PHY in reset while it is low.  These operations
drive the line and nothing else; they use neither the bus nor the record.
-/

namespace EthernetPhy

namespace Transceiver

namespace ResetPin

/-- Drives the line to a level, which is a fault if the line does not take it. -/
def drive (level : Level) : PhyM Unit := do
  unless ← Program.drive level do
    throw .resetLine

/-- Takes over a line, released; that it may fail to take the level is not a fault yet. -/
def attach : Program Unit := do
  let _ ← Program.drive .high

/-- Holds the PHY in reset. -/
def hold : PhyM Unit := drive .low

/-- Lets the PHY run. -/
def release : PhyM Unit := drive .high

/-- Resets the PHY by a pulse and waits until it has come back. -/
def pulse : PhyM Unit := do
  hold
  Program.wait (.us Timing.resetPulse)
  release
  Program.wait (.us Timing.resetRecovery)

/-- What a caller can ask of the reset line. -/
inductive Operation where
  /-- Hold the PHY in reset. -/
  | hold
  /-- Let the PHY run. -/
  | release
  /-- Reset the PHY by a pulse. -/
  | pulse
  deriving DecidableEq

/-- Performs an operation on the reset line. -/
def Operation.perform : Operation → PhyM Unit
  | .hold => ResetPin.hold
  | .release => ResetPin.release
  | .pulse => ResetPin.pulse

end ResetPin

end Transceiver

end EthernetPhy
