/-!
# Waits and their bounds

Every wait of this library is a loop with a fixed interval and a bound on its rounds.  The
intervals are fixed; the bounds here are the defaults of `Settings`.  Milliseconds, except for the
two times of the reset line, which are microseconds.
-/

namespace EthernetPhy

namespace Timing

/-- Between two looks at a pending soft reset. -/
def resetInterval : UInt32 := 1

/-- Looks at a pending soft reset after the first one. -/
def resetPolls : UInt32 := 1000

/-- For the negotiation as a whole. -/
def negotiationTimeout : UInt32 := 4000

/-- Between two looks at a running negotiation. -/
def negotiationInterval : UInt32 := 50

/-- Looks at an unresolved speed after the first one. -/
def speedPolls : UInt32 := 5000

/-- Between two looks at an unresolved speed. -/
def speedInterval : UInt32 := 1

/-- For the link to settle once its speed has been waited for. -/
def linkSettle : UInt32 := 500

/-- For the reset line to be held low, in microseconds. -/
def resetPulse : UInt32 := 10000

/-- For the PHY to come back after the reset line was released, in microseconds. -/
def resetRecovery : UInt32 := 30000

end Timing

end EthernetPhy
