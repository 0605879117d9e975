import EthernetPhy.Link.Mode
import EthernetPhy.Word

/-!
# The record of one PHY

What a driver remembers of a PHY between operations: where it is, the state of its link, the state
that the caller was told last, and the last mode that was decoded.  `PhyRecord.takeChange` turns
a sequence of states into a sequence of changes.
-/

namespace EthernetPhy

/-- What is remembered of one PHY. -/
structure PhyRecord where
  /-- The address on the bus. -/
  address : PhyAddress := 0
  /-- The state of the link at the last look. -/
  current : LinkState := .down
  /-- The state of the link that the caller was told last. -/
  reported : LinkState := .down
  /-- The mode that was decoded last. -/
  negotiated : Option LinkMode := none
  deriving DecidableEq

namespace PhyRecord

/-- The change of the link since it was last taken, if any, and the record with it taken. -/
def takeChange (r : PhyRecord) : Option LinkState × PhyRecord :=
  if r.current = r.reported then (none, r)
  else (some r.current, { r with reported := r.current })

/-- The record after a look at the link that found it running in `mode`, or not running. -/
def observe (r : PhyRecord) (mode : Option LinkMode) : PhyRecord :=
  { r with current := .ofBool mode.isSome, negotiated := mode <|> r.negotiated }

end PhyRecord

end EthernetPhy
