import EthernetPhy.Link.Mode
import EthernetPhy.Register.Vendor

/-!
# Decoding the status words

The PHY reports the parameters of its link in two status words with different layouts: the one on
page `0` also says whether speed and duplex are resolved yet, the one on the control page is live.
Every word decodes; the reserved value of the speed field stands for 10 Mbps.
-/

namespace EthernetPhy

namespace Physr

/-- The mode in a status word. -/
def mode (v : Word) : LinkMode where
  speed :=
    if v &&& speedMask = speed1000 then .mbps1000
    else if v &&& speedMask = speed100 then .mbps100
    else .mbps10
  duplex := if v.test duplex then .full else .half

/-- The state of the link in a status word. -/
def linkState (v : Word) : LinkState := .ofBool (v.test link)

/-- Whether speed and duplex are resolved in a status word. -/
def isResolved (v : Word) : Bool := v.test resolved

/-- The mode in a status word, once it is resolved. -/
def mode? (v : Word) : Option LinkMode := if isResolved v then some (mode v) else none

end Physr

namespace LivePhysr

/-- The mode in a real-time status word. -/
def mode (v : Word) : LinkMode where
  speed :=
    if v &&& speedMask = speed1000 then .mbps1000
    else if v &&& speedMask = speed100 then .mbps100
    else .mbps10
  duplex := if v.test duplex then .full else .half

/-- The mode in a real-time status word, while the link is up. -/
def mode? (v : Word) : Option LinkMode := if v.test link then some (mode v) else none

end LivePhysr

end EthernetPhy
