/-!
# Link speed, duplex and state

A `LinkMode` is what two stations agree to run a link at, a `LinkState` is whether they do.
-/

namespace EthernetPhy

/-- Rate of a link. -/
inductive Speed where
  /-- Ten megabits per second. -/
  | mbps10
  /-- One hundred megabits per second. -/
  | mbps100
  /-- One thousand megabits per second. -/
  | mbps1000
  deriving DecidableEq

/-- Whether both stations may send at once. -/
inductive Duplex where
  /-- One station at a time. -/
  | half
  /-- Both stations at once. -/
  | full
  deriving DecidableEq

/-- Whether a link is established. -/
inductive LinkState where
  /-- No link. -/
  | down
  /-- An established link. -/
  | up
  deriving DecidableEq

/-- The parameters that a link runs with. -/
structure LinkMode where
  /-- The rate. -/
  speed : Speed
  /-- The duplex mode. -/
  duplex : Duplex
  deriving DecidableEq

/-- Nothing known about a link is read as 10 Mbps. -/
instance : Inhabited Speed := ⟨.mbps10⟩

/-- Nothing known about a link is read as half duplex. -/
instance : Inhabited Duplex := ⟨.half⟩

/-- Nothing known about a link is read as no link. -/
instance : Inhabited LinkState := ⟨.down⟩

instance : Inhabited LinkMode := ⟨⟨default, default⟩⟩

/-- The rate in megabits per second. -/
def Speed.mbps : Speed → Nat
  | mbps10 => 10
  | mbps100 => 100
  | mbps1000 => 1000

/-- The duplex mode in words. -/
def Duplex.text : Duplex → String
  | half => "half"
  | full => "full"

namespace LinkState

/-- The state that a link bit stands for. -/
def ofBool (bit : Bool) : LinkState := if bit then up else down

/-- Whether the link is established. -/
def isUp : LinkState → Bool
  | up => true
  | down => false

@[simp] theorem isUp_ofBool (bit : Bool) : (ofBool bit).isUp = bit := by
  cases bit <;> rfl

@[simp] theorem ofBool_isUp (s : LinkState) : ofBool s.isUp = s := by
  cases s <;> rfl

end LinkState

namespace LinkMode

/-- 1000 Mbps, full duplex. -/
def gigabitFull : LinkMode := ⟨.mbps1000, .full⟩

/-- 1000 Mbps, half duplex. -/
def gigabitHalf : LinkMode := ⟨.mbps1000, .half⟩

/-- 100 Mbps, full duplex. -/
def fastFull : LinkMode := ⟨.mbps100, .full⟩

/-- 100 Mbps, half duplex. -/
def fastHalf : LinkMode := ⟨.mbps100, .half⟩

/-- 10 Mbps, full duplex. -/
def slowFull : LinkMode := ⟨.mbps10, .full⟩

/-- 10 Mbps, half duplex. -/
def slowHalf : LinkMode := ⟨.mbps10, .half⟩

/-- The mode in words, as in `1000 Mbps full duplex`. -/
def text (m : LinkMode) : String := s!"{m.speed.mbps} Mbps {m.duplex.text} duplex"

end LinkMode

end EthernetPhy
