import EthernetPhy.Link.Mode

/-!
# Abilities of a station

`Abilities` is the set of link modes that a station can run, with its negotiation and flow control
abilities.  `Abilities.bestShared` is the mode that two stations settle on: the first in the order
`Abilities.preference` that both can run.
-/

namespace EthernetPhy

/-- What a PHY, or its link partner, can do. -/
structure Abilities where
  /-- 1000BASE-T full duplex. -/
  gigabitFull : Bool := false
  /-- 1000BASE-T half duplex. -/
  gigabitHalf : Bool := false
  /-- 100BASE-TX full duplex. -/
  fastFull : Bool := false
  /-- 100BASE-TX half duplex. -/
  fastHalf : Bool := false
  /-- 10BASE-T full duplex. -/
  slowFull : Bool := false
  /-- 10BASE-T half duplex. -/
  slowHalf : Bool := false
  /-- Negotiation of the link mode. -/
  negotiation : Bool := false
  /-- Symmetric flow control. -/
  pause : Bool := false
  /-- Asymmetric flow control. -/
  asymmetricPause : Bool := false
  deriving DecidableEq

namespace Abilities

/-- Whether link mode `m` is among the abilities. -/
def allows (a : Abilities) : LinkMode → Bool
  | ⟨.mbps1000, .full⟩ => a.gigabitFull
  | ⟨.mbps1000, .half⟩ => a.gigabitHalf
  | ⟨.mbps100, .full⟩ => a.fastFull
  | ⟨.mbps100, .half⟩ => a.fastHalf
  | ⟨.mbps10, .full⟩ => a.slowFull
  | ⟨.mbps10, .half⟩ => a.slowHalf

/-- All link modes, the most desirable first. -/
def preference : List LinkMode :=
  [.gigabitFull, .gigabitHalf, .fastFull, .fastHalf, .slowFull, .slowHalf]

/-- The most desirable link mode that both sides allow. -/
def bestShared (a b : Abilities) : Option LinkMode :=
  preference.find? fun m => a.allows m && b.allows m

theorem bestShared_comm (a b : Abilities) : a.bestShared b = b.bestShared a := by
  simp only [bestShared, Bool.and_comm]

theorem mem_preference (m : LinkMode) : m ∈ preference := by
  obtain ⟨s, d⟩ := m
  cases s <;> cases d <;> decide

end Abilities

end EthernetPhy
