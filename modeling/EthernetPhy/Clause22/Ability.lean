import EthernetPhy.Link.Abilities
import EthernetPhy.Program.Basic
import EthernetPhy.Register.Clause22

/-!
# Reading abilities

What a PHY can do is in basic mode status and, for 1000BASE-T, in the extended status register if
there is one.  What its partner can do is in the link partner ability register and in 1000BASE-T
status.
-/

namespace EthernetPhy

namespace Abilities

/-- The abilities in basic mode status and extended status; flow control is not among what these
registers say. -/
def ofStatus (status extended : Word) : Abilities where
  gigabitFull := extended.test Estatus.gigabitFull
  gigabitHalf := extended.test Estatus.gigabitHalf
  fastFull := status.test Bmsr.fastFull
  fastHalf := status.test Bmsr.fastHalf
  slowFull := status.test Bmsr.slowFull
  slowHalf := status.test Bmsr.slowHalf
  negotiation := status.test Bmsr.anAbility

/-- The abilities that a link partner announces; that it announces any means that it negotiates. -/
def ofPartner (ability gigabit : Word) : Abilities where
  gigabitFull := gigabit.test Stat1000.gigabitFull
  gigabitHalf := gigabit.test Stat1000.gigabitHalf
  fastFull := ability.test Anlpar.fastFull
  fastHalf := ability.test Anlpar.fastHalf
  slowFull := ability.test Anlpar.slowFull
  slowHalf := ability.test Anlpar.slowHalf
  negotiation := true
  pause := ability.test Anlpar.pause
  asymmetricPause := ability.test Anlpar.asymmetricPause

end Abilities

namespace Clause22

/-- What a PHY can do; extended status is read only if the PHY has it. -/
def abilities (phy : PhyAddress) : PhyM Abilities := do
  let status ← BusM.read phy Register.bmsr
  if status.test Bmsr.extendedStatus then
    let extended ← BusM.read phy Register.estatus
    return .ofStatus status extended
  else
    return .ofStatus status 0

/-- What the link partner of a PHY announces. -/
def partnerAbilities (phy : PhyAddress) : PhyM Abilities := do
  let ability ← BusM.read phy Register.anlpar
  let gigabit ← BusM.read phy Register.stat1000
  return .ofPartner ability gigabit

/-- The best mode common to a PHY and its partner.  Both sides are always read, and the fault of the
PHY counts before that of the partner. -/
def bestShared (phy : PhyAddress) : PhyM (Option LinkMode) := do
  let ours ← ExceptT.lift (abilities phy).run
  let theirs ← ExceptT.lift (partnerAbilities phy).run
  let ours ← ExceptT.mk (pure ours)
  let theirs ← ExceptT.mk (pure theirs)
  return ours.bestShared theirs

end Clause22

end EthernetPhy
