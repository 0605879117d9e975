import EthernetPhy.Bus.Board
import EthernetPhy.Clause22.Ability
import EthernetPhy.Proofs.Ensures
import EthernetPhy.Simulator.Setup

/-!
# The mode that two stations share

`Abilities.bestShared` picks a mode from two sets of abilities, which `Clause22.abilities` and
`Clause22.partnerAbilities` decode from different bits of different registers.  Here its choice is read
off the words of these registers, bit by bit.

* `AbilityWords` : the words of the four registers, with the modes that they announce
  (`AbilityWords.here`, `AbilityWords.there`), each mode by the number of its bit;
* `Exchange` : both sets of abilities were read, and these are the words that were found;
* `Exchange.bestShared_eq` : the choice is the first in the order of preference that is announced on
  both sides;
* `bestShared_announced` : **what is chosen, that no mode is chosen only if none is announced on both
  sides, and that further bits never make the choice worse**.
-/

namespace EthernetPhy

open Event

/-! ### The order of preference -/

/-- The place of a link mode when the most desirable one comes first: the faster before the slower, and
at one speed full duplex before half duplex. -/
def LinkMode.place : LinkMode → Nat
  | ⟨.mbps1000, .full⟩ => 0
  | ⟨.mbps1000, .half⟩ => 1
  | ⟨.mbps100, .full⟩ => 2
  | ⟨.mbps100, .half⟩ => 3
  | ⟨.mbps10, .full⟩ => 4
  | ⟨.mbps10, .half⟩ => 5

namespace Abilities

theorem place_getElem_preference :
    ∀ (i : Nat) (hi : i < preference.length), preference[i].place = i := by decide

theorem getElem?_preference_place (mode : LinkMode) : preference[mode.place]? = some mode := by
  obtain ⟨speed, duplex⟩ := mode
  cases speed <;> cases duplex <;> rfl

/-- A search in the order of preference finds the mode that has the lowest place among all that it looks
for. -/
theorem find?_preference_eq_some_iff {p : LinkMode → Bool} {mode : LinkMode} :
    preference.find? p = some mode ↔
      p mode = true ∧ ∀ other, p other = true → mode.place ≤ other.place := by
  rw [List.find?_eq_some_iff_getElem]
  refine and_congr_right fun _ => ⟨?_, fun hleast => ?_⟩
  · rintro ⟨i, hi, rfl, hbefore⟩ other hother
    obtain ⟨hlength, hget⟩ := List.getElem?_eq_some_iff.1 (getElem?_preference_place other)
    rw [place_getElem_preference]
    refine Nat.le_of_not_lt fun hearlier => ?_
    have hnot := hbefore other.place hearlier
    rw [hget, hother] at hnot
    cases hnot
  · obtain ⟨hlength, hget⟩ := List.getElem?_eq_some_iff.1 (getElem?_preference_place mode)
    refine ⟨mode.place, hlength, hget, fun j hj => ?_⟩
    have hj' := Nat.lt_trans hj hlength
    cases hp : p preference[j] with
    | false => rfl
    | true =>
      have hle := hleast _ hp
      rw [place_getElem_preference] at hle
      omega

theorem find?_preference_eq_none_iff {p : LinkMode → Bool} :
    preference.find? p = none ↔ ∀ mode, p mode = false := by
  rw [List.find?_eq_none]
  exact ⟨fun h mode => eq_false_of_ne_true (h mode (mem_preference mode)),
    fun h mode _ => ne_true_of_eq_false (h mode)⟩

end Abilities

/-! ### The words of the registers -/

theorem Word.test_bit {v mask : Word} {i : Nat} (hmask : mask = BitVec.twoPow 16 i) (hi : i < 16) :
    v.test mask = v.getLsbD i := by
  have hne : BitVec.twoPow 16 i ≠ 0#16 := by
    intro hzero
    have hbit := congrArg (fun word => word.getLsbD i) hzero
    simp [hi] at hbit
  rw [hmask, test, BitVec.and_twoPow]
  cases v.getLsbD i <;> simp [hne]

/-- The words from which the abilities of a PHY and of its partner are read. -/
structure AbilityWords where
  /-- Basic mode status. -/
  status : Word
  /-- Extended status. -/
  extended : Word
  /-- Link partner ability. -/
  ability : Word
  /-- 1000BASE-T status. -/
  gigabit : Word

namespace AbilityWords

/-- What a PHY announces of itself; extended status counts only if basic mode status says that it is
there. -/
def here (w : AbilityWords) : LinkMode → Bool
  | ⟨.mbps1000, .full⟩ => w.status.getLsbD 8 && w.extended.getLsbD 13
  | ⟨.mbps1000, .half⟩ => w.status.getLsbD 8 && w.extended.getLsbD 12
  | ⟨.mbps100, .full⟩ => w.status.getLsbD 14
  | ⟨.mbps100, .half⟩ => w.status.getLsbD 13
  | ⟨.mbps10, .full⟩ => w.status.getLsbD 12
  | ⟨.mbps10, .half⟩ => w.status.getLsbD 11

/-- What the partner announces. -/
def there (w : AbilityWords) : LinkMode → Bool
  | ⟨.mbps1000, .full⟩ => w.gigabit.getLsbD 11
  | ⟨.mbps1000, .half⟩ => w.gigabit.getLsbD 10
  | ⟨.mbps100, .full⟩ => w.ability.getLsbD 8
  | ⟨.mbps100, .half⟩ => w.ability.getLsbD 7
  | ⟨.mbps10, .full⟩ => w.ability.getLsbD 6
  | ⟨.mbps10, .half⟩ => w.ability.getLsbD 5

/-- What both sides announce. -/
def shared (w : AbilityWords) (mode : LinkMode) : Bool := w.here mode && w.there mode

/-- The words with further bits set. -/
def or (w more : AbilityWords) : AbilityWords where
  status := w.status ||| more.status
  extended := w.extended ||| more.extended
  ability := w.ability ||| more.ability
  gigabit := w.gigabit ||| more.gigabit

/-- The reads that find the abilities of a PHY; extended status is read only if it is there. -/
def readsHere (w : AbilityWords) (phy : PhyAddress) : List Event :=
  got phy Register.bmsr w.status ::
    if w.status.getLsbD 8 then [got phy Register.estatus w.extended] else []

/-- The reads that find the abilities of its partner. -/
def readsThere (w : AbilityWords) (phy : PhyAddress) : List Event :=
  [got phy Register.anlpar w.ability, got phy Register.stat1000 w.gigabit]

variable {w w' more : AbilityWords} {mode : LinkMode} {phy : PhyAddress}

theorem here_or (h : w.here mode = true) : (w.or more).here mode = true := by
  obtain ⟨speed, duplex⟩ := mode
  cases speed <;> cases duplex <;>
    simp only [here, or, BitVec.getLsbD_or, Bool.and_eq_true, Bool.or_eq_true] at h ⊢ <;>
    first | exact .inl h | exact ⟨.inl h.1, .inl h.2⟩

theorem there_or (h : w.there mode = true) : (w.or more).there mode = true := by
  obtain ⟨speed, duplex⟩ := mode
  cases speed <;> cases duplex <;>
    simp only [there, or, BitVec.getLsbD_or, Bool.or_eq_true] at h ⊢ <;> exact .inl h

/-- **Further bits take no mode away**; the bit for extended status may add two. -/
theorem shared_or (h : w.shared mode = true) : (w.or more).shared mode = true := by
  rw [shared, Bool.and_eq_true] at h ⊢
  exact ⟨here_or h.1, there_or h.2⟩

/-- The reads show all that the PHY announces of itself. -/
theorem here_eq_of_reads (h : w.readsHere phy = w'.readsHere phy) : w.here = w'.here := by
  obtain ⟨hfirst, hrest⟩ := List.cons.inj h
  have hstatus : w.status = w'.status := by simpa using hfirst
  funext ⟨speed, duplex⟩
  cases hguard : w.status.getLsbD 8 with
  | false =>
    have hguard' : w'.status.getLsbD 8 = false := by rw [← hstatus, hguard]
    cases speed <;> cases duplex <;> simp only [here, hguard', hstatus, Bool.false_and]
  | true =>
    rw [← hstatus, hguard] at hrest
    have hextended : w.extended = w'.extended := by simpa using hrest
    cases speed <;> cases duplex <;> simp only [here, hstatus, hextended]

theorem there_eq_of_reads (h : w.readsThere phy = w'.readsThere phy) : w.there = w'.there := by
  obtain ⟨hability, hgigabit⟩ : w.ability = w'.ability ∧ w.gigabit = w'.gigabit := by
    simpa [readsThere] using h
  funext ⟨speed, duplex⟩
  cases speed <;> cases duplex <;> simp only [there, hability, hgigabit]

end AbilityWords

/-! ### Reading the abilities -/

namespace Abilities

theorem allows_ofStatus (w : AbilityWords) (h : w.status.getLsbD 8 = true) :
    (ofStatus w.status w.extended).allows = w.here := by
  funext ⟨speed, duplex⟩
  cases speed <;> cases duplex <;>
    simp only [allows, ofStatus, AbilityWords.here, h, Bool.true_and] <;>
    exact Word.test_bit (by decide) (by decide)

theorem allows_ofStatus_zero (w : AbilityWords) (h : w.status.getLsbD 8 = false) :
    (ofStatus w.status 0).allows = w.here := by
  funext ⟨speed, duplex⟩
  cases speed <;> cases duplex <;>
    simp only [allows, ofStatus, AbilityWords.here, h, Bool.false_and] <;>
    first | rfl | exact Word.test_bit (by decide) (by decide)

theorem allows_ofPartner (w : AbilityWords) :
    (ofPartner w.ability w.gigabit).allows = w.there := by
  funext ⟨speed, duplex⟩
  cases speed <;> cases duplex <;> exact Word.test_bit (by decide) (by decide)

end Abilities

namespace Clause22

/-- **What a PHY says of itself is decoded bit by bit.** -/
theorem abilities_ensures_here (phy : PhyAddress) :
    (abilities phy).run.Ensures fun es result => ∀ ours, result = .ok ours →
      ∃ w : AbilityWords, es = w.readsHere phy ∧ ours.allows = w.here := by
  rw [abilities, PhyM.ensures_read_bind]
  refine ⟨fun c => nofun, fun status => ?_⟩
  have hguard : status.test Bmsr.extendedStatus = status.getLsbD 8 :=
    Word.test_bit (by decide) (by decide)
  rw [hguard]
  cases hthere : status.getLsbD 8 with
  | false =>
    intro ours hours
    obtain rfl := Except.ok.inj hours
    exact ⟨⟨status, 0, 0, 0⟩, by rw [AbilityWords.readsHere, hthere]; rfl,
      Abilities.allows_ofStatus_zero ⟨status, 0, 0, 0⟩ hthere⟩
  | true =>
    rw [if_pos rfl, PhyM.ensures_read_bind]
    refine ⟨fun c => nofun, fun extended ours hours => ?_⟩
    obtain rfl := Except.ok.inj hours
    exact ⟨⟨status, extended, 0, 0⟩, by rw [AbilityWords.readsHere, hthere]; rfl,
      Abilities.allows_ofStatus ⟨status, extended, 0, 0⟩ hthere⟩

/-- **So is what its partner says.** -/
theorem partnerAbilities_ensures_there (phy : PhyAddress) :
    (partnerAbilities phy).run.Ensures fun es result => ∀ theirs, result = .ok theirs →
      ∃ w : AbilityWords, es = w.readsThere phy ∧ theirs.allows = w.there := by
  rw [partnerAbilities, PhyM.ensures_read_bind]
  refine ⟨fun c => nofun, fun ability => ?_⟩
  rw [PhyM.ensures_read_bind]
  refine ⟨fun c => nofun, fun gigabit theirs htheirs => ?_⟩
  obtain rfl := Except.ok.inj htheirs
  exact ⟨⟨0, 0, ability, gigabit⟩, rfl, Abilities.allows_ofPartner ⟨0, 0, ability, gigabit⟩⟩

section

variable {σ : Type} (m : Machine σ) (s : σ) (phy : PhyAddress)

/-- Both sets of abilities were read, one after the other, and these are the words that were found. -/
structure Exchange (w : AbilityWords) (ours theirs : Abilities) : Prop where
  ours : ((abilities phy).run.run m s).result = .ok ours
  theirs : ((partnerAbilities phy).run.run m ((abilities phy).run.run m s).final).result =
    .ok theirs
  readsHere : ((abilities phy).run.run m s).events = w.readsHere phy
  readsThere : ((partnerAbilities phy).run.run m ((abilities phy).run.run m s).final).events =
    w.readsThere phy

variable {m s phy} {ours theirs : Abilities}

theorem exists_exchange (hours : ((abilities phy).run.run m s).result = .ok ours)
    (htheirs : ((partnerAbilities phy).run.run m ((abilities phy).run.run m s).final).result =
      .ok theirs) : ∃ w, Exchange m s phy w ours theirs := by
  obtain ⟨w, hhere, -⟩ := (abilities_ensures_here phy).run m s ours hours
  obtain ⟨w', hthere, -⟩ :=
    (partnerAbilities_ensures_there phy).run m ((abilities phy).run.run m s).final theirs htheirs
  exact ⟨⟨w.status, w.extended, w'.ability, w'.gigabit⟩, hours, htheirs, hhere, hthere⟩

namespace Exchange

variable {w : AbilityWords}

theorem allows_eq (h : Exchange m s phy w ours theirs) :
    ours.allows = w.here ∧ theirs.allows = w.there := by
  obtain ⟨v, hhere, hours⟩ := (abilities_ensures_here phy).run m s ours h.ours
  obtain ⟨v', hthere, htheirs⟩ :=
    (partnerAbilities_ensures_there phy).run m ((abilities phy).run.run m s).final theirs h.theirs
  rw [hours, htheirs]
  exact ⟨AbilityWords.here_eq_of_reads (hhere.symm.trans h.readsHere),
    AbilityWords.there_eq_of_reads (hthere.symm.trans h.readsThere)⟩

/-- The choice is the first mode in the order of preference that both sides announce. -/
theorem bestShared_eq (h : Exchange m s phy w ours theirs) :
    ours.bestShared theirs = Abilities.preference.find? w.shared := by
  rw [Abilities.bestShared, h.allows_eq.1, h.allows_eq.2]
  rfl

end Exchange

/-- **The mode that two stations share**, on every machine on which their abilities can be read, with
any words in the registers: it is the first in the order of preference that both sides announce, and
there is none exactly if they announce none in common.  It does not matter which side asks.  Further
bits in any of the registers, there or elsewhere, never turn it into none or into a later one. -/
theorem bestShared_announced
    (hours : ((abilities phy).run.run m s).result = .ok ours)
    (htheirs : ((partnerAbilities phy).run.run m ((abilities phy).run.run m s).final).result =
      .ok theirs) :
    (∃ w, Exchange m s phy w ours theirs) ∧ ∀ w, Exchange m s phy w ours theirs →
      (∀ mode, ours.bestShared theirs = some mode ↔ w.shared mode = true ∧
        ∀ other, w.shared other = true → mode.place ≤ other.place) ∧
      (ours.bestShared theirs = none ↔ ∀ mode, w.shared mode = false) ∧
      theirs.bestShared ours = ours.bestShared theirs ∧
      ∀ (more : AbilityWords) {σ' : Type} (m' : Machine σ') (s' : σ') (phy' : PhyAddress)
        (ours' theirs' : Abilities), Exchange m' s' phy' (w.or more) ours' theirs' →
        ∀ mode, ours.bestShared theirs = some mode →
          ∃ mode', ours'.bestShared theirs' = some mode' ∧ mode'.place ≤ mode.place := by
  refine ⟨exists_exchange hours htheirs, fun w h => ⟨fun mode => ?_, ?_,
    Abilities.bestShared_comm .., fun more σ' m' s' phy' ours' theirs' h' mode hmode => ?_⟩⟩
  · rw [h.bestShared_eq]
    exact Abilities.find?_preference_eq_some_iff
  · rw [h.bestShared_eq]
    exact Abilities.find?_preference_eq_none_iff
  · rw [h.bestShared_eq, Abilities.find?_preference_eq_some_iff] at hmode
    rw [h'.bestShared_eq]
    have hshared : (w.or more).shared mode = true := AbilityWords.shared_or hmode.1
    cases hbest : Abilities.preference.find? (w.or more).shared with
    | none =>
      rw [Abilities.find?_preference_eq_none_iff.1 hbest mode] at hshared
      cases hshared
    | some mode' =>
      exact ⟨mode', rfl, (Abilities.find?_preference_eq_some_iff.1 hbest).2 mode hshared⟩

/-- A PHY at address `0` with this basic mode status, which has extended status for 1000 Mbps if it says
so, and with a partner that can do 1000 Mbps full duplex and 100 Mbps half duplex. -/
def withGigabitPartner (status : Word) : Board SimulatedBus :=
  { bus := ((((({} : SimulatedBus).apply 0 (.register Page.standard Register.bmsr status)).apply 0
      (.register Page.standard Register.estatus 0x3000)).apply 0
      (.register Page.standard Register.anlpar 0x0080)).apply 0
      (.register Page.standard Register.stat1000 0x0800)) }

/-- Both sides can do 100 Mbps half duplex, and 1000 Mbps full duplex once the PHY has extended status. -/
theorem bestShared_announced_extended :
    let w : AbilityWords := ⟨0x2000, 0x3000, 0x0080, 0x0800⟩
    let m := SimulatedBus.bus.machine
    let ours := Abilities.ofStatus 0x2000 0
    let ours' := Abilities.ofStatus 0x2100 0x3000
    let theirs := Abilities.ofPartner 0x0080 0x0800
    Exchange m (withGigabitPartner 0x2000) 0 w ours theirs ∧
      ours.bestShared theirs = some ⟨.mbps100, .half⟩ ∧
      Exchange m (withGigabitPartner 0x2100) 0 (w.or ⟨0x0100, 0, 0, 0⟩) ours' theirs ∧
      ∃ mode', ours'.bestShared theirs = some mode' ∧
        mode'.place ≤ LinkMode.place ⟨.mbps100, .half⟩ := by
  have h : Exchange SimulatedBus.bus.machine (withGigabitPartner 0x2000) 0
      ⟨0x2000, 0x3000, 0x0080, 0x0800⟩ (.ofStatus 0x2000 0) (.ofPartner 0x0080 0x0800) :=
    ⟨by rfl, by rfl, by rfl, by rfl⟩
  have h' : Exchange SimulatedBus.bus.machine (withGigabitPartner 0x2100) 0
      (AbilityWords.or ⟨0x2000, 0x3000, 0x0080, 0x0800⟩ ⟨0x0100, 0, 0, 0⟩)
      (.ofStatus 0x2100 0x3000) (.ofPartner 0x0080 0x0800) :=
    ⟨by rfl, by rfl, by rfl, by rfl⟩
  have hbest : (Abilities.ofStatus 0x2000 0).bestShared (.ofPartner 0x0080 0x0800) =
      some ⟨.mbps100, .half⟩ := by decide
  obtain ⟨-, -, -, hmore⟩ := (bestShared_announced h.ours h.theirs).2 _ h
  exact ⟨h, hbest, h', hmore _ _ _ 0 _ _ h' _ hbest⟩

end

end Clause22

end EthernetPhy
