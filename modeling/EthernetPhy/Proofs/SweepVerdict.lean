import EthernetPhy.Bus.Board
import EthernetPhy.Proofs.SweepAndReset
import EthernetPhy.Simulator.Setup
import Mathlib.Data.List.Nodup
import Mathlib.Order.Bounds.Defs

/-!
# The PHY that a discovery finds

A discovery asks each register at most once, so what it has been told is a function of the address and
the register.  What it asks, what it ends with and what it leaves of the record is decided by such a
function, and here this is written down.

* `Foretells` : a function that has the answers which some events have got; what it has where nothing
  was asked is open;
* `identified` : both halves of an identifier can be read, and neither shows an idle bus;
* `discoverVerdict`, `discover_verdict` : **what `Clause22.discover` asks and comes to**, and that it
  succeeds with the least address that is identified.
-/

namespace EthernetPhy

open Event

/-- What registers answer, by the address of the PHY and the number of the register. -/
abbrev Answers := PhyAddress → RegAddress → Except BusFault Word

section

variable {answers : Answers} {e : Event} {es : List Event}

/-- The reads among some events have got these answers. -/
def Foretells (answers : Answers) (es : List Event) : Prop :=
  ∀ phy reg answer, (⟨.read phy reg, answer⟩ : Event) ∈ es → answers phy reg = answer

theorem Foretells.of_cons (h : Foretells answers (e :: es)) : Foretells answers es :=
  fun phy reg answer he => h phy reg answer (List.mem_cons_of_mem _ he)

theorem foretells_concat_logged {message : Message} :
    Foretells answers (es ++ [logged message]) ↔ Foretells answers es := by
  simp [Foretells]

theorem Foretells.head {phy : PhyAddress} {reg : RegAddress} {answer : Except BusFault Word}
    (h : Foretells answers (⟨.read phy reg, answer⟩ :: es)) : answers phy reg = answer :=
  h phy reg answer List.mem_cons_self

theorem exists_foretells (h : (es.map Event.request).Nodup) : ∃ answers, Foretells answers es := by
  classical
  refine ⟨fun phy reg =>
    if h : ∃ answer, (⟨.read phy reg, answer⟩ : Event) ∈ es then h.choose else .ok 0, ?_⟩
  intro phy reg answer he
  have hex : ∃ answer, (⟨.read phy reg, answer⟩ : Event) ∈ es := ⟨answer, he⟩
  have hsame := List.inj_on_of_nodup_map h hex.choose_spec he rfl
  simp only [dif_pos hex]
  simpa using hsame

end

namespace Clause22

variable {answers : Answers} {phy : PhyAddress} {phys : List PhyAddress} {es : List Event}
  {found : Option (PhyAddress × Word × Word)}

/-- Both halves of the identifier can be read, and neither shows an idle bus. -/
def identified (answers : Answers) (phy : PhyAddress) : Bool :=
  match answers phy Register.phyidr1, answers phy Register.phyidr2 with
  | .ok id1, .ok id2 => id1 ≠ .idle && id2 ≠ .idle
  | _, _ => false

theorem identified_eq_true : identified answers phy = true ↔
    ∃ id1 id2, answers phy Register.phyidr1 = .ok id1 ∧ answers phy Register.phyidr2 = .ok id2 ∧
      id1 ≠ .idle ∧ id2 ≠ .idle := by
  unfold identified
  split
  · rename_i id1 id2 h1 h2
    simp [h1, h2]
  · rename_i hnone
    simp only [Bool.false_eq_true, false_iff]
    rintro ⟨id1, id2, h1, h2, -⟩
    exact hnone id1 id2 h1 h2

/-- What a sweep asks at one address: the second half of the identifier is read exactly if the first
half could be. -/
def lookups (answers : Answers) (phy : PhyAddress) : List Request :=
  .read phy Register.phyidr1 ::
    match answers phy Register.phyidr1 with
    | .error _ => []
    | .ok _ => [.read phy Register.phyidr2]

/-- The addresses that are looked at on the way to a goal. -/
def upTo : Option PhyAddress → List PhyAddress → List PhyAddress
  | none, phys => phys
  | some goal, phys => phys.filter (· ≤ goal)

/-- What is asked and found on the way to the first of some addresses that is identified. -/
def Searched (answers : Answers) (phys : List PhyAddress) (asks : List Request)
    (goal : Option PhyAddress) : Prop :=
  goal = phys.find? (identified answers) ∧ asks = (upTo goal phys).flatMap (lookups answers)

theorem Searched.stopped (hphys : ∀ q ∈ phys, phy < q) (hphy : identified answers phy = true) :
    Searched answers (phy :: phys) (lookups answers phy) (some phy) := by
  have hlater : phys.filter (· ≤ phy) = [] :=
    List.filter_eq_nil_iff.2 fun q hq => by simpa using hphys q hq
  exact ⟨(List.find?_cons_of_pos hphy).symm, by simp [upTo, hlater]⟩

/-- The search goes on behind an address that is not identified. -/
theorem Searched.passed {asks : List Request} {goal : Option PhyAddress}
    (h : Searched answers phys asks goal) (hphys : ∀ q ∈ phys, phy < q)
    (hphy : identified answers phy = false) :
    Searched answers (phy :: phys) (lookups answers phy ++ asks) goal := by
  obtain ⟨hgoal, rfl⟩ := h
  have hfind : (phy :: phys).find? (identified answers) = phys.find? (identified answers) :=
    List.find?_cons_of_neg (by simp [hphy])
  have hupTo : upTo goal (phy :: phys) = phy :: upTo goal phys := by
    cases goal with
    | none => rfl
    | some q =>
      have hle : phy ≤ q := UInt8.le_of_lt (hphys q (List.mem_of_find?_eq_some hgoal.symm))
      rw [upTo, List.filter_cons, if_pos (decide_eq_true hle), upTo]
  exact ⟨hgoal.trans hfind.symm, by rw [hupTo, List.flatMap_cons]⟩

/-- What a sweep over increasing addresses asks and finds. -/
theorem Swept.searched (h : Swept phys es found) (hphys : phys.Pairwise (· < ·))
    (hes : Foretells answers es) : Searched answers phys (asked es) (found.map Prod.fst) := by
  induction h with
  | nothingLeft => exact ⟨rfl, rfl⟩
  | @firstLost phy rest es found c h ih =>
    obtain ⟨hlt, hrest⟩ := List.pairwise_cons.1 hphys
    have h1 := hes.head
    have hphy : identified answers phy = false := by simp [identified, h1]
    have hpassed := (ih hrest hes.of_cons).passed hlt hphy
    simpa [lookups, h1] using hpassed
  | @secondLost phy rest es found id1 c h ih =>
    obtain ⟨hlt, hrest⟩ := List.pairwise_cons.1 hphys
    have h1 := hes.head
    have h2 := hes.of_cons.head
    have hphy : identified answers phy = false := by simp [identified, h1, h2]
    have hpassed := (ih hrest hes.of_cons.of_cons).passed hlt hphy
    simpa [lookups, h1] using hpassed
  | @absent phy rest es found id1 id2 hidle h ih =>
    obtain ⟨hlt, hrest⟩ := List.pairwise_cons.1 hphys
    have h1 := hes.head
    have h2 := hes.of_cons.head
    have hphy : identified answers phy = false := by
      rcases hidle with rfl | rfl <;> simp [identified, h1, h2]
    have hpassed := (ih hrest hes.of_cons.of_cons).passed hlt hphy
    simpa [lookups, h1] using hpassed
  | @present phy rest id1 id2 hthere =>
    have h1 := hes.head
    have h2 := hes.of_cons.head
    have hphy : identified answers phy = true := identified_eq_true.2 ⟨id1, id2, h1, h2, hthere⟩
    have hstopped := Searched.stopped (List.pairwise_cons.1 hphys).1 hphy
    simpa [lookups, h1] using hstopped

theorem Swept.sublist (h : Swept phys es found) :
    (es.map Event.request).Sublist
      (phys.flatMap fun phy => [.read phy Register.phyidr1, .read phy Register.phyidr2]) := by
  induction h with
  | nothingLeft => exact .slnil
  | firstLost c _ ih => exact .cons_cons _ (.cons _ ih)
  | secondLost id1 c _ ih => exact .cons_cons _ (.cons_cons _ ih)
  | absent id1 id2 hidle _ ih => exact .cons_cons _ (.cons_cons _ ih)
  | present id1 id2 hthere => exact .cons_cons _ (.cons_cons _ (List.nil_sublist _))

theorem Swept.exists_foretells (h : Swept PhyAddress.all es found) :
    ∃ answers, Foretells answers es :=
  EthernetPhy.exists_foretells (h.sublist.nodup (by decide +kernel))

/-- What a discovery asks, what it ends with and the record that it leaves. -/
def discoverVerdict (answers : Answers) (r : PhyRecord) :
    List Request × Except Fault Unit × PhyRecord :=
  let goal := PhyAddress.all.find? (identified answers)
  ((upTo goal PhyAddress.all).flatMap (lookups answers),
    match goal with
    | none => (.error .noPhy, r)
    | some phy => (.ok (), { r with address := phy }))

/-- Of increasing addresses, the first that is identified is the least one. -/
theorem isLeast_of_find? {a : PhyAddress} (hphys : phys.Pairwise (· < ·))
    (h : phys.find? (identified answers) = some a) :
    IsLeast {phy | phy ∈ phys ∧ identified answers phy = true} a := by
  obtain ⟨ha, before, after, rfl, hbefore⟩ := List.find?_eq_some_iff_append.1 h
  refine ⟨⟨by simp, ha⟩, ?_⟩
  rintro phy ⟨hmem, hphy⟩
  rcases List.mem_append.1 hmem with hearly | hlate
  · exact absurd hphy (by simpa using hbefore phy hearly)
  · rcases List.mem_cons.1 hlate with rfl | hafter
    · exact UInt8.le_refl _
    · have hcons := (List.pairwise_append.1 hphys).2.1
      exact UInt8.le_of_lt ((List.pairwise_cons.1 hcons).1 phy hafter)

theorem find?_eq_some_iff_isLeast {a : PhyAddress} :
    PhyAddress.all.find? (identified answers) = some a ↔
      IsLeast {phy | phy ≤ PhyAddress.max ∧ identified answers phy = true} a := by
  simp only [← PhyAddress.mem_all]
  refine ⟨isLeast_of_find? PhyAddress.pairwise_all, fun h => ?_⟩
  obtain ⟨⟨hmem, ha⟩, hle⟩ := h
  cases hfind : PhyAddress.all.find? (identified answers) with
  | none => exact absurd ha (List.find?_eq_none.1 hfind a hmem)
  | some a' =>
    have hleast := isLeast_of_find? PhyAddress.pairwise_all hfind
    rw [UInt8.le_antisymm (hleast.2 ⟨hmem, ha⟩) (hle hleast.1)]

/-- **What `discover` asks and comes to is a function of what it is told**, on every bus and from every
record: there is a function that has all answers, and any such function gives what is asked, the result
and the record.  So a discovery asks the addresses in increasing order and only up to the one that it
finds, writes nothing and never waits; it succeeds exactly with the least address that is identified,
no fault of a frame comes out of it, and a failure leaves the record as it was. -/
theorem discover_verdict {σ : Type} (m : Machine σ) (s : σ) (r : PhyRecord) :
    let out := (discover.runOn r).run m s
    (∃ answers, Foretells answers out.events) ∧
      ∀ answers, Foretells answers out.events →
        (asked out.events, out.result) = discoverVerdict answers r ∧
          ∀ a, (out.result.1 = .ok () ∧ out.result.2.address = a) ↔
            IsLeast {phy | phy ≤ PhyAddress.max ∧ identified answers phy = true} a := by
  intro out
  obtain ⟨search, found, message, hsearch, hes, hout⟩ := (discover_ensures_swept r).run m s
  change out.events = _ at hes
  change out.result = _ at hout
  simp only [hes, hout, foretells_concat_logged, ← find?_eq_some_iff_isLeast]
  refine ⟨hsearch.exists_foretells, fun answers hanswers => ?_⟩
  obtain ⟨hfound, hasked⟩ := hsearch.searched PhyAddress.pairwise_all hanswers
  have hverdict : (asked (search ++ [logged message]), discovered r found) =
      discoverVerdict answers r := by
    rw [discoverVerdict, ← hfound, asked_append, hasked]
    cases found <;> simp [discovered]
  refine ⟨hverdict, fun a => ?_⟩
  rw [← hfound]
  cases found <;> simp [discovered]

/-- A first half that cannot be read, an idle first half, a second half that cannot be read, and then
two PHYs. -/
example :
    let bus := ((((({} : SimulatedBus).apply 0 (.failReads Register.phyidr1)).apply 1
      (.register Page.standard Register.phyidr1 .idle)).apply 2
      (.failReads Register.phyidr2)).apply 3 .powerUp).apply 5 .powerUp
    let out := (discover.runOn {}).run SimulatedBus.bus.machine { bus }
    asked out.events = [.read 0 Register.phyidr1, .read 1 Register.phyidr1,
        .read 1 Register.phyidr2, .read 2 Register.phyidr1, .read 2 Register.phyidr2,
        .read 3 Register.phyidr1, .read 3 Register.phyidr2] ∧
      out.result = (.ok (), { address := 3 }) := by
  decide +kernel

end Clause22

end EthernetPhy
