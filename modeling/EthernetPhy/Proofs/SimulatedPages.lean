import EthernetPhy.Bus.Board
import EthernetPhy.Proofs.FirstFault
import EthernetPhy.Proofs.SimulatedFrames
import EthernetPhy.Simulator.Setup

/-!
# Pages of simulated PHYs

Only an accepted write of the page select changes the selected page of a simulated PHY, and whether
such a write is accepted is not changed by any frame.  So over a run of a program the pages of the
PHYs follow the events (`run_follows`), and all page selects of one PHY are answered alike.
-/

namespace EthernetPhy

/-! ### One PHY -/

namespace SimulatedPhy

/-- The same page is selected, and the same writes fail. -/
structure SamePaging (p p' : SimulatedPhy) : Prop where
  page : p'.page = p.page
  failingWrites : p'.failingWrites = p.failingWrites

variable {p p' : SimulatedPhy} {reg : RegAddress}

theorem SamePaging.refl : SamePaging p p := ⟨rfl, rfl⟩

theorem samePaging_read : SamePaging p (p.read reg).2 := by
  obtain ⟨queued, left, pending, hread, -⟩ := read_snd p reg
  rw [hread]
  exact ⟨rfl, rfl⟩

theorem samePaging_write {value : Word} (h : reg ≠ Register.pageSelect) :
    SamePaging p (p.write reg value).2 := by
  obtain ⟨registers, page, pending, hwrite, hpage, -⟩ := write_snd p reg value
  rw [hwrite, hpage h]
  exact ⟨rfl, rfl⟩

/-! ### Changes from outside -/

theorem page_storeAll {values : List (Word × RegAddress × Word)} :
    (p.storeAll values).page = p.page := by
  unfold storeAll
  induction values generalizing p with
  | nil => rfl
  | cons entry rest ih => exact ih

theorem page_apply (change : Setup) : (p.apply change).page = p.page := by
  cases change with
  | powerUp => exact page_storeAll
  | linkUpGigabitFull => exact page_storeAll
  | linkUpFastHalf => exact page_storeAll
  | linkDown => exact page_storeAll
  | _ => rfl

end SimulatedPhy

/-! ### All PHYs of a bus -/

namespace SimulatedBus

variable {b b' b'' : SimulatedBus} {phy phy' : PhyAddress} {reg : RegAddress} {value : Word}

theorem phy_setPhy {p : SimulatedPhy} :
    (b.setPhy phy p).phy phy' = if phy = phy' then p else b.phy phy' := by
  by_cases h : phy = phy'
  · rw [if_pos h, ← h, phy_setPhy_self]
  · rw [if_neg h, phy_setPhy_of_ne b p h]

/-- Whether a PHY accepts page selects. -/
def takesSelects (b : SimulatedBus) (phy : PhyAddress) : Prop :=
  Register.pageSelect ∉ (b.phy phy).failingWrites

/-- The pages of a bus follow some events: they are changed by the accepted page selects, of which
each PHY accepts all or none. -/
structure Follows (b : SimulatedBus) (es : List Event) (b' : SimulatedBus) : Prop where
  page : ∀ phy, (b'.phy phy).page = es.foldl (Event.pageAfter phy) (b.phy phy).page
  takes : ∀ phy, b'.takesSelects phy ↔ b.takesSelects phy
  select : ∀ e ∈ es, ∀ phy value, e.request = .write phy Register.pageSelect value →
    (e.failure? = none ↔ b.takesSelects phy)

theorem Follows.nil : Follows b [] b := ⟨fun _ => rfl, fun _ => .rfl, by simp⟩

theorem Follows.cons {e : Event} {es : List Event} (h : Follows b [e] b')
    (h' : Follows b' es b'') : Follows b (e :: es) b'' where
  page phy := by rw [List.foldl_cons, h'.page phy, h.page phy]; rfl
  takes phy := (h'.takes phy).trans (h.takes phy)
  select := by
    refine List.forall_mem_cons.2 ⟨h.select e (by simp), fun e' he' phy value hq => ?_⟩
    rw [h'.select e' he' phy value hq, h.takes phy]

theorem Follows.of_samePaging {e : Event} (he : e.request.selects = false)
    (h : ∀ phy, (b.phy phy).SamePaging (b'.phy phy)) : Follows b [e] b' where
  page phy := by
    change _ = e.pageAfter phy _
    rw [Event.pageAfter_eq (.inl he), (h phy).page]
  takes phy := by rw [takesSelects, takesSelects, (h phy).failingWrites]
  select := by
    refine List.forall_mem_singleton.2 fun phy value hq => ?_
    rw [hq, Request.selects] at he
    simp at he

theorem follows_read : Follows b [⟨.read phy reg, (b.read phy reg).1⟩] (b.read phy reg).2 := by
  refine .of_samePaging rfl fun phy' => ?_
  change SimulatedPhy.SamePaging _ ((b.setPhy phy ((b.phy phy).read reg).2).phy phy')
  rw [phy_setPhy]
  split
  · rename_i h
    rw [← h]
    exact SimulatedPhy.samePaging_read
  · exact .refl

theorem follows_write :
    Follows b [⟨.write phy reg value, (b.write phy reg value).1⟩] (b.write phy reg value).2 := by
  have hphy : ∀ phy', (b.write phy reg value).2.phy phy' =
      if phy = phy' then ((b.phy phy).write reg value).2 else b.phy phy' := fun _ => phy_setPhy
  have hanswer : (b.write phy reg value).1 = ((b.phy phy).write reg value).1 := rfl
  by_cases hreg : reg ≠ Register.pageSelect
  · -- Some other register is written, or not.
    refine .of_samePaging (by simp [Request.selects, hreg]) fun phy' => ?_
    rw [hphy phy']
    split
    · rename_i h
      rw [← h]
      exact SimulatedPhy.samePaging_write hreg
    · exact .refl
  obtain rfl : reg = Register.pageSelect := Decidable.not_not.1 hreg
  unfold SimulatedPhy.write at hphy hanswer
  by_cases hfail : Register.pageSelect ∈ (b.phy phy).failingWrites
  · -- The page select is refused, and nothing changes.
    rw [if_pos hfail] at hphy hanswer
    have hsame : ∀ phy', (b.write phy Register.pageSelect value).2.phy phy' = b.phy phy' := by
      intro phy'
      rw [hphy phy']
      split
      · rename_i h
        rw [h]
      · rfl
    rw [hanswer]
    refine ⟨fun phy' => ?_, fun phy' => ?_, List.forall_mem_singleton.2 fun phy' v hq => ?_⟩
    · rw [hsame]
      rfl
    · rw [takesSelects, hsame, takesSelects]
    · obtain ⟨rfl, -, -⟩ := Request.write.inj hq
      simp [takesSelects, hfail]
  · -- The page is selected.
    rw [if_neg hfail] at hphy hanswer
    have hselect : ∀ phy', (b.write phy Register.pageSelect value).2.phy phy' =
        if phy = phy' then { b.phy phy with page := value } else b.phy phy' := hphy
    rw [hanswer]
    refine ⟨fun phy' => ?_, fun phy' => ?_, List.forall_mem_singleton.2 fun phy' v hq => ?_⟩
    · rw [hselect, List.foldl_cons, List.foldl_nil, Event.pageAfter]
      by_cases h : phy = phy' <;> simp [h]
    · rw [takesSelects, hselect, takesSelects]
      by_cases h : phy = phy' <;> simp [h]
    · obtain ⟨rfl, -, -⟩ := Request.write.inj hq
      simp [takesSelects, hfail]

theorem follows_answer (q : Request) (b : Board SimulatedBus) :
    Follows b.bus [⟨q, (bus.machine.answer q b).1⟩] (bus.machine.answer q b).2.bus := by
  have hquiet : ∀ {b' : Board SimulatedBus} {answer : q.Answer}, q.selects = false →
      b'.bus = b.bus → Follows b.bus [⟨q, answer⟩] b'.bus := fun hq hb =>
    .of_samePaging hq fun phy => by rw [hb]; exact .refl
  cases q with
  | read phy reg => exact follows_read
  | write phy reg value => exact follows_write
  | delay time => exact hquiet rfl rfl
  | log message => exact hquiet rfl rfl
  | drive level =>
    refine hquiet rfl ?_
    change (b.drive level).2.bus = b.bus
    unfold Board.drive
    split <;> rfl

/-- **Over a run of a program the pages follow the events.** -/
theorem run_follows {α : Type} (p : Program α) (b : Board SimulatedBus) :
    Follows b.bus (p.run bus.machine b).events (p.run bus.machine b).final.bus := by
  induction p generalizing b with
  | done a => exact .nil
  | ask q next ih =>
    rw [Program.run_ask]
    exact (follows_answer q b).cons (ih _ _)

end SimulatedBus

end EthernetPhy
