import EthernetPhy.Simulator.Phy

/-!
# What a frame does to a simulated PHY

The two ways in which a frame may change a PHY, each said once with everything that it may change
(`read_snd`, `write_snd`).  What a frame keeps, such as the page over reads or a pending reset over
frames for other registers, is read off these two.  A read of one register leaves what is prepared for
the others as it is (`read_other`).
-/

namespace EthernetPhy

namespace SimulatedPhy

variable {p p' : SimulatedPhy} {reg reg' : RegAddress}

/-! ### Reads -/

/-- A read that is let through is counted, if reads of the register are. -/
theorem passRead_eq (h : p.passRead reg = some p') : ∃ left, p' = { p with readsLeft := left } := by
  have hsame : ∃ left, p = { p with readsLeft := left } := ⟨p.readsLeft, rfl⟩
  unfold passRead at h
  split at h
  · cases h
  split at h
  · cases h
    exact hsame
  · split at h
    · cases h
    · cases h
      exact ⟨_, rfl⟩

theorem takeQueued_eq {value : Word} (h : p.takeQueued reg = some (value, p')) :
    ∃ queued, p' = { p with queued := queued } := by
  unfold takeQueued at h
  split at h
  · split at h
    · cases h
      exact ⟨_, rfl⟩
    · cases h
  · cases h

theorem takeQueued_eq_none (h : (p.queued.get? reg).getD [] = []) : p.takeQueued reg = none := by
  unfold takeQueued
  split
  · split
    · rename_i hsome
      rw [hsome] at h
      cases h
    · rfl
  · rfl

theorem answer_control (hpresent : p.isPresent = true)
    (hunqueued : (p.queued.get? Register.bmcr).getD [] = []) :
    p.answer Register.bmcr = p.readControl := by
  rw [answer, hpresent, if_neg (by decide), if_neg (by decide), takeQueued_eq_none hunqueued,
    if_pos rfl]

theorem readControl_fst (p : SimulatedPhy) : p.readControl.1 =
    if p.pendingReset.any (· ≠ 0) then p.stored Register.bmcr ||| Bmcr.reset
    else p.stored Register.bmcr := by
  rw [readControl]
  cases p.pendingReset with
  | none => rfl
  | some left => by_cases hleft : left = 0 <;> simp [hleft]

theorem readControl_snd (p : SimulatedPhy) :
    ∃ pending, p.readControl.2 = { p with pendingReset := pending } := by
  have hsame : ∃ pending, p = { p with pendingReset := pending } := ⟨p.pendingReset, rfl⟩
  unfold readControl
  split
  · exact hsame
  split
  · exact hsame
  split
  · exact hsame
  · exact ⟨_, rfl⟩

/-- An answer may take a queued value; one of basic mode control may bring a pending reset closer to
its end. -/
theorem answer_snd (p : SimulatedPhy) (reg : RegAddress) : ∃ queued pending,
    (p.answer reg).2 = { p with queued := queued, pendingReset := pending } ∧
      (reg ≠ Register.bmcr → pending = p.pendingReset) := by
  have hsame : ∃ queued pending, p = { p with queued := queued, pendingReset := pending } ∧
      (reg ≠ Register.bmcr → pending = p.pendingReset) :=
    ⟨p.queued, p.pendingReset, rfl, fun _ => rfl⟩
  unfold answer
  split
  · exact hsame
  split
  · exact hsame
  cases htaken : p.takeQueued reg with
  | some taken =>
    obtain ⟨queued, hqueued⟩ := takeQueued_eq htaken
    exact ⟨queued, p.pendingReset, hqueued, fun _ => rfl⟩
  | none =>
    dsimp only
    split
    · rename_i hreg
      obtain ⟨pending, hpending⟩ := readControl_snd p
      exact ⟨p.queued, pending, hpending, fun h => absurd hreg h⟩
    · exact hsame

/-- **What a read may change**: the values that are queued and the reads that are left, and if it
reads basic mode control, a pending reset. -/
theorem read_snd (p : SimulatedPhy) (reg : RegAddress) : ∃ queued left pending,
    (p.read reg).2 = { p with queued := queued, readsLeft := left, pendingReset := pending } ∧
      (reg ≠ Register.bmcr → pending = p.pendingReset) := by
  unfold read
  cases hpass : p.passRead reg with
  | none => exact ⟨p.queued, p.readsLeft, p.pendingReset, rfl, fun _ => rfl⟩
  | some passed =>
    obtain ⟨left, rfl⟩ := passRead_eq hpass
    obtain ⟨queued, pending, hanswer, hpending⟩ := answer_snd { p with readsLeft := left } reg
    exact ⟨queued, left, pending, hanswer, hpending⟩

/-- A read that succeeds gives the answer of the PHY at which it was counted. -/
theorem answer_of_read {value : Word} (h : p.read reg = (.ok value, p')) :
    ∃ left, ({ p with readsLeft := left } : SimulatedPhy).answer reg = (value, p') := by
  unfold read at h
  cases hpass : p.passRead reg with
  | none =>
    rw [hpass] at h
    cases h
  | some passed =>
    obtain ⟨left, rfl⟩ := passRead_eq hpass
    rw [hpass] at h
    cases h
    exact ⟨left, rfl⟩

/-! ### Reads of another register -/

theorem passRead_other (hne : reg' ≠ reg) (hpass : p.passRead reg' = some p') :
    p'.readsLeft.get? reg = p.readsLeft.get? reg := by
  unfold passRead at hpass
  split at hpass
  · cases hpass
  split at hpass
  · cases hpass
    rfl
  · split at hpass
    · cases hpass
    · cases hpass
      exact Table.get?_insert_of_ne _ _ hne

theorem takeQueued_other {value : Word} (hne : reg' ≠ reg) (htaken : p.takeQueued reg' = some (value, p')) :
    p'.queued.get? reg = p.queued.get? reg := by
  unfold takeQueued at htaken
  split at htaken
  · split at htaken
    · cases htaken
      exact Table.get?_insert_of_ne _ _ hne
    · cases htaken
  · cases htaken

theorem answer_other (hne : reg' ≠ reg) :
    (p.answer reg').2.queued.get? reg = p.queued.get? reg := by
  unfold answer
  split
  · rfl
  split
  · rfl
  cases htaken : p.takeQueued reg' with
  | some taken => exact takeQueued_other hne htaken
  | none =>
    dsimp only
    split
    · obtain ⟨pending, hpending⟩ := readControl_snd p
      rw [hpending]
    · rfl

theorem answer_readsLeft : (p.answer reg).2.readsLeft = p.readsLeft := by
  obtain ⟨queued, pending, hanswer, -⟩ := answer_snd p reg
  rw [hanswer]

/-- A read of one register neither counts as one of another nor takes a value queued for it. -/
theorem read_other (hne : reg' ≠ reg) :
    (p.read reg').2.readsLeft.get? reg = p.readsLeft.get? reg ∧
      (p.read reg').2.queued.get? reg = p.queued.get? reg := by
  unfold SimulatedPhy.read
  cases hpass : p.passRead reg' with
  | none => exact ⟨rfl, rfl⟩
  | some passed =>
    have hqueued : passed.queued = p.queued := by
      obtain ⟨left, rfl⟩ := passRead_eq hpass
      rfl
    dsimp only
    rw [answer_readsLeft, passRead_other hne hpass, answer_other hne, hqueued]
    exact ⟨rfl, rfl⟩

/-! ### Writes -/

/-- **What a write may change**: registers or the selected page, and if it writes basic mode
control, a pending reset. -/
theorem write_snd (p : SimulatedPhy) (reg : RegAddress) (value : Word) :
    ∃ registers page pending,
      (p.write reg value).2 =
        { p with registers := registers, page := page, pendingReset := pending } ∧
      (reg ≠ Register.pageSelect → page = p.page) ∧
      (reg ≠ Register.bmcr → pending = p.pendingReset) := by
  unfold write
  split
  · exact ⟨p.registers, p.page, p.pendingReset, rfl, fun _ => rfl, fun _ => rfl⟩
  unfold accept
  split
  · rename_i hreg
    exact ⟨p.registers, value, p.pendingReset, rfl, fun h => absurd hreg h, fun _ => rfl⟩
  split
  · rename_i hreg
    unfold writeControl
    split
    · exact ⟨_, _, _, rfl, fun _ => rfl, fun h => absurd hreg h⟩
    · exact ⟨_, _, _, rfl, fun _ => rfl, fun h => absurd hreg h⟩
  · exact ⟨_, _, _, rfl, fun _ => rfl, fun _ => rfl⟩

theorem isPresent_store {page value : Word} : (p.store page reg value).isPresent = true := by
  rw [isPresent, store, Table.isEmpty_insert]
  rfl

theorem isPresent_accept {value : Word} (h : p.isPresent = true) :
    (p.accept reg value).isPresent = true := by
  unfold accept
  split
  · exact h
  split
  · unfold writeControl
    split
    · exact isPresent_store
    · exact isPresent_store
  · exact isPresent_store

end SimulatedPhy

end EthernetPhy
