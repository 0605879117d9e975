import EthernetPhy.Simulator.Phy
import EthernetPhy.Transceiver.BringUp
import Mathlib.Data.List.Nodup
import Mathlib.Logic.Function.Basic

/-!
# Updates of registers

What the settings do to the registers of a PHY is a list of `Update`s: of each of some registers some
bits are cleared and then some are set, and a bit that is not named is kept.  An update made twice is
made once (`Update.apply_apply`), and updates of two registers may change places
(`Update.apply_comm`).  So with at most one update for each register the order does not matter, and an
update that was made before is of no consequence (`applyAll_apply`).

`Settings.settle` is what a bring-up makes of the stored registers: basic mode control is reset, and
then the updates of the settings are made.  **What an unfinished bring-up has left behind does not
show in it** (`settle_applyAll`, `settle_resetControl`).
-/

namespace EthernetPhy

/-! ### Stored registers -/

/-- A place for a stored register: its page and its number. -/
abbrev Cell := Word × RegAddress

/-- The stored registers as a function. -/
abbrev Contents := Cell → Option Word

namespace Cell

/-- Basic mode control. -/
def control : Cell := (Page.standard, Register.bmcr)

/-- Basic mode status. -/
def status : Cell := (Page.standard, Register.bmsr)

/-- The registers that a bring-up may change. -/
def installed : List Cell :=
  [(Page.clockDelay, Register.txDelay), (Page.clockDelay, Register.rxDelay),
    (Page.led, Register.lcr), (Page.control, Register.phycr2), (Page.control, Register.phycr1),
    (Page.standard, Register.anar), (Page.standard, Register.ctrl1000), control]

end Cell

/-- The registers that a PHY has stored. -/
def SimulatedPhy.contents (p : SimulatedPhy) : Contents := p.registers.get?

theorem SimulatedPhy.contents_store {p : SimulatedPhy} {page : Word} {reg : RegAddress}
    {value : Word} :
    (p.store page reg value).contents =
      Function.update p.contents (bank page reg, reg) (some value) := by
  funext cell
  change (p.registers.insert (bank page reg, reg) value).get? cell = _
  rw [Table.get?_insert, Function.update_apply]
  by_cases h : cell = (bank page reg, reg)
  · rw [if_pos h.symm, if_pos h]
  · rw [if_neg (Ne.symm h), if_neg h]
    rfl

namespace Word

variable (v : Word) {mask clear set : Word}

theorem update_or (h : mask &&& ~~~clear = 0) : (v ||| mask).update clear set = v.update clear set := by
  apply BitVec.eq_of_getLsbD_eq
  intro i hi
  have hmask : (mask.getLsbD i && !clear.getLsbD i) = false := by
    simpa [hi] using congrArg (·.getLsbD i) h
  rw [getLsbD_update, getLsbD_update, BitVec.getLsbD_or, Bool.and_or_distrib_right, hmask,
    Bool.or_false]

theorem update_and_of_kept (hclear : clear &&& mask = 0) (hset : set &&& mask = 0) :
    v.update clear set &&& mask = v &&& mask := by
  apply BitVec.eq_of_getLsbD_eq
  intro i hi
  have hkept : (clear.getLsbD i && mask.getLsbD i) = false := by
    simpa [hi] using congrArg (·.getLsbD i) hclear
  have hbit : (set.getLsbD i && mask.getLsbD i) = false := by
    simpa [hi] using congrArg (·.getLsbD i) hset
  rw [BitVec.getLsbD_and, BitVec.getLsbD_and, getLsbD_update]
  cases hm : mask.getLsbD i <;> simp_all

theorem update_and_of_cleared (h : mask &&& ~~~clear = 0) :
    v.update clear set &&& mask = set &&& mask := by
  apply BitVec.eq_of_getLsbD_eq
  intro i hi
  have hmask : (mask.getLsbD i && !clear.getLsbD i) = false := by
    simpa [hi] using congrArg (·.getLsbD i) h
  rw [BitVec.getLsbD_and, BitVec.getLsbD_and, getLsbD_update]
  cases hm : mask.getLsbD i <;> simp_all

theorem update_and_of_set (h : mask &&& ~~~set = 0) : v.update clear set &&& mask = mask := by
  apply BitVec.eq_of_getLsbD_eq
  intro i hi
  have hmask : (mask.getLsbD i && !set.getLsbD i) = false := by
    simpa [hi] using congrArg (·.getLsbD i) h
  rw [BitVec.getLsbD_and, getLsbD_update]
  cases hm : mask.getLsbD i <;> simp_all

theorem test_and {mask' : Word} (h : mask' &&& mask = mask) : (v &&& mask').test mask = v.test mask := by
  rw [test, test, BitVec.and_assoc, h]

theorem test_update (hclear : mask &&& ~~~clear = 0) (hset : set &&& mask = 0) :
    (v.update clear set).test mask = false := by
  rw [test_eq_false_iff, update_and_of_cleared v hclear, hset]

theorem update_zero : v.update 0 set = v ||| set := by
  apply BitVec.eq_of_getLsbD_eq
  intro i _
  rw [getLsbD_update]
  simp [Bool.or_comm]

theorem update_self : v.update mask mask = v ||| mask := by
  apply BitVec.eq_of_getLsbD_eq
  intro i _
  rw [getLsbD_update, BitVec.getLsbD_or]
  cases mask.getLsbD i <;> simp

theorem update_update : (v.update clear set).update clear set = v.update clear set := by
  apply BitVec.eq_of_getLsbD_eq
  intro i _
  rw [getLsbD_update, getLsbD_update]
  cases set.getLsbD i <;> cases clear.getLsbD i <;> simp

end Word

/-! ### One update -/

/-- A change of some bits of one register, which is not basic mode status. -/
structure Update where
  /-- The register. -/
  cell : Cell
  /-- The bits that are cleared first. -/
  clear : Word
  /-- The bits that are set then. -/
  set : Word
  cell_ne_status : cell ≠ Cell.status := by decide

namespace Update

variable {u v : Update} {f : Contents} {cell : Cell}

/-- What an update makes of a register, where a register that is not stored counts as `0`. -/
def value (u : Update) (f : Contents) : Word := ((f u.cell).getD 0).update u.clear u.set

/-- The registers after an update. -/
def apply (u : Update) (f : Contents) : Contents := Function.update f u.cell (some (u.value f))

theorem apply_of_ne (h : cell ≠ u.cell) : u.apply f cell = f cell := Function.update_of_ne h _ _

@[simp] theorem apply_self : u.apply f u.cell = some (u.value f) := Function.update_self ..

@[simp] theorem apply_status : u.apply f Cell.status = f Cell.status :=
  apply_of_ne u.cell_ne_status.symm

@[simp] theorem value_apply_self : u.value (u.apply f) = u.value f := by
  rw [value, apply_self]
  exact Word.update_update _

theorem value_apply_of_ne (h : u.cell ≠ v.cell) : u.value (v.apply f) = u.value f := by
  rw [value, apply_of_ne h, value]

/-- An update made twice is made once. -/
@[simp] theorem apply_apply : u.apply (u.apply f) = u.apply f := by
  rw [apply, value_apply_self, apply, Function.update_idem]

/-- Updates of two registers may change places. -/
theorem apply_comm (h : u.cell ≠ v.cell) : u.apply (v.apply f) = v.apply (u.apply f) := by
  rw [apply, value_apply_of_ne h, apply, apply, value_apply_of_ne h.symm, apply,
    Function.update_comm h]

/-- Sets a register to a value. -/
def overwrite (cell : Cell) (value : Word) (h : cell ≠ Cell.status := by decide) : Update :=
  ⟨cell, BitVec.allOnes 16, value, h⟩

/-- Switches some bits on or off. -/
def switch (cell : Cell) (bits : Word) (on : Bool) (h : cell ≠ Cell.status := by decide) : Update :=
  ⟨cell, (Transceiver.masksFor bits on).1, (Transceiver.masksFor bits on).2, h⟩

theorem value_switch {bits : Word} {on : Bool} {h : cell ≠ Cell.status} :
    (switch cell bits on h).value f =
      ((f cell).getD 0).update bits (if on then bits else 0) := by
  cases on with
  | true => exact (Word.update_zero _).trans (Word.update_self _).symm
  | false => rfl

theorem value_overwrite {value : Word} {h : cell ≠ Cell.status} :
    (overwrite cell value h).value f = value := by
  simp [overwrite, Update.value, Word.update]

end Update

/-! ### Several updates -/

/-- The registers after some updates, made in order. -/
def applyAll (us : List Update) (f : Contents) : Contents := us.foldl (fun f u => u.apply f) f

section

variable {us : List Update} {u : Update} {f : Contents} {cell : Cell}

@[simp] theorem applyAll_nil : applyAll [] f = f := rfl

@[simp] theorem applyAll_cons : applyAll (u :: us) f = applyAll us (u.apply f) := rfl

@[simp] theorem applyAll_status : applyAll us f Cell.status = f Cell.status := by
  induction us generalizing f with
  | nil => rfl
  | cons u us ih => rw [applyAll_cons, ih, Update.apply_status]

theorem applyAll_of_forall_ne (h : ∀ u ∈ us, cell ≠ u.cell) : applyAll us f cell = f cell := by
  induction us generalizing f with
  | nil => rfl
  | cons u us ih =>
    obtain ⟨hu, hus⟩ := List.forall_mem_cons.1 h
    rw [applyAll_cons, ih hus, Update.apply_of_ne hu]

/-- With one update for each register, an update of them that was made before does not show. -/
theorem applyAll_apply (hnodup : (us.map Update.cell).Nodup) (hu : u ∈ us) :
    applyAll us (u.apply f) = applyAll us f := by
  induction us generalizing f with
  | nil => cases hu
  | cons v us ih =>
    rw [List.map_cons, List.nodup_cons] at hnodup
    obtain ⟨hv, hnodup⟩ := hnodup
    obtain rfl | hu := List.mem_cons.1 hu
    · rw [applyAll_cons, applyAll_cons, Update.apply_apply]
    · have hne : v.cell ≠ u.cell := fun h => hv (h ▸ List.mem_map_of_mem hu)
      rw [applyAll_cons, applyAll_cons, Update.apply_comm hne, ih hnodup hu]

/-- With one update for each register, a register becomes what its update makes of it. -/
theorem applyAll_cell (hnodup : (us.map Update.cell).Nodup) (hu : u ∈ us) :
    applyAll us f u.cell = some (u.value f) := by
  induction us generalizing f with
  | nil => cases hu
  | cons v us ih =>
    rw [List.map_cons, List.nodup_cons] at hnodup
    obtain ⟨hv, hnodup⟩ := hnodup
    obtain rfl | hu := List.mem_cons.1 hu
    · have hne : ∀ v ∈ us, u.cell ≠ v.cell := fun v hmem h => hv (h ▸ List.mem_map_of_mem hmem)
      rw [applyAll_cons, applyAll_of_forall_ne hne, Update.apply_self]
    · have hne : u.cell ≠ v.cell := fun h => hv (h ▸ List.mem_map_of_mem hu)
      rw [applyAll_cons, ih hnodup hu, Update.value_apply_of_ne hne]

end

/-- The registers after basic mode control was reset. -/
def resetControl (f : Contents) : Contents := Function.update f Cell.control (some 0)

/-! ### The updates of the settings -/

namespace Update

/-- Advertises all modes at 10 and 100 Mbps. -/
def advertise : Update where
  cell := (Page.standard, Register.anar)
  clear := 0
  set := Anar.allModes

/-- Advertises both modes at 1000 Mbps. -/
def advertiseGigabit : Update where
  cell := (Page.standard, Register.ctrl1000)
  clear := 0
  set := Ctrl1000.gigabitFull ||| Ctrl1000.gigabitHalf

/-- Turns the negotiation on and starts it again. -/
def renegotiate : Update where
  cell := Cell.control
  clear := Bmcr.isolate ||| Bmcr.reset
  set := Bmcr.anEnable ||| Bmcr.anRestart

end Update

/-- The updates with which a negotiation is started, in order. -/
def negotiationUpdates : List Update :=
  [.advertise, .advertiseGigabit, .renegotiate]

namespace Settings

variable (settings : Settings)

/-- The updates of the clock delays. -/
def delayUpdates : List Update :=
  [.switch (Page.clockDelay, Register.txDelay) ClockDelayBit.tx settings.clockDelay.tx,
    .switch (Page.clockDelay, Register.rxDelay) ClockDelayBit.rx settings.clockDelay.rx]

/-- The updates that writing the settings makes, in order. -/
def updates : List Update :=
  settings.delayUpdates ++
    (settings.led.toList.map (.overwrite (Page.led, Register.lcr)) ++
      (settings.clockOut.toList.map (.switch (Page.control, Register.phycr2) Phycr.clockOut) ++
        (settings.powerSaving.toList.map
          (.switch (Page.control, Register.phycr1) Phycr.savingAll) ++ negotiationUpdates)))

/-- The updates before the negotiation, in order. -/
def vendorUpdates : List Update :=
  settings.delayUpdates ++
    (settings.led.toList.map (.overwrite (Page.led, Register.lcr)) ++
      (settings.clockOut.toList.map (.switch (Page.control, Register.phycr2) Phycr.clockOut) ++
        settings.powerSaving.toList.map
          (.switch (Page.control, Register.phycr1) Phycr.savingAll)))

theorem updates_eq : settings.updates = settings.vendorUpdates ++ negotiationUpdates := by
  simp only [updates, vendorUpdates, List.append_assoc]

/-- The registers that the updates are for, in order. -/
def cells : List Cell :=
  [(Page.clockDelay, Register.txDelay), (Page.clockDelay, Register.rxDelay)] ++
    ((if settings.led.isSome then [(Page.led, Register.lcr)] else []) ++
      ((if settings.clockOut.isSome then [(Page.control, Register.phycr2)] else []) ++
        ((if settings.powerSaving.isSome then [(Page.control, Register.phycr1)] else []) ++
          [(Page.standard, Register.anar), (Page.standard, Register.ctrl1000), Cell.control])))

theorem map_cell_updates : settings.updates.map Update.cell = settings.cells := by
  have hset : ∀ {α : Type} (setting : Option α) {f : α → Update} {cell : Cell},
      (∀ value, (f value).cell = cell) →
      (setting.toList.map f).map Update.cell = if setting.isSome then [cell] else [] := by
    intro α setting f cell hf
    cases setting with
    | none => rfl
    | some value => simp [hf value]
  simp only [updates, List.map_append, cells]
  refine congrArg₂ _ rfl (congrArg₂ _ (hset _ fun _ => rfl) ?_)
  exact congrArg₂ _ (hset _ fun _ => rfl) (congrArg₂ _ (hset _ fun _ => rfl) rfl)

theorem cells_sublist : settings.cells.Sublist Cell.installed := by
  have hset : ∀ (isSome : Bool) (cell : Cell),
      (if isSome then [cell] else []).Sublist [cell] := by
    intro isSome cell
    cases isSome with
    | false => exact List.nil_sublist _
    | true => exact .refl _
  exact .append (.refl [_, _]) (.append (hset _ _) (.append (hset _ _)
    (.append (hset _ _) (.refl _))))

theorem nodup_updates : (settings.updates.map Update.cell).Nodup := by
  rw [map_cell_updates]
  exact settings.cells_sublist.nodup (by decide)

/-! ### What a bring-up makes of the registers -/

/-- The registers after a bring-up. -/
def settle (f : Contents) : Contents := applyAll settings.updates (resetControl f)

variable {settings} {f : Contents} {u : Update} {us : List Update}

@[simp] theorem settle_resetControl : settings.settle (resetControl f) = settings.settle f := by
  rw [settle, resetControl, resetControl, Function.update_idem, settle, resetControl]

theorem settle_apply (hu : u ∈ settings.updates) :
    settings.settle (u.apply f) = settings.settle f := by
  by_cases hcell : u.cell = Cell.control
  · -- The reset of basic mode control undoes the update of it.
    have hreset : resetControl (u.apply f) = resetControl f := by
      rw [resetControl, Update.apply, hcell, Function.update_idem, resetControl]
    rw [settle, hreset, settle]
  · have hreset : resetControl (u.apply f) = u.apply (resetControl f) := by
      rw [resetControl, Update.apply, Update.apply, Update.value, Update.value, resetControl,
        Function.update_of_ne hcell, Function.update_comm (Ne.symm hcell)]
    rw [settle, hreset, applyAll_apply settings.nodup_updates hu, settle]

/-- **Updates of the settings that were made before do not show.** -/
theorem settle_applyAll (hus : ∀ u ∈ us, u ∈ settings.updates) :
    settings.settle (applyAll us f) = settings.settle f := by
  induction us generalizing f with
  | nil => rfl
  | cons u us ih =>
    obtain ⟨hu, hus⟩ := List.forall_mem_cons.1 hus
    rw [applyAll_cons, ih hus, settle_apply hu]

theorem settle_of_not_mem {cell : Cell} (h : cell ∉ settings.cells) :
    settings.settle f cell = f cell := by
  rw [← map_cell_updates] at h
  have hne : ∀ u ∈ settings.updates, cell ≠ u.cell := fun u hu hcell =>
    h (hcell ▸ List.mem_map_of_mem hu)
  have hcontrol : cell ≠ Cell.control :=
    hne .renegotiate (by simp [updates, negotiationUpdates])
  rw [settle, applyAll_of_forall_ne hne, resetControl, Function.update_of_ne hcontrol]

@[simp] theorem settle_status : settings.settle f Cell.status = f Cell.status := by
  rw [settle, applyAll_status, resetControl, Function.update_of_ne (by decide)]

theorem settle_control : settings.settle f Cell.control = some (Bmcr.anEnable ||| Bmcr.anRestart) := by
  have hu : Update.renegotiate ∈ settings.updates := by simp [updates, negotiationUpdates]
  have hcell : settings.settle f Cell.control = some (Update.renegotiate.value (resetControl f)) :=
    applyAll_cell settings.nodup_updates hu
  have hzero : resetControl f Update.renegotiate.cell = some 0 := Function.update_self ..
  rw [hcell, Update.value, hzero]
  rfl

theorem settle_cell (hu : u ∈ settings.updates) (hcontrol : u.cell ≠ Cell.control) :
    settings.settle f u.cell = some (u.value f) := by
  rw [settle, applyAll_cell settings.nodup_updates hu, Update.value, resetControl,
    Function.update_of_ne hcontrol, Update.value]

theorem settle_optional {α : Type} {setting : Option α} {g : α → Update} {cell : Cell}
    (hsome : ∀ value, setting = some value → g value ∈ settings.updates)
    (hnone : setting = none → cell ∉ settings.cells) (hcell : ∀ value, (g value).cell = cell)
    (hcontrol : cell ≠ Cell.control) :
    settings.settle f cell = ((setting.map fun value => (g value).value f) <|> f cell) := by
  cases setting with
  | none => exact settle_of_not_mem (hnone rfl)
  | some value =>
    have hsettle := settle_cell (f := f) (hsome value rfl) (hcell value ▸ hcontrol)
    rwa [hcell value] at hsettle

theorem settle_led : settings.settle f (Page.led, Register.lcr) =
    (settings.led <|> f (Page.led, Register.lcr)) := by
  have hsome : ∀ value, settings.led = some value →
      Update.overwrite (Page.led, Register.lcr) value ∈ settings.updates := by
    intro value h
    simp [updates, h]
  have hnone : settings.led = none → (Page.led, Register.lcr) ∉ settings.cells := by
    intro h
    rw [cells, h]
    cases settings.clockOut.isSome <;> cases settings.powerSaving.isSome <;> decide
  rw [settle_optional hsome hnone (fun _ => rfl) (by decide)]
  cases settings.led with
  | none => rfl
  | some value => exact congrArg some Update.value_overwrite

theorem settle_clockOut : settings.settle f (Page.control, Register.phycr2) =
    ((settings.clockOut.map fun on =>
      ((f (Page.control, Register.phycr2)).getD 0).update Phycr.clockOut
        (if on then Phycr.clockOut else 0)) <|> f (Page.control, Register.phycr2)) := by
  have hsome : ∀ on, settings.clockOut = some on →
      Update.switch (Page.control, Register.phycr2) Phycr.clockOut on ∈ settings.updates := by
    intro on h
    simp [updates, h]
  have hnone : settings.clockOut = none → (Page.control, Register.phycr2) ∉ settings.cells := by
    intro h
    rw [cells, h]
    cases settings.led.isSome <;> cases settings.powerSaving.isSome <;> decide
  rw [settle_optional hsome hnone (fun _ => rfl) (by decide)]
  simp only [Update.value_switch]

theorem settle_powerSaving : settings.settle f (Page.control, Register.phycr1) =
    ((settings.powerSaving.map fun on =>
      ((f (Page.control, Register.phycr1)).getD 0).update Phycr.savingAll
        (if on then Phycr.savingAll else 0)) <|> f (Page.control, Register.phycr1)) := by
  have hsome : ∀ on, settings.powerSaving = some on →
      Update.switch (Page.control, Register.phycr1) Phycr.savingAll on ∈ settings.updates := by
    intro on h
    simp [updates, h]
  have hnone : settings.powerSaving = none →
      (Page.control, Register.phycr1) ∉ settings.cells := by
    intro h
    rw [cells, h]
    cases settings.led.isSome <;> cases settings.clockOut.isSome <;> decide
  rw [settle_optional hsome hnone (fun _ => rfl) (by decide)]
  simp only [Update.value_switch]

end Settings

end EthernetPhy
