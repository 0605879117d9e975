import EthernetPhy.Bus.Board
import EthernetPhy.Proofs.Ensures
import EthernetPhy.Proofs.RegisterUpdates
import EthernetPhy.Simulator.Setup

/-!
# Simulated PHYs in tables

A `SimulatedBus` keeps one record for each PHY.  A `KeyedBus` keeps no PHYs, but a table for each kind
of thing that there is to know, in which the address is a part of the key: the registers of all PHYs
are in one table, the selected pages in another, and so on.  Whether an address has a PHY has to be
searched for among the keys, and what concerns one PHY leaves the others alone only because it uses
the right key.  It makes no difference.

* `PhyTables.Shows` : what the tables hold for an address is what a PHY has, and `ShowsAll` says so of
  every address;
* `ShowsAll.read`, `ShowsAll.write`, `ShowsAll.apply` : a frame or a change from outside has the same
  answer from the tables as from the PHY, and keeps this;
* `KeyedBus.run_alike` : **no program can tell the two apart**, whatever has happened before.
-/

namespace EthernetPhy

/-! ### Keys with an address -/

section

variable {κ ν : Type} [DecidableEq κ] (t : Table (PhyAddress × κ) ν) {a a' : PhyAddress} {k k' : κ}
  {v : ν}

theorem get?_insert_here :
    (t.insert (a, k) v).get? (a, k') = if k = k' then some v else t.get? (a, k') := by
  simp only [Table.get?_insert, Prod.mk.injEq, true_and]

theorem get?_insert_elsewhere (h : a' ≠ a) :
    (t.insert (a, k) v).get? (a', k') = t.get? (a', k') :=
  t.get?_insert_of_ne v fun hkey => h (congrArg Prod.fst hkey).symm

end

/-! ### The tables -/

/-- All that is kept of simulated PHYs, with the address in every key. -/
structure PhyTables where
  /-- The stored registers. -/
  registers : Table (PhyAddress × Cell) Word := {}
  /-- The selected pages. -/
  pages : Table PhyAddress Word := {}
  /-- Values for the next reads. -/
  queues : Table (PhyAddress × Cell) (List Word) := {}
  /-- The number of reads for which a soft reset stays visible. -/
  latencies : Table PhyAddress UInt32 := {}
  /-- The number of reads for which a soft reset will yet be visible, where there was one. -/
  pending : Table PhyAddress UInt32 := {}
  /-- The registers whose reads fail. -/
  failingReads : List (PhyAddress × RegAddress) := []
  /-- The registers whose writes fail. -/
  failingWrites : List (PhyAddress × RegAddress) := []
  /-- The number of reads after which the reads of a register fail. -/
  readsLeft : Table (PhyAddress × RegAddress) UInt32 := {}

namespace PhyTables

variable (f : PhyTables) (a : PhyAddress)

/-! ### Entries -/

/-- The selected page. -/
def page : Word := (f.pages.get? a).getD Page.standard

/-- Whether there is a PHY at all, which is to say that some register has this address in its key. -/
def isPresent : Bool := f.registers.keys.any fun key => key.1 = a

/-- The register that a number stands for while the page is selected that is. -/
def cell (reg : RegAddress) : Cell := (bank (f.page a) reg, reg)

/-- The values that are queued for a register. -/
def queue (cell : Cell) : List Word := (f.queues.get? (a, cell)).getD []

/-- The number of reads for which a soft reset stays visible. -/
def latency : UInt32 := (f.latencies.get? a).getD 0

/-- Stores a register. -/
def store (cell : Cell) (value : Word) : PhyTables :=
  { f with registers := f.registers.insert (a, cell) value }

/-- Selects a page. -/
def setPage (page : Word) : PhyTables := { f with pages := f.pages.insert a page }

/-- Replaces the values that are queued for a register. -/
def setQueue (cell : Cell) (values : List Word) : PhyTables :=
  { f with queues := f.queues.insert (a, cell) values }

/-- A reset will be visible for a number of reads. -/
def setPending (left : UInt32) : PhyTables := { f with pending := f.pending.insert a left }

/-- No reset is pending. -/
def clearPending : PhyTables := { f with pending := f.pending.erase a }

/-- Reads of a register fail after this number of reads. -/
def setReadsLeft (reg : RegAddress) (left : UInt32) : PhyTables :=
  { f with readsLeft := f.readsLeft.insert (a, reg) left }

/-! ### Frames -/

/-- The tables after a read was let through, or nothing if it fails. -/
def passRead (reg : RegAddress) : Option PhyTables :=
  if (a, reg) ∈ f.failingReads then none
  else
    match f.readsLeft.get? (a, reg) with
    | none => some f
    | some left => if left = 0 then none else some (f.setReadsLeft a reg (left - 1))

/-- The stored value of basic mode control, in which a pending reset is visible. -/
def readControl : Word × PhyTables :=
  let value := (f.registers.get? (a, f.cell a Register.bmcr)).getD 0
  match f.pending.get? a with
  | none => (value, f)
  | some left =>
    if left = 0 then (value, f)
    else
      (value ||| Bmcr.reset,
        if left = SimulatedPhy.neverEnds then f else f.setPending a (left - 1))

/-- The answer to a read that was let through. -/
def answer (reg : RegAddress) : Word × PhyTables :=
  if !f.isPresent a then (.idle, f)
  else if reg = Register.pageSelect then (f.page a, f)
  else
    match f.queue a (f.cell a reg) with
    | value :: rest => (value, f.setQueue a (f.cell a reg) rest)
    | [] =>
      if reg = Register.bmcr then f.readControl a
      else ((f.registers.get? (a, f.cell a reg)).getD 0, f)

/-- A read frame. -/
def read (reg : RegAddress) : Except BusFault Word × PhyTables :=
  match f.passRead a reg with
  | none => (.error .noResponse, f)
  | some f => (.ok (f.answer a reg).1, (f.answer a reg).2)

/-- The tables after a write that does not fail. -/
def accept (reg : RegAddress) (value : Word) : PhyTables :=
  if reg = Register.pageSelect then f.setPage a value
  else if reg = Register.bmcr then
    if value.test Bmcr.reset then
      (f.setPending a (f.latency a)).store a (f.cell a reg) (value.update Bmcr.reset 0)
    else (f.clearPending a).store a (f.cell a reg) value
  else f.store a (f.cell a reg) value

/-- A write frame. -/
def write (reg : RegAddress) (value : Word) : Except BusFault Unit × PhyTables :=
  if (a, reg) ∈ f.failingWrites then (.error .noResponse, f) else (.ok (), f.accept a reg value)

/-! ### Changes from outside -/

/-- Stores registers, each on its page. -/
def storeAll (values : List (Word × RegAddress × Word)) : PhyTables :=
  values.foldl (fun f entry => f.store a (bank entry.1 entry.2.1, entry.2.1) entry.2.2) f

/-- The tables after a change from outside. -/
def apply : Setup → PhyTables
  | .queue reg values =>
    f.setQueue a (Page.standard, reg) (f.queue a (Page.standard, reg) ++ values)
  | .resetLatency reads => { f with latencies := f.latencies.insert a reads }
  | .failReads reg => { f with failingReads := (a, reg) :: f.failingReads }
  | .failReadsAfter reg reads => f.setReadsLeft a reg reads
  | .failWrites reg => { f with failingWrites := (a, reg) :: f.failingWrites }
  | change =>
    f.storeAll a
      (change.registers ((f.registers.get? (a, Page.standard, Register.bmsr)).getD 0))

/-! ### One PHY -/

/-- What the tables hold for an address is what a PHY has. -/
structure Shows (f : PhyTables) (a : PhyAddress) (p : SimulatedPhy) : Prop where
  registers : ∀ cell, f.registers.get? (a, cell) = p.registers.get? cell
  page : f.page a = p.page
  -- A PHY has queues for registers of page `0` only, so there must be no others.
  queue : ∀ cell, f.queue a cell =
    if cell.1 = Page.standard then (p.queued.get? cell.2).getD [] else []
  latency : f.latency a = p.resetLatency
  pending : f.pending.get? a = p.pendingReset
  failingReads : ∀ reg, (a, reg) ∈ f.failingReads ↔ reg ∈ p.failingReads
  failingWrites : ∀ reg, (a, reg) ∈ f.failingWrites ↔ reg ∈ p.failingWrites
  readsLeft : ∀ reg, f.readsLeft.get? (a, reg) = p.readsLeft.get? reg

variable {f a} {f' : PhyTables} {p p' : SimulatedPhy} {phys : PhyAddress → SimulatedPhy}

theorem Shows.isPresent (h : f.Shows a p) : f.isPresent a = p.isPresent := by
  rw [Bool.eq_iff_iff, PhyTables.isPresent, List.any_eq_true, SimulatedPhy.isPresent,
    Bool.not_eq_true', ← Bool.not_eq_true, Table.isEmpty_iff, not_forall]
  constructor
  · rintro ⟨⟨a', cell⟩, hkey, ha⟩
    obtain rfl : a' = a := of_decide_eq_true ha
    exact ⟨cell, h.registers cell ▸ (Table.mem_keys ..).1 hkey⟩
  · rintro ⟨cell, hcell⟩
    exact ⟨(a, cell), (Table.mem_keys ..).2 (h.registers cell ▸ hcell), decide_eq_true rfl⟩

theorem Shows.cell (h : f.Shows a p) (reg : RegAddress) : f.cell a reg = (bank p.page reg, reg) := by
  rw [PhyTables.cell, h.page]

/-! ### All PHYs -/

/-- The tables hold for every address what the PHY there has. -/
def ShowsAll (f : PhyTables) (phys : PhyAddress → SimulatedPhy) : Prop := ∀ a, f.Shows a (phys a)

namespace ShowsAll

open Function

/-- What is done at one address has to be right there, and to leave the others alone. -/
theorem of_update (hself : f'.Shows a p') (hothers : ∀ a', a' ≠ a → f'.Shows a' (phys a')) :
    f'.ShowsAll (update phys a p') := by
  intro a'
  by_cases ha : a' = a
  · rw [ha, update_self]
    exact hself
  · rw [update_of_ne ha]
    exact hothers a' ha

theorem store (h : f.ShowsAll phys) (cell : Cell) (value : Word) :
    (f.store a cell value).ShowsAll
      (update phys a { phys a with registers := (phys a).registers.insert cell value }) :=
  of_update
    { h a with
      registers := fun cell' => by
        rw [PhyTables.store, get?_insert_here, Table.get?_insert, (h a).registers] }
    fun a' ha =>
      { h a' with
        registers := fun cell' => by
          rw [PhyTables.store, get?_insert_elsewhere _ ha, (h a').registers] }

theorem setPage (h : f.ShowsAll phys) (page : Word) :
    (f.setPage a page).ShowsAll (update phys a { phys a with page }) :=
  of_update
    { h a with page := by rw [PhyTables.page, PhyTables.setPage, Table.get?_insert_self]; rfl }
    fun a' ha =>
      { h a' with
        page := by
          rw [PhyTables.page, PhyTables.setPage, Table.get?_insert_of_ne _ _ ha.symm]
          exact (h a').page }

theorem setQueue (h : f.ShowsAll phys) (reg : RegAddress) (values : List Word) :
    (f.setQueue a (Page.standard, reg) values).ShowsAll
      (update phys a { phys a with queued := (phys a).queued.insert reg values }) :=
  of_update
    { h a with
      queue := fun cell => by
        obtain ⟨page, reg'⟩ := cell
        have hqueue := (h a).queue (page, reg')
        rw [PhyTables.queue] at hqueue
        rw [PhyTables.queue, PhyTables.setQueue, get?_insert_here, Table.get?_insert]
        by_cases hkey : (Page.standard, reg) = (page, reg')
        · obtain ⟨rfl, rfl⟩ := Prod.mk.inj hkey
          rw [if_pos rfl, if_pos rfl, if_pos rfl]
        · rw [if_neg hkey, hqueue]
          by_cases hpage : page = Page.standard
          · have hreg : reg ≠ reg' := fun hreg => hkey (by rw [hpage, hreg])
            rw [if_neg hreg]
          · rw [if_neg hpage, if_neg hpage] }
    fun a' ha =>
      { h a' with
        queue := fun cell => by
          rw [PhyTables.queue, PhyTables.setQueue, get?_insert_elsewhere _ ha]
          exact (h a').queue cell }

theorem setPending (h : f.ShowsAll phys) (left : UInt32) :
    (f.setPending a left).ShowsAll (update phys a { phys a with pendingReset := some left }) :=
  of_update
    { h a with pending := by rw [PhyTables.setPending, Table.get?_insert_self] }
    fun a' ha =>
      { h a' with
        pending := by
          rw [PhyTables.setPending, Table.get?_insert_of_ne _ _ ha.symm, (h a').pending] }

theorem clearPending (h : f.ShowsAll phys) :
    (f.clearPending a).ShowsAll (update phys a { phys a with pendingReset := none }) :=
  of_update
    { h a with pending := by rw [PhyTables.clearPending, Table.get?_erase, if_pos rfl] }
    fun a' ha =>
      { h a' with
        pending := by
          rw [PhyTables.clearPending, Table.get?_erase, if_neg ha.symm, (h a').pending] }

theorem setReadsLeft (h : f.ShowsAll phys) (reg : RegAddress) (left : UInt32) :
    (f.setReadsLeft a reg left).ShowsAll
      (update phys a { phys a with readsLeft := (phys a).readsLeft.insert reg left }) :=
  of_update
    { h a with
      readsLeft := fun reg' => by
        rw [PhyTables.setReadsLeft, get?_insert_here, Table.get?_insert, (h a).readsLeft] }
    fun a' ha =>
      { h a' with
        readsLeft := fun reg' => by
          rw [PhyTables.setReadsLeft, get?_insert_elsewhere _ ha, (h a').readsLeft] }

theorem same (h : f.ShowsAll phys) (a : PhyAddress) : f.ShowsAll (update phys a (phys a)) := by
  rw [update_eq_self]
  exact h

/-! ### Frames -/

theorem passRead (h : f.ShowsAll phys) (a : PhyAddress) (reg : RegAddress) :
    Option.Rel (fun f' p' => f'.ShowsAll (update phys a p')) (f.passRead a reg)
      ((phys a).passRead reg) := by
  rw [PhyTables.passRead, SimulatedPhy.passRead, (h a).readsLeft]
  by_cases hfail : reg ∈ (phys a).failingReads
  · rw [if_pos hfail, if_pos (((h a).failingReads reg).2 hfail)]
    exact .none
  · rw [if_neg hfail, if_neg fun hfail' => hfail (((h a).failingReads reg).1 hfail')]
    cases (phys a).readsLeft.get? reg with
    | none => exact .some (h.same a)
    | some left =>
      dsimp only
      by_cases hleft : left = 0
      · rw [if_pos hleft, if_pos hleft]
        exact .none
      · rw [if_neg hleft, if_neg hleft]
        exact .some (h.setReadsLeft reg (left - 1))

theorem readControl (h : f.ShowsAll phys) (a : PhyAddress) :
    (f.readControl a).1 = (phys a).readControl.1 ∧
      (f.readControl a).2.ShowsAll (update phys a (phys a).readControl.2) := by
  have hstored : (f.registers.get? (a, f.cell a Register.bmcr)).getD 0 =
      (phys a).stored Register.bmcr := by
    rw [(h a).cell, (h a).registers]
    rfl
  rw [PhyTables.readControl, SimulatedPhy.readControl, (h a).pending, hstored]
  cases (phys a).pendingReset with
  | none => exact ⟨rfl, h.same a⟩
  | some left =>
    dsimp only
    by_cases hleft : left = 0
    · rw [if_pos hleft, if_pos hleft]
      exact ⟨rfl, h.same a⟩
    · rw [if_neg hleft, if_neg hleft]
      by_cases hends : left = SimulatedPhy.neverEnds
      · rw [if_pos hends, if_pos hends]
        exact ⟨rfl, h.same a⟩
      · rw [if_neg hends, if_neg hends]
        exact ⟨rfl, h.setPending (left - 1)⟩

theorem answer (h : f.ShowsAll phys) (a : PhyAddress) (reg : RegAddress) :
    (f.answer a reg).1 = ((phys a).answer reg).1 ∧
      (f.answer a reg).2.ShowsAll (update phys a ((phys a).answer reg).2) := by
  rw [PhyTables.answer, SimulatedPhy.answer, (h a).isPresent, (h a).cell, (h a).registers,
    (h a).queue, SimulatedPhy.takeQueued]
  by_cases hpresent : (!(phys a).isPresent) = true
  · rw [if_pos hpresent, if_pos hpresent]
    exact ⟨rfl, h.same a⟩
  rw [if_neg hpresent, if_neg hpresent]
  by_cases hselect : reg = Register.pageSelect
  · rw [if_pos hselect, if_pos hselect]
    exact ⟨(h a).page, h.same a⟩
  rw [if_neg hselect, if_neg hselect]
  -- What is stored is the answer in three cases: the register is on another page, there is no queue
  -- for it, or its queue is empty.
  have hstored : let stored := if reg = Register.bmcr then f.readControl a
        else (((phys a).registers.get? (bank (phys a).page reg, reg)).getD 0, f)
      let stored' := if reg = Register.bmcr then (phys a).readControl
        else ((phys a).stored reg, phys a)
      stored.1 = stored'.1 ∧ stored.2.ShowsAll (update phys a stored'.2) := by
    by_cases hcontrol : reg = Register.bmcr
    · simp only [if_pos hcontrol]
      exact h.readControl a
    · simp only [if_neg hcontrol]
      exact ⟨rfl, h.same a⟩
  by_cases hbank : bank (phys a).page reg = Page.standard
  · rw [if_pos hbank, if_pos hbank]
    rcases (phys a).queued.get? reg with _ | _ | ⟨value, rest⟩
    · exact hstored
    · exact hstored
    · rw [hbank]
      exact ⟨rfl, h.setQueue reg rest⟩
  · rw [if_neg hbank, if_neg hbank]
    exact hstored

/-- **A read of a register finds in the tables what the PHY answers.** -/
theorem read (h : f.ShowsAll phys) (a : PhyAddress) (reg : RegAddress) :
    (f.read a reg).1 = ((phys a).read reg).1 ∧
      (f.read a reg).2.ShowsAll (update phys a ((phys a).read reg).2) := by
  have hpass := h.passRead a reg
  rw [PhyTables.read, SimulatedPhy.read]
  generalize f.passRead a reg = passed, (phys a).passRead reg = passed' at hpass ⊢
  cases hpass with
  | none => exact ⟨rfl, h.same a⟩
  | @some f' p' h' =>
    obtain ⟨hvalue, hshows⟩ := h'.answer a reg
    rw [update_self] at hvalue hshows
    rw [update_idem] at hshows
    exact ⟨congrArg Except.ok hvalue, hshows⟩

theorem accept (h : f.ShowsAll phys) (a : PhyAddress) (reg : RegAddress) (value : Word) :
    (f.accept a reg value).ShowsAll (update phys a ((phys a).accept reg value)) := by
  rw [PhyTables.accept, SimulatedPhy.accept, (h a).cell]
  by_cases hselect : reg = Register.pageSelect
  · rw [if_pos hselect, if_pos hselect]
    exact h.setPage value
  rw [if_neg hselect, if_neg hselect]
  by_cases hcontrol : reg = Register.bmcr
  · rw [if_pos hcontrol, if_pos hcontrol, SimulatedPhy.writeControl, hcontrol]
    by_cases hreset : value.test Bmcr.reset = true
    · rw [if_pos hreset, if_pos hreset, (h a).latency]
      have hpending := (h.setPending (a := a) (phys a).resetLatency).store (a := a)
        (bank (phys a).page Register.bmcr, Register.bmcr) (value.update Bmcr.reset 0)
      rw [update_idem, update_self] at hpending
      exact hpending
    · rw [if_neg hreset, if_neg hreset]
      have hpending := (h.clearPending (a := a)).store (a := a)
        (bank (phys a).page Register.bmcr, Register.bmcr) value
      rw [update_idem, update_self] at hpending
      exact hpending
  · rw [if_neg hcontrol, if_neg hcontrol]
    exact h.store (bank (phys a).page reg, reg) value

/-- **A write to a register changes the tables as it changes the PHY.** -/
theorem write (h : f.ShowsAll phys) (a : PhyAddress) (reg : RegAddress) (value : Word) :
    (f.write a reg value).1 = ((phys a).write reg value).1 ∧
      (f.write a reg value).2.ShowsAll (update phys a ((phys a).write reg value).2) := by
  rw [PhyTables.write, SimulatedPhy.write]
  by_cases hfail : reg ∈ (phys a).failingWrites
  · rw [if_pos hfail, if_pos (((h a).failingWrites reg).2 hfail)]
    exact ⟨rfl, h.same a⟩
  · rw [if_neg hfail, if_neg fun hfail' => hfail (((h a).failingWrites reg).1 hfail')]
    exact ⟨rfl, h.accept a reg value⟩

/-! ### Changes from outside -/

theorem storeAll (h : f.ShowsAll phys) (a : PhyAddress) (values : List (Word × RegAddress × Word)) :
    (f.storeAll a values).ShowsAll (update phys a ((phys a).storeAll values)) := by
  induction values generalizing f phys with
  | nil => exact h.same a
  | cons entry rest ih =>
    have hrest := ih (h.store (a := a) (bank entry.1 entry.2.1, entry.2.1) entry.2.2)
    rw [update_self, update_idem] at hrest
    exact hrest

/-- **A change from outside changes the tables as it changes the PHY.** -/
theorem apply (h : f.ShowsAll phys) (a : PhyAddress) (change : Setup) :
    (f.apply a change).ShowsAll (update phys a ((phys a).apply change)) := by
  have hstatus : f.registers.get? (a, Page.standard, Register.bmsr) =
      (phys a).register? Page.standard Register.bmsr := (h a).registers _
  have hstore : ∀ change : Setup,
      let before := f.registers.get? (a, Page.standard, Register.bmsr)
      let before' := (phys a).register? Page.standard Register.bmsr
      (f.storeAll a (change.registers (before.getD 0))).ShowsAll
        (update phys a ((phys a).storeAll (change.registers (before'.getD 0)))) := by
    intro change
    rw [hstatus]
    exact h.storeAll a _
  cases change with
  | queue reg values =>
    have hqueue := (h a).queue (Page.standard, reg)
    rw [if_pos rfl] at hqueue
    show ShowsAll (f.setQueue a (Page.standard, reg) _) _
    rw [hqueue]
    exact h.setQueue reg _
  | resetLatency reads =>
    exact of_update
      { h a with
        latency := by
          simp only [PhyTables.latency, PhyTables.apply, Table.get?_insert_self]
          rfl }
      fun a' ha =>
        { h a' with
          latency := by
            simp only [PhyTables.latency, PhyTables.apply, Table.get?_insert_of_ne _ _ ha.symm]
            exact (h a').latency }
  | failReads reg =>
    exact of_update
      { h a with
        failingReads := fun reg' => by
          simp [PhyTables.apply, SimulatedPhy.apply, (h a).failingReads] }
      fun a' ha =>
        { h a' with failingReads := fun reg' => by simp [PhyTables.apply, ha, (h a').failingReads] }
  | failReadsAfter reg reads => exact h.setReadsLeft reg reads
  | failWrites reg =>
    exact of_update
      { h a with
        failingWrites := fun reg' => by
          simp [PhyTables.apply, SimulatedPhy.apply, (h a).failingWrites] }
      fun a' ha =>
        { h a' with failingWrites := fun reg' => by simp [PhyTables.apply, ha, (h a').failingWrites] }
  | powerUp => exact hstore .powerUp
  | linkUpGigabitFull => exact hstore .linkUpGigabitFull
  | linkUpFastHalf => exact hstore .linkUpFastHalf
  | linkDown => exact hstore .linkDown
  | register page reg value => exact hstore (.register page reg value)

end ShowsAll

end PhyTables

/-! ### The buses -/

theorem SimulatedBus.phy_setPhy_eq_update (b : SimulatedBus) (a : PhyAddress) (p : SimulatedPhy) :
    (b.setPhy a p).phy = Function.update b.phy a p := by
  funext a'
  by_cases ha : a' = a
  · rw [ha, Function.update_self, phy_setPhy_self]
  · rw [Function.update_of_ne ha, phy_setPhy_of_ne _ _ (Ne.symm ha)]

/-- A bus of simulated PHYs in tables. -/
structure KeyedBus where
  /-- What is kept of the PHYs. -/
  tables : PhyTables := {}
  /-- All reads, newest first. -/
  readLog : List (PhyAddress × RegAddress) := []
  /-- All writes, newest first. -/
  writeLog : List (PhyAddress × RegAddress × Word) := []

namespace KeyedBus

/-- A read frame. -/
def read (f : KeyedBus) (a : PhyAddress) (reg : RegAddress) : Except BusFault Word × KeyedBus :=
  match f.tables.read a reg with
  | (answer, tables) => (answer, { f with tables, readLog := (a, reg) :: f.readLog })

/-- A write frame. -/
def write (f : KeyedBus) (a : PhyAddress) (reg : RegAddress) (value : Word) :
    Except BusFault Unit × KeyedBus :=
  match f.tables.write a reg value with
  | (answer, tables) => (answer, { f with tables, writeLog := (a, reg, value) :: f.writeLog })

/-- The tables as a bus. -/
def bus : Bus KeyedBus where
  read a reg := ExceptT.mk fun f => f.read a reg
  write a reg value := ExceptT.mk fun f => f.write a reg value

/-- The bus after a change to the PHY at an address. -/
def apply (f : KeyedBus) (a : PhyAddress) (change : Setup) : KeyedBus :=
  { f with tables := f.tables.apply a change }

/-- The two buses are alike: the tables hold what the PHYs have, and the frames were the same. -/
structure Represents (f : KeyedBus) (b : SimulatedBus) : Prop where
  phys : f.tables.ShowsAll b.phy
  reads : f.readLog = b.readLog
  writes : f.writeLog = b.writeLog

namespace Represents

variable {f : KeyedBus} {b : SimulatedBus}

theorem empty : Represents {} {} where
  phys _ :=
    { registers := fun _ => rfl
      page := rfl
      queue := fun _ => (ite_self []).symm
      latency := rfl
      pending := rfl
      failingReads := fun _ => iff_of_false List.not_mem_nil List.not_mem_nil
      failingWrites := fun _ => iff_of_false List.not_mem_nil List.not_mem_nil
      readsLeft := fun _ => rfl }
  reads := rfl
  writes := rfl

theorem read (h : f.Represents b) (a : PhyAddress) (reg : RegAddress) :
    (f.read a reg).1 = (b.read a reg).1 ∧ (f.read a reg).2.Represents (b.read a reg).2 := by
  obtain ⟨hanswer, hphys⟩ := h.phys.read a reg
  rw [← SimulatedBus.phy_setPhy_eq_update] at hphys
  exact ⟨hanswer, hphys, congrArg _ h.reads, h.writes⟩

theorem write (h : f.Represents b) (a : PhyAddress) (reg : RegAddress) (value : Word) :
    (f.write a reg value).1 = (b.write a reg value).1 ∧
      (f.write a reg value).2.Represents (b.write a reg value).2 := by
  obtain ⟨hanswer, hphys⟩ := h.phys.write a reg value
  rw [← SimulatedBus.phy_setPhy_eq_update] at hphys
  exact ⟨hanswer, hphys, h.reads, congrArg _ h.writes⟩

theorem apply (h : f.Represents b) (a : PhyAddress) (change : Setup) :
    (f.apply a change).Represents (b.apply a change) := by
  have hphys := h.phys.apply a change
  rw [← SimulatedBus.phy_setPhy_eq_update] at hphys
  exact ⟨hphys, h.reads, h.writes⟩

end Represents

/-! ### Histories -/

/-- Something that happens to a board with PHYs. -/
inductive Occurrence where
  /-- A PHY is changed from outside. -/
  | setup (phy : PhyAddress) (change : Setup)
  /-- A request is made. -/
  | request (q : Request)

/-- A board after some occurrences. -/
def history {σ : Type} (bus : Bus σ) (apply : σ → PhyAddress → Setup → σ) (b : Board σ)
    (occurrences : List Occurrence) : Board σ :=
  occurrences.foldl (fun b o =>
    match o with
    | .setup phy change => { b with bus := apply b.bus phy change }
    | .request q => (bus.machine.answer q b).2) b

/-- The two boards are alike. -/
structure Alike (f : Board KeyedBus) (b : Board SimulatedBus) : Prop where
  bus : f.bus.Represents b.bus
  elapsed : f.elapsed = b.elapsed
  line : f.line = b.line

namespace Alike

variable {f : Board KeyedBus} {b : Board SimulatedBus}

/-- **Every request has the same answer on both boards**, and leaves them alike. -/
theorem answer (h : Alike f b) (q : Request) :
    (KeyedBus.bus.machine.answer q f).1 = (SimulatedBus.bus.machine.answer q b).1 ∧
      Alike (KeyedBus.bus.machine.answer q f).2 (SimulatedBus.bus.machine.answer q b).2 := by
  cases q with
  | read phy reg =>
    obtain ⟨hanswer, hbus⟩ := h.bus.read phy reg
    exact ⟨hanswer, hbus, h.elapsed, h.line⟩
  | write phy reg value =>
    obtain ⟨hanswer, hbus⟩ := h.bus.write phy reg value
    exact ⟨hanswer, hbus, h.elapsed, h.line⟩
  | delay time => exact ⟨rfl, h.bus, congrArg (· + time.nanoseconds) h.elapsed, h.line⟩
  | log message => exact ⟨rfl, h⟩
  | drive level =>
    change (f.drive level).1 = (b.drive level).1 ∧ Alike (f.drive level).2 (b.drive level).2
    rw [Board.drive, Board.drive, h.line]
    cases b.line with
    | none => exact ⟨rfl, h⟩
    | some line => exact ⟨rfl, h.bus, h.elapsed, rfl⟩

theorem history (h : Alike f b) (occurrences : List Occurrence) :
    Alike (KeyedBus.history KeyedBus.bus KeyedBus.apply f occurrences)
      (KeyedBus.history SimulatedBus.bus SimulatedBus.apply b occurrences) := by
  induction occurrences generalizing f b with
  | nil => exact h
  | cons o rest ih =>
    cases o with
    | setup phy change => exact ih ⟨h.bus.apply phy change, h.elapsed, h.line⟩
    | request q => exact ih (h.answer q).2

theorem run {α : Type} (h : Alike f b) (x : Program α) :
    let out := x.run KeyedBus.bus.machine f
    let out' := x.run SimulatedBus.bus.machine b
    out.result = out'.result ∧ out.events = out'.events ∧ Alike out.final out'.final := by
  have hasks : x.Asks fun _ => True := Program.Ensures.of_forall fun _ _ _ _ => trivial
  exact Program.run_simulates (fun q _ _ _ h => h.answer q) hasks h

end Alike

/-- **It makes no difference whether all that is kept has its address in the key, or whether there is
a record for each PHY.**  From new boards, after any changes from outside and requests in any order,
every program has the same result and the same events, and leaves boards that are alike. -/
theorem run_alike {α : Type} (occurrences : List Occurrence) (x : Program α) :
    let out := x.run bus.machine (history bus apply { bus := {} } occurrences)
    let out' := x.run SimulatedBus.bus.machine
      (history SimulatedBus.bus SimulatedBus.apply { bus := {} } occurrences)
    out.result = out'.result ∧ out.events = out'.events ∧ Alike out.final out'.final := by
  have hnew : Alike { bus := {} } { bus := {} } := ⟨.empty, rfl, rfl⟩
  exact (hnew.history occurrences).run x

end KeyedBus

end EthernetPhy
