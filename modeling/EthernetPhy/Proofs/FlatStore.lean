import EthernetPhy.Proofs.Installation
import EthernetPhy.Proofs.SinglePhy

/-!
# Paged access as a flat store

The number of a register alone does not say which register it is: from `0x10` on that depends on the
page that is selected, and selecting it is a write like any other.  Who reaches the pages by
`withinPage` only, and makes every other access with page `0` selected, need not know.  To such a
caller the PHY is a flat store, which has one cell for each register of each page, and in which a cell
that was never written holds `0`.

* `Touch`, `Visit` : what is done to one register, and where;
* `Touch.flat` : what it does to a flat store;
* `visitAll_eq_flat` : **a run of visits on the bus is the run of them on the flat store.**

Basic mode control and the page select are left out, as they are no cells: a reset shows in the one,
and the other is the page itself.
-/

namespace EthernetPhy

/-! ### Visits -/

/-- What is done to one register. -/
inductive Touch where
  /-- It is read. -/
  | read
  /-- It is overwritten. -/
  | write (value : Word)
  /-- Some of its bits are cleared, and then some set. -/
  | modify (clear set : Word)
  deriving DecidableEq

namespace Touch

/-- The access that touches a register of the selected page. -/
def access (phy : PhyAddress) (reg : RegAddress) : Touch → Access
  | read => .read phy reg
  | write value => .write phy reg value
  | modify clear set => .modify phy reg clear set

/-- The use of a page that touches a register of it. -/
def paged (page : Word) (reg : RegAddress) : Touch → PagedAccess
  | read => .read page reg
  | write value => .write page reg value
  | modify clear set => .modify page reg clear set

/-- What touching a cell of a flat store gives, and the store afterwards. -/
def flat (cell : Cell) (f : Contents) : Touch → Option Word × Contents
  | read => (some ((f cell).getD 0), f)
  | write value => (none, Function.update f cell (some value))
  | modify clear set => (none, Function.update f cell (some (((f cell).getD 0).update clear set)))

end Touch

/-- One register is touched, within a page or directly. -/
structure Visit where
  /-- The page, if one is selected for the purpose. -/
  page : Option Word
  /-- The register. -/
  reg : RegAddress
  /-- What is done to it. -/
  touch : Touch
  deriving DecidableEq

namespace Visit

/-- The frames of a visit to the PHY at an address. -/
def program (phy : PhyAddress) (v : Visit) : BusM (Option Word) :=
  match v.page with
  | none => (v.touch.access phy v.reg).perform
  | some page => (v.touch.paged page v.reg).perform phy

/-- Makes a visit to the PHY at an address. -/
def perform (phy : PhyAddress) (v : Visit) (b : Board SimulatedBus) :
    Except BusFault (Option Word) × Board SimulatedBus :=
  match v.page with
  | none =>
    let out := (SimulatedBus.bus.access (v.touch.access phy v.reg)).run.run b.bus
    (out.1, { b with bus := out.2 })
  | some page =>
    let out := ((v.touch.paged page v.reg).perform phy).run.run SimulatedBus.bus.machine b
    (out.result, out.final)

/-- The cell that is visited: the lower registers belong to page `0`, as do those that are visited
directly. -/
def cell (v : Visit) : Cell := (if 0x10 ≤ v.reg then v.page.getD 0 else 0, v.reg)

/-- The simulated PHY finds the register of a visit in the cell that is visited. -/
theorem cell_eq_bank (v : Visit) : v.cell = (bank (v.page.getD Page.standard) v.reg, v.reg) := by
  rw [cell, bank, RegAddress.firstPaged, Page.standard]

end Visit

/-- Makes some visits; the results are in their order. -/
def visitAll (phy : PhyAddress) :
    List Visit → Board SimulatedBus → List (Except BusFault (Option Word)) × Board SimulatedBus
  | [], b => ([], b)
  | v :: rest, b =>
    let out := v.perform phy b
    let later := visitAll phy rest out.2
    (out.1 :: later.1, later.2)

/-- Makes some visits to a flat store. -/
def flatAll : List Visit → Contents → List (Option Word) × Contents
  | [], f => ([], f)
  | v :: rest, f =>
    let out := v.touch.flat v.cell f
    let later := flatAll rest out.2
    (out.1 :: later.1, later.2)

/-! ### Programs that succeed -/

namespace BusM

variable {σ α β : Type} {m : Machine σ} {s s' s'' : σ} {phy : PhyAddress} {reg : RegAddress}

/-- From a state of a machine a program succeeds with a value and leaves a state. -/
def Yields (m : Machine σ) (x : BusM α) (s : σ) (value : α) (s' : σ) : Prop :=
  (x.run.run m s).result = .ok value ∧ (x.run.run m s).final = s'

theorem yields_pure {a : α} : Yields m (pure a) s a s := ⟨rfl, rfl⟩

theorem yields_bind {x : BusM α} {f : α → BusM β} {a : α} {b : β} (hx : Yields m x s a s')
    (hf : Yields m (f a) s' b s'') : Yields m (x >>= f) s b s'' := by
  obtain ⟨hresult, hfinal⟩ := hx
  rw [Yields, ExceptT.run_bind, Program.run_bind, hresult, hfinal]
  exact hf

theorem yields_read {v : Word} (h : m.answer (.read phy reg) s = (.ok v, s')) :
    Yields m (read phy reg) s v s' := by
  rw [Yields, run_read, Program.run_ask, h]
  exact ⟨rfl, rfl⟩

theorem yields_write {v : Word} (h : m.answer (.write phy reg v) s = (.ok (), s')) :
    Yields m (write phy reg v) s () s' := by
  rw [Yields, run_write, Program.run_ask, h]
  exact ⟨rfl, rfl⟩

theorem yields_withinPage {page : Word} {body : BusM α} {a : α} {s₁ s₂ : σ}
    (hopen : m.answer (.write phy Register.pageSelect page) s = (.ok (), s₁))
    (hbody : Yields m body s₁ a s₂)
    (hclose : m.answer (.write phy Register.pageSelect Page.standard) s₂ = (.ok (), s')) :
    Yields m (withinPage phy page body) s a s' := by
  obtain ⟨hresult, hfinal⟩ := hbody
  rw [Yields, run_withinPage, Program.run_ask, hopen]
  dsimp only
  rw [Program.run_bind, hresult, hfinal, Program.run_ask, hclose]
  exact ⟨rfl, rfl⟩

end BusM

/-! ### Uses of a page -/

/-- Putting the result of a body into another form makes no difference to the bracket around it. -/
theorem map_withinPage {α β : Type} (f : α → β) (phy : PhyAddress) (page : Word) (body : BusM α) :
    f <$> withinPage phy page body = withinPage phy page (f <$> body) := by
  apply ExceptT.ext
  rw [ExceptT.run_map, run_withinPage, run_withinPage, ExceptT.run_map, Program.map_ask]
  congr 1
  funext selected
  obtain e | ⟨⟩ := selected
  · rfl
  · dsimp only
    rw [map_bind, bind_map_left]
    congr 1
    funext result
    rw [Program.map_ask]
    congr 1
    funext restored
    obtain e | v := result
    · rfl
    · obtain e | ⟨⟩ := restored <;> rfl

/-- To touch a register of a page is to touch it within that page. -/
theorem Touch.perform_paged (phy : PhyAddress) (page : Word) (reg : RegAddress) (t : Touch) :
    (t.paged page reg).perform phy = withinPage phy page (t.access phy reg).perform := by
  cases t with
  | read => exact map_withinPage _ _ _ _
  | write value =>
    show (writeWithin phy page reg value >>= fun _ => pure none) = _
    rw [← map_eq_pure_bind]
    exact map_withinPage _ _ _ _
  | modify clear set =>
    show (modifyWithin phy page reg clear set >>= fun _ => pure none) = _
    rw [← map_eq_pure_bind]
    exact map_withinPage _ _ _ _

/-! ### Visits to a PHY by itself -/

namespace SimulatedPhy

variable {p p' : SimulatedPhy} {a : PhyAddress} {reg : RegAddress}

/-- A PHY that is there and at which nothing goes wrong. -/
structure Serves (p : SimulatedPhy) : Prop where
  healthy : p.Healthy
  present : p.isPresent = true

theorem Serves.select (h : p.Serves) (page : Word) :
    p.write Register.pageSelect page = (.ok (), { p with page }) ∧ Serves { p with page } := by
  obtain ⟨hhealthy, -, hpresent⟩ := h.healthy.accept Register.pageSelect page
  exact ⟨h.healthy.write, hhealthy, hpresent h.present⟩

theorem Serves.store (h : p.Serves) (hcontrol : reg ≠ Register.bmcr)
    (hselect : reg ≠ Register.pageSelect) (value : Word) :
    p.write reg value = (.ok (), p.store p.page reg value) ∧
      (p.store p.page reg value).Serves := by
  have haccept : p.accept reg value = p.store p.page reg value := by
    rw [accept, if_neg hselect, if_neg hcontrol]
  obtain ⟨hhealthy, -, hpresent⟩ := h.healthy.accept reg value
  rw [haccept] at hhealthy hpresent
  exact ⟨by rw [h.healthy.write, haccept], hhealthy, hpresent h.present⟩

/-- **Touching a register of a PHY is touching a cell of a flat store**, and leaves the same page
selected. -/
theorem Serves.touch (h : p.Serves) (hcontrol : reg ≠ Register.bmcr)
    (hselect : reg ≠ Register.pageSelect) (t : Touch) :
    let flat := t.flat (bank p.page reg, reg) p.contents
    ∃ p', (t.access a reg).perform.Yields machine p flat.1 p' ∧ p'.contents = flat.2 ∧
      p'.page = p.page ∧ p'.Serves := by
  have hread : BusM.Yields machine (BusM.read a reg) p _ p :=
    BusM.yields_read (h.healthy.read h.present hcontrol hselect)
  have hwrite : ∀ value, BusM.Yields machine (BusM.write a reg value) p () _ := fun value =>
    BusM.yields_write (h.store hcontrol hselect value).1
  cases t with
  | read => exact ⟨p, BusM.yields_bind hread BusM.yields_pure, rfl, rfl, h⟩
  | write value =>
    exact ⟨_, BusM.yields_bind (hwrite value) BusM.yields_pure, contents_store, rfl,
      (h.store hcontrol hselect value).2⟩
  | modify clear set =>
    have hmodify : BusM.Yields machine (BusM.modify a reg clear set) p () _ :=
      BusM.yields_bind hread (hwrite _)
    exact ⟨_, BusM.yields_bind hmodify BusM.yields_pure, contents_store, rfl,
      (h.store hcontrol hselect _).2⟩

/-- **Making a visit is touching the cell that is visited**, if page `0` is selected. -/
theorem Serves.visit (h : p.Serves) (hpage : p.page = Page.standard) {v : Visit}
    (hcontrol : v.reg ≠ Register.bmcr) (hselect : v.reg ≠ Register.pageSelect) :
    let flat := v.touch.flat v.cell p.contents
    ∃ p', (v.program a).Yields machine p flat.1 p' ∧ p'.contents = flat.2 ∧
      p'.page = Page.standard ∧ p'.Serves := by
  rw [v.cell_eq_bank]
  obtain ⟨page, reg, touch⟩ := v
  cases page with
  | none =>
    have htouch := h.touch (a := a) hcontrol hselect touch
    rw [hpage] at htouch
    exact htouch
  | some page =>
    obtain ⟨hopen, hopened⟩ := h.select page
    obtain ⟨q, hyields, hcontents, -, hq⟩ := hopened.touch (a := a) hcontrol hselect touch
    obtain ⟨hclose, hclosed⟩ := hq.select Page.standard
    refine ⟨{ q with page := Page.standard }, ?_, hcontents, rfl, hclosed⟩
    show BusM.Yields machine ((touch.paged page reg).perform a) p _ _
    rw [Touch.perform_paged]
    exact BusM.yields_withinPage hopen hyields hclose

end SimulatedPhy

/-! ### Visits on a bus -/

section

variable {a : PhyAddress} {b : Board SimulatedBus}

theorem Touch.keepsTo_access (reg : RegAddress) (t : Touch) :
    (t.access a reg).perform.run.Asks (KeepsTo a) := by
  cases t with
  | read => exact (Access.read a reg).keepsTo
  | write value => exact (Access.write a reg value).keepsTo
  | modify clear set => exact (Access.modify a reg clear set).keepsTo

/-- A visit on a bus is one to the PHY by itself. -/
theorem Visit.perform_single (v : Visit) (b : Board SimulatedBus) :
    let out := v.perform a b
    let single := (v.program a).run.run SimulatedPhy.machine (b.bus.phy a)
    out.1 = single.result ∧ out.2.bus.phy a = single.final ∧
      ∀ phy, phy ≠ a → out.2.bus.phy phy = b.bus.phy phy := by
  obtain ⟨page, reg, touch⟩ := v
  cases page with
  | none =>
    exact SimulatedBus.performs_single (SimulatedBus.performs_access _) (touch.keepsTo_access reg) b.bus
  | some page =>
    obtain ⟨hresult, -, hfinal, hsame⟩ :=
      SimulatedBus.run_single (PagedAccess.keepsTo (touch.paged page reg)) b
    exact ⟨hresult, hfinal, hsame.phy⟩

/-- **One visit on a bus touches one cell of a flat store.** -/
theorem Visit.perform_eq_flat {v : Visit} (hcontrol : v.reg ≠ Register.bmcr)
    (hselect : v.reg ≠ Register.pageSelect) (hserves : (b.bus.phy a).Serves)
    (hpage : (b.bus.phy a).page = Page.standard) :
    let flat := v.touch.flat v.cell (b.bus.phy a).contents
    let out := v.perform a b
    out.1 = .ok flat.1 ∧ (out.2.bus.phy a).contents = flat.2 ∧
      (out.2.bus.phy a).page = Page.standard ∧ (out.2.bus.phy a).Serves ∧
      ∀ phy, phy ≠ a → out.2.bus.phy phy = b.bus.phy phy := by
  obtain ⟨p, ⟨hresult, hfinal⟩, hcontents, hclosed, hp⟩ :=
    hserves.visit (a := a) hpage hcontrol hselect
  obtain ⟨hsingle, hphy, hothers⟩ := v.perform_single b
  rw [hresult] at hsingle
  rw [hfinal] at hphy
  dsimp only
  rw [hphy]
  exact ⟨hsingle, hcontents, hclosed, hp, hothers⟩

/-- **A run of visits on a bus is the run of them on a flat store.**  A PHY that is there, at which
no frame fails and no value is queued, and which has page `0` selected gives to every visit what the
flat store gives, ends with the registers that the flat store ends with, and has page `0` selected
after every single one of them; and nothing happens to any other PHY. -/
theorem visitAll_eq_flat {visits : List Visit}
    (hregs : ∀ v ∈ visits, v.reg ≠ Register.bmcr ∧ v.reg ≠ Register.pageSelect)
    (hserves : (b.bus.phy a).Serves) (hpage : (b.bus.phy a).page = Page.standard) :
    let flat := flatAll visits (b.bus.phy a).contents
    let out := visitAll a visits b
    out.1 = flat.1.map .ok ∧ (out.2.bus.phy a).contents = flat.2 ∧
      (∀ n, ((visitAll a (visits.take n) b).2.bus.phy a).page = Page.standard) ∧
      ∀ phy, phy ≠ a → out.2.bus.phy phy = b.bus.phy phy := by
  induction visits generalizing b with
  | nil => exact ⟨rfl, rfl, fun n => by rw [List.take_nil]; exact hpage, fun _ _ => rfl⟩
  | cons v rest ih =>
    obtain ⟨⟨hcontrol, hselect⟩, hrest⟩ := List.forall_mem_cons.1 hregs
    obtain ⟨hresult, hcontents, hclosed, hserves', hothers⟩ :=
      Visit.perform_eq_flat hcontrol hselect hserves hpage
    obtain ⟨hresults, hfinal, hpages, hrestOthers⟩ := ih hrest hserves' hclosed
    rw [hcontents] at hresults hfinal
    refine ⟨congrArg₂ List.cons hresult hresults, hfinal, fun n => ?_, fun phy hphy =>
      (hrestOthers phy hphy).trans (hothers phy hphy)⟩
    cases n with
    | zero => exact hpage
    | succ n => exact hpages n

/-- The transmit delay and the status word have one number, and are two cells; what is announced is one
cell, on whatever page it is visited. -/
theorem visitAll_eq_flat_sameNumber :
    let b : Board SimulatedBus := { bus := SimulatedBus.setPhy {} 1 (SimulatedPhy.powerUp {}) }
    let visits : List Visit := [⟨some Page.clockDelay, Register.txDelay, .modify 0 ClockDelayBit.tx⟩,
      ⟨none, Register.physr, .read⟩, ⟨some Page.clockDelay, Register.txDelay, .read⟩,
      ⟨some Page.clockDelay, Register.anar, .write Anar.fastFull⟩, ⟨none, Register.anar, .read⟩]
    let flat := flatAll visits (b.bus.phy 1).contents
    let out := visitAll 1 visits b
    ((∀ v ∈ visits, v.reg ≠ Register.bmcr ∧ v.reg ≠ Register.pageSelect) ∧
      (b.bus.phy 1).Serves ∧ (b.bus.phy 1).page = Page.standard ∧
      flat.1 = [none, some 0, some ClockDelayBit.tx, none, some Anar.fastFull]) ∧
      out.1 = flat.1.map .ok ∧ (out.2.bus.phy 1).contents = flat.2 ∧
      (∀ n, ((visitAll 1 (visits.take n) b).2.bus.phy 1).page = Page.standard) ∧
      ∀ phy, phy ≠ 1 → out.2.bus.phy phy = b.bus.phy phy := by
  intro b visits flat out
  have hregs : ∀ v ∈ visits, v.reg ≠ Register.bmcr ∧ v.reg ≠ Register.pageSelect := by decide
  have hserves : (b.bus.phy 1).Serves := ⟨.of_unset rfl rfl rfl rfl, by decide +kernel⟩
  have hpage : (b.bus.phy 1).page = Page.standard := rfl
  exact ⟨⟨hregs, hserves, hpage, by decide +kernel⟩, visitAll_eq_flat hregs hserves hpage⟩

end

end EthernetPhy
