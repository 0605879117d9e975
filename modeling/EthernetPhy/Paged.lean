import EthernetPhy.Program.Laws
import EthernetPhy.Register.Vendor

/-!
# Paged access

To reach a register of a vendor page, the page is selected, the register is accessed, and page `0`
is selected again.  `withinPage` is that bracket around any body.  If the page cannot be selected,
the body does not run; once it has run, page `0` is selected again whether the body failed or not,
and the fault of the body counts before that of going back.

A `Body` is a list of accesses to one PHY in which such brackets may be nested, as data.  The inner
bracket also goes back to page `0`, not to the page of the outer one.
-/

namespace EthernetPhy

/-! ### Page selection -/

/-- Selects a page. -/
def openPage (phy : PhyAddress) (page : Word) : BusM Unit :=
  BusM.write phy Register.pageSelect page

/-- Selects page `0`. -/
def closePage (phy : PhyAddress) : BusM Unit := openPage phy Page.standard

section

variable {n : Type → Type} [Monad n] [MonadLiftT Program n] {α : Type}

/-- A bus program among programs that keep a state of their own. -/
def onBus (x : BusM α) : ExceptT BusFault n α := ExceptT.mk (liftM x.run)

/-- Runs `body` with `page` selected, and selects page `0` afterwards in any case. -/
def withinPage (phy : PhyAddress) (page : Word) (body : ExceptT BusFault n α) :
    ExceptT BusFault n α := do
  onBus (openPage phy page)
  let result ← ExceptT.lift body.run
  let restored ← ExceptT.lift (liftM (closePage phy).run)
  let value ← ExceptT.mk (pure result)
  ExceptT.mk (pure restored)
  return value

/-- **The bracket as a tree**: a failed selection ends it at once, and otherwise page `0` is
selected after the body whatever came of it. -/
theorem run_withinPage (phy : PhyAddress) (page : Word) (body : BusM α) :
    (withinPage phy page body).run =
      .ask (.write phy Register.pageSelect page) fun selected =>
        match selected with
        | .error e => .done (.error e)
        | .ok () => body.run >>= fun result =>
          .ask (.write phy Register.pageSelect Page.standard) fun restored =>
            .done (result >>= fun value => restored >>= fun _ => .ok value) := by
  simp only [withinPage, onBus, openPage, closePage, ExceptT.run_bind, ExceptT.run_lift,
    ExceptT.run_mk, liftM, monadLift, BusM.run_write, Program.ask_bind, Program.done_bind]
  congr 1
  funext selected
  obtain e | ⟨⟩ := selected
  · rfl
  · simp only [map_eq_pure_bind, Program.bind_bind, Program.done_bind, Program.pure_eq]
    congr 1
    funext result
    simp only [Program.ask_bind, Program.done_bind, ExceptT.run_pure, Program.pure_eq,
      Program.ask.injEq, heq_eq_eq, true_and]
    obtain e | v := result
    · rfl
    · funext r
      obtain e | ⟨⟩ := r <;> rfl

end

/-! ### Single registers of a page -/

/-- Reads a register of a page. -/
def readWithin (phy : PhyAddress) (page : Word) (reg : RegAddress) : BusM Word :=
  withinPage phy page (BusM.read phy reg)

/-- Writes a register of a page. -/
def writeWithin (phy : PhyAddress) (page : Word) (reg : RegAddress) (value : Word) : BusM Unit :=
  withinPage phy page (BusM.write phy reg value)

/-- Clears some bits in a register of a page and then sets some. -/
def modifyWithin (phy : PhyAddress) (page : Word) (reg : RegAddress) (clear set : Word) :
    BusM Unit :=
  withinPage phy page (BusM.modify phy reg clear set)

/-! ### Nested access as data -/

/-- Accesses to one PHY, each with the accesses that follow it. -/
inductive Body where
  /-- No further access. -/
  | stop
  /-- A read. -/
  | read (reg : RegAddress) (rest : Body)
  /-- A write. -/
  | write (reg : RegAddress) (value : Word) (rest : Body)
  /-- A change of some bits. -/
  | modify (reg : RegAddress) (clear set : Word) (rest : Body)
  /-- Accesses within a page. -/
  | within (page : Word) (inner rest : Body)
  deriving DecidableEq

/-- Makes the accesses in order up to the first failure, and keeps the values that were read, newest
first. -/
def Body.perform (phy : PhyAddress) : Body → ExceptT BusFault (StateT (List Word) Program) Unit
  | .stop => pure ()
  | .read reg rest => do
    let value ← onBus (BusM.read phy reg)
    modifyThe (List Word) (value :: ·)
    rest.perform phy
  | .write reg value rest => do
    onBus (BusM.write phy reg value)
    rest.perform phy
  | .modify reg clear set rest => do
    onBus (BusM.modify phy reg clear set)
    rest.perform phy
  | .within page inner rest => do
    withinPage phy page (inner.perform phy)
    rest.perform phy

/-- One use of the pages of a PHY. -/
inductive PagedAccess where
  /-- Select a page and stay there. -/
  | select (page : Word)
  /-- Select page `0`. -/
  | close
  /-- Read a register of a page. -/
  | read (page : Word) (reg : RegAddress)
  /-- Write a register of a page. -/
  | write (page : Word) (reg : RegAddress) (value : Word)
  /-- Change some bits in a register of a page. -/
  | modify (page : Word) (reg : RegAddress) (clear set : Word)
  deriving DecidableEq

/-- Makes one use of the pages; the result of a read is its value. -/
def PagedAccess.perform (phy : PhyAddress) : PagedAccess → BusM (Option Word)
  | .select page => do openPage phy page; return none
  | .close => do closePage phy; return none
  | .read page reg => some <$> readWithin phy page reg
  | .write page reg value => do writeWithin phy page reg value; return none
  | .modify page reg clear set => do modifyWithin phy page reg clear set; return none

end EthernetPhy
