import EthernetPhy.Fault
import EthernetPhy.Register.Clause22
import EthernetPhy.Register.Vendor
import EthernetPhy.Table

/-!
# A simulated PHY

`SimulatedPhy` is the register file of one PHY with everything that decides how it answers:

* registers from `0x10` on belong to the selected page, the others to page `0` whatever is selected;
* a soft reset stays visible for a number of reads of basic mode control;
* values for the next reads of a register can be queued, and reads and writes can be made to fail;
* an address with no register stored has no PHY, so that reads there find the bus idle.

A read goes through these in a fixed order: faults, absence, page select, queued values, stored
value.  A failed read takes no queued value.
-/

namespace EthernetPhy

/-- The lowest register number that belongs to the selected page. -/
def RegAddress.firstPaged : RegAddress := 0x10

/-- The page on which a register is found while `page` is selected. -/
def bank (page : Word) (reg : RegAddress) : Word :=
  if RegAddress.firstPaged ≤ reg then page else Page.standard

/-- Stored registers, by page and number. -/
abbrev RegisterFile := Table (Word × RegAddress) Word

/-- The state of one simulated PHY. -/
structure SimulatedPhy where
  /-- The stored registers. -/
  registers : RegisterFile := {}
  /-- The selected page. -/
  page : Word := Page.standard
  /-- Values for the next reads of registers of page `0`. -/
  queued : Table RegAddress (List Word) := {}
  /-- The number of reads for which a soft reset stays visible. -/
  resetLatency : UInt32 := 0
  /-- The number of reads for which a soft reset will yet be visible, once there was one. -/
  pendingReset : Option UInt32 := none
  /-- The registers whose reads fail. -/
  failingReads : List RegAddress := []
  /-- The registers whose writes fail. -/
  failingWrites : List RegAddress := []
  /-- The number of reads after which the reads of a register fail. -/
  readsLeft : Table RegAddress UInt32 := {}
  deriving DecidableEq

namespace SimulatedPhy

/-- The reset latency of a PHY whose resets never end. -/
def neverEnds : UInt32 := 0xFFFFFFFF

/-- Whether a PHY is there at all. -/
def isPresent (p : SimulatedPhy) : Bool := !p.registers.isEmpty

/-! ### Stored registers -/

/-- The value stored for a register of a page. -/
def register? (p : SimulatedPhy) (page : Word) (reg : RegAddress) : Option Word :=
  p.registers.get? (page, reg)

/-- Stores a register of a page. -/
def store (p : SimulatedPhy) (page : Word) (reg : RegAddress) (value : Word) : SimulatedPhy :=
  { p with registers := p.registers.insert (bank page reg, reg) value }

/-- The value stored for a register on the page on which it is found, `0` if there is none. -/
def stored (p : SimulatedPhy) (reg : RegAddress) : Word :=
  (p.register? (bank p.page reg) reg).getD 0

/-! ### Reads -/

/-- The PHY after a read of a register was let through, or nothing if the read fails. -/
def passRead (p : SimulatedPhy) (reg : RegAddress) : Option SimulatedPhy :=
  if reg ∈ p.failingReads then none
  else
    match p.readsLeft.get? reg with
    | none => some p
    | some left =>
      if left = 0 then none
      else some { p with readsLeft := p.readsLeft.insert reg (left - 1) }

/-- The next queued value of a register, which is taken from the queue. -/
def takeQueued (p : SimulatedPhy) (reg : RegAddress) : Option (Word × SimulatedPhy) :=
  if bank p.page reg = Page.standard then
    match p.queued.get? reg with
    | some (value :: rest) => some (value, { p with queued := p.queued.insert reg rest })
    | _ => none
  else none

/-- Basic mode control, in which a pending reset is visible and comes one read closer to its
end. -/
def readControl (p : SimulatedPhy) : Word × SimulatedPhy :=
  let value := p.stored Register.bmcr
  match p.pendingReset with
  | none => (value, p)
  | some left =>
    if left = 0 then (value, p)
    else
      (value ||| Bmcr.reset,
        if left = neverEnds then p else { p with pendingReset := some (left - 1) })

/-- The answer to a read that was let through. -/
def answer (p : SimulatedPhy) (reg : RegAddress) : Word × SimulatedPhy :=
  -- Without a PHY nobody drives the bus, not even for the page select.
  if !p.isPresent then (.idle, p)
  else if reg = Register.pageSelect then (p.page, p)
  else
    match p.takeQueued reg with
    | some taken => taken
    | none => if reg = Register.bmcr then p.readControl else (p.stored reg, p)

/-- A read. -/
def read (p : SimulatedPhy) (reg : RegAddress) : Except BusFault Word × SimulatedPhy :=
  match p.passRead reg with
  | none => (.error .noResponse, p)
  | some p => ((.ok (p.answer reg).1), (p.answer reg).2)

/-! ### Writes -/

/-- The PHY after a write of basic mode control: a reset begins, or a pending one is called off. -/
def writeControl (p : SimulatedPhy) (value : Word) : SimulatedPhy :=
  if value.test Bmcr.reset then
    { p with pendingReset := some p.resetLatency }.store p.page Register.bmcr
      (value.update Bmcr.reset 0)
  else { p with pendingReset := none }.store p.page Register.bmcr value

/-- The PHY after a write that does not fail. -/
def accept (p : SimulatedPhy) (reg : RegAddress) (value : Word) : SimulatedPhy :=
  if reg = Register.pageSelect then { p with page := value }
  else if reg = Register.bmcr then p.writeControl value
  else p.store p.page reg value

/-- A write. -/
def write (p : SimulatedPhy) (reg : RegAddress) (value : Word) :
    Except BusFault Unit × SimulatedPhy :=
  if reg ∈ p.failingWrites then (.error .noResponse, p) else (.ok (), p.accept reg value)

end SimulatedPhy

end EthernetPhy
