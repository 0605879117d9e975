import EthernetPhy.Bus.Board
import EthernetPhy.Bus.Layers
import EthernetPhy.Simulator.Setup
import EthernetPhy.Transceiver.Driver

/-!
# The bench

A `Bench` is a place to try things out: a transceiver with its settings and its record, a second
record for the standard procedures, and a board with simulated PHYs behind a script of overrides.
A `Command` is one thing to do there, and a `Report` is what came of it.
-/

namespace EthernetPhy

/-- The state of the bus of a bench. -/
abbrev BenchBus := Scripted SimulatedBus

/-- A transceiver on a simulated bus. -/
structure Bench where
  /-- Whether the bus refuses addresses that do not fit into a frame. -/
  checked : Bool
  /-- The reset line that each new transceiver gets, if any. -/
  freshLine : Option ResetLine
  /-- The settings of the transceiver. -/
  settings : Settings
  /-- The record of the transceiver. -/
  record : PhyRecord := {}
  /-- The record that the standard procedures work on. -/
  station : PhyRecord := {}
  /-- The bus, the clock and the reset line of the transceiver. -/
  board : Board BenchBus

/-- A change of a record by hand. -/
inductive RecordChange where
  /-- A new record for an address. -/
  | fresh (address : PhyAddress)
  /-- The state at the last look. -/
  | current (state : LinkState)
  /-- The state that was reported last. -/
  | reported (state : LinkState)
  /-- The mode that was decoded last. -/
  | negotiated (mode : Option LinkMode)
  deriving DecidableEq

/-- The record after a change by hand. -/
def PhyRecord.apply (r : PhyRecord) : RecordChange → PhyRecord
  | .fresh address => { address }
  | .current state => { r with current := state }
  | .reported state => { r with reported := state }
  | .negotiated mode => { r with negotiated := mode }

/-- Something to do on a bench. -/
inductive Command where
  /-- Change a simulated PHY from outside. -/
  | setup (phy : PhyAddress) (change : Setup)
  /-- Look at a stored register of a simulated PHY. -/
  | register (phy : PhyAddress) (page : Word) (reg : RegAddress)
  /-- Look at the selected page of a simulated PHY. -/
  | page (phy : PhyAddress)
  /-- List the reads of the simulated bus. -/
  | reads
  /-- List the writes of the simulated bus. -/
  | writes
  /-- Count the reads of one register. -/
  | countReads (phy : PhyAddress) (reg : RegAddress)
  /-- Forget the reads and writes. -/
  | forgetFrames
  /-- Look at the clock, in nanoseconds. -/
  | elapsed
  /-- Look at the clock, in whole milliseconds. -/
  | elapsedMs
  /-- Set the clock back to zero. -/
  | resetClock
  /-- Add overrides to the script. -/
  | script (overrides : List Override)
  /-- Drop the script. -/
  | clearScript
  /-- Access a register, directly or through a bus that was handed on. -/
  | access (borrowed : Bool) (access : Access)
  /-- Access a page. -/
  | paged (phy : PhyAddress) (access : PagedAccess)
  /-- Make nested accesses within a page. -/
  | body (phy : PhyAddress) (page : Word) (body : Body)
  /-- Perform a standard procedure on the second record. -/
  | procedure (procedure : Clause22.Procedure)
  /-- Change the second record by hand. -/
  | change (change : RecordChange)
  /-- Take the change of the link out of the second record. -/
  | takeChange
  /-- Perform an operation of the transceiver. -/
  | operate (operation : Transceiver.Operation)
  /-- Show the settings of the transceiver. -/
  | settings
  /-- Perform an operation on the reset line. -/
  | resetPin (operation : Transceiver.ResetPin.Operation)
  /-- Take the reset line off the transceiver. -/
  | detach
  /-- Start over with a new transceiver. -/
  | renew (settings : Settings)

/-- What a command comes back with. -/
inductive Reply where
  /-- The result of an operation. -/
  | answer (a : Answer)
  /-- An operation failed. -/
  | fault (f : Fault)
  /-- A frame failed. -/
  | busFault (cause : BusFault)
  /-- The outcome of nested accesses, with the values that were read. -/
  | body (outcome : Except BusFault Unit) (values : List Word)
  /-- A stored register, if there is one. -/
  | register (value : Option Word)
  /-- A list of reads. -/
  | reads (l : List (PhyAddress × RegAddress))
  /-- A list of writes. -/
  | writes (l : List (PhyAddress × RegAddress × Word))
  /-- A change of the link, if there was one. -/
  | transition (state : Option LinkState)
  /-- The settings of the transceiver. -/
  | settings (s : Settings)
  /-- The levels that a reset line took. -/
  | levels (l : List Level)
  /-- There is no reset line. -/
  | noLine

/-- What came of a command. -/
structure Report where
  /-- What the command came back with. -/
  reply : Reply
  /-- What reached the outside meanwhile. -/
  events : List Event
  /-- The bench afterwards. -/
  bench : Bench

namespace Reply

/-- The reply that the result of an operation makes. -/
def ofResult : Except Fault Answer → Reply
  | .ok a => answer a
  | .error f => fault f

/-- The reply that the result of an access makes. -/
def ofAccess : Except BusFault (Option Word) → Reply
  | .ok none => answer .done
  | .ok (some value) => answer (.number value.toNat)
  | .error cause => busFault cause

end Reply

end EthernetPhy
