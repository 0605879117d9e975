import EthernetPhy.Bus.Basic
import EthernetPhy.Program.Run

/-!
# The board around a PHY

A `Board` is what a program needs besides a bus: a clock, and perhaps a reset line.  `Bus.machine`
is the machine that runs programs on a bus of a board; log messages leave no trace in its state.

A program changes bits by a read and a write (`BusM.modify`), each of them a request of its own, and
no request is answered by the `Bus.modify` of a bus that does it in one go.  What is proved of programs
on every bus therefore speaks of buses that change bits as they do by default, on which a program does
what the bus itself does (`Bus.IsPlain.run_modify`).
-/

namespace EthernetPhy

/-- The reset line of a PHY, which may fail to take a level. -/
structure ResetLine where
  /-- The line never takes a level. -/
  broken : Bool := false
  /-- Whether the next drives fail before they reach the line, in order. -/
  failures : List Bool := []
  /-- The levels that the line took, newest first. -/
  taken : List Level := []
  deriving DecidableEq

namespace ResetLine

/-- Drives the line: whether it took the level, and the line afterwards. -/
def drive (level : Level) (line : ResetLine) : Bool × ResetLine :=
  let rest := { line with failures := line.failures.tail }
  if line.failures.head? = some true || line.broken then (false, rest)
  else (true, { rest with taken := level :: rest.taken })

/-- The levels that the line took, oldest first. -/
def history (line : ResetLine) : List Level := line.taken.reverse

end ResetLine

/-- A bus with a clock and perhaps a reset line. -/
structure Board (σ : Type) where
  /-- The state of the bus. -/
  bus : σ
  /-- The nanoseconds that programs have waited. -/
  elapsed : Nat := 0
  /-- The reset line, if there is one. -/
  line : Option ResetLine := none

namespace Board

variable {σ : Type}

/-- The board after a wait. -/
def wait (time : Delay) (b : Board σ) : Board σ :=
  { b with elapsed := b.elapsed + time.nanoseconds }

/-- Drives the reset line; without a line no level is taken. -/
def drive (level : Level) (b : Board σ) : Bool × Board σ :=
  match b.line with
  | none => (false, b)
  | some line =>
    match line.drive level with
    | (taken, line) => (taken, { b with line := some line })

end Board

namespace Bus

variable {σ : Type}

/-- The answer of a board to a request. -/
def respond (bus : Bus σ) : (q : Request) → Board σ → q.Answer × Board σ
  | .read phy reg, b =>
    match (bus.read phy reg).run.run b.bus with
    | (answer, s) => (answer, { b with bus := s })
  | .write phy reg value, b =>
    match (bus.write phy reg value).run.run b.bus with
    | (answer, s) => (answer, { b with bus := s })
  | .delay time, b => ((), b.wait time)
  | .drive level, b => b.drive level
  | .log _, b => ((), b)

/-- The machine that a board with this bus is, of which no more than the reads and the writes are
used. -/
def machine (bus : Bus σ) : Machine (Board σ) := ⟨bus.respond⟩

end Bus

end EthernetPhy
