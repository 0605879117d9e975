import EthernetPhy.Bench.Basic

/-!
# Commands on a bench

`Bench.step` does one command, `Bench.start` sets up a bench with its first transceiver, and
`Bench.runAll` does a list of commands.
-/

namespace EthernetPhy

namespace Bench

variable {α : Type}

/-- The bus of a bench: the script comes before the simulated PHYs, and the check of addresses, if
there is one, comes before the script. -/
def bus (b : Bench) : Bus BenchBus :=
  if b.checked then SimulatedBus.bus.scripted.checked else SimulatedBus.bus.scripted

/-- Runs a program on the board of a bench. -/
def run (b : Bench) (p : Program α) : Outcome (Board BenchBus) α := p.run b.bus.machine b.board

/-- The simulated bus of a bench. -/
def simulated (b : Bench) : SimulatedBus := b.board.bus.inner

/-- The bench after a change of its simulated bus. -/
def withSimulated (b : Bench) (s : SimulatedBus) : Bench :=
  { b with board.bus.inner := s }

/-- The report of a command that does nothing outside and leaves the bench as it is. -/
def quiet (b : Bench) (reply : Reply) : Report := ⟨reply, [], b⟩

/-- The report of a program that uses neither record. -/
def report (b : Bench) (p : Program α) (reply : α → Reply) : Report :=
  let out := b.run p
  ⟨reply out.result, out.events, { b with board := out.final }⟩

/-- Makes one access on the bus of a bench. -/
def access (b : Bench) (borrowed : Bool) (a : Access) : Report :=
  let bus := if borrowed then b.bus.recorded.borrow else b.bus.recorded
  match (bus.access a).run.run { inner := b.board.bus } with
  | (result, s) => ⟨.ofAccess result, s.earlier.reverse, { b with board.bus := s.inner }⟩

/-- Performs a standard procedure on the second record. -/
def perform (b : Bench) (p : Clause22.Procedure) : Report :=
  let out := b.run (p.perform.runOn b.station)
  ⟨.ofResult out.result.1, out.events, { b with station := out.result.2, board := out.final }⟩

/-- The driver of the transceiver. -/
def driver (b : Bench) : Driver := ⟨b.settings, b.record⟩

/-- The bench with another driver of the transceiver. -/
def withDriver (b : Bench) (d : Driver) : Bench :=
  { b with settings := d.settings, record := d.record }

/-- Does something with the driver of a transceiver without a reset line. -/
def runDriver (b : Bench) (x : DriverM Driver Answer) : Report :=
  let out := b.run (x.run.run b.driver)
  ⟨.ofResult out.result.1, out.events, { b with board := out.final }.withDriver out.result.2⟩

/-- Does something with the driver of a transceiver with a reset line. -/
def runResetDriver (b : Bench) (x : DriverM ResetDriver Answer) : Report :=
  let out := b.run (x.run.run ⟨b.driver⟩)
  ⟨.ofResult out.result.1, out.events, { b with board := out.final }.withDriver out.result.2.inner⟩

/-- Performs an operation of the transceiver. -/
def operate (b : Bench) (o : Transceiver.Operation) : Report :=
  match b.board.line with
  | none => b.runDriver (Driver.perform o)
  | some _ => b.runResetDriver (ResetDriver.perform o)

/-- Puts a new transceiver on the bench, which takes over a new reset line if there is one. -/
def renew (b : Bench) (settings : Settings) : Report :=
  let b := { b with settings, record := {}, board.line := b.freshLine }
  match b.freshLine with
  | none => b.quiet (.answer .done)
  | some _ =>
    let out := b.run (ResetDriver.new settings)
    ⟨.answer .done, out.events, { b with board := out.final }.withDriver out.result.inner⟩

/-- Performs an operation on the reset line. -/
def driveReset (b : Bench) (o : Transceiver.ResetPin.Operation) : Report :=
  match b.board.line with
  | none => b.quiet .noLine
  | some _ => b.runResetDriver (ResetDriver.driveReset o)

/-- Takes the reset line off the transceiver, which starts over without one. -/
def detach (b : Bench) : Report :=
  match b.board.line with
  | none => b.quiet .noLine
  | some line => quiet { b with record := {}, board.line := none } (.levels line.history)

/-- Does one command. -/
def step (b : Bench) : Command → Report
  | .setup phy change => quiet (b.withSimulated (b.simulated.apply phy change)) (.answer .done)
  | .register phy page reg => b.quiet (.register ((b.simulated.phy phy).register? page reg))
  | .page phy => b.quiet (.answer (.number (b.simulated.phy phy).page.toNat))
  | .reads => b.quiet (.reads b.simulated.reads)
  | .writes => b.quiet (.writes b.simulated.writes)
  | .countReads phy reg => b.quiet (.answer (.number (b.simulated.countReads phy reg)))
  | .forgetFrames => quiet (b.withSimulated b.simulated.forgetFrames) (.answer .done)
  | .elapsed => b.quiet (.answer (.number b.board.elapsed))
  | .elapsedMs => b.quiet (.answer (.number (b.board.elapsed / 1000000)))
  | .resetClock => quiet { b with board.elapsed := 0 } (.answer .done)
  | .script overrides =>
    quiet { b with board.bus.overrides := b.board.bus.overrides ++ overrides } (.answer .done)
  | .clearScript => quiet { b with board.bus.overrides := [] } (.answer .done)
  | .access borrowed a => b.access borrowed a
  | .paged phy a => b.report (a.perform phy).run .ofAccess
  | .body phy page body =>
    b.report ((withinPage phy page (body.perform phy)).run.run []) fun result =>
      .body result.1 result.2.reverse
  | .procedure p => b.perform p
  | .change c => quiet { b with station := b.station.apply c } (.answer .done)
  | .takeChange =>
    let taken := b.station.takeChange
    quiet { b with station := taken.2 } (.transition taken.1)
  | .operate o => b.operate o
  | .settings => b.quiet (.settings b.settings)
  | .resetPin o => b.driveReset o
  | .detach => b.detach
  | .renew settings => b.renew settings

/-- A bench with its first transceiver, and what putting it there did. -/
def start (checked : Bool) (line : Option ResetLine) (settings : Settings) : Report :=
  renew { checked, freshLine := line, settings, board := { bus := { inner := {} } } } settings

/-- Does a list of commands; the reports are in the order of the commands. -/
def runAll (b : Bench) : List Command → List Report
  | [] => []
  | c :: rest =>
    let r := b.step c
    r :: r.bench.runAll rest

end Bench

end EthernetPhy
