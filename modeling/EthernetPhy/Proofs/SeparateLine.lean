import EthernetPhy.Bus.Board
import EthernetPhy.Proofs.Actions
import EthernetPhy.Proofs.Footprints
import EthernetPhy.Simulator.Setup
import EthernetPhy.Transceiver.Driver

/-!
# The reset line stays apart

A driver with a reset line does everything that the driver inside does, and its line is driven in
between.  The two sides have nothing in common: an operation of the transceiver never drives the line,
and an operation of the line uses neither the bus nor the driver inside.

* `Driver.perform_eq`, `ResetDriver.perform_eq` : what the methods of the two drivers come to;
* `Program.Undriven`, `Program.run_undriven` : a program that does not drive the line does the same on
  two boards that have the same bus, whatever their lines are;
* `Program.run_line` : the levels that a line takes are those of the drives that succeeded, in order;
* `ResetPin.Driven` : the ways in which an operation of the line may go;
* `Turn`, `turns` : a run of a driver, with all that came of each thing that it was asked;
* `turns_separate` : **with the operations of the line left out, a run of a driver with a line is one of
  a driver without**, and the line ends low only after a hold or a pulse that could not be ended.
-/

namespace EthernetPhy

/-- A drive of the reset line. -/
@[simp] def Request.isDrive : Request → Bool
  | drive _ => true
  | _ => false

namespace Event

/-- A drive, and whether the line took the level. -/
abbrev drove (level : Level) (took : Bool) : Event := ⟨.drive level, took⟩

/-- A wait of some microseconds. -/
abbrev paused (us : UInt32) : Event := ⟨.delay (.us us), ()⟩

/-- The level that the line took, if it took one. -/
@[simp] def level? : Event → Option Level
  | ⟨.drive level, took⟩ => if took then some level else none
  | ⟨.read .., _⟩ | ⟨.write .., _⟩ | ⟨.delay _, _⟩ | ⟨.log _, _⟩ => none

end Event

/-- The levels that the line took in some events, in order. -/
def levels (es : List Event) : List Level := es.filterMap Event.level?

theorem levels_eq_nil {es : List Event} (h : ∀ e ∈ es, e.request.isDrive = false) :
    levels es = [] := by
  rw [levels, List.filterMap_eq_nil_iff]
  rintro ⟨q, answer⟩ he
  cases q with
  | drive level => cases h _ he
  | _ => rfl

/-! ### Programs and the line -/

section

variable {σ α : Type} (bus : Bus σ) {p : Program α}

/-- A program that never drives the line. -/
abbrev Program.Undriven (p : Program α) : Prop := p.Asks fun q => q.isDrive = false

/-- But for a drive, a request is answered alike on all boards that have the same bus. -/
theorem Bus.answer_congr {q : Request} (hq : q.isDrive = false) {b b' : Board σ}
    (h : b.bus = b'.bus) :
    (bus.machine.answer q b).1 = (bus.machine.answer q b').1 ∧
      (bus.machine.answer q b).2.bus = (bus.machine.answer q b').2.bus := by
  cases q with
  | drive level => cases hq
  | read phy reg =>
    show (bus.respond _ b).1 = (bus.respond _ b').1 ∧
      (bus.respond _ b).2.bus = (bus.respond _ b').2.bus
    rw [respond, respond, h]
    exact ⟨rfl, rfl⟩
  | write phy reg value =>
    show (bus.respond _ b).1 = (bus.respond _ b').1 ∧
      (bus.respond _ b).2.bus = (bus.respond _ b').2.bus
    rw [respond, respond, h]
    exact ⟨rfl, rfl⟩
  | delay time => exact ⟨rfl, h⟩
  | log message => exact ⟨rfl, h⟩

/-- **A program that does not drive the line does the same whatever the line is**, and at whatever
time it starts. -/
theorem Program.run_undriven (hp : p.Undriven) {b b' : Board σ} (h : b.bus = b'.bus) :
    (p.run bus.machine b).result = (p.run bus.machine b').result ∧
      (p.run bus.machine b).events = (p.run bus.machine b').events ∧
      (p.run bus.machine b).final.bus = (p.run bus.machine b').final.bus :=
  run_simulates (R := fun b b' : Board σ => b.bus = b'.bus) (fun _ hq _ _ => Bus.answer_congr bus hq)
    hp h

/-- A program without frames leaves the bus as it is. -/
theorem Program.run_frameless (hp : p.Asks fun q => q.isFrame = false) (b : Board σ) :
    (p.run bus.machine b).final.bus = b.bus := by
  induction p generalizing b with
  | done a => rfl
  | ask q next ih =>
    have hq : q.isFrame = false := hp.first bus.machine b
    rw [run_ask, ih _ (hp.rest _)]
    cases q with
    | read phy reg => cases hq
    | write phy reg value => cases hq
    | delay time => rfl
    | log message => rfl
    | drive level =>
      show (b.drive level).2.bus = b.bus
      rw [Board.drive]
      cases b.line <;> rfl

/-- A drive that is taken adds the level to those that the line took, and no other request does. -/
theorem Bus.answer_line (q : Request) {b : Board σ} {line : ResetLine} (h : b.line = some line) :
    ∃ line', (bus.machine.answer q b).2.line = some line' ∧
      line'.taken = (Event.level? ⟨q, (bus.machine.answer q b).1⟩).toList ++ line.taken := by
  cases q with
  | drive level =>
    have hdrive : bus.machine.answer (.drive level) b =
        ((line.drive level).1, { b with line := some (line.drive level).2 }) := by
      show b.drive level = _
      rw [Board.drive, h]
    rw [hdrive]
    refine ⟨_, rfl, ?_⟩
    rw [ResetLine.drive]
    split <;> rfl
  | _ => exact ⟨line, h, rfl⟩

/-- **The levels that a line takes during a program are those of the drives that succeeded.** -/
theorem Program.run_line (p : Program α) {b : Board σ} {line : ResetLine} (h : b.line = some line) :
    ∃ line', (p.run bus.machine b).final.line = some line' ∧
      line'.taken = (levels (p.run bus.machine b).events).reverse ++ line.taken := by
  induction p generalizing b line with
  | done a => exact ⟨line, h, rfl⟩
  | ask q next ih =>
    obtain ⟨line', hline', htaken'⟩ := Bus.answer_line bus q h
    obtain ⟨line'', hline'', htaken''⟩ := ih (bus.machine.answer q b).1 hline'
    simp only [run_ask]
    refine ⟨line'', hline'', ?_⟩
    rw [htaken'', htaken', levels, levels, List.filterMap_cons]
    cases Event.level? ⟨q, (bus.machine.answer q b).1⟩ <;> simp

end

open Event RecordM

namespace Transceiver

/-! ### Operations of the line -/

namespace ResetPin

/-- The ways in which an operation of the line may go, with what it comes back with. -/
inductive Driven : Operation → List Event → Except Fault Unit → Prop
  /-- The line was set low. -/
  | held : Driven .hold [drove .low true] (.ok ())
  /-- The line could not be set low. -/
  | notHeld : Driven .hold [drove .low false] (.error .resetLine)
  /-- The line was set high. -/
  | released : Driven .release [drove .high true] (.ok ())
  /-- The line could not be set high. -/
  | notReleased : Driven .release [drove .high false] (.error .resetLine)
  /-- A pulse was given. -/
  | pulsed : Driven .pulse
      [drove .low true, paused 10000, drove .high true, paused 30000] (.ok ())
  /-- A pulse could not be begun. -/
  | notBegun : Driven .pulse [drove .low false] (.error .resetLine)
  /-- A pulse could not be ended. -/
  | notEnded : Driven .pulse [drove .low true, paused 10000, drove .high false] (.error .resetLine)

theorem perform_driven (o : Operation) : o.perform.run.Ensures (Driven o) := by
  cases o with
  | hold =>
    rintro (_ | _)
    · exact .notHeld
    · exact .held
  | release =>
    rintro (_ | _)
    · exact .notReleased
    · exact .released
  | pulse =>
    rintro (_ | _)
    · exact .notBegun
    · rintro ⟨⟩ (_ | _)
      · exact .notEnded
      · exact fun _ => .pulsed

variable {o : Operation} {es : List Event} {result : Except Fault Unit}

theorem Driven.frameless (h : Driven o es result) : ∀ e ∈ es, e.request.isFrame = false := by
  cases h <;> simp

end ResetPin

/-! ### Operations of the transceiver -/

theorem Footprint.Allows.undriven {f : Footprint} {phy : PhyAddress} {q : Request}
    (h : f.Allows phy q) : q.isDrive = false :=
  h.elim (P := fun q => q.isDrive = false) (fun _ _ => rfl) (fun _ _ _ _ => rfl) (fun _ _ => rfl)
    fun _ => rfl

theorem BringUpAllows.undriven {phy : PhyAddress} {q : Request} (h : BringUpAllows phy q) :
    q.isDrive = false := by
  obtain ⟨a, -, rfl | rfl⟩ | hallows | rfl := h
  · rfl
  · rfl
  · exact Footprint.Allows.undriven hallows
  · rfl

/-- **No operation of a transceiver drives the line.** -/
theorem Operation.undriven (settings : Settings) (o : Operation) (r : PhyRecord) :
    ((o.perform settings).runOn r).Undriven := by
  by_cases hup : o = .bringUp
  · subst hup
    exact ensures_return (fun es _ => ∀ e ∈ es, e.request.isDrive = false)
      ((bringUp_ensures_allowed settings r).mono fun _ _ h e he => (h.2 e he).undriven)
  · refine (Operation.ensures_covers settings hup r).mono fun _ _ h e he => ?_
    obtain hallows | hreset := h.1.request he
    · exact Footprint.Allows.undriven hallows
    · rw [hreset]
      rfl

/-! ### Runs, turn by turn -/

/-- The operation of the transceiver that an action is, if it is not one of the line. -/
def Action.operation? : Action → Option Operation
  | .operate o => some o
  | .resetPin _ => none

end Transceiver

open Transceiver

/-! ### The methods of the drivers -/

namespace Part

variable {δ ε : Type} (q : Part δ ε)

/-- A repeated look at the part is a repeated look at the whole. -/
theorem focus_lookWithin (look : DriverM ε (Option LinkMode)) (looks : Nat) :
    q.focus (lookWithin look looks) = lookWithin (q.focus look) looks := by
  induction looks with
  | zero => exact q.focus_pure none
  | succ looks ih =>
    rw [lookWithin, lookWithin, focus_bind]
    congr 1
    funext mode
    cases mode with
    | some mode => exact q.focus_pure (some mode)
    | none => rw [focus_bind, focus_program, ih]

end Part

theorem DriverM.liftM_return {δ α β : Type} (x : PhyM α) (f : α → β) :
    (liftM (do return f (← x) : PhyM β) : DriverM δ β) = do return f (← liftM x) := by
  refine ExceptT.ext (StateT.ext fun d => ?_)
  change (·, d) <$> (do return f (← x) : PhyM β).run = _
  rw [ExceptT.run_bind, map_bind, ExceptT.run_bind, StateT.run_bind]
  change _ = (·, d) <$> x.run >>= _
  rw [bind_map_left]
  congr 1
  funext result
  cases result <;> rfl

namespace Driver

variable {α β : Type}

theorem run_onRecord (x : Settings → RecordM α) (d : Driver) :
    (onRecord x).run.run d =
      (fun out => (out.1, { d with record := out.2 })) <$> (x d.settings).runOn d.record :=
  recordPart.run_focus (x d.settings) d

theorem onRecord_return (x : Settings → RecordM α) (f : α → β) :
    (onRecord fun settings => do return f (← x settings)) = do return f (← onRecord x) := by
  simp only [onRecord, Part.focus_return, bind_assoc]

/-- **The methods of a driver come to the operations of its transceiver.** -/
theorem perform_eq (o : Operation) :
    Driver.perform o = onRecord fun settings => o.perform settings := by
  cases o with
  | address => exact (recordPart.focus_view fun r => Answer.number r.address.toNat).symm
  | bringUp => exact (onRecord_return Transceiver.bringUp fun _ => Answer.done).symm
  | reset => exact (onRecord_return Transceiver.reset fun _ => Answer.done).symm
  | linkIsUp => exact (recordPart.focus_here (Clause22.linkIsUp ·.address) Answer.flag).symm
  | linkMode => exact (recordPart.focus_here (Transceiver.linkMode ·.address) Answer.mode).symm
  | newLink => exact (recordPart.focus_return Transceiver.newLink Answer.mode).symm
  | awaitNewLink timeout =>
    have hwait : PhyDriver.awaitNewLink timeout =
        recordPart.focus (Transceiver.awaitNewLink timeout) :=
      (recordPart.focus_lookWithin Transceiver.newLink (looksFor timeout)).symm
    refine Eq.trans ?_ (recordPart.focus_return (Transceiver.awaitNewLink timeout) Answer.mode).symm
    rw [← hwait]
    rfl
  | settledState => exact (onRecord_return Transceiver.settledState Answer.state).symm
  | negotiated => exact (recordPart.focus_view fun r => Answer.mode r.negotiated).symm
  | negotiate =>
    exact (recordPart.focus_here (Clause22.negotiate ·.address) fun _ => Answer.done).symm
  | forceMode mode =>
    exact (recordPart.focus_here (Clause22.forceMode ·.address mode) fun _ => Answer.done).symm
  | abilities => exact (recordPart.focus_here (Clause22.abilities ·.address) Answer.abilities).symm
  | identifier =>
    exact (recordPart.focus_here (Clause22.identifier ·.address)
      fun id => Answer.number id.toNat).symm
  | negotiationIsComplete =>
    exact (recordPart.focus_here (Clause22.negotiationIsComplete ·.address) Answer.flag).symm
  | partnerAbilities =>
    exact (recordPart.focus_here (Clause22.partnerAbilities ·.address) Answer.abilities).symm
  | isKnown =>
    have hknown : Driver.perform .isKnown =
        (do return .flag (Transceiver.isKnown (← Clause22.identifier (← get).record.address)) :
          DriverM Driver Answer) :=
      congrArg (get >>= ·) (funext fun d => by
        rw [isKnown, DriverM.liftM_return, bind_assoc]
        rfl)
    rw [hknown]
    exact (recordPart.focus_here (Clause22.identifier ·.address)
      fun id => Answer.flag (Transceiver.isKnown id)).symm
  | applySettings | closePage | awaitSpeed | resolvedMode | liveMode | unmaskLinkInterrupt
  | maskInterrupts | pendingInterrupts => rfl

/-- **A driver does what its transceiver does**, and keeps its settings. -/
theorem run_perform (o : Operation) (d : Driver) : (Driver.perform o).run.run d =
    (fun out => (out.1, { d with record := out.2 })) <$>
      (o.perform d.settings).runOn d.record := by
  rw [perform_eq, run_onRecord]

end Driver

namespace ResetDriver

/-- **The methods of a driver with a reset line come to those of the driver inside.** -/
theorem perform_eq (o : Operation) : ResetDriver.perform o = innerPart.focus (Driver.perform o) := by
  cases o with
  | address => exact (innerPart.focus_view fun d => Answer.number (PhyDriver.address d).toNat).symm
  | bringUp => exact (innerPart.focus_return PhyDriver.bringUp fun _ => Answer.done).symm
  | reset => exact (innerPart.focus_return PhyDriver.reset fun _ => Answer.done).symm
  | linkIsUp => exact (innerPart.focus_here PhyDriver.linkIsUp Answer.flag).symm
  | linkMode => exact (innerPart.focus_here PhyDriver.linkMode Answer.mode).symm
  | newLink => exact (innerPart.focus_return PhyDriver.newLink Answer.mode).symm
  | awaitNewLink timeout =>
    have hwait : PhyDriver.awaitNewLink timeout = innerPart.focus (PhyDriver.awaitNewLink timeout) :=
      (innerPart.focus_lookWithin PhyDriver.newLink (looksFor timeout)).symm
    refine Eq.trans ?_ (innerPart.focus_return (PhyDriver.awaitNewLink timeout) Answer.mode).symm
    rw [← hwait]
    rfl
  | settledState => exact (innerPart.focus_return Driver.settledState Answer.state).symm
  | negotiated => exact (innerPart.focus_view fun d => Answer.mode d.negotiated).symm
  | negotiate => exact (innerPart.focus_return PhyDriver.negotiate fun _ => Answer.done).symm
  | forceMode mode =>
    exact (innerPart.focus_return (PhyDriver.forceMode mode) fun _ => Answer.done).symm
  | abilities => exact (innerPart.focus_here PhyDriver.abilities Answer.abilities).symm
  | identifier =>
    exact (innerPart.focus_here PhyDriver.identifier fun id => Answer.number id.toNat).symm
  | negotiationIsComplete =>
    exact (innerPart.focus_here PhyDriver.negotiationIsComplete Answer.flag).symm
  | partnerAbilities =>
    exact (innerPart.focus_here PhyDriver.partnerAbilities Answer.abilities).symm
  | isKnown => exact (innerPart.focus_here Driver.isKnown Answer.flag).symm
  | applySettings | closePage | awaitSpeed | resolvedMode | liveMode | unmaskLinkInterrupt
  | maskInterrupts | pendingInterrupts => rfl

/-- **A driver with a reset line does what the driver inside does.** -/
theorem run_perform (o : Operation) (d : ResetDriver) : (ResetDriver.perform o).run.run d =
    (fun out => (out.1, ⟨out.2⟩)) <$> (Driver.perform o).run.run d.inner := by
  rw [perform_eq, Part.run_focus]
  rfl

/-- What is done to the line leaves the driver inside alone. -/
theorem run_driveReset (o : ResetPin.Operation) (d : ResetDriver) :
    (driveReset o).run.run d =
      (fun result => (result.map fun _ => Answer.done, d)) <$> o.perform.run := by
  have hrun : ∀ x : PhyM Unit, (do x; return Answer.done : DriverM ResetDriver Answer).run.run d =
      (fun result => (result.map fun _ => Answer.done, d)) <$> x.run := fun x => by
    rw [← DriverM.liftM_return x fun _ => Answer.done, bind_pure_comp]
    change (·, d) <$> ((fun _ => Answer.done) <$> x).run = _
    rw [ExceptT.run_map, Functor.map_map]
  cases o with
  | hold => exact hrun ResetPin.hold
  | release => exact hrun ResetPin.release
  | pulse => exact hrun ResetPin.pulse

end ResetDriver

/-! ### Runs, turn by turn -/

/-- Something that a driver was asked, with all that came of it. -/
structure Turn (ι δ : Type) where
  /-- What it was asked. -/
  action : ι
  /-- The driver before it. -/
  before : δ
  /-- The requests with their answers. -/
  events : List Event
  /-- What it came back with. -/
  result : Except Fault Answer
  /-- The driver after it. -/
  after : δ

section

variable {σ ι δ : Type} (m : Machine σ) (perform : ι → DriverM δ Answer)

/-- What a driver does when it is asked something, and the state of the machine afterwards. -/
def turn (d : δ) (s : σ) (a : ι) : Turn ι δ × σ :=
  let out := ((perform a).run.run d).run m s
  (⟨a, d, out.events, out.result.1, out.result.2⟩, out.final)

/-- What a driver does when it is asked one thing after the other, whether they succeed or not, and
the state of the machine afterwards. -/
def turns : List ι → δ → σ → List (Turn ι δ) × σ
  | [], _, s => ([], s)
  | a :: rest, d, s =>
    let t := turn m perform d s a
    let later := turns rest t.1.after t.2
    (t.1 :: later.1, later.2)

variable {m perform}

theorem turns_forall {P : Turn ι δ → Prop}
    (h : ∀ (d : δ) (s : σ) (a : ι), P (turn m perform d s a).1) (actions : List ι) (d : δ) (s : σ) :
    ∀ t ∈ (turns m perform actions d s).1, P t := by
  induction actions generalizing d s with
  | nil => exact List.forall_mem_nil _
  | cons a rest ih => exact List.forall_mem_cons.2 ⟨h d s a, ih _ _⟩

end

namespace ResetDriver

/-- Does what a caller asks of a driver with a reset line. -/
def act : Action → DriverM ResetDriver Answer
  | .operate o => perform o
  | .resetPin o => driveReset o

end ResetDriver

namespace Turn

/-- Whether the line took a level. -/
def tookLevel {ι δ : Type} (t : Turn ι δ) : Bool := !(levels t.events).isEmpty

/-- What the driver inside did in a turn, if it did anything. -/
def inner? : Turn Action ResetDriver → Option (Turn Operation Driver)
  | ⟨.operate o, before, events, result, after⟩ =>
    some ⟨o, before.inner, events, result, after.inner⟩
  | _ => none

variable (t : Turn Action ResetDriver)

/-- The line was set low for good, by a hold or by a pulse that could not be ended. -/
def LeavesLow : Prop :=
  t.action = .resetPin .hold ∧ t.events = [drove .low true] ∨
    t.action = .resetPin .pulse ∧
      t.events = [drove .low true, paused 10000, drove .high false]

/-- The line and the transceiver have nothing to do with each other:

* `undriven` : an operation of the transceiver does not drive the line;
* `frameless` : an operation of the line makes no frame and leaves the driver as it is;
* `pulsed` : a pulse that succeeded is a time low and then a time high;
* `stopped` : one that did not succeed ended with the first drive that failed. -/
structure Separate : Prop where
  undriven : ∀ o, t.action = .operate o → ∀ e ∈ t.events, e.request.isDrive = false
  frameless : ∀ o, t.action = .resetPin o →
    (∀ e ∈ t.events, e.request.isFrame = false) ∧ t.after = t.before
  pulsed : t.action = .resetPin .pulse → ∀ answer, t.result = .ok answer →
    t.events = [drove .low true, paused 10000, drove .high true, paused 30000]
  stopped : t.action = .resetPin .pulse → ∀ e, t.result = .error e → e = .resetLine ∧
    (t.events = [drove .low false] ∨
      t.events = [drove .low true, paused 10000, drove .high false])

end Turn

/-! ### One turn -/

section

variable {σ : Type} (m : Machine σ)

theorem turn_undriven (d : ResetDriver) (s : σ) (o : Operation) :
    ∀ e ∈ (turn m ResetDriver.act d s (.operate o)).1.events, e.request.isDrive = false := by
  have hundriven : ((ResetDriver.perform o).run.run d).Undriven := by
    rw [ResetDriver.run_perform, Driver.run_perform]
    exact .map (.map (o.undriven d.inner.settings d.inner.record))
  exact hundriven.run m s

theorem turn_driven (d : ResetDriver) (s : σ) (o : ResetPin.Operation) :
    let t := (turn m ResetDriver.act d s (.resetPin o)).1
    t.after = t.before ∧
      ∃ result, ResetPin.Driven o t.events result ∧ t.result = result.map fun _ => .done := by
  have hensures : ((ResetDriver.driveReset o).run.run d).Ensures fun es out =>
      out.2 = d ∧ ∃ result, ResetPin.Driven o es result ∧ out.1 = result.map fun _ => .done := by
    rw [ResetDriver.run_driveReset, Program.ensures_map]
    exact (ResetPin.perform_driven o).mono fun es result h => ⟨rfl, result, h, rfl⟩
  exact hensures.run m s

/-- **In one turn the line and the transceiver have nothing to do with each other.** -/
theorem turn_separate (d : ResetDriver) (s : σ) (a : Action) :
    (turn m ResetDriver.act d s a).1.Separate := by
  cases a with
  | operate o =>
    exact
      { undriven := fun _ _ => turn_undriven m d s o
        frameless := nofun
        pulsed := nofun
        stopped := nofun }
  | resetPin o =>
    obtain ⟨hsame, result, hdriven, hresult⟩ := turn_driven m d s o
    refine ⟨nofun, fun _ _ => ⟨hdriven.frameless, hsame⟩, fun hpulse answer hok => ?_,
      fun hpulse e herr => ?_⟩
    · obtain rfl : o = .pulse := Action.resetPin.inj hpulse
      generalize (turn m ResetDriver.act d s (.resetPin .pulse)).1.events = es at hdriven ⊢
      rw [hresult] at hok
      cases hdriven with
      | pulsed => rfl
      | notBegun => cases hok
      | notEnded => cases hok
    · obtain rfl : o = .pulse := Action.resetPin.inj hpulse
      generalize (turn m ResetDriver.act d s (.resetPin .pulse)).1.events = es at hdriven ⊢
      rw [hresult] at herr
      cases hdriven with
      | pulsed => cases herr
      | notBegun => exact ⟨(Except.error.inj herr).symm, .inl rfl⟩
      | notEnded => exact ⟨(Except.error.inj herr).symm, .inr rfl⟩

/-- The last level that the line took in a turn is low if the turn left it low. -/
theorem turn_last_level (d : ResetDriver) (s : σ) (a : Action) :
    let t := (turn m ResetDriver.act d s a).1
    (levels t.events).getLast? = some .low ↔ t.tookLevel = true ∧ t.LeavesLow := by
  cases a with
  | operate o =>
    have hnone := levels_eq_nil (turn_undriven m d s o)
    simp [Turn.tookLevel, hnone]
  | resetPin o =>
    obtain ⟨-, result, hdriven, -⟩ := turn_driven m d s o
    have haction : (turn m ResetDriver.act d s (.resetPin o)).1.action = .resetPin o := rfl
    simp only [Turn.tookLevel, Turn.LeavesLow, haction]
    generalize (turn m ResetDriver.act d s (.resetPin o)).1.events = es at hdriven ⊢
    cases hdriven <;> simp [levels, List.filterMap_cons]

end

/-! ### Runs -/

/-- The last turn of a run in which the line took a level. -/
def lastTaking {ι δ : Type} (ts : List (Turn ι δ)) : Option (Turn ι δ) :=
  ts.reverse.find? Turn.tookLevel

/-- The last level that the line took in some turns is the last one of the last turn in which it took
any. -/
theorem getLast?_levels {ι δ : Type} (ts : List (Turn ι δ)) :
    (ts.flatMap fun t => levels t.events).getLast? =
      (lastTaking ts).bind fun t => (levels t.events).getLast? := by
  rw [List.getLast?_flatMap, lastTaking]
  induction ts.reverse with
  | nil => rfl
  | cons t rest ih =>
    rw [List.findSome?_cons, List.find?_cons, Turn.tookLevel]
    cases hlevels : levels t.events with
    | nil => simpa using ih
    | cons level more => simp [List.getLast?_cons, hlevels]

/-- The last level that the line took in a run is low if the last turn in which it took any left it
low. -/
theorem turns_last_level {σ : Type} (m : Machine σ) (actions : List Action) (d : ResetDriver)
    (s : σ) :
    let ts := (turns m ResetDriver.act actions d s).1
    (ts.flatMap fun t => levels t.events).getLast? = some .low ↔
      ∃ t, lastTaking ts = some t ∧ t.LeavesLow := by
  intro ts
  have hlow : ∀ t ∈ ts,
      (levels t.events).getLast? = some .low ↔ t.tookLevel = true ∧ t.LeavesLow :=
    turns_forall (turn_last_level m) actions d s
  rw [getLast?_levels]
  cases hlast : lastTaking ts with
  | none => simp
  | some t =>
    have ht : t.tookLevel = true := List.find?_some hlast
    have hmem : t ∈ ts := List.mem_reverse.1 (List.mem_of_find?_eq_some hlast)
    rw [Option.bind_some, hlow t hmem]
    constructor
    · rintro ⟨-, hleaves⟩
      exact ⟨t, rfl, hleaves⟩
    · rintro ⟨t', ht', hleaves⟩
      obtain rfl := Option.some.inj ht'
      exact ⟨ht, hleaves⟩

section

variable {σ : Type} (bus : Bus σ)

/-- **A driver with a line does an operation as the driver inside does it**, on a board with the same
bus. -/
theorem turn_inner (d : ResetDriver) {b b' : Board σ} (hbus : b.bus = b'.bus) (o : Operation) :
    let t := turn bus.machine ResetDriver.act d b (.operate o)
    let t' := turn bus.machine Driver.perform d.inner b' o
    t.1.inner? = some t'.1 ∧ t.1.after.inner = t'.1.after ∧ t.2.bus = t'.2.bus := by
  have hundriven : ((Driver.perform o).run.run d.inner).Undriven := by
    rw [Driver.run_perform]
    exact .map (o.undriven d.inner.settings d.inner.record)
  obtain ⟨hresult, hevents, hfinal⟩ := Program.run_undriven bus hundriven hbus
  have hrun : ((ResetDriver.act (.operate o)).run.run d).run bus.machine b =
      let out := ((Driver.perform o).run.run d.inner).run bus.machine b
      ⟨(out.result.1, ⟨out.result.2⟩), out.events, out.final⟩ := by
    rw [ResetDriver.act, ResetDriver.run_perform, Program.run_map]
  simp only [turn, hrun, Turn.inner?]
  rw [hresult, hevents]
  exact ⟨rfl, rfl, hfinal⟩

/-- An operation of the line changes neither the driver nor the bus. -/
theorem turn_resetPin (d : ResetDriver) (b : Board σ) (o : ResetPin.Operation) :
    let t := turn bus.machine ResetDriver.act d b (.resetPin o)
    t.1.inner? = none ∧ t.1.after = d ∧ t.2.bus = b.bus := by
  refine ⟨rfl, (turn_driven bus.machine d b o).1, ?_⟩
  refine Program.run_frameless bus ?_ b
  rw [ResetDriver.act, ResetDriver.run_driveReset]
  exact .map ((ResetPin.perform_driven o).mono fun _ _ h => h.frameless)

/-- **The operations of the transceiver in a run go as they do without those of the line.** -/
theorem turns_operations (actions : List Action) {d : ResetDriver} {b b' : Board σ}
    (hbus : b.bus = b'.bus) :
    let out := turns bus.machine ResetDriver.act actions d b
    let plain := turns bus.machine Driver.perform (actions.filterMap Action.operation?) d.inner b'
    out.1.filterMap Turn.inner? = plain.1 ∧ out.2.bus = plain.2.bus := by
  induction actions generalizing d b b' with
  | nil => exact ⟨rfl, hbus⟩
  | cons a rest ih =>
    cases a with
    | operate o =>
      obtain ⟨hturn, hafter, hbus'⟩ := turn_inner bus d hbus o
      obtain ⟨hturns, hfinal⟩ := ih hbus'
      rw [hafter] at hturns hfinal
      simp only [turns, List.filterMap_cons, hturn, Action.operation?]
      exact ⟨congrArg _ hturns, hfinal⟩
    | resetPin o =>
      obtain ⟨hturn, hafter, hbus'⟩ := turn_resetPin bus d b o
      obtain ⟨hturns, hfinal⟩ := ih (d := d) (hbus'.trans hbus)
      simp only [turns, List.filterMap_cons, hturn, Action.operation?, hafter]
      exact ⟨hturns, hfinal⟩

/-- The line ends with the levels that it took in the turns of a run. -/
theorem turns_line (actions : List Action) (d : ResetDriver) {b : Board σ} {line : ResetLine}
    (h : b.line = some line) :
    let out := turns bus.machine ResetDriver.act actions d b
    ∃ line', out.2.line = some line' ∧
      line'.taken = (out.1.flatMap fun t => levels t.events).reverse ++ line.taken := by
  induction actions generalizing d b line with
  | nil => exact ⟨line, h, rfl⟩
  | cons a rest ih =>
    obtain ⟨line', hline', htaken'⟩ :=
      Program.run_line bus ((ResetDriver.act a).run.run d) h
    obtain ⟨line'', hline'', htaken''⟩ :=
      ih (turn bus.machine ResetDriver.act d b a).1.after (b := (turn bus.machine _ d b a).2) hline'
    refine ⟨line'', hline'', ?_⟩
    rw [htaken'', htaken']
    simp only [turns, turn, List.flatMap_cons, List.reverse_append, List.append_assoc]

/-- The line of a new driver is not low, and nothing else has happened. -/
theorem new_line (settings : Settings) (s : σ) (broken : Bool) (failures : List Bool) :
    let b := ((ResetDriver.new settings).run bus.machine
      { bus := s, line := some { broken, failures } }).final
    b.bus = s ∧ ∃ line, b.line = some line ∧ line.taken.head? ≠ some .low := by
  have hframeless : (ResetDriver.new settings).Asks fun q => q.isFrame = false :=
    .ask rfl fun _ => .done
  have hhigh : (ResetDriver.new settings).Ensures fun es _ =>
      levels es = [] ∨ levels es = [.high] := by
    rintro (_ | _)
    · exact .inl rfl
    · exact .inr rfl
  refine ⟨Program.run_frameless bus hframeless _, ?_⟩
  obtain ⟨line, hline, htaken⟩ := Program.run_line bus (ResetDriver.new settings)
    (b := { bus := s, line := some { broken, failures } }) rfl
  refine ⟨line, hline, ?_⟩
  obtain hnone | hone := hhigh.run bus.machine { bus := s, line := some { broken, failures } }
  · rw [htaken, hnone]
    exact nofun
  · rw [htaken, hone]
    exact nofun

/-- A pulse whose release fails leaves the line low until the line is released; the driver inside does
not notice. -/
example :
    let b : Board SimulatedBus :=
      { bus := SimulatedBus.apply {} 0 .powerUp
        line := some { failures := [false, false, true] } }
    let start := (ResetDriver.new {}).run SimulatedBus.bus.machine b
    let taken (actions : List Action) :=
      (turns SimulatedBus.bus.machine ResetDriver.act actions start.result start.final).2.line.map
        ResetLine.taken
    taken [.resetPin .pulse, .operate .bringUp] = some [.low, .high] ∧
      taken [.resetPin .pulse, .operate .bringUp, .resetPin .release] =
        some [.high, .low, .high] := by
  decide +kernel

end

end EthernetPhy
