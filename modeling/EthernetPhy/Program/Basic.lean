import EthernetPhy.Fault
import EthernetPhy.Message
import EthernetPhy.Record

/-!
# Programs that talk to the outside

An operation on a PHY never touches hardware.  It is a `Program`: a tree that asks one `Request`
at a time of its surroundings, namely a management frame, a delay, a level of the reset line or a
log message, and goes on with the answer.  What a program does on *every* bus can be read off the
tree; what it does on one bus is `Program.run` in `EthernetPhy.Program.Run`.

Operations are written in these monads over `Program`:

* `BusM` may fail with a `BusFault`;
* `PhyM` may fail with a `Fault`; a bus fault enters it as `Fault.bus`;
* `DriverM` may also change a state, and what it has changed stays changed if it fails; the state of
  `RecordM` is a `PhyRecord`.
-/

namespace EthernetPhy

/-- A time for which a program waits. -/
inductive Delay where
  /-- Milliseconds. -/
  | ms (n : UInt32)
  /-- Microseconds. -/
  | us (n : UInt32)
  deriving DecidableEq

/-- The length of a delay in nanoseconds. -/
def Delay.nanoseconds : Delay → Nat
  | ms n => n.toNat * 1000000
  | us n => n.toNat * 1000

/-- Level of the reset line, which holds the PHY in reset while it is low. -/
inductive Level where
  /-- The PHY is held in reset. -/
  | low
  /-- The PHY runs. -/
  | high
  deriving DecidableEq

/-- What a program asks of its surroundings. -/
inductive Request where
  /-- Read a register. -/
  | read (phy : PhyAddress) (reg : RegAddress)
  /-- Write a register. -/
  | write (phy : PhyAddress) (reg : RegAddress) (value : Word)
  /-- Wait. -/
  | delay (time : Delay)
  /-- Drive the reset line. -/
  | drive (level : Level)
  /-- Log a message. -/
  | log (message : Message)
  deriving DecidableEq

/-- The answer that a request expects; to `drive` it is whether the line took the level. -/
abbrev Request.Answer : Request → Type
  | read .. => Except BusFault Word
  | write .. => Except BusFault Unit
  | drive _ => Bool
  | delay _ | log _ => Unit

/-- A computation that asks requests until it is done. -/
inductive Program (α : Type) where
  /-- The end, with a result. -/
  | done (result : α)
  /-- A request, and what to do with its answer. -/
  | ask (request : Request) (next : request.Answer → Program α)

namespace Program

variable {α β γ : Type}

/-- Runs one program and then a second one that depends on the result of the first. -/
protected def bind : Program α → (α → Program β) → Program β
  | done a, f => f a
  | ask q next, f => ask q fun answer => (next answer).bind f

instance : Monad Program where
  pure := done
  bind := Program.bind

@[simp] theorem pure_eq (a : α) : (pure a : Program α) = done a := rfl

@[simp] theorem done_bind (a : α) (f : α → Program β) : (done a >>= f) = f a := rfl

@[simp] theorem ask_bind (q : Request) (next : q.Answer → Program α) (f : α → Program β) :
    (ask q next >>= f) = ask q fun answer => next answer >>= f := rfl

theorem bind_done (p : Program α) : (p >>= done) = p := by
  induction p with
  | done a => rfl
  | ask q next ih => rw [ask_bind]; congr 1; funext answer; exact ih answer

theorem bind_bind (p : Program α) (f : α → Program β) (g : β → Program γ) :
    (p >>= f >>= g) = p >>= fun a => f a >>= g := by
  induction p with
  | done a => rfl
  | ask q next ih => simp only [ask_bind]; congr 1; funext answer; exact ih answer

instance : LawfulMonad Program :=
  LawfulMonad.mk' Program (fun p => bind_done p) (fun _ _ => rfl) bind_bind

/-! ### Requests as programs -/

/-- Waits for a time. -/
def wait (time : Delay) : Program Unit := ask (.delay time) done

/-- Waits for a number of milliseconds. -/
def sleep (ms : UInt32) : Program Unit := wait (.ms ms)

/-- Logs a message. -/
def log (message : Message) : Program Unit := ask (.log message) done

/-- Drives the reset line; the result is whether the line took the level. -/
def drive (level : Level) : Program Bool := ask (.drive level) done

end Program

/-! ### Programs that may fail -/

/-- Programs that a failed frame may end. -/
abbrev BusM := ExceptT BusFault Program

/-- Programs that a fault may end. -/
abbrev PhyM := ExceptT Fault Program

/-- Programs that a fault may end and that keep a state. -/
abbrev DriverM (δ : Type) := ExceptT Fault (StateT δ Program)

/-- Programs that a fault may end and that keep a PHY record. -/
abbrev RecordM := DriverM PhyRecord

/-- A failed frame ends an operation with that bus fault as the cause. -/
instance (priority := low) : MonadLift BusM PhyM where
  monadLift x := ExceptT.mk ((·.mapError Fault.bus) <$> x.run)

/-- An operation without a state leaves the state as it is. -/
instance (priority := low) {δ : Type} : MonadLift PhyM (DriverM δ) where
  monadLift x := ExceptT.mk (StateT.lift x.run)

/-- The program that an operation is when it starts with a given record: it ends with the result of
the operation and the record afterwards. -/
def RecordM.runOn {α : Type} (x : RecordM α) (r : PhyRecord) :
    Program (Except Fault α × PhyRecord) :=
  x.run.run r

namespace BusM

/-- Reads a register. -/
def read (phy : PhyAddress) (reg : RegAddress) : BusM Word :=
  ExceptT.mk (.ask (.read phy reg) .done)

/-- Writes a register. -/
def write (phy : PhyAddress) (reg : RegAddress) (value : Word) : BusM Unit :=
  ExceptT.mk (.ask (.write phy reg value) .done)

/-- Reads a register and writes it back with some bits cleared and then some bits set, which is what
buses do by default. -/
def modify (phy : PhyAddress) (reg : RegAddress) (clear set : Word) : BusM Unit := do
  let value ← read phy reg
  write phy reg (value.update clear set)

end BusM

end EthernetPhy
