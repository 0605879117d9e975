import EthernetPhy.Proofs.UpdatesInOrder
import EthernetPhy.Proofs.Waits
import EthernetPhy.Simulator.Setup

/-!
# Budgets

Whatever the hardware answers, an operation of this library ends after a bounded number of frames and
a bounded time of waiting.  The bounds come from the shape of the operations: a sequence spends what
its parts spend, and a loop that much in each of its rounds.

* `Program.Spends n t p` : **however its requests are answered, `p` ends after at most `n` frames and
  `t` milliseconds of waiting**, with one rule for each way to put programs together;
* `bringUp_spends`, `settledState_spends` : the bounds of the two long operations, from those of their
  parts;
* `run_within_budget` : the same for their runs, on every machine.

The bounds are natural numbers, so nothing wraps around near the largest values of the settings.
-/

namespace EthernetPhy

open Event

variable {α β : Type} {n k t u : Nat}

/-! ### Programs -/

namespace Program

variable {p : Program α}

/-- However its requests are answered, a program ends after at most `n` frames and `t` milliseconds of
waiting. -/
def Spends (n t : Nat) (p : Program α) : Prop :=
  p.Ensures fun es _ => (frames es).length ≤ n ∧ waited es ≤ t * 1000000

theorem Spends.mono (h : p.Spends n t) (hn : n ≤ k) (ht : t ≤ u) : p.Spends k u :=
  Ensures.mono h fun _ _ hes =>
    ⟨Nat.le_trans hes.1 hn, Nat.le_trans hes.2 (Nat.mul_le_mul_right _ ht)⟩

theorem spends_done {a : α} : (done a).Spends n t := ⟨Nat.zero_le _, Nat.zero_le _⟩

theorem Spends.bind {f : α → Program β} (hp : p.Spends n t) (hf : ∀ a, (f a).Spends k u) :
    (p >>= f).Spends (n + k) (t + u) := by
  refine Ensures.bind hp fun es a h => Ensures.mono (hf a) fun es' b h' => ⟨?_, ?_⟩
  · rw [frames_append, List.length_append]
    exact Nat.add_le_add h.1 h'.1
  · rw [waited_append, Nat.add_mul]
    exact Nat.add_le_add h.2 h'.2

theorem Spends.map {f : α → β} (hp : p.Spends n t) : (f <$> p).Spends n t := ensures_map.2 hp

theorem spends_ask_frame {q : Request} {next : q.Answer → Program α} (hq : q.isFrame = true)
    (h : ∀ answer, (next answer).Spends n t) : (ask q next).Spends (n + 1) t := by
  refine fun answer => Ensures.mono (h answer) fun es a hes => ⟨?_, ?_⟩
  · rw [frames_cons, if_pos hq]
    exact Nat.succ_le_succ hes.1
  · have htime : q.nanoseconds = 0 := by cases q <;> first | rfl | cases hq
    rw [waited_cons, htime, Nat.zero_add]
    exact hes.2

theorem spends_log {message : Message} : (log message).Spends 0 0 :=
  fun _ => ⟨Nat.zero_le _, Nat.zero_le _⟩

theorem spends_sleep {duration : UInt32} : (sleep duration).Spends 0 duration.toNat := by
  refine fun _ => ⟨Nat.le_refl _, Nat.le_of_eq ?_⟩
  rw [waited_cons, waited_nil, Nat.add_zero, Request.nanoseconds, Delay.nanoseconds]

theorem spends_run_bind {ε : Type} {x : ExceptT ε Program α} {f : α → ExceptT ε Program β}
    (hx : x.run.Spends n t) (hf : ∀ a, (f a).run.Spends k u) :
    (x >>= f).run.Spends (n + k) (t + u) := by
  rw [ExceptT.run_bind]
  refine hx.bind fun result => ?_
  cases result with
  | error e => exact spends_done
  | ok a => exact hf a

end Program

open Program

/-! ### Operations on the bus -/

namespace BusM

variable {phy : PhyAddress} {reg : RegAddress}

theorem spends_read : (read phy reg).run.Spends 1 0 := spends_ask_frame rfl fun _ => spends_done

theorem spends_write {value : Word} : (write phy reg value).run.Spends 1 0 :=
  spends_ask_frame rfl fun _ => spends_done

theorem spends_modify {clear set : Word} : (modify phy reg clear set).run.Spends 2 0 :=
  spends_run_bind spends_read fun _ => spends_write

theorem spends_withinPage {page : Word} {body : BusM α} (h : body.run.Spends n t) :
    (withinPage phy page body).run.Spends (n + 2) t := by
  rw [run_withinPage]
  refine spends_ask_frame rfl fun selected => ?_
  cases selected with
  | error c => exact spends_done
  | ok => exact h.bind (k := 1) (u := 0) fun result => spends_ask_frame rfl fun _ => spends_done

theorem spends_whenSet {setting : Option α} {act : α → BusM Unit}
    (h : ∀ value, (act value).run.Spends n t) :
    (Transceiver.whenSet setting act).run.Spends n t := by
  cases setting with
  | none => exact spends_done
  | some value => exact h value

end BusM

namespace PhyM

/-- At most so many frames and so many milliseconds of waiting. -/
def Spends (n t : Nat) (x : PhyM α) : Prop := x.run.Spends n t

variable {x : PhyM α}

theorem Spends.mono (h : Spends n t x) (hn : n ≤ k) (ht : t ≤ u) : Spends k u x :=
  Program.Spends.mono h hn ht

theorem spends_pure {a : α} : Spends n t (pure a : PhyM α) := spends_done

theorem spends_bind {f : α → PhyM β} (hx : Spends n t x) (hf : ∀ a, Spends k u (f a)) :
    Spends (n + k) (t + u) (x >>= f) :=
  spends_run_bind hx hf

theorem spends_bus {y : BusM α} (h : y.run.Spends n t) : Spends n t (liftM y : PhyM α) := by
  rw [Spends, run_liftM_bus]
  exact h.map

theorem spends_program {y : Program α} (h : y.Spends n t) : Spends n t (liftM y : PhyM α) := by
  rw [Spends, run_liftM_program]
  exact h.map

end PhyM

/-! ### Operations with a record -/

namespace RecordM

/-- At most so many frames and so many milliseconds of waiting, from every record. -/
def Spends (n t : Nat) (x : RecordM α) : Prop := ∀ r, (x.runOn r).Spends n t

variable {x : RecordM α}

theorem Spends.mono (h : Spends n t x) (hn : n ≤ k) (ht : t ≤ u) : Spends k u x :=
  fun r => (h r).mono hn ht

theorem spends_pure {a : α} : Spends n t (pure a : RecordM α) := fun _ => spends_done

theorem spends_throw {e : Fault} : Spends n t (throw e : RecordM α) := fun _ => spends_done

theorem spends_modify {g : PhyRecord → PhyRecord} : Spends n t (modify g : RecordM Unit) :=
  fun _ => spends_done

theorem spends_bind {f : α → RecordM β} (hx : Spends n t x) (hf : ∀ a, Spends k u (f a)) :
    Spends (n + k) (t + u) (x >>= f) := by
  intro r
  rw [runOn_bind]
  refine (hx r).bind fun out => ?_
  obtain ⟨e | a, r'⟩ := out
  · exact spends_done
  · exact hf a r'

theorem spends_get_bind {f : PhyRecord → RecordM α} (hf : ∀ r, Spends n t (f r)) :
    Spends n t (get >>= f) := by
  intro r
  rw [runOn_get_bind]
  exact hf r r

theorem spends_modify_bind {g : PhyRecord → PhyRecord} {f : Unit → RecordM α}
    (hf : Spends n t (f ())) : Spends n t (modify g >>= f) := by
  intro r
  rw [runOn_bind]
  exact hf (g r)

theorem spends_program {y : Program α} (h : y.Spends n t) : Spends n t (liftM y : RecordM α) := by
  intro r
  rw [runOn_liftM_program]
  exact h.map

theorem spends_log_bind {message : Message} {f : Unit → RecordM α} (hf : Spends n t (f ())) :
    Spends n t (liftM (Program.log message) >>= f) :=
  Spends.mono (spends_bind (spends_program spends_log) fun _ => hf) (by omega) (by omega)

theorem spends_giveUp {message : Message} {g : PhyRecord → PhyRecord} {e : Fault} :
    Spends n t (do
      Program.log message
      modify g
      throw e : RecordM α) :=
  spends_log_bind (spends_modify_bind spends_throw)

theorem spends_tryCatch {handle : Fault → RecordM α} (hx : Spends n t x)
    (hhandle : ∀ e, Spends k u (handle e)) :
    Spends (n + k) (t + u) (tryCatch x handle) := by
  intro r
  rw [runOn_tryCatch]
  refine (hx r).bind fun out => ?_
  obtain ⟨e | a, r'⟩ := out
  · exact hhandle e r'
  · exact spends_done

theorem spends_phy {y : PhyM α} (h : PhyM.Spends n t y) : Spends n t (liftM y : RecordM α) := by
  intro r
  rw [runOn_liftM_phy]
  exact Program.Spends.map h

theorem spends_read {phy : PhyAddress} {reg : RegAddress} :
    Spends 1 0 (liftM (BusM.read phy reg) : RecordM Word) := by
  intro r
  rw [runOn_liftM_bus]
  exact BusM.spends_read.map

/-- A wait for a register has one delay and one frame in each round; its ends have no frames. -/
theorem lookOut_spends {interval : UInt32} {phy : PhyAddress} {reg : RegAddress}
    {test : Word → Bool} {found : Word → RecordM Unit} {ranOut : RecordM Unit}
    (hfound : ∀ v, Spends 0 t (found v)) (hout : Spends 0 t ranOut) (looks : Nat) :
    Spends looks (looks * interval.toNat + t)
      (lookOut interval phy reg test found ranOut looks) := by
  induction looks with
  | zero => exact hout.mono (Nat.le_refl _) (Nat.le_add_left ..)
  | succ looks ih =>
    rw [lookOut, Nat.succ_mul]
    refine Spends.mono (spends_bind (spends_program spends_sleep) fun _ => spends_bind (k := looks)
      (u := looks * interval.toNat + t) spends_read fun v => ?_) (by omega) (by omega)
    split
    · exact (hfound v).mono (Nat.zero_le _) (Nat.le_add_left ..)
    · exact ih

end RecordM

/-! ### Bringing up -/

namespace Clause22

/-- A sweep asks each address twice at most. -/
theorem sweep_spends (phys : List PhyAddress) : (sweep phys).Spends (2 * phys.length) 0 := by
  induction phys with
  | nil => exact spends_done
  | cons phy rest ih =>
    have hprobe : (probe phy).run.Spends 2 0 :=
      spends_run_bind (n := 1) (k := 1) (u := 0) BusM.spends_read fun _ =>
        spends_run_bind (n := 1) (k := 0) (u := 0) BusM.spends_read fun _ => spends_done
    rw [sweep, List.length_cons, Nat.mul_succ, Nat.add_comm]
    refine hprobe.bind (u := 0) fun result => ?_
    split
    · exact spends_done
    · exact ih
    · exact ih

theorem discover_spends : RecordM.Spends 64 0 discover := by
  refine RecordM.Spends.mono (RecordM.spends_bind (k := 0) (u := 0)
    (RecordM.spends_program (sweep_spends PhyAddress.all)) fun found => ?_) (by decide) (by decide)
  cases found with
  | none => exact RecordM.spends_log_bind RecordM.spends_throw
  | some found => exact RecordM.spends_modify_bind (RecordM.spends_program spends_log)

open PhyM

theorem awaitReset_spends (phy : PhyAddress) (looks : Nat) :
    PhyM.Spends looks looks (awaitReset phy looks) := by
  induction looks with
  | zero => exact spends_bind (u := 0) (k := 0) (spends_program spends_log) fun _ => spends_done
  | succ looks ih =>
    rw [awaitReset]
    refine PhyM.Spends.mono (spends_bind (k := looks) (u := 1 + looks) (spends_bus BusM.spends_read)
      fun control => ?_) (by omega) (by omega)
    split
    · exact (spends_bind (spends_program spends_sleep) fun _ => ih).mono (by omega) (Nat.le_refl _)
    · exact spends_pure

theorem reset_spends (phy : PhyAddress) (polls : UInt32) :
    PhyM.Spends (polls.toNat + 2) (polls.toNat + 1) (reset phy polls) :=
  (spends_bind (spends_bus BusM.spends_write) fun _ => awaitReset_spends phy _).mono
    (by omega) (by omega)

theorem negotiate_spends (phy : PhyAddress) : PhyM.Spends 7 0 (negotiate phy) := by
  have hable : PhyM.Spends 1 0 (requireAbility phy) := by
    refine spends_bind (k := 0) (u := 0) (spends_bus BusM.spends_read) fun status => ?_
    split
    · exact spends_pure
    · exact spends_bind (k := 0) (u := 0) (spends_program spends_log) fun _ => spends_done
  rw [negotiate_eq]
  exact spends_bind hable fun _ => spends_bind (spends_bus BusM.spends_modify) fun _ =>
    spends_bind (spends_bus BusM.spends_modify) fun _ => spends_bus BusM.spends_modify

end Clause22

namespace Transceiver

open PhyM BusM in
/-- Six frames for the clock delays, three for LED control and four for each of the others. -/
theorem writeSettings_spends (settings : Settings) (phy : PhyAddress) :
    PhyM.Spends 17 0 (writeSettings settings phy) :=
  spends_bind (spends_bus (spends_withinPage (spends_run_bind spends_modify fun _ =>
      spends_modify))) fun _ =>
    spends_bind (spends_program spends_log) fun _ =>
    spends_bind (spends_bus (spends_whenSet fun _ => spends_withinPage spends_write)) fun _ =>
    spends_bind (spends_bus (spends_whenSet fun _ => spends_withinPage spends_modify)) fun _ =>
    spends_bus (spends_whenSet fun _ => spends_withinPage spends_modify)

theorem applySettings_spends (settings : Settings) (phy : PhyAddress) :
    PhyM.Spends 25 0 (applySettings settings phy) := by
  rw [PhyM.Spends, run_applySettings, configure_eq]
  exact spends_ask_frame rfl fun _ =>
    PhyM.spends_bind (writeSettings_spends settings phy) fun _ => Clause22.negotiate_spends phy

open RecordM

/-- **A bring-up** asks each address of the bus twice, looks at the reset as often as it may, and makes
all updates of the settings, at most. -/
theorem bringUp_spends (settings : Settings) :
    RecordM.Spends (settings.resetPolls.toNat + 91) (settings.resetPolls.toNat + 1)
      (bringUp settings) := by
  have hreset : RecordM.Spends (settings.resetPolls.toNat + 2) (settings.resetPolls.toNat + 1)
      (reset settings) :=
    spends_get_bind fun r => spends_phy (Clause22.reset_spends r.address _)
  have hset : RecordM.Spends 0 0 (set ({} : PhyRecord) : RecordM PUnit) := fun _ => spends_done
  refine RecordM.Spends.mono (spends_bind hset fun _ => spends_bind Clause22.discover_spends
    fun _ => spends_bind hreset fun _ => spends_get_bind fun r =>
      spends_bind (spends_phy (applySettings_spends settings r.address)) fun _ =>
        spends_program spends_log) (by omega) (by omega)

end Transceiver

/-! ### Following the link -/

namespace Clause22

open RecordM

/-- Two reads, or one and a wait. -/
theorem trackLink_spends (timeout : UInt32) :
    RecordM.Spends (max 2 (1 + timeout.toNat / 50)) (50 * (timeout.toNat / 50))
      (trackLink timeout) := by
  refine RecordM.Spends.mono (spends_get_bind fun record =>
    spends_bind (k := max 1 (timeout.toNat / 50)) (u := timeout.toNat / 50 * 50) spends_read
      fun status => ?_) (by omega) (by omega)
  split
  · exact spends_pure
  split
  · exact Spends.mono (spends_bind (k := 0) (u := 0) spends_read fun _ => spends_modify)
      (by omega) (Nat.zero_le _)
  · rw [awaitNegotiation_eq_lookOut, looks_eq]
    exact Spends.mono (spends_log_bind (lookOut_spends (t := 0) (fun _ => spends_modify)
      spends_giveUp _)) (by omega) (Nat.le_refl _)

end Clause22

namespace Transceiver

open RecordM

/-- One look, the looks of the wait, and the time for the link to settle. -/
theorem awaitSpeed_spends (settings : Settings) :
    RecordM.Spends (1 + settings.speedPolls.toNat)
      (settings.speedPolls.toNat + settings.linkSettle.toNat) (awaitSpeed settings) := by
  have hsettle : ∀ phy v, RecordM.Spends 0 0 (settle phy v) := fun phy v =>
    spends_modify_bind (spends_program spends_log)
  refine RecordM.Spends.mono (spends_get_bind fun record => spends_bind
    (u := settings.speedPolls.toNat + settings.linkSettle.toNat) spends_read fun status => ?_)
    (Nat.le_refl _) (by omega)
  split
  · exact (spends_modify_bind (hsettle _ _)).mono (Nat.zero_le _) (Nat.zero_le _)
  · have hfound : ∀ v, RecordM.Spends 0 settings.linkSettle.toNat (do
        modify fun r => { r with current := .up }
        Program.sleep settings.linkSettle
        settle record.address v : RecordM Unit) := fun v =>
      spends_modify_bind (spends_bind (spends_program spends_sleep) fun _ => hsettle _ v)
    rw [awaitResolution_eq_lookOut]
    refine Spends.mono (spends_log_bind (lookOut_spends hfound spends_giveUp _)) (Nat.le_refl _)
      (Nat.le_of_eq ?_)
    rw [show Timing.speedInterval.toNat = 1 from rfl, Nat.mul_one]

/-- **The state of the link** takes the two waits one after the other, at most. -/
theorem settledState_spends (settings : Settings) :
    RecordM.Spends
      (max 2 (1 + settings.negotiationTimeout.toNat / 50) + 1 + settings.speedPolls.toNat)
      (50 * (settings.negotiationTimeout.toNat / 50) + settings.speedPolls.toNat +
        settings.linkSettle.toNat)
      (settledState settings) := by
  have hcurrent : RecordM.Spends 0 0 (do return (← get).current : RecordM LinkState) :=
    spends_get_bind fun _ => spends_pure
  have hmode : ∀ phy, PhyM.Spends 1 0 (resolvedMode phy) := fun phy =>
    PhyM.spends_bind (k := 0) (u := 0) (PhyM.spends_bus BusM.spends_read) fun _ => PhyM.spends_pure
  have hrefreshMode : RecordM.Spends 1 0 refreshMode := by
    refine spends_get_bind fun r => spends_bind (k := 0) (u := 0) (spends_phy (hmode _))
      fun mode => ?_
    cases mode with
    | none => exact spends_pure
    | some mode => exact spends_modify
  have hrefresh : RecordM.Spends
      (max 2 (1 + settings.negotiationTimeout.toNat / 50) + (1 + settings.speedPolls.toNat))
      (50 * (settings.negotiationTimeout.toNat / 50) +
        (settings.speedPolls.toNat + settings.linkSettle.toNat)) (refresh settings) := by
    refine spends_bind (Clause22.trackLink_spends _) fun _ => spends_get_bind fun r => ?_
    split
    · exact spends_bind (k := 0) (u := 0) (awaitSpeed_spends settings) fun _ => hcurrent
    · exact Spends.mono (spends_bind hrefreshMode fun _ => hcurrent) (by omega) (Nat.zero_le _)
  refine Spends.mono (spends_tryCatch (k := 0) (u := 0) hrefresh fun e => ?_) (by omega) (by omega)
  cases e with
  | timeout => exact spends_pure
  | _ => exact spends_throw

/-- **No machine, however hostile, makes the two long operations exceed their bounds**, with any settings
and from every record: a bring-up ends after at most 91 frames more than the bound on the looks at its
reset, and the state of the link is there after the looks of both waits, each with the time that
these looks take. -/
theorem run_within_budget {σ : Type} (m : Machine σ) (s : σ) (r : PhyRecord) (settings : Settings) :
    let up := ((bringUp settings).runOn r).run m s
    let state := ((settledState settings).runOn r).run m s
    ((frames up.events).length ≤ settings.resetPolls.toNat + 91 ∧
        waited up.events ≤ (settings.resetPolls.toNat + 1) * 1000000) ∧
      (frames state.events).length ≤
          max 2 (1 + settings.negotiationTimeout.toNat / 50) + 1 + settings.speedPolls.toNat ∧
        waited state.events ≤ (50 * (settings.negotiationTimeout.toNat / 50) +
          settings.speedPolls.toNat + settings.linkSettle.toNat) * 1000000 :=
  ⟨(bringUp_spends settings r).run m s, (settledState_spends settings r).run m s⟩

/-- The bounds of a bring-up are reached at the last address of the bus, with a reset that ends at the
last look and with every setting to be written. -/
example :
    let s : Board SimulatedBus :=
      { bus := SimulatedBus.apply (SimulatedBus.apply {} 31 .powerUp) 31 (.resetLatency 3) }
    let settings : Settings := { clockOut := some false, powerSaving := some true, resetPolls := 3 }
    let up := ((bringUp settings).runOn {}).run SimulatedBus.bus.machine s
    (frames up.events).length = 3 + 91 ∧ waited up.events = 3 * 1000000 := by
  decide +kernel

end Transceiver

end EthernetPhy
