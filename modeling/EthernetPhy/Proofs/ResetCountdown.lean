import EthernetPhy.Proofs.PhyTraces
import EthernetPhy.Proofs.RegisterUpdates
import EthernetPhy.Proofs.ReplyVerdicts

/-!
# The countdown of a reset

A simulated PHY that is reset shows so for as many looks as its latency says, and nothing but looks
brings it closer to the end.

* `SimulatedPhy.Counting left p` : the PHY is being reset, and `left` looks will show it;
* `Counting.read_control`, `Counting.read_other`, `Counting.write_other` : **a look takes one off the
  count, and no other frame does**;
* `Counting.shows` : **what the looks of any run find**, whatever comes between them;
* `Clause22.ResetDone.latency` : what `Clause22.reset` makes of that;
* `reset_outcome` : **what `Clause22.reset` comes to**, on every bus and on a simulated one.
-/

namespace EthernetPhy

open Event

theorem Word.test_or_reset (v : Word) : (v ||| Bmcr.reset).test Bmcr.reset = true := by
  rw [← Bool.not_eq_false, Word.test_eq_false_iff]
  intro h
  have hbit := congrArg (·.getLsbD 15) h
  simp [Bmcr.reset] at hbit

namespace SimulatedPhy

variable {a : PhyAddress} {p p' : SimulatedPhy} {reg reg' : RegAddress} {value : Word}
  {es : List Event} {left : UInt32}

/-! ### Registers that stay clear -/

/-- A read of one register leaves all of them clear that are so. -/
theorem Clear.after_read (h : p.Clear reg) (reg' : RegAddress) : (p.read reg').2.Clear reg := by
  by_cases hreg : reg' = reg
  · subst hreg
    rw [h.read, answer, h.takeQueued]
    split
    · exact h
    split
    · exact h
    dsimp only
    split
    · obtain ⟨pending, hpending⟩ := readControl_snd p
      rw [hpending]
      exact ⟨h.passes, h.unlimited, h.unqueued⟩
    · exact h
  · obtain ⟨hleft, hqueued⟩ := read_other (p := p) hreg
    obtain ⟨queued, left, pending, hread, -⟩ := SimulatedPhy.read_snd p reg'
    rw [hread] at hleft hqueued ⊢
    exact ⟨h.passes, hleft.trans h.unlimited, by rw [hqueued]; exact h.unqueued⟩

theorem Clear.after_write (h : p.Clear reg) (reg' : RegAddress) (value : Word) :
    (p.write reg' value).2.Clear reg := by
  obtain ⟨registers, page, pending, hwrite, -, -⟩ := write_snd p reg' value
  rw [hwrite]
  exact ⟨h.passes, h.unlimited, h.unqueued⟩

/-! ### The count -/

theorem toNat_pred {n : UInt32} (h : n ≠ 0) : (n - 1).toNat + 1 = n.toNat ∧ n - 1 ≠ neverEnds := by
  have hpos : 0 < n.toNat := Nat.pos_of_ne_zero fun hzero => h (UInt32.toNat_inj.1 hzero)
  have hsub : (n - 1).toNat = n.toNat - 1 :=
    UInt32.toNat_sub_of_le _ _ (UInt32.le_iff_toNat_le.2 hpos)
  have hlt := n.toNat_lt
  refine ⟨by omega, fun hnever => ?_⟩
  have hval : n.toNat - 1 = 4294967295 := by
    rw [← hsub, hnever]
    rfl
  omega

theorem readControl_pending {n : UInt32} (h : p.pendingReset = some n) (hzero : n ≠ 0)
    (hends : n ≠ neverEnds) : p.readControl =
      ((p.contents Cell.control).getD 0 ||| Bmcr.reset, { p with pendingReset := some (n - 1) }) := by
  rw [readControl, h]
  dsimp only
  rw [if_neg hzero, if_neg hends]
  rfl

/-- A PHY that is being reset, at which `left` looks will show it, or all of them. -/
structure Counting (left : UInt32) (p : SimulatedPhy) : Prop where
  clear : p.Clear Register.bmcr
  present : p.isPresent = true
  pending : p.pendingReset = some left
  stored : ((p.contents Cell.control).getD 0).test Bmcr.reset = false

/-- Whether the look with the number `i` shows a reset of which `left` looks are left. -/
def Shows (left : UInt32) (i : Nat) : Prop := i < left.toNat ∨ left = neverEnds

/-- The count after one more look. -/
def tick (left : UInt32) : UInt32 := if left = 0 ∨ left = neverEnds then left else left - 1

theorem shows_zero : Shows left 0 ↔ left ≠ 0 := by
  constructor
  · rintro (h | hends) rfl
    · exact absurd h (by decide)
    · exact absurd hends (by decide)
  · intro h
    exact .inl (Nat.pos_of_ne_zero fun hzero => h (UInt32.toNat_inj.1 hzero))

theorem shows_succ {i : Nat} : Shows left (i + 1) ↔ Shows (tick left) i := by
  by_cases hstays : left = 0 ∨ left = neverEnds
  · rw [tick, if_pos hstays]
    obtain rfl | rfl := hstays
    · simp [Shows]
    · simp [Shows]
  · rw [tick, if_neg hstays]
    obtain ⟨hzero, hends⟩ := not_or.1 hstays
    obtain ⟨hpred, hends'⟩ := toNat_pred hzero
    simp only [Shows, hends, hends', or_false]
    omega

theorem not_shows {i : Nat} : ¬Shows left i ↔ left.toNat ≤ i ∧ left ≠ neverEnds := by
  rw [Shows, not_or, Nat.not_lt]

/-- **A look shows the reset as long as any are left, and takes one off the count.** -/
theorem Counting.read_control (h : p.Counting left) :
    ∃ w, p.read Register.bmcr = (.ok w, (p.read Register.bmcr).2) ∧
      (w.test Bmcr.reset = true ↔ left ≠ 0) ∧ (p.read Register.bmcr).2.Counting (tick left) := by
  have hread : p.read Register.bmcr = (.ok p.readControl.1, p.readControl.2) := by
    rw [h.clear.read, answer_control h.present h.clear.unqueued]
  rw [hread]
  refine ⟨_, rfl, ?_⟩
  by_cases hzero : left = 0
  · subst hzero
    have hsame : p.readControl = ((p.contents Cell.control).getD 0, p) := by
      rw [readControl, h.pending]
      rfl
    rw [hsame]
    exact ⟨iff_of_false (by rw [h.stored]; decide) (not_not.2 rfl), h⟩
  by_cases hends : left = neverEnds
  · subst hends
    have hsame : p.readControl = ((p.contents Cell.control).getD 0 ||| Bmcr.reset, p) := by
      rw [readControl, h.pending]
      rfl
    rw [hsame]
    exact ⟨iff_of_true (Word.test_or_reset _) hzero, h⟩
  · rw [readControl_pending h.pending hzero hends, tick, if_neg (not_or.2 ⟨hzero, hends⟩)]
    exact ⟨iff_of_true (Word.test_or_reset _) hzero,
      ⟨h.clear.passes, h.clear.unlimited, h.clear.unqueued⟩, h.present, rfl, h.stored⟩

/-- A look at another register leaves the count alone. -/
theorem Counting.read_other (h : p.Counting left) (hreg : reg ≠ Register.bmcr) :
    (p.read reg).2.Counting left := by
  have hclear := h.clear.after_read reg
  obtain ⟨queued, readsLeft, pending, hread, hpending⟩ := read_snd p reg
  rw [hread] at hclear ⊢
  exact ⟨hclear, h.present, (hpending hreg).trans h.pending, h.stored⟩

theorem contents_accept_control (hreg : reg ≠ Register.bmcr) :
    (p.accept reg value).contents Cell.control = p.contents Cell.control := by
  unfold accept
  split
  · rfl
  · rw [contents_store]
    exact Function.update_of_ne (fun h => hreg (congrArg Prod.snd h).symm) _ _

/-- A write of another register leaves the count alone. -/
theorem Counting.write_other (h : p.Counting left) (hreg : reg ≠ Register.bmcr) (value : Word) :
    (p.write reg value).2.Counting left := by
  have hclear := h.clear.after_write reg value
  obtain ⟨registers, page, pending, hwrite, -, hpending⟩ := write_snd p reg value
  have hcount : (p.write reg value).2.pendingReset = some left := by
    rw [hwrite]
    exact (hpending hreg).trans h.pending
  unfold SimulatedPhy.write at hclear hcount ⊢
  split
  · exact h
  · rename_i haccepts
    rw [if_neg haccepts] at hclear hcount
    exact ⟨hclear, isPresent_accept h.present, hcount,
      by rw [contents_accept_control hreg]; exact h.stored⟩

/-- A reset that is accepted starts the count with the whole latency. -/
theorem counting_of_reset (value : Word) (hclear : p.Clear Register.bmcr)
    (haccepts : Register.bmcr ∉ p.failingWrites) (hvalue : value.test Bmcr.reset = true) :
    (p.write Register.bmcr value).1 = .ok () ∧
      (p.write Register.bmcr value).2.Counting p.resetLatency := by
  have hwrite : p.write Register.bmcr value = (.ok (),
      { p with pendingReset := some p.resetLatency }.store p.page Register.bmcr
        (value.update Bmcr.reset 0)) := by
    rw [SimulatedPhy.write, if_neg haccepts, accept, if_neg (by decide), if_pos rfl, writeControl,
      if_pos hvalue]
  rw [hwrite]
  have hstored : ({ p with pendingReset := some p.resetLatency }.store p.page Register.bmcr
      (value.update Bmcr.reset 0)).contents Cell.control = some (value.update Bmcr.reset 0) := by
    rw [contents_store]
    exact Function.update_self ..
  refine ⟨rfl, ⟨hclear.passes, hclear.unlimited, hclear.unqueued⟩, isPresent_store, rfl, ?_⟩
  rw [hstored]
  exact Word.test_update value (by decide) (by decide)

/-! ### The looks of a run -/

theorem reply?_eq_none {e : Event} (h : e.request.phy? ≠ some a) : e.reply? a reg = none := by
  obtain ⟨q, answer⟩ := e
  cases q with
  | read phy reg' =>
    have hne : phy ≠ a := fun hphy => h (congrArg some hphy)
    simp [hne]
  | _ => rfl

/-- **What the looks of any run find while a PHY is being reset**: the first ones, as many as are left,
show the reset and the others do not, whatever comes between them but a write of basic mode control. -/
theorem Counting.shows (h : p.Counting left) (htrace : Trace False a p es p')
    (hes : ∀ e ∈ es, ∀ value, e.request ≠ .write a Register.bmcr value) :
    ∀ i reply, (replies a Register.bmcr es)[i]? = some reply →
      ∃ w, reply = .ok w ∧ (w.test Bmcr.reset = true ↔ Shows left i) := by
  induction htrace generalizing left with
  | nil => exact nofun
  | @cons p q p' e es hpass _ ih =>
    obtain ⟨he, hrest⟩ := List.forall_mem_cons.1 hes
    cases hpass with
    | lost _ hlossy => exact hlossy.elim
    | other _ hphy =>
      rw [replies_cons, reply?_eq_none hphy]
      exact ih h hrest
    | write reg value =>
      have hreg : reg ≠ Register.bmcr := fun hreg => he value (by rw [hreg])
      rw [replies_cons]
      exact ih (h.write_other hreg value) hrest
    | read reg =>
      by_cases hreg : reg = Register.bmcr
      · subst hreg
        obtain ⟨w, hread, hw, hnext⟩ := h.read_control
        have hfirst : (p.read Register.bmcr).1 = .ok w := congrArg Prod.fst hread
        rintro (_ | i) reply hreply
        · obtain rfl : .ok w = reply := by simpa [hfirst] using hreply
          exact ⟨w, rfl, hw.trans shows_zero.symm⟩
        · obtain ⟨w', rfl, hw'⟩ := ih hnext hrest i reply (by simpa using hreply)
          exact ⟨w', rfl, hw'.trans shows_succ.symm⟩
      · have hnone : Event.reply? a Register.bmcr ⟨.read a reg, (p.read reg).1⟩ = none := by
          simp [hreg]
        rw [replies_cons, hnone]
        exact ih (h.read_other hreg) hrest

end SimulatedPhy

/-! ### What a reset comes to -/

namespace Clause22

open SimulatedPhy

/-- What a reset asks and comes to at a simulated PHY: it ends after as many looks as it is shown, if
there are as many, and otherwise it runs out. -/
def latencyVerdict (phy : PhyAddress) (polls latency : UInt32) : List Request × Except Fault Unit :=
  let write := Request.write phy Register.bmcr Bmcr.reset
  let look := Request.read phy Register.bmcr
  let rounds (k : Nat) := write :: times k [look, .delay (.ms 1)]
  if latency ≤ polls ∧ latency ≠ neverEnds then (rounds latency.toNat ++ [look], .ok ())
  else (rounds (polls.toNat + 1), .error .timeout)

variable {phy : PhyAddress} {polls : UInt32} {es : List Event} {result : Except Fault Unit}

/-- A wait for the end of a reset of which `left` looks are left. -/
theorem ResetAwaited.latency (h : ResetAwaited phy (polls.toNat + 1) es result) {left : UInt32}
    (hshows : ∀ i reply, (replies phy Register.bmcr es)[i]? = some reply →
      ∃ w, reply = .ok w ∧ (w.test Bmcr.reset = true ↔ Shows left i)) :
    (.write phy Register.bmcr Bmcr.reset :: asked es, result) = latencyVerdict phy polls left := by
  have hlatency : left ≤ polls ↔ left.toNat ≤ polls.toNat := UInt32.le_iff_toNat_le
  have hpending : ∀ {values : List Word}, values.map .ok <+: replies phy Register.bmcr es →
      (∀ v ∈ values, v.test Bmcr.reset = true) → ∀ i < values.length, Shows left i := by
    rintro values ⟨rest, hes⟩ hvalues i hi
    obtain ⟨w, hw, hreset⟩ := hshows i (.ok values[i])
      (by rw [← hes, List.getElem?_append_left (by simpa using hi)]; simp [hi])
    obtain rfl := Except.ok.inj hw
    exact hreset.1 (hvalues _ (List.getElem_mem hi))
  cases h with
  | lost values c hlen hvalues =>
    -- No look fails at this PHY.
    obtain ⟨w, hw, -⟩ := hshows values.length (.error c) (by simp)
    cases hw
  | ended values v hlen hvalues hv =>
    obtain ⟨w, hw, hreset⟩ := hshows values.length (.ok v) (by simp)
    obtain rfl := Except.ok.inj hw
    obtain ⟨hle, hends⟩ := not_shows.1 fun h => absurd (hreset.2 h) (by rw [hv]; decide)
    have hlen' : left.toNat = values.length := by
      refine Nat.le_antisymm hle (Nat.le_of_not_lt fun hlt => ?_)
      exact not_shows.2 ⟨Nat.le_refl _, hends⟩ (hpending (by simp) hvalues _ hlt)
    rw [latencyVerdict, if_pos ⟨hlatency.2 (by omega), hends⟩]
    simp [hlen', Timing.resetInterval]
  | ranOut values hlen hvalues =>
    have hshown : Shows left polls.toNat :=
      hpending (by simp) hvalues _ (by omega)
    rw [latencyVerdict, if_neg fun h => not_shows.2 ⟨hlatency.1 h.1, h.2⟩ hshown]
    simp [hlen, Timing.resetInterval]

/-- **A reset at a simulated PHY ends within the looks for it**, or it runs out. -/
theorem ResetDone.latency (h : ResetDone phy polls es result) {p p' : SimulatedPhy}
    (hclear : p.Clear Register.bmcr) (haccepts : Register.bmcr ∉ p.failingWrites)
    (htrace : Trace False phy p es p') :
    (asked es, result) = latencyVerdict phy polls p.resetLatency := by
  obtain ⟨hok, hcounting⟩ := counting_of_reset Bmcr.reset hclear haccepts (by decide)
  cases h with
  | refused c =>
    obtain ⟨q, hpass, -⟩ := trace_cons.1 htrace
    obtain ⟨hwrite, -⟩ | ⟨hlossy, -⟩ := hpass.of_write
    · rw [hok] at hwrite
      cases hwrite
    · exact hlossy.elim
  | awaited h =>
    obtain ⟨q, hpass, hrest⟩ := trace_cons.1 htrace
    obtain ⟨-, rfl⟩ | ⟨hlossy, -⟩ := hpass.of_write
    · have hreads := h.forall_request (P := fun q => ∀ value, q ≠ .write phy Register.bmcr value)
        (fun _ => nofun) (fun _ => nofun) fun _ _ => nofun
      rw [← h.latency (hcounting.shows hrest hreads)]
      simp
    · exact hlossy.elim

/-- **What a reset comes to**, at every address and with every bound.

On every bus it is a function of the replies: if the write of the reset fails, its fault; otherwise the
first look that fails or does not show the reset decides, and if none of `polls + 1` looks does so, the
reset runs out (`resetVerdict`; the number of looks is no word that could overflow).

On a simulated bus, if neither looks at basic mode control of the PHY nor writes of it fail and no
value is queued for them, the latency of the PHY decides (`latencyVerdict`).  Any reset of it is shown
by just the first looks, as many as its latency, or by all of them if it never ends, whatever is done
in between, as long as basic mode control of the PHY is not written. -/
theorem reset_outcome {σ α : Type} (m : Machine σ) (s : σ) (phy : PhyAddress) (polls : UInt32)
    (b : Nat → Except BusFault Word)
    (hb : Continues b (replies phy Register.bmcr ((reset phy polls).run.run m s).events))
    (board : Board SimulatedBus) (hclear : (board.bus.phy phy).Clear Register.bmcr)
    (haccepts : Register.bmcr ∉ (board.bus.phy phy).failingWrites)
    (value : Word) (hvalue : value.test Bmcr.reset = true) (x : Program α) (before after : List Event)
    (hx : (x.run SimulatedBus.bus.machine (SimulatedBus.bus.machine.answer
      (.write phy Register.bmcr value) board).2).events = before ++ after)
    (hbefore : ∀ e ∈ before, ∀ value, e.request ≠ .write phy Register.bmcr value) :
    (let out := (reset phy polls).run.run m s
     (asked out.events, out.result) =
       resetVerdict phy polls (m.answer (.write phy Register.bmcr Bmcr.reset) s).1 b) ∧
    (let out := (reset phy polls).run.run SimulatedBus.bus.machine board
     (asked out.events, out.result) =
       latencyVerdict phy polls (board.bus.phy phy).resetLatency) ∧
    (SimulatedBus.bus.machine.answer (.write phy Register.bmcr value) board).1 = .ok () ∧
    ∀ i reply, (replies phy Register.bmcr before)[i]? = some reply →
      ∃ w, reply = .ok w ∧ (w.test Bmcr.reset = true ↔
        i < (board.bus.phy phy).resetLatency.toNat ∨
          (board.bus.phy phy).resetLatency = neverEnds) := by
  have hdone := (reset_ensures_done phy polls).run SimulatedBus.bus.machine board
  have htrace := SimulatedBus.run_trace False (reset phy polls).run board phy
  obtain ⟨hok, hcounting⟩ := counting_of_reset value hclear haccepts hvalue
  refine ⟨reset_verdict m s phy polls hb, hdone.latency hclear haccepts htrace, hok, ?_⟩
  have hafter : (SimulatedBus.bus.machine.answer (.write phy Register.bmcr value) board).2.bus.phy
      phy = ((board.bus.phy phy).write Register.bmcr value).2 := SimulatedBus.phy_setPhy_self ..
  refine Counting.shows ?_ (SimulatedBus.run_trace_before False x _ phy hx) hbefore
  rw [hafter]
  exact hcounting

/-- A reset that is shown for three looks, with accesses to another register and to another PHY in
between. -/
theorem reset_outcome_three :
    let board : Board SimulatedBus :=
      { bus := SimulatedBus.apply (SimulatedBus.apply {} 0 .powerUp) 0 (.resetLatency 3) }
    let out := (reset 0 5).run.run SimulatedBus.bus.machine board
    let found := replies 0 Register.bmcr out.events
    let x : Program (Except BusFault Word) := ExceptT.run do
      let _ ← BusM.read 0 Register.bmcr
      BusM.write 0 Register.anar 0
      BusM.write 1 Register.bmcr Bmcr.reset
      let _ ← BusM.read 0 Register.bmcr
      let _ ← BusM.read 0 Register.bmsr
      let _ ← BusM.read 0 Register.bmcr
      BusM.read 0 Register.bmcr
    let board' := (SimulatedBus.bus.machine.answer (.write 0 Register.bmcr Bmcr.reset) board).2
    let es := (x.run SimulatedBus.bus.machine board').events
    Continues (fun i => found[i]?.getD (.ok 0)) found ∧
      (board.bus.phy 0).Clear Register.bmcr ∧ Register.bmcr ∉ (board.bus.phy 0).failingWrites ∧
      Bmcr.reset.test Bmcr.reset = true ∧
      (∀ e ∈ es, ∀ value, e.request ≠ .write 0 Register.bmcr value) ∧
      ((asked out.events, out.result) =
          resetVerdict 0 5 (.ok ()) (fun i => found[i]?.getD (.ok 0)) ∧
        (asked out.events, out.result) = latencyVerdict 0 5 3) ∧
      (∀ i reply, (replies 0 Register.bmcr es)[i]? = some reply →
        ∃ w, reply = .ok w ∧ (w.test Bmcr.reset = true ↔ i < 3 ∨ (3 : UInt32) = neverEnds)) := by
  intro board out found x board' es
  have hread : ∀ reg, (BusM.read 0 reg).run.Asks fun q =>
      ∀ value, q ≠ .write 0 Register.bmcr value := fun _ => .ask nofun fun _ => .done
  have hwrite : ∀ phy reg value, (phy, reg) ≠ (0, Register.bmcr) →
      (BusM.write phy reg value).run.Asks fun q => ∀ value, q ≠ .write 0 Register.bmcr value :=
    fun _ _ _ hne => .ask (fun _ h => hne (by cases h; rfl)) fun _ => .done
  have hasks : x.Asks fun q => ∀ value, q ≠ .write 0 Register.bmcr value :=
    Program.asks_run_bind (hread _) fun _ =>
      Program.asks_run_bind (hwrite _ _ _ (by decide)) fun _ =>
      Program.asks_run_bind (hwrite _ _ _ (by decide)) fun _ =>
      Program.asks_run_bind (hread _) fun _ => Program.asks_run_bind (hread _) fun _ =>
      Program.asks_run_bind (hread _) fun _ => hread _
  have hb : Continues (fun i => found[i]?.getD (.ok 0)) found := continues_getD
  have hclear : (board.bus.phy 0).Clear Register.bmcr :=
    ⟨by decide +kernel, by decide +kernel, by decide +kernel⟩
  have haccepts : Register.bmcr ∉ (board.bus.phy 0).failingWrites := by decide +kernel
  have hes : ∀ e ∈ es, ∀ value, e.request ≠ .write 0 Register.bmcr value :=
    hasks.run SimulatedBus.bus.machine board'
  obtain ⟨hverdict, hlatency, -, hshows⟩ := reset_outcome SimulatedBus.bus.machine board 0 5 _ hb
    board hclear haccepts Bmcr.reset (by decide) x es [] (List.append_nil _).symm hes
  exact ⟨hb, hclear, haccepts, by decide, hes, ⟨hverdict, hlatency⟩, hshows⟩

end Clause22

end EthernetPhy
