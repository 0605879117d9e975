import EthernetPhy.Proofs.BringUpOrder

/-!
# Resets that are pending

A bring-up resets its PHY twice.  The first reset is waited for; the second one, with which writing
the settings begins, is not.  So whenever a register other than basic mode control is written, the
first reset has been seen to be over, and the second one was asked for and has not been looked at
since (`ResetTwice`).

A simulated PHY counts the reads for which a reset stays visible, and only frames for basic mode
control touch that count (`read_snd`, `write_snd`).  `bringUp_writes_resetTwice` puts the two
together: **at each of these writes the count of the second reset is the whole latency of the PHY**,
so that this reset is over only if resets take no time at all.
-/

namespace EthernetPhy

open Event

/-! ### What frames do to a pending reset -/

namespace SimulatedPhy

variable {lossy : Prop} {a : PhyAddress} {p p' : SimulatedPhy} {e : Event} {es : List Event}

theorem Trace.resetLatency_eq (h : Trace lossy a p es p') :
    p'.resetLatency = p.resetLatency ∧ p'.failingWrites = p.failingWrites := by
  refine h.invariant (I := fun q => q.resetLatency = p.resetLatency ∧
    q.failingWrites = p.failingWrites) ⟨rfl, rfl⟩ (fun q reg hq => ?_) (fun q reg value hq => ?_)
  · obtain ⟨queued, left, pending, hread, -⟩ := read_snd q reg
    rw [hread]
    exact hq
  · obtain ⟨registers, page, pending, hwrite, -, -⟩ := write_snd q reg value
    rw [hwrite]
    exact hq

theorem Passes.pendingReset_eq (h : Passes lossy a p e p') (he : e.request.controls = false) :
    p'.pendingReset = p.pendingReset := by
  cases h with
  | read reg =>
    obtain ⟨queued, left, pending, hread, hpending⟩ := read_snd p reg
    rw [hread, hpending (of_decide_eq_false he)]
  | write reg value =>
    obtain ⟨registers, page, pending, hwrite, -, hpending⟩ := write_snd p reg value
    rw [hwrite, hpending (of_decide_eq_false he)]
  | lost => rfl
  | other => rfl

theorem Trace.pendingReset_eq (h : Trace lossy a p es p')
    (hes : ∀ e ∈ es, e.request.controls = false) : p'.pendingReset = p.pendingReset := by
  induction h with
  | nil => rfl
  | cons hpass _ ih =>
    obtain ⟨he, hes⟩ := List.forall_mem_cons.1 hes
    rw [ih hes, hpass.pendingReset_eq he]

theorem Passes.pendingReset_of_reset {answer : Except BusFault Unit} (hp : p.failingWrites = [])
    (h : Passes False a p ⟨.write a Register.bmcr Bmcr.reset, answer⟩ p') :
    answer = .ok () ∧ p'.pendingReset = some p.resetLatency := by
  obtain ⟨rfl, rfl⟩ | ⟨hlossy, -⟩ := h.of_write
  · rw [SimulatedPhy.write, hp, if_neg List.not_mem_nil, accept, if_neg (by decide), if_pos rfl,
      writeControl, if_pos (by decide)]
    exact ⟨rfl, rfl⟩
  · exact hlossy.elim

/-- Basic mode control shows a reset as long as it is pending. -/
theorem pendingReset_of_readControl {n : UInt32} (hv : p.readControl.1.test Bmcr.reset = false)
    (hn : p.readControl.2.pendingReset = some n) : n = 0 := by
  unfold readControl at hv hn
  cases hpending : p.pendingReset with
  | none =>
    rw [hpending] at hn
    cases hpending.symm.trans hn
  | some left =>
    rw [hpending] at hv hn
    by_cases hzero : left = 0
    · simp only [hzero, ↓reduceIte] at hn
      rw [hpending, hzero] at hn
      exact (Option.some.inj hn).symm
    · simp only [hzero, ↓reduceIte] at hv
      rw [Word.test_or_reset] at hv
      cases hv

/-- A look that does not show a reset finds none pending. -/
theorem Passes.pendingReset_of_got {v : Word} {n : UInt32} (hp : p.Clear Register.bmcr)
    (h : Passes False a p (got a Register.bmcr v) p') (hv : v.test Bmcr.reset = false)
    (hn : p'.pendingReset = some n) : n = 0 := by
  obtain ⟨hread, rfl⟩ | ⟨hlossy, -⟩ := h.of_read
  · rw [hp.read] at hread hn
    obtain rfl := Except.ok.inj hread
    rw [answer, hp.takeQueued] at hv hn
    by_cases hpresent : p.isPresent = true
    · rw [hpresent, if_neg (by decide), if_neg (by decide), if_pos rfl] at hv hn
      exact pendingReset_of_readControl hv hn
    · -- Nobody drives the bus, so that the bit is seen set.
      rw [eq_false_of_ne_true hpresent] at hv
      change Word.idle.test Bmcr.reset = false at hv
      exact absurd hv (by decide)
  · exact hlossy.elim

end SimulatedPhy

/-! ### Writes after two resets -/

namespace SimulatedBus

/-- A PHY at the address `0` after power-up, at which resets stay visible for some reads. -/
def poweredUp (latency : UInt32) : SimulatedBus :=
  setPhy {} 0 { SimulatedPhy.powerUp {} with resetLatency := latency }

theorem healthy_poweredUp (latency : UInt32) (q : PhyAddress) :
    ((poweredUp latency).phy q).Healthy :=
  healthy_setPhy (fun _ => .of_unset rfl rfl rfl rfl) (.of_unset rfl rfl rfl rfl) q

end SimulatedBus

namespace Transceiver

open SimulatedPhy

/-- Two resets of a PHY among some events: `first` are the events up to the look that showed the
first reset to be over; then the second one was asked for, and in `since`, the events after it,
basic mode control was left alone. -/
structure ResetTwice (a : PhyAddress) (answer : Except BusFault Unit)
    (first since before : List Event) : Prop where
  before_eq : before = first ++ ⟨.write a Register.bmcr Bmcr.reset, answer⟩ :: since
  ended : ∃ earlier values v, v.test Bmcr.reset = false ∧
    first = earlier ++ wrote a Register.bmcr Bmcr.reset ::
      (Clause22.resetRounds a values ++ [got a Register.bmcr v])
  untouched : ∀ e ∈ since, e.request.controls = false

theorem exists_event_of_getElem? {es : List Event} {n : Nat} {q : Request}
    (h : (es.map Event.request)[n]? = some q) :
    ∃ e, es = es.take n ++ e :: es.drop (n + 1) ∧ e.request = q := by
  rw [List.getElem?_map, Option.map_eq_some_iff] at h
  obtain ⟨e, he, hq⟩ := h
  obtain ⟨hn, rfl⟩ := List.getElem?_eq_some_iff.1 he
  refine ⟨es[n], ?_, hq⟩
  rw [List.getElem_cons_drop, List.take_append_drop]

theorem exists_eq_append {es es' before after : List Event} {e : Event}
    (h : es ++ es' = before ++ e :: after) (he : e ∉ es) :
    ∃ more, before = es ++ more ∧ es' = more ++ e :: after := by
  obtain ⟨more, rfl, hmore⟩ | ⟨more, rfl, hmore⟩ := List.append_eq_append_iff.1 h
  · exact ⟨more, rfl, hmore⟩
  · cases more with
    | nil => exact ⟨[], by simp, hmore.symm⟩
    | cons e' more =>
      obtain ⟨rfl, -⟩ := List.cons.inj hmore
      exact absurd (by simp) he

/-- While the settings are written, basic mode control is left alone up to each other write. -/
theorem Configured.untouched {es before after : List Event} {e : Event}
    {result : Except Fault Unit} (h : Configured es result) (hes : es = before ++ e :: after)
    (hframe : e.request.isFrame = true) (he : e.request.controls = false) :
    ∀ e ∈ before, e.request.controls = false := by
  cases h with
  | unable hnone =>
    subst hes
    exact fun e' he' => (hnone e' (List.mem_append_left _ he')).1
  | @ended front back _ hfront hback _ =>
    obtain ⟨more, -, hmore⟩ | ⟨more, rfl, -⟩ := List.append_eq_append_iff.1 hes
    · -- The write would be among the last frames, which are for basic mode control.
      have hcontrols := hback e (by simp [hmore]) hframe
      rw [he] at hcontrols
      cases hcontrols
    · exact fun e' he' => hfront e' (List.mem_append_left _ he')

theorem controls_of_resetDone {phy : PhyAddress} {polls : UInt32} {es : List Event}
    {result : Except Fault Unit} (h : Clause22.ResetDone phy polls es result) :
    ∀ e ∈ es, e.request.isFrame = true → e.request.controls = true := by
  cases h with
  | refused c => exact List.forall_mem_singleton.2 fun _ => rfl
  | awaited h =>
    exact List.forall_mem_cons.2 ⟨fun _ => rfl,
      h.forall_request (P := fun q => q.isFrame = true → q.controls = true)
        (fun _ => rfl) nofun fun _ => nofun⟩

theorem ResetTwice.append {a : PhyAddress} {answer : Except BusFault Unit}
    {first since before : List Event} (h : ResetTwice a answer first since before)
    (es : List Event) : ResetTwice a answer (es ++ first) since (es ++ before) := by
  obtain ⟨rfl, ⟨earlier, values, v, hv, rfl⟩, huntouched⟩ := h
  exact ⟨by simp, ⟨es ++ earlier, values, v, hv, by simp⟩, huntouched⟩

theorem Phases.resetTwice {settings : Settings} {phy : PhyAddress} {es before after : List Event}
    {e : Event} {result : Except Fault Unit} (h : Phases settings phy es result)
    (hes : es = before ++ e :: after) (hframe : e.request.isFrame = true)
    (he : e.request.controls = false) :
    ∃ answer first since, ResetTwice phy answer first since before := by
  cases h with
  | failed h =>
    have hcontrols := controls_of_resetDone h e (by simp [hes]) hframe
    rw [he] at hcontrols
    cases hcontrols
  | @passed first more answer _ h _ hmore =>
    have hnot : e ∉ first := fun hmem => by
      have hcontrols := controls_of_resetDone h e hmem hframe
      rw [he] at hcontrols
      cases hcontrols
    obtain ⟨rest, rfl, hrest⟩ := exists_eq_append hes hnot
    cases rest with
    | nil =>
      obtain ⟨rfl, -⟩ := List.cons.inj hrest
      cases he
    | cons e' since =>
      obtain ⟨rfl, rfl⟩ := List.cons.inj hrest
      obtain ⟨values, v, -, hv, hfirst⟩ := h.of_ok
      exact ⟨answer, first, since, rfl, ⟨[], values, v, hv, hfirst⟩,
        hmore.untouched rfl hframe he⟩

/-- **A PHY is reset twice before any of its other registers is written.** -/
theorem bringUp_ensures_resetTwice (settings : Settings) (r : PhyRecord) :
    ((bringUp settings).runOn r).Ensures fun es _ => ∀ before e after a reg value,
      es = before ++ e :: after → e.request = .write a reg value → reg ≠ Register.bmcr →
      ∃ answer first since, ResetTwice a answer first since before := by
  rw [runOn_bringUp]
  refine (Clause22.sweep_ensures_swept PhyAddress.all).bind fun search found hsearch => ?_
  -- Neither the sweep nor the message after it is a write.
  have hnot : ∀ {message : Message} {answer : Unit} {e : Event} {a reg value},
      e.request = .write a reg value → e ∉ search ++ [⟨.log message, answer⟩] := by
    intro message answer e a reg value he hmem
    obtain hmem | hmem := List.mem_append.1 hmem
    · have hread := hsearch.readsIdentifier e hmem
      rw [he] at hread
      cases hread
    · rw [List.mem_singleton.1 hmem] at he
      cases he
  obtain _ | ⟨phy, id1, id2⟩ := found
  · intro answer before e after a reg value hes he
    have hmem : e ∈ search ++ [⟨.log .nothingDetected, answer⟩] := by
      rw [hes]
      simp
    exact absurd hmem (hnot he)
  · intro answer
    rw [Program.ensures_map]
    have hspares : (install settings phy).run.Ensures fun es _ =>
        ∀ e ∈ es, e.request.Spares phy := install_spares settings
    refine ((install_ensures_phases settings phy).and hspares).mono
      fun more result h before e after a reg value hes he hreg => ?_
    obtain ⟨hphases, hthere⟩ := h
    have hes' : (search ++ [⟨.log (.detected phy id1 id2), answer⟩]) ++ more =
        before ++ e :: after := by
      rw [← hes]
      simp
    obtain ⟨rest, rfl, rfl⟩ := exists_eq_append hes' (hnot he)
    obtain rfl : a = phy := hthere e (by simp) a (by rw [he]; rfl)
    obtain ⟨answer', first, since, htwice⟩ := hphases.resetTwice rfl (by rw [he]; rfl)
      (by rw [he]; exact decide_eq_false hreg)
    exact ⟨answer', _, since, htwice.append _⟩

/-- **At each write to another register the second reset has its whole latency before it**, wherever
writes do not fail; the first one is over, as the PHY itself counts if nothing is queued there. -/
theorem bringUp_writes_resetTwice (settings : Settings) (r : PhyRecord) {b : Board SimulatedBus}
    (hb : ∀ q, (b.bus.phy q).failingWrites = []) :
    let out := ((bringUp settings).runOn r).run SimulatedBus.bus.machine b
    ∀ before e after a reg value, out.events = before ++ e :: after →
      e.request = .write a reg value → reg ≠ Register.bmcr →
      ∃ first since, ResetTwice a (.ok ()) first since before ∧
        (b.phyAfter before a).pendingReset = some (b.bus.phy a).resetLatency ∧
        ((b.bus.phy a).Healthy → ∀ n, (b.phyAfter first a).pendingReset = some n → n = 0) := by
  intro out before e after a reg value hes he hreg
  obtain ⟨answer, first, since, htwice⟩ := (bringUp_ensures_resetTwice settings r).run
    SimulatedBus.bus.machine b before e after a reg value hes he hreg
  obtain ⟨hbefore, ⟨earlier, values, v, hv, hfirst⟩, huntouched⟩ := id htwice
  have htrace := SimulatedBus.run_trace_before False _ b a hes
  rw [hbefore] at htrace
  obtain ⟨p, hearlier, hrest⟩ := trace_append.1 htrace
  obtain ⟨q, hreset, hsince⟩ := trace_cons.1 hrest
  obtain ⟨hlatency, hwrites⟩ := hearlier.resetLatency_eq
  obtain ⟨rfl, hpending⟩ := hreset.pendingReset_of_reset (hwrites.trans (hb a))
  refine ⟨first, since, htwice, ?_, fun hhealthy n hn => ?_⟩
  · rw [← hlatency, ← hpending, ← hsince.pendingReset_eq huntouched, hbefore]
  · rw [hbefore, List.append_assoc] at hes
    have hlooks := SimulatedBus.run_trace_before False _ b a hes
    have hlast : first = (earlier ++ wrote a Register.bmcr Bmcr.reset ::
        Clause22.resetRounds a values) ++ [got a Register.bmcr v] := by
      rw [hfirst]
      simp
    obtain ⟨q, hq, hlook⟩ := trace_append.1 (hlast ▸ hlooks)
    obtain ⟨q', hlook, hend⟩ := trace_cons.1 hlook
    rw [← hlast, trace_nil] at hend
    rw [hend] at hn
    exact hlook.pendingReset_of_got ((hq.healthy hhealthy).1.clear _) hv hn

/-- The transmit clock is set up while the second reset has all its three looks before it. -/
theorem bringUp_writes_resetTwice_delay :
    let b : Board SimulatedBus := { bus := .poweredUp 3 }
    let out := ((bringUp {}).runOn {}).run SimulatedBus.bus.machine b
    let before := out.events.take 14
    (∀ q, (b.bus.phy q).failingWrites = []) ∧
      ∃ e, out.events = before ++ e :: out.events.drop 15 ∧
        e.request = .write 0 Register.txDelay ClockDelayBit.tx ∧
        Register.txDelay ≠ Register.bmcr ∧
        ∃ first since, ResetTwice 0 (.ok ()) first since before ∧
          (b.phyAfter before 0).pendingReset = some (b.bus.phy 0).resetLatency ∧
          ((b.bus.phy 0).Healthy → ∀ n, (b.phyAfter first 0).pendingReset = some n → n = 0) := by
  intro b out before
  have hb : ∀ q, (b.bus.phy q).failingWrites = [] :=
    fun q => (SimulatedBus.healthy_poweredUp 3 q).accepts
  have hat : (out.events.map Event.request)[14]? =
      some (.write 0 Register.txDelay ClockDelayBit.tx) := by decide +kernel
  obtain ⟨e, hes, he⟩ := exists_event_of_getElem? hat
  have hreg : Register.txDelay ≠ Register.bmcr := by decide
  exact ⟨hb, e, hes, he, hreg, bringUp_writes_resetTwice {} {} hb _ _ _ _ _ _ hes he hreg⟩

/-- A bring-up without any fault sets up the transmit clock while the PHY still shows a reset, one
that takes a single look. -/
theorem bringUp_writes_while_pending :
    let settings : Settings := {}
    let b : Board SimulatedBus := { bus := .poweredUp 1 }
    let out := ((bringUp settings).runOn {}).run SimulatedBus.bus.machine b
    (∀ q, (b.bus.phy q).Healthy) ∧ (b.bus.phy 0).resetLatency ≤ settings.resetPolls ∧
      out.result = (.ok (), { address := 0 }) ∧
      ∃ before e after, out.events = before ++ e :: after ∧
        e.request = .write 0 Register.txDelay ClockDelayBit.tx ∧
        (b.phyAfter before 0).pendingReset = some 1 ∧
        (b.phyAfter before 0).readControl.1.test Bmcr.reset = true := by
  intro settings b out
  have hat : (out.events.map Event.request)[10]? =
      some (.write 0 Register.txDelay ClockDelayBit.tx) := by decide +kernel
  obtain ⟨e, hes, he⟩ := exists_event_of_getElem? hat
  exact ⟨SimulatedBus.healthy_poweredUp 1, by decide, by decide +kernel, _, e, _, hes, he,
    by decide +kernel, by decide +kernel⟩

end Transceiver

end EthernetPhy
