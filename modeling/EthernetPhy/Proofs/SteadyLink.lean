import EthernetPhy.Proofs.LinkEdges
import EthernetPhy.Proofs.Looks
import EthernetPhy.Proofs.PhyTraces
import EthernetPhy.Simulator.Setup

/-!
# Looks at a steady link

Three operations look at a link in three ways: `Transceiver.settledState` takes a short cut if the
record says that the link is up, waits for the negotiation and for the speed, and believes the link
bit of the status word; `Transceiver.linkMode` and `Transceiver.newLink` read basic mode status twice
and believe only a resolved status word.  Where the registers hold still they come to the same
conclusion (`pollers_agree`).

A register holds still in a run if all its reads find the same word (`Finds`).  What the three
operations make of such a run is said on every bus (`settledState_ensures_of_finds`,
`linkMode_ensures_of_finds`, `newLink_ensures_of_finds`), and a simulated PHY whose two status
registers are clear is a bus on which they hold still.
-/

namespace EthernetPhy

open Event RecordM

/-- All reads of a register find the same word. -/
def Finds (phy : PhyAddress) (reg : RegAddress) (v : Word) (es : List Event) : Prop :=
  ∀ reply ∈ replies phy reg es, reply = .ok v

section

variable {phy : PhyAddress} {reg : RegAddress} {v : Word} {es es' : List Event}

theorem Finds.of_append (h : Finds phy reg v (es ++ es')) :
    Finds phy reg v es ∧ Finds phy reg v es' := by
  rw [Finds, replies_append] at h
  exact List.forall_mem_append.1 h

theorem Finds.eq_of_got {w : Word} (h : Finds phy reg v es) (hw : got phy reg w ∈ es) : w = v := by
  have hreply : Except.ok w ∈ replies phy reg es :=
    List.mem_filterMap.2 ⟨_, hw, by simp⟩
  exact Except.ok.inj (h _ hreply)

theorem Finds.not_lost (h : Finds phy reg v es) (c : BusFault) : lost phy reg c ∉ es := by
  intro hc
  have hreply : Except.error c ∈ replies phy reg es :=
    List.mem_filterMap.2 ⟨_, hc, by simp⟩
  cases h _ hreply

end

/-! ### The waits -/

/-- If every read finds the same word, it decides how `trackLink` goes: a link that is up in the
record and still is costs one read, a finished negotiation is read twice, and otherwise the wait
runs out. -/
theorem Clause22.LinkTracked.cases_of_finds {timeout : UInt32} {r : PhyRecord} {es : List Event}
    {out : Except Fault Unit × PhyRecord} (h : LinkTracked timeout r es out) {status : Word}
    (hes : Finds r.address Register.bmsr status es) :
    ((r.current.isUp && status.test Bmsr.linkStatus) = true ∧
        es = [got r.address Register.bmsr status] ∧ out = (.ok (), r)) ∨
      ((r.current.isUp && status.test Bmsr.linkStatus) = false ∧
        status.test Bmsr.anComplete = true ∧
        es = [got r.address Register.bmsr status, got r.address Register.bmsr status] ∧
        out = (.ok (), { r with current := .ofBool (status.test Bmsr.linkStatus) })) ∨
      ((r.current.isUp && status.test Bmsr.linkStatus) = false ∧
        status.test Bmsr.anComplete = false ∧
        es = got r.address Register.bmsr status :: logged (.awaitingNegotiation r.address) ::
          (rounds Timing.negotiationInterval r.address Register.bmsr
              (List.replicate (timeout / Timing.negotiationInterval).toNat status) ++
            [logged (.negotiationTimedOut r.address)]) ∧
        out = (.error .timeout, { r with current := .down })) := by
  cases h with
  | lost c => exact absurd (by simp) (hes.not_lost c)
  | stillUp b hb =>
    obtain rfl := hes.eq_of_got (w := b) (by simp)
    exact .inl ⟨hb, rfl, rfl⟩
  | liveLost b c => exact absurd (by simp) (hes.not_lost c)
  | live b b' hb hc =>
    obtain rfl := hes.eq_of_got (w := b) (by simp)
    obtain rfl := hes.eq_of_got (w := b') (by simp)
    exact .inr (.inl ⟨hb, hc, rfl, rfl⟩)
  | waitLost b values c => exact absurd (by simp) (hes.not_lost c)
  | waited b values v hb hc hlen hv =>
    -- The negotiation would have to finish.
    rw [hes.eq_of_got (w := v) (by simp), ← hes.eq_of_got (w := b) (by simp), hc b (by simp)] at hv
    cases hv
  | ranOut b values hb hc hlen =>
    have hvalues : values = List.replicate (timeout / Timing.negotiationInterval).toNat status :=
      List.eq_replicate_iff.2 ⟨hlen, fun v hv =>
        hes.eq_of_got (by simp [mem_rounds, hv])⟩
    obtain rfl := hes.eq_of_got (w := b) (by simp)
    exact .inr (.inr ⟨hb, hc b (by simp), by rw [hvalues], rfl⟩)

/-- If every read finds a finished negotiation, the link state of the record becomes that of the
link bit, by whichever way. -/
theorem Clause22.LinkTracked.of_finds {timeout : UInt32} {r : PhyRecord} {es : List Event}
    {out : Except Fault Unit × PhyRecord} (h : LinkTracked timeout r es out) {status : Word}
    (hes : Finds r.address Register.bmsr status es) (hc : status.test Bmsr.anComplete = true) :
    out = (.ok (), { r with current := .ofBool (status.test Bmsr.linkStatus) }) := by
  rcases h.cases_of_finds hes with ⟨hb, -, rfl⟩ | ⟨-, -, -, rfl⟩ | ⟨-, hrunning, -⟩
  · obtain ⟨hup, hlink⟩ := Bool.and_eq_true_iff.1 hb
    rw [hlink, ← hup, LinkState.ofBool_isUp]
  · rfl
  · rw [hc] at hrunning
    cases hrunning

namespace Transceiver

/-- If every read finds the same status word, it decides how `awaitSpeed` goes: once it is resolved
the record takes it over at once, and otherwise the wait for it runs out. -/
theorem SpeedAwaited.cases_of_finds {settings : Settings} {r : PhyRecord} {es : List Event}
    {out : Except Fault Unit × PhyRecord} (h : SpeedAwaited settings r es out) {word : Word}
    (hes : Finds r.address Register.physr word es) :
    (Physr.isResolved word = true ∧
        es = [got r.address Register.physr word, logged (.resolved r.address (Physr.mode word))] ∧
        out = (.ok (),
          { r with current := Physr.linkState word, negotiated := some (Physr.mode word) })) ∨
      (Physr.isResolved word = false ∧ out = (.error .timeout, { r with current := .down })) := by
  cases h with
  | lost c => exact absurd (by simp) (hes.not_lost c)
  | resolved v hv =>
    obtain rfl := hes.eq_of_got (w := v) (by simp)
    exact .inl ⟨hv, rfl, rfl⟩
  | waitLost v values c => exact absurd (by simp) (hes.not_lost c)
  | waited v values w hv hlen hw =>
    -- The word would have to become resolved.
    rw [hes.eq_of_got (w := w) (by simp), ← hes.eq_of_got (w := v) (by simp), hv v (by simp)] at hw
    cases hw
  | ranOut v values hv =>
    obtain rfl := hes.eq_of_got (w := v) (by simp)
    exact .inr ⟨hv v (by simp), rfl⟩

theorem SpeedAwaited.of_finds {settings : Settings} {r : PhyRecord} {es : List Event}
    {out : Except Fault Unit × PhyRecord} (h : SpeedAwaited settings r es out) {word : Word}
    (hes : Finds r.address Register.physr word es) :
    out = if Physr.isResolved word then
        (.ok (), { r with current := Physr.linkState word, negotiated := some (Physr.mode word) })
      else (.error .timeout, { r with current := .down }) := by
  rcases h.cases_of_finds hes with ⟨hword, -, rfl⟩ | ⟨hword, rfl⟩
  · rw [if_pos hword]
  · rw [if_neg (by rw [hword]; exact Bool.false_ne_true)]

/-! ### What the three operations make of a steady link -/

/-- The mode of a link whose basic mode status and status word hold still: it is up, and the word is
resolved. -/
def steadyMode (status word : Word) : Option LinkMode :=
  if status.test Bmsr.linkStatus then Physr.mode? word else none

/-- **The settled state of a steady link**, if the negotiation has finished and the status word shows
the link wherever it has to. -/
theorem StateSettled.of_finds {settings : Settings} {r : PhyRecord} {es : List Event}
    {out : Except Fault LinkState × PhyRecord} (h : StateSettled settings r es out)
    {status word : Word} (hb : Finds r.address Register.bmsr status es)
    (hp : Finds r.address Register.physr word es) (hc : status.test Bmsr.anComplete = true)
    (hlink : status.test Bmsr.linkStatus = true → Physr.isResolved word = true →
      word.test Physr.link = true) :
    out.1 = .ok (.ofBool (steadyMode status word).isSome) ∧
      out.2.current = .ofBool (steadyMode status word).isSome ∧
      ∀ mode, steadyMode status word = some mode → out.2.negotiated = some mode := by
  -- The state in which `trackLink` leaves the record is that of the link bit.
  have htrack : ∀ {es : List Event} {s : LinkState}, Finds r.address Register.bmsr status es →
      Clause22.LinkTracked settings.negotiationTimeout r es (.ok (), { r with current := s }) →
      status.test Bmsr.linkStatus = s.isUp := by
    intro es s hes h
    have hcurrent := congrArg (fun o => o.2.current.isUp) (h.of_finds hes hc)
    exact (hcurrent.trans (LinkState.isUp_ofBool _)).symm
  have hdown : ∀ {es : List Event}, Finds r.address Register.bmsr status es →
      Clause22.LinkTracked settings.negotiationTimeout r es (.ok (), { r with current := .down }) →
      steadyMode status word = none := by
    intro es hes h
    rw [steadyMode, htrack hes h]
    rfl
  cases h with
  | trackLost es c h => cases h.of_finds hb hc
  | trackRanOut es h => cases h.of_finds hb hc
  | resolved es es' r' h h' =>
    have hl : status.test Bmsr.linkStatus = true := htrack hb.of_append.1 h
    have hout := h'.of_finds hp.of_append.2
    cases hv : Physr.isResolved word with
    | true =>
      rw [if_pos hv] at hout
      obtain rfl : r' = _ := congrArg Prod.snd hout
      have hmode : steadyMode status word = some (Physr.mode word) := by
        simp [steadyMode, hl, Physr.mode?, hv]
      have hstate : Physr.linkState word = .up := by
        rw [Physr.linkState, hlink hl hv]
        rfl
      rw [hmode]
      simp only [hstate]
      exact ⟨rfl, rfl, fun mode hmode => hmode⟩
    | false =>
      rw [if_neg (by simp [hv])] at hout
      cases hout
  | speedLost es es' c h h' =>
    have hout := h'.of_finds hp.of_append.2
    split at hout <;> cases hout
  | speedRanOut es es' h h' =>
    have hout := h'.of_finds hp.of_append.2
    cases hv : Physr.isResolved word with
    | true =>
      rw [if_pos hv] at hout
      cases hout
    | false =>
      have hmode : steadyMode status word = none := by
        simp [steadyMode, Physr.mode?, hv]
      rw [hmode]
      exact ⟨rfl, rfl, by simp⟩
  | refreshLost es c h => exact absurd (by simp) (hp.not_lost c)
  | refreshed es v h =>
    rw [hdown hb.of_append.1 h]
    exact ⟨rfl, rfl, by simp⟩

/-- **The mode of a steady link.** -/
theorem linkMode_ensures_of_finds (phy : PhyAddress) (status word : Word) :
    (linkMode phy).run.Ensures fun es result => Finds phy Register.bmsr status es →
      Finds phy Register.physr word es → result = .ok (steadyMode status word) := by
  have hup : (Clause22.linkIsUp phy).run.Ensures fun es result =>
      Finds phy Register.bmsr status es → result = .ok (status.test Bmsr.linkStatus) := by
    rw [Clause22.linkIsUp, PhyM.ensures_read_bind]
    refine ⟨fun c h => absurd (by simp) (h.not_lost c), fun b => ?_⟩
    rw [PhyM.ensures_read_bind]
    refine ⟨fun c h => absurd (by simp) (h.not_lost c), fun b' h => ?_⟩
    obtain rfl := h.eq_of_got (w := b') (by simp)
    rfl
  refine PhyM.ensures_bind hup (fun es up h => ?_) (fun es e h hb _ => by cases h hb)
  cases up with
  | true =>
    refine (resolvedMode_ensures phy).mono fun es' result h' hb hp => ?_
    have hlink := Except.ok.inj (h hb.of_append.1)
    rw [steadyMode, ← hlink, if_pos rfl]
    obtain ⟨c, rfl, -⟩ | ⟨v, rfl, rfl⟩ := h'
    · exact absurd (by simp) (hp.not_lost c)
    · rw [hp.eq_of_got (w := v) (by simp)]
  | false =>
    intro hb _
    have hlink := Except.ok.inj (h hb.of_append.1)
    rw [steadyMode, ← hlink]
    rfl

/-- **A look for a new link at a steady one** leaves its mode in the record, whether it is new or
not. -/
theorem newLink_ensures_of_finds (r : PhyRecord) (status word : Word) :
    (newLink.runOn r).Ensures fun es out => Finds r.address Register.bmsr status es →
      Finds r.address Register.physr word es →
      out.2 = { r.observe (steadyMode status word) with
        reported := .ofBool (steadyMode status word).isSome } := by
  rw [newLink, runOn_get_bind]
  refine ensures_liftM_bind (linkMode_ensures_of_finds r.address status word)
    (fun es mode h => ?_) (fun es e h hb hp => by cases h hb hp)
  -- What is left at most logs a message, which keeps the record.
  have hrest : ∀ {x : RecordM (Option LinkMode)}, Keeps id x →
      (x.runOn { r.observe mode with reported := .ofBool mode.isSome }).Ensures fun es' out =>
        Finds r.address Register.bmsr status (es ++ es') →
        Finds r.address Register.physr word (es ++ es') →
        out.2 = { r.observe (steadyMode status word) with
          reported := .ofBool (steadyMode status word).isSome } := by
    intro x hx
    refine (hx _).mono fun es' out hout hb hp => ?_
    rw [← Except.ok.inj (h hb.of_append.1 hp.of_append.1)]
    exact hout
  simp only [runOn_bind, runOn_modify, runOn_modifyGet, Program.done_bind, takeChange_observe]
  split
  · exact hrest (keeps_bind keeps_liftM_program fun _ => keeps_pure)
  · exact hrest (keeps_bind keeps_liftM_program fun _ => keeps_pure)
  · exact hrest keeps_pure

/-! ### Simulated PHYs hold still -/

/-- Who only looks at the link of a simulated PHY finds the same words again and again, if its two
status registers are clear. -/
theorem finds_of_looks {α : Type} {x : Program α} (hx : x.Asks Looking)
    {b : Board SimulatedBus} {a : PhyAddress} (hb : (b.bus.phy a).Clear Register.bmsr)
    (hp : (b.bus.phy a).Clear Register.physr) :
    let es := (x.run SimulatedBus.bus.machine b).events
    Finds a Register.bmsr ((b.bus.phy a).answer Register.bmsr).1 es ∧
      Finds a Register.physr ((b.bus.phy a).answer Register.physr).1 es := by
  intro es
  have hlooks : ∀ e ∈ es, Looking e.request := hx.run SimulatedBus.bus.machine b
  have htrace := SimulatedBus.run_trace False x b a
  have hreads := htrace.of_reads fun e he hphy => by
    have h := hlooks e he
    obtain ⟨q, answer⟩ := e
    cases q with
    | read phy reg =>
      obtain rfl := Option.some.inj hphy
      refine ⟨reg, rfl, ?_⟩
      obtain rfl | rfl : reg = Register.bmsr ∨ reg = Register.physr := by
        simpa [Looking, Request.looks] using h
      · exact ⟨hb, by decide⟩
      · exact ⟨hp, by decide⟩
    | write phy reg value => cases h
    | _ => cases hphy
  refine ⟨fun reply hreply => ?_, fun reply hreply => ?_⟩
  · rw [hreads.2 _ reply hreply, hb.read]
  · rw [hreads.2 _ reply hreply, hp.read]

/-- **The three looks at a settled link agree.**  Let reads of the two status registers of a
simulated PHY neither fail nor find queued values, let the negotiation have finished, and let a
resolved status word show a link wherever basic mode status does.  Then the settled state is up
exactly if the link has a mode, and that mode is then in the record after `settledState` and after
`newLink`; otherwise the settled state is down.  The link state of the record is the same after
both, whatever it was before. -/
theorem pollers_agree (settings : Settings) (r : PhyRecord) (b : Board SimulatedBus)
    (hb : (b.bus.phy r.address).Clear Register.bmsr)
    (hp : (b.bus.phy r.address).Clear Register.physr)
    (hcomplete : ((b.bus.phy r.address).answer Register.bmsr).1.test Bmsr.anComplete = true)
    (hlink : ((b.bus.phy r.address).answer Register.bmsr).1.test Bmsr.linkStatus = true →
      Physr.isResolved ((b.bus.phy r.address).answer Register.physr).1 = true →
      ((b.bus.phy r.address).answer Register.physr).1.test Physr.link = true) :
    let settled := ((settledState settings).runOn r).run SimulatedBus.bus.machine b
    let now := (linkMode r.address).run.run SimulatedBus.bus.machine b
    let look := (newLink.runOn r).run SimulatedBus.bus.machine b
    (settled.result.1 = .ok .up ↔ ∃ mode, now.result = .ok (some mode)) ∧
      (∀ mode, now.result = .ok (some mode) →
        settled.result.2.negotiated = some mode ∧ look.result.2.negotiated = some mode) ∧
      ((∀ mode, now.result ≠ .ok (some mode)) → settled.result.1 = .ok .down) ∧
      settled.result.2.current = look.result.2.current := by
  intro settled now look
  -- Each of the three operations sees the two words `status` and `word` and nothing else.
  obtain ⟨hsb, hsp⟩ := finds_of_looks (settledState_asks settings r) hb hp
  obtain ⟨hmb, hmp⟩ := finds_of_looks linkMode_asks hb hp
  obtain ⟨hlb, hlp⟩ := finds_of_looks (newLink_asks r) hb hp
  have hsettled := (settledState_ensures settings r).run SimulatedBus.bus.machine b
  obtain ⟨hstate, hcurrent, hnegotiated⟩ := hsettled.of_finds hsb hsp hcomplete hlink
  have hnow := (linkMode_ensures_of_finds r.address _ _).run SimulatedBus.bus.machine b hmb hmp
  have hlook := (newLink_ensures_of_finds r _ _).run SimulatedBus.bus.machine b hlb hlp
  change settled.result.1 = _ at hstate
  change settled.result.2.current = _ at hcurrent
  change now.result = _ at hnow
  change look.result.2 = _ at hlook
  change ∀ mode, _ → settled.result.2.negotiated = some mode at hnegotiated
  rw [hstate, hcurrent, hnow, hlook]
  generalize steadyMode _ _ = mode? at hnegotiated ⊢
  refine ⟨?_, fun mode h => ?_, fun h => ?_, rfl⟩
  · cases mode? <;> simp [LinkState.ofBool]
  · obtain rfl := Except.ok.inj h
    exact ⟨hnegotiated mode rfl, rfl⟩
  · cases mode? with
    | none => rfl
    | some mode => exact absurd rfl (h mode)

/-- A gigabit link, at which neither the negotiation nor the speed has to be waited for. -/
theorem pollers_agree_gigabit :
    let b : Board SimulatedBus :=
      { bus := (SimulatedBus.apply {} 0 .powerUp).apply 0 .linkUpGigabitFull }
    let settled := ((settledState {}).runOn {}).run SimulatedBus.bus.machine b
    let now := (linkMode 0).run.run SimulatedBus.bus.machine b
    let look := (newLink.runOn {}).run SimulatedBus.bus.machine b
    (now.result = .ok (some ⟨.mbps1000, .full⟩) ∧ settled.result.1 = .ok .up) ∧
      (settled.result.1 = .ok .up ↔ ∃ mode, now.result = .ok (some mode)) ∧
      (∀ mode, now.result = .ok (some mode) →
        settled.result.2.negotiated = some mode ∧ look.result.2.negotiated = some mode) ∧
      ((∀ mode, now.result ≠ .ok (some mode)) → settled.result.1 = .ok .down) ∧
      settled.result.2.current = look.result.2.current :=
  ⟨⟨rfl, rfl⟩, pollers_agree {} {}
    { bus := (SimulatedBus.apply {} 0 .powerUp).apply 0 .linkUpGigabitFull }
    ⟨by decide, rfl, rfl⟩ ⟨by decide, rfl, rfl⟩ (by decide) (by decide)⟩

end Transceiver

end EthernetPhy
