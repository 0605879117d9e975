import EthernetPhy.Proofs.BringUp
import EthernetPhy.Proofs.NegotiationFrames
import EthernetPhy.Proofs.SteadyLink

/-!
# Looks at a forced link

`Clause22.forceMode` sets the mode of a link by hand and switches the negotiation off, so that the
link comes up without basic mode status ever saying that its negotiation has finished.
`Transceiver.linkMode` and `Transceiver.newLink` go by the link bit and see such a link.
`Transceiver.settledState` sees it only if it is up in the record already: from any other record its
one way to a link is a finished negotiation, for which it waits until the time is over.

* `StateSettled.of_finds_up`, `StateSettled.of_finds_running` : what a call makes of either kind of
  record, and how long it takes, on every bus;
* `looks_at_forced_link` : **the three looks at a forced link** of a simulated PHY.
-/

namespace EthernetPhy

open Event SimulatedPhy RecordM

/-! ### Switching the negotiation off -/

theorem Bmcr.forced_anEnable (mode : LinkMode) (v : Word) :
    (Bmcr.forced mode v).test Bmcr.anEnable = false :=
  Word.test_update v (by decide) (selected_and mode (by decide))

namespace Clause22

theorem forceMode_ensures (phy : PhyAddress) (mode : LinkMode) :
    (forceMode phy mode).run.Ensures fun es result => result = .ok () →
      ∃ v, es = [got phy Register.bmcr v, wrote phy Register.bmcr (Bmcr.forced mode v)] := by
  refine (forceMode_attempted phy mode).mono fun es result h hok => ?_
  obtain ⟨v, h⟩ := h
  subst hok
  exact ⟨v, h.of_ok⟩

/-- After a success the PHY has the mode in force, and no reset is pending. -/
theorem forceMode_effect (phy : PhyAddress) (mode : LinkMode) (b : Board SimulatedBus) :
    let out := (forceMode phy mode).run.run SimulatedBus.bus.machine b
    out.result = .ok () →
      ∃ v, (out.final.bus.phy phy).contents Cell.control = some (Bmcr.forced mode v) ∧
        (out.final.bus.phy phy).pendingReset = none := by
  intro out hok
  obtain ⟨v, hes⟩ := (forceMode_ensures phy mode).run SimulatedBus.bus.machine b hok
  have htrace := SimulatedBus.run_trace False (forceMode phy mode).run b phy
  rw [hes, trace_cons] at htrace
  obtain ⟨p, -, hrest⟩ := htrace
  obtain ⟨p', hwrite, hend⟩ := trace_cons.1 hrest
  rw [trace_nil.1 hend, hwrite.of_wrote]
  exact ⟨v, accept_control (Bmcr.harmless_forced mode v).1⟩

end Clause22

/-! ### Waiting for a negotiation that never finishes -/

/-- The nanoseconds of a wait for the negotiation that runs out. -/
def negotiationTime (timeout : UInt32) : Nat :=
  (timeout / Timing.negotiationInterval).toNat * (Delay.ms Timing.negotiationInterval).nanoseconds

namespace Clause22

namespace LinkTracked

variable {timeout : UInt32} {r : PhyRecord} {es : List Event} {out : Except Fault Unit × PhyRecord}
  {status : Word}

/-- A link that is up in the record and still is costs no time. -/
theorem of_finds_up (h : LinkTracked timeout r es out)
    (hes : Finds r.address Register.bmsr status es)
    (hup : (r.current.isUp && status.test Bmsr.linkStatus) = true) :
    (out, EthernetPhy.waited es) = ((.ok (), r), 0) := by
  rcases h.cases_of_finds hes with ⟨-, rfl, rfl⟩ | ⟨hdown, -⟩ | ⟨hdown, -⟩
  · rfl
  · rw [hup] at hdown
    cases hdown
  · rw [hup] at hdown
    cases hdown

/-- For any other link the whole time is waited, if no read finds a finished negotiation. -/
theorem of_finds_running (h : LinkTracked timeout r es out)
    (hes : Finds r.address Register.bmsr status es) (hc : status.test Bmsr.anComplete = false)
    (hup : (r.current.isUp && status.test Bmsr.linkStatus) = false) :
    (out, EthernetPhy.waited es) =
      ((.error .timeout, { r with current := .down }), negotiationTime timeout) := by
  rcases h.cases_of_finds hes with ⟨hseen, -⟩ | ⟨-, hcomplete, -⟩ | ⟨-, -, rfl, rfl⟩
  · rw [hup] at hseen
    cases hseen
  · rw [hc] at hcomplete
    cases hcomplete
  · rw [waited_cons, waited_cons, waited_append, waited_rounds, List.length_replicate]
    simp [Request.nanoseconds, negotiationTime, EthernetPhy.waited]

end LinkTracked

end Clause22

namespace Transceiver

theorem SpeedAwaited.waited_eq_zero {settings : Settings} {r : PhyRecord} {es : List Event}
    {out : Except Fault Unit × PhyRecord} (h : SpeedAwaited settings r es out) {word : Word}
    (hes : Finds r.address Register.physr word es) (hword : Physr.isResolved word = true) :
    EthernetPhy.waited es = 0 := by
  rcases h.cases_of_finds hes with ⟨-, rfl, -⟩ | ⟨hunresolved, -⟩
  · rfl
  · rw [hword] at hunresolved
    cases hunresolved

/-! ### The settled state without a negotiation -/

namespace StateSettled

variable {settings : Settings} {r : PhyRecord} {es : List Event}
  {out : Except Fault LinkState × PhyRecord} {status word : Word}

/-- A resolved link that is up in the record and still is is seen at once. -/
theorem of_finds_up (h : StateSettled settings r es out)
    (hb : Finds r.address Register.bmsr status es) (hp : Finds r.address Register.physr word es)
    (hup : (r.current.isUp && status.test Bmsr.linkStatus) = true)
    (hword : Physr.isResolved word = true) :
    (out, waited es) = ((.ok (Physr.linkState word),
      { r with current := Physr.linkState word, negotiated := some (Physr.mode word) }), 0) := by
  have hstate : r.current = .up := by
    rw [← LinkState.ofBool_isUp r.current, (Bool.and_eq_true_iff.1 hup).1]
    rfl
  -- `trackLink` leaves the record as it is, so the speed is asked for next.
  have hdown : ∀ {es : List Event}, Finds r.address Register.bmsr status es →
      Clause22.LinkTracked settings.negotiationTimeout r es (.ok (), { r with current := .down }) →
      False := by
    intro es hes h
    have hcurrent := congrArg (fun o => o.1.2.current) (h.of_finds_up hes hup)
    cases hcurrent.trans hstate
  cases h with
  | trackLost es c h => cases h.of_finds_up hb hup
  | trackRanOut es h => cases h.of_finds_up hb hup
  | resolved es es' r' h h' =>
    have hout := h'.of_finds hp.of_append.2
    rw [if_pos hword] at hout
    obtain rfl : r' = _ := congrArg Prod.snd hout
    have htime : waited es = 0 := congrArg Prod.snd (h.of_finds_up hb.of_append.1 hup)
    rw [waited_append, htime, h'.waited_eq_zero hp.of_append.2 hword]
  | speedLost es es' c h h' =>
    have hout := h'.of_finds hp.of_append.2
    rw [if_pos hword] at hout
    cases hout
  | speedRanOut es es' h h' =>
    have hout := h'.of_finds hp.of_append.2
    rw [if_pos hword] at hout
    cases hout
  | refreshLost es c h => exact (hdown hb.of_append.1 h).elim
  | refreshed es v h => exact (hdown hb.of_append.1 h).elim

/-- **Any other link stays unseen if no read finds a finished negotiation**, after the whole time
for one has been waited. -/
theorem of_finds_running (h : StateSettled settings r es out)
    (hb : Finds r.address Register.bmsr status es) (hc : status.test Bmsr.anComplete = false)
    (hup : (r.current.isUp && status.test Bmsr.linkStatus) = false) :
    (out, waited es) = ((.ok .down, { r with current := .down }),
      negotiationTime settings.negotiationTimeout) := by
  cases h with
  | trackLost es c h => cases h.of_finds_running hb hc hup
  | trackRanOut es h =>
    obtain ⟨-, htime⟩ := Prod.mk.inj (h.of_finds_running hb hc hup)
    rw [htime]
  | resolved es es' r' h => cases h.of_finds_running hb.of_append.1 hc hup
  | speedLost es es' c h => cases h.of_finds_running hb.of_append.1 hc hup
  | speedRanOut es es' h => cases h.of_finds_running hb.of_append.1 hc hup
  | refreshLost es c h => cases h.of_finds_running hb.of_append.1 hc hup
  | refreshed es v h => cases h.of_finds_running hb.of_append.1 hc hup

end StateSettled

end Transceiver

/-! ### Forced links of simulated PHYs -/

/-- The two status registers of a PHY show a link in some mode, and no finished negotiation,
whenever they are read. -/
structure SimulatedPhy.ShowsForced (p : SimulatedPhy) (mode : LinkMode) : Prop where
  bmsr : p.Clear Register.bmsr
  physr : p.Clear Register.physr
  linkStatus : (p.answer Register.bmsr).1.test Bmsr.linkStatus = true
  anComplete : (p.answer Register.bmsr).1.test Bmsr.anComplete = false
  resolved : Physr.isResolved (p.answer Register.physr).1 = true
  link : (p.answer Register.physr).1.test Physr.link = true
  mode_eq : Physr.mode (p.answer Register.physr).1 = mode

theorem SimulatedPhy.ShowsForced.steadyMode_eq {p : SimulatedPhy} {mode : LinkMode}
    (h : p.ShowsForced mode) :
    Transceiver.steadyMode (p.answer Register.bmsr).1 (p.answer Register.physr).1 = some mode := by
  rw [Transceiver.steadyMode, if_pos h.linkStatus, Physr.mode?, if_pos h.resolved, h.mode_eq]

/-- A board after changes to the PHY at an address from outside. -/
def Board.change (b : Board SimulatedBus) (a : PhyAddress) (changes : List Setup) :
    Board SimulatedBus :=
  { b with bus := changes.foldl (fun s c => s.apply a c) b.bus }

namespace Transceiver

/-- **The three looks at a forced link.**  Let the mode of a link be forced with success, which
leaves the negotiation off, and let the link then come up in that mode.  Looks that do not wait see
it, whatever the record says.  The settled state sees it if it is up in the record; if it is down
there, the answer is that it is down, with nothing new in the record, after the whole time for a
negotiation. -/
theorem looks_at_forced_link (settings : Settings) (r : PhyRecord) (mode : LinkMode)
    (b : Board SimulatedBus) (changes : List Setup) :
    let forced := (Clause22.forceMode r.address mode).run.run SimulatedBus.bus.machine b
    let b' := forced.final.change r.address changes
    let settled := ((settledState settings).runOn r).run SimulatedBus.bus.machine b'
    let now := (linkMode r.address).run.run SimulatedBus.bus.machine b'
    let look := (newLink.runOn r).run SimulatedBus.bus.machine b'
    forced.result = .ok () → (b'.bus.phy r.address).ShowsForced mode →
      (∃ control, (forced.final.bus.phy r.address).contents Cell.control = some control ∧
        control.test Bmcr.anEnable = false) ∧
      now.result = .ok (some mode) ∧
      look.result.2 = { r with current := .up, reported := .up, negotiated := some mode } ∧
      (r.current = .up → settled.result = (.ok .up, { r with negotiated := some mode }) ∧
        settled.final.elapsed = b'.elapsed) ∧
      (r.current = .down → settled.result = (.ok .down, r) ∧
        settled.final.elapsed = b'.elapsed + negotiationTime settings.negotiationTimeout) := by
  intro forced b' settled now look hforced h
  obtain ⟨v, hcontrol, -⟩ := Clause22.forceMode_effect r.address mode b hforced
  obtain ⟨hsb, hsp⟩ := finds_of_looks (settledState_asks settings r) h.bmsr h.physr
  obtain ⟨hmb, hmp⟩ := finds_of_looks linkMode_asks h.bmsr h.physr
  obtain ⟨hlb, hlp⟩ := finds_of_looks (newLink_asks r) h.bmsr h.physr
  have hsettled := (settledState_ensures settings r).run SimulatedBus.bus.machine b'
  have htime : settled.final.elapsed = _ := SimulatedBus.bus.run_elapsed _ b'
  have hnow : now.result = _ := (linkMode_ensures_of_finds r.address _ _).run _ b' hmb hmp
  have hlook : look.result.2 = _ := (newLink_ensures_of_finds r _ _).run _ b' hlb hlp
  rw [h.steadyMode_eq] at hnow hlook
  refine ⟨⟨_, hcontrol, Bmcr.forced_anEnable mode v⟩, hnow, hlook, fun hup => ?_, fun hdown => ?_⟩
  · obtain ⟨hout, hzero⟩ := Prod.mk.inj
      (hsettled.of_finds_up hsb hsp (by rw [hup]; exact h.linkStatus) h.resolved)
    have hstate : Physr.linkState ((b'.bus.phy r.address).answer Register.physr).1 = .up := by
      rw [Physr.linkState, h.link]
      rfl
    have hrecord : { r with current := .up, negotiated := some mode } =
        { r with negotiated := some mode } := by rw [← hup]
    rw [hstate, h.mode_eq, hrecord] at hout
    exact ⟨hout, by rw [htime, hzero, Nat.add_zero]⟩
  · obtain ⟨hout, hwhole⟩ := Prod.mk.inj
      (hsettled.of_finds_running hsb h.anComplete (by rw [hdown]; rfl))
    have hrecord : { r with current := .down } = r := by rw [← hdown]
    rw [hrecord] at hout
    exact ⟨hout, by rw [htime, hwhole]⟩

/-- A link at 100 Mbps full duplex comes up without a negotiation. -/
def fastFullComesUp : List Setup :=
  [.register Page.standard Register.bmsr 0x794D, .register Page.standard Register.physr 0x6C00]

/-- A link at 100 Mbps full duplex that was forced while it was up in the record. -/
theorem looks_at_forced_link_up :
    let settings : Settings := {}
    let r : PhyRecord := { current := .up }
    let b : Board SimulatedBus := { bus := SimulatedBus.apply {} 0 .powerUp }
    let forced := (Clause22.forceMode r.address .fastFull).run.run SimulatedBus.bus.machine b
    let b' := forced.final.change r.address fastFullComesUp
    let settled := ((settledState settings).runOn r).run SimulatedBus.bus.machine b'
    let now := (linkMode r.address).run.run SimulatedBus.bus.machine b'
    let look := (newLink.runOn r).run SimulatedBus.bus.machine b'
    (forced.result = .ok () ∧ (b'.bus.phy r.address).ShowsForced .fastFull) ∧
      (∃ control, (forced.final.bus.phy r.address).contents Cell.control = some control ∧
        control.test Bmcr.anEnable = false) ∧
      now.result = .ok (some .fastFull) ∧
      look.result.2 = { r with current := .up, reported := .up, negotiated := some .fastFull } ∧
      (r.current = .up → settled.result = (.ok .up, { r with negotiated := some .fastFull }) ∧
        settled.final.elapsed = b'.elapsed) ∧
      (r.current = .down → settled.result = (.ok .down, r) ∧
        settled.final.elapsed = b'.elapsed + negotiationTime settings.negotiationTimeout) := by
  intro settings r b forced b' settled now look
  have hforced : forced.result = .ok () := by decide +kernel
  have hhealthy : (b'.bus.phy r.address).Healthy :=
    .of_unset (by decide +kernel) (by decide +kernel) (by decide +kernel) (by decide +kernel)
  have hshows : (b'.bus.phy r.address).ShowsForced .fastFull :=
    ⟨hhealthy.clear _, hhealthy.clear _, by decide +kernel, by decide +kernel, by decide +kernel,
      by decide +kernel, by decide +kernel⟩
  have hlooks := looks_at_forced_link settings r .fastFull b fastFullComesUp hforced hshows
  with_reducible exact ⟨⟨hforced, hshows⟩, hlooks⟩

/-- A link that was forced after a bring-up, when it is down in the record: a look finds it, and its
settled state is that it is down. -/
theorem forced_link_unseen :
    let settings : Settings := { negotiationTimeout := 100 }
    let b : Board SimulatedBus := { bus := SimulatedBus.apply {} 0 .powerUp }
    let broughtUp := ((bringUp settings).runOn {}).run SimulatedBus.bus.machine b
    let r := broughtUp.result.2
    let forced :=
      (Clause22.forceMode r.address .fastFull).run.run SimulatedBus.bus.machine broughtUp.final
    let b' := forced.final.change r.address fastFullComesUp
    let settled := ((settledState settings).runOn r).run SimulatedBus.bus.machine b'
    let now := (linkMode r.address).run.run SimulatedBus.bus.machine b'
    broughtUp.result.1 = .ok () ∧ forced.result = .ok () ∧
      (b'.bus.phy r.address).ShowsForced .fastFull ∧ now.result = .ok (some .fastFull) ∧
      settled.result.1 = .ok .down ∧ settled.result.2.negotiated = none := by
  intro settings b broughtUp r forced b' settled now
  have hhealthy : (b'.bus.phy r.address).Healthy :=
    .of_unset (by decide +kernel) (by decide +kernel) (by decide +kernel) (by decide +kernel)
  have hshows : (b'.bus.phy r.address).ShowsForced .fastFull :=
    ⟨hhealthy.clear _, hhealthy.clear _, by decide +kernel, by decide +kernel, by decide +kernel,
      by decide +kernel, by decide +kernel⟩
  exact ⟨by decide +kernel, by decide +kernel, hshows, by decide +kernel, by decide +kernel,
    by decide +kernel⟩

end Transceiver

end EthernetPhy
