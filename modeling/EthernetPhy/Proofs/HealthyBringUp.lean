import EthernetPhy.Proofs.BringUp
import EthernetPhy.Simulator.Setup

/-!
# Bringing up a PHY of a bus

A bus is `Ready` if nothing goes wrong at its PHYs and the first one that can be detected can be
brought up.  Healthy PHYs are not changed by a sweep, whatever frames it loses, so what a bring-up
does to a bus is what it does at the PHY that was found (`runOn_bringUp`):

* `bringUp_ensures_settle` : with losses, for each PHY, wherever the sweep has ended;
* `bringUp_ensures_ends` : without losses, for all PHYs together.

`bringUp_effect` says it **register by register** (`BroughtUp`): which bits a bring-up changes, and
that it changes no others, at no other PHY and on no other page.
-/

namespace EthernetPhy

open Event SimulatedPhy

/-! ### The sweep -/

/-- Neither identifier register of a PHY reads as an idle bus. -/
def SimulatedPhy.Detectable (p : SimulatedPhy) : Prop :=
  (p.answer Register.phyidr1).1 ≠ .idle ∧ (p.answer Register.phyidr2).1 ≠ .idle

theorem SimulatedPhy.Detectable.isPresent {p : SimulatedPhy} (h : p.Detectable) :
    p.isPresent = true := by
  by_contra hpresent
  have hidle : (p.answer Register.phyidr1).1 = .idle := by
    rw [answer, eq_false_of_ne_true hpresent]
    rfl
  exact h.1 hidle

namespace Clause22

/-- A read of an identifier register of a healthy PHY changes nothing there; it finds the answer of
the PHY, and fails only if it is lost. -/
theorem passes_identifier {lossy : Prop} {q phy : PhyAddress} {p p' : SimulatedPhy}
    {reg : RegAddress} {answer : Except BusFault Word} (hp : p.Healthy)
    (hreg : reg ≠ Register.bmcr) (h : Passes lossy q p ⟨.read phy reg, answer⟩ p') :
    p' = p ∧ (phy = q →
      (∀ value, answer = .ok value → value = (p.answer reg).1) ∧
        ∀ c, answer = .error c → lossy) := by
  by_cases hphy : phy = q
  · subst hphy
    obtain ⟨rfl, rfl⟩ | ⟨hlossy, rfl, c, rfl⟩ := h.of_read
    · rw [(hp.clear reg).read_snd hreg, (hp.clear reg).read]
      exact ⟨rfl, fun _ => ⟨fun value h => (Except.ok.inj h).symm, nofun⟩⟩
    · exact ⟨rfl, fun _ => ⟨nofun, fun _ _ => hlossy⟩⟩
  · exact ⟨h.of_other fun hsome => hphy (Option.some.inj hsome), fun h => absurd h hphy⟩

/-- What a probe says of a healthy PHY, which it leaves as it is. -/
theorem probe_ensures_detects (lossy : Prop) (phy q : PhyAddress) :
    (probe phy).run.Ensures fun es result => ∀ p p' : SimulatedPhy, p.Healthy →
      Trace lossy q p es p' → p' = p ∧ (phy = q →
        (∀ ids, result = .ok (some ids) → p.Detectable) ∧
          (¬ lossy → p.Detectable → ∃ ids, result = .ok (some ids))) := by
  simp only [probe, ExceptT.run_bind, BusM.run_read, Program.ask_bind, Program.done_bind,
    Program.ensures_ask]
  rintro (c | id1)
  · intro p p' hp htrace
    obtain ⟨p₁, hpass, hrest⟩ := trace_cons.1 htrace
    obtain rfl := trace_nil.1 hrest
    obtain ⟨rfl, hanswer⟩ := passes_identifier hp (by decide) hpass
    exact ⟨rfl, fun hphy => ⟨nofun, fun hlossy _ => absurd ((hanswer hphy).2 c rfl) hlossy⟩⟩
  rintro (c | id2)
  · intro p p' hp htrace
    obtain ⟨p₁, hpass, hrest⟩ := trace_cons.1 htrace
    obtain ⟨rfl, -⟩ := passes_identifier hp (by decide) hpass
    obtain ⟨p₂, hpass, hrest⟩ := trace_cons.1 hrest
    obtain rfl := trace_nil.1 hrest
    obtain ⟨rfl, hanswer⟩ := passes_identifier hp (by decide) hpass
    exact ⟨rfl, fun hphy => ⟨nofun, fun hlossy _ => absurd ((hanswer hphy).2 c rfl) hlossy⟩⟩
  · intro p p' hp htrace
    obtain ⟨p₁, hpass, hrest⟩ := trace_cons.1 htrace
    obtain ⟨rfl, hanswer⟩ := passes_identifier hp (by decide) hpass
    obtain ⟨p₂, hpass', hrest⟩ := trace_cons.1 hrest
    obtain rfl := trace_nil.1 hrest
    obtain ⟨rfl, hanswer'⟩ := passes_identifier hp (by decide) hpass'
    refine ⟨rfl, fun hphy => ?_⟩
    rw [Detectable, ← (hanswer hphy).1 id1 rfl, ← (hanswer' hphy).1 id2 rfl]
    split
    · rename_i hids
      exact ⟨fun _ _ => hids, fun _ _ => ⟨_, rfl⟩⟩
    · rename_i hids
      exact ⟨nofun, fun _ h => absurd h hids⟩

/-- A sweep leaves healthy PHYs as they are; it finds none that cannot be detected, and without
losses it finds one no later than the first that can be. -/
theorem sweep_ensures_detects (lossy : Prop) (q : PhyAddress) {phys : List PhyAddress}
    (hphys : phys.Pairwise (· < ·)) :
    (sweep phys).Ensures fun es found => ∀ p p' : SimulatedPhy, p.Healthy →
      Trace lossy q p es p' → p' = p ∧
        (∀ ids, found = some (q, ids) → p.Detectable) ∧
        (¬ lossy → p.Detectable → q ∈ phys → ∃ q' ids, found = some (q', ids) ∧ q' ≤ q) := by
  induction phys with
  | nil =>
    intro p p' _ htrace
    exact ⟨trace_nil.1 htrace, by simp, by simp⟩
  | cons phy rest ih =>
    obtain ⟨hle, hrest⟩ := List.pairwise_cons.1 hphys
    rw [sweep]
    refine (probe_ensures_detects lossy phy q).bind fun es found h => ?_
    -- Where the probe finds nothing, the rest of the sweep decides.
    have hnext : (∀ ids, found ≠ .ok (some ids)) → (sweep rest).Ensures fun es' found' =>
        ∀ p p' : SimulatedPhy, p.Healthy → Trace lossy q p (es ++ es') p' → p' = p ∧
          (∀ ids, found' = some (q, ids) → p.Detectable) ∧
          (¬ lossy → p.Detectable → q ∈ phy :: rest → ∃ q' ids, found' = some (q', ids) ∧ q' ≤ q) := by
      intro hnone
      refine (ih hrest).mono fun es' found' h' p p' hp htrace => ?_
      obtain ⟨p₁, hprobe, hsweep⟩ := trace_append.1 htrace
      obtain ⟨rfl, hfound⟩ := h p p₁ hp hprobe
      obtain ⟨rfl, hdetects, hfinds⟩ := h' _ p' hp hsweep
      refine ⟨rfl, hdetects, fun hlossy hdetectable hmem => ?_⟩
      obtain rfl | hmem := List.mem_cons.1 hmem
      · obtain ⟨ids, hids⟩ := (hfound rfl).2 hlossy hdetectable
        exact absurd hids (hnone ids)
      · exact hfinds hlossy hdetectable hmem
    split
    · rename_i id1 id2
      intro p p' hp htrace
      rw [List.append_nil] at htrace
      obtain ⟨rfl, hfound⟩ := h p p' hp htrace
      refine ⟨rfl, fun ids hids => ?_, fun _ _ hmem => ⟨phy, _, rfl, ?_⟩⟩
      · obtain ⟨rfl, -⟩ := Prod.mk.inj (Option.some.inj hids)
        exact (hfound rfl).1 _ rfl
      · obtain rfl | hmem := List.mem_cons.1 hmem
        · exact UInt8.le_refl _
        · exact UInt8.le_of_lt (hle q hmem)
    · exact hnext (by simp)
    · exact hnext (by simp)

end Clause22

/-! ### The bring-up -/

namespace Transceiver

/-- A bring-up is a sweep, and then what is done at the PHY that was found. -/
theorem runOn_bringUp (settings : Settings) (r : PhyRecord) :
    (bringUp settings).runOn r = Clause22.sweep PhyAddress.all >>= fun found =>
      match found with
      | none => .ask (.log .nothingDetected) fun _ => .done (.error .noPhy, {})
      | some (phy, id1, id2) => .ask (.log (.detected phy id1 id2)) fun _ =>
        (·, { address := phy }) <$> (install settings phy).run := by
  rw [bringUp, RecordM.runOn_bind, RecordM.runOn_set, Program.done_bind]
  simp only [Clause22.discover, RecordM.runOn_bind, RecordM.runOn_liftM_program,
    Program.bind_bind, bind_map_left]
  congr 1
  funext found
  cases found with
  | none => rfl
  | some found =>
    change Program.ask _ _ = _
    congr 1
    funext answer
    change ((reset settings).runOn { address := found.1 } >>= _) = _
    simp only [reset, install, ExceptT.run_bind, RecordM.runOn_bind, RecordM.runOn_get,
      RecordM.runOn_liftM_phy, Program.done_bind, bind_map_left, map_bind]
    congr 1
    funext result
    cases result with
    | error e => rfl
    | ok =>
      dsimp only
      rw [map_bind]
      congr 1
      funext result
      cases result <;> rfl

theorem install_ensures_eq (lossy : Prop) (settings : Settings) (phy : PhyAddress) :
    (install settings phy).run.Ensures fun es _ => ∀ q, phy ≠ q → ∀ p p' : SimulatedPhy,
      Trace lossy q p es p' → p' = p := by
  have hspares : (install settings phy).run.Asks (Request.Spares phy) := install_spares settings
  exact Program.Ensures.mono hspares fun _ _ hes q hphy p p' htrace =>
    htrace.eq_of_others fun e he hq => hphy (hes e he q hq).symm

/-- **Whatever frames are lost, a bring-up can be repeated.**  The PHYs that work come to the same
registers as before, and the healthy ones that cannot be detected are not touched. -/
theorem bringUp_ensures_settle (lossy : Prop) (settings : Settings) (r : PhyRecord)
    (q : PhyAddress) :
    ((bringUp settings).runOn r).Ensures fun es _ => ∀ p p' : SimulatedPhy,
      Trace lossy q p es p' →
      (p.Working → settings.settle p'.contents = settings.settle p.contents) ∧
        (p.Healthy → ¬ p.Detectable → p' = p) := by
  rw [runOn_bringUp]
  refine (Clause22.sweep_ensures_detects lossy q PhyAddress.pairwise_all).bind fun es found h => ?_
  obtain _ | ⟨phy, id1, id2⟩ := found
  · intro answer p p' htrace
    obtain ⟨p₁, hsweep, hlog⟩ := trace_append.1 htrace
    obtain rfl := hlog.eq_of_others (List.forall_mem_singleton.2 nofun)
    have hsame := fun hp => (h p p' hp hsweep).1
    exact ⟨fun hp => by rw [hsame hp.healthy], fun hp _ => hsame hp⟩
  · intro answer
    rw [Program.ensures_map]
    have hlogged : ∀ {p p' : SimulatedPhy} {es' : List Event}, p.Healthy →
        Trace lossy q p (es ++ ⟨.log (.detected phy id1 id2), answer⟩ :: es') p' →
        (q = phy → p.Detectable) ∧ Trace lossy q p es' p' := by
      intro p p' es' hp htrace
      obtain ⟨p₁, hsweep, hrest⟩ := trace_append.1 htrace
      obtain ⟨p₂, hlog, hinstall⟩ := trace_cons.1 hrest
      obtain rfl := hlog.of_other nofun
      obtain ⟨rfl, hdetects, -⟩ := h p p₂ hp hsweep
      exact ⟨fun hq => hdetects _ (by rw [hq]), hinstall⟩
    by_cases hphy : phy = q
    · subst hphy
      have hsettles : Settles lossy settings phy (install settings phy) := install_settles
      refine Program.Ensures.mono hsettles fun es' _ hsettle p p' htrace =>
        ⟨fun hp => ?_, fun hp hundetectable => ?_⟩
      · exact hsettle p p' hp (hlogged hp.healthy htrace).2
      · exact absurd ((hlogged hp htrace).1 rfl) hundetectable
    · refine (install_ensures_eq lossy settings phy).mono fun es' _ hsame p p' htrace =>
        ⟨fun hp => ?_, fun hp _ => ?_⟩
      · rw [hsame q hphy p p' (hlogged hp.healthy htrace).2]
      · exact hsame q hphy p p' (hlogged hp htrace).2

/-- Nothing goes wrong at any PHY, and the first one that can be detected is at the address `a`; it
can negotiate, and a reset of it ends within the looks for that. -/
structure Ready (settings : Settings) (phys : PhyAddress → SimulatedPhy) (a : PhyAddress) :
    Prop where
  address : a ∈ PhyAddress.all
  healthy : ∀ q, (phys q).Healthy
  detectable : (phys a).Detectable
  first : ∀ q < a, ¬ (phys q).Detectable
  negotiates : (((phys a).register? Page.standard Register.bmsr).getD 0).test Bmsr.anAbility = true
  ends : (phys a).resetLatency ≠ neverEnds
  soon : (phys a).resetLatency ≤ settings.resetPolls

theorem Ready.working {settings : Settings} {phys : PhyAddress → SimulatedPhy} {a : PhyAddress}
    (h : Ready settings phys a) : (phys a).Working :=
  ⟨h.healthy a, h.detectable.isPresent, h.negotiates⟩

/-- **Without losses the first PHY is brought up.** -/
theorem bringUp_ensures_ends (settings : Settings) (r : PhyRecord) (a : PhyAddress) :
    ((bringUp settings).runOn r).Ensures fun es out => ∀ phys phys' : PhyAddress → SimulatedPhy,
      Ready settings phys a → (∀ q, Trace False q (phys q) es (phys' q)) →
      out = (.ok (), { address := a }) ∧
        waited es = (phys a).resetLatency.toNat * 1000000 ∧
        (phys' a).contents = settings.settle (phys a).contents ∧
        (phys' a).page = Page.standard ∧ (phys' a).pendingReset = none ∧
        ∀ q ≠ a, phys' q = phys q := by
  rw [runOn_bringUp]
  have hsweep := (Program.Ensures.forall fun q =>
    Clause22.sweep_ensures_detects False q PhyAddress.pairwise_all).and
      (Clause22.sweep_ensures PhyAddress.all)
  refine hsweep.bind fun es found h => ?_
  obtain ⟨hfound, hreads⟩ := h
  -- The sweep takes no time, and what it has found is the first PHY that can be detected.
  have htime : waited es = 0 := waited_eq_zero fun e he => by
    have hread := hreads e he
    obtain ⟨q, answer⟩ := e
    cases q <;> first | rfl | cases hread
  have hfirst : ∀ {phys phys' : PhyAddress → SimulatedPhy} {es' : List Event},
      Ready settings phys a → (∀ q, Trace False q (phys q) (es ++ es') (phys' q)) →
      ∃ ids, found = some (a, ids) := by
    intro phys phys' es' hready htrace
    obtain ⟨p, htrace_a, -⟩ := trace_append.1 (htrace a)
    obtain ⟨-, -, hfinds⟩ := hfound a (phys a) p hready.working.healthy htrace_a
    obtain ⟨q', ids, rfl, hle⟩ := hfinds id hready.detectable hready.address
    obtain hlt | rfl := UInt8.lt_or_eq_of_le hle
    · obtain ⟨p', htrace_q, -⟩ := trace_append.1 (htrace q')
      have hdetectable := (hfound q' (phys q') p' (hready.healthy q') htrace_q).2.1 ids rfl
      exact absurd hdetectable (hready.first q' hlt)
    · exact ⟨ids, rfl⟩
  obtain _ | ⟨phy, id1, id2⟩ := found
  · intro answer phys phys' hready htrace
    obtain ⟨ids, hids⟩ := hfirst hready htrace
    cases hids
  · intro answer
    rw [Program.ensures_map]
    refine ((install_ensures_ends settings phy).and (install_ensures_eq False settings phy)).mono
      fun es' result h phys phys' hready htrace => ?_
    obtain ⟨hinstall, hothers⟩ := h
    obtain ⟨ids, hids⟩ := hfirst hready htrace
    obtain ⟨rfl, -⟩ := Prod.mk.inj (Option.some.inj hids)
    -- At each PHY the sweep and the message change nothing.
    have hrest : ∀ q, Trace False q (phys q) es' (phys' q) := by
      intro q
      obtain ⟨p₁, hsweep, hrest⟩ := trace_append.1 (htrace q)
      obtain ⟨p₂, hlog, hinstall⟩ := trace_cons.1 hrest
      obtain rfl := hlog.of_other nofun
      rw [(hfound q (phys q) p₂ (hready.healthy q) hsweep).1] at hinstall
      exact hinstall
    obtain ⟨rfl, hwaited, hcontents, hpage, hpending⟩ := hinstall _ _ hready.working hready.ends
      hready.soon (hrest phy)
    refine ⟨rfl, ?_, hcontents, hpage, hpending, fun q hne => ?_⟩
    · rw [waited_append, htime, waited_cons, hwaited]
      exact (Nat.zero_add _).trans (Nat.zero_add _)
    · exact hothers q (Ne.symm hne) _ _ (hrest q)

/-! ### Register by register -/

/-- A PHY after a bring-up, compared with the PHY before it; a register that was not stored counts
as `0`. -/
structure BroughtUp (settings : Settings) (p p' : SimulatedPhy) : Prop where
  /-- The negotiation is on and starts again, and nothing else is set. -/
  control : p'.register? Page.standard Register.bmcr = some 0x1200
  /-- All modes at 10 and 100 Mbps are advertised. -/
  advertised : p'.register? Page.standard Register.anar =
    some ((p.register? Page.standard Register.anar).getD 0 ||| 0x01E0)
  /-- Both modes at 1000 Mbps are advertised. -/
  gigabit : p'.register? Page.standard Register.ctrl1000 =
    some ((p.register? Page.standard Register.ctrl1000).getD 0 ||| 0x0300)
  /-- One bit says whether the transmit clock is delayed. -/
  txDelay : p'.register? Page.clockDelay Register.txDelay =
    some (((p.register? Page.clockDelay Register.txDelay).getD 0).update 0x0100
      (if settings.clockDelay.tx then 0x0100 else 0))
  /-- One bit says whether the receive clock is delayed. -/
  rxDelay : p'.register? Page.clockDelay Register.rxDelay =
    some (((p.register? Page.clockDelay Register.rxDelay).getD 0).update 0x0008
      (if settings.clockDelay.rx then 0x0008 else 0))
  /-- LED control has the value of the settings, if they have one. -/
  led : p'.register? Page.led Register.lcr = (settings.led <|> p.register? Page.led Register.lcr)
  /-- One bit says whether the clock output pin is driven, if the settings do. -/
  clockOut : p'.register? Page.control Register.phycr2 =
    ((settings.clockOut.map fun on =>
      ((p.register? Page.control Register.phycr2).getD 0).update 0x0001 (if on then 0x0001 else 0))
        <|> p.register? Page.control Register.phycr2)
  /-- Three bits say whether the PHY saves power, if the settings do. -/
  powerSaving : p'.register? Page.control Register.phycr1 =
    ((settings.powerSaving.map fun on =>
      ((p.register? Page.control Register.phycr1).getD 0).update 0x1006 (if on then 0x1006 else 0))
        <|> p.register? Page.control Register.phycr1)
  /-- All other registers are as they were. -/
  others : ∀ page reg, (page, reg) ∉ Cell.installed → p'.register? page reg = p.register? page reg
  /-- Page `0` is selected. -/
  page : p'.page = Page.standard
  /-- No reset is pending. -/
  pending : p'.pendingReset = none

theorem broughtUp_of_settle {settings : Settings} {p p' : SimulatedPhy}
    (hcontents : p'.contents = settings.settle p.contents) (hpage : p'.page = Page.standard)
    (hpending : p'.pendingReset = none) : BroughtUp settings p p' := by
  have hregister : ∀ page reg, p'.register? page reg = settings.settle p.contents (page, reg) :=
    fun page reg => congrFun hcontents (page, reg)
  have hupdate : ∀ u ∈ settings.updates, u.cell ≠ Cell.control →
      p'.register? u.cell.1 u.cell.2 = some (u.value p.contents) :=
    fun u hu hcontrol => (hregister _ _).trans (Settings.settle_cell hu hcontrol)
  have htx : Update.switch (Page.clockDelay, Register.txDelay) ClockDelayBit.tx
      settings.clockDelay.tx ∈ settings.updates := by simp [Settings.updates, Settings.delayUpdates]
  have hrx : Update.switch (Page.clockDelay, Register.rxDelay) ClockDelayBit.rx
      settings.clockDelay.rx ∈ settings.updates := by simp [Settings.updates, Settings.delayUpdates]
  have hadvertise : Update.advertise ∈ settings.updates := by
    simp [Settings.updates, negotiationUpdates]
  have hgigabit : Update.advertiseGigabit ∈ settings.updates := by
    simp [Settings.updates, negotiationUpdates]
  constructor
  case control => exact (hregister _ _).trans Settings.settle_control
  case advertised =>
    exact (hupdate _ hadvertise (by decide)).trans (congrArg some (Word.update_zero _))
  case gigabit =>
    exact (hupdate _ hgigabit (by decide)).trans (congrArg some (Word.update_zero _))
  case txDelay =>
    have hcontrol : (Page.clockDelay, Register.txDelay) ≠ Cell.control := by decide
    exact (hupdate _ htx hcontrol).trans (congrArg some Update.value_switch)
  case rxDelay =>
    have hcontrol : (Page.clockDelay, Register.rxDelay) ≠ Cell.control := by decide
    exact (hupdate _ hrx hcontrol).trans (congrArg some Update.value_switch)
  case led => exact (hregister _ _).trans Settings.settle_led
  case clockOut => exact (hregister _ _).trans Settings.settle_clockOut
  case powerSaving => exact (hregister _ _).trans Settings.settle_powerSaving
  case others =>
    intro page reg hnot
    exact (hregister page reg).trans
      (Settings.settle_of_not_mem fun hmem => hnot (settings.cells_sublist.subset hmem))
  case page => exact hpage
  case pending => exact hpending

/-- **The effect of a bring-up.**  On a bus where nothing goes wrong, the first PHY that can be
detected is brought up: the driver knows its address, the time of its reset has passed, of its
registers just those that belong to the settings and to the negotiation have changed, and of the
other PHYs nothing has. -/
theorem bringUp_effect (settings : Settings) (r : PhyRecord) {b : Board SimulatedBus}
    {a : PhyAddress} (h : Ready settings b.bus.phy a) :
    let out := ((bringUp settings).runOn r).run SimulatedBus.bus.machine b
    out.result = (.ok (), { address := a }) ∧
      out.final.elapsed = b.elapsed + (b.bus.phy a).resetLatency.toNat * 1000000 ∧
      BroughtUp settings (b.bus.phy a) (out.final.bus.phy a) ∧
      ∀ q ≠ a, out.final.bus.phy q = b.bus.phy q := by
  intro out
  obtain ⟨hresult, hwaited, hcontents, hpage, hpending, hothers⟩ :=
    (bringUp_ensures_ends settings r a).run SimulatedBus.bus.machine b _ _ h
      (SimulatedBus.run_trace False _ b)
  exact ⟨hresult, by rw [SimulatedBus.bus.run_elapsed, hwaited],
    broughtUp_of_settle hcontents hpage hpending, hothers⟩

/-- A PHY at the address `1` is brought up that has another page selected and takes three looks for
a reset. -/
theorem bringUp_effect_otherPage :
    let p : SimulatedPhy := { powerUp {} with page := Page.control, resetLatency := 3 }
    let b : Board SimulatedBus := { bus := SimulatedBus.setPhy {} 1 p }
    let settings : Settings := { led := some 0x1234, clockOut := some false }
    let out := ((bringUp settings).runOn {}).run SimulatedBus.bus.machine b
    Ready settings b.bus.phy 1 ∧
      out.result = (.ok (), { address := 1 }) ∧
      out.final.elapsed = b.elapsed + (b.bus.phy 1).resetLatency.toNat * 1000000 ∧
      BroughtUp settings (b.bus.phy 1) (out.final.bus.phy 1) ∧
      ∀ q ≠ 1, out.final.bus.phy q = b.bus.phy q := by
  intro p b settings
  have hready : Ready settings b.bus.phy 1 := by
    have hhealthy : ∀ q, (b.bus.phy q).Healthy :=
      SimulatedBus.healthy_setPhy (fun _ => .of_unset rfl rfl rfl rfl) (.of_unset rfl rfl rfl rfl)
    have hfirst : ∀ q < (1 : PhyAddress), ¬ (b.bus.phy q).Detectable := by
      intro q hq hdetectable
      have hzero : q = 0 := by
        rw [UInt8.lt_iff_toNat_lt] at hq
        exact UInt8.toNat_inj.1 (Nat.lt_one_iff.1 hq)
      subst hzero
      exact hdetectable.1 rfl
    have hdetectable : (b.bus.phy 1).Detectable := ⟨by decide +kernel, by decide +kernel⟩
    exact ⟨by decide, hhealthy, hdetectable, hfirst, by decide +kernel, by decide, by decide⟩
  exact ⟨hready, bringUp_effect settings {} hready⟩

end Transceiver

end EthernetPhy
