import EthernetPhy.Proofs.HealthyBringUp
import EthernetPhy.Proofs.PageKeeping

/-!
# A bring-up can be repeated

A bring-up that fails takes nothing back: some registers are changed already, a page may be left
open, a reset may be pending, and a sweep that misses a PHY may have gone on to the next one.  Yet
nothing of this shows after another bring-up (`bringUp_retry`): **after any number of attempts during
which frames are lost, one without losses leaves the PHY as it would have done at the start.**

What is followed through the attempts is not the registers but what the settings make of them
(`Settings.settle`).  Each attempt keeps it (`bringUp_ensures_settle`) and keeps the bus `Ready`
(`bringUp_ensures_ready`), and the last one turns it into the registers (`bringUp_ensures_ends`).
-/

namespace EthernetPhy

open SimulatedPhy

/-! ### What an attempt keeps -/

theorem SimulatedPhy.Working.answer {p : SimulatedPhy} (h : p.Working) {reg : RegAddress}
    (hcontrol : reg ≠ Register.bmcr) (hselect : reg ≠ Register.pageSelect) :
    (p.answer reg).1 = (p.contents (bank p.page reg, reg)).getD 0 := by
  have hread := h.read hcontrol hselect
  rw [(h.healthy.clear reg).read] at hread
  exact Except.ok.inj (Prod.mk.inj hread).1

theorem SimulatedPhy.Working.detectable_iff {p : SimulatedPhy} (h : p.Working) :
    p.Detectable ↔ (p.contents (Page.standard, Register.phyidr1)).getD 0 ≠ .idle ∧
      (p.contents (Page.standard, Register.phyidr2)).getD 0 ≠ .idle := by
  have hbank1 : bank p.page Register.phyidr1 = Page.standard := rfl
  have hbank2 : bank p.page Register.phyidr2 = Page.standard := rfl
  rw [Detectable, h.answer (by decide) (by decide), h.answer (by decide) (by decide), hbank1, hbank2]

namespace Transceiver

/-- **Whatever frames are lost, a bus that is ready for a bring-up stays so**, and so does what the
settings make of the registers of its first PHY. -/
theorem bringUp_ensures_ready (lossy : Prop) (settings : Settings) (r : PhyRecord)
    (a : PhyAddress) :
    ((bringUp settings).runOn r).Ensures fun es _ => ∀ phys phys' : PhyAddress → SimulatedPhy,
      Ready settings phys a → (∀ q, Trace lossy q (phys q) es (phys' q)) →
      Ready settings phys' a ∧
        settings.settle (phys' a).contents = settings.settle (phys a).contents := by
  refine (Program.Ensures.forall (bringUp_ensures_settle lossy settings r)).mono
    fun es _ h phys phys' hready htrace => ?_
  have hsettle := (h a _ _ (htrace a)).1 hready.working
  -- The registers that a bring-up never changes are as they were.
  have hkept : ∀ {cell : Cell}, cell ∉ Cell.installed →
      (phys' a).contents cell = (phys a).contents cell := by
    intro cell hcell
    have hnot : cell ∉ settings.cells := fun hmem => hcell (settings.cells_sublist.subset hmem)
    have hsame := congrFun hsettle cell
    rwa [Settings.settle_of_not_mem hnot, Settings.settle_of_not_mem hnot] at hsame
  have hworking := (htrace a).working hready.working (hkept (by decide))
  have hdetectable : (phys' a).Detectable := by
    rw [hworking.detectable_iff, hkept (by decide), hkept (by decide)]
    exact hready.working.detectable_iff.1 hready.detectable
  have hlatency := ((htrace a).healthy (hready.healthy a)).2.1
  refine ⟨?_, hsettle⟩
  constructor
  case address => exact hready.address
  case healthy => exact fun q => ((htrace q).healthy (hready.healthy q)).1
  case detectable => exact hdetectable
  case first =>
    intro q hq
    rw [(h q _ _ (htrace q)).2 (hready.healthy q) (hready.first q hq)]
    exact hready.first q hq
  case negotiates => exact hworking.negotiates
  case ends => exact hlatency ▸ hready.ends
  case soon => exact hlatency ▸ hready.soon

end Transceiver

/-! ### Attempts -/

namespace Rig

variable (settings : Settings)

/-- A bring-up on a rig. -/
def bringUp (rig : Rig) : Outcome (Board SimulatedBus) (Except Fault Unit × PhyRecord) :=
  ((Transceiver.bringUp settings).runOn rig.record).run SimulatedBus.bus.machine rig.board

/-- The rig after a bring-up during which a script decides what becomes of the frames. -/
def attempt (rig : Rig) (script : List Override) : Rig :=
  let out := ((Transceiver.bringUp settings).runOn rig.record).run
    SimulatedBus.bus.scripted.machine { rig.board with bus := ⟨script, rig.board.bus⟩ }
  ⟨out.result.2, { out.final with bus := out.final.bus.inner }⟩

/-- The rig after some attempts. -/
def attempts (rig : Rig) (scripts : List (List Override)) : Rig :=
  scripts.foldl (attempt settings) rig

variable {settings} {rig : Rig} {a : PhyAddress}

theorem attempt_ready {script : List Override} (hscript : ∀ o ∈ script, o.isHonest = true)
    (h : Transceiver.Ready settings rig.board.bus.phy a) :
    Transceiver.Ready settings (rig.attempt settings script).board.bus.phy a ∧
      settings.settle ((rig.attempt settings script).board.bus.phy a).contents =
        settings.settle (rig.board.bus.phy a).contents :=
  (Transceiver.bringUp_ensures_ready True settings rig.record a).run
    SimulatedBus.bus.scripted.machine _ _ _ h fun q =>
      SimulatedBus.run_trace_scripted ((Transceiver.bringUp settings).runOn rig.record)
        (b := { rig.board with bus := ⟨script, rig.board.bus⟩ }) hscript q

theorem attempts_ready {scripts : List (List Override)}
    (hscripts : ∀ script ∈ scripts, ∀ o ∈ script, o.isHonest = true)
    (h : Transceiver.Ready settings rig.board.bus.phy a) :
    Transceiver.Ready settings (rig.attempts settings scripts).board.bus.phy a ∧
      settings.settle ((rig.attempts settings scripts).board.bus.phy a).contents =
        settings.settle (rig.board.bus.phy a).contents := by
  induction scripts generalizing rig with
  | nil => exact ⟨h, rfl⟩
  | cons script rest ih =>
    obtain ⟨hscript, hrest⟩ := List.forall_mem_cons.1 hscripts
    obtain ⟨hready, hsettle⟩ := attempt_ready hscript h
    obtain ⟨hready', hsettle'⟩ := ih hrest hready
    exact ⟨hready', hsettle'.trans hsettle⟩

theorem bringUp_ready (h : Transceiver.Ready settings rig.board.bus.phy a) :
    let out := rig.bringUp settings
    out.result = (.ok (), { address := a }) ∧
      (out.final.bus.phy a).contents = settings.settle (rig.board.bus.phy a).contents ∧
      (out.final.bus.phy a).page = Page.standard ∧ (out.final.bus.phy a).pendingReset = none := by
  obtain ⟨hresult, -, hcontents, hpage, hpending, -⟩ :=
    (Transceiver.bringUp_ensures_ends settings rig.record a).run SimulatedBus.bus.machine rig.board
      _ _ h (SimulatedBus.run_trace False _ rig.board)
  exact ⟨hresult, hcontents, hpage, hpending⟩

/-- **A bring-up can be repeated.**  After any number of attempts during which frames are lost,
wherever that is, a bring-up without losses succeeds, and the first PHY that can be detected has the
registers, the page and the pending reset that it would have had without the attempts. -/
theorem bringUp_retry (settings : Settings) {rig : Rig} {a : PhyAddress}
    (h : Transceiver.Ready settings rig.board.bus.phy a) {scripts : List (List Override)}
    (hscripts : ∀ script ∈ scripts, ∀ o ∈ script, o.isHonest = true) :
    let retried := (rig.attempts settings scripts).bringUp settings
    let single := rig.bringUp settings
    retried.result = (.ok (), { address := a }) ∧
      (∀ page reg, (retried.final.bus.phy a).register? page reg =
        (single.final.bus.phy a).register? page reg) ∧
      (retried.final.bus.phy a).page = (single.final.bus.phy a).page ∧
      (retried.final.bus.phy a).pendingReset = (single.final.bus.phy a).pendingReset := by
  intro retried single
  obtain ⟨hready, hsettle⟩ := attempts_ready hscripts h
  obtain ⟨hresult, hcontents, hpage, hpending⟩ := bringUp_ready hready
  obtain ⟨-, hcontents', hpage', hpending'⟩ := bringUp_ready h
  have hsame : (retried.final.bus.phy a).contents = (single.final.bus.phy a).contents := by
    rw [hcontents, hsettle, hcontents']
  exact ⟨hresult, fun page reg => congrFun hsame (page, reg), hpage.trans hpage'.symm,
    hpending.trans hpending'.symm⟩

/-- The first attempt misses the PHY at the address `0` and brings up another one, and the second one
fails at the first page select, so that a page is still open and the reset still pending. -/
theorem bringUp_retry_twice :
    let p : SimulatedPhy := { powerUp {} with page := Page.led, resetLatency := 2 }
    let rig : Rig := ⟨{}, { bus := (SimulatedBus.setPhy {} 0 p).setPhy 1 (powerUp {}) }⟩
    let settings : Settings := { led := some 0x1234, powerSaving := some true }
    let scripts : List (List Override) := [[.fail .noResponse],
      List.replicate 7 .forward ++ [.fail .timeout]]
    let retried := (rig.attempts settings scripts).bringUp settings
    let single := rig.bringUp settings
    (Transceiver.Ready settings rig.board.bus.phy 0 ∧
      (∀ script ∈ scripts, ∀ o ∈ script, o.isHonest = true) ∧
      ((rig.attempts settings scripts).board.bus.phy 0).page = Page.led ∧
      ((rig.attempts settings scripts).board.bus.phy 0).pendingReset = some 2) ∧
      retried.result = (.ok (), { address := 0 }) ∧
      (∀ page reg, (retried.final.bus.phy 0).register? page reg =
        (single.final.bus.phy 0).register? page reg) ∧
      (retried.final.bus.phy 0).page = (single.final.bus.phy 0).page ∧
      (retried.final.bus.phy 0).pendingReset = (single.final.bus.phy 0).pendingReset := by
  intro p rig settings scripts
  have hhealthy : ∀ q, (rig.board.bus.phy q).Healthy :=
    SimulatedBus.healthy_setPhy (SimulatedBus.healthy_setPhy (fun _ => .of_unset rfl rfl rfl rfl)
      (.of_unset rfl rfl rfl rfl)) (.of_unset rfl rfl rfl rfl)
  have hdetectable : (rig.board.bus.phy 0).Detectable := ⟨by decide +kernel, by decide +kernel⟩
  have hfirst : ∀ q < (0 : PhyAddress), ¬ (rig.board.bus.phy q).Detectable :=
    fun q hq => absurd hq UInt8.not_lt_zero
  have hready : Transceiver.Ready settings rig.board.bus.phy 0 :=
    ⟨by decide, hhealthy, hdetectable, hfirst, by decide +kernel, by decide +kernel,
      by decide +kernel⟩
  have hscripts : ∀ script ∈ scripts, ∀ o ∈ script, o.isHonest = true := by decide
  exact ⟨⟨hready, hscripts, by decide +kernel, by decide +kernel⟩,
    bringUp_retry settings hready hscripts⟩

end Rig

end EthernetPhy
