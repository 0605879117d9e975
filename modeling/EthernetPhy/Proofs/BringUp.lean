import EthernetPhy.Proofs.Footprints
import EthernetPhy.Proofs.Installation
import EthernetPhy.Proofs.ResetCountdown
import EthernetPhy.Proofs.SimulatedPages

/-!
# Bringing up a healthy PHY

What a bring-up does at the PHY that it has found is `install`: a reset that is waited for, another
one that is not, and then the settings.

* `install_settles` : **whatever frames are lost, what the settings make of the registers stays the
  same**, so that a bring-up can be repeated;
* `install_ensures_ends` : **without losses the registers become just that**, page `0` is selected, no
  reset is pending, and the time that has passed is the time of one reset.

The second reset is still pending while the settings are written, and it is called off by the last
write of all, which starts the negotiation.
-/

namespace EthernetPhy

open Event SimulatedPhy

/-- A board keeps the time. -/
theorem Bus.run_elapsed {σ α : Type} (bus : Bus σ) (x : Program α) (b : Board σ) :
    (x.run bus.machine b).final.elapsed = b.elapsed + waited (x.run bus.machine b).events := by
  induction x generalizing b with
  | done a => rfl
  | ask q next ih =>
    have hstep : (bus.machine.answer q b).2.elapsed = b.elapsed + q.nanoseconds := by
      cases q with
      | drive level =>
        change (b.drive level).2.elapsed = _
        unfold Board.drive
        split <;> rfl
      | _ => rfl
    rw [Program.run_ask, ih, hstep, waited_cons, Nat.add_assoc]

/-! ### A reset -/

namespace SimulatedPhy

variable {lossy : Prop} {a : PhyAddress} {p p' : SimulatedPhy} {es : List Event}

/-- A reset that is not lost begins at once. -/
theorem Passes.of_reset {answer : Except BusFault Unit} (hp : p.Healthy)
    (h : Passes lossy a p ⟨.write a Register.bmcr Bmcr.reset, answer⟩ p') :
    (answer = .ok () ∧ p'.contents = resetControl p.contents ∧ p'.page = p.page ∧
        p'.pendingReset = some p.resetLatency) ∨
      lossy ∧ p' = p ∧ ∃ c, answer = .error c := by
  obtain ⟨hanswer, hp'⟩ | hlost := h.of_write
  · rw [hp.write, accept, if_neg (by decide), if_pos rfl, writeControl, if_pos (by decide)]
      at hanswer hp'
    refine .inl ⟨hanswer, ?_, ?_, ?_⟩
    · rw [hp', contents_store]
      rfl
    · rw [hp']
      rfl
    · rw [hp']
      rfl
  · exact .inr hlost

theorem Trace.contents_of_reads (h : Trace lossy a p es p')
    (hes : ∀ e ∈ es, e.request.isWrite = false) : p'.contents = p.contents := by
  rw [h.replay.1, landed_eq_nil fun e he _ => Event.lands_of_isWrite_eq_false (hes e he)]
  rfl

end SimulatedPhy

namespace Clause22

/-- What is left of a reset, whatever comes of it: basic mode control was reset, or nothing has
happened because the reset was lost. -/
theorem reset_ensures_contents (lossy : Prop) (phy : PhyAddress) (polls : UInt32) :
    (reset phy polls).run.Ensures fun es _ => ∀ p p' : SimulatedPhy, p.Working →
      Trace lossy phy p es p' →
      p'.contents = resetControl p.contents ∨ lossy ∧ p'.contents = p.contents := by
  refine reset_ensures.mono fun es _ h p p' hp htrace => ?_
  obtain ⟨answer, rest, rfl, hrest⟩ := h
  obtain ⟨q, hpass, hreads⟩ := trace_cons.1 htrace
  have hsame := hreads.contents_of_reads fun e he => (hrest e he).1
  obtain ⟨-, hcontents, -⟩ | ⟨hlossy, rfl, -⟩ := hpass.of_reset hp.healthy
  · exact .inl (hsame.trans hcontents)
  · exact .inr ⟨hlossy, hsame⟩

/-- A reset that is not lost ends within the looks for it. -/
theorem reset_ensures_ends (phy : PhyAddress) (polls : UInt32) :
    (reset phy polls).run.Ensures fun es result => ∀ p p' : SimulatedPhy, p.Working →
      p.resetLatency ≠ neverEnds → p.resetLatency ≤ polls → Trace False phy p es p' →
      result = .ok () ∧ waited es = p.resetLatency.toNat * 1000000 := by
  refine (reset_ensures_done phy polls).mono fun es result h p p' hp hends hpolls htrace => ?_
  have haccepts : Register.bmcr ∉ p.failingWrites := by
    rw [hp.healthy.accepts]
    exact List.not_mem_nil
  have hverdict := h.latency (hp.healthy.clear _) haccepts htrace
  rw [latencyVerdict, if_pos ⟨hpolls, hends⟩] at hverdict
  obtain ⟨hasked, hresult⟩ := Prod.mk.inj hverdict
  -- Of the requests only the delays take time, and there is one in each round.
  have hwrite : (Request.write phy Register.bmcr Bmcr.reset).nanoseconds = 0 := rfl
  have hround : (([.read phy Register.bmcr, .delay (.ms 1)] : List Request).map
      Request.nanoseconds).sum = 1000000 := by simp [Request.nanoseconds, Delay.nanoseconds]
  have hlook : (([.read phy Register.bmcr] : List Request).map Request.nanoseconds).sum = 0 := rfl
  refine ⟨hresult, ?_⟩
  rw [waited_eq_sum_asked, hasked, List.map_append, List.sum_append, List.map_cons, List.sum_cons,
    sum_nanoseconds_times, hwrite, hround, hlook, Nat.zero_add, Nat.add_zero]

end Clause22

/-! ### What is asked of one PHY -/

/-- A request that is no frame for another PHY. -/
def Request.Spares (phy : PhyAddress) (q : Request) : Prop := ∀ phy', q.phy? = some phy' → phy' = phy

/-- A request that takes no time and is no frame for another PHY. -/
def Request.Prompt (phy : PhyAddress) (q : Request) : Prop := q.isDelay = false ∧ q.Spares phy

section

variable {phy : PhyAddress}

theorem prompt_write {reg : RegAddress} {value : Word} : Request.Prompt phy (.write phy reg value) :=
  ⟨rfl, fun _ h => (Option.some.inj h).symm⟩

theorem Footprint.Allows.spares {f : Footprint} {q : Request} (h : f.Allows phy q) : q.Spares phy :=
  h.elim (P := Request.Spares phy) (fun _ _ _ h => (Option.some.inj h).symm)
    (fun _ _ _ _ => prompt_write.2) (fun _ _ => nofun) fun _ => nofun

theorem Footprint.Allows.prompt {f : Footprint} {q : Request} (h : f.Allows phy q)
    (hf : f.waits = false) : q.Prompt phy :=
  ⟨h.isDelay_eq_false hf, h.spares⟩

namespace Transceiver

theorem Covers.spares {f : Footprint} {opens : Bool} {es : List Event} {e : Event}
    (h : Covers f phy opens es) (he : e ∈ es) : e.request.Spares phy := by
  obtain hallows | hreset := h.request he
  · exact hallows.spares
  · rw [hreset]
    exact prompt_write.2

theorem configure_prompt (settings : Settings) :
    PhyM.Asks (Request.Prompt phy) (configure settings phy) :=
  (configure_within phy settings).mono fun _ h => h.prompt rfl

theorem applySettings_prompt (settings : Settings) :
    PhyM.Asks (Request.Prompt phy) (applySettings settings phy) := by
  rw [PhyM.Asks, run_applySettings]
  exact .ask prompt_write fun _ => configure_prompt settings

end Transceiver

end

/-! ### The settings after a reset -/

namespace Transceiver

/-- What a bring-up does at the PHY that it has found. -/
def install (settings : Settings) (phy : PhyAddress) : PhyM Unit := do
  Clause22.reset phy settings.resetPolls
  applySettings settings phy
  Program.log (.ready phy)

section

variable {lossy : Prop} {settings : Settings} {phy : PhyAddress}

/-- Writing the settings begins with a reset, and then makes their updates. -/
theorem applySettings_ensures_installed (lossy : Prop) (settings : Settings) (phy : PhyAddress) :
    (applySettings settings phy).run.Ensures fun es result => ∀ p p' : SimulatedPhy, p.Working →
      Trace lossy phy p es p' →
      ∃ q : SimulatedPhy, (q.contents = resetControl p.contents ∨ lossy ∧ q.contents = p.contents) ∧
        Installed lossy AtRest settings.updates q result p' := by
  rw [run_applySettings]
  intro answer
  have hconfigure : Installs lossy phy (fun _ => True) AtRest settings.updates
      (configure settings phy) := configure_installs settings
  refine Program.Ensures.mono hconfigure fun es result h p p' hp htrace => ?_
  obtain ⟨q, hpass, hrest⟩ := trace_cons.1 htrace
  have hcontents : q.contents = resetControl p.contents ∨ lossy ∧ q.contents = p.contents := by
    obtain ⟨-, hcontents, -⟩ | ⟨hlossy, rfl, -⟩ := hpass.of_reset hp.healthy
    · exact .inl hcontents
    · exact .inr ⟨hlossy, rfl⟩
  have hstatus : q.contents Cell.status = p.contents Cell.status := by
    obtain hcontents | ⟨-, hcontents⟩ := hcontents
    · rw [hcontents, resetControl, Function.update_of_ne (by decide)]
    · rw [hcontents]
  exact ⟨q, hcontents, h q p' ((Trace.cons hpass (.nil q)).working hp hstatus) trivial hrest⟩

/-- However many frames are lost, an operation leads to the same registers once a bring-up follows
it. -/
def Settles (lossy : Prop) (settings : Settings) (phy : PhyAddress) (x : PhyM Unit) : Prop :=
  x.run.Ensures fun es _ => ∀ p p' : SimulatedPhy, p.Working → Trace lossy phy p es p' →
    settings.settle p'.contents = settings.settle p.contents

theorem Settles.bind {x : PhyM Unit} {y : Unit → PhyM Unit} (hx : Settles lossy settings phy x)
    (hy : Settles lossy settings phy (y ())) : Settles lossy settings phy (x >>= y) := by
  refine PhyM.ensures_bind hx (fun es ⟨⟩ h => ?_) (fun es c h => h)
  refine Program.Ensures.mono hy fun es' result h' p p'' hp htrace => ?_
  obtain ⟨p', htrace, htrace'⟩ := trace_append.1 htrace
  have hsettle := h p p' hp htrace
  have hstatus : p'.contents Cell.status = p.contents Cell.status := by
    have hsame := congrFun hsettle Cell.status
    rwa [Settings.settle_status, Settings.settle_status] at hsame
  rw [h' p' p'' (htrace.working hp hstatus) htrace', hsettle]

theorem settle_of_reset {f f' : Contents} (h : f = resetControl f' ∨ lossy ∧ f = f') :
    settings.settle f = settings.settle f' := by
  obtain rfl | ⟨-, rfl⟩ := h
  · exact Settings.settle_resetControl
  · rfl

/-- **Whatever frames are lost, the bring-up of a PHY can be repeated**: it leads to the same
registers. -/
theorem install_settles : Settles lossy settings phy (install settings phy) := by
  have hreset : Settles lossy settings phy (Clause22.reset phy settings.resetPolls) :=
    (Clause22.reset_ensures_contents lossy phy _).mono fun es _ h p p' hp htrace =>
      settle_of_reset (h p p' hp htrace)
  have happly : Settles lossy settings phy (applySettings settings phy) := by
    refine (applySettings_ensures_installed lossy settings phy).mono
      fun es result h p p' hp htrace => ?_
    obtain ⟨q, hcontents, hinstalled⟩ := h p p' hp htrace
    rw [← settle_of_reset hcontents]
    cases hinstalled with
    | all hcontents' => rw [hcontents', Settings.settle_applyAll fun u hu => hu]
    | part _ first hfirst hcontents' =>
      rw [hcontents', Settings.settle_applyAll fun u hu => hfirst.subset hu]
  have hlog : Settles lossy settings phy (liftM (Program.log (.ready phy)) : PhyM Unit) := by
    intro answer p p' _ htrace
    rw [htrace.eq_of_others (List.forall_mem_singleton.2 nofun)]
  exact hreset.bind (happly.bind hlog)

/-- Without losses all updates are made, in no time. -/
theorem applySettings_ensures_ends (settings : Settings) (phy : PhyAddress) :
    (applySettings settings phy).run.Ensures fun es result => ∀ p p' : SimulatedPhy, p.Working →
      Trace False phy p es p' →
      result = .ok () ∧ waited es = 0 ∧ p'.contents = settings.settle p.contents ∧
        p'.page = Page.standard ∧ p'.pendingReset = none := by
  have hprompt : (applySettings settings phy).run.Ensures fun es _ =>
      ∀ e ∈ es, Request.Prompt phy e.request := applySettings_prompt settings
  refine ((applySettings_ensures_installed False settings phy).and hprompt).mono
    fun es result h p p' hp htrace => ?_
  obtain ⟨hinstalled, hprompt⟩ := h
  obtain ⟨q, hcontents, hinstalled⟩ := hinstalled p p' hp htrace
  have hreset : q.contents = resetControl p.contents := by
    obtain hcontents | ⟨hlossy, -⟩ := hcontents
    · exact hcontents
    · exact hlossy.elim
  cases hinstalled with
  | all hcontents' hpost =>
    exact ⟨rfl, waited_eq_zero fun e he => (hprompt e he).1, by rw [hcontents', hreset]; rfl, hpost⟩
  | part hlossy => exact hlossy.elim

/-- **Without losses a PHY that works is brought up**: its registers are those that the settings ask
for, page `0` is selected, no reset is pending, and the time is that of one reset. -/
theorem install_ensures_ends (settings : Settings) (phy : PhyAddress) :
    (install settings phy).run.Ensures fun es result => ∀ p p' : SimulatedPhy, p.Working →
      p.resetLatency ≠ neverEnds → p.resetLatency ≤ settings.resetPolls →
      Trace False phy p es p' →
      result = .ok () ∧ waited es = p.resetLatency.toNat * 1000000 ∧
        p'.contents = settings.settle p.contents ∧ p'.page = Page.standard ∧
        p'.pendingReset = none := by
  have hreset := (Clause22.reset_ensures_ends phy settings.resetPolls).and
    (Clause22.reset_ensures_contents False phy settings.resetPolls)
  refine PhyM.ensures_bind hreset (fun es ⟨⟩ h => ?_) (fun es c h p p' hp hends hpolls htrace => ?_)
  · obtain ⟨htime, hcontents⟩ := h
    -- The reset has ended, and the PHY still works.
    have hreset : ∀ {p p' : SimulatedPhy}, p.Working → Trace False phy p es p' →
        p'.Working ∧ settings.settle p'.contents = settings.settle p.contents := by
      intro p p' hp htrace
      have hsettle : settings.settle p'.contents = settings.settle p.contents :=
        settle_of_reset (hcontents p p' hp htrace)
      have hsame := congrFun hsettle Cell.status
      rw [Settings.settle_status, Settings.settle_status] at hsame
      exact ⟨htrace.working hp hsame, hsettle⟩
    refine PhyM.ensures_bind (applySettings_ensures_ends settings phy) (fun es' ⟨⟩ h' answer => ?_)
      (fun es' c h' => ?_)
    · intro p p'' hp hends hpolls htrace
      obtain ⟨p', htrace, hrest⟩ := trace_append.1 htrace
      obtain ⟨q, happly, hlog⟩ := trace_append.1 hrest
      obtain rfl : p'' = q := hlog.eq_of_others (List.forall_mem_singleton.2 nofun)
      obtain ⟨hp', hsettle⟩ := hreset hp htrace
      obtain ⟨-, hwaited', hcontents', hpage, hpending⟩ := h' p' p'' hp' happly
      obtain ⟨-, hwaited⟩ := htime p p' hp hends hpolls htrace
      refine ⟨rfl, ?_, hcontents'.trans hsettle, hpage, hpending⟩
      have hlogged : waited [⟨.log (.ready phy), answer⟩] = 0 := rfl
      rw [waited_append, waited_append, hwaited, hwaited', hlogged, Nat.add_zero]
    · intro p p'' hp hends hpolls htrace
      obtain ⟨p', htrace, happly⟩ := trace_append.1 htrace
      cases (h' p' p'' (hreset hp htrace).1 happly).1
  · cases (h.1 p p' hp hends hpolls htrace).1

theorem install_spares (settings : Settings) :
    PhyM.Asks (Request.Spares phy) (install settings phy) := by
  have hreset : (Clause22.reset phy settings.resetPolls).run.Asks (Request.Spares phy) :=
    (reset_covers _).mono fun _ _ h _ he => h.spares he
  refine PhyM.asks_bind hreset fun _ => PhyM.asks_bind ?_ fun _ => ?_
  · exact (applySettings_prompt settings).mono fun _ h => h.2
  · exact PhyM.asks_program (.ask nofun fun _ => .done)

end

end Transceiver

end EthernetPhy
