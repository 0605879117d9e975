import EthernetPhy.Proofs.UpdatesInOrder

/-!
# Settings arrive at a PHY

A PHY is `Working` if nothing goes wrong there, it is present and it can negotiate.  At such a PHY
nothing is in the way of an operation but the loss of frames, so an operation either makes all of its
updates, or a frame was lost and it has made the first ones only (`Installed`); `Installs` says so of
an operation.

**Writing the settings makes the updates of the settings** (`configure_installs`), with losses the
first ones of them.
-/

namespace EthernetPhy

/-! ### A PHY that works -/

namespace SimulatedPhy

variable {lossy : Prop} {a : PhyAddress} {p p' : SimulatedPhy} {reg : RegAddress} {value : Word}
  {e : Event} {es : List Event}

/-- A read of a healthy PHY at most brings a pending reset closer to its end. -/
theorem Healthy.read_snd (h : p.Healthy) (reg : RegAddress) :
    ∃ pending, (p.read reg).2 = { p with pendingReset := pending } := by
  have hsame : ∃ pending, p = { p with pendingReset := pending } := ⟨p.pendingReset, rfl⟩
  rw [(h.clear reg).read, answer, (h.clear reg).takeQueued]
  split
  · exact hsame
  split
  · exact hsame
  dsimp only
  split
  · unfold readControl
    split
    · exact hsame
    split
    · exact hsame
    split
    · exact hsame
    · exact ⟨_, rfl⟩
  · exact hsame

theorem Healthy.read (h : p.Healthy) (hpresent : p.isPresent = true)
    (hcontrol : reg ≠ Register.bmcr) (hselect : reg ≠ Register.pageSelect) :
    p.read reg = (.ok ((p.contents (bank p.page reg, reg)).getD 0), p) := by
  rw [(h.clear reg).read, answer, hpresent, if_neg (by decide), if_neg hselect,
    (h.clear reg).takeQueued, if_neg hcontrol]
  rfl

theorem Healthy.of_unset (hreads : p.failingReads = []) (hleft : p.readsLeft = {})
    (hqueued : p.queued = {}) (hwrites : p.failingWrites = []) : p.Healthy := by
  refine ⟨fun reg => ⟨?_, ?_, ?_⟩, hwrites⟩
  · rw [hreads]
    exact List.not_mem_nil
  · rw [hleft]
    rfl
  · rw [hqueued]
    rfl

theorem Healthy.write (h : p.Healthy) : p.write reg value = (.ok (), p.accept reg value) := by
  rw [SimulatedPhy.write, h.accepts, if_neg List.not_mem_nil]

theorem Healthy.accept (h : p.Healthy) (reg : RegAddress) (value : Word) :
    (p.accept reg value).Healthy ∧ (p.accept reg value).resetLatency = p.resetLatency ∧
      (p.isPresent = true → (p.accept reg value).isPresent = true) := by
  obtain ⟨registers, page, pending, hwrite, -, -⟩ := write_snd p reg value
  rw [h.write] at hwrite
  dsimp only at hwrite
  refine ⟨?_, by rw [hwrite], isPresent_accept⟩
  rw [hwrite]
  exact ⟨fun reg => ⟨(h.clear reg).passes, (h.clear reg).unlimited, (h.clear reg).unqueued⟩,
    h.accepts⟩

/-- Over a trace a healthy PHY stays healthy, and takes as long for a reset as before. -/
theorem Trace.healthy (h : Trace lossy a p es p') (hp : p.Healthy) :
    p'.Healthy ∧ p'.resetLatency = p.resetLatency ∧
      (p.isPresent = true → p'.isPresent = true) := by
  refine h.invariant (I := fun q => q.Healthy ∧ q.resetLatency = p.resetLatency ∧
    (p.isPresent = true → q.isPresent = true)) ⟨hp, rfl, id⟩ (fun q reg hq => ?_)
    (fun q reg value hq => ?_)
  · obtain ⟨hhealthy, hlatency, hpresent⟩ := hq
    obtain ⟨pending, hread⟩ := hhealthy.read_snd reg
    rw [hread]
    exact ⟨⟨fun reg => ⟨(hhealthy.clear reg).passes, (hhealthy.clear reg).unlimited,
      (hhealthy.clear reg).unqueued⟩, hhealthy.accepts⟩, hlatency, hpresent⟩
  · obtain ⟨hhealthy, hlatency, hpresent⟩ := hq
    rw [hhealthy.write]
    obtain ⟨hhealthy', hlatency', hpresent'⟩ := hhealthy.accept reg value
    exact ⟨hhealthy', hlatency'.trans hlatency, fun h => hpresent' (hpresent h)⟩

/-- A healthy PHY that is there and can negotiate. -/
structure Working (p : SimulatedPhy) : Prop where
  healthy : p.Healthy
  present : p.isPresent = true
  negotiates : ((p.contents Cell.status).getD 0).test Bmsr.anAbility = true

theorem Trace.working (h : Trace lossy a p es p') (hp : p.Working)
    (hstatus : p'.contents Cell.status = p.contents Cell.status) : p'.Working := by
  obtain ⟨hhealthy, -, hpresent⟩ := h.healthy hp.healthy
  exact ⟨hhealthy, hpresent hp.present, by rw [hstatus]; exact hp.negotiates⟩

theorem Working.read (h : p.Working) (hcontrol : reg ≠ Register.bmcr)
    (hselect : reg ≠ Register.pageSelect) :
    p.read reg = (.ok ((p.contents (bank p.page reg, reg)).getD 0), p) :=
  h.healthy.read h.present hcontrol hselect

theorem Working.steady (h : p.Working) : p.Steady :=
  ⟨h.present, fun reg => (h.healthy.clear reg).unqueued⟩

theorem Passes.lossy_of_failure (h : Passes lossy a p e p') (hp : p.Healthy)
    (hphy : e.request.phy? = some a) (hfail : e.failure? ≠ none) : lossy := by
  cases h with
  | read reg =>
    rw [(hp.clear reg).read] at hfail
    exact absurd rfl hfail
  | write reg value =>
    rw [hp.write] at hfail
    exact absurd rfl hfail
  | lost _ hlossy => exact hlossy
  | other _ hother => exact absurd hphy hother

theorem Trace.lossy_of_failure (h : Trace lossy a p es p') (hp : p.Healthy) (he : e ∈ es)
    (hphy : e.request.phy? = some a) (hfail : e.failure? ≠ none) : lossy := by
  induction h with
  | nil => cases he
  | @cons p q p' e' es hstep _ ih =>
    obtain rfl | he := List.mem_cons.1 he
    · exact hstep.lossy_of_failure hp hphy hfail
    · exact ih ((Trace.cons hstep (.nil q)).healthy hp).1 he

end SimulatedPhy

theorem SimulatedBus.healthy_setPhy {b : SimulatedBus} {a : PhyAddress} {p : SimulatedPhy}
    (hb : ∀ q, (b.phy q).Healthy) (hp : p.Healthy) : ∀ q, ((b.setPhy a p).phy q).Healthy := by
  intro q
  obtain rfl | hq := eq_or_ne a q
  · rwa [SimulatedBus.phy_setPhy_self]
  · rw [SimulatedBus.phy_setPhy_of_ne _ _ hq]
    exact hb q

/-! ### Updates that arrive -/

open SimulatedPhy

/-- What has become of some updates when the operation that makes them has ended: all have been
made, or frames may be lost and only the first ones have. -/
inductive Installed {ε : Type} (lossy : Prop) (post : SimulatedPhy → Prop) (us : List Update)
    (p : SimulatedPhy) : Except ε Unit → SimulatedPhy → Prop
  /-- All updates have been made. -/
  | all {p' : SimulatedPhy} (hcontents : p'.contents = applyAll us p.contents) (hpost : post p') :
    Installed lossy post us p (.ok ()) p'
  /-- A frame was lost after the first updates. -/
  | part {p' : SimulatedPhy} {e : ε} (hlossy : lossy) (first : List Update) (hfirst : first <+: us)
      (hcontents : p'.contents = applyAll first p.contents) :
    Installed lossy post us p (.error e) p'

/-- Once it starts at a PHY that works and satisfies `pre`, an operation makes some updates there,
and if no frame is lost, `post` holds after it. -/
def Installs {ε : Type} (lossy : Prop) (a : PhyAddress) (pre post : SimulatedPhy → Prop)
    (us : List Update) (x : ExceptT ε Program Unit) : Prop :=
  x.run.Ensures fun es result => ∀ p p' : SimulatedPhy, p.Working → pre p →
    Trace lossy a p es p' → Installed lossy post us p result p'

section

variable {ε : Type} {lossy : Prop} {a : PhyAddress} {pre post : SimulatedPhy → Prop}
  {us : List Update}

/-- At a PHY that works nothing but a loss is in the way of updates that are made in order. -/
theorem Makes.installs {x : ExceptT ε Program Unit} (h : Makes a pre post us x) :
    Installs lossy a pre post us x := by
  refine Program.Ensures.mono h fun es result h p p' hp hpre htrace => ?_
  have hmade := h p p' hp.steady hpre (htrace.mono fun _ => trivial)
  have hcontents := htrace.contents_of_prefix hmade.isPrefix
  cases hmade with
  | all hlanded hpost =>
    rw [hlanded, length_plan, List.take_length] at hcontents
    exact .all hcontents hpost
  | part _ hcause =>
    refine .part ?_ _ (List.take_prefix _ us) hcontents
    obtain ⟨e, he, hphy, hfail⟩ | hunable := hcause
    · exact htrace.lossy_of_failure hp.healthy he hphy hfail
    · cases hp.negotiates.symm.trans hunable

/-- **Writing the settings makes their updates**, from whichever page, and leaves page `0` selected
and no reset pending. -/
theorem Transceiver.configure_installs (settings : Settings) :
    Installs lossy a (fun _ => True) AtRest settings.updates (configure settings a) :=
  (configure_makes settings).installs

end

end EthernetPhy
