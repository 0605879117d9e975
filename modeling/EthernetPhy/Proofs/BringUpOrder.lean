import EthernetPhy.Proofs.HealthyBringUp

/-!
# The order of a bring-up

A bring-up has four phases, and each begins only when the one before it has succeeded: the sweep,
the reset that is waited for, the settings, and the negotiation.  What it may do at each point
follows from how each phase may go: `Clause22.Swept` and `Clause22.ResetDone` for the first two,
`Configured` for the last two together, in which basic mode control is left alone until the last
frames.

* `install_ensures_order` : what is done at the PHY that was found keeps to the order
  (`KeepsOrder`);
* `bringUp_order` : **a bring-up keeps to the order, on every machine, from every record and with
  all settings**, and leaves a new record that knows no more than the address of the PHY.
-/

namespace EthernetPhy

open Event

namespace Request

/-- A frame for basic mode control. -/
def controls : Request → Bool
  | .read _ reg | .write _ reg _ => reg = Register.bmcr
  | _ => false

/-- A write of a register that is the same on all pages. -/
def writesStandard : Request → Bool
  | .write _ reg _ => reg < RegAddress.firstPaged
  | _ => false

end Request

/-! ### The settings and the negotiation -/

namespace Transceiver

/-- How it may go to write the settings and to start the negotiation, once the reset before it is
set aside. -/
inductive Configured : List Event → Except Fault Unit → Prop
  /-- The PHY cannot negotiate, and no standard register has been written. -/
  | unable {es : List Event}
    (hes : ∀ e ∈ es, e.request.controls = false ∧ e.request.writesStandard = false) :
    Configured es (.error .unsupported)
  /-- It was done, or a frame failed; basic mode control was left alone up to the last frames, and
  these use no other register. -/
  | ended {front back : List Event} {result : Except Fault Unit}
    (hfront : ∀ e ∈ front, e.request.controls = false)
    (hback : ∀ e ∈ back, e.request.isFrame = true → e.request.controls = true)
    (hresult : OnlyBusFaults result) :
    Configured (front ++ back) result

theorem Configured.of_front {es : List Event} {result : Except Fault Unit}
    (hes : ∀ e ∈ es, e.request.controls = false) (hresult : OnlyBusFaults result) :
    Configured es result := by
  rw [← List.append_nil es]
  exact .ended hes (List.forall_mem_nil _) hresult

theorem Configured.append {es es' : List Event} {result : Except Fault Unit}
    (hes : ∀ e ∈ es, e.request.controls = false ∧ e.request.writesStandard = false)
    (h : Configured es' result) : Configured (es ++ es') result := by
  cases h with
  | unable hes' => exact .unable (List.forall_mem_append.2 ⟨hes, hes'⟩)
  | ended hfront hback hresult =>
    rw [← List.append_assoc]
    exact .ended (List.forall_mem_append.2 ⟨fun e he => (hes e he).1, hfront⟩) hback hresult

/-- A PHY that cannot negotiate is not written to. -/
theorem requireAbility_ensures (phy : PhyAddress) :
    (requireAbility phy).run.Ensures fun es result =>
      (∀ e ∈ es, e.request.controls = false ∧ e.request.writesStandard = false) ∧
        (result = .error .unsupported ∨ OnlyBusFaults result) := by
  rw [requireAbility, PhyM.ensures_read_bind]
  have hread : ∀ {answer : Except BusFault Word},
      ∀ e ∈ [(⟨.read phy Register.bmsr, answer⟩ : Event)],
        e.request.controls = false ∧ e.request.writesStandard = false :=
    List.forall_mem_singleton.2 ⟨rfl, rfl⟩
  refine ⟨fun c => ⟨hread, .inr (onlyBusFaults_bus c)⟩, fun status => ?_⟩
  split
  · exact ⟨hread, .inr fun e he => by cases he⟩
  · refine fun _ => ⟨List.forall_mem_append.2 ⟨hread, ?_⟩, .inl rfl⟩
    exact List.forall_mem_singleton.2 ⟨rfl, rfl⟩

theorem modify_ensures (phy : PhyAddress) (reg : RegAddress) (clear set : Word) :
    (liftM (BusM.modify phy reg clear set) : PhyM Unit).run.Ensures fun es result =>
      (∀ e ∈ es, e.request.controls = decide (reg = Register.bmcr)) ∧ OnlyBusFaults result := by
  have hasks : PhyM.Asks (fun q => q.controls = decide (reg = Register.bmcr))
      (liftM (BusM.modify phy reg clear set) : PhyM Unit) :=
    PhyM.asks_bus (BusM.asks_modify rfl fun _ => rfl)
  exact Program.Ensures.and hasks PhyM.failsByFrame_bus

theorem changes_ensures (phy : PhyAddress) (set set' clear'' set'' : Word) :
    (do BusM.modify phy Register.anar 0 set
        BusM.modify phy Register.ctrl1000 0 set'
        BusM.modify phy Register.bmcr clear'' set'' : PhyM Unit).run.Ensures Configured := by
  refine PhyM.ensures_bind (modify_ensures phy _ _ _) (fun es ⟨⟩ h => ?_)
    (fun es f h => .of_front h.1 h.2)
  refine PhyM.ensures_bind (modify_ensures phy _ _ _) (fun es' ⟨⟩ h' => ?_)
    (fun es' f h' => .of_front (List.forall_mem_append.2 ⟨h.1, h'.1⟩) h'.2)
  refine (modify_ensures phy _ _ _).mono fun back result hback => ?_
  rw [← List.append_assoc]
  exact .ended (List.forall_mem_append.2 ⟨h.1, h'.1⟩) (fun e he _ => hback.1 e he) hback.2

theorem negotiate_ensures (phy : PhyAddress) :
    (Clause22.negotiate phy).run.Ensures Configured := by
  rw [negotiate_eq]
  refine PhyM.ensures_bind (requireAbility_ensures phy) (fun es ⟨⟩ h => ?_) (fun es f h => ?_)
  · exact (changes_ensures phy _ _ _ _).mono fun _ _ hchanges => .append h.1 hchanges
  · obtain ⟨hes, hunable | hbus⟩ := h
    · rw [hunable]
      exact .unable hes
    · exact .of_front (fun e he => (hes e he).1) hbus

/-- **How it may go to write the settings and to start the negotiation.** -/
theorem configure_ensures (settings : Settings) (phy : PhyAddress) :
    (configure settings phy).run.Ensures Configured := by
  have hvendor : PhyM.Asks (fun q => q.controls = false ∧ q.writesStandard = false)
      (writeSettings settings phy) := by
    have hreads : ∀ reg ∈ Footprint.settings.reads, reg ≠ Register.bmcr := by decide +kernel
    have hwrites : ∀ reg ∈ Footprint.settings.writes,
        reg ≠ Register.bmcr ∧ ¬reg < RegAddress.firstPaged := by decide +kernel
    refine (writeSettings_within settings).mono fun q h =>
      h.elim (P := fun q => q.controls = false ∧ q.writesStandard = false) ?_ ?_
        (fun _ _ => ⟨rfl, rfl⟩) fun _ => ⟨rfl, rfl⟩
    · exact fun reg hreg => ⟨decide_eq_false (hreads reg hreg), rfl⟩
    · exact fun reg hreg _ _ =>
        ⟨decide_eq_false (hwrites reg hreg).1, decide_eq_false (hwrites reg hreg).2⟩
  have hwrite : (writeSettings settings phy).run.Ensures fun es result =>
      (∀ e ∈ es, e.request.controls = false ∧ e.request.writesStandard = false) ∧
        OnlyBusFaults result :=
    Program.Ensures.and hvendor (writeSettings_failsByFrame settings phy)
  rw [configure_eq]
  refine PhyM.ensures_bind hwrite (fun es ⟨⟩ h => ?_) (fun es f h => ?_)
  · exact (negotiate_ensures phy).mono fun _ _ hnegotiate => .append h.1 hnegotiate
  · obtain ⟨c, rfl⟩ := h.2 f rfl
    exact .of_front (fun e he => (h.1 e he).1) (onlyBusFaults_bus c)

/-! ### The phases at one PHY -/

/-- The ways in which the PHY that was found may be brought up. -/
inductive Phases (settings : Settings) (phy : PhyAddress) :
    List Event → Except Fault Unit → Prop
  /-- The reset that is waited for has failed. -/
  | failed {es : List Event} {f : Fault}
    (h : Clause22.ResetDone phy settings.resetPolls es (.error f)) :
    Phases settings phy es (.error f)
  /-- It has succeeded; another reset was written, and then the settings, in no time. -/
  | passed {es more : List Event} {answer : Except BusFault Unit} {result : Except Fault Unit}
    (h : Clause22.ResetDone phy settings.resetPolls es (.ok ()))
    (hdelay : ∀ e ∈ more, e.request.isDelay = false) (hmore : Configured more result) :
    Phases settings phy (es ++ ⟨.write phy Register.bmcr Bmcr.reset, answer⟩ :: more) result

theorem Configured.concat {es : List Event} (h : Configured es (.ok ())) (message : Message) :
    Configured (es ++ [logged message]) (.ok ()) := by
  cases h with
  | ended hfront hback hresult =>
    rw [List.append_assoc]
    refine .ended hfront (List.forall_mem_append.2 ⟨hback, ?_⟩) hresult
    exact List.forall_mem_singleton.2 nofun

/-- **How the PHY that was found may be brought up.** -/
theorem install_ensures_phases (settings : Settings) (phy : PhyAddress) :
    (install settings phy).run.Ensures (Phases settings phy) := by
  have hprompt : (configure settings phy).run.Ensures fun es _ =>
      ∀ e ∈ es, Request.Prompt phy e.request := configure_prompt settings
  refine PhyM.ensures_bind (Clause22.reset_ensures_done phy settings.resetPolls)
    (fun es ⟨⟩ h => ?_) (fun es f h => .failed h)
  have happly : (applySettings settings phy).run.Ensures fun es result =>
      ∃ answer more, es = ⟨.write phy Register.bmcr Bmcr.reset, answer⟩ :: more ∧
        (∀ e ∈ more, e.request.isDelay = false) ∧ Configured more result := by
    rw [run_applySettings]
    refine fun answer => ((configure_ensures settings phy).and hprompt).mono fun es result h => ?_
    exact ⟨answer, es, rfl, fun e he => (h.2 e he).1, h.1⟩
  refine PhyM.ensures_bind happly (fun es' ⟨⟩ h' _ => ?_) (fun es' f h' => ?_)
  · obtain ⟨answer, more, rfl, hdelay, hmore⟩ := h'
    exact .passed h (List.forall_mem_append.2 ⟨hdelay, List.forall_mem_singleton.2 rfl⟩)
      (hmore.concat _)
  · obtain ⟨answer, more, rfl, hdelay, hmore⟩ := h'
    exact .passed h hdelay hmore

/-! ### The order -/

/-- The order in which the PHY that was found is brought up, as its events and its result show it.

* `there` : every frame goes to this PHY;
* `wait` : the first frame writes a reset; until a look shows that it is over, basic mode control is
  read and nothing else is done, with one delay after each look that still shows the reset; and
  there is no other delay;
* `found` : the result is not that of a sweep without success;
* `timeout` : if the reset is waited for in vain, it was the only write, and all looks were made;
* `unsupported` : if the PHY cannot negotiate, no standard register was written but basic mode
  control, and that by the two resets only. -/
structure KeepsOrder (settings : Settings) (phy : PhyAddress) (es : List Event)
    (result : Except Fault Unit) : Prop where
  there : ∀ e ∈ es, e.request.Spares phy
  wait : ∃ answer values rest,
    es = ⟨.write phy Register.bmcr Bmcr.reset, answer⟩ ::
      (Clause22.resetRounds phy values ++ rest) ∧
    (∀ v ∈ values, v.test Bmcr.reset = true) ∧
    (∀ e ∈ rest, e.request.isDelay = false) ∧
    ((∀ e ∈ rest, e.request.isFrame = true → ∃ c, e = lost phy Register.bmcr c) ∨
      ∃ v more, rest = got phy Register.bmcr v :: more ∧ v.test Bmcr.reset = false)
  found : result ≠ .error .noPhy
  timeout : result = .error .timeout →
    (es.map Event.request).filter Request.isWrite = [.write phy Register.bmcr Bmcr.reset] ∧
      (replies phy Register.bmcr es).length = settings.resetPolls.toNat + 1
  unsupported : result = .error .unsupported →
    (es.map Event.request).filter Request.writesStandard =
      [.write phy Register.bmcr Bmcr.reset, .write phy Register.bmcr Bmcr.reset]

section

open Clause22

variable {settings : Settings} {phy : PhyAddress} {es : List Event}

/-- A reset asks for one write, and else for nothing but looks, delays and messages. -/
theorem filter_of_resetDone {p : Request → Bool} {polls : UInt32} {result : Except Fault Unit}
    (hwrite : p (.write phy Register.bmcr Bmcr.reset) = true)
    (hread : p (.read phy Register.bmcr) = false)
    (hdelay : p (.delay (.ms Timing.resetInterval)) = false)
    (hlog : ∀ message, p (.log message) = false) (h : ResetDone phy polls es result) :
    (es.map Event.request).filter p = [.write phy Register.bmcr Bmcr.reset] := by
  cases h with
  | refused c => exact List.filter_cons_of_pos hwrite
  | @awaited more _ h =>
    have hmore : (more.map Event.request).filter p = [] := by
      rw [List.filter_eq_nil_iff, List.forall_mem_map]
      exact h.forall_request (P := fun q => ¬ p q = true) (by simp [hread]) (by simp [hdelay])
        fun message => by simp [hlog message]
    rw [List.map_cons, List.filter_cons_of_pos hwrite, hmore]

/-- A reset that has failed keeps to the order. -/
theorem KeepsOrder.of_failed {f : Fault} (hthere : ∀ e ∈ es, e.request.Spares phy)
    (h : ResetDone phy settings.resetPolls es (.error f)) :
    KeepsOrder settings phy es (.error f) := by
  have hwrites := filter_of_resetDone (p := Request.isWrite) rfl rfl rfl (fun _ => rfl) h
  cases h with
  | refused c =>
    refine ⟨hthere, ⟨.error c, [], [], rfl, ?_, ?_, .inl ?_⟩, nofun, nofun, nofun⟩ <;>
      exact List.forall_mem_nil _
  | awaited h =>
    cases h with
    | lost values c hlen hvalues =>
      refine ⟨hthere, ⟨.ok (), values, _, rfl, hvalues, ?_, .inl ?_⟩, nofun, nofun, nofun⟩
      · exact List.forall_mem_singleton.2 rfl
      · exact List.forall_mem_singleton.2 fun _ => ⟨c, rfl⟩
    | ranOut values hlen hvalues =>
      refine ⟨hthere, ⟨.ok (), values, _, rfl, hvalues, ?_, .inl ?_⟩, nofun,
        fun _ => ⟨hwrites, ?_⟩, nofun⟩
      · exact List.forall_mem_singleton.2 rfl
      · exact List.forall_mem_singleton.2 nofun
      · simp [hlen]

/-- What follows a reset that is over keeps to the order. -/
theorem KeepsOrder.of_passed {answer : Except BusFault Unit} {more : List Event}
    {result : Except Fault Unit}
    (hthere : ∀ e ∈ es ++ ⟨.write phy Register.bmcr Bmcr.reset, answer⟩ :: more,
      e.request.Spares phy)
    (h : ResetDone phy settings.resetPolls es (.ok ()))
    (hdelay : ∀ e ∈ more, e.request.isDelay = false) (hmore : Configured more result) :
    KeepsOrder settings phy (es ++ ⟨.write phy Register.bmcr Bmcr.reset, answer⟩ :: more)
      result := by
  have hresets := filter_of_resetDone (p := Request.writesStandard) rfl rfl rfl (fun _ => rfl) h
  obtain ⟨values, v, hvalues, hv, rfl⟩ := h.of_ok
  have hresult : ∀ f, result = .error f → f = .unsupported ∨ ∃ c, f = .bus c := by
    cases hmore with
    | unable => exact fun f hf => .inl (Except.error.inj hf).symm
    | ended _ _ hresult => exact fun f hf => .inr (hresult f hf)
  refine ⟨hthere, ?_, ?_, ?_, ?_⟩
  · refine ⟨.ok (), values, got phy Register.bmcr v ::
      ⟨.write phy Register.bmcr Bmcr.reset, answer⟩ :: more, by simp, hvalues, ?_,
      .inr ⟨v, _, rfl, hv⟩⟩
    exact List.forall_mem_cons.2 ⟨rfl, List.forall_mem_cons.2 ⟨rfl, hdelay⟩⟩
  · intro hf
    obtain h | ⟨c, h⟩ := hresult _ hf <;> cases h
  · intro hf
    obtain h | ⟨c, h⟩ := hresult _ hf <;> cases h
  · intro hf
    cases hmore with
    | unable hes =>
      have hnone : (more.map Event.request).filter Request.writesStandard = [] := by
        rw [List.filter_eq_nil_iff, List.forall_mem_map]
        intro e he
        simp [(hes e he).2]
      rw [List.map_append, List.filter_append, hresets, List.map_cons, List.filter_cons_of_pos rfl,
        hnone]
      rfl
    | ended _ _ hresult =>
      obtain ⟨c, hc⟩ := hresult _ hf
      cases hc

/-- **What is done at the PHY that was found keeps to the order.** -/
theorem install_ensures_order (settings : Settings) (phy : PhyAddress) :
    (install settings phy).run.Ensures (KeepsOrder settings phy) := by
  have hspares : (install settings phy).run.Ensures fun es _ =>
      ∀ e ∈ es, e.request.Spares phy := install_spares settings
  refine (hspares.and (install_ensures_phases settings phy)).mono fun es result h => ?_
  obtain ⟨hthere, hphases⟩ := h
  cases hphases with
  | failed h => exact .of_failed hthere h
  | passed h hdelay hmore => exact .of_passed hthere h hdelay hmore

/-- How a bring-up may go.  First identifier registers are read and nothing else is done; if no PHY
is found, that is the end.  The record that is left knows the address of the PHY and nothing
else. -/
inductive InOrder (settings : Settings) : List Event → Except Fault Unit × PhyRecord → Prop
  /-- There is no PHY. -/
  | nothing {search : List Event} (hsearch : Swept PhyAddress.all search none)
    (hreads : ∀ e ∈ search, e.request.readsIdentifier = true) :
    InOrder settings (search ++ [logged .nothingDetected]) (.error .noPhy, { address := 0 })
  /-- The first PHY has been found. -/
  | found {search more : List Event} {phy : PhyAddress} {id1 id2 : Word}
    {result : Except Fault Unit} (hsearch : Swept PhyAddress.all search (some (phy, id1, id2)))
    (hreads : ∀ e ∈ search, e.request.readsIdentifier = true)
    (hmore : KeepsOrder settings phy more result) :
    InOrder settings (search ++ logged (.detected phy id1 id2) :: more)
      (result, { address := phy, current := .down, reported := .down, negotiated := none })

/-- **A bring-up keeps to the order**, on every machine, from every record and with all settings. -/
theorem bringUp_order {σ : Type} (m : Machine σ) (s : σ) (settings : Settings) (r : PhyRecord) :
    let out := ((bringUp settings).runOn r).run m s
    InOrder settings out.events out.result := by
  have horder : ((bringUp settings).runOn r).Ensures (InOrder settings) := by
    rw [runOn_bringUp]
    refine (Clause22.sweep_ensures_swept PhyAddress.all).bind fun search found h => ?_
    obtain _ | ⟨phy, id1, id2⟩ := found
    · exact fun _ => .nothing h h.readsIdentifier
    · intro answer
      rw [Program.ensures_map]
      exact (install_ensures_order settings phy).mono fun more result hmore =>
        .found h h.readsIdentifier hmore
  exact horder.run m s

end

end Transceiver

end EthernetPhy
