import EthernetPhy.Proofs.FailFast
import EthernetPhy.Proofs.Landing

/-!
# Updates are made in order

Writing the settings makes a list of updates, one after the other, with page selects and reads in
between.  Any of these frames may fail, on its way or at the PHY.  `Makes` says of an operation that
this does no harm to the order: **what lands at the PHY is the beginning of what its updates come
down to, and all of it if the operation succeeds.**  It is put together along the operation, with one
rule for each kind of access and one for a sequence.

The rules need little of the PHY: that it is there and has no value queued (`Steady`), so that a read
which succeeds finds what is stored.  Basic mode control may show a reset in addition, which the
update of it clears (`Makes.renegotiate`).

* `Transceiver.configure_makes` : the updates of the settings are made in order;
* `Transceiver.configure_tells` : if the PHY is found unable to negotiate, and only then, these are
  the updates before the negotiation.
-/

namespace EthernetPhy

open Event

/-! ### A PHY that is there -/

namespace SimulatedPhy

variable {lossy : Prop} {a : PhyAddress} {p p' : SimulatedPhy} {reg : RegAddress} {v value : Word}
  {e : Event} {es : List Event}

/-- A PHY that is there and at which no value is queued.  Its frames may fail. -/
structure Steady (p : SimulatedPhy) : Prop where
  present : p.isPresent = true
  unqueued : ∀ reg, (p.queued.get? reg).getD [] = []

theorem Steady.with_readsLeft (h : p.Steady) (left : Table RegAddress UInt32) :
    ({ p with readsLeft := left } : SimulatedPhy).Steady := ⟨h.present, h.unqueued⟩

theorem Steady.answer (h : p.Steady) (hselect : reg ≠ Register.pageSelect) :
    p.answer reg = if reg = Register.bmcr then p.readControl else (p.stored reg, p) := by
  rw [SimulatedPhy.answer, h.present, if_neg (by decide), if_neg hselect,
    takeQueued_eq_none (h.unqueued reg)]

/-- A read leaves a steady PHY steady. -/
theorem Steady.read_snd (h : p.Steady) (reg : RegAddress) : (p.read reg).2.Steady := by
  unfold SimulatedPhy.read
  cases hpass : p.passRead reg with
  | none => exact h
  | some passed =>
    obtain ⟨left, rfl⟩ := passRead_eq hpass
    have hpassed := h.with_readsLeft left
    dsimp only
    by_cases hselect : reg = Register.pageSelect
    · rw [SimulatedPhy.answer, hpassed.present, if_neg (by decide), if_pos hselect]
      exact hpassed
    · rw [hpassed.answer hselect]
      split
      · obtain ⟨pending, hpending⟩ := readControl_snd { p with readsLeft := left }
        rw [hpending]
        exact ⟨h.present, h.unqueued⟩
      · exact hpassed

theorem Steady.write_snd (h : p.Steady) (reg : RegAddress) (value : Word) :
    (p.write reg value).2.Steady := by
  have hqueued : (p.accept reg value).queued = p.queued := by
    unfold accept
    split
    · rfl
    split
    · unfold writeControl
      split <;> rfl
    · rfl
  unfold SimulatedPhy.write
  split
  · exact h
  · exact ⟨isPresent_accept h.present, by rw [hqueued]; exact h.unqueued⟩

theorem Trace.steady (h : Trace lossy a p es p') (hp : p.Steady) : p'.Steady :=
  h.invariant hp (fun _ reg hq => hq.read_snd reg) fun _ reg value hq => hq.write_snd reg value

theorem Steady.got (h : p.Steady) (hcontrol : reg ≠ Register.bmcr)
    (hselect : reg ≠ Register.pageSelect) (hread : Passes lossy a p (.got a reg v) p') :
    v = (p.contents (bank p.page reg, reg)).getD 0 := by
  obtain ⟨left, hanswer⟩ := answer_of_read hread.of_got
  rw [(h.with_readsLeft left).answer hselect, if_neg hcontrol] at hanswer
  exact (congrArg Prod.fst hanswer).symm

theorem Passes.got_control (hread : Passes lossy a p (.got a Register.bmcr v) p')
    (hpresent : p.isPresent = true) (hunqueued : (p.queued.get? Register.bmcr).getD [] = []) :
    v = (p.contents Cell.control).getD 0 ∨
      v = (p.contents Cell.control).getD 0 ||| Bmcr.reset := by
  obtain ⟨left, hanswer⟩ := answer_of_read hread.of_got
  have hcontrol := answer_control (p := { p with readsLeft := left }) hpresent hunqueued
  rw [hcontrol] at hanswer
  obtain rfl : _ = v := congrArg Prod.fst hanswer
  rw [readControl_fst]
  split
  · exact .inr rfl
  · exact .inl rfl

/-- Whether a PHY shows in basic mode status that it can negotiate. -/
def canNegotiate (p : SimulatedPhy) : Bool :=
  ((p.contents Cell.status).getD 0).test Bmsr.anAbility

theorem canNegotiate_of_applyAll {us : List Update} (h : p'.contents = applyAll us p.contents) :
    p'.canNegotiate = p.canNegotiate := by
  rw [canNegotiate, h, applyAll_status, canNegotiate]

theorem Trace.contents_of_prefix {us : List Update} (h : Trace lossy a p es p')
    (hlanded : landed a p.page es <+: plan us p.contents) :
    p'.contents = applyAll (us.take (landed a p.page es).length) p.contents := by
  rw [h.replay.1, writeAll_of_prefix hlanded]

end SimulatedPhy

/-! ### Operations that make updates -/

open SimulatedPhy

/-- A page is selected. -/
abbrev OnPage (page : Word) (p : SimulatedPhy) : Prop := p.page = page

/-- Page `0` is selected and no reset is pending. -/
abbrev AtRest (p : SimulatedPhy) : Prop := p.page = Page.standard ∧ p.pendingReset = none

/-- Something is in the way of a negotiation: a frame for the PHY failed, or it cannot negotiate. -/
def Hindered (a : PhyAddress) (p : SimulatedPhy) (es : List Event) : Prop :=
  (∃ e ∈ es, e.request.phy? = some a ∧ e.failure? ≠ none) ∨ p.canNegotiate = false

/-- What has landed of some updates when the operation that makes them has ended: all of them, or
something was in the way and it was the first ones. -/
inductive Made {ε : Type} (a : PhyAddress) (post : SimulatedPhy → Prop) (us : List Update)
    (p : SimulatedPhy) (es : List Event) : Except ε Unit → SimulatedPhy → Prop
  /-- All updates have been made. -/
  | all {p' : SimulatedPhy} (hlanded : landed a p.page es = plan us p.contents) (hpost : post p') :
    Made a post us p es (.ok ()) p'
  /-- The operation ended early. -/
  | part {p' : SimulatedPhy} {e : ε} (hlanded : landed a p.page es <+: plan us p.contents)
    (hcause : Hindered a p es) : Made a post us p es (.error e) p'

/-- Once it starts at a steady PHY that satisfies `pre`, an operation makes some updates there in
order, and if it succeeds, `post` holds after it. -/
def Makes {ε : Type} (a : PhyAddress) (pre post : SimulatedPhy → Prop) (us : List Update)
    (x : ExceptT ε Program Unit) : Prop :=
  x.run.Ensures fun es result => ∀ p p' : SimulatedPhy, p.Steady → pre p → Trace True a p es p' →
    Made a post us p es result p'

section

variable {ε : Type} {a : PhyAddress} {pre mid post post' : SimulatedPhy → Prop}
  {us us' : List Update} {p p' : SimulatedPhy} {es es' : List Event} {result : Except ε Unit}

theorem Hindered.mono (h : Hindered a p es) (hsub : es ⊆ es') : Hindered a p es' := by
  obtain ⟨e, he, hfail⟩ | hunable := h
  · exact .inl ⟨e, hsub he, hfail⟩
  · exact .inr hunable

theorem Made.isPrefix (h : Made a post us p es result p') :
    landed a p.page es <+: plan us p.contents := by
  cases h with
  | all hlanded => exact hlanded ▸ List.prefix_rfl
  | part hlanded => exact hlanded

theorem Made.of_ok (h : Made a post us p es result p') (hok : result = .ok ()) :
    landed a p.page es = plan us p.contents ∧ post p' := by
  cases h with
  | all hlanded hpost => exact ⟨hlanded, hpost⟩
  | part => cases hok

theorem Made.nothing {e : ε} (hlanded : landed a p.page es = [])
    (hfail : ∃ e ∈ es, e.request.phy? = some a ∧ e.failure? ≠ none) :
    Made a post us p es (.error e : Except ε Unit) p' :=
  .part (hlanded ▸ List.nil_prefix) (.inl hfail)

namespace Makes

theorem mono {x : ExceptT ε Program Unit} {pre' : SimulatedPhy → Prop}
    (h : Makes a pre post us x) (hpre : ∀ p, pre' p → pre p) (hpost : ∀ p, post p → post' p) :
    Makes a pre' post' us x := by
  refine Program.Ensures.mono h fun es result h p p' hp hpre' htrace => ?_
  cases h p p' hp (hpre p hpre') htrace with
  | all hlanded h => exact .all hlanded (hpost _ h)
  | part hlanded hcause => exact .part hlanded hcause

theorem pure : Makes a pre pre [] (Pure.pure () : ExceptT ε Program Unit) := by
  intro p p' _ hpre htrace
  rw [trace_nil.1 htrace]
  exact .all rfl hpre

/-- What is made in a sequence are the updates of its first part followed by those of its second. -/
theorem bind {x : ExceptT ε Program Unit} {y : Unit → ExceptT ε Program Unit}
    (hx : Makes a pre mid us x) (hy : Makes a mid post us' (y ())) :
    Makes a pre post (us ++ us') (x >>= y) := by
  rw [Makes, ExceptT.run_bind]
  refine Program.Ensures.bind hx fun es result h => ?_
  obtain e | ⟨⟩ := result
  · intro p p' hp hpre htrace
    rw [List.append_nil] at htrace ⊢
    cases h p p' hp hpre htrace with
    | part hlanded hcause =>
      refine .part (hlanded.trans ?_) hcause
      rw [plan_append]
      exact List.prefix_append _ _
  · refine Program.Ensures.mono hy fun es' result' h' p p'' hp hpre htrace => ?_
    obtain ⟨p', htrace, htrace'⟩ := trace_append.1 htrace
    cases h p p' hp hpre htrace with
    | all hlanded hmid =>
      obtain ⟨hcontents, hpage⟩ := htrace.replay
      rw [hlanded, writeAll_plan] at hcontents
      have hboth : landed a p.page (es ++ es') = plan us p.contents ++ landed a p'.page es' := by
        rw [landed_append, hlanded, hpage]
      cases h' p' p'' (htrace.steady hp) hmid htrace' with
      | all hlanded' hpost => exact .all (by rw [hboth, hlanded', plan_append, hcontents]) hpost
      | part hlanded' hcause =>
        refine .part ?_ ?_
        · rw [hboth, plan_append, ← hcontents]
          exact (List.prefix_append_right_inj _).2 hlanded'
        · have hcause' : Hindered a p es' := by
            rwa [Hindered, canNegotiate_of_applyAll hcontents] at hcause
          exact hcause'.mono (List.subset_append_right es es')

theorem program {x : Program Unit} (hx : x.Asks fun q => q.isFrame = false) :
    Makes a pre pre [] (liftM x : PhyM Unit) := by
  rw [Makes, PhyM.run_liftM_program, Program.ensures_map]
  refine Program.Ensures.mono hx fun es _ hes p p' _ hpre htrace => ?_
  have hother : ∀ e ∈ es, e.request.phy? ≠ some a := fun e he => by
    rw [Request.phy?_eq_none (hes e he)]
    exact Option.some_ne_none a ∘ Eq.symm
  rw [htrace.eq_of_others hother]
  exact .all (landed_eq_nil fun e he _ => Event.lands_eq_none (.inr (.inr (hother e he)))) hpre

theorem bus {x : BusM Unit} (hx : Makes a pre post us x) :
    Makes a pre post us (liftM x : PhyM Unit) := by
  rw [Makes, PhyM.run_liftM_bus, Program.ensures_map]
  refine Program.Ensures.mono hx fun es result h p p' hp hpre htrace => ?_
  cases h p p' hp hpre htrace with
  | all hlanded hpost => exact .all hlanded hpost
  | part hlanded hcause => exact .part hlanded hcause

end Makes

/-! ### Frames that make updates -/

variable {u : Update} {reg : RegAddress} {value : Word}

theorem landed_wrote {f : Contents} {page : Word} (hcell : u.cell = (bank page reg, reg))
    (hvalue : RegAddress.kept reg value = u.value f) (hselect : reg ≠ Register.pageSelect) :
    landed a page [wrote a reg value] = plan [u] f := by
  rw [landed_cons, Event.lands_wrote hselect, hvalue, plan, hcell]
  rfl

namespace Makes

open BusM

theorem write {page : Word} (hcell : u.cell = (bank page reg, reg))
    (hvalue : ∀ v : Word, v.update u.clear u.set = value) (hcontrol : reg ≠ Register.bmcr)
    (hselect : reg ≠ Register.pageSelect) :
    Makes a (OnPage page) (OnPage page) [u] (BusM.write a reg value) := by
  intro answer p p' _ hpage htrace
  obtain ⟨q, hpass, hrest⟩ := trace_cons.1 htrace
  obtain rfl := trace_nil.1 hrest
  subst hpage
  obtain c | ⟨⟩ := answer
  · exact .nothing rfl ⟨_, List.mem_singleton_self _, rfl, Option.some_ne_none c⟩
  · obtain rfl := hpass.of_wrote
    have hkept : RegAddress.kept reg value = u.value p.contents :=
      (if_neg hcontrol).trans (hvalue _).symm
    exact .all (landed_wrote hcell hkept hselect) (page_accept hselect)

theorem run_modify (phy : PhyAddress) (reg : RegAddress) (clear set : Word) :
    (BusM.modify phy reg clear set).run = .ask (.read phy reg) fun
      | .ok v => .ask (.write phy reg (v.update clear set)) .done
      | .error c => .done (.error c) := by
  change Program.ask _ _ = _
  congr 1
  funext answer
  cases answer <;> rfl

/-- A change of some bits makes an update if what was read leads to what the update makes of the
register. -/
theorem modify_of {page : Word} (hcell : u.cell = (bank page reg, reg))
    (hselect : reg ≠ Register.pageSelect)
    (hvalue : ∀ p q v, p.Steady → p.page = page → Passes True a p (got a reg v) q →
      RegAddress.kept reg (v.update u.clear u.set) = u.value p.contents)
    (hpost : ∀ (q : SimulatedPhy) (v : Word), q.page = page → post (q.accept reg (v.update u.clear u.set))) :
    Makes a (OnPage page) post [u] (BusM.modify a reg u.clear u.set) := by
  rw [Makes, run_modify]
  rintro (c | v)
  · intro p p' _ _ _
    exact .nothing rfl ⟨_, List.mem_singleton_self _, rfl, Option.some_ne_none c⟩
  · intro answer p p' hp hpage htrace
    obtain ⟨q, hread, hrest⟩ := trace_cons.1 htrace
    obtain ⟨q', hpass, hrest'⟩ := trace_cons.1 hrest
    obtain rfl := trace_nil.1 hrest'
    obtain c | ⟨⟩ := answer
    · exact .nothing rfl ⟨_, List.mem_cons_of_mem _ (List.mem_singleton_self _), rfl,
        Option.some_ne_none c⟩
    · obtain rfl := hpass.of_wrote
      refine .all ?_ (hpost q v (hread.replay.2.trans hpage))
      subst hpage
      exact landed_wrote hcell (hvalue p q v hp rfl hread) hselect

theorem modify {page : Word} (hcell : u.cell = (bank page reg, reg))
    (hcontrol : reg ≠ Register.bmcr) (hselect : reg ≠ Register.pageSelect) :
    Makes a (OnPage page) (OnPage page) [u] (BusM.modify a reg u.clear u.set) := by
  refine modify_of hcell hselect (fun p q v hp hpage hread => ?_)
    fun q v hpage => (page_accept hselect).trans hpage
  subst hpage
  rw [RegAddress.kept, if_neg hcontrol, hp.got hcontrol hselect hread, Update.value, hcell]

/-- Accesses within a page leave page `0` selected. -/
theorem withinPage {page : Word} {body : BusM Unit} (h : Makes a (OnPage page) post us body) :
    Makes a (fun _ => True) (OnPage Page.standard) us
      (EthernetPhy.withinPage a page body) := by
  rw [Makes, run_withinPage]
  rintro (c | ⟨⟩)
  · intro p p' _ _ _
    exact .nothing rfl ⟨_, List.mem_singleton_self _, rfl, Option.some_ne_none c⟩
  · refine Program.Ensures.bind h fun es result h restored p p' hp _ htrace => ?_
    obtain ⟨q, hopen, htrace⟩ := trace_cons.1 htrace
    obtain ⟨q', hbody, hclose⟩ := trace_append.1 htrace
    obtain ⟨q'', hclose, hrest⟩ := trace_cons.1 hclose
    obtain rfl := trace_nil.1 hrest
    -- Neither page select stores anything, and the first one decides where the body stores.
    obtain ⟨hcontents, hpage⟩ := hopen.replay
    rw [Event.lands_eq_none (.inr (.inl rfl))] at hcontents
    rw [Event.pageAfter_of_select rfl rfl] at hpage
    have hlanded : landed a p.page (wrote a Register.pageSelect page ::
        (es ++ [⟨.write a Register.pageSelect Page.standard, restored⟩])) = landed a q.page es := by
      rw [landed_cons, Event.lands_eq_none (.inr (.inl rfl)), Event.pageAfter_of_select rfl rfl,
        landed_append, landed_cons, Event.lands_eq_none (.inr (.inl rfl)), hpage]
      exact List.append_nil _
    have hsteady : q.Steady := (Trace.cons hopen (.nil q)).steady hp
    cases h q q' hsteady hpage hbody with
    | part hbody hcause =>
      rw [hcontents] at hbody
      rw [Hindered, canNegotiate, hcontents] at hcause
      exact .part (hlanded ▸ hbody) (Hindered.mono hcause
        (List.subset_cons_of_subset _ (List.subset_append_left _ _)))
    | all hbody =>
      rw [hcontents, ← hlanded] at hbody
      obtain c | ⟨⟩ := restored
      · refine .part (hbody ▸ List.prefix_rfl) (.inl
          ⟨refused a Register.pageSelect Page.standard c, ?_, rfl, Option.some_ne_none c⟩)
        exact List.mem_cons_of_mem _ (List.mem_append_right _ (List.mem_singleton_self _))
      · obtain rfl := hclose.of_wrote
        exact .all hbody rfl

end Makes

/-! ### The negotiation -/

theorem PhyM.liftM_bind {α β : Type} (x : BusM α) (f : α → BusM β) :
    (liftM (x >>= f) : PhyM β) = liftM x >>= fun value => liftM (f value) := by
  apply ExceptT.ext
  rw [run_liftM_bus, ExceptT.run_bind, ExceptT.run_bind, run_liftM_bus, map_bind, bind_map_left]
  congr 1
  funext result
  cases result <;> rfl

/-- Goes on only if the PHY can negotiate. -/
def requireAbility (phy : PhyAddress) : PhyM Unit := do
  let status ← BusM.read phy Register.bmsr
  unless status.test Bmsr.anAbility do
    Program.log (.cannotNegotiate phy)
    throw .unsupported

/-- A negotiation is started by three changes of registers. -/
theorem negotiate_eq (phy : PhyAddress) : Clause22.negotiate phy = (do
    requireAbility phy
    BusM.modify phy Register.anar 0 Anar.allModes
    BusM.modify phy Register.ctrl1000 0 (Ctrl1000.gigabitFull ||| Ctrl1000.gigabitHalf)
    BusM.modify phy Register.bmcr (Bmcr.isolate ||| Bmcr.reset)
      (Bmcr.anEnable ||| Bmcr.anRestart) : PhyM Unit) := by
  simp only [Clause22.negotiate, requireAbility, BusM.modify, PhyM.liftM_bind, bind_assoc,
    Word.update_zero, BitVec.or_assoc, Bmcr.renegotiating]
  refine bind_congr fun status => ?_
  split
  · rw [pure_bind]
  · simp only [bind_assoc]

/-- An operation succeeds only if the PHY can negotiate, and it reports that the PHY cannot only if
this is so and after some updates and no others have been made. -/
def TellsAbility (a : PhyAddress) (us : List Update) (x : PhyM Unit) : Prop :=
  x.run.Ensures fun es result => ∀ p p' : SimulatedPhy, p.Steady → Trace True a p es p' →
    (result = .ok () → p.canNegotiate = true) ∧
      (result = .error .unsupported →
        landed a p.page es = plan us p.contents ∧ p.canNegotiate = false)

theorem requireAbility_tells : TellsAbility a [] (requireAbility a) := by
  rw [TellsAbility, requireAbility, PhyM.ensures_read_bind]
  have hfound : ∀ {status : Word} {es : List Event} {p p' : SimulatedPhy}, p.Steady →
      Trace True a p (got a Register.bmsr status :: es) p' →
      status.test Bmsr.anAbility = p.canNegotiate := by
    intro status es p p' hp htrace
    obtain ⟨q, hread, -⟩ := trace_cons.1 htrace
    rw [hp.got (by decide) (by decide) hread]
    rfl
  refine ⟨fun c p p' _ _ => ⟨fun hresult => ?_, fun hresult => ?_⟩, fun status => ?_⟩
  · cases hresult
  · cases hresult
  split
  · rename_i hable
    refine fun p p' hp htrace => ⟨fun _ => hfound hp htrace ▸ hable, fun hresult => ?_⟩
    cases hresult
  · rename_i hunable
    rw [Bool.not_eq_true] at hunable
    refine fun answer p p' hp htrace =>
      ⟨fun hresult => ?_, fun _ => ⟨rfl, hfound hp htrace ▸ hunable⟩⟩
    cases hresult

theorem TellsAbility.bind {x : PhyM Unit} {y : Unit → PhyM Unit} (hx : TellsAbility a us x)
    (hy : PhyM.FailsByFrame (y ())) : TellsAbility a us (x >>= y) := by
  refine PhyM.ensures_bind hx (fun es _ h => ?_) (fun es f h => h)
  refine Program.Ensures.mono hy fun es' result hbus p p'' hp htrace => ?_
  obtain ⟨p', htrace, -⟩ := trace_append.1 htrace
  refine ⟨fun _ => (h p p' hp htrace).1 rfl, fun hresult => ?_⟩
  obtain ⟨c, hc⟩ := hbus .unsupported hresult
  cases hc

/-- What tells the ability after some updates does so with these updates made. -/
theorem Makes.tells {x : PhyM Unit} {y : Unit → PhyM Unit} (hx : Makes a pre mid us x)
    (hpre : ∀ p, pre p) (hbus : PhyM.FailsByFrame x) (hy : TellsAbility a us' (y ())) :
    TellsAbility a (us ++ us') (x >>= y) := by
  refine PhyM.ensures_bind (Program.Ensures.and hx hbus) (fun es _ h => ?_)
    (fun es f h p p' _ _ => ⟨fun hresult => ?_, fun hresult => ?_⟩)
  · refine Program.Ensures.mono hy fun es' result h' p p'' hp htrace => ?_
    obtain ⟨p', htrace, htrace'⟩ := trace_append.1 htrace
    obtain ⟨hlanded, -⟩ := (h.1 p p' hp (hpre p) htrace).of_ok rfl
    obtain ⟨hcontents, hpage⟩ := htrace.replay
    rw [hlanded, writeAll_plan] at hcontents
    obtain ⟨hok, hunable⟩ := h' p' p'' (htrace.steady hp) htrace'
    rw [canNegotiate_of_applyAll hcontents] at hok hunable
    refine ⟨hok, fun hresult => ?_⟩
    obtain ⟨hlanded', hunable⟩ := hunable hresult
    exact ⟨by rw [landed_append, ← hpage, hlanded', hlanded, plan_append, hcontents], hunable⟩
  · cases hresult
  · obtain ⟨c, rfl⟩ := h.2 f rfl
    cases hresult

theorem negotiate_tells : TellsAbility a [] (Clause22.negotiate a) := by
  rw [negotiate_eq]
  refine requireAbility_tells.bind (PhyM.failsByFrame_bind PhyM.failsByFrame_bus fun _ => ?_)
  exact PhyM.failsByFrame_bind PhyM.failsByFrame_bus fun _ => PhyM.failsByFrame_bus

namespace Makes

theorem requireAbility {page : Word} :
    Makes a (OnPage page) (OnPage page) [] (EthernetPhy.requireAbility a) := by
  rw [Makes, EthernetPhy.requireAbility, PhyM.ensures_read_bind]
  refine ⟨fun c p p' _ _ _ => ?_, fun status => ?_⟩
  · exact .nothing rfl ⟨_, List.mem_singleton_self _, rfl, Option.some_ne_none c⟩
  split
  · intro p p' _ hpage htrace
    exact .all rfl (htrace.replay.2.trans hpage)
  · rename_i hunable
    intro answer p p' hp _ htrace
    obtain ⟨q, hread, -⟩ := trace_cons.1 htrace
    rw [hp.got (by decide) (by decide) hread] at hunable
    exact .part List.nil_prefix (.inr (eq_false_of_ne_true hunable))

/-- Basic mode control may still show a reset when it is read, which the update clears. -/
theorem renegotiate :
    Makes a (OnPage Page.standard) AtRest [.renegotiate]
      (BusM.modify a Register.bmcr Update.renegotiate.clear Update.renegotiate.set) := by
  have hreset : ∀ v : Word, (v.update Update.renegotiate.clear Update.renegotiate.set).test
      Bmcr.reset = false := fun v => Word.test_update v (by decide) (by decide)
  refine modify_of rfl (by decide) (fun p q v hp _ hread => ?_) fun q v hpage => ?_
  · -- A pending reset is seen in the value and not in what is written.
    rw [RegAddress.kept, if_pos rfl, update_reset_of_test (hreset v), Update.value]
    obtain rfl | rfl := hread.got_control hp.present (hp.unqueued _)
    · rfl
    · exact Word.update_or _ (by decide)
  · exact ⟨(page_accept (by decide)).trans hpage, (accept_control (hreset v)).2⟩

theorem negotiate :
    Makes a (OnPage Page.standard) AtRest negotiationUpdates (Clause22.negotiate a) := by
  have hparts : negotiationUpdates =
      [] ++ ([.advertise] ++ ([.advertiseGigabit] ++ [.renegotiate])) := rfl
  rw [negotiate_eq, hparts]
  refine requireAbility.bind (.bind (.bus (.modify rfl (by decide) (by decide))) ?_)
  exact .bind (.bus (.modify rfl (by decide) (by decide))) renegotiate.bus

end Makes

/-! ### The settings -/

namespace Transceiver

/-- What `configure` does before it starts the negotiation: it writes the settings to the vendor
registers to which they belong. -/
def writeSettings (settings : Settings) (phy : PhyAddress) : PhyM Unit := do
  setClockDelay phy settings.clockDelay
  Program.log (.clockDelaySet phy settings.clockDelay)
  whenSet settings.led (setLed phy)
  whenSet settings.clockOut (setClockOut phy)
  whenSet settings.powerSaving (setPowerSaving phy)

theorem configure_eq (settings : Settings) (phy : PhyAddress) :
    configure settings phy = (do writeSettings settings phy; Clause22.negotiate phy) := by
  simp only [configure, writeSettings, bind_assoc]

theorem writeSettings_failsByFrame (settings : Settings) (phy : PhyAddress) :
    PhyM.FailsByFrame (writeSettings settings phy) :=
  PhyM.failsByFrame_bind PhyM.failsByFrame_bus fun _ =>
    PhyM.failsByFrame_bind PhyM.failsByFrame_program fun _ =>
    PhyM.failsByFrame_bind PhyM.failsByFrame_bus fun _ =>
    PhyM.failsByFrame_bind PhyM.failsByFrame_bus fun _ => PhyM.failsByFrame_bus

theorem setClockDelay_makes (settings : Settings) :
    Makes a (fun _ => True) (OnPage Page.standard) settings.delayUpdates
      (setClockDelay a settings.clockDelay) := by
  have hparts : settings.delayUpdates =
      [.switch (Page.clockDelay, Register.txDelay) ClockDelayBit.tx settings.clockDelay.tx] ++
        [.switch (Page.clockDelay, Register.rxDelay) ClockDelayBit.rx settings.clockDelay.rx] := rfl
  rw [hparts]
  exact .withinPage (.bind (.modify rfl (by decide) (by decide))
    (.modify rfl (by decide) (by decide)))

theorem setLed_makes {value : Word} :
    Makes a (fun _ => True) (OnPage Page.standard)
      [.overwrite (Page.led, Register.lcr) value] (setLed a value) := by
  refine .withinPage (.write rfl (fun v => ?_) (by decide) (by decide))
  simp [Word.update, Update.overwrite]

theorem setClockOut_makes {on : Bool} :
    Makes a (fun _ => True) (OnPage Page.standard)
      [.switch (Page.control, Register.phycr2) Phycr.clockOut on] (setClockOut a on) :=
  .withinPage (.modify rfl (by decide) (by decide))

theorem setPowerSaving_makes {on : Bool} :
    Makes a (fun _ => True) (OnPage Page.standard)
      [.switch (Page.control, Register.phycr1) Phycr.savingAll on] (setPowerSaving a on) :=
  .withinPage (.modify rfl (by decide) (by decide))

theorem whenSet_makes {α : Type} (setting : Option α) {act : α → BusM Unit} {f : α → Update}
    (h : ∀ value, Makes a (fun _ => True) (OnPage Page.standard) [f value] (act value)) :
    Makes a (OnPage Page.standard) (OnPage Page.standard) (setting.toList.map f)
      (whenSet setting act) := by
  cases setting with
  | none => exact .pure
  | some value => exact (h value).mono (fun _ _ => trivial) fun _ hpage => hpage

theorem writeSettings_makes (settings : Settings) :
    Makes a (fun _ => True) (OnPage Page.standard) settings.vendorUpdates
      (writeSettings settings a) := by
  have hlog : ∀ message : Message, Makes a (OnPage Page.standard) (OnPage Page.standard) []
      (liftM (Program.log message) : PhyM Unit) :=
    fun _ => .program (.ask rfl fun _ => .done)
  refine (setClockDelay_makes settings).bus.bind ((hlog _).bind ?_)
  refine (whenSet_makes _ fun _ => setLed_makes).bus.bind ?_
  refine (whenSet_makes _ fun _ => setClockOut_makes).bus.bind ?_
  exact (whenSet_makes _ fun _ => setPowerSaving_makes).bus

/-- **Writing the settings makes their updates in order**, from whichever page, and leaves page `0`
selected and no reset pending. -/
theorem configure_makes (settings : Settings) :
    Makes a (fun _ => True) AtRest settings.updates (configure settings a) := by
  rw [configure_eq, settings.updates_eq]
  exact (writeSettings_makes settings).bind Makes.negotiate

/-- **Only a PHY that can negotiate gets all updates, and one that is found unable has got those of
its vendor registers.** -/
theorem configure_tells (settings : Settings) :
    TellsAbility a settings.vendorUpdates (configure settings a) := by
  rw [configure_eq, ← List.append_nil settings.vendorUpdates]
  exact (writeSettings_makes settings).tells (fun _ => trivial)
    (writeSettings_failsByFrame settings a) negotiate_tells

end Transceiver

end

end EthernetPhy
