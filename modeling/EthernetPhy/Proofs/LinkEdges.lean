import EthernetPhy.Bus.Board
import EthernetPhy.Proofs.Actions
import EthernetPhy.Simulator.Setup

/-!
# Reports of a new link

`Transceiver.newLink` is meant as an edge detector: a link is reported when it is seen and was not
seen the time before.  It shares its record with all other operations, some of which write the state
of the link as well, and frames may fail at any point.

* `Poll` : one look for a new link, on its own or as a part of a wait;
* `Poll.sighting` : the mode of the link that a look saw, read off its frames alone;
* `pollsOf` : all looks of a run, where a run is a list of actions in any order;
* `newLink_reports_edges` : **a look reports exactly what it saw and the one before it did not**, and
  one that fails changes nothing.

What carries the proof is that the state which the caller was told last is that of the last
successful look; `Chained` says that it is handed on from one look to the next.
-/

namespace EthernetPhy

open Event RecordM

namespace Transceiver

/-! ### One look -/

/-- The mode of a link that some frames of a PHY show: the second of two reads of basic mode status
has the link, and the status word is resolved. -/
def sighting (phy : PhyAddress) (es : List Event) : Option LinkMode :=
  match replies phy Register.bmsr es, replies phy Register.physr es with
  | [.ok _, .ok status], [.ok v] =>
    if status.test Bmsr.linkStatus && Physr.isResolved v then some (Physr.mode v) else none
  | _, _ => none

theorem sighting_append {phy : PhyAddress} {es more : List Event} (h : frames more = []) :
    sighting phy (es ++ more) = sighting phy es := by
  have hnone : ∀ reg, replies phy reg more = [] := fun reg => replies_eq_nil_of_frames h
  simp [sighting, hnone]

/-- One look for a new link. -/
structure Poll where
  /-- The record before it. -/
  before : PhyRecord
  /-- Its requests with their answers. -/
  events : List Event
  /-- What it came back with. -/
  result : Except Fault (Option LinkMode)
  /-- The record after it. -/
  after : PhyRecord

namespace Poll

/-- The mode of the link that a look saw. -/
def sighting (p : Poll) : Option LinkMode := Transceiver.sighting p.before.address p.events

/-- Whether a look did not fail. -/
def succeeded (p : Poll) : Bool := p.result.isOk

theorem succeeded_of_ok {p : Poll} {told : Option LinkMode} (h : p.result = .ok told) :
    p.succeeded = true := by
  rw [succeeded, h]
  rfl

theorem not_succeeded {p : Poll} {e : Fault} (h : p.result = .error e) : ¬p.succeeded = true := by
  rw [succeeded, h]
  exact Bool.false_ne_true

/-- The wait after a look that is a part of a wait for a new link. -/
def pause (p : Poll) : List Event :=
  match p.result with
  | .ok none => [slept Timing.negotiationInterval]
  | _ => []

/-- A look failed, saw no link and changed nothing, or it told the caller what it saw unless the
caller knows of the link, and the caller knows of the link from then on if the look saw one. -/
structure Sound (p : Poll) : Prop where
  failed : ∀ e, p.result = .error e → (∃ c, e = .bus c) ∧ p.after = p.before
  blind : ∀ e, p.result = .error e → p.sighting = none
  told : ∀ told, p.result = .ok told →
    told = (if p.before.reported.isUp then none else p.sighting) ∧
      p.after.reported = .ofBool p.sighting.isSome

end Poll

theorem linkIsUp_ensures (phy : PhyAddress) :
    (Clause22.linkIsUp phy).run.Ensures fun es result =>
      (∃ c, result = .error (.bus c) ∧ sighting phy es = none) ∨
        ∃ b b', es = [got phy Register.bmsr b, got phy Register.bmsr b'] ∧
          result = .ok (b'.test Bmsr.linkStatus) := by
  rw [Clause22.linkIsUp, PhyM.ensures_read_bind]
  refine ⟨fun c => .inl ⟨c, rfl, by simp [sighting]⟩, fun b => ?_⟩
  rw [PhyM.ensures_read_bind]
  exact ⟨fun c => .inl ⟨c, rfl, by simp [sighting]⟩, fun b' => .inr ⟨b, b', rfl, rfl⟩⟩

theorem linkMode_ensures (phy : PhyAddress) :
    (linkMode phy).run.Ensures fun es result =>
      (∃ c, result = .error (.bus c) ∧ sighting phy es = none) ∨
        result = .ok (sighting phy es) := by
  have hne : Register.physr ≠ Register.bmsr := by decide
  refine PhyM.ensures_bind (linkIsUp_ensures phy) (fun es up h => ?_) (fun es e h => ?_)
  · obtain ⟨c, h, -⟩ | ⟨b, b', rfl, hup⟩ := h
    · cases h
    obtain rfl := Except.ok.inj hup
    cases hlink : b'.test Bmsr.linkStatus with
    | false => exact .inr (by simp [sighting, hne.symm])
    | true =>
      refine (resolvedMode_ensures phy).mono fun es' result h' => ?_
      obtain ⟨c, rfl, rfl⟩ | ⟨v, rfl, rfl⟩ := h'
      · exact .inl ⟨c, rfl, by simp [sighting, hne, hne.symm]⟩
      · exact .inr (by simp [sighting, hne, hne.symm, hlink, Physr.mode?])
  · obtain ⟨c, h, hnone⟩ | ⟨b, b', -, h⟩ := h
    · exact .inl ⟨c, by rw [Except.error.inj h], hnone⟩
    · cases h

theorem takeChange_observe (r : PhyRecord) (mode : Option LinkMode) :
    (r.observe mode).takeChange =
      (if r.reported.isUp = mode.isSome then none else some (.ofBool mode.isSome),
        { r.observe mode with reported := .ofBool mode.isSome }) := by
  obtain ⟨address, current, reported, negotiated⟩ := r
  cases reported <;> cases mode <;> rfl

/-- **One look is sound**, however its frames are answered. -/
theorem newLink_ensures (r : PhyRecord) :
    (newLink.runOn r).Ensures fun es out => (Poll.mk r es out.1 out.2).Sound := by
  rw [newLink, runOn_get_bind]
  refine RecordM.ensures_liftM_bind (linkMode_ensures r.address) (fun es mode h => ?_)
    (fun es e h => ?_)
  · obtain ⟨c, h, -⟩ | h := h
    · cases h
    obtain rfl := Except.ok.inj h
    -- A message may follow the frames, which is nothing to see.
    have hdone : ∀ (more : List Event) {r' : PhyRecord} {told : Option LinkMode},
        frames more = [] → r'.reported = .ofBool (sighting r.address es).isSome →
        told = (if r.reported.isUp then none else sighting r.address es) →
        (Poll.mk r (es ++ more) (.ok told) r').Sound := by
      intro more r' told hmore hr' htold
      have hsight : sighting r.address (es ++ more) = sighting r.address es :=
        sighting_append hmore
      refine ⟨fun e he => (by cases he), fun e he => (by cases he), fun told' h' => ?_⟩
      obtain rfl := Except.ok.inj h'
      rw [← hsight] at htold hr'
      exact ⟨htold, hr'⟩
    simp only [runOn_bind, runOn_modify, runOn_modifyGet, Program.done_bind, takeChange_observe]
    cases hr : r.reported.isUp with
    | false =>
      cases hm : sighting r.address es with
      | none => exact hdone [] rfl (by rw [hm]) (by rw [hr, hm]; rfl)
      | some mode => exact fun _ => hdone [_] rfl (by rw [hm]) (by rw [hr, hm]; rfl)
    | true =>
      cases hm : sighting r.address es with
      | none => exact fun _ => hdone [_] rfl (by rw [hm]) (by rw [hr]; rfl)
      | some mode => exact hdone [] rfl (by rw [hm]) (by rw [hr]; rfl)
  · obtain ⟨c, h, hnone⟩ | h := h
    · obtain rfl := Except.error.inj h
      exact ⟨fun e he => ⟨⟨c, (Except.error.inj he).symm⟩, rfl⟩, fun e he => hnone,
        fun told h => (by cases h)⟩
    · cases h

/-! ### All looks of a run -/

section

variable {σ : Type} (m : Machine σ) (settings : Settings)

/-- A look at the link on a machine. -/
def pollOnce (r : PhyRecord) (s : σ) : Poll :=
  let out := (newLink.runOn r).run m s
  ⟨r, out.events, out.result.1, out.result.2⟩

/-- The looks of a wait for a new link (`run_awaitNewLinkWithin`); the next one follows, after a
delay, on one that succeeded and told nothing. -/
def pollsOfWait : Nat → PhyRecord → σ → List Poll
  | 0, _, _ => []
  | looks + 1, r, s =>
    let out := (newLink.runOn r).run m s
    pollOnce m r s ::
      match out.result.1 with
      | .ok none =>
        pollsOfWait looks out.result.2
          (m.answer (.delay (.ms Timing.negotiationInterval)) out.final).2
      | _ => []

/-- The looks of one action. -/
def Action.pollsOf (r : PhyRecord) (s : σ) : Action → List Poll
  | .operate .newLink => [pollOnce m r s]
  | .operate (.awaitNewLink timeout) =>
    pollsOfWait m (looksFor timeout) r s
  | _ => []

/-- The looks of a run of actions from a record and a state of the machine. -/
def pollsOf : List Action → PhyRecord → σ → List Poll
  | [], _, _ => []
  | a :: rest, r, s =>
    let out := ((a.perform settings).runOn r).run m s
    a.pollsOf m r s ++ pollsOf rest out.result.2 out.final

theorem runOn_awaitNewLinkWithin_succ (looks : Nat) (r : PhyRecord) :
    (awaitNewLinkWithin (looks + 1)).runOn r = newLink.runOn r >>= fun out =>
      match out.1 with
      | .ok none => .ask (.delay (.ms Timing.negotiationInterval)) fun _ =>
        (awaitNewLinkWithin looks).runOn out.2
      | _ => .done out := by
  rw [awaitNewLinkWithin, lookWithin, runOn_bind]
  congr 1
  funext out
  obtain ⟨e | mode | mode, r'⟩ := out
  · rfl
  · simp [Program.sleep, Program.wait, awaitNewLinkWithin]
  · rfl

/-- **A wait is made of its looks**: it does what they do, with a delay after each one that
succeeded and told nothing, and ends as the last of them. -/
theorem run_awaitNewLinkWithin (looks : Nat) (r : PhyRecord) (s : σ) :
    let out := ((awaitNewLinkWithin looks).runOn r).run m s
    let polls := pollsOfWait m looks r s
    out.result = (polls.getLast?.elim (.ok none, r) fun p => (p.result, p.after)) ∧
      out.events = polls.flatMap fun p => p.events ++ p.pause := by
  induction looks generalizing r s with
  | zero => exact ⟨rfl, rfl⟩
  | succ looks ih =>
    rw [runOn_awaitNewLinkWithin_succ, Program.run_bind, pollsOfWait]
    simp only [pollOnce]
    obtain ⟨⟨result, r'⟩, es, s'⟩ := (newLink.runOn r).run m s
    obtain e | mode | mode := result
    · simp [Poll.pause]
    · obtain ⟨hresult, hevents⟩ :=
        ih r' (m.answer (.delay (.ms Timing.negotiationInterval)) s').2
      simp only [Program.run_ask, hresult, hevents]
      refine ⟨?_, by simp [Poll.pause]⟩
      rw [List.getLast?_cons]
      cases (pollsOfWait m looks r' _).getLast? <;> rfl
    · simp [Poll.pause]

/-! ### What is handed on from one look to the next -/

/-- Sound looks, each of which starts with the caller told what the one before left it told. -/
inductive Chained : LinkState → List Poll → LinkState → Prop
  /-- No looks. -/
  | nil (told : LinkState) : Chained told [] told
  /-- A look and those after it. -/
  | cons {p : Poll} {rest : List Poll} {told : LinkState} (h : p.Sound)
    (hrest : Chained p.after.reported rest told) : Chained p.before.reported (p :: rest) told

namespace Chained

variable {ps ps' : List Poll} {a b c : LinkState}

theorem append (h : Chained a ps b) (h' : Chained b ps' c) : Chained a (ps ++ ps') c := by
  induction h with
  | nil => exact h'
  | cons hp _ ih => exact .cons hp (ih h')

theorem sound (h : Chained a ps b) : ∀ p ∈ ps, p.Sound := by
  induction h with
  | nil => simp
  | cons hp _ ih => exact List.forall_mem_cons.2 ⟨hp, ih⟩

/-- **Sound looks that are handed on report edges**: a look that succeeded tells of a link exactly
if it saw it and the last one that succeeded, or `last` for the first of them, did not. -/
theorem edges (h : Chained a ps b) {last : Option LinkMode} (hlast : a = .ofBool last.isSome) :
    ∀ (i : Nat) (p : Poll), (ps.filter Poll.succeeded)[i]? = some p → ∀ mode : LinkMode,
      p.result = .ok (some mode) ↔ p.sighting = some mode ∧
        (last :: (ps.filter Poll.succeeded).map Poll.sighting)[i]? = some none := by
  induction h generalizing last with
  | nil => simp
  | @cons p rest b hp _ ih =>
    cases hr : p.result with
    | error e =>
      -- A look that failed is not counted and hands on what it was handed.
      obtain ⟨-, hsame⟩ := hp.failed e hr
      rw [List.filter_cons_of_neg (Poll.not_succeeded hr)]
      exact ih (by rw [hsame, hlast])
    | ok told =>
      obtain ⟨htold, hafter⟩ := hp.told told hr
      rw [List.filter_cons_of_pos (Poll.succeeded_of_ok hr)]
      -- This look is compared with `last`, and is the `last` of those after it.
      rintro (_ | i) q hq mode
      · obtain rfl : p = q := by simpa using hq
        rw [hr, htold, hlast]
        cases last <;> simp [LinkState.ofBool, LinkState.isUp]
      · simpa using ih hafter i q (by simpa using hq) mode

end Chained

theorem pollOnce_sound (r : PhyRecord) (s : σ) : (pollOnce m r s).Sound :=
  (newLink_ensures r).run m s

theorem pollsOfWait_chained (looks : Nat) (r : PhyRecord) (s : σ) :
    Chained r.reported (pollsOfWait m looks r s)
      (((awaitNewLinkWithin looks).runOn r).run m s).result.2.reported := by
  induction looks generalizing r s with
  | zero => exact .nil _
  | succ looks ih =>
    have hsound := pollOnce_sound m r s
    rw [runOn_awaitNewLinkWithin_succ, Program.run_bind, pollsOfWait]
    simp only [pollOnce] at hsound ⊢
    generalize (newLink.runOn r).run m s = out at hsound ⊢
    obtain ⟨⟨result, r'⟩, es, s'⟩ := out
    obtain e | mode | mode := result
    · exact .cons hsound (.nil _)
    · simp only [Program.run_ask]
      exact .cons hsound (ih r' _)
    · exact .cons hsound (.nil _)

theorem Action.pollsOf_chained {a : Action} (hup : a ≠ .operate .bringUp) (r : PhyRecord) (s : σ) :
    Chained r.reported (a.pollsOf m r s)
      (((a.perform settings).runOn r).run m s).result.2.reported := by
  -- An action that does not look for a new link hands the report on as it is.
  have hquiet : a.pollsOf m r s = [] → a.polls = false → Chained r.reported (a.pollsOf m r s)
      (((a.perform settings).runOn r).run m s).result.2.reported := by
    intro hnone hpolls
    rw [hnone, (Action.keeps_reported settings hpolls hup).run]
    exact .nil _
  cases a with
  | resetPin o => exact hquiet rfl rfl
  | operate o =>
    cases o with
    | newLink =>
      rw [Action.perform, Operation.perform, run_return_record]
      exact .cons (pollOnce_sound m r s) (.nil _)
    | awaitNewLink timeout =>
      rw [Action.perform, Operation.perform, run_return_record]
      exact pollsOfWait_chained m _ r s
    | _ => exact hquiet rfl rfl

/-- **The looks of a run are handed on** from the record before it to the record after it. -/
theorem pollsOf_chained_acts {actions : List Action} (hup : .operate .bringUp ∉ actions)
    (t : Session σ) : Chained t.record.reported (pollsOf m settings actions t.record t.state)
      (t.acts m settings actions).record.reported := by
  induction actions generalizing t with
  | nil => exact .nil _
  | cons a rest ih =>
    obtain ⟨hfirst, hrest⟩ := not_or.1 fun h => hup (List.mem_cons.2 h)
    exact (Action.pollsOf_chained m settings (Ne.symm hfirst) t.record t.state).append
      (ih hrest (t.act m settings a))

theorem pollsOf_chained {actions : List Action} (hup : .operate .bringUp ∉ actions) (r : PhyRecord)
    (s : σ) : ∃ told, Chained r.reported (pollsOf m settings actions r s) told :=
  ⟨_, pollsOf_chained_acts m settings hup { record := r, state := s }⟩

/-- A record and a state of the machine from which a driver goes on: a new record, or what a
bring-up left behind, successful or not. -/
inductive Started : PhyRecord → σ → Prop
  /-- A new record. -/
  | new (s : σ) : Started {} s
  /-- The record and the machine after a bring-up. -/
  | broughtUp (r : PhyRecord) (s : σ) :
    Started (((bringUp settings).runOn r).run m s).result.2
      (((bringUp settings).runOn r).run m s).final

variable {m settings}

theorem Started.reported_eq {r : PhyRecord} {s : σ} (h : Started m settings r s) :
    r.reported = .down := by
  cases h with
  | new => rfl
  | broughtUp r s => exact (bringUp_ensures_new (fun _ _ => rfl) settings r).run m s

/-- **A look for a new link detects edges exactly.**  Among the looks of a run that succeeded, one
tells of a link exactly if it saw it and the look before it saw none, where none is seen before the
first one; whatever else is done in between.  A look fails only with the fault of a frame, and then
changes nothing. -/
theorem newLink_reports_edges {r : PhyRecord} {s : σ} (h : Started m settings r s)
    {actions : List Action} (hup : .operate .bringUp ∉ actions) :
    let polls := pollsOf m settings actions r s
    let answered := polls.filter Poll.succeeded
    (∀ (i : Nat) (p : Poll), answered[i]? = some p → ∀ mode : LinkMode,
      p.result = .ok (some mode) ↔ p.sighting = some mode ∧
        (none :: answered.map Poll.sighting)[i]? = some none) ∧
      ∀ p ∈ polls, ∀ e, p.result = .error e → (∃ c, e = .bus c) ∧ p.after = p.before := by
  obtain ⟨told, hchain⟩ := pollsOf_chained m settings hup r s
  rw [h.reported_eq] at hchain
  exact ⟨hchain.edges rfl, fun p hp => (hchain.sound p hp).failed⟩

/-- A gigabit link is reported by the first of three looks, though the record is brought up to date
before the other two. -/
theorem newLink_reports_edges_gigabit :
    let m := SimulatedBus.bus.machine
    let s : Board SimulatedBus :=
      { bus := (SimulatedBus.apply {} 0 .powerUp).apply 0 .linkUpGigabitFull }
    let actions : List Action :=
      [.operate .newLink, .operate .settledState, .operate .newLink, .operate (.awaitNewLink 50)]
    let polls := pollsOf m {} actions {} s
    let answered := polls.filter Poll.succeeded
    (Started m {} {} s ∧ .operate .bringUp ∉ actions ∧
      answered.map Poll.result = [.ok (some ⟨.mbps1000, .full⟩), .ok none, .ok none]) ∧
      (∀ (i : Nat) (p : Poll), answered[i]? = some p → ∀ mode : LinkMode,
        p.result = .ok (some mode) ↔ p.sighting = some mode ∧
          (none :: answered.map Poll.sighting)[i]? = some none) ∧
      ∀ p ∈ polls, ∀ e, p.result = .error e → (∃ c, e = .bus c) ∧ p.after = p.before :=
  ⟨⟨.new _, by decide, rfl⟩, newLink_reports_edges (.new _) (by decide)⟩

end

end Transceiver

end EthernetPhy
