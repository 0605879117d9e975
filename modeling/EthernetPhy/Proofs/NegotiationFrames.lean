import EthernetPhy.Proofs.UpdatesInOrder

/-!
# The frames of the two commands for the link mode

`Clause22.negotiate` and `Clause22.forceMode` change registers by reading them and writing back what
they have made of the value, and any frame on the way may fail.

* `Attempted` : how frames may go that are meant to go in some way, namely so, or so up to the first
  one that fails, which gives the result;
* `attempted_bind` : the frames of a sequence, from those of its parts;
* `forceMode_attempted` : the two frames that set a link mode by hand;
* `negotiate_frames` : **the seven frames that start a negotiation, each value written being made of
  the one read just before it**, and the one frame at a PHY that cannot negotiate (`Negotiated`).
-/

namespace EthernetPhy

open Event

/-! ### Frames that are meant to go in some way -/

/-- How an operation may go whose frames are to be `plan`, with the frames and the result. -/
inductive Attempted : (plan : List Event) → List Event → Except Fault Unit → Prop
  /-- There is nothing left to do. -/
  | done : Attempted [] [] (.ok ())
  /-- The next frame fails, and with it the operation. -/
  | failed {e failed : Event} {plan : List Event} {c : BusFault}
    (hrequest : failed.request = e.request) (hfault : failed.failure? = some c) :
    Attempted (e :: plan) [failed] (.error (.bus c))
  /-- The next frame goes as it should. -/
  | step {e : Event} {plan es : List Event} {result : Except Fault Unit}
    (h : Attempted plan es result) : Attempted (e :: plan) (e :: es) result

namespace Attempted

variable {plan plan' es es' : List Event} {result : Except Fault Unit} {f : Fault}

theorem of_ok (h : Attempted plan es (.ok ())) : es = plan := by
  generalize hresult : (.ok () : Except Fault Unit) = result at h
  induction h with
  | done => rfl
  | failed => cases hresult
  | step _ ih => rw [ih hresult]

theorem exists_fault (h : Attempted plan es (.error f)) : ∃ c, f = .bus c := by
  generalize hresult : (.error f : Except Fault Unit) = result at h
  induction h with
  | done => cases hresult
  | @failed e failed plan c => exact ⟨c, by cases hresult; rfl⟩
  | step _ ih => exact ih hresult

theorem requests_prefix (h : Attempted plan es result) :
    es.map Event.request <+: plan.map Event.request := by
  induction h with
  | done => exact List.nil_prefix
  | failed hrequest =>
    rw [List.map_singleton, List.map_cons, hrequest]
    exact List.prefix_append [_] _
  | step _ ih => exact List.prefix_cons_inj _ |>.2 ih

theorem exists_request_eq {e : Event} (h : Attempted plan es result) (he : e ∈ es) :
    ∃ e' ∈ plan, e'.request = e.request :=
  List.mem_map.1 (h.requests_prefix.subset (List.mem_map_of_mem he))

theorem frames_eq (h : Attempted plan es result) (hplan : ∀ e ∈ plan, e.request.isFrame = true) :
    frames es = es := by
  refine List.filter_eq_self.2 fun e he => ?_
  obtain ⟨e', he', hrequest⟩ := h.exists_request_eq he
  rw [← hrequest, hplan e' he']

theorem append (h : Attempted plan' es' result) : Attempted (plan ++ plan') (plan ++ es') result := by
  induction plan with
  | nil => exact h
  | cons e plan ih => exact .step ih

/-- A sequence either ends early in its first part, or gets to its second part. -/
theorem of_append (h : Attempted (plan ++ plan') es result) :
    (Attempted plan es result ∧ ∃ f, result = .error f) ∨
      ∃ es', es = plan ++ es' ∧ Attempted plan' es' result := by
  induction plan generalizing es with
  | nil => exact .inr ⟨es, rfl, h⟩
  | cons e plan ih =>
    cases h with
    | failed hrequest hfault => exact .inl ⟨.failed hrequest hfault, _, rfl⟩
    | step h =>
      obtain ⟨hplan, herror⟩ | ⟨es', rfl, hrest⟩ := ih h
      · exact .inl ⟨.step hplan, herror⟩
      · exact .inr ⟨es', rfl, hrest⟩

theorem of_passed (h : Attempted plan es result) (hes : ∀ e ∈ es, e.failure? = none) :
    result = .ok () ∧ es = plan := by
  induction h with
  | done => exact ⟨rfl, rfl⟩
  | failed _ hfault =>
    rw [hes _ List.mem_cons_self] at hfault
    cases hfault
  | step _ ih =>
    obtain ⟨hok, rfl⟩ := ih (List.forall_mem_cons.1 hes).2
    exact ⟨hok, rfl⟩

theorem append_error (h : Attempted plan es (.error f)) :
    Attempted (plan ++ plan') es (.error f) := by
  generalize hresult : (.error f : Except Fault Unit) = result at h ⊢
  induction h with
  | done => cases hresult
  | failed hrequest hfault => exact .failed hrequest hfault
  | step _ ih => exact .step (ih hresult)

end Attempted

/-- The frames of a sequence are those of its first part, and then those of its second part. -/
theorem attempted_bind {α β : Type} [Inhabited β] {x y : PhyM Unit} {plan : α → List Event}
    {plan' : β → List Event}
    (hx : x.run.Ensures fun es result => ∃ v, Attempted (plan v) es result)
    (hy : y.run.Ensures fun es result => ∃ w, Attempted (plan' w) es result) :
    (x >>= fun _ => y).run.Ensures fun es result =>
      ∃ vw : α × β, Attempted (plan vw.1 ++ plan' vw.2) es result := by
  refine PhyM.ensures_bind hx (fun es ⟨⟩ h => ?_) fun es f h => ?_
  · obtain ⟨v, h⟩ := h
    rw [h.of_ok]
    refine hy.mono fun es' result h' => ?_
    obtain ⟨w, h'⟩ := h'
    exact ⟨(v, w), h'.append⟩
  · obtain ⟨v, h⟩ := h
    exact ⟨(v, default), h.append_error⟩

/-- A register is read, and what `change` makes of its value is written back. -/
def revised (phy : PhyAddress) (reg : RegAddress) (change : Word → Word) (v : Word) : List Event :=
  [got phy reg v, wrote phy reg (change v)]

section

variable {phy : PhyAddress} {reg : RegAddress} {change : Word → Word}

theorem revise_attempted : (liftM (BusM.read phy reg) >>= fun v =>
    liftM (BusM.write phy reg (change v)) : PhyM Unit).run.Ensures
      fun es result => ∃ v, Attempted (revised phy reg change v) es result := by
  rw [PhyM.ensures_read_bind]
  refine ⟨fun c => ⟨0, .failed rfl rfl⟩, fun v => ?_⟩
  rintro (c | ⟨⟩)
  · exact ⟨v, .step (.failed rfl rfl)⟩
  · exact ⟨v, .step (.step .done)⟩

theorem modify_attempted {clear set : Word} :
    (liftM (BusM.modify phy reg clear set) : PhyM Unit).run.Ensures fun es result =>
      ∃ v, Attempted (revised phy reg (·.update clear set) v) es result := by
  rw [BusM.modify, PhyM.liftM_bind]
  exact revise_attempted

end

namespace Clause22

/-- **The two frames that set a link mode by hand.** -/
theorem forceMode_attempted (phy : PhyAddress) (mode : LinkMode) :
    (forceMode phy mode).run.Ensures fun es result =>
      ∃ control, Attempted (revised phy Register.bmcr (Bmcr.forced mode) control) es result :=
  revise_attempted

/-! ### Starting a negotiation -/

/-- The frames that start a negotiation at a PHY with these values in three of its registers.  The two
registers for what it advertises keep all bits that they have. -/
def negotiationFrames (phy : PhyAddress) (advertised gigabit control : Word) : List Event :=
  revised phy Register.anar (· ||| 0x01E0) advertised ++
    (revised phy Register.ctrl1000 (· ||| 0x0300) gigabit ++
      revised phy Register.bmcr
        (·.update (Bmcr.isolate ||| Bmcr.reset) (Bmcr.anEnable ||| Bmcr.anRestart)) control)

/-- The ways in which it may go to start a negotiation, with the frames and the result. -/
inductive Negotiated (phy : PhyAddress) : List Event → Except Fault Unit → Prop
  /-- Whether the PHY can negotiate could not be read. -/
  | lost (c : BusFault) : Negotiated phy [lost phy Register.bmsr c] (.error (.bus c))
  /-- The PHY cannot negotiate, and nothing is written. -/
  | unable (status : Word) (hunable : status.test Bmsr.anAbility = false) :
    Negotiated phy [got phy Register.bmsr status] (.error .unsupported)
  /-- The PHY can negotiate. -/
  | able (status advertised gigabit control : Word) (hable : status.test Bmsr.anAbility = true)
    {es : List Event} {result : Except Fault Unit}
    (h : Attempted (negotiationFrames phy advertised gigabit control) es result) :
    Negotiated phy (got phy Register.bmsr status :: es) result

/-- Whatever comes of them, the frames are the first of seven, and all of them after a success. -/
theorem Negotiated.frames_eq {phy : PhyAddress} {es : List Event} {result : Except Fault Unit}
    (h : Negotiated phy es result) : ∃ status advertised gigabit control,
      es.map Event.request <+: (got phy Register.bmsr status ::
        negotiationFrames phy advertised gigabit control).map Event.request ∧
      (result = .ok () → status.test Bmsr.anAbility = true ∧ es = got phy Register.bmsr status ::
        negotiationFrames phy advertised gigabit control) := by
  cases h with
  | lost c => exact ⟨0, 0, 0, 0, List.prefix_append [_] _, nofun⟩
  | unable status hunable => exact ⟨status, 0, 0, 0, List.prefix_append [_] _, nofun⟩
  | able status advertised gigabit control hable h =>
    refine ⟨status, advertised, gigabit, control,
      (List.prefix_cons_inj _).2 h.requests_prefix, fun hok => ⟨hable, ?_⟩⟩
    subst hok
    rw [h.of_ok]

theorem Negotiated.of_unsupported {phy : PhyAddress} {es : List Event}
    (h : Negotiated phy es (.error .unsupported)) :
    ∃ status, status.test Bmsr.anAbility = false ∧ es = [got phy Register.bmsr status] := by
  cases h with
  | unable status hunable => exact ⟨status, hunable, rfl⟩
  | able status advertised gigabit control hable h =>
    obtain ⟨c, hc⟩ := h.exists_fault
    cases hc

theorem changes_attempted (phy : PhyAddress) :
    (do BusM.modify phy Register.anar 0 Anar.allModes
        BusM.modify phy Register.ctrl1000 0 (Ctrl1000.gigabitFull ||| Ctrl1000.gigabitHalf)
        BusM.modify phy Register.bmcr (Bmcr.isolate ||| Bmcr.reset)
          (Bmcr.anEnable ||| Bmcr.anRestart) : PhyM Unit).run.Ensures fun es result =>
      ∃ advertised gigabit control,
        Attempted (negotiationFrames phy advertised gigabit control) es result := by
  refine (attempted_bind modify_attempted (attempted_bind modify_attempted modify_attempted)).mono
    fun es result h => ?_
  obtain ⟨⟨advertised, gigabit, control⟩, h⟩ := h
  simp only [revised, Word.update_zero] at h
  exact ⟨advertised, gigabit, control, h⟩

/-- A PHY that cannot negotiate gets one frame and a message. -/
theorem negotiate_ensures_negotiated (phy : PhyAddress) :
    (negotiate phy).run.Ensures fun es result => Negotiated phy (frames es) result := by
  rw [negotiate_eq, requireAbility, bind_assoc, PhyM.ensures_read_bind]
  refine ⟨.lost, fun status => ?_⟩
  cases hstatus : status.test Bmsr.anAbility with
  | false => exact fun _ => .unable status hstatus
  | true =>
    simp only [↓reduceIte, pure_bind]
    refine (changes_attempted phy).mono fun es result h => ?_
    obtain ⟨advertised, gigabit, control, h⟩ := h
    have hframes : ∀ e ∈ negotiationFrames phy advertised gigabit control,
        e.request.isFrame = true := by simp [negotiationFrames, revised]
    have hall : frames (got phy Register.bmsr status :: es) = got phy Register.bmsr status :: es := by
      simp [h.frames_eq hframes]
    rw [hall]
    exact .able status advertised gigabit control hstatus h

/-- **How the frames go that start a negotiation**, on every bus and at every address: as `Negotiated`
says, so that they stop at the first one that fails, with its fault, and after the first one if the
PHY cannot negotiate.  In any case they are the first of seven, and all seven after a success; what is
written is made of the value that was read just before. -/
theorem negotiate_frames {σ : Type} (m : Machine σ) (s : σ) (phy : PhyAddress) :
    let out := (negotiate phy).run.run m s
    Negotiated phy (frames out.events) out.result ∧
      ∃ status advertised gigabit control,
        (frames out.events).map Event.request <+: (got phy Register.bmsr status ::
          negotiationFrames phy advertised gigabit control).map Event.request ∧
        (out.result = .ok () → status.test Bmsr.anAbility = true ∧
          frames out.events = got phy Register.bmsr status ::
            negotiationFrames phy advertised gigabit control) := by
  intro out
  have h : Negotiated phy (frames out.events) out.result :=
    (negotiate_ensures_negotiated phy).run m s
  exact ⟨h, h.frames_eq⟩

end Clause22

end EthernetPhy
