import EthernetPhy.Paged
import EthernetPhy.Proofs.Ensures

/-!
# The first fault

When a frame fails, nothing more is to happen than that the page goes back to `0`, and the fault of
the frame is the result.  Which frame is the first one to fail is read off the events of a run
alone: `firstFailure?` finds it, with what came before it and what comes after it.

`Program.FailsFast cause p` says that a program behaves so from any history on, where `cause` takes the
fault of a frame out of a result.  It is put together along the program: `Program.FailsFast.bind` for
a sequence, `BusM.failsFast_withinPage` for accesses within a page.
-/

namespace EthernetPhy

/-! ### The selected page -/

/-- The page that a PHY has selected after one more event. -/
def Event.pageAfter (phy : PhyAddress) (page : Word) : Event → Word
  | ⟨.write phy' reg value, .ok ()⟩ =>
    if phy' = phy ∧ reg = Register.pageSelect then value else page
  | _ => page

/-- The page that a PHY has selected after some events, if it was page `0` before them. -/
def selectedPage (phy : PhyAddress) (es : List Event) : Word :=
  es.foldl (Event.pageAfter phy) Page.standard

/-- Every PHY has page `0` selected after some events. -/
def Closed (es : List Event) : Prop := ∀ phy, selectedPage phy es = Page.standard

/-- Whether a request selects a page. -/
def Request.selects : Request → Bool
  | .write _ reg _ => reg = Register.pageSelect
  | _ => false

section

variable {phy : PhyAddress} {e : Event} {es es' : List Event}

theorem closed_nil : Closed [] := fun _ => rfl

/-- Only an accepted page select of a PHY changes its page. -/
theorem Event.pageAfter_eq_self {page : Word}
    (h : ∀ value, e.request = .write phy Register.pageSelect value → e.failure? ≠ none) :
    e.pageAfter phy page = page := by
  obtain ⟨q, answer⟩ := e
  cases q with
  | write phy' reg value =>
    obtain c | ⟨⟩ := answer
    · rfl
    · refine if_neg ?_
      rintro ⟨rfl, rfl⟩
      exact h value rfl rfl
  | _ => rfl

theorem Event.pageAfter_eq {page : Word} (h : e.request.selects = false ∨ e.failure? ≠ none) :
    e.pageAfter phy page = page := by
  refine pageAfter_eq_self fun value hq => ?_
  obtain h | h := h
  · rw [hq, Request.selects] at h
    simp at h
  · exact h

theorem selectedPage_append : selectedPage phy (es ++ es') =
    es'.foldl (Event.pageAfter phy) (selectedPage phy es) :=
  List.foldl_append

theorem selectedPage_concat :
    selectedPage phy (es ++ [e]) = e.pageAfter phy (selectedPage phy es) :=
  selectedPage_append

theorem Closed.concat (h : Closed es) (he : e.request.selects = false ∨ e.failure? ≠ none) :
    Closed (es ++ [e]) := by
  intro phy
  rw [selectedPage_concat, Event.pageAfter_eq he, h phy]

end

theorem selectedPage_append_eq_self {phy : PhyAddress} {es es' : List Event}
    (h : ∀ e ∈ es', ∀ value, e.request = .write phy Register.pageSelect value →
      e.failure? ≠ none) : selectedPage phy (es ++ es') = selectedPage phy es := by
  induction es' generalizing es with
  | nil => rw [List.append_nil]
  | cons e es' ih =>
    obtain ⟨he, hes'⟩ := List.forall_mem_cons.1 h
    rw [List.append_cons, ih hes', selectedPage_concat, Event.pageAfter_eq_self he]

theorem Event.pageAfter_of_select {phy : PhyAddress} {e : Event} {page value : Word}
    (hq : e.request = .write phy Register.pageSelect value) (h : e.failure? = none) :
    e.pageAfter phy page = value := by
  obtain ⟨q, answer⟩ := e
  cases hq
  obtain c | ⟨⟩ := answer
  · cases h
  · exact if_pos ⟨rfl, rfl⟩

theorem selectedPage_append_of_not_selects {phy : PhyAddress} {es es' : List Event}
    (h : ∀ e ∈ es', e.request.selects = false) :
    selectedPage phy (es ++ es') = selectedPage phy es := by
  refine selectedPage_append_eq_self fun e he value hq => ?_
  have hsel := h e he
  rw [hq, Request.selects] at hsel
  simp at hsel

/-! ### The first failure -/

/-- A frame that failed, and what happened before and after it. -/
structure Failure where
  /-- The events before it. -/
  before : List Event
  /-- The frame. -/
  request : Request
  /-- Why it failed. -/
  cause : BusFault
  /-- The events after it. -/
  after : List Event

/-- The PHY that a frame is for. -/
def Request.phy? : Request → Option PhyAddress
  | .read phy _ | .write phy _ _ => some phy
  | _ => none

theorem Request.phy?_eq_none {q : Request} (h : q.isFrame = false) : q.phy? = none := by
  cases q <;> first | rfl | cases h

/-- What is left to do after a failure: within a page, page `0` is selected again. -/
def Failure.restore (f : Failure) : List Request :=
  match f.request.phy? with
  | some phy =>
    if f.request.selects || selectedPage phy f.before = Page.standard then []
    else [.write phy Register.pageSelect Page.standard]
  | none => []

/-- A failure ends a run: after it only the page is restored, and no other PHY has a page open. -/
structure Failure.EndsRun (f : Failure) : Prop where
  after : f.after.map Event.request = f.restore
  others : ∀ phy, f.request.phy? ≠ some phy → selectedPage phy f.before = Page.standard

theorem Failure.restore_of_closed {f : Failure} (h : Closed f.before) : f.restore = [] := by
  unfold Failure.restore
  split
  · exact if_pos (by simp [h _])
  · rfl

theorem Request.exists_of_selects {q : Request} {phy : PhyAddress} (hphy : q.phy? = some phy)
    (h : q.selects = true) : ∃ value, q = .write phy Register.pageSelect value := by
  cases q with
  | write phy' reg value =>
    obtain rfl := Option.some.inj hphy
    obtain rfl : reg = Register.pageSelect := by simpa [selects] using h
    exact ⟨value, rfl⟩
  | _ => cases h

theorem Failure.restore_eq {f : Failure} {phy : PhyAddress} (h : f.request.phy? = some phy) :
    f.restore = if f.request.selects || selectedPage phy f.before = Page.standard then []
      else [.write phy Register.pageSelect Page.standard] := by
  rw [restore, h]

theorem Failure.endsRun_of_closed {f : Failure} (h : Closed f.before) (hafter : f.after = []) :
    f.EndsRun :=
  ⟨by rw [hafter, restore_of_closed h]; rfl, fun phy _ => h phy⟩

/-- The first failure among some events that `exempt` does not set aside, where `before` are the
events before them. -/
def firstFailure? (exempt : List Event → Request → Bool) (before : List Event) :
    List Event → Option Failure
  | [] => none
  | e :: rest =>
    match e.failure? with
    | some cause =>
      if exempt before e.request then firstFailure? exempt (before ++ [e]) rest
      else some ⟨before, e.request, cause, rest⟩
    | none => firstFailure? exempt (before ++ [e]) rest

section

variable {exempt : List Event → Request → Bool} {before : List Event} {e : Event}
  {es es' : List Event}

@[simp] theorem firstFailure?_nil : firstFailure? exempt before [] = none := rfl

theorem firstFailure?_cons_of_pass (h : e.failure? = none ∨ exempt before e.request = true) :
    firstFailure? exempt before (e :: es) = firstFailure? exempt (before ++ [e]) es := by
  rw [firstFailure?]
  obtain h | h := h
  · rw [h]
  · cases e.failure? with
    | none => rfl
    | some cause => exact if_pos h

theorem firstFailure?_cons_of_fail {cause : BusFault} (h : e.failure? = some cause)
    (hexempt : exempt before e.request = false) :
    firstFailure? exempt before (e :: es) = some ⟨before, e.request, cause, es⟩ := by
  rw [firstFailure?, h]
  exact if_neg (by simp [hexempt])

/-- The first failure of a sequence is that of its first part, or else that of its second. -/
theorem firstFailure?_append : firstFailure? exempt before (es ++ es') =
    match firstFailure? exempt before es with
    | some f => some { f with after := f.after ++ es' }
    | none => firstFailure? exempt (before ++ es) es' := by
  induction es generalizing before with
  | nil => simp
  | cons e es ih =>
    -- The history grows by one event at each step, and it is the same in the end.
    have hnext : before ++ e :: es = before ++ [e] ++ es := by simp
    rw [List.cons_append, firstFailure?, firstFailure?, ih, hnext]
    cases e.failure? with
    | none => rfl
    | some cause =>
      cases exempt before e.request with
      | true => rfl
      | false => rfl

/-- The first failure is one of the events, between those before and those after it. -/
theorem exists_of_firstFailure?_eq_some {f : Failure} (h : firstFailure? exempt before es = some f) :
    ∃ es₁ e, es = es₁ ++ e :: f.after ∧ f.before = before ++ es₁ ∧ e.request = f.request ∧
      e.failure? = some f.cause := by
  induction es generalizing before with
  | nil => cases h
  | cons e es ih =>
    by_cases hpass : e.failure? = none ∨ exempt before e.request = true
    · rw [firstFailure?_cons_of_pass hpass] at h
      obtain ⟨es₁, e', rfl, hbefore, hrest⟩ := ih h
      exact ⟨e :: es₁, e', rfl, by rw [hbefore, List.append_assoc]; rfl, hrest⟩
    · obtain ⟨hfail, hexempt⟩ := not_or.1 hpass
      obtain ⟨cause, hcause⟩ := Option.ne_none_iff_exists'.1 hfail
      rw [firstFailure?_cons_of_fail hcause (Bool.eq_false_iff.2 hexempt)] at h
      cases h
      exact ⟨[], e, rfl, (List.append_nil _).symm, rfl, hcause⟩

theorem firstFailure?_eq_of_forall
    (h : ∀ es₁ e es₂, es = es₁ ++ e :: es₂ → exempt (before ++ es₁) e.request = false) :
    firstFailure? exempt before es = firstFailure? (fun _ _ => false) before es := by
  induction es generalizing before with
  | nil => rfl
  | cons e es ih =>
    have hfirst : exempt before e.request = false := by simpa using h [] e es rfl
    have hrest : firstFailure? exempt (before ++ [e]) es =
        firstFailure? (fun _ _ => false) (before ++ [e]) es := by
      refine ih fun es₁ e' es₂ hes => ?_
      have := h (e :: es₁) e' es₂ (by rw [hes, List.cons_append])
      rwa [List.append_cons] at this
    rw [firstFailure?, firstFailure?, hfirst, hrest]

/-- Where every frame that may fail is set aside, there is no failure. -/
theorem firstFailure?_eq_none_of_forall
    (h : ∀ es₁ e es₂, es = es₁ ++ e :: es₂ →
      e.failure? = none ∨ exempt (before ++ es₁) e.request = true) :
    firstFailure? exempt before es = none := by
  induction es generalizing before with
  | nil => rfl
  | cons e es ih =>
    have hfirst : e.failure? = none ∨ exempt before e.request = true := by
      simpa using h [] e es rfl
    rw [firstFailure?_cons_of_pass hfirst]
    refine ih fun es₁ e' es₂ hes => ?_
    have := h (e :: es₁) e' es₂ (by rw [hes, List.cons_append])
    rwa [List.append_cons] at this

end

/-! ### Programs that stop at the first failure -/

section

variable {α β γ : Type} {exempt : List Event → Request → Bool} {before es es' : List Event}
  {cause : β → Option BusFault} {cause' : γ → Option BusFault} {b : β} {c : γ}

/-- What is promised of some events and the result after them: the first failure is the cause of the
result, and only the page is restored after it; and without one no frame is the cause of the result
and no page is left open. -/
structure StopsFast (exempt : List Event → Request → Bool) (before : List Event)
    (cause : β → Option BusFault) (es : List Event) (b : β) : Prop where
  failed : ∀ f, firstFailure? exempt before es = some f → cause b = some f.cause ∧ f.EndsRun
  passed : firstFailure? exempt before es = none → cause b = none ∧ Closed (before ++ es)

/-- Nothing is set aside any more. -/
def Strict (exempt : List Event → Request → Bool) (before : List Event) : Prop :=
  ∀ es q, exempt (before ++ es) q = false

theorem Strict.append (h : Strict exempt before) (es : List Event) :
    Strict exempt (before ++ es) := by
  intro es' q
  rw [List.append_assoc]
  exact h (es ++ es') q

/-- From every history that leaves no page open, a program stops at its first failure. -/
def Program.FailsFast (cause : β → Option BusFault) (p : Program β) : Prop :=
  ∀ exempt before, Strict exempt before → Closed before →
    p.Ensures (StopsFast exempt before cause)

theorem stopsFast_iff : StopsFast exempt before cause es b ↔
    match firstFailure? exempt before es with
    | some f => cause b = some f.cause ∧ f.EndsRun
    | none => cause b = none ∧ Closed (before ++ es) := by
  cases h : firstFailure? exempt before es with
  | some f => exact ⟨fun hs => hs.failed f h, fun hf => ⟨by simp [h, hf], by simp [h]⟩⟩
  | none => exact ⟨fun hs => hs.passed h, fun hp => ⟨by simp [h], fun _ => hp⟩⟩

theorem StopsFast.of_forall (h : StopsFast (fun _ _ => false) before cause es b)
    (hes : ∀ es₁ e es₂, es = es₁ ++ e :: es₂ → exempt (before ++ es₁) e.request = false) :
    StopsFast exempt before cause es b := by
  rw [stopsFast_iff, firstFailure?_eq_of_forall hes, ← stopsFast_iff]
  exact h

theorem stopsFast_nil (hb : cause b = none) (h : Closed before) :
    StopsFast exempt before cause [] b := by
  refine ⟨fun f h => (by cases h), fun _ => ⟨hb, ?_⟩⟩
  rwa [List.append_nil]

theorem stopsFast_cons_of_pass {e : Event}
    (h : e.failure? = none ∨ exempt before e.request = true) :
    StopsFast exempt before cause (e :: es) b ↔ StopsFast exempt (before ++ [e]) cause es b := by
  rw [stopsFast_iff, stopsFast_iff, firstFailure?_cons_of_pass h, List.append_assoc, List.singleton_append]

theorem stopsFast_cons_of_fail {e : Event} {fault : BusFault} (h : e.failure? = some fault)
    (hexempt : exempt before e.request = false) :
    StopsFast exempt before cause (e :: es) b ↔
      cause b = some fault ∧ Failure.EndsRun ⟨before, e.request, fault, es⟩ := by
  rw [stopsFast_iff, firstFailure?_cons_of_fail h hexempt]

theorem stopsFast_append_of_pass (h : ∀ e ∈ es, e.failure? = none) :
    StopsFast exempt before cause (es ++ es') b ↔
      StopsFast exempt (before ++ es) cause es' b := by
  induction es generalizing before with
  | nil => rw [List.nil_append, List.append_nil]
  | cons e es ih =>
    obtain ⟨he, hes⟩ := List.forall_mem_cons.1 h
    rw [List.cons_append, stopsFast_cons_of_pass (.inl he), ih hes, ← List.append_cons]

theorem StopsFast.stop (h : StopsFast exempt before cause es b)
    (hsame : cause' c = cause b) (hb : cause b ≠ none) : StopsFast exempt before cause' es c := by
  rw [stopsFast_iff] at h ⊢
  split at h
  · exact ⟨hsame.trans h.1, h.2⟩
  · exact absurd h.1 hb

theorem StopsFast.go (h : StopsFast exempt before cause es b) (hb : cause b = none)
    (h' : Closed (before ++ es) → StopsFast exempt (before ++ es) cause' es' c) :
    StopsFast exempt before cause' (es ++ es') c := by
  rw [stopsFast_iff] at h ⊢
  rw [firstFailure?_append]
  split at h
  · rw [hb] at h
    cases h.1
  · have hrest := h' h.2
    rw [stopsFast_iff] at hrest
    rwa [← List.append_assoc]

/-! ### Putting programs together -/

variable {p : Program β} {g : β → Program γ}

/-- A sequence from a history on; `I` is what else is known of the events of its first part. -/
theorem Program.ensures_stopsFast_bind {I : List Event → β → Prop}
    (hp : p.Ensures (StopsFast exempt before cause)) (hI : p.Ensures I)
    (hstop : ∀ b, cause b ≠ none → ∃ c, g b = .done c ∧ cause' c = cause b)
    (hg : ∀ es b, I es b → cause b = none → Closed (before ++ es) →
      (g b).Ensures (StopsFast exempt (before ++ es) cause')) :
    (p >>= g).Ensures (StopsFast exempt before cause') := by
  refine (hp.and hI).bind fun es b h => ?_
  obtain ⟨hfast, hI⟩ := h
  cases hb : cause b with
  | some _ =>
    -- Nothing follows on a fault, so the events and the cause stay as they are.
    have hne : cause b ≠ none := by simp [hb]
    obtain ⟨c, hgb, hc⟩ := hstop b hne
    rw [hgb, Program.ensures_done, List.append_nil]
    exact hfast.stop hc hne
  | none =>
    -- Where a page was left open the first part was stopped, which contradicts `hb`.
    by_cases hclosed : Closed (before ++ es)
    · exact (hg es b hI hb hclosed).mono fun es' c h' => hfast.go hb fun _ => h'
    · exact .of_forall fun es' c => hfast.go hb fun h => absurd h hclosed

namespace Program.FailsFast

theorem done (hb : cause b = none) : FailsFast cause (.done b) :=
  fun _ _ _ hclosed => stopsFast_nil hb hclosed

theorem map (h : FailsFast cause p) {f : β → γ} (hf : ∀ b, cause' (f b) = cause b) :
    FailsFast cause' (f <$> p) := by
  intro exempt before hstrict hclosed
  rw [Program.ensures_map]
  refine (h exempt before hstrict hclosed).mono fun es b hb => ?_
  rw [stopsFast_iff] at hb ⊢
  rwa [hf]

/-- A sequence fails fast if both parts do and the second one does nothing after a fault. -/
theorem bind (hp : FailsFast cause p)
    (hstop : ∀ b, cause b ≠ none → ∃ c, g b = .done c ∧ cause' c = cause b)
    (hg : ∀ b, cause b = none → FailsFast cause' (g b)) : FailsFast cause' (p >>= g) := by
  intro exempt before hstrict hclosed
  refine ensures_stopsFast_bind (hp exempt before hstrict hclosed) (.of_forall fun _ _ => trivial)
    hstop fun es b _ hb hclosed' => ?_
  exact hg b hb exempt _ (hstrict.append es) hclosed'

theorem ask {q : Request} {next : q.Answer → Program β} (hq : q.isFrame = false)
    (h : ∀ answer, FailsFast cause (next answer)) : FailsFast cause (.ask q next) := by
  intro exempt before hstrict hclosed answer
  have hpass : (Event.mk q answer).failure? = none := Event.failure?_eq_none hq
  have hselects : q.selects = false := by cases q <;> first | rfl | cases hq
  refine (h answer exempt _ (hstrict.append [⟨q, answer⟩])
    (hclosed.concat (.inl hselects))).mono fun es b hb => ?_
  exact (stopsFast_cons_of_pass (.inl hpass)).2 hb

end Program.FailsFast

end

/-! ### Causes -/

namespace BusM

variable {α β : Type}

/-- The failed frame that a result is due to. -/
def cause : Except BusFault α → Option BusFault
  | .error c => some c
  | .ok _ => none

/-- From every history that leaves no page open, a bus program stops at its first failure. -/
def FailsFast (x : BusM α) : Prop := Program.FailsFast cause x.run

theorem failsFast_read {phy : PhyAddress} {reg : RegAddress} : FailsFast (read phy reg) := by
  intro exempt before hstrict hclosed
  have hexempt := hstrict [] (.read phy reg)
  rw [List.append_nil] at hexempt
  rintro (c | v)
  · exact (stopsFast_cons_of_fail rfl hexempt).2 ⟨rfl, Failure.endsRun_of_closed hclosed rfl⟩
  · have hclosed' : Closed (before ++ [Event.got phy reg v]) := hclosed.concat (.inl rfl)
    exact (stopsFast_cons_of_pass (.inl rfl)).2 (stopsFast_nil rfl hclosed')

/-- A write that opens no page. -/
theorem failsFast_write_of_imp {phy : PhyAddress} {reg : RegAddress} {value : Word}
    (h : reg = Register.pageSelect → value = Page.standard) :
    FailsFast (write phy reg value) := by
  intro exempt before hstrict hclosed
  have hexempt := hstrict [] (.write phy reg value)
  rw [List.append_nil] at hexempt
  rintro (c | ⟨⟩)
  · exact (stopsFast_cons_of_fail rfl hexempt).2 ⟨rfl, Failure.endsRun_of_closed hclosed rfl⟩
  · have hclosed' : Closed (before ++ [⟨.write phy reg value, .ok ()⟩]) := by
      intro phy'
      rw [selectedPage_concat, hclosed phy', Event.pageAfter]
      split
      · rename_i hsel
        exact h hsel.2
      · rfl
    exact (stopsFast_cons_of_pass (.inl rfl)).2 (stopsFast_nil rfl hclosed')

theorem failsFast_write {phy : PhyAddress} {reg : RegAddress} {value : Word}
    (h : reg ≠ Register.pageSelect) : FailsFast (write phy reg value) :=
  failsFast_write_of_imp fun hreg => absurd hreg h

theorem failsFast_closePage {phy : PhyAddress} : FailsFast (closePage phy) :=
  failsFast_write_of_imp fun _ => rfl

theorem failsFast_pure {a : α} : FailsFast (pure a) := .done rfl

/-! ### Accesses within a page -/

/-- The events of accesses to registers of one PHY with their result: if one fails it is the last
one, and the cause of the result. -/
def RunsPlainly (phy : PhyAddress) (es : List Event) (result : Except BusFault α) : Prop :=
  (∀ e ∈ es, e.request.phy? = some phy ∧ e.request.selects = false) ∧
    (((∀ e ∈ es, e.failure? = none) ∧ cause result = none) ∨
      ∃ es' e c, es = es' ++ [e] ∧ (∀ e ∈ es', e.failure? = none) ∧ e.failure? = some c ∧
        cause result = some c)

/-- Accesses to registers of one PHY, none of them to the page select, up to the first failure. -/
def Plain (phy : PhyAddress) (x : BusM α) : Prop := x.run.Ensures (RunsPlainly phy)

theorem plain_read {phy : PhyAddress} {reg : RegAddress} : Plain phy (read phy reg) := by
  rintro (c | v)
  · exact ⟨by simp [Request.phy?, Request.selects], .inr ⟨[], _, c, rfl, by simp, rfl, rfl⟩⟩
  · exact ⟨by simp [Request.phy?, Request.selects], .inl ⟨by simp, rfl⟩⟩

theorem plain_write {phy : PhyAddress} {reg : RegAddress} {value : Word}
    (h : reg ≠ Register.pageSelect) : Plain phy (write phy reg value) := by
  rintro (c | ⟨⟩)
  · exact ⟨by simp [Request.phy?, Request.selects, h], .inr ⟨[], _, c, rfl, by simp, rfl, rfl⟩⟩
  · exact ⟨by simp [Request.phy?, Request.selects, h], .inl ⟨by simp, rfl⟩⟩

theorem plain_bind {phy : PhyAddress} {x : BusM α} {f : α → BusM β} (hx : Plain phy x)
    (hf : ∀ a, Plain phy (f a)) : Plain phy (x >>= f) := by
  unfold Plain
  rw [ExceptT.run_bind]
  refine Program.Ensures.bind hx fun es result h => ?_
  obtain ⟨hin, ⟨hpass, hnone⟩ | ⟨es', e, c, rfl, hpass, he, hc⟩⟩ := h
  -- The first part has passed, and the second one decides.
  · cases result with
    | error c => cases hnone
    | ok a =>
      refine (hf a).mono fun es₂ result₂ h₂ => ?_
      obtain ⟨hin₂, ⟨hpass₂, hnone₂⟩ | ⟨es', e, c, rfl, hpass₂, he, hc⟩⟩ := h₂
      · exact ⟨List.forall_mem_append.2 ⟨hin, hin₂⟩,
          .inl ⟨List.forall_mem_append.2 ⟨hpass, hpass₂⟩, hnone₂⟩⟩
      · exact ⟨List.forall_mem_append.2 ⟨hin, hin₂⟩, .inr ⟨es ++ es', e, c, by simp,
          List.forall_mem_append.2 ⟨hpass, hpass₂⟩, he, hc⟩⟩
  -- The first part has failed, and there is no second one.
  · cases result with
    | ok a => cases hc
    | error c' =>
      change RunsPlainly phy (es' ++ [e] ++ []) (.error c')
      rw [List.append_nil]
      exact ⟨hin, .inr ⟨es', e, c, rfl, hpass, he, hc⟩⟩

theorem plain_modify {phy : PhyAddress} {reg : RegAddress} {clear set : Word}
    (h : reg ≠ Register.pageSelect) : Plain phy (modify phy reg clear set) :=
  plain_bind plain_read fun _ => plain_write h

/-- **Accesses within a page stop at the first failure**, and page `0` is selected again if the page
had been selected before it. -/
theorem failsFast_withinPage {phy : PhyAddress} {page : Word} {body : BusM α}
    (hpage : page ≠ Page.standard) (hbody : Plain phy body) :
    FailsFast (withinPage phy page body) := by
  intro exempt before hstrict hclosed
  rw [run_withinPage]
  rintro (c | ⟨⟩)
  · have hexempt := hstrict [] (.write phy Register.pageSelect page)
    rw [List.append_nil] at hexempt
    exact (stopsFast_cons_of_fail rfl hexempt).2 ⟨rfl, Failure.endsRun_of_closed hclosed rfl⟩
  refine Program.Ensures.bind hbody fun es result h => ?_
  obtain ⟨hin, h⟩ := h
  have hselects : ∀ e ∈ es, e.request.selects = false := fun e he => (hin e he).2
  intro restored
  refine (stopsFast_cons_of_pass (.inl rfl)).2 ?_
  -- From here on the page of `phy` is open, and every other PHY is on page `0`.
  generalize hopened : before ++ [⟨.write phy Register.pageSelect page, .ok ()⟩] = opened
  have hstrict' : Strict exempt opened := hopened ▸ hstrict.append _
  have hpages : ∀ {es' : List Event}, (∀ e ∈ es', e.request.selects = false) → ∀ phy',
      selectedPage phy' (opened ++ es') = if phy = phy' then page else Page.standard := by
    intro es' hes' phy'
    rw [selectedPage_append_of_not_selects hes', ← hopened, selectedPage_concat, hclosed phy']
    simp [Event.pageAfter]
  obtain ⟨hpass, hok⟩ | ⟨es', e, c, rfl, hpass, he, hc⟩ := h
  · -- The body is over, and going back decides.
    obtain c | a := result
    · cases hok
    refine (stopsFast_append_of_pass hpass).2 ?_
    obtain c | ⟨⟩ := restored
    · have hexempt := hstrict' es (.write phy Register.pageSelect Page.standard)
      refine (stopsFast_cons_of_fail rfl hexempt).2 ⟨rfl, ?_, fun phy' hphy' => ?_⟩
      · simp [Failure.restore, Request.phy?, Request.selects]
      · rw [hpages hselects phy', if_neg fun h => hphy' (by rw [h]; rfl)]
    · refine (stopsFast_cons_of_pass (.inl rfl)).2 (stopsFast_nil rfl fun phy' => ?_)
      rw [selectedPage_concat, hpages hselects phy']
      simp +contextual [Event.pageAfter]
  · -- The body was stopped, and going back is all that is left.
    obtain c' | a := result
    · rw [List.append_assoc]
      refine (stopsFast_append_of_pass hpass).2 ?_
      have hpages' := hpages fun e' he' => hselects e' (List.mem_append_left [e] he')
      obtain ⟨hphy, hsel⟩ := hin e (by simp)
      refine (stopsFast_cons_of_fail he (hstrict' es' e.request)).2 ⟨hc, ?_, fun phy' hphy' => ?_⟩
      · simp [Failure.restore, hphy, hsel, hpages' phy, hpage]
      · rw [hpages' phy', if_neg fun h => hphy' (by rw [hphy, h])]
    · cases hc

end BusM

namespace PhyM

variable {α β : Type}

/-- The failed frame that a result is due to. -/
def cause : Except Fault α → Option BusFault
  | .error (.bus c) => some c
  | _ => none

theorem cause_eq_some {result : Except Fault α} {c : BusFault} :
    cause result = some c ↔ result = .error (.bus c) := by
  constructor
  · intro h
    obtain e | a := result
    · cases e <;> cases h
      rfl
    · cases h
  · intro h
    rw [h]
    rfl

/-- From every history that leaves no page open, an operation stops at its first failure. -/
def FailsFast (x : PhyM α) : Prop := Program.FailsFast cause x.run

theorem failsFast_pure {a : α} : FailsFast (pure a) := .done rfl

theorem failsFast_throw {e : Fault} (h : e.isBus = false) :
    FailsFast (throw e : PhyM α) := by
  refine .done ?_
  cases e with
  | bus c => cases h
  | _ => rfl

theorem failsFast_throw_bind {e : Fault} {f : α → PhyM β} (h : e.isBus = false) :
    FailsFast (throw e >>= f) := by
  change FailsFast (throw e : PhyM β)
  exact failsFast_throw h

theorem failsFast_bind {x : PhyM α} {f : α → PhyM β} (hx : FailsFast x)
    (hf : ∀ a, FailsFast (f a)) : FailsFast (x >>= f) := by
  refine Program.FailsFast.bind hx (fun result h => ?_) (fun result h => ?_)
  · obtain e | a := result
    · exact ⟨.error e, rfl, by cases e <;> rfl⟩
    · exact absurd rfl h
  · obtain e | a := result
    · exact .done (by cases e <;> first | rfl | cases h)
    · exact hf a

theorem failsFast_bus {x : BusM α} (hx : BusM.FailsFast x) :
    FailsFast (liftM x : PhyM α) :=
  hx.map fun result => by cases result <;> rfl

theorem failsFast_read {phy : PhyAddress} {reg : RegAddress} :
    FailsFast (liftM (BusM.read phy reg) : PhyM Word) :=
  failsFast_bus BusM.failsFast_read

theorem failsFast_write {phy : PhyAddress} {reg : RegAddress} {value : Word}
    (h : reg ≠ Register.pageSelect) :
    FailsFast (liftM (BusM.write phy reg value) : PhyM Unit) :=
  failsFast_bus (BusM.failsFast_write h)

theorem failsFast_program {x : Program α} (hx : Program.FailsFast (fun _ => none) x) :
    FailsFast (liftM x : PhyM α) :=
  hx.map fun _ => rfl

end PhyM

namespace RecordM

variable {α β : Type}

/-- From every record and every history that leaves no page open, an operation stops at its first
failure. -/
def FailsFast (x : RecordM α) : Prop :=
  ∀ r, Program.FailsFast (fun out => PhyM.cause out.1) (x.runOn r)

/-- A sequence from a history on; `I` is what else is known of the events of its first part. -/
theorem ensures_stopsFast_bind {exempt : List Event → Request → Bool} {before : List Event}
    {x : RecordM α} {f : α → RecordM β} {r : PhyRecord} {I : List Event → Prop}
    (hx : (x.runOn r).Ensures (StopsFast exempt before fun out => PhyM.cause out.1))
    (hI : (x.runOn r).Ensures fun es _ => I es)
    (hf : ∀ es a r', I es → Closed (before ++ es) → ((f a).runOn r').Ensures
      (StopsFast exempt (before ++ es) fun out => PhyM.cause out.1)) :
    ((x >>= f).runOn r).Ensures (StopsFast exempt before fun out => PhyM.cause out.1) := by
  rw [runOn_bind]
  refine Program.ensures_stopsFast_bind hx hI (fun out h => ?_) (fun es out hI h hclosed => ?_)
  · obtain ⟨e | a, r'⟩ := out
    · exact ⟨_, rfl, by cases e <;> rfl⟩
    · exact absurd rfl h
  · obtain ⟨e | a, r'⟩ := out
    · exact stopsFast_nil (by cases e <;> first | rfl | cases h) hclosed
    · exact hf es a r' hI hclosed

theorem failsFast_pure {a : α} : FailsFast (pure a) := fun _ => .done rfl

theorem failsFast_get : FailsFast (get : RecordM PhyRecord) := fun _ => .done rfl

theorem failsFast_modify {f : PhyRecord → PhyRecord} : FailsFast (modify f : RecordM Unit) :=
  fun _ => .done rfl

theorem failsFast_throw {e : Fault} (h : e.isBus = false) :
    FailsFast (throw e : RecordM α) := by
  refine fun _ => .done ?_
  cases e with
  | bus c => cases h
  | _ => rfl

theorem failsFast_bind {x : RecordM α} {f : α → RecordM β} (hx : FailsFast x)
    (hf : ∀ a, FailsFast (f a)) : FailsFast (x >>= f) := by
  intro r
  rw [runOn_bind]
  refine (hx r).bind (fun out h => ?_) (fun out h => ?_)
  · obtain ⟨e | a, r'⟩ := out
    · exact ⟨_, rfl, by cases e <;> rfl⟩
    · exact absurd rfl h
  · obtain ⟨e | a, r'⟩ := out
    · exact .done (by cases e <;> first | rfl | cases h)
    · exact hf a r'

/-- The fault of a frame is handed on, and any other fault may be handled. -/
theorem failsFast_tryCatch {x : RecordM α} {handle : Fault → RecordM α} (hx : FailsFast x)
    (hbus : ∀ c, handle (.bus c) = throw (.bus c))
    (hrest : ∀ e, e.isBus = false → FailsFast (handle e)) : FailsFast (tryCatch x handle) := by
  intro r
  rw [runOn_tryCatch]
  refine (hx r).bind (fun out h => ?_) (fun out h => ?_)
  · obtain ⟨e | a, r'⟩ := out
    · cases e with
      | bus c => exact ⟨(.error (.bus c), r'), by simp only [hbus]; rfl, rfl⟩
      | _ => exact absurd rfl h
    · exact absurd rfl h
  · obtain ⟨e | a, r'⟩ := out
    · cases e with
      | bus c => cases h
      | _ => exact hrest _ rfl r'
    · exact .done rfl

theorem failsFast_phy {x : PhyM α} (hx : PhyM.FailsFast x) : FailsFast (liftM x : RecordM α) := by
  intro r
  rw [runOn_liftM_phy]
  exact Program.FailsFast.map hx fun _ => rfl

theorem failsFast_here {x : PhyRecord → PhyM α} {f : α → β} (h : ∀ r, PhyM.FailsFast (x r)) :
    FailsFast (do return f (← x (← get)) : RecordM β) :=
  failsFast_bind failsFast_get fun r => failsFast_bind (failsFast_phy (h r)) fun _ => failsFast_pure

theorem failsFast_bus {x : BusM α} (hx : BusM.FailsFast x) : FailsFast (liftM x : RecordM α) := by
  intro r
  rw [runOn_liftM_bus]
  exact Program.FailsFast.map hx fun result => by cases result <;> rfl

theorem failsFast_read {phy : PhyAddress} {reg : RegAddress} :
    FailsFast (liftM (BusM.read phy reg) : RecordM Word) :=
  failsFast_bus BusM.failsFast_read

theorem failsFast_program {x : Program α} (hx : Program.FailsFast (fun _ => none) x) :
    FailsFast (liftM x : RecordM α) := by
  intro r
  rw [runOn_liftM_program]
  exact hx.map fun _ => rfl

end RecordM

/-! ### What is not a frame -/

namespace Program

theorem failsFast_log {message : Message} : FailsFast (fun _ => none) (log message) :=
  .ask rfl fun _ => .done rfl

theorem failsFast_wait {time : Delay} : FailsFast (fun _ => none) (wait time) :=
  .ask rfl fun _ => .done rfl

theorem failsFast_drive {level : Level} : FailsFast (fun _ => none) (drive level) :=
  .ask rfl fun _ => .done rfl

end Program

end EthernetPhy
