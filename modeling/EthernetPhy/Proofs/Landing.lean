import EthernetPhy.Proofs.PhyTraces
import EthernetPhy.Proofs.RegisterUpdates
import EthernetPhy.Proofs.SimulatedFrames

/-!
# Writes that land

Not every write frame changes a register: it may fail, or it selects a page, and which register it
changes otherwise depends on the page that is selected.  `landed` reads off a list of events what is
stored by them and where.  Nothing else about the events matters to the registers of a PHY: **they
are what they were, with the landed writes made in order** (`Trace.replay`), up to every moment of a
run and whichever frames fail.

What an update stores depends on what is stored before, so some updates come down to a list of
writes only once the registers are known (`plan`).  When the writes that landed are the first ones
of this list, the updates that they belong to have been made, and the others have not been begun
(`writeAll_of_prefix`).
-/

namespace EthernetPhy

/-! ### Writes among events -/

/-- What a register stores of a value that is written to it: of basic mode control the bit that asks
for a reset is not stored. -/
def RegAddress.kept (reg : RegAddress) (value : Word) : Word :=
  if reg = Register.bmcr then value.update Bmcr.reset 0 else value

/-- What an event stores at a PHY with a page selected, and where. -/
def Event.lands (phy : PhyAddress) (page : Word) : Event → Option (Cell × Word)
  | ⟨.write phy' reg value, .ok ()⟩ =>
    if phy' = phy ∧ reg ≠ Register.pageSelect then
      some ((bank page reg, reg), RegAddress.kept reg value)
    else none
  | _ => none

/-- What some events store at a PHY that has a page selected before them, in order. -/
def landed (phy : PhyAddress) : Word → List Event → List (Cell × Word)
  | _, [] => []
  | page, e :: es => (e.lands phy page).toList ++ landed phy (e.pageAfter phy page) es

section

variable {phy : PhyAddress} {page : Word} {e : Event} {es es' : List Event}

@[simp] theorem landed_nil : landed phy page [] = [] := rfl

theorem landed_cons : landed phy page (e :: es) =
    (e.lands phy page).toList ++ landed phy (e.pageAfter phy page) es := rfl

theorem landed_append : landed phy page (es ++ es') =
    landed phy page es ++ landed phy (es.foldl (Event.pageAfter phy) page) es' := by
  induction es generalizing page with
  | nil => rfl
  | cons e es ih =>
    rw [List.cons_append, landed_cons, landed_cons, ih, List.append_assoc, List.foldl_cons]

/-- A failed frame stores nothing, nor does the selection of a page or a frame for another PHY. -/
theorem Event.lands_eq_none
    (h : e.failure? ≠ none ∨ e.request.selects = true ∨ e.request.phy? ≠ some phy) :
    e.lands phy page = none := by
  obtain ⟨q, answer⟩ := e
  cases q with
  | write phy' reg value =>
    obtain c | ⟨⟩ := answer
    · rfl
    · refine if_neg ?_
      rintro ⟨rfl, hreg⟩
      obtain h | h | h := h
      · exact h rfl
      · exact hreg (of_decide_eq_true h)
      · exact h rfl
  | _ => rfl

theorem Event.lands_of_isWrite_eq_false (h : e.request.isWrite = false) :
    e.lands phy page = none := by
  obtain ⟨q, answer⟩ := e
  cases q with
  | write => cases h
  | _ => rfl

theorem Event.lands_wrote {reg : RegAddress} {value : Word} (h : reg ≠ Register.pageSelect) :
    (wrote phy reg value).lands phy page =
      some ((bank page reg, reg), RegAddress.kept reg value) :=
  if_pos ⟨rfl, h⟩

theorem landed_eq_nil (h : ∀ e ∈ es, ∀ page, e.lands phy page = none) :
    landed phy page es = [] := by
  induction es generalizing page with
  | nil => rfl
  | cons e es ih =>
    obtain ⟨he, hes⟩ := List.forall_mem_cons.1 h
    rw [landed_cons, he, ih hes]
    rfl

/-! ### Nothing lands after a failure -/

theorem Failure.selects_of_restore {f : Failure} : ∀ q ∈ f.restore, q.selects = true := by
  unfold Failure.restore
  split
  · split
    · exact List.forall_mem_nil _
    · refine List.forall_mem_singleton.2 ?_
      rw [Request.selects, decide_eq_true_iff]
  · exact List.forall_mem_nil _

/-- The events before the first frame that fails. -/
def untilFailure (es : List Event) : List Event := es.takeWhile fun e => e.failure? = none

theorem untilFailure_cons_of_pass (h : e.failure? = none) :
    untilFailure (e :: es) = e :: untilFailure es := by
  have hpass : decide (e.failure? = none) = true := decide_eq_true h
  rw [untilFailure, List.takeWhile_cons, if_pos hpass, untilFailure]

theorem untilFailure_cons_of_fail (h : e.failure? ≠ none) : untilFailure (e :: es) = [] := by
  have hfail : ¬decide (e.failure? = none) = true := fun h' => h (of_decide_eq_true h')
  rw [untilFailure, List.takeWhile_cons, if_neg hfail]

/-- Where the first failure ends a run, all that lands does so before it. -/
theorem StopsFast.landed_eq {β : Type} {before : List Event} {cause : β → Option BusFault} {b : β}
    (h : StopsFast (fun _ _ => false) before cause es b) :
    landed phy page es = landed phy page (untilFailure es) := by
  induction es generalizing before page with
  | nil => rfl
  | cons e es ih =>
    cases hfail : e.failure? with
    | none =>
      rw [untilFailure_cons_of_pass hfail, landed_cons, landed_cons,
        ih ((stopsFast_cons_of_pass (.inl hfail)).1 h)]
    | some c =>
      obtain ⟨-, hends⟩ := (stopsFast_cons_of_fail hfail rfl).1 h
      have hafter : ∀ e ∈ es, e.request.selects = true := fun e he =>
        Failure.selects_of_restore _ (hends.after ▸ List.mem_map_of_mem he)
      have hfirst : e.failure? ≠ none := by rw [hfail]; exact Option.some_ne_none c
      rw [untilFailure_cons_of_fail hfirst, landed_nil]
      exact landed_eq_nil (List.forall_mem_cons.2 ⟨fun _ => Event.lands_eq_none (.inl hfirst),
        fun e he _ => Event.lands_eq_none (.inr (.inl (hafter e he)))⟩)

end

/-! ### Writes that are planned -/

/-- The registers after some writes, made in order. -/
def writeAll (ws : List (Cell × Word)) (f : Contents) : Contents :=
  ws.foldl (fun f w => Function.update f w.1 (some w.2)) f

/-- The writes that some updates come down to. -/
def plan : List Update → Contents → List (Cell × Word)
  | [], _ => []
  | u :: us, f => (u.cell, u.value f) :: plan us (u.apply f)

section

variable {us us' : List Update} {ws ws' : List (Cell × Word)} {f : Contents}

theorem writeAll_append : writeAll (ws ++ ws') f = writeAll ws' (writeAll ws f) :=
  List.foldl_append

@[simp] theorem length_plan : (plan us f).length = us.length := by
  induction us generalizing f with
  | nil => rfl
  | cons u us ih => rw [plan, List.length_cons, List.length_cons, ih]

theorem plan_append : plan (us ++ us') f = plan us f ++ plan us' (applyAll us f) := by
  induction us generalizing f with
  | nil => rfl
  | cons u us ih => rw [List.cons_append, plan, plan, ih, List.cons_append, applyAll_cons]

theorem take_plan {n : Nat} : (plan us f).take n = plan (us.take n) f := by
  induction us generalizing f n with
  | nil => rw [List.take_nil, plan, List.take_nil]
  | cons u us ih =>
    cases n with
    | zero => rfl
    | succ n => rw [plan, List.take_succ_cons, List.take_succ_cons, plan, ih]

@[simp] theorem writeAll_plan : writeAll (plan us f) f = applyAll us f := by
  induction us generalizing f with
  | nil => rfl
  | cons u us ih =>
    change writeAll (plan us (u.apply f)) (u.apply f) = _
    rw [ih, applyAll_cons]

/-- **The first writes of a plan make the first updates**, as many of them. -/
theorem writeAll_of_prefix (h : ws <+: plan us f) :
    writeAll ws f = applyAll (us.take ws.length) f := by
  rw [List.prefix_iff_eq_take.1 h, take_plan, writeAll_plan, length_plan, List.length_take,
    ← List.take_eq_take_min]

end

/-! ### The registers at a moment -/

namespace SimulatedPhy

variable {lossy : Prop} {a : PhyAddress} {p p' : SimulatedPhy} {e : Event} {es : List Event}

theorem update_reset_of_test {value : Word} (h : value.test Bmcr.reset = false) :
    value.update Bmcr.reset 0 = value := by
  rw [Word.test_eq_false_iff] at h
  apply BitVec.eq_of_getLsbD_eq
  intro i _
  have hbit : (value.getLsbD i && Bmcr.reset.getLsbD i) = false := by
    simpa using congrArg (·.getLsbD i) h
  rw [Word.getLsbD_update]
  cases hv : value.getLsbD i <;> simp_all

theorem accept_replay {reg : RegAddress} {value : Word} :
    (p.accept reg value).contents =
        writeAll ((Event.wrote a reg value).lands a p.page).toList p.contents ∧
      (p.accept reg value).page = (Event.wrote a reg value).pageAfter a p.page := by
  by_cases hselect : reg = Register.pageSelect
  · subst hselect
    rw [accept, if_pos rfl, Event.lands_eq_none (.inr (.inl rfl)), Event.pageAfter_of_select rfl rfl]
    exact ⟨rfl, rfl⟩
  have hkeeps : (Event.wrote a reg value).request.selects = false := decide_eq_false hselect
  rw [Event.lands_wrote hselect, Event.pageAfter_eq (.inl hkeeps), accept, if_neg hselect]
  rw [RegAddress.kept]
  by_cases hcontrol : reg = Register.bmcr
  · rw [if_pos hcontrol, if_pos hcontrol, hcontrol, writeControl]
    cases hreset : value.test Bmcr.reset with
    | true => exact ⟨contents_store, rfl⟩
    | false =>
      rw [update_reset_of_test hreset]
      exact ⟨contents_store, rfl⟩
  · rw [if_neg hcontrol, if_neg hcontrol]
    exact ⟨contents_store, rfl⟩

theorem page_accept {reg : RegAddress} {value : Word} (hselect : reg ≠ Register.pageSelect) :
    (p.accept reg value).page = p.page := by
  have hkeeps : (Event.wrote 0 reg value).request.selects = false := decide_eq_false hselect
  rw [(accept_replay (a := 0)).2, Event.pageAfter_eq (.inl hkeeps)]

theorem accept_control {value : Word} (h : value.test Bmcr.reset = false) :
    (p.accept Register.bmcr value).contents Cell.control = some value ∧
      (p.accept Register.bmcr value).pendingReset = none := by
  rw [accept, if_neg (by decide), if_pos rfl, writeControl, h, if_neg Bool.false_ne_true,
    contents_store]
  exact ⟨Function.update_self .., rfl⟩

/-- One event changes the registers by what lands, and the page by what is selected. -/
theorem Passes.replay (h : Passes lossy a p e p') :
    p'.contents = writeAll (e.lands a p.page).toList p.contents ∧
      p'.page = e.pageAfter a p.page := by
  have hsame : ∀ {e : Event}, e.failure? ≠ none ∨ e.request.phy? ≠ some a →
      p.contents = writeAll (e.lands a p.page).toList p.contents ∧
        p.page = e.pageAfter a p.page := by
    intro e he
    rw [Event.lands_eq_none (he.imp_right .inr), Event.pageAfter_eq_self]
    · exact ⟨rfl, rfl⟩
    · intro value hq
      exact he.resolve_right fun hphy => hphy (by rw [hq]; rfl)
  cases h with
  | read reg =>
    obtain ⟨queued, left, pending, hread, -⟩ := read_snd p reg
    rw [hread]
    exact ⟨rfl, rfl⟩
  | write reg value =>
    rw [SimulatedPhy.write]
    split
    · exact ⟨rfl, rfl⟩
    · exact accept_replay
  | lost _ _ _ hfail => exact hsame (.inl hfail)
  | other _ hphy => exact hsame (.inr hphy)

/-- **The registers after a trace are those before it with the landed writes made in order.** -/
theorem Trace.replay (h : Trace lossy a p es p') :
    p'.contents = writeAll (landed a p.page es) p.contents ∧
      p'.page = es.foldl (Event.pageAfter a) p.page := by
  induction h with
  | nil => exact ⟨rfl, rfl⟩
  | cons hstep _ ih =>
    obtain ⟨hcontents, hpage⟩ := hstep.replay
    rw [landed_cons, writeAll_append, ← hcontents, List.foldl_cons, ← hpage]
    exact ih

end SimulatedPhy

end EthernetPhy
