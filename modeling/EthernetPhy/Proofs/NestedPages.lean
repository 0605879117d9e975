import EthernetPhy.Proofs.Landing
import EthernetPhy.Proofs.SimulatedPages
import EthernetPhy.Simulator.Setup

/-!
# Nested access within pages

The accesses of a `Body` may be nested in any way, each of its frames may fail, and so may each of
the frames that go back to page `0`.  What happens is read off the body:

* `Nested phy body es result` : the events have the shape of the body, so that each accepted page
  select is closed by one later write of page `0`, with what was done within the page in between, and
  a refused one by none;
* `Unwound phy left es result` : the result is that of the first frame to fail, and after it there
  is nothing but the writes of page `0` that are left over at that frame; `Body.left` counts them;
* `Body.cells page` : the registers, each with its page, that the accesses are for;
* `SimulatedPhy.ActsOn` : a read gives what is there, and a write that is accepted stores there.

`withinPage_closes_nested` says that a bracket around any body does all this.  Since an inner bracket
goes back to page `0`, and not to the page of the outer one, the accesses after it are for page `0`.
-/

namespace EthernetPhy

open Event

/-- The frame that goes back to page `0`. -/
abbrev closing (phy : PhyAddress) : Request := .write phy Register.pageSelect Page.standard

/-! ### Bodies as trees of requests -/

namespace Body

/-- The program that the accesses are, when the values in a list have been read before. -/
def program (phy : PhyAddress) (body : Body) (values : List Word) :
    Program (Except BusFault Unit × List Word) :=
  (body.perform phy).run.run values

section

variable {α β : Type} {phy : PhyAddress} {page : Word} {reg : RegAddress} {inner rest : Body}
  {values : List Word}

theorem run_bind (x : ExceptT BusFault (StateT (List Word) Program) α)
    (f : α → ExceptT BusFault (StateT (List Word) Program) β) :
    (x >>= f).run.run values = x.run.run values >>= fun out =>
      match out.1 with
      | .ok a => (f a).run.run out.2
      | .error c => .done (.error c, out.2) := by
  rw [ExceptT.run_bind, StateT.run_bind]
  congr 1
  funext out
  obtain ⟨result, values'⟩ := out
  cases result <;> rfl

theorem program_read : (read reg rest).program phy values =
    .ask (.read phy reg) fun
      | .ok value => rest.program phy (value :: values)
      | .error c => .done (.error c, values) := by
  change Program.ask _ _ = _
  congr 1
  funext answer
  cases answer <;> rfl

theorem program_write {value : Word} : (write reg value rest).program phy values =
    .ask (.write phy reg value) fun
      | .ok () => rest.program phy values
      | .error c => .done (.error c, values) := by
  change Program.ask _ _ = _
  congr 1
  funext answer
  cases answer <;> rfl

theorem program_modify {clear set : Word} : (modify reg clear set rest).program phy values =
    .ask (.read phy reg) fun
      | .ok value => (write reg (value.update clear set) rest).program phy values
      | .error c => .done (.error c, values) := by
  change Program.ask _ _ = _
  congr 1
  funext answer
  cases answer <;> rfl

/-- A bracket with what follows it: page `0` is selected whatever came of the accesses within. -/
theorem program_within : (within page inner rest).program phy values =
    .ask (.write phy Register.pageSelect page) fun
      | .error c => .done (.error c, values)
      | .ok () => inner.program phy values >>= fun out =>
        .ask (closing phy) fun
          | .error c => .done (out.1 >>= fun _ => .error c, out.2)
          | .ok () =>
            match out.1 with
            | .error c => .done (.error c, out.2)
            | .ok () => rest.program phy out.2 := by
  simp only [program, perform, withinPage, run_bind, ExceptT.run_lift, map_eq_pure_bind,
    StateT.run_bind]
  change Program.ask _ _ = _
  congr 1
  funext selected
  obtain c | ⟨⟩ := selected
  · rfl
  · change (((inner.perform phy).run.run values >>= _) >>= _) >>= _ = _
    rw [Program.bind_bind, Program.bind_bind]
    congr 1
    funext out
    obtain ⟨result, values'⟩ := out
    change Program.ask _ _ = _
    congr 1
    funext restored
    cases result <;> cases restored <;> rfl

/-- A bracket around a body is a body. -/
theorem run_withinPage_perform (body : Body) :
    (withinPage phy page (body.perform phy)).run.run values =
      (within page body stop).program phy values := by
  rw [program, perform, perform, bind_pure_unit]

end

end Body

/-! ### The shape of the events -/

/-- The events that the accesses of a body may have, and the result with each of them. -/
inductive Nested (phy : PhyAddress) : Body → List Event → Except BusFault Unit → Prop
  /-- There is no access. -/
  | stop : Nested phy .stop [] (.ok ())
  /-- A read finds a value. -/
  | read {reg : RegAddress} {value : Word} {rest : Body} {es : List Event}
      {result : Except BusFault Unit} (h : Nested phy rest es result) :
    Nested phy (.read reg rest) (got phy reg value :: es) result
  /-- A read fails. -/
  | readLost {reg : RegAddress} {rest : Body} {c : BusFault} :
    Nested phy (.read reg rest) [lost phy reg c] (.error c)
  /-- A write is accepted. -/
  | write {reg : RegAddress} {value : Word} {rest : Body} {es : List Event}
      {result : Except BusFault Unit} (h : Nested phy rest es result) :
    Nested phy (.write reg value rest) (wrote phy reg value :: es) result
  /-- A write fails. -/
  | writeLost {reg : RegAddress} {value : Word} {rest : Body} {c : BusFault} :
    Nested phy (.write reg value rest) [refused phy reg value c] (.error c)
  /-- A change is a read followed by a write of what is made of its value. -/
  | modify {reg : RegAddress} {clear set value : Word} {rest : Body} {es : List Event}
      {result : Except BusFault Unit}
      (h : Nested phy (.write reg (value.update clear set) rest) es result) :
    Nested phy (.modify reg clear set rest) (got phy reg value :: es) result
  /-- The read of a change fails. -/
  | modifyLost {reg : RegAddress} {clear set : Word} {rest : Body} {c : BusFault} :
    Nested phy (.modify reg clear set rest) [lost phy reg c] (.error c)
  /-- The page cannot be selected: nothing is done within it, and there is nothing to go back from. -/
  | unopened {page : Word} {inner rest : Body} {c : BusFault} :
    Nested phy (.within page inner rest) [refused phy Register.pageSelect page c] (.error c)
  /-- An access within the page fails: page `0` is selected once, whatever comes of that. -/
  | broken {page : Word} {inner rest : Body} {es : List Event} {c : BusFault}
      {restored : Except BusFault Unit} (h : Nested phy inner es (.error c)) :
    Nested phy (.within page inner rest)
      (wrote phy Register.pageSelect page :: (es ++ [⟨closing phy, restored⟩])) (.error c)
  /-- Page `0` cannot be selected after all accesses within the page. -/
  | unclosed {page : Word} {inner rest : Body} {es : List Event} {c : BusFault}
      (h : Nested phy inner es (.ok ())) :
    Nested phy (.within page inner rest)
      (wrote phy Register.pageSelect page :: (es ++ [⟨closing phy, .error c⟩])) (.error c)
  /-- All accesses within the page are made, page `0` is selected, and the rest follows. -/
  | within {page : Word} {inner rest : Body} {es es' : List Event}
      {result : Except BusFault Unit} (h : Nested phy inner es (.ok ()))
      (h' : Nested phy rest es' result) :
    Nested phy (.within page inner rest)
      (wrote phy Register.pageSelect page :: (es ++ ⟨closing phy, .ok ()⟩ :: es')) result

/-- **The events of a body have its shape**, however its frames are answered. -/
theorem Body.program_ensures (phy : PhyAddress) (body : Body) (values : List Word) :
    (body.program phy values).Ensures fun es out => Nested phy body es out.1 := by
  -- The write of a change is dealt with as the write that it is.
  have hwrite : ∀ {reg : RegAddress} {value : Word} {rest : Body} {values : List Word},
      ((rest.program phy values).Ensures fun es out => Nested phy rest es out.1) →
      ((Body.write reg value rest).program phy values).Ensures fun es out =>
        Nested phy (.write reg value rest) es out.1 := by
    intro reg value rest values h
    rw [program_write]
    rintro (c | ⟨⟩)
    · exact .writeLost
    · exact h.mono fun _ _ => .write
  induction body generalizing values with
  | stop => exact .stop
  | read reg rest ih =>
    rw [program_read]
    rintro (c | value)
    · exact .readLost
    · exact (ih _).mono fun _ _ => .read
  | write reg value rest ih => exact hwrite (ih values)
  | modify reg clear set rest ih =>
    rw [program_modify]
    rintro (c | value)
    · exact .modifyLost
    · exact (hwrite (ih values)).mono fun _ _ => .modify
  | within page inner rest ih ih' =>
    rw [program_within]
    rintro (c | ⟨⟩)
    · exact .unopened
    · refine Program.Ensures.bind (ih values) fun es out h => ?_
      obtain ⟨c | ⟨⟩, values'⟩ := out
      · rintro (c' | ⟨⟩)
        · exact .broken h
        · exact .broken h
      · rintro (c' | ⟨⟩)
        · exact .unclosed h
        · exact (ih' values').mono fun _ _ => .within h

/-! ### What is left after a failure -/

/-- The number of brackets still open around each frame of a body: they are what there is to close
if that frame fails.  A bracket is not open yet at its page select, and not any more at the write
that closes it. -/
def Body.left : Body → List Nat
  | .stop => []
  | .read _ rest => 0 :: rest.left
  | .write _ _ rest => 0 :: rest.left
  | .modify _ _ _ rest => 0 :: 0 :: rest.left
  | .within _ inner rest => 0 :: (inner.left.map (· + 1) ++ 0 :: rest.left)

/-- What the first failure leaves to be done, where `left` counts the brackets to close at each
frame. -/
inductive Unwound (phy : PhyAddress) (left : List Nat) : List Event → Except BusFault Unit → Prop
  /-- No frame fails. -/
  | passed {es : List Event} (hes : ∀ e ∈ es, e.failure? = none)
      (hlength : es.length = left.length) : Unwound phy left es (.ok ())
  /-- A frame is the first one to fail: its fault is the result, and what follows it are the writes
  of page `0` for the brackets that are open, whatever comes of them. -/
  | failed {before after : List Event} {e : Event} {c : BusFault} {n : Nat}
      (hbefore : ∀ e ∈ before, e.failure? = none) (he : e.failure? = some c)
      (hn : left[before.length]? = some n)
      (hafter : after.map Event.request = List.replicate n (closing phy)) :
    Unwound phy left (before ++ e :: after) (.error c)

namespace Unwound

variable {phy : PhyAddress} {left left' : List Nat} {es es' : List Event} {e : Event} {n : Nat}
  {c : BusFault} {result : Except BusFault Unit}

theorem fail (he : e.failure? = some c) : Unwound phy (0 :: left) [e] (.error c) := by
  have h : Unwound phy (0 :: left) ([] ++ e :: []) (.error c) :=
    .failed (List.forall_mem_nil _) he rfl rfl
  exact h

/-- What comes before the first failure may be longer. -/
theorem append (hes : ∀ e ∈ es, e.failure? = none) (hlength : es.length = left.length)
    (h : Unwound phy left' es' result) : Unwound phy (left ++ left') (es ++ es') result := by
  cases h with
  | passed hes' hlength' =>
    refine .passed (List.forall_mem_append.2 ⟨hes, hes'⟩) ?_
    rw [List.length_append, List.length_append, hlength, hlength']
  | failed hbefore he hn hafter =>
    rw [← List.append_assoc]
    refine .failed (List.forall_mem_append.2 ⟨hes, hbefore⟩) he ?_ hafter
    rw [List.length_append, hlength, List.getElem?_append_right (Nat.le_add_right _ _),
      Nat.add_sub_cancel_left]
    exact hn

theorem cons (he : e.failure? = none) (h : Unwound phy left es result) :
    Unwound phy (n :: left) (e :: es) result := by
  have h' : Unwound phy ([n] ++ left) ([e] ++ es) result :=
    append (List.forall_mem_singleton.2 he) rfl h
  exact h'

theorem close (h : Unwound phy left es (.error c)) (restored : Except BusFault Unit) :
    Unwound phy (left.map (· + 1) ++ left') (es ++ [⟨closing phy, restored⟩]) (.error c) := by
  cases h with
  | @failed before after e _ n hbefore he hn hafter =>
    rw [List.append_assoc, List.cons_append]
    refine .failed (n := n + 1) hbefore he ?_ ?_
    · have hlt : before.length < left.length := (List.getElem?_eq_some_iff.1 hn).1
      rw [List.getElem?_append_left (by rw [List.length_map]; exact hlt), List.getElem?_map, hn]
      rfl
    · rw [List.map_append, hafter, List.replicate_succ']
      rfl

theorem failures (h : Unwound phy left es (.ok ())) :
    (∀ e ∈ es, e.failure? = none) ∧ es.length = left.length := by
  cases h with
  | passed hes hlength => exact ⟨hes, hlength⟩

end Unwound

/-- **After the first failure the open brackets are closed, and nothing else is done.** -/
theorem Nested.unwound {phy : PhyAddress} {body : Body} {es : List Event}
    {result : Except BusFault Unit} (h : Nested phy body es result) :
    Unwound phy body.left es result := by
  induction h with
  | stop => exact .passed (List.forall_mem_nil _) rfl
  | read _ ih => exact ih.cons rfl
  | readLost => exact .fail rfl
  | write _ ih => exact ih.cons rfl
  | writeLost => exact .fail rfl
  | modify _ ih => exact ih.cons rfl
  | modifyLost => exact .fail rfl
  | unopened => exact .fail rfl
  | broken _ ih => exact (ih.close _).cons rfl
  | @unclosed page inner rest es c _ ih =>
    obtain ⟨hes, hlength⟩ := ih.failures
    have hlength' : es.length = (inner.left.map (· + 1)).length := by
      rw [List.length_map, hlength]
    exact (Unwound.append hes hlength' (.fail rfl)).cons rfl
  | @within page inner rest es es' result _ _ ih ih' =>
    obtain ⟨hes, hlength⟩ := ih.failures
    have hlength' : es.length = (inner.left.map (· + 1)).length := by
      rw [List.length_map, hlength]
    exact (Unwound.append hes hlength' (ih'.cons rfl)).cons rfl

/-! ### The registers that are accessed -/

/-- Whether no access is to the page select. -/
def Body.sparesSelect : Body → Bool
  | .stop => true
  | .read reg rest => reg ≠ Register.pageSelect && rest.sparesSelect
  | .write reg _ rest => reg ≠ Register.pageSelect && rest.sparesSelect
  | .modify reg _ _ rest => reg ≠ Register.pageSelect && rest.sparesSelect
  | .within _ inner rest => inner.sparesSelect && rest.sparesSelect

/-- The registers that the accesses of a body are for while `page` is selected, each with the page
on which it is found.  After a bracket, page `0` is selected. -/
def Body.cells (page : Word) : Body → List (Word × RegAddress)
  | .stop => []
  | .read reg rest => (bank page reg, reg) :: rest.cells page
  | .write reg _ rest => (bank page reg, reg) :: rest.cells page
  | .modify reg _ _ rest => (bank page reg, reg) :: (bank page reg, reg) :: rest.cells page
  | .within inside inner rest => inner.cells inside ++ rest.cells Page.standard

/-- The register of a PHY that a frame is for while `page` is selected, if it is not the page
select. -/
def Request.cell? (phy : PhyAddress) (page : Word) : Request → Option (Word × RegAddress)
  | .read phy' reg | .write phy' reg _ =>
    if phy' = phy ∧ reg ≠ Register.pageSelect then some (bank page reg, reg) else none
  | _ => none

/-- The registers of a PHY that some events are for, if `page` is selected before them. -/
def cellsFrom (phy : PhyAddress) : Word → List Event → List (Word × RegAddress)
  | _, [] => []
  | page, e :: es =>
    (e.request.cell? phy page).toList ++ cellsFrom phy (e.pageAfter phy page) es

section

variable {phy : PhyAddress} {page : Word} {reg : RegAddress} {e : Event} {es es' : List Event}

theorem cellsFrom_append : cellsFrom phy page (es ++ es') =
    cellsFrom phy page es ++ cellsFrom phy (es.foldl (Event.pageAfter phy) page) es' := by
  induction es generalizing page with
  | nil => rfl
  | cons e es ih => rw [List.cons_append, cellsFrom, cellsFrom, ih, List.append_assoc]; rfl

theorem cellsFrom_select {value : Word} :
    cellsFrom phy page (wrote phy Register.pageSelect value :: es) = cellsFrom phy value es := by
  rw [cellsFrom, Event.pageAfter_of_select rfl rfl, Request.cell?, if_neg (by simp)]
  rfl

theorem cellsFrom_closing {restored : Except BusFault Unit} :
    cellsFrom phy page (es ++ [⟨closing phy, restored⟩]) = cellsFrom phy page es := by
  rw [cellsFrom_append, cellsFrom, cellsFrom, Request.cell?, if_neg (by simp)]
  exact List.append_nil _

theorem cellsFrom_read (hreg : reg ≠ Register.pageSelect) {answer : Except BusFault Word} :
    cellsFrom phy page (⟨.read phy reg, answer⟩ :: es) =
      (bank page reg, reg) :: cellsFrom phy page es := by
  have hcell : Request.cell? phy page (.read phy reg) = some (bank page reg, reg) :=
    if_pos ⟨rfl, hreg⟩
  rw [cellsFrom, hcell, Event.pageAfter_eq (.inl rfl)]
  rfl

theorem cellsFrom_write (hreg : reg ≠ Register.pageSelect) {value : Word}
    {answer : Except BusFault Unit} :
    cellsFrom phy page (⟨.write phy reg value, answer⟩ :: es) =
      (bank page reg, reg) :: cellsFrom phy page es := by
  have hcell : Request.cell? phy page (.write phy reg value) = some (bank page reg, reg) :=
    if_pos ⟨rfl, hreg⟩
  rw [cellsFrom, hcell, Event.pageAfter_eq (.inl (by simpa [Request.selects] using hreg))]
  rfl

end

/-- Of the registers that are to be accessed, the first ones were, and all of them unless there was a
failure. -/
structure Reached (planned cells : List (Word × RegAddress)) (result : Except BusFault Unit) :
    Prop where
  first : cells <+: planned
  all : result = .ok () → cells = planned

namespace Reached

variable {planned planned' cells cells' : List (Word × RegAddress)} {cell : Word × RegAddress}
  {result : Except BusFault Unit} {c : BusFault}

theorem none : Reached planned [] (.error c) := ⟨List.nil_prefix, nofun⟩

theorem cons (h : Reached planned cells result) :
    Reached (cell :: planned) (cell :: cells) result :=
  ⟨(List.prefix_cons_inj cell).2 h.first, fun hok => by rw [h.all hok]⟩

theorem append (h : Reached planned' cells' result) :
    Reached (planned ++ planned') (planned ++ cells') result :=
  ⟨(List.prefix_append_right_inj planned).2 h.first, fun hok => by rw [h.all hok]⟩

theorem fail (h : Reached planned cells result) :
    Reached (planned ++ planned') cells (.error c) :=
  ⟨h.first.trans (List.prefix_append _ _), nofun⟩

end Reached

/-- **The accesses are for the registers of the body**, up to the first failure. -/
theorem Nested.reached {phy : PhyAddress} {body : Body} {es : List Event}
    {result : Except BusFault Unit} (h : Nested phy body es result)
    (hbody : body.sparesSelect = true) (page : Word) :
    Reached (body.cells page) (cellsFrom phy page es) result := by
  induction h generalizing page with
  | stop => exact ⟨List.prefix_rfl, fun _ => rfl⟩
  | read _ ih =>
    obtain ⟨hreg, hrest⟩ := Bool.and_eq_true_iff.1 hbody
    rw [cellsFrom_read (of_decide_eq_true hreg)]
    exact (ih hrest page).cons
  | readLost =>
    rw [cellsFrom_read (of_decide_eq_true (Bool.and_eq_true_iff.1 hbody).1)]
    exact Reached.none.cons
  | write _ ih =>
    obtain ⟨hreg, hrest⟩ := Bool.and_eq_true_iff.1 hbody
    rw [cellsFrom_write (of_decide_eq_true hreg)]
    exact (ih hrest page).cons
  | writeLost =>
    rw [cellsFrom_write (of_decide_eq_true (Bool.and_eq_true_iff.1 hbody).1)]
    exact Reached.none.cons
  | modify _ ih =>
    rw [cellsFrom_read (of_decide_eq_true (Bool.and_eq_true_iff.1 hbody).1)]
    exact (ih hbody page).cons
  | modifyLost =>
    rw [cellsFrom_read (of_decide_eq_true (Bool.and_eq_true_iff.1 hbody).1)]
    exact Reached.none.cons
  | unopened =>
    rw [cellsFrom, cellsFrom, Request.cell?, if_neg (by simp)]
    exact .none
  | broken _ ih =>
    rw [cellsFrom_select, cellsFrom_closing]
    exact (ih (Bool.and_eq_true_iff.1 hbody).1 _).fail
  | unclosed _ ih =>
    rw [cellsFrom_select, cellsFrom_closing]
    exact (ih (Bool.and_eq_true_iff.1 hbody).1 _).fail
  | within _ _ ih ih' =>
    obtain ⟨hinner, hrest⟩ := Bool.and_eq_true_iff.1 hbody
    rw [cellsFrom_select, cellsFrom_append, cellsFrom_select, (ih hinner _).all rfl]
    exact (ih' hrest Page.standard).append

/-! ### Simulated PHYs -/

namespace SimulatedPhy

variable {a : PhyAddress} {p p' : SimulatedPhy} {reg : RegAddress} {e : Event} {cell : Cell}

/-- What a PHY gives for a register of a page: a value that is queued there, or else what is stored,
in which a pending reset is visible.  Where no PHY is there, the bus is idle. -/
def given (p : SimulatedPhy) (cell : Cell) : Word :=
  let queue := if cell.1 = Page.standard then (p.queued.get? cell.2).getD [] else []
  let stored := (p.contents cell).getD 0
  let resetting := cell.2 = Register.bmcr ∧ p.pendingReset.any (· ≠ 0) = true
  if p.isPresent then queue.headD (if resetting then stored ||| Bmcr.reset else stored) else .idle

/-- A frame acts on a register of a page: a read that succeeds gives what the PHY gives for it, a write
that is accepted stores there, and nothing else is stored. -/
def ActsOn (cell : Cell) (p : SimulatedPhy) : Event → SimulatedPhy → Prop
  | ⟨.read .., answer⟩, p' => (∀ v, answer = .ok v → v = p.given cell) ∧ p'.contents = p.contents
  | ⟨.write _ reg value, .ok ()⟩, p' =>
    p'.contents = Function.update p.contents cell (some (RegAddress.kept reg value))
  | _, p' => p'.contents = p.contents

/-- A read that is let through finds the register on the page on which the number is found. -/
theorem answer_fst (hreg : reg ≠ Register.pageSelect) :
    (p.answer reg).1 = p.given (bank p.page reg, reg) := by
  have hstored : (if reg = Register.bmcr then p.readControl else (p.stored reg, p)).1 =
      if reg = Register.bmcr ∧ p.pendingReset.any (· ≠ 0) = true then
        p.stored reg ||| Bmcr.reset
      else p.stored reg := by
    by_cases hcontrol : reg = Register.bmcr
    · rw [if_pos hcontrol, readControl_fst, hcontrol]
      simp
    · simp [hcontrol]
  rw [answer, given]
  cases p.isPresent with
  | false => rfl
  | true =>
    rw [Bool.not_true, if_neg Bool.false_ne_true, if_neg hreg, if_pos rfl, takeQueued]
    by_cases hbank : bank p.page reg = Page.standard
    · rw [if_pos hbank, if_pos hbank]
      obtain _ | ⟨_ | ⟨v, rest⟩⟩ := p.queued.get? reg
      · exact hstored
      · exact hstored
      · rfl
    · rw [if_neg hbank, if_neg hbank]
      exact hstored

/-- **Every frame acts on the register that it is for, on the page that is selected.** -/
theorem Passes.actsOn (h : Passes False a p e p') (hcell : e.request.cell? a p.page = some cell) :
    ActsOn cell p e p' := by
  have hcontents := h.replay.1
  obtain ⟨q, answer⟩ := e
  cases q with
  | read phy reg =>
    obtain ⟨⟨rfl, hreg⟩, hsome⟩ := Option.ite_none_right_eq_some.1 hcell
    obtain rfl := Option.some.inj hsome
    refine ⟨fun v hv => ?_, hcontents⟩
    obtain ⟨left, hanswer⟩ := answer_of_read (Passes.of_got (hv ▸ h))
    have hgiven := answer_fst (p := { p with readsLeft := left }) hreg
    rw [hanswer] at hgiven
    exact hgiven
  | write phy reg value =>
    obtain ⟨⟨rfl, hreg⟩, hsome⟩ := Option.ite_none_right_eq_some.1 hcell
    obtain rfl := Option.some.inj hsome
    obtain c | ⟨⟩ := answer
    · exact hcontents
    · rw [Event.lands_wrote hreg] at hcontents
      exact hcontents
  | _ => cases hcell

end SimulatedPhy

/-- The requests of a run, each with the state of the machine that it finds. -/
def Program.visits {σ α : Type} (m : Machine σ) : Program α → σ → List (Request × σ)
  | done _, _ => []
  | ask q next, s => (q, s) :: (next (m.answer q s).1).visits m (m.answer q s).2

namespace SimulatedBus

variable {α : Type} {phy : PhyAddress}

/-- The registers of a PHY that a program accesses in a run, each with the page on which it is found
while the page is selected that the PHY has at that moment. -/
def cellsOf (phy : PhyAddress) (x : Program α) (b : Board SimulatedBus) :
    List (Word × RegAddress) :=
  (x.visits bus.machine b).filterMap fun visit => visit.1.cell? phy (visit.2.bus.phy phy).page

theorem cellsOf_eq (x : Program α) (b : Board SimulatedBus) :
    cellsOf phy x b = cellsFrom phy (b.bus.phy phy).page (x.run bus.machine b).events := by
  induction x generalizing b with
  | done a => rfl
  | ask q next ih =>
    have hpage := (follows_answer q b).page phy
    rw [List.foldl_cons, List.foldl_nil] at hpage
    rw [Program.run_ask, cellsFrom, ← hpage, ← ih, cellsOf, Program.visits, List.filterMap_cons]
    cases q.cell? phy (b.bus.phy phy).page <;> rfl

/-- Each access of a run to a PHY acts on the register that it is for, on the page that is selected at
that moment. -/
def ActsOnCells (phy : PhyAddress) (x : Program α) (b : Board SimulatedBus) : Prop :=
  ∀ q b', (q, b') ∈ x.visits bus.machine b →
    ∀ cell, q.cell? phy (b'.bus.phy phy).page = some cell →
      let out := bus.machine.answer q b'
      (b'.bus.phy phy).ActsOn cell ⟨q, out.1⟩ (out.2.bus.phy phy)

theorem actsOnCells (x : Program α) (b : Board SimulatedBus) : ActsOnCells phy x b :=
  fun q b' _ _ hcell => (answer_passes q b' phy).actsOn hcell

end SimulatedBus

theorem Nested.ends {phy : PhyAddress} {page : Word} {body : Body} {es : List Event}
    {result : Except BusFault Unit} (h : Nested phy (.within page body .stop) es result) :
    (∃ c, es = [refused phy Register.pageSelect page c]) ∨
      ∃ es' restored, es = es' ++ [⟨closing phy, restored⟩] := by
  cases h with
  | unopened => exact .inl ⟨_, rfl⟩
  | broken => exact .inr ⟨_ :: _, _, rfl⟩
  | unclosed => exact .inr ⟨_ :: _, _, rfl⟩
  | within _ h =>
    cases h
    exact .inr ⟨_ :: _, _, rfl⟩

theorem Nested.page_eq {phy : PhyAddress} {page : Word} {body : Body} {es : List Event}
    {result : Except BusFault Unit} (h : Nested phy (.within page body .stop) es result)
    (hselect : ∀ e ∈ es, ∀ value, e.request = .write phy Register.pageSelect value →
      e.failure? = none) (before : Word) :
    es.foldl (Event.pageAfter phy) before = Page.standard := by
  obtain ⟨c, rfl⟩ | ⟨es', restored, rfl⟩ := h.ends
  · cases hselect _ (List.mem_singleton_self _) _ rfl
  · rw [List.foldl_append, List.foldl_cons, List.foldl_nil]
    exact Event.pageAfter_of_select rfl (hselect _ (by simp) _ rfl)

/-- **A bracket around nested accesses.**  On every bus the events have the shape of the body, the
first fault is the result, and after it only the open brackets are closed.  On simulated PHYs that
take page selects, page `0` is selected at the end, and each access is for the register of the body
that it stands for, on the page that the body says: it reads what is there, or stores there. -/
theorem withinPage_closes_nested (phy : PhyAddress) (page : Word) {body : Body}
    (hbody : body.sparesSelect = true) (values : List Word) :
    let x := (withinPage phy page (body.perform phy)).run.run values
    (∀ {σ : Type} (m : Machine σ) (s : σ),
      let out := x.run m s
      Nested phy (.within page body .stop) out.events out.result.1 ∧
        Unwound phy (Body.within page body .stop).left out.events out.result.1) ∧
      ∀ b : Board SimulatedBus, b.bus.takesSelects phy →
        let out := x.run SimulatedBus.bus.machine b
        (out.final.bus.phy phy).page = Page.standard ∧
          Reached (body.cells page) (SimulatedBus.cellsOf phy x b) out.result.1 ∧
          SimulatedBus.ActsOnCells phy x b := by
  intro x
  have hx : x.Ensures fun es out => Nested phy (.within page body .stop) es out.1 := by
    rw [show x = _ from Body.run_withinPage_perform body]
    exact Body.program_ensures phy _ values
  refine ⟨fun m s => ?_, fun b htakes => ?_⟩
  · have hnested := hx.run m s
    exact ⟨hnested, hnested.unwound⟩
  · have hnested := hx.run SimulatedBus.bus.machine b
    have hfollows := SimulatedBus.run_follows x b
    refine ⟨?_, ?_, SimulatedBus.actsOnCells x b⟩
    · rw [hfollows.page phy]
      exact hnested.page_eq (fun e he value hq => (hfollows.select e he phy value hq).2 htakes) _
    · have hreached := hnested.reached (by simp [Body.sparesSelect, hbody]) (b.bus.phy phy).page
      rw [SimulatedBus.cellsOf_eq]
      simpa [Body.cells] using hreached

/-- A write after an inner bracket fails: it was for page `0`, and the outer bracket is closed. -/
theorem withinPage_closes_nested_failing :
    let body : Body := .within Page.control (.read Register.insr .stop)
      (.write Register.rxDelay 0 .stop)
    let b : Board SimulatedBus :=
      { bus := (SimulatedBus.apply {} 0 .powerUp).apply 0 (.failWrites Register.rxDelay) }
    let x := (withinPage 0 Page.clockDelay (body.perform 0)).run.run []
    let out := x.run SimulatedBus.bus.machine b
    (body.sparesSelect = true ∧ b.bus.takesSelects 0 ∧ out.result.1 = .error .noResponse ∧
      SimulatedBus.cellsOf 0 x b =
        [(Page.control, Register.insr), (Page.standard, Register.rxDelay)]) ∧
      (Nested 0 (.within Page.clockDelay body .stop) out.events out.result.1 ∧
        Unwound 0 (Body.within Page.clockDelay body .stop).left out.events out.result.1) ∧
      (out.final.bus.phy 0).page = Page.standard ∧
      Reached (body.cells Page.clockDelay) (SimulatedBus.cellsOf 0 x b) out.result.1 ∧
      SimulatedBus.ActsOnCells 0 x b := by
  intro body b x out
  have htakes : b.bus.takesSelects 0 := by
    rw [SimulatedBus.takesSelects]
    decide
  have hresult : out.result.1 = .error .noResponse := rfl
  have hcells : SimulatedBus.cellsOf 0 x b =
      [(Page.control, Register.insr), (Page.standard, Register.rxDelay)] := by decide +kernel
  have hbody : body.sparesSelect = true := rfl
  have h := withinPage_closes_nested 0 Page.clockDelay hbody []
  exact ⟨⟨hbody, htakes, hresult, hcells⟩, h.1 SimulatedBus.bus.machine b, h.2 b htakes⟩

end EthernetPhy
