import EthernetPhy.Proofs.Footprints
import EthernetPhy.Proofs.LinkEdges
import EthernetPhy.Proofs.SimulatedPages

/-!
# Page `0` is kept

Register `0x11` is the status word of the link on page `0` and the delay of the transmit clock on
another page, so a page left open would make a look at the link decode a delay.  On simulated PHYs
this cannot happen (`pages_stay_standard`): **every operation leaves page `0` selected on every
PHY**, whatever fails and whatever is changed from outside between the operations, so that every
read of the status word is one of page `0`.

That an operation closes its pages is read off its events: it stops at its first failure, after
which at most the restoring write follows (`StopsFast`), and that write cannot fail where the page
was selected before, since a PHY answers all page selects of one run alike (`Follows`).
-/

namespace EthernetPhy

/-! ### Stopping fast closes the pages -/

section

variable {β : Type} {exempt : List Event → Request → Bool} {cause : β → Option BusFault}
  {es : List Event} {b : β} {takes : PhyAddress → Prop} {phy : PhyAddress}

theorem selectedPage_of_not_takes
    (hselect : ∀ e ∈ es, ∀ phy value, e.request = .write phy Register.pageSelect value →
      (e.failure? = none ↔ takes phy)) (htakes : ¬ takes phy) :
    selectedPage phy es = Page.standard := by
  rw [← List.nil_append es]
  refine selectedPage_append_eq_self fun e he value hq h => ?_
  exact htakes ((hselect e he phy value hq).1 h)

/-- Where each PHY accepts all page selects or none, what stops fast leaves no page open. -/
theorem StopsFast.closed (h : StopsFast exempt [] cause es b)
    (hselect : ∀ e ∈ es, ∀ phy value, e.request = .write phy Register.pageSelect value →
      (e.failure? = none ↔ takes phy)) : Closed es := by
  cases hf : firstFailure? exempt [] es with
  | none => exact (h.passed hf).2
  | some f =>
    obtain ⟨-, hends⟩ := h.failed f hf
    obtain ⟨es₁, e, hes, hbefore, hrequest, hfail⟩ := exists_of_firstFailure?_eq_some hf
    rw [List.nil_append] at hbefore
    have hfailed : e.failure? ≠ none := by rw [hfail]; exact Option.some_ne_none _
    intro phy
    by_cases hphy : f.request.phy? = some phy
    · have hafter := hends.after
      rw [Failure.restore_eq hphy] at hafter
      by_cases htakes : takes phy
      · have hnot : f.request.selects = false := by
          rw [← hrequest, Bool.eq_false_iff]
          intro hsel
          obtain ⟨value, hq⟩ := Request.exists_of_selects (hrequest ▸ hphy) hsel
          exact hfailed ((hselect e (by simp [hes]) phy value hq).2 htakes)
        rw [hnot, Bool.false_or, hbefore] at hafter
        rw [hes, List.append_cons, selectedPage_append]
        split at hafter
        · rename_i hpage
          rw [List.map_eq_nil_iff.1 hafter, List.foldl_nil, selectedPage_concat,
            Event.pageAfter_eq (.inr hfailed)]
          exact of_decide_eq_true hpage
        · -- The page was open, and the write that restores it is accepted.
          obtain ⟨e', rest, hcons, hq, hrest⟩ := List.map_eq_cons_iff.1 hafter
          have haccept := (hselect e' (by simp [hes, hcons]) phy _ hq).2 htakes
          rw [hcons, List.map_eq_nil_iff.1 hrest, List.foldl_cons, List.foldl_nil]
          exact Event.pageAfter_of_select hq haccept
      · exact selectedPage_of_not_takes hselect htakes
    · -- Nothing is written to this PHY from the failure on.
      have hother := hends.others phy hphy
      rw [hbefore] at hother
      rw [hes, ← hother]
      refine selectedPage_append_eq_self fun e' he' value hq => ?_
      obtain rfl | he' := List.mem_cons.1 he'
      · exact hfailed
      · have hmem := List.mem_map_of_mem (f := Event.request) he'
        rw [hends.after, hq] at hmem
        unfold Failure.restore at hmem
        split at hmem
        · rename_i phy' hphy'
          split at hmem
          · cases hmem
          · obtain rfl := (Request.write.inj (List.mem_singleton.1 hmem)).1
            exact absurd hphy' hphy
        · cases hmem

end

/-! ### Operations that select no page -/

namespace Transceiver

/-- What an operation asks that does not select a page. -/
abbrev Unpaged (q : Request) : Prop := q.selects = false

/-- The operations that read the status word of the link. -/
def Operation.readsStatus : Operation → Bool
  | .awaitSpeed | .settledState | .resolvedMode | .linkMode | .newLink | .awaitNewLink _ => true
  | _ => false

theorem Operation.asks_of_readsStatus (settings : Settings) {o : Operation}
    (h : o.readsStatus = true) : RecordM.Asks Unpaged (o.perform settings) := by
  have hup : o ≠ .bringUp := by rintro rfl; cases h
  obtain ⟨hopens, hwrites⟩ : o.opensWithReset = false ∧ o.footprint.writes = [] := by
    cases o <;> first | exact ⟨rfl, rfl⟩ | cases h
  intro r
  refine (Operation.worksAt settings hup hopens r rfl).mono fun es out hworks e he => ?_
  exact Request.selects_eq_false ((hworks.1 e he).isWrite_eq_false hwrites)

end Transceiver

/-! ### Runs on simulated PHYs -/

/-- At every request of a run the request and the state of the machine satisfy `P`. -/
def Program.Along {σ α : Type} (m : Machine σ) (P : Request → σ → Prop) : Program α → σ → Prop
  | done _, _ => True
  | ask q next, s => P q s ∧ (next (m.answer q s).1).Along m P (m.answer q s).2

theorem Program.Along.mono {σ α : Type} {m : Machine σ} {P P' : Request → σ → Prop}
    {p : Program α} {s : σ} (h : p.Along m P s) (hP : ∀ q s, P q s → P' q s) :
    p.Along m P' s := by
  induction p generalizing s with
  | done a => trivial
  | ask q next ih => exact ⟨hP q s h.1, ih _ h.2⟩

/-- Every PHY of a bus has page `0` selected. -/
def SimulatedBus.AllStandard (b : SimulatedBus) : Prop := ∀ phy, (b.phy phy).page = Page.standard

/-- A driver and the board on which it runs. -/
structure Rig where
  /-- The record of the driver. -/
  record : PhyRecord
  /-- The board with the simulated PHYs. -/
  board : Board SimulatedBus

/-- Something that happens around a driver. -/
inductive Move where
  /-- The caller does something with the driver. -/
  | act (action : Transceiver.Action)
  /-- A PHY is changed from outside. -/
  | setup (phy : PhyAddress) (change : Setup)
  /-- A request is made without the driver. -/
  | direct (request : Request)

/-- Whether a move is no page select. -/
def Move.sparesPages : Move → Bool
  | .direct q => !q.selects
  | _ => true

namespace Rig

/-- The rig after a move. -/
def move (settings : Settings) (rig : Rig) : Move → Rig
  | .act a =>
    let out := ((a.perform settings).runOn rig.record).run SimulatedBus.bus.machine rig.board
    ⟨out.result.2, out.final⟩
  | .setup phy change => { rig with board.bus := rig.board.bus.apply phy change }
  | .direct q => { rig with board := (SimulatedBus.bus.machine.answer q rig.board).2 }

/-- The rig after some moves. -/
def run (settings : Settings) (rig : Rig) (moves : List Move) : Rig :=
  moves.foldl (move settings) rig

end Rig

section

open SimulatedBus

variable (settings : Settings) {b : Board SimulatedBus}

theorem SimulatedBus.Follows.allStandard {b b' : SimulatedBus} {es : List Event}
    (h : Follows b es b') (hb : b.AllStandard) (hes : Closed es) : b'.AllStandard := by
  intro phy
  rw [h.page phy, hb phy]
  exact hes phy

theorem answer_allStandard {q : Request} (hq : q.selects = false) (hb : b.bus.AllStandard) :
    (bus.machine.answer q b).2.bus.AllStandard :=
  (follows_answer q b).allStandard hb (closed_nil.concat (.inl hq))

theorem along_of_asks {α : Type} {p : Program α} (hp : p.Asks Transceiver.Unpaged)
    (hb : b.bus.AllStandard) : p.Along bus.machine (fun _ b => b.bus.AllStandard) b := by
  induction p generalizing b with
  | done a => trivial
  | ask q next ih =>
    exact ⟨hb, ih _ (hp.rest _) (answer_allStandard (hp.first bus.machine b) hb)⟩

/-- **Every operation leaves page `0` selected on every PHY**, whatever comes of it. -/
theorem act_allStandard (a : Transceiver.Action) (r : PhyRecord) (hb : b.bus.AllStandard) :
    (((a.perform settings).runOn r).run bus.machine b).final.bus.AllStandard := by
  have hfollows := run_follows ((a.perform settings).runOn r) b
  have hfast := (a.stopsFast settings r).run bus.machine b
  exact hfollows.allStandard hb (hfast.closed hfollows.select)

/-- One move keeps page `0`. -/
theorem move_allStandard {rig : Rig} {x : Move} (hx : x.sparesPages = true)
    (h : rig.board.bus.AllStandard) : (rig.move settings x).board.bus.AllStandard := by
  cases x with
  | act a => exact act_allStandard settings a rig.record h
  | setup phy change =>
    intro phy'
    change (SimulatedBus.phy (setPhy _ phy _) phy').page = _
    rw [phy_setPhy]
    split
    · rw [SimulatedPhy.page_apply]
      exact h phy
    · exact h phy'
  | direct q => exact answer_allStandard (by simpa [Move.sparesPages] using hx) h

theorem run_allStandard {rig : Rig} {moves : List Move}
    (hmoves : ∀ x ∈ moves, x.sparesPages = true) (h : rig.board.bus.AllStandard) :
    (rig.run settings moves).board.bus.AllStandard := by
  induction moves generalizing rig with
  | nil => exact h
  | cons x rest ih =>
    obtain ⟨hx, hrest⟩ := List.forall_mem_cons.1 hmoves
    exact ih hrest (move_allStandard settings hx h)

end

/-- **Page `0` is kept.**  If every PHY has page `0` selected at the start, then so it is after any
run of operations, of changes from outside and of requests other than page selects, with all
settings and from every record; and every operation that follows reads the status word of the link
on page `0`, wherever it does so. -/
theorem pages_stay_standard (settings : Settings) {rig : Rig} (h : rig.board.bus.AllStandard)
    {moves : List Move} (hmoves : ∀ x ∈ moves, x.sparesPages = true) :
    let rig' := rig.run settings moves
    rig'.board.bus.AllStandard ∧
      ∀ o : Transceiver.Operation, o.readsStatus = true →
        ((o.perform settings).runOn rig'.record).Along SimulatedBus.bus.machine
          (fun q b => ∀ phy, q = .read phy Register.physr →
            bank (b.bus.phy phy).page Register.physr = Page.standard) rig'.board := by
  have hpages := run_allStandard settings hmoves h
  refine ⟨hpages, fun o ho => ?_⟩
  refine (along_of_asks (o.asks_of_readsStatus settings ho _) hpages).mono fun q b hb phy _ => ?_
  rw [hb phy]
  rfl

/-- Page selects start to fail after a bring-up, and the link is found nevertheless. -/
theorem pages_stay_standard_failing :
    let rig : Rig := ⟨{}, { bus := {} }⟩
    let moves : List Move := [.setup 0 .powerUp, .act (.operate .bringUp),
      .setup 0 (.failWrites Register.pageSelect), .act (.operate .liveMode),
      .setup 0 .linkUpGigabitFull, .act (.operate .settledState)]
    let rig' := rig.run {} moves
    (rig.board.bus.AllStandard ∧ (∀ x ∈ moves, x.sparesPages = true) ∧
      rig'.record.negotiated = some ⟨.mbps1000, .full⟩) ∧
      rig'.board.bus.AllStandard ∧
      ∀ o : Transceiver.Operation, o.readsStatus = true →
        ((o.perform {}).runOn rig'.record).Along SimulatedBus.bus.machine
          (fun q b => ∀ phy, q = .read phy Register.physr →
            bank (b.bus.phy phy).page Register.physr = Page.standard) rig'.board :=
  ⟨⟨fun _ => rfl, by decide, rfl⟩, pages_stay_standard {} (fun _ => rfl) (by decide)⟩

end EthernetPhy
