import EthernetPhy.Bench.Basic
import EthernetPhy.Proofs.Actions
import EthernetPhy.Proofs.BringUp
import EthernetPhy.Proofs.NestedPages
import EthernetPhy.Proofs.SettledState
import EthernetPhy.Proofs.SinglePhy

/-!
# PHYs that share a bus

Much of what is done to a PHY takes several frames, and what a frame finds depends on what came
before: the page that is selected, a reset that is pending, the values that are still queued.  On a
shared bus the frames of several PHYs mix.  All that a frame depends on belongs to one PHY, though, so
each PHY is served as if it were alone.

* `Work`, `Errand` : what may be done to one PHY, by frames or from outside; all procedures but a
  sweep are among it, which asks every address;
* `Site` : a bus, and for each PHY the record that a driver keeps of it;
* `Errand.alone` : an errand to a PHY by itself;
* `Site.runAll_filter` : **of a list of errands to several PHYs, those to one of them have the
  results that they have without the others**, and leave the same behind.
-/

namespace EthernetPhy

/-! ### Errands -/

/-- Whether a procedure is one for the PHY at an address, given a record of that PHY. -/
def Clause22.Procedure.isFor (a : PhyAddress) : Procedure → Bool
  | .linkIsUp phy | .negotiationIsComplete phy | .reset phy _ | .negotiate phy
  | .forceMode phy _ | .identifier phy | .abilities phy | .partnerAbilities phy
  | .bestShared phy => phy = a
  | .trackLink _ => true
  | .discover => false

/-- What may be done to one PHY by frames. -/
inductive Work where
  /-- Access a register. -/
  | access (access : Access)
  /-- Access a page. -/
  | paged (access : PagedAccess)
  /-- Make nested accesses within a page. -/
  | body (page : Word) (body : Body)
  /-- Perform a standard procedure. -/
  | procedure (procedure : Clause22.Procedure)

namespace Work

/-- Whether work is for the PHY at an address. -/
def isFor (a : PhyAddress) : Work → Bool
  | .access x => x.phy = a
  | .procedure p => p.isFor a
  | .paged _ | .body .. => true

/-- The program that does the work on the PHY at an address, with the record of that PHY. -/
def program (phy : PhyAddress) (r : PhyRecord) : Work → Program (Reply × PhyRecord)
  | .access x => (fun result => (.ofAccess result, r)) <$> x.perform.run
  | .paged x => (fun result => (.ofAccess result, r)) <$> (x.perform phy).run
  | .body page b =>
    (fun out => (.body out.1 out.2.reverse, r)) <$>
      (withinPage phy page (b.perform phy)).run.run []
  | .procedure p => (fun out => (.ofResult out.1, out.2)) <$> p.perform.runOn r

end Work

/-- Something that is done to one PHY. -/
inductive Errand where
  /-- It is changed from outside. -/
  | setup (phy : PhyAddress) (change : Setup)
  /-- Something is done there by frames. -/
  | work (phy : PhyAddress) (work : Work) (isFor : work.isFor phy = true)

/-- The PHY to which something is done. -/
def Errand.phy : Errand → PhyAddress
  | .setup phy _ | .work phy _ _ => phy

/-! ### Errands on a bus -/

/-- A bus of simulated PHYs, and the records that are kept of them. -/
structure Site where
  /-- The bus and the clock. -/
  board : Board SimulatedBus
  /-- The record of each PHY. -/
  records : PhyAddress → PhyRecord

namespace Site

/-- What there is of one PHY at a site. -/
def desk (s : Site) (a : PhyAddress) : SimulatedPhy × PhyRecord := (s.board.bus.phy a, s.records a)

/-- Whether each record is one of the PHY for which it is kept. -/
def Addressed (s : Site) : Prop := ∀ a, (s.records a).address = a

/-- Does one errand. -/
def run (s : Site) : Errand → Reply × Site
  | .setup phy change => (.answer .done, { s with board.bus := s.board.bus.apply phy change })
  | .work phy work _ =>
    let out := (work.program phy (s.records phy)).run SimulatedBus.bus.machine s.board
    (out.result.1, ⟨out.final, Function.update s.records phy out.result.2⟩)

/-- Does some errands; each reply comes with the PHY from which it is. -/
def runAll (s : Site) : List Errand → List (PhyAddress × Reply) × Site
  | [] => ([], s)
  | e :: rest =>
    let out := s.run e
    let later := out.2.runAll rest
    ((e.phy, out.1) :: later.1, later.2)

end Site

/-- Does an errand to a PHY by itself. -/
def Errand.alone (d : SimulatedPhy × PhyRecord) : Errand → Reply × SimulatedPhy × PhyRecord
  | .setup _ change => (.answer .done, d.1.apply change, d.2)
  | .work phy w _ =>
    let out := (w.program phy d.2).run SimulatedPhy.machine d.1
    (out.result.1, out.final, out.result.2)

/-- Does some errands to a PHY by itself. -/
def aloneAll (d : SimulatedPhy × PhyRecord) :
    List Errand → List (PhyAddress × Reply) × SimulatedPhy × PhyRecord
  | [] => ([], d)
  | e :: rest =>
    let out := e.alone d
    let later := aloneAll out.2 rest
    ((e.phy, out.1) :: later.1, later.2)

/-- The errands to one PHY among some errands, in order. -/
def errandsTo (a : PhyAddress) (errands : List Errand) : List Errand :=
  errands.filter fun e => e.phy = a

/-! ### All work keeps to its PHY -/

section

variable {a : PhyAddress} {r : PhyRecord}

theorem Nested.keepsTo {body : Body} {es : List Event} {result : Except BusFault Unit}
    (h : Nested a body es result) : ∀ e ∈ es, KeepsTo a e.request := by
  induction h with
  | stop => exact List.forall_mem_nil _
  | read h ih => exact List.forall_mem_cons.2 ⟨keepsTo_read, ih⟩
  | readLost => exact List.forall_mem_singleton.2 keepsTo_read
  | write h ih => exact List.forall_mem_cons.2 ⟨keepsTo_write, ih⟩
  | writeLost => exact List.forall_mem_singleton.2 keepsTo_write
  | modify h ih => exact List.forall_mem_cons.2 ⟨keepsTo_read, ih⟩
  | modifyLost => exact List.forall_mem_singleton.2 keepsTo_read
  | unopened => exact List.forall_mem_singleton.2 keepsTo_write
  | broken h ih =>
    exact List.forall_mem_cons.2 ⟨keepsTo_write,
      List.forall_mem_append.2 ⟨ih, List.forall_mem_singleton.2 keepsTo_write⟩⟩
  | unclosed h ih =>
    exact List.forall_mem_cons.2 ⟨keepsTo_write,
      List.forall_mem_append.2 ⟨ih, List.forall_mem_singleton.2 keepsTo_write⟩⟩
  | within h h' ih ih' =>
    exact List.forall_mem_cons.2 ⟨keepsTo_write,
      List.forall_mem_append.2 ⟨ih, List.forall_mem_cons.2 ⟨keepsTo_write, ih'⟩⟩⟩

theorem Body.keepsTo (page : Word) (body : Body) :
    ((withinPage a page (body.perform a)).run.run []).Asks (KeepsTo a) := by
  rw [Body.run_withinPage_perform]
  exact (Body.program_ensures a _ _).mono fun _ _ h => h.keepsTo

theorem Footprint.Allows.keepsTo {f : Footprint} {q : Request} (h : f.Allows a q) : KeepsTo a q :=
  h.elim (P := KeepsTo a) (fun _ _ => keepsTo_read) (fun _ _ _ _ => keepsTo_write)
    (fun _ _ => keepsTo_delay) fun _ => keepsTo_log

theorem Transceiver.Covers.keepsTo {f : Footprint} {opens : Bool} {es : List Event} {e : Event}
    (h : Covers f a opens es) (he : e ∈ es) : KeepsTo a e.request := by
  obtain hallows | hreset := h.request he
  · exact hallows.keepsTo
  · rw [hreset]
    exact keepsTo_write

namespace Clause22

theorem run_bestShared (phy : PhyAddress) : (bestShared phy).run =
    ((abilities phy).run >>= fun ours => (partnerAbilities phy).run >>= fun theirs =>
      .done (ours >>= fun ours => theirs >>= fun theirs => .ok (ours.bestShared theirs))) := by
  simp only [bestShared, ExceptT.run_bind, ExceptT.run_lift, ExceptT.run_mk, map_eq_pure_bind,
    Program.bind_bind, Program.pure_eq, Program.done_bind]
  congr 1
  funext ours
  congr 1
  funext theirs
  cases ours <;> cases theirs <;> rfl

theorem bestShared_keepsTo : PhyM.Asks (KeepsTo a) (bestShared a) := by
  rw [PhyM.Asks, run_bestShared]
  refine .bind (Program.Asks.mono abilities_within fun _ h => h.keepsTo) fun _ => ?_
  exact .bind (Program.Asks.mono partnerAbilities_within fun _ h => h.keepsTo) fun _ => .done

/-- **A procedure for one PHY keeps to it.** -/
theorem Procedure.keepsTo {p : Procedure} (h : p.isFor a = true) (hr : r.address = a) :
    (p.perform.runOn r).Asks (KeepsTo a) := by
  have hlift : ∀ {α : Type} {x : PhyM α} {f : α → Answer}, PhyM.Asks (KeepsTo a) x →
      ((do return f (← x) : RecordM Answer).runOn r).Asks (KeepsTo a) := fun hx =>
    RecordM.asks_bind (RecordM.asks_phy hx) (fun _ => RecordM.asks_pure) r
  have hwithin : ∀ {α : Type} {x : PhyM α} {g : Footprint} {f : α → Answer},
      PhyM.Asks (g.Allows a) x →
      ((do return f (← x) : RecordM Answer).runOn r).Asks (KeepsTo a) := fun hx =>
    hlift (hx.mono fun _ h => h.keepsTo)
  cases p with
  | discover => cases h
  | trackLink timeout =>
    rw [perform, RecordM.runOn_bind]
    refine .bind ((trackLink_within timeout r hr).mono fun _ _ h e he => (h.1 e he).keepsTo)
      fun out => ?_
    obtain ⟨e | u, r'⟩ := out
    · exact .done
    · exact .done
  | linkIsUp phy =>
    obtain rfl : phy = a := of_decide_eq_true h
    exact hwithin linkIsUp_within
  | negotiationIsComplete phy =>
    obtain rfl : phy = a := of_decide_eq_true h
    exact hlift (PhyM.asks_bind (PhyM.asks_read keepsTo_read) fun _ => PhyM.asks_pure)
  | reset phy polls =>
    obtain rfl : phy = a := of_decide_eq_true h
    have hreset : (Clause22.reset phy polls).run.Asks (KeepsTo phy) :=
      (Transceiver.reset_covers polls).mono fun _ _ h _ he => h.keepsTo he
    exact hlift hreset
  | negotiate phy =>
    obtain rfl : phy = a := of_decide_eq_true h
    exact hwithin negotiate_within
  | forceMode phy mode =>
    obtain rfl : phy = a := of_decide_eq_true h
    exact hwithin (forceMode_within mode)
  | identifier phy =>
    obtain rfl : phy = a := of_decide_eq_true h
    exact hwithin identifier_within
  | abilities phy =>
    obtain rfl : phy = a := of_decide_eq_true h
    exact hwithin abilities_within
  | partnerAbilities phy =>
    obtain rfl : phy = a := of_decide_eq_true h
    exact hwithin partnerAbilities_within
  | bestShared phy =>
    obtain rfl : phy = a := of_decide_eq_true h
    exact hlift bestShared_keepsTo

/-- A procedure leaves the address in the record as it is, unless it looks for a PHY. -/
theorem Procedure.keeps_address {p : Procedure} (h : p.isFor a = true) :
    RecordM.Keeps PhyRecord.address p.perform := by
  cases p with
  | discover => cases h
  | trackLink timeout =>
    refine RecordM.keeps_bind (fun r => ?_) fun _ => RecordM.keeps_pure
    refine (trackLink_ensures timeout r).mono fun es out h => ?_
    rw [h.record_eq]
  | _ => exact RecordM.keeps_bind RecordM.keeps_liftM_phy fun _ => RecordM.keeps_pure

end Clause22

theorem Work.keepsTo {w : Work} (h : w.isFor a = true) (hr : r.address = a) :
    (w.program a r).Asks (KeepsTo a) := by
  cases w with
  | access access =>
    obtain rfl : access.phy = a := of_decide_eq_true h
    exact .map access.keepsTo
  | paged access => exact .map access.keepsTo
  | body page body => exact .map (body.keepsTo page)
  | procedure p => exact .map (Clause22.Procedure.keepsTo h hr)

theorem Work.program_address {w : Work} (h : w.isFor a = true) (r : PhyRecord) :
    (w.program a r).Ensures fun _ out => out.2.address = r.address := by
  cases w with
  | procedure p => exact Program.ensures_map.2 (Clause22.Procedure.keeps_address h r)
  | _ => exact Program.ensures_map.2 (.of_forall fun _ _ => rfl)

end

/-! ### Errands do not interfere -/

namespace Site

variable {s : Site} {a : PhyAddress}

/-- An errand does at a site what it does to its PHY alone:

* `reply` : it has the same result;
* `desk` : it leaves the PHY and its record in the same state;
* `others` : it leaves all other PHYs and their records as they are;
* `line` : it leaves the reset line as it is;
* `addressed` : each record is still one of its PHY. -/
structure RunsAlone (s : Site) (e : Errand) : Prop where
  reply : (s.run e).1 = (e.alone (s.desk e.phy)).1
  desk : (s.run e).2.desk e.phy = (e.alone (s.desk e.phy)).2
  others : ∀ a, a ≠ e.phy → (s.run e).2.desk a = s.desk a
  line : (s.run e).2.board.line = s.board.line
  addressed : (s.run e).2.Addressed

/-- **One errand does at a site what it does to its PHY alone.** -/
theorem run_alone (hs : s.Addressed) (e : Errand) : s.RunsAlone e := by
  cases e with
  | setup phy change =>
    exact
      { reply := rfl
        desk := congrArg (·, s.records phy) (SimulatedBus.phy_setPhy_self ..)
        others := fun a ha => congrArg (·, s.records a) (SimulatedBus.phy_setPhy_of_ne _ _ ha.symm)
        line := rfl
        addressed := hs }
  | work phy w isFor =>
    obtain ⟨hresult, -, hfinal, hsame⟩ :=
      SimulatedBus.run_single (w.keepsTo isFor (hs phy)) s.board
    have haddress := (w.program_address isFor (s.records phy)).run SimulatedBus.bus.machine s.board
    exact
      { reply := congrArg Prod.fst hresult
        desk := Prod.ext hfinal ((Function.update_self ..).trans (congrArg Prod.snd hresult))
        others := fun a ha => Prod.ext (hsame.phy a ha) (Function.update_of_ne ha _ _)
        line := hsame.line
        addressed := fun a => by
          show (Function.update s.records phy _ a).address = a
          by_cases ha : a = phy
          · subst ha
            rw [Function.update_self, haddress, hs a]
          · rw [Function.update_of_ne ha, hs a] }

theorem runAll_phys (errands : List Errand) :
    (s.runAll errands).1.map Prod.fst = errands.map Errand.phy := by
  induction errands generalizing s with
  | nil => rfl
  | cons e rest ih => exact congrArg (e.phy :: ·) ih

/-- **Some errands do to each PHY what those to it do to the PHY alone.** -/
theorem runAll_alone (hs : s.Addressed) (errands : List Errand) :
    let out := s.runAll errands
    (∀ a, let alone := aloneAll (s.desk a) (errandsTo a errands)
      out.1.filter (fun reply => reply.1 = a) = alone.1 ∧ out.2.desk a = alone.2) ∧
      out.2.board.line = s.board.line := by
  induction errands generalizing s with
  | nil => exact ⟨fun a => ⟨rfl, rfl⟩, rfl⟩
  | cons e rest ih =>
    have hfirst := run_alone hs e
    obtain ⟨hrest, hline⟩ := ih hfirst.addressed
    refine ⟨fun a => ?_, hline.trans hfirst.line⟩
    obtain ⟨hreplies, hdesk⟩ := hrest a
    by_cases ha : e.phy = a
    · -- The errand is one to this PHY: it is the first of those that are.
      subst ha
      rw [hfirst.desk] at hreplies hdesk
      have herrands : errandsTo e.phy (e :: rest) = e :: errandsTo e.phy rest :=
        List.filter_cons_of_pos (decide_eq_true rfl)
      rw [herrands]
      refine ⟨?_, hdesk⟩
      show List.filter _ ((e.phy, (s.run e).1) :: ((s.run e).2.runAll rest).1) = _ :: _
      rw [List.filter_cons_of_pos (by simp), hreplies, hfirst.reply]
    · -- The errand is one to another PHY and does nothing to this one.
      rw [hfirst.others a (Ne.symm ha)] at hreplies hdesk
      have herrands : errandsTo a (e :: rest) = errandsTo a rest :=
        List.filter_cons_of_neg (by simpa using ha)
      rw [herrands]
      refine ⟨?_, hdesk⟩
      show List.filter _ ((e.phy, (s.run e).1) :: ((s.run e).2.runAll rest).1) = _
      rw [List.filter_cons_of_neg (by simpa using ha), hreplies]

/-- **PHYs that share a bus do not interfere.**  Whatever errands are done to several PHYs, and in
whatever order: those to one of them have the results that they have if they are done alone from the
same start, and they leave the PHY and the record of it in the same state.  So two orders of the same
errands in which those to each PHY follow one another alike end the same, but for the lists of frames;
and nothing happens to the reset line. -/
theorem runAll_filter (hs : s.Addressed) (errands : List Errand) :
    let out := s.runAll errands
    (∀ a, let alone := s.runAll (errandsTo a errands)
      out.1.filter (fun reply => reply.1 = a) = alone.1 ∧ out.2.desk a = alone.2.desk a) ∧
      (∀ reordered, (∀ a, errandsTo a reordered = errandsTo a errands) →
        ∀ a, (s.runAll reordered).2.desk a = out.2.desk a) ∧
      out.2.board.line = s.board.line := by
  obtain ⟨hmixed, hline⟩ := runAll_alone hs errands
  refine ⟨fun a => ?_, fun reordered hsame a => ?_, hline⟩
  · obtain ⟨hreplies, hdesk⟩ := hmixed a
    obtain ⟨hreplies', hdesk'⟩ := (runAll_alone hs (errandsTo a errands)).1 a
    have hagain : errandsTo a (errandsTo a errands) = errandsTo a errands :=
      List.filter_filter.trans (by simp [errandsTo])
    rw [hagain] at hreplies' hdesk'
    -- All replies of the run alone are from this PHY.
    have hall : (s.runAll (errandsTo a errands)).1.filter (fun reply => reply.1 = a) =
        (s.runAll (errandsTo a errands)).1 := by
      rw [List.filter_eq_self]
      intro reply hreply
      have hphy : reply.1 ∈ (errandsTo a errands).map Errand.phy := by
        rw [← runAll_phys (s := s)]
        exact List.mem_map_of_mem hreply
      obtain ⟨e, he, hreply⟩ := List.mem_map.1 hphy
      rw [← hreply]
      exact (List.mem_filter.1 he).2
    exact ⟨by rw [hreplies, ← hreplies', hall], by rw [hdesk, hdesk']⟩
  · obtain ⟨-, hdesk⟩ := hmixed a
    obtain ⟨-, hdesk'⟩ := (runAll_alone hs reordered).1 a
    rw [hdesk, hdesk', hsame a]

/-- One PHY is left on a vendor page while another one on the bus is reset and gets a link. -/
theorem runAll_filter_twoPhys :
    let s : Site :=
      { board := { bus := (SimulatedBus.apply {} 0 .powerUp).apply 1 .powerUp }
        records := fun a => { address := a } }
    let errands : List Errand :=
      [.work 0 (.paged (.select Page.control)) rfl, .work 1 (.procedure (.reset 1 2)) rfl,
        .setup 1 .linkUpGigabitFull, .work 0 (.access (.read 0 Register.phycr2)) rfl,
        .work 1 (.procedure (.trackLink 100)) rfl, .work 1 (.access (.read 1 Register.physr)) rfl]
    let out := s.runAll errands
    (s.Addressed ∧ (out.2.desk 0).1.page = Page.control ∧ (out.2.desk 1).2.current = .up) ∧
      (∀ a, let alone := s.runAll (errandsTo a errands)
        out.1.filter (fun reply => reply.1 = a) = alone.1 ∧ out.2.desk a = alone.2.desk a) ∧
      (∀ reordered, (∀ a, errandsTo a reordered = errandsTo a errands) →
        ∀ a, (s.runAll reordered).2.desk a = out.2.desk a) ∧
      out.2.board.line = s.board.line := by
  intro s errands out
  have hs : s.Addressed := fun _ => rfl
  exact ⟨⟨hs, by decide +kernel, by decide +kernel⟩, runAll_filter hs errands⟩

end Site

end EthernetPhy
