import EthernetPhy.Proofs.AddressDiscipline
import EthernetPhy.Proofs.Footprints
import EthernetPhy.Proofs.Provenance

/-!
# What a transceiver may write

Basic mode control is mostly changed by reading it and writing it back, and what the read finds is up
to the bus: a reset may still show, the PHY may be isolated, and an absent PHY reads as all ones.
Written back, such a bit would reset the PHY once more or take it off its link.

* `Session.forall_deeds` : what holds of every action on its own holds of every action of a run;
* `Action.ensures_writesProperly` : **what one action writes** (`WritesProperly`), which follows from
  the footprint of the operation (`Covers.writesProperly`);
* `session_writes` : **what every run writes**, whatever the bus answers.
-/

namespace EthernetPhy

open RecordM

namespace Transceiver

/-! ### Every action of a run -/

namespace Session

variable {σ : Type} {P : Deed → Prop} {s : Session σ} {settings : Settings}

/-- What holds of every action on its own holds of every action of a run. -/
theorem forall_deeds
    (h : ∀ a r, ((Action.perform settings a).runOn r).Ensures fun es _ => P ⟨a, es⟩) (m : Machine σ)
    (hs : ∀ d ∈ s.deeds, P d) (actions : List Action) :
    ∀ d ∈ (s.acts m settings actions).deeds, P d := by
  induction actions generalizing s with
  | nil => exact hs
  | cons a rest ih =>
    refine ih (s := s.act m settings a) (List.forall_mem_append.2 ⟨hs, ?_⟩)
    exact List.forall_mem_singleton.2 ((h a s.record).run m s.state)

end Session

/-! ### What one action writes -/

/-- Whether an operation only looks at the PHY, or not even that. -/
def Operation.looksOnly : Operation → Bool
  | address | linkIsUp | linkMode | newLink | awaitNewLink _ | settledState | awaitSpeed => true
  | negotiated | resolvedMode | negotiationIsComplete | abilities | partnerAbilities => true
  | identifier | isKnown => true
  | bringUp | reset | applySettings | closePage | liveMode | negotiate | forceMode _ => false
  | unmaskLinkInterrupt | maskInterrupts | pendingInterrupts => false

/-- Whether an action may write a reset after some events: a reset and a bring-up may, and an operation
that writes the settings may begin with it. -/
def Action.mayReset (before : List Event) : Action → Bool
  | operate .reset | operate .bringUp => true
  | operate .applySettings => before.isEmpty
  | operate _ | resetPin _ => false

/-- What an action may write:

* `control` : to basic mode control, exactly the reset word where a reset is due, and else only what
  neither resets nor isolates the PHY;
* `looks` : nothing, if the action is an operation that only looks;
* `paged` : no register but page select, if the action looks into a page. -/
structure WritesProperly (d : Deed) : Prop where
  control : ∀ before e after, d.events = before ++ e :: after → ∀ phy value,
    e.request = .write phy Register.bmcr value →
      value = Bmcr.reset ∧ d.action.mayReset before = true ∨
        value.test Bmcr.reset = false ∧ value.test Bmcr.isolate = false
  looks : ∀ o, d.action = .operate o → o.looksOnly = true →
    ∀ e ∈ d.events, e.request.isWrite = false
  paged : d.action = .operate .liveMode ∨ d.action = .operate .pendingInterrupts →
    ∀ e ∈ d.events, ∀ phy reg value, e.request = .write phy reg value → reg = Register.pageSelect

theorem writesProperly_of_not_isWrite {a : Action} {es : List Event}
    (h : ∀ e ∈ es, e.request.isWrite = false) : WritesProperly ⟨a, es⟩ where
  control before e after hes phy value hq := by
    have he := h e (by rw [show es = before ++ e :: after from hes]; simp)
    rw [hq] at he
    cases he
  looks _ _ _ := h
  paged _ e he phy reg value hq := by
    have hwrite := h e he
    rw [hq] at hwrite
    cases hwrite

theorem Operation.footprint_of_looksOnly {o : Operation} (h : o.looksOnly = true) :
    o.footprint.writes = [] ∧ o.opensWithReset = false := by
  cases o <;> first | exact ⟨rfl, rfl⟩ | cases h

/-- An operation that keeps to its footprint writes properly, and so does the reset with which it may
begin. -/
theorem Covers.writesProperly {o : Operation} {phy : PhyAddress} {es : List Event}
    (h : Covers o.footprint phy o.opensWithReset es) : WritesProperly ⟨.operate o, es⟩ where
  control before e after hes phy' value hq := by
    obtain hallows | ⟨rfl, hopens, hreset⟩ := h before e after hes
    · rw [hq] at hallows
      exact .inr (hallows.2.2 rfl)
    · refine .inl ⟨(Request.write.inj (hq.symm.trans hreset)).2.2, ?_⟩
      cases o <;> first | rfl | cases hopens
  looks o' ho hlooks e he := by
    obtain rfl := Action.operate.inj ho
    obtain ⟨hwrites, hopens⟩ := Operation.footprint_of_looksOnly hlooks
    exact (h.allows hopens he).isWrite_eq_false hwrites
  paged ho e he phy' reg value hq := by
    obtain ⟨hopens, hwrites⟩ :
        o.opensWithReset = false ∧ o.footprint.writes = [Register.pageSelect] := by
      obtain ho | ho := ho <;> cases ho <;> exact ⟨rfl, rfl⟩
    have hallows := h.allows hopens he
    rw [hq] at hallows
    exact List.mem_singleton.1 (hwrites ▸ hallows.2.1)

/-- A bring-up may write a reset at any time. -/
theorem writesProperly_bringUp {phy : PhyAddress} {es : List Event}
    (h : ∀ e ∈ es, BringUpAllows phy e.request) : WritesProperly ⟨.operate .bringUp, es⟩ where
  control before e after hes phy' value hq := by
    have hallows := h e (by rw [show es = before ++ e :: after from hes]; simp)
    rw [hq] at hallows
    obtain ⟨_, _, hread | hread⟩ | hallows | hreset := hallows
    · cases hread
    · cases hread
    · exact .inr (hallows.2.2 rfl)
    · exact .inl ⟨(Request.write.inj hreset).2.2, rfl⟩
  looks o ho hlooks := by
    cases ho
    cases hlooks
  paged := nofun

/-- **What one action writes**, from every record. -/
theorem Action.ensures_writesProperly (settings : Settings) (a : Action) (r : PhyRecord) :
    ((a.perform settings).runOn r).Ensures fun es _ => WritesProperly ⟨a, es⟩ := by
  cases a with
  | resetPin o =>
    refine ensures_return (fun es _ => WritesProperly ⟨.resetPin o, es⟩) ?_
    rw [runOn_liftM_phy, Program.ensures_map]
    refine o.perform_asks.ensures fun es _ h => writesProperly_of_not_isWrite fun e he => ?_
    exact Request.isWrite_eq_false (.inr (h e he))
  | operate o =>
    by_cases hup : o = .bringUp
    · subst hup
      exact ensures_return (fun es _ => WritesProperly ⟨.operate .bringUp, es⟩)
        ((bringUp_ensures_allowed settings r).mono fun _ _ h => writesProperly_bringUp h.2)
    · exact (Operation.ensures_covers settings hup r).mono fun _ _ h => h.1.writesProperly

/-- **What every run writes**, on every bus, with all settings and from every record.  Each value
written to basic mode control is the reset word, and then it was due, or it neither resets nor isolates
the PHY; operations that only look write nothing; and the two that look into a page write nothing but
page select.  A search for a PHY writes nothing either. -/
theorem session_writes {σ : Type} (m : Machine σ) (settings : Settings) (r : PhyRecord) (s : σ)
    (actions : List Action) :
    (∀ d ∈ (Session.acts m settings { record := r, state := s } actions).deeds, WritesProperly d) ∧
      ∀ e ∈ ((Clause22.discover.runOn r).run m s).events, e.request.isWrite = false := by
  constructor
  · exact Session.forall_deeds (Action.ensures_writesProperly settings) m (List.forall_mem_nil _) _
  · intro e he
    exact Request.isWrite_eq_false (((Clause22.discover_ensures r).run m s).2 e he)

/-- On a bus that is idle everything reads as all ones, and neither of the two bits is written back. -/
example : Bmcr.renegotiating .idle = 0x7BFF ∧ Bmcr.forced ⟨.mbps100, .half⟩ .idle = 0x6ABF := by
  decide

end Transceiver

end EthernetPhy
