import EthernetPhy.Proofs.UpdatesInOrder

/-!
# The registers that an operation uses

An operation of a transceiver works at the PHY in the record, and of that PHY it uses a few registers.
A `Footprint` says which of them it may read, which it may write, and whether it may wait.

* `Footprint.Allows` : what may be asked within a footprint; **a write of basic mode control may
  neither reset nor isolate the PHY**;
* `RecordM.WorksAt` : an operation that asks only for what is allowed at an address, and that leaves
  the address in the record as it is;
* `Operation.ensures_covers` : **every operation but a bring-up keeps to its footprint**
  (`Operation.footprint`), apart from the reset with which two of them begin;
* `bringUp_ensures_allowed` : a bring-up asks for identifiers at any address, and then keeps to its
  footprint and to resets at the address that it ends with.
-/

namespace EthernetPhy

/-! ### Footprints -/

/-- A value of basic mode control that neither resets nor isolates the PHY. -/
def Bmcr.Harmless (v : Word) : Prop := v.test Bmcr.reset = false ∧ v.test Bmcr.isolate = false

/-- The bits of basic mode control that select a link mode. -/
def Bmcr.modeBits : Word := speed1000 ||| speed100 ||| fullDuplex

theorem Bmcr.selected_and (mode : LinkMode) {mask : Word} (h : modeBits &&& mask = 0) :
    (speedBits mode.speed ||| duplexBits mode.duplex) &&& mask = 0 := by
  have hselected : speedBits mode.speed ||| duplexBits mode.duplex =
      (speedBits mode.speed ||| duplexBits mode.duplex) &&& modeBits := by
    obtain ⟨speed, duplex⟩ := mode
    cases speed <;> cases duplex <;> decide
  rw [hselected, BitVec.and_assoc, h]
  exact BitVec.and_zero

theorem Bmcr.harmless_forced (mode : LinkMode) (v : Word) : Harmless (forced mode v) :=
  ⟨Word.test_update v (by decide) (selected_and mode (by decide)),
    Word.test_update v (by decide) (selected_and mode (by decide))⟩

theorem Bmcr.harmless_renegotiating (v : Word) : Harmless (renegotiating v) :=
  ⟨Word.test_update v (by decide) (by decide), Word.test_update v (by decide) (by decide)⟩

/-- What may be used of a PHY. -/
structure Footprint where
  /-- The registers that may be read. -/
  reads : List RegAddress := []
  /-- The registers that may be written. -/
  writes : List RegAddress := []
  /-- Whether there may be waits. -/
  waits : Bool := false

namespace Footprint

instance : Append Footprint :=
  ⟨fun f g => ⟨f.reads ++ g.reads, f.writes ++ g.writes, f.waits || g.waits⟩⟩

instance : HasSubset Footprint :=
  ⟨fun f g => f.reads ⊆ g.reads ∧ f.writes ⊆ g.writes ∧ (f.waits = true → g.waits = true)⟩

instance (f g : Footprint) : Decidable (f ⊆ g) := inferInstanceAs (Decidable (_ ∧ _ ∧ _))

/-- What may be asked within a footprint at one PHY; basic mode control is not written with a value
that resets or isolates the PHY, even if it may be written. -/
def Allows (f : Footprint) (phy : PhyAddress) : Request → Prop
  | .read phy' reg => phy' = phy ∧ reg ∈ f.reads
  | .write phy' reg value =>
    phy' = phy ∧ reg ∈ f.writes ∧ (reg = Register.bmcr → Bmcr.Harmless value)
  | .delay _ => f.waits = true
  | .log _ => True
  | .drive _ => False

variable {f g : Footprint} {phy : PhyAddress} {reg : RegAddress}

/-- What holds of all requests within a footprint. -/
theorem Allows.elim {P : Request → Prop} {q : Request} (h : f.Allows phy q)
    (hread : ∀ reg ∈ f.reads, P (.read phy reg))
    (hwrite : ∀ reg ∈ f.writes, ∀ value, (reg = Register.bmcr → Bmcr.Harmless value) →
      P (.write phy reg value))
    (hdelay : f.waits = true → ∀ time, P (.delay time)) (hlog : ∀ message, P (.log message)) :
    P q := by
  cases q with
  | read phy' reg =>
    obtain ⟨rfl, hreg⟩ := h
    exact hread reg hreg
  | write phy' reg value =>
    obtain ⟨rfl, hreg, hvalue⟩ := h
    exact hwrite reg hreg value hvalue
  | delay time => exact hdelay h time
  | log message => exact hlog message
  | drive level => exact False.elim h

theorem Allows.mono {q : Request} (h : f.Allows phy q) (hfg : f ⊆ g) : g.Allows phy q :=
  h.elim (P := g.Allows phy) (fun _ hreg => ⟨rfl, hfg.1 hreg⟩)
    (fun _ hreg _ hvalue => ⟨rfl, hfg.2.1 hreg, hvalue⟩) (fun hwaits _ => hfg.2.2 hwaits)
    fun _ => trivial

theorem subset_append_left : f ⊆ f ++ g :=
  ⟨List.subset_append_left .., List.subset_append_left .., fun h => Bool.or_eq_true_iff.2 (.inl h)⟩

theorem subset_append_right : g ⊆ f ++ g :=
  ⟨List.subset_append_right .., List.subset_append_right .., fun h => Bool.or_eq_true_iff.2 (.inr h)⟩

theorem Allows.isWrite_eq_false {q : Request} (h : f.Allows phy q)
    (hf : f.writes = []) : q.isWrite = false :=
  h.elim (P := fun q => q.isWrite = false) (fun _ _ => rfl)
    (fun _ hreg _ _ => absurd (hf ▸ hreg) List.not_mem_nil) (fun _ _ => rfl) fun _ => rfl

theorem Allows.isDelay_eq_false {q : Request} (h : f.Allows phy q)
    (hf : f.waits = false) : q.isDelay = false :=
  h.elim (P := fun q => q.isDelay = false) (fun _ _ => rfl) (fun _ _ _ _ => rfl)
    (fun hwaits _ => absurd (hwaits.symm.trans hf) (by decide)) fun _ => rfl

theorem asks_read (h : reg ∈ f.reads) :
    PhyM.Asks (f.Allows phy) (liftM (BusM.read phy reg) : PhyM Word) :=
  PhyM.asks_read ⟨rfl, h⟩

theorem asks_write {value : Word} (h : reg ∈ f.writes) (hreg : reg ≠ Register.bmcr) :
    (BusM.write phy reg value).run.Asks (f.Allows phy) :=
  BusM.asks_write ⟨rfl, h, fun hbmcr => absurd hbmcr hreg⟩

theorem asks_modify {clear set : Word} (h : reg ∈ f.reads) (h' : reg ∈ f.writes)
    (hreg : reg ≠ Register.bmcr) : (BusM.modify phy reg clear set).run.Asks (f.Allows phy) :=
  BusM.asks_modify ⟨rfl, h⟩ fun _ => ⟨rfl, h', fun hbmcr => absurd hbmcr hreg⟩

theorem asks_withinPage {α : Type} {page : Word} {body : BusM α} (h : Register.pageSelect ∈ f.writes)
    (hbody : body.run.Asks (f.Allows phy)) : (withinPage phy page body).run.Asks (f.Allows phy) :=
  BusM.asks_withinPage (fun _ => ⟨rfl, h, fun hbmcr => absurd hbmcr (by decide)⟩) hbody

theorem asks_log {message : Message} :
    PhyM.Asks (f.Allows phy) (liftM (Program.log message) : PhyM Unit) :=
  PhyM.asks_program (.ask trivial fun _ => .done)

/-- Waits. -/
def waiting : Footprint where
  waits := true

/-- What the wait for the end of a reset uses. -/
def pendingReset : Footprint where
  reads := [Register.bmcr]
  waits := true

/-- Basic mode status, to be read. -/
def status : Footprint where
  reads := [Register.bmsr]

/-- The status word, to be read. -/
def speed : Footprint where
  reads := [Register.physr]

/-- What the start of a negotiation uses. -/
def negotiation : Footprint where
  reads := [Register.bmsr, Register.anar, Register.ctrl1000, Register.bmcr]
  writes := [Register.anar, Register.ctrl1000, Register.bmcr]

/-- What the settings use. -/
def settings : Footprint where
  reads := [Register.txDelay, Register.rxDelay, Register.phycr2, Register.phycr1]
  writes := [Register.pageSelect, Register.txDelay, Register.rxDelay, Register.lcr, Register.phycr2,
    Register.phycr1]

end Footprint

/-! ### The standard procedures -/

section

open PhyM Footprint

variable {phy : PhyAddress}

namespace Clause22

theorem awaitReset_within (phy : PhyAddress) (looks : Nat) :
    Asks (pendingReset.Allows phy) (awaitReset phy looks) :=
  (awaitReset_ensures_awaited phy looks).mono fun _ _ h =>
    h.forall_request (P := pendingReset.Allows phy) ⟨rfl, List.mem_singleton.2 rfl⟩ rfl
      fun _ => trivial

theorem negotiate_within : Asks (negotiation.Allows phy) (negotiate phy) := by
  have hable : Asks (negotiation.Allows phy) (requireAbility phy) := by
    refine asks_bind (asks_read (by decide)) fun status => ?_
    split
    · exact asks_pure
    · exact asks_bind asks_log fun _ => .done
  rw [negotiate_eq]
  refine asks_bind hable fun _ => ?_
  refine asks_bind (asks_bus (asks_modify (by decide) (by decide) (by decide))) fun _ => ?_
  refine asks_bind (asks_bus (asks_modify (by decide) (by decide) (by decide))) fun _ => ?_
  exact asks_bus (BusM.asks_modify ⟨rfl, by decide⟩ fun v =>
    ⟨rfl, by decide, fun _ => Bmcr.harmless_renegotiating v⟩)

theorem forceMode_within (mode : LinkMode) :
    Asks (Allows { reads := [Register.bmcr], writes := [Register.bmcr] } phy) (forceMode phy mode) :=
  asks_bind (asks_read (by decide)) fun v =>
    asks_bus (BusM.asks_write ⟨rfl, by decide, fun _ => Bmcr.harmless_forced mode v⟩)

theorem linkIsUp_within : Asks (status.Allows phy) (linkIsUp phy) :=
  asks_bind (asks_read (by decide)) fun _ =>
    asks_bind (asks_read (by decide)) fun _ => asks_pure

theorem abilities_within :
    Asks (Allows { reads := [Register.bmsr, Register.estatus] } phy) (abilities phy) := by
  refine asks_bind (asks_read (by decide)) fun status => ?_
  split
  · exact asks_bind (asks_read (by decide)) fun _ => asks_pure
  · exact asks_pure

theorem partnerAbilities_within :
    Asks (Allows { reads := [Register.anlpar, Register.stat1000] } phy) (partnerAbilities phy) :=
  asks_bind (asks_read (by decide)) fun _ => asks_bind (asks_read (by decide)) fun _ => asks_pure

theorem identifier_within :
    Asks (Allows { reads := [Register.phyidr1, Register.phyidr2] } phy) (identifier phy) :=
  asks_bind (asks_read (by decide)) fun _ => asks_bind (asks_read (by decide)) fun _ => asks_pure

end Clause22

/-! ### The settings -/

namespace Transceiver

theorem writeSettings_within (settings : Settings) :
    Asks (Footprint.settings.Allows phy) (writeSettings settings phy) := by
  have hset : ∀ {α : Type} (setting : Option α) {act : α → BusM Unit},
      (∀ value, (act value).run.Asks (Footprint.settings.Allows phy)) →
      Asks (Footprint.settings.Allows phy) (liftM (whenSet setting act) : PhyM Unit) := by
    intro α setting act h
    cases setting with
    | none => exact asks_bus .done
    | some value => exact asks_bus (h value)
  refine asks_bind (asks_bus (asks_withinPage (by decide) (Program.asks_run_bind
    (asks_modify (by decide) (by decide) (by decide)) fun _ =>
      asks_modify (by decide) (by decide) (by decide)))) fun _ => ?_
  refine asks_bind asks_log fun _ => ?_
  refine asks_bind (hset _ fun _ =>
    asks_withinPage (by decide) (asks_write (by decide) (by decide))) fun _ => ?_
  refine asks_bind (hset _ fun _ =>
    asks_withinPage (by decide) (asks_modify (by decide) (by decide) (by decide))) fun _ => ?_
  exact hset _ fun _ =>
    asks_withinPage (by decide) (asks_modify (by decide) (by decide) (by decide))

theorem configure_within (phy : PhyAddress) (settings : Settings) :
    Asks ((Footprint.settings ++ negotiation).Allows phy) (configure settings phy) := by
  rw [configure_eq]
  exact asks_bind ((writeSettings_within settings).mono fun _ h => h.mono subset_append_left)
    fun _ => Clause22.negotiate_within.mono fun _ h => h.mono subset_append_right

end Transceiver

end

/-! ### Operations at one address -/

namespace RecordM

variable {α β : Type} {phy : PhyAddress} {allowed : Request → Prop}

/-- From every record with this address, an operation asks only for what is allowed, and it leaves
the address as it is. -/
def WorksAt (phy : PhyAddress) (allowed : Request → Prop) (x : RecordM α) : Prop :=
  ∀ r : PhyRecord, r.address = phy → (x.runOn r).Ensures fun es out =>
    (∀ e ∈ es, allowed e.request) ∧ out.2.address = phy

theorem worksAt_pure {a : α} : WorksAt phy allowed (pure a : RecordM α) :=
  fun _ hr => ⟨List.forall_mem_nil _, hr⟩

theorem worksAt_throw {e : Fault} : WorksAt phy allowed (throw e : RecordM α) :=
  fun _ hr => ⟨List.forall_mem_nil _, hr⟩

theorem worksAt_modify {g : PhyRecord → PhyRecord} (h : ∀ r, (g r).address = r.address) :
    WorksAt phy allowed (modify g : RecordM Unit) :=
  fun r hr => ⟨List.forall_mem_nil _, (h r).trans hr⟩

theorem worksAt_modifyGet {g : PhyRecord → α × PhyRecord} (h : ∀ r, (g r).2.address = r.address) :
    WorksAt phy allowed (modifyGet g : RecordM α) :=
  fun r hr => ⟨List.forall_mem_nil _, (h r).trans hr⟩

theorem worksAt_bind {x : RecordM α} {f : α → RecordM β} (hx : WorksAt phy allowed x)
    (hf : ∀ a, WorksAt phy allowed (f a)) : WorksAt phy allowed (x >>= f) := by
  intro r hr
  refine ensures_bind (hx r hr) (fun es a r' h => ?_) fun es e r' h => h
  refine (hf a r' h.2).mono fun es' out h' => ⟨List.forall_mem_append.2 ⟨h.1, h'.1⟩, h'.2⟩

theorem worksAt_get_bind {f : PhyRecord → RecordM α}
    (hf : ∀ r, r.address = phy → WorksAt phy allowed (f r)) :
    WorksAt phy allowed (get >>= f) := by
  intro r hr
  rw [runOn_get_bind]
  exact hf r hr r hr

theorem worksAt_tryCatch {x : RecordM α} {handle : Fault → RecordM α} (hx : WorksAt phy allowed x)
    (hhandle : ∀ e, WorksAt phy allowed (handle e)) :
    WorksAt phy allowed (tryCatch x handle) := by
  intro r hr
  rw [runOn_tryCatch]
  refine (hx r hr).bind fun es out h => ?_
  obtain ⟨e | a, r'⟩ := out
  · exact (hhandle e r' h.2).mono fun es' out h' =>
      ⟨List.forall_mem_append.2 ⟨h.1, h'.1⟩, h'.2⟩
  · exact ⟨List.forall_mem_append.2 ⟨h.1, List.forall_mem_nil _⟩, h.2⟩

theorem worksAt_phy {x : PhyM α} (hx : PhyM.Asks allowed x) :
    WorksAt phy allowed (liftM x : RecordM α) := by
  intro r hr
  rw [runOn_liftM_phy, Program.ensures_map]
  exact hx.ensures fun es result h => ⟨h, hr⟩

theorem worksAt_bus {x : BusM α} (hx : x.run.Asks allowed) :
    WorksAt phy allowed (liftM x : RecordM α) :=
  worksAt_phy (PhyM.asks_bus hx)

theorem worksAt_program {x : Program α} (hx : x.Asks allowed) :
    WorksAt phy allowed (liftM x : RecordM α) := by
  intro r hr
  rw [runOn_liftM_program, Program.ensures_map]
  exact Program.Ensures.mono hx fun es result h => ⟨h, hr⟩

theorem WorksAt.mono {x : RecordM α} {allowed' : Request → Prop} (hx : WorksAt phy allowed x)
    (h : ∀ q, allowed q → allowed' q) : WorksAt phy allowed' x :=
  fun r hr => (hx r hr).mono fun _ _ hes => ⟨fun e he => h _ (hes.1 e he), hes.2⟩

theorem worksAt_here {x : PhyAddress → PhyM α} {f : α → β} (hx : PhyM.Asks allowed (x phy)) :
    WorksAt phy allowed (do return f (← x (← get).address)) :=
  worksAt_get_bind fun r hr => worksAt_bind (worksAt_phy (by rwa [hr])) fun _ => worksAt_pure

end RecordM

open RecordM

/-! ### Following the link -/

namespace Footprint

variable {f : Footprint} {phy : PhyAddress} {reg : RegAddress}

theorem worksAt_read (h : reg ∈ f.reads) :
    WorksAt phy (f.Allows phy) (liftM (BusM.read phy reg) : RecordM Word) :=
  worksAt_bus (.ask ⟨rfl, h⟩ fun _ => .done)

theorem worksAt_log {message : Message} :
    WorksAt phy (f.Allows phy) (liftM (Program.log message) : RecordM Unit) :=
  worksAt_program (.ask trivial fun _ => .done)

theorem worksAt_sleep {ms : UInt32} (h : f.waits = true) :
    WorksAt phy (f.Allows phy) (liftM (Program.sleep ms) : RecordM Unit) :=
  worksAt_program (.ask h fun _ => .done)

/-- A wait for a register reads it, and does what its two ends do. -/
theorem worksAt_lookOut {interval : UInt32} {test : Word → Bool} {found : Word → RecordM Unit}
    {ranOut : RecordM Unit} {looks : Nat} (hwaits : f.waits = true) (hreg : reg ∈ f.reads)
    (hfound : ∀ v, WorksAt phy (f.Allows phy) (found v))
    (hout : WorksAt phy (f.Allows phy) ranOut) :
    WorksAt phy (f.Allows phy) (lookOut interval phy reg test found ranOut looks) := by
  induction looks with
  | zero => exact hout
  | succ looks ih =>
    refine worksAt_bind (worksAt_sleep hwaits) fun _ =>
      worksAt_bind (worksAt_read hreg) fun value => ?_
    split
    · exact hfound value
    · exact ih

end Footprint

section

open Footprint

variable {phy : PhyAddress}

theorem Clause22.trackLink_within (timeout : UInt32) :
    WorksAt phy ((status ++ waiting).Allows phy) (trackLink timeout) := by
  refine worksAt_get_bind fun r hr => ?_
  subst hr
  refine worksAt_bind (worksAt_read (by decide)) fun v => ?_
  split
  · exact worksAt_pure
  split
  · exact worksAt_bind (worksAt_read (by decide)) fun live => worksAt_modify fun _ => rfl
  · rw [awaitNegotiation_eq_lookOut]
    refine worksAt_bind worksAt_log fun _ => worksAt_lookOut rfl (by decide) ?_ ?_
    · exact fun _ => worksAt_modify fun _ => rfl
    · exact worksAt_bind worksAt_log fun _ =>
        worksAt_bind (worksAt_modify fun _ => rfl) fun _ => worksAt_throw

namespace Transceiver

theorem settle_within (v : Word) : WorksAt phy ((speed ++ waiting).Allows phy) (settle phy v) :=
  worksAt_bind (worksAt_modify fun _ => rfl) fun _ => worksAt_log

theorem awaitSpeed_within (settings : Settings) :
    WorksAt phy ((speed ++ waiting).Allows phy) (awaitSpeed settings) := by
  refine worksAt_get_bind fun r hr => ?_
  subst hr
  refine worksAt_bind (worksAt_read (by decide)) fun v => ?_
  split
  · exact worksAt_bind (worksAt_modify fun _ => rfl) fun _ => settle_within v
  · rw [awaitResolution_eq_lookOut]
    refine worksAt_bind worksAt_log fun _ => worksAt_lookOut rfl (by decide) (fun v => ?_) ?_
    · exact worksAt_bind (worksAt_modify fun _ => rfl) fun _ =>
        worksAt_bind (worksAt_sleep rfl) fun _ => settle_within v
    · exact worksAt_bind worksAt_log fun _ =>
        worksAt_bind (worksAt_modify fun _ => rfl) fun _ => worksAt_throw

theorem resolvedMode_within : PhyM.Asks (speed.Allows phy) (resolvedMode phy) :=
  PhyM.asks_bind (asks_read (by decide)) fun _ => PhyM.asks_pure

theorem refreshMode_within : WorksAt phy (speed.Allows phy) refreshMode := by
  refine worksAt_get_bind fun r hr => ?_
  subst hr
  refine worksAt_bind (worksAt_phy resolvedMode_within) fun mode => ?_
  split
  · exact worksAt_modify fun _ => rfl
  · exact worksAt_pure

theorem settledState_within (settings : Settings) :
    WorksAt phy ((status ++ speed ++ waiting).Allows phy) (settledState settings) := by
  refine worksAt_tryCatch ?_ fun e => ?_
  · refine worksAt_bind ((Clause22.trackLink_within _).mono fun _ h => h.mono (by decide)) fun _ => ?_
    refine worksAt_get_bind fun r _ => ?_
    split
    · exact worksAt_bind ((awaitSpeed_within settings).mono fun _ h => h.mono (by decide)) fun _ =>
        worksAt_get_bind fun _ _ => worksAt_pure
    · exact worksAt_bind (refreshMode_within.mono fun _ h => h.mono (by decide)) fun _ =>
        worksAt_get_bind fun _ _ => worksAt_pure
  · cases e with
    | timeout => exact worksAt_pure
    | _ => exact worksAt_throw

theorem linkMode_within : PhyM.Asks ((status ++ speed).Allows phy) (linkMode phy) := by
  refine PhyM.asks_bind ?_ fun up => ?_
  · exact Clause22.linkIsUp_within.mono fun _ h => h.mono subset_append_left
  · split
    · exact resolvedMode_within.mono fun _ h => h.mono subset_append_right
    · exact PhyM.asks_pure

theorem newLink_within : WorksAt phy ((status ++ speed).Allows phy) newLink := by
  refine worksAt_get_bind fun r hr => ?_
  subst hr
  refine worksAt_bind (worksAt_phy linkMode_within) fun mode => ?_
  refine worksAt_bind (worksAt_modify fun _ => rfl) fun _ => ?_
  refine worksAt_bind (worksAt_modifyGet fun r => ?_) fun change => ?_
  · unfold PhyRecord.takeChange
    split <;> rfl
  · split
    · exact worksAt_bind worksAt_log fun _ => worksAt_pure
    · exact worksAt_bind worksAt_log fun _ => worksAt_pure
    · exact worksAt_pure

theorem awaitNewLinkWithin_within (looks : Nat) :
    WorksAt phy ((status ++ speed ++ waiting).Allows phy) (awaitNewLinkWithin looks) := by
  induction looks with
  | zero => exact worksAt_pure
  | succ looks ih =>
    refine worksAt_bind (newLink_within.mono fun _ h => h.mono subset_append_left) fun mode => ?_
    split
    · exact worksAt_pure
    · exact worksAt_bind (worksAt_sleep rfl) fun _ => ih

/-! ### All operations -/

/-- The registers that an operation uses; a bring-up uses these at the PHY that it has found, and
the reset with which an operation begins is not among them. -/
def Operation.footprint : Operation → Footprint
  | address | negotiated => {}
  | bringUp => pendingReset ++ (Footprint.settings ++ negotiation)
  | reset => pendingReset
  | applySettings => Footprint.settings ++ negotiation
  | closePage => { writes := [Register.pageSelect] }
  | linkIsUp | negotiationIsComplete => status
  | linkMode | newLink => status ++ speed
  | awaitNewLink _ | settledState => status ++ speed ++ waiting
  | awaitSpeed => speed ++ waiting
  | resolvedMode => speed
  | liveMode => { reads := [Register.livePhysr], writes := [Register.pageSelect] }
  | negotiate => negotiation
  | forceMode _ => { reads := [Register.bmcr], writes := [Register.bmcr] }
  | abilities => { reads := [Register.bmsr, Register.estatus] }
  | partnerAbilities => { reads := [Register.anlpar, Register.stat1000] }
  | identifier | isKnown => { reads := [Register.phyidr1, Register.phyidr2] }
  | unmaskLinkInterrupt =>
    { reads := [Register.iner], writes := [Register.pageSelect, Register.iner] }
  | maskInterrupts => { writes := [Register.pageSelect, Register.iner] }
  | pendingInterrupts => { reads := [Register.insr], writes := [Register.pageSelect] }

/-- Whether the first thing that an operation does is to reset the PHY. -/
def Operation.opensWithReset : Operation → Bool
  | reset | applySettings => true
  | _ => false

/-- Operations that do not begin with a reset use the registers of their footprint and no others. -/
theorem Operation.worksAt (settings : Settings) {o : Operation} (hup : o ≠ .bringUp)
    (hopens : o.opensWithReset = false) :
    WorksAt phy (o.footprint.Allows phy) (o.perform settings) := by
  cases o with
  | bringUp => exact absurd rfl hup
  | reset => cases hopens
  | applySettings => cases hopens
  | address => exact worksAt_get_bind fun _ _ => worksAt_pure
  | negotiated => exact worksAt_get_bind fun _ _ => worksAt_pure
  | closePage =>
    refine worksAt_get_bind fun r hr => ?_
    subst hr
    exact worksAt_bind (worksAt_bus (asks_write (by decide) (by decide))) fun _ => worksAt_pure
  | linkIsUp => exact worksAt_here Clause22.linkIsUp_within
  | negotiationIsComplete =>
    exact worksAt_here (PhyM.asks_bind (asks_read (by decide)) fun _ => PhyM.asks_pure)
  | linkMode => exact worksAt_here linkMode_within
  | newLink => exact worksAt_bind newLink_within fun _ => worksAt_pure
  | awaitNewLink timeout => exact worksAt_bind (awaitNewLinkWithin_within _) fun _ => worksAt_pure
  | settledState => exact worksAt_bind (settledState_within settings) fun _ => worksAt_pure
  | awaitSpeed => exact worksAt_bind (awaitSpeed_within settings) fun _ => worksAt_pure
  | resolvedMode => exact worksAt_here resolvedMode_within
  | liveMode =>
    refine worksAt_here (PhyM.asks_bind (PhyM.asks_bus ?_) fun _ => PhyM.asks_pure)
    exact asks_withinPage (by decide) (.ask ⟨rfl, by decide⟩ fun _ => .done)
  | negotiate => exact worksAt_here Clause22.negotiate_within
  | forceMode mode =>
    exact worksAt_here (x := fun phy => Clause22.forceMode phy mode) (Clause22.forceMode_within mode)
  | abilities => exact worksAt_here Clause22.abilities_within
  | partnerAbilities => exact worksAt_here Clause22.partnerAbilities_within
  | identifier => exact worksAt_here Clause22.identifier_within
  | isKnown => exact worksAt_here Clause22.identifier_within
  | unmaskLinkInterrupt =>
    refine worksAt_here (PhyM.asks_bus (asks_withinPage (by decide) ?_))
    exact asks_modify (by decide) (by decide) (by decide)
  | maskInterrupts =>
    refine worksAt_here (PhyM.asks_bus (asks_withinPage (by decide) ?_))
    exact asks_write (by decide) (by decide)
  | pendingInterrupts =>
    refine worksAt_here (PhyM.asks_bus (asks_withinPage (by decide) ?_))
    exact .ask ⟨rfl, by decide⟩ fun _ => .done

/-! ### Resets -/

/-- Some events keep to a footprint at one PHY, apart from a reset with which they may begin. -/
def Covers (f : Footprint) (phy : PhyAddress) (opens : Bool) (es : List Event) : Prop :=
  ∀ before e after, es = before ++ e :: after → f.Allows phy e.request ∨
    before = [] ∧ opens = true ∧ e.request = .write phy Register.bmcr Bmcr.reset

section

variable {f : Footprint} {es : List Event}

theorem covers_of_allows {opens : Bool} (h : ∀ e ∈ es, f.Allows phy e.request) :
    Covers f phy opens es := by
  rintro before e after rfl
  exact .inl (h e (List.mem_append_right _ List.mem_cons_self))

theorem covers_cons {answer : Except BusFault Unit} (h : ∀ e ∈ es, f.Allows phy e.request) :
    Covers f phy true (⟨.write phy Register.bmcr Bmcr.reset, answer⟩ :: es) := by
  intro before e after hes
  cases before with
  | nil => exact .inr ⟨rfl, rfl, by rw [← (List.cons.inj hes).1]⟩
  | cons first before =>
    refine .inl (h e ?_)
    rw [(List.cons.inj hes).2]
    exact List.mem_append_right _ List.mem_cons_self

theorem Covers.allows {opens : Bool} (h : Covers f phy opens es) (hopens : opens = false) {e : Event}
    (he : e ∈ es) : f.Allows phy e.request := by
  obtain ⟨before, after, rfl⟩ := List.append_of_mem he
  obtain hallows | ⟨-, htrue, -⟩ := h before e after rfl
  · exact hallows
  · exact absurd (htrue.symm.trans hopens) (by decide)

theorem Covers.request {opens : Bool} (h : Covers f phy opens es) {e : Event} (he : e ∈ es) :
    f.Allows phy e.request ∨ e.request = .write phy Register.bmcr Bmcr.reset := by
  obtain ⟨before, after, rfl⟩ := List.append_of_mem he
  exact (h before e after rfl).imp_right fun hreset => hreset.2.2

end

theorem reset_covers (polls : UInt32) :
    (Clause22.reset phy polls).run.Ensures fun es _ =>
      Covers pendingReset phy true es := by
  rintro (c | ⟨⟩)
  · exact covers_cons (List.forall_mem_nil _)
  · exact (Clause22.awaitReset_within phy _).ensures fun _ _ h => covers_cons h

theorem applySettings_covers (settings : Settings) :
    (applySettings settings phy).run.Ensures fun es _ =>
      Covers (Footprint.settings ++ negotiation) phy true es := by
  rw [run_applySettings]
  exact fun answer => (configure_within phy settings).ensures fun _ _ h => covers_cons h

/-- **Every operation but a bring-up works at the address in the record and keeps to its footprint**,
apart from the reset with which it may begin, and leaves the address as it is. -/
theorem Operation.ensures_covers (settings : Settings) {o : Operation} (hup : o ≠ .bringUp)
    (r : PhyRecord) :
    ((o.perform settings).runOn r).Ensures fun es out =>
      Covers o.footprint r.address o.opensWithReset es ∧ out.2.address = r.address := by
  have hhere : ∀ {x : PhyM Unit}, (x.run.Ensures fun es _ =>
      Covers o.footprint r.address o.opensWithReset es) →
      ((do x; return .done : RecordM Answer).runOn r).Ensures fun es out =>
        Covers o.footprint r.address o.opensWithReset es ∧ out.2.address = r.address := by
    intro x hx
    refine ensures_liftM_bind hx (fun es _ h => ?_) fun es e h => ⟨h, rfl⟩
    exact ⟨by rwa [List.append_nil], rfl⟩
  cases hopens : o.opensWithReset with
  | false =>
    exact (Operation.worksAt settings hup hopens r rfl).mono fun es out h =>
      ⟨covers_of_allows h.1, h.2⟩
  | true =>
    rw [← hopens]
    cases o with
    | reset => exact hhere (reset_covers settings.resetPolls)
    | applySettings => exact hhere (applySettings_covers settings)
    | _ => cases hopens

/-! ### Bringing up -/

/-- What a bring-up may ask: the identifier at any address of the bus, and at one address a reset and
what its footprint allows. -/
def BringUpAllows (phy : PhyAddress) (q : Request) : Prop :=
  Clause22.Seeks PhyAddress.all q ∨ Operation.bringUp.footprint.Allows phy q ∨
    q = .write phy Register.bmcr Bmcr.reset

/-- What is done at a PHY once it was found keeps to the footprint, apart from two resets. -/
theorem worksAt_found (settings : Settings) (phy : PhyAddress) :
    WorksAt phy (BringUpAllows phy) (do
      reset settings
      let phy := (← get).address
      applySettings settings phy
      Program.log (.ready phy)) := by
  have hasks : ∀ {f : Footprint} {x : PhyM Unit}, f ⊆ Operation.bringUp.footprint →
      (x.run.Ensures fun es _ => Covers f phy true es) → PhyM.Asks (BringUpAllows phy) x :=
    fun hf hx => hx.mono fun _ _ h e he =>
      .inr ((h.request he).imp_left fun hallows => hallows.mono hf)
  refine worksAt_bind (worksAt_get_bind fun r hr => worksAt_phy ?_) fun _ => ?_
  · rw [hr]
    exact hasks subset_append_left (reset_covers _)
  · refine worksAt_get_bind fun r hr => worksAt_bind (worksAt_phy ?_) fun _ => ?_
    · rw [hr]
      exact hasks subset_append_right (applySettings_covers settings)
    · exact worksAt_program (.ask (.inr (.inl trivial)) fun _ => .done)

/-- **A bring-up writes only at the address that it ends with**, which is one of the bus. -/
theorem bringUp_ensures_allowed (settings : Settings) (r : PhyRecord) :
    ((bringUp settings).runOn r).Ensures fun es out =>
      out.2.address ∈ PhyAddress.all ∧ ∀ e ∈ es, BringUpAllows out.2.address e.request := by
  have hsearch : ∀ {phy : PhyAddress} {q : Request},
      (Clause22.Seeks PhyAddress.all q ∨ ∃ message, q = .log message) → BringUpAllows phy q := by
    rintro phy q (hseeks | ⟨message, rfl⟩)
    · exact .inl hseeks
    · exact .inr (.inl trivial)
  -- The new record has an address of the bus too, namely the first one.
  have hall : ∀ {phy : PhyAddress}, phy = 0 ∨ phy ∈ PhyAddress.all → phy ∈ PhyAddress.all := by
    rintro phy (rfl | hphy)
    · decide
    · exact hphy
  rw [bringUp, runOn_bind, runOn_set, Program.done_bind]
  refine ensures_bind (Clause22.discover_ensures_seeks {}) (fun es _ r' h => ?_) fun es e r' h => ?_
  · refine (worksAt_found settings r'.address r' rfl).mono fun es' out h' => ?_
    rw [h'.2]
    exact ⟨hall h.2, List.forall_mem_append.2 ⟨fun e he => hsearch (h.1 e he), h'.1⟩⟩
  · exact ⟨hall h.2, fun e he => hsearch (h.1 e he)⟩

end Transceiver

end

end EthernetPhy
