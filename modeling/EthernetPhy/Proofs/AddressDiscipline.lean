import EthernetPhy.Bus.Layers
import EthernetPhy.Proofs.BringUp
import EthernetPhy.Proofs.Footprints
import EthernetPhy.Proofs.Provenance

/-!
# Addresses that fit into a frame

A frame has five bits for the address of a PHY and five for the number of a register, and on a real
controller a value that does not fit would end up at another PHY.  No operation of a transceiver ever
gets that far, so the check that a bus may make is never missed.

* `Request.Fits` : a request that a frame has room for;
* `Program.run_congr` : a program cannot tell apart two machines that agree on all that it asks;
* `Action.ensures_disciplined` : **what one action does to the outside fits**, and all of it is for the
  PHY in the record unless the action is a bring-up (`Disciplined`);
* `session_addresses` : this holds after every run from a new record, and **a bus that checks what it
  gets and one that does not cannot be told apart**.
-/

namespace EthernetPhy

/-! ### Requests that fit -/

/-- A request that a frame has room for, if it is a frame. -/
def Request.Fits : Request → Prop
  | .read phy reg | .write phy reg _ => checkAddress phy reg = .ok ()
  | .delay _ | .drive _ | .log _ => True

theorem Request.fits_of_not_isFrame {q : Request} (h : q.isFrame = false) : q.Fits := by
  cases q with
  | read phy reg => cases h
  | write phy reg value => cases h
  | _ => trivial

theorem Footprint.Allows.fits {f : Footprint} {phy : PhyAddress} {q : Request} (h : f.Allows phy q)
    (hphy : phy ≤ PhyAddress.max) (hregs : ∀ reg ∈ f.reads ++ f.writes, reg ≤ RegAddress.max) :
    q.Fits :=
  h.elim
    (fun reg hreg =>
      (checkAddress_eq_ok_iff phy reg).2 ⟨hphy, hregs reg (List.mem_append_left _ hreg)⟩)
    (fun reg hreg _ _ =>
      (checkAddress_eq_ok_iff phy reg).2 ⟨hphy, hregs reg (List.mem_append_right _ hreg)⟩)
    (fun _ _ => trivial) fun _ => trivial

open RecordM

namespace Transceiver

theorem Operation.footprint_fits (o : Operation) :
    ∀ reg ∈ o.footprint.reads ++ o.footprint.writes, reg ≤ RegAddress.max := by
  cases o with
  | awaitNewLink timeout =>
    change ∀ reg ∈ (Footprint.status ++ Footprint.speed).reads, reg ≤ RegAddress.max
    decide +kernel
  | forceMode mode =>
    change ∀ reg ∈ [Register.bmcr, Register.bmcr], reg ≤ RegAddress.max
    decide +kernel
  | _ => decide +kernel

/-! ### What one action does to the outside -/

/-- What an action does to the outside, when it starts with a record and leaves another one:

* `fits` : every frame has room for what it carries;
* `here` : unless the action is a bring-up, all frames are for the PHY in the record, and the address
  stays as it is;
* `found` : a bring-up writes only to the PHY that is in the record afterwards;
* `address` : the address afterwards fits too. -/
structure Disciplined (a : Action) (r : PhyRecord) (es : List Event) (r' : PhyRecord) : Prop where
  fits : ∀ e ∈ es, e.request.Fits
  here : a ≠ .operate .bringUp →
    (∀ e ∈ es, ∀ phy, e.request.phy? = some phy → phy = r.address) ∧ r'.address = r.address
  found : a = .operate .bringUp →
    ∀ e ∈ es, ∀ phy reg value, e.request = .write phy reg value → phy = r'.address
  address : r'.address ≤ PhyAddress.max

theorem ResetPin.Operation.perform_asks (o : ResetPin.Operation) :
    PhyM.Asks (fun q => q.isFrame = false) o.perform := by
  have hdrive : ∀ level, PhyM.Asks (fun q => q.isFrame = false) (ResetPin.drive level) := by
    refine fun level => PhyM.asks_bind (PhyM.asks_program (.ask rfl fun _ => .done)) fun took => ?_
    cases took <;> exact .done
  have hwait : ∀ time, PhyM.Asks (fun q => q.isFrame = false)
      (liftM (Program.wait time) : PhyM Unit) :=
    fun _ => PhyM.asks_program (.ask rfl fun _ => .done)
  cases o with
  | hold => exact hdrive .low
  | release => exact hdrive .high
  | pulse =>
    exact PhyM.asks_bind (hdrive .low) fun _ => PhyM.asks_bind (hwait _) fun _ =>
      PhyM.asks_bind (hdrive .high) fun _ => hwait _

theorem fits_resetWrite {phy : PhyAddress} (h : phy ≤ PhyAddress.max) :
    Request.Fits (.write phy Register.bmcr Bmcr.reset) :=
  (checkAddress_eq_ok_iff phy _).2 ⟨h, by decide⟩

theorem BringUpAllows.fits {phy : PhyAddress} {q : Request} (h : BringUpAllows phy q)
    (hphy : phy ≤ PhyAddress.max) : q.Fits := by
  obtain ⟨a, ha, rfl | rfl⟩ | hallows | rfl := h
  · exact (checkAddress_eq_ok_iff a _).2 ⟨PhyAddress.mem_all.1 ha, by decide⟩
  · exact (checkAddress_eq_ok_iff a _).2 ⟨PhyAddress.mem_all.1 ha, by decide⟩
  · exact hallows.fits hphy (Operation.footprint_fits .bringUp)
  · exact fits_resetWrite hphy

theorem BringUpAllows.eq_of_write {phy phy' : PhyAddress} {reg : RegAddress} {value : Word}
    (h : BringUpAllows phy (.write phy' reg value)) : phy' = phy := by
  obtain ⟨a, -, hread | hread⟩ | hallows | hreset := h
  · cases hread
  · cases hread
  · exact hallows.1
  · exact (Request.write.inj hreset).1

section

variable {r r' : PhyRecord} {es : List Event}

theorem disciplined_resetPin {o : ResetPin.Operation} (hr : r.address ≤ PhyAddress.max)
    (h : ∀ e ∈ es, e.request.isFrame = false) (haddress : r'.address = r.address) :
    Disciplined (.resetPin o) r es r' where
  fits e he := Request.fits_of_not_isFrame (h e he)
  here _ := by
    refine ⟨fun e he => ?_, haddress⟩
    rw [Request.phy?_eq_none (h e he)]
    exact nofun
  found := nofun
  address := by rwa [haddress]

theorem disciplined_bringUp (haddress : r'.address ∈ PhyAddress.all)
    (h : ∀ e ∈ es, BringUpAllows r'.address e.request) :
    Disciplined (.operate .bringUp) r es r' where
  fits e he := (h e he).fits (PhyAddress.mem_all.1 haddress)
  here hne := absurd rfl hne
  found _ e he phy reg value hq := by
    have hallows := h e he
    rw [hq] at hallows
    exact hallows.eq_of_write
  address := PhyAddress.mem_all.1 haddress

theorem Covers.disciplined {o : Operation} (h : Covers o.footprint r.address o.opensWithReset es)
    (hup : o ≠ .bringUp) (hr : r.address ≤ PhyAddress.max) (haddress : r'.address = r.address) :
    Disciplined (.operate o) r es r' where
  fits e he := by
    obtain hallows | hreset := h.request he
    · exact hallows.fits hr o.footprint_fits
    · rw [hreset]
      exact fits_resetWrite hr
  here _ := ⟨fun e he => h.spares he, haddress⟩
  found hop := absurd (Action.operate.inj hop) hup
  address := by rwa [haddress]

end

/-- **What one action does to the outside fits**, if the address in the record does. -/
theorem Action.ensures_disciplined (settings : Settings) (a : Action) {r : PhyRecord}
    (hr : r.address ≤ PhyAddress.max) :
    ((a.perform settings).runOn r).Ensures fun es out => Disciplined a r es out.2 := by
  cases a with
  | resetPin o =>
    have hpin : WorksAt r.address (fun q => q.isFrame = false) (Action.perform settings (.resetPin o)) :=
      worksAt_bind (worksAt_phy o.perform_asks) fun _ => worksAt_pure
    exact (hpin r rfl).mono fun _ _ h => disciplined_resetPin hr h.1 h.2
  | operate o =>
    by_cases hup : o = .bringUp
    · subst hup
      exact ensures_return (Disciplined (.operate .bringUp) r)
        ((bringUp_ensures_allowed settings r).mono fun _ _ h => disciplined_bringUp h.1 h.2)
    · exact (Operation.ensures_covers settings hup r).mono fun _ _ h =>
        h.1.disciplined hup hr h.2

end Transceiver

/-! ### Checked buses -/

section

variable {σ α : Type} {m m' : Machine σ} {allowed : Request → Prop}

/-- **A program cannot tell apart two machines that agree on all that it asks.** -/
theorem Program.run_congr {p : Program α} (hp : p.Asks allowed)
    (h : ∀ q, allowed q → ∀ s, m.answer q s = m'.answer q s) (s : σ) : p.run m s = p.run m' s := by
  induction p generalizing s with
  | done a => rfl
  | ask q next ih => rw [run_ask, run_ask, ← h q (hp.first m s) s, ih _ (hp.rest _)]

theorem Bus.checkAddress_bind {phy : PhyAddress} {reg : RegAddress}
    (h : checkAddress phy reg = .ok ()) (x : BusAction σ α) :
    ((checkAddress phy reg : BusAction σ Unit) >>= fun _ => x) = x := by
  rw [h]
  rfl

/-- A bus that checks what it gets answers what fits as it would without the check. -/
theorem Bus.answer_checked (bus : Bus σ) {q : Request} (hq : q.Fits) (b : Board σ) :
    bus.checked.machine.answer q b = bus.machine.answer q b := by
  change bus.checked.respond q b = bus.respond q b
  cases q with
  | read phy reg =>
    have hread : bus.checked.read phy reg = bus.read phy reg := checkAddress_bind hq _
    rw [respond, respond, hread]
  | write phy reg value =>
    have hwrite : bus.checked.write phy reg value = bus.write phy reg value := checkAddress_bind hq _
    rw [respond, respond, hwrite]
  | _ => rfl

end

namespace Transceiver

variable {σ : Type}

/-- **One action on a bus that checks what it gets** is what it is without the check. -/
theorem Action.run_checked (bus : Bus σ) (settings : Settings) (a : Action) {r : PhyRecord}
    (hr : r.address ≤ PhyAddress.max) (b : Board σ) :
    ((a.perform settings).runOn r).run bus.checked.machine b =
      ((a.perform settings).runOn r).run bus.machine b :=
  Program.run_congr ((Action.ensures_disciplined settings a hr).mono fun _ _ h => h.fits)
    (fun _ hq => bus.answer_checked hq) b

namespace Session

variable (m : Machine σ) (settings : Settings) {s : Session σ}

theorem address_act (hs : s.record.address ≤ PhyAddress.max) (a : Action) :
    (s.act m settings a).record.address ≤ PhyAddress.max :=
  ((Action.ensures_disciplined settings a hs).run m s.state).address

theorem address_acts (hs : s.record.address ≤ PhyAddress.max) (actions : List Action) :
    (s.acts m settings actions).record.address ≤ PhyAddress.max := by
  induction actions generalizing s with
  | nil => exact hs
  | cons a rest ih => exact ih (address_act m settings hs a)

theorem acts_checked (bus : Bus σ) {s : Session (Board σ)} (hs : s.record.address ≤ PhyAddress.max)
    (actions : List Action) :
    s.acts bus.checked.machine settings actions = s.acts bus.machine settings actions := by
  induction actions generalizing s with
  | nil => rfl
  | cons a rest ih =>
    have hact : s.act bus.checked.machine settings a = s.act bus.machine settings a := by
      simp only [act, Action.run_checked bus settings a hs]
    change (s.act bus.checked.machine settings a).acts _ _ rest = _
    rw [hact, ih (address_act bus.machine settings hs a)]
    rfl

end Session

/-- **Every run of a transceiver keeps to addresses that fit**, on every bus, with all settings and
whatever fails.  After any actions from a new record, the address in the record fits, and so does all
that one more action does (`Disciplined`).  On a bus that checks what it gets, the same actions make
the same session as without the check, and one more action has the same result, the same requests
with the same answers, and leaves the same record and the same bus. -/
theorem session_addresses {σ τ : Type} (m : Machine σ) (s : σ) (bus : Bus τ) (b : Board τ)
    (settings : Settings) (actions : List Action) (a : Action) :
    (let session := Session.acts m settings { state := s } actions
     let out := ((a.perform settings).runOn session.record).run m session.state
     session.record.address ≤ PhyAddress.max ∧
       Disciplined a session.record out.events out.result.2) ∧
    (let plain := Session.acts bus.machine settings { state := b } actions
     Session.acts bus.checked.machine settings { state := b } actions = plain ∧
       ((a.perform settings).runOn plain.record).run bus.checked.machine plain.state =
         ((a.perform settings).runOn plain.record).run bus.machine plain.state) := by
  have hnew : ({} : PhyRecord).address ≤ PhyAddress.max := by decide
  refine ⟨?_, Session.acts_checked settings bus hnew actions, ?_⟩
  · have haddress := Session.address_acts m settings (s := { state := s }) hnew actions
    exact ⟨haddress, (Action.ensures_disciplined settings a haddress).run m _⟩
  · exact Action.run_checked bus settings a (Session.address_acts bus.machine settings hnew actions) _

end Transceiver

end EthernetPhy
