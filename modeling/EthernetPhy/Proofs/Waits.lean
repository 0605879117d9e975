import EthernetPhy.Proofs.Ensures
import EthernetPhy.Transceiver.Link

/-!
# Waits for a register

Two waits of this library look at a register again and again, with a delay before each look: that
for the negotiation (`Clause22.awaitNegotiation`) and that for the speed
(`Transceiver.awaitResolution`).  Both are `RecordM.lookOut` with their own test and their own two
ends, and `RecordM.lookOut_ensures` says how such a wait may go: some rounds that found nothing, and
then a look that failed, a look that found something, or no further look.

From it follow the ways in which the two procedures around these waits may go, each with its
events, its result and the record that it leaves:

* `trackLink_ensures` : the seven ways of `Clause22.trackLink` (`LinkTracked`);
* `awaitSpeed_ensures` : the five ways of `Transceiver.awaitSpeed` (`SpeedAwaited`).
-/

namespace EthernetPhy

open Event

/-- The rounds of a wait that found these values: for each one a delay and a look. -/
def rounds (interval : UInt32) (phy : PhyAddress) (reg : RegAddress) (values : List Word) :
    List Event :=
  values.flatMap fun v => [slept interval, got phy reg v]

@[simp] theorem rounds_nil {interval : UInt32} {phy : PhyAddress} {reg : RegAddress} :
    rounds interval phy reg [] = [] := rfl

@[simp] theorem rounds_cons {interval : UInt32} {phy : PhyAddress} {reg : RegAddress} {v : Word}
    {values : List Word} : rounds interval phy reg (v :: values) =
      slept interval :: got phy reg v :: rounds interval phy reg values := rfl

theorem mem_rounds {interval : UInt32} {phy : PhyAddress} {reg : RegAddress} {values : List Word}
    {e : Event} : e ∈ rounds interval phy reg values ↔
      ∃ v ∈ values, e = slept interval ∨ e = got phy reg v := by
  simp [rounds]

@[simp] theorem replies_rounds {interval : UInt32} {phy : PhyAddress} {reg : RegAddress}
    {values : List Word} :
    replies phy reg (rounds interval phy reg values) = values.map .ok := by
  induction values with
  | nil => rfl
  | cons v values ih => simp [ih]

@[simp] theorem asked_rounds {interval : UInt32} {phy : PhyAddress} {reg : RegAddress}
    {values : List Word} : asked (rounds interval phy reg values) =
      times values.length [.delay (.ms interval), .read phy reg] := by
  induction values with
  | nil => rfl
  | cons v values ih => simp [ih, times_succ]

theorem waited_rounds {interval : UInt32} {phy : PhyAddress} {reg : RegAddress}
    {values : List Word} : waited (rounds interval phy reg values) =
      values.length * (Delay.ms interval).nanoseconds := by
  rw [waited_eq_sum_asked, asked_rounds, sum_nanoseconds_times]
  simp [Request.nanoseconds]

namespace RecordM

variable {interval : UInt32} {phy : PhyAddress} {reg : RegAddress} {test : Word → Bool}
  {found : Word → RecordM Unit} {ranOut : RecordM Unit}

/-- Looks at a register up to `looks` times, waits before each look, and goes on with the first
value that passes the test. -/
def lookOut (interval : UInt32) (phy : PhyAddress) (reg : RegAddress) (test : Word → Bool)
    (found : Word → RecordM Unit) (ranOut : RecordM Unit) : Nat → RecordM Unit
  | 0 => ranOut
  | looks + 1 => do
    Program.sleep interval
    let value ← BusM.read phy reg
    if test value then found value else lookOut interval phy reg test found ranOut looks

/-- **How a wait may go**: rounds without success, and then a failed look, a success, or the end of
the looks. -/
theorem lookOut_ensures {looks : Nat} {r : PhyRecord}
    {post : List Event → Except Fault Unit × PhyRecord → Prop}
    (hlost : ∀ values c, values.length < looks → (∀ v ∈ values, test v = false) →
      post (rounds interval phy reg values ++ [slept interval, lost phy reg c])
        (.error (.bus c), r))
    (hfound : ∀ values v, values.length < looks → (∀ v ∈ values, test v = false) →
      test v = true → ((found v).runOn r).Ensures fun es out =>
        post (rounds interval phy reg values ++ slept interval :: got phy reg v :: es) out)
    (hout : ∀ values, values.length = looks → (∀ v ∈ values, test v = false) →
      (ranOut.runOn r).Ensures fun es out => post (rounds interval phy reg values ++ es) out) :
    ((lookOut interval phy reg test found ranOut looks).runOn r).Ensures post := by
  induction looks generalizing post with
  | zero => exact hout [] rfl (by simp)
  | succ looks ih =>
    rw [lookOut, ensures_sleep_bind, ensures_read_bind]
    refine ⟨fun c => hlost [] c (by simp) (by simp), fun v => ?_⟩
    cases hv : test v with
    | true =>
      simp only [↓reduceIte]
      exact hfound [] v (by simp) (by simp) hv
    | false =>
      simp only [Bool.false_eq_true, ↓reduceIte]
      -- One round is over; what is left to show speaks of the rounds after it.
      have hall : ∀ {values : List Word}, (∀ w ∈ values, test w = false) →
          ∀ w ∈ v :: values, test w = false := fun h => List.forall_mem_cons.2 ⟨hv, h⟩
      refine ih (fun values c hlen h => ?_) (fun values w hlen h hw => ?_) (fun values hlen h => ?_)
      · exact hlost (v :: values) c (Nat.succ_lt_succ hlen) (hall h)
      · exact hfound (v :: values) w (Nat.succ_lt_succ hlen) (hall h) hw
      · exact hout (v :: values) (congrArg (· + 1) hlen) (hall h)

end RecordM

open RecordM

/-! ### Waiting for the negotiation -/

namespace Clause22

theorem looks_eq (timeout : UInt32) :
    (timeout / Timing.negotiationInterval).toNat = timeout.toNat / 50 :=
  UInt32.toNat_div ..

theorem awaitNegotiation_eq_lookOut (phy : PhyAddress) (looks : Nat) :
    awaitNegotiation phy looks =
      lookOut Timing.negotiationInterval phy Register.bmsr (fun v => v.test Bmsr.anComplete)
        (fun _ => modify fun r => { r with current := .up })
        (do
          Program.log (.negotiationTimedOut phy)
          modify fun r => { r with current := .down }
          throw .timeout) looks := by
  induction looks with
  | zero => rfl
  | succ looks ih => simp only [awaitNegotiation, lookOut, ih]

/-- The ways in which a call of `trackLink` may go from a record, with its events, its result and
the record that it leaves.  `values` are what the looks of the wait found. -/
inductive LinkTracked (timeout : UInt32) (r : PhyRecord) :
    List Event → Except Fault Unit × PhyRecord → Prop
  /-- The first read failed. -/
  | lost (c : BusFault) :
    LinkTracked timeout r [lost r.address Register.bmsr c] (.error (.bus c), r)
  /-- The link was up and still is. -/
  | stillUp (b : Word) (hb : (r.current.isUp && b.test Bmsr.linkStatus) = true) :
    LinkTracked timeout r [got r.address Register.bmsr b] (.ok (), r)
  /-- The negotiation has finished, and the second read failed. -/
  | liveLost (b : Word) (c : BusFault)
    (hb : (r.current.isUp && b.test Bmsr.linkStatus) = false)
    (hc : b.test Bmsr.anComplete = true) :
    LinkTracked timeout r
      [got r.address Register.bmsr b, lost r.address Register.bmsr c] (.error (.bus c), r)
  /-- The negotiation has finished, and the second read has the state of the link. -/
  | live (b b' : Word) (hb : (r.current.isUp && b.test Bmsr.linkStatus) = false)
    (hc : b.test Bmsr.anComplete = true) :
    LinkTracked timeout r [got r.address Register.bmsr b, got r.address Register.bmsr b']
      (.ok (), { r with current := .ofBool (b'.test Bmsr.linkStatus) })
  /-- A look at the running negotiation failed. -/
  | waitLost (b : Word) (values : List Word) (c : BusFault)
    (hb : (r.current.isUp && b.test Bmsr.linkStatus) = false)
    (hc : ∀ v ∈ b :: values, v.test Bmsr.anComplete = false)
    (hlen : values.length < (timeout / Timing.negotiationInterval).toNat) :
    LinkTracked timeout r
      (got r.address Register.bmsr b :: logged (.awaitingNegotiation r.address) ::
        (rounds Timing.negotiationInterval r.address Register.bmsr values ++
          [slept Timing.negotiationInterval, lost r.address Register.bmsr c]))
      (.error (.bus c), r)
  /-- The negotiation finished while it was waited for. -/
  | waited (b : Word) (values : List Word) (v : Word)
    (hb : (r.current.isUp && b.test Bmsr.linkStatus) = false)
    (hc : ∀ v ∈ b :: values, v.test Bmsr.anComplete = false)
    (hlen : values.length < (timeout / Timing.negotiationInterval).toNat)
    (hv : v.test Bmsr.anComplete = true) :
    LinkTracked timeout r
      (got r.address Register.bmsr b :: logged (.awaitingNegotiation r.address) ::
        (rounds Timing.negotiationInterval r.address Register.bmsr values ++
          [slept Timing.negotiationInterval, got r.address Register.bmsr v]))
      (.ok (), { r with current := .up })
  /-- The wait ran out. -/
  | ranOut (b : Word) (values : List Word)
    (hb : (r.current.isUp && b.test Bmsr.linkStatus) = false)
    (hc : ∀ v ∈ b :: values, v.test Bmsr.anComplete = false)
    (hlen : values.length = (timeout / Timing.negotiationInterval).toNat) :
    LinkTracked timeout r
      (got r.address Register.bmsr b :: logged (.awaitingNegotiation r.address) ::
        (rounds Timing.negotiationInterval r.address Register.bmsr values ++
          [logged (.negotiationTimedOut r.address)]))
      (.error .timeout, { r with current := .down })

/-- **How `trackLink` may go.** -/
theorem trackLink_ensures (timeout : UInt32) (r : PhyRecord) :
    ((trackLink timeout).runOn r).Ensures (LinkTracked timeout r) := by
  rw [trackLink, runOn_get_bind, ensures_read_bind]
  refine ⟨.lost, fun b => ?_⟩
  cases hb : r.current.isUp && b.test Bmsr.linkStatus with
  | true =>
    simp only [↓reduceIte]
    exact .stillUp b hb
  | false =>
    cases hc : b.test Bmsr.anComplete with
    | true =>
      simp only [Bool.false_eq_true, ↓reduceIte]
      rw [ensures_read_bind]
      exact ⟨fun c => .liveLost b c hb hc, fun b' => .live b b' hb hc⟩
    | false =>
      simp only [Bool.false_eq_true, ↓reduceIte]
      rw [ensures_log_bind, awaitNegotiation_eq_lookOut]
      have hall : ∀ {values : List Word}, (∀ w ∈ values, w.test Bmsr.anComplete = false) →
          ∀ w ∈ b :: values, w.test Bmsr.anComplete = false :=
        fun h => List.forall_mem_cons.2 ⟨hc, h⟩
      refine lookOut_ensures (fun values c hlen h => ?_) (fun values v hlen h hv => ?_)
        (fun values hlen h => ?_)
      · exact .waitLost b values c hb (hall h) hlen
      · exact .waited b values v hb (hall h) hlen hv
      · exact fun _ => .ranOut b values hb (hall h) hlen

end Clause22

/-! ### Waiting for the speed -/

namespace Transceiver

theorem awaitResolution_eq_lookOut (settings : Settings) (phy : PhyAddress) (looks : Nat) :
    awaitResolution settings phy looks =
      lookOut Timing.speedInterval phy Register.physr Physr.isResolved
        (fun v => do
          modify fun r => { r with current := .up }
          Program.sleep settings.linkSettle
          settle phy v)
        (do
          Program.log (.speedTimedOut phy)
          modify fun r => { r with current := .down }
          throw .timeout) looks := by
  induction looks with
  | zero => rfl
  | succ looks ih => simp only [awaitResolution, lookOut, ih]

/-- The ways in which a call of `awaitSpeed` may go from a record, with its events, its result and
the record that it leaves.  `values` are what the looks of the wait found. -/
inductive SpeedAwaited (settings : Settings) (r : PhyRecord) :
    List Event → Except Fault Unit × PhyRecord → Prop
  /-- The first read failed. -/
  | lost (c : BusFault) :
    SpeedAwaited settings r [lost r.address Register.physr c] (.error (.bus c), r)
  /-- The speed was resolved already. -/
  | resolved (v : Word) (hv : Physr.isResolved v = true) :
    SpeedAwaited settings r
      [got r.address Register.physr v, logged (.resolved r.address (Physr.mode v))]
      (.ok (), { r with current := Physr.linkState v, negotiated := some (Physr.mode v) })
  /-- A look at the unresolved speed failed. -/
  | waitLost (v : Word) (values : List Word) (c : BusFault)
    (hv : ∀ u ∈ v :: values, Physr.isResolved u = false)
    (hlen : values.length < settings.speedPolls.toNat) :
    SpeedAwaited settings r
      (got r.address Register.physr v :: logged (.awaitingSpeed r.address) ::
        (rounds Timing.speedInterval r.address Register.physr values ++
          [slept Timing.speedInterval, lost r.address Register.physr c]))
      (.error (.bus c), r)
  /-- The speed was resolved while it was waited for. -/
  | waited (v : Word) (values : List Word) (w : Word)
    (hv : ∀ u ∈ v :: values, Physr.isResolved u = false)
    (hlen : values.length < settings.speedPolls.toNat) (hw : Physr.isResolved w = true) :
    SpeedAwaited settings r
      (got r.address Register.physr v :: logged (.awaitingSpeed r.address) ::
        (rounds Timing.speedInterval r.address Register.physr values ++
          [slept Timing.speedInterval, got r.address Register.physr w,
            slept settings.linkSettle, logged (.resolved r.address (Physr.mode w))]))
      (.ok (), { r with current := .up, negotiated := some (Physr.mode w) })
  /-- The wait ran out. -/
  | ranOut (v : Word) (values : List Word)
    (hv : ∀ u ∈ v :: values, Physr.isResolved u = false)
    (hlen : values.length = settings.speedPolls.toNat) :
    SpeedAwaited settings r
      (got r.address Register.physr v :: logged (.awaitingSpeed r.address) ::
        (rounds Timing.speedInterval r.address Register.physr values ++
          [logged (.speedTimedOut r.address)]))
      (.error .timeout, { r with current := .down })

/-- **How `awaitSpeed` may go.** -/
theorem awaitSpeed_ensures (settings : Settings) (r : PhyRecord) :
    ((awaitSpeed settings).runOn r).Ensures (SpeedAwaited settings r) := by
  rw [awaitSpeed, runOn_get_bind, ensures_read_bind]
  refine ⟨.lost, fun v => ?_⟩
  cases hv : Physr.isResolved v with
  | true =>
    simp only [↓reduceIte]
    exact fun _ => .resolved v hv
  | false =>
    simp only [Bool.false_eq_true, ↓reduceIte]
    rw [ensures_log_bind, awaitResolution_eq_lookOut]
    have hall : ∀ {values : List Word}, (∀ u ∈ values, Physr.isResolved u = false) →
        ∀ u ∈ v :: values, Physr.isResolved u = false := fun h => List.forall_mem_cons.2 ⟨hv, h⟩
    refine lookOut_ensures (fun values c hlen h => ?_) (fun values w hlen h hw => ?_)
      (fun values hlen h => ?_)
    · exact .waitLost v values c (hall h) hlen
    · exact fun _ _ => .waited v values w (hall h) hlen hw
    · exact fun _ => .ranOut v values (hall h) hlen

theorem resolvedMode_ensures (phy : PhyAddress) :
    (resolvedMode phy).run.Ensures fun es result =>
      (∃ c, es = [lost phy Register.physr c] ∧ result = .error (.bus c)) ∨
        ∃ v, es = [got phy Register.physr v] ∧ result = .ok (Physr.mode? v) := by
  rw [resolvedMode, PhyM.ensures_read_bind]
  exact ⟨fun c => .inl ⟨c, rfl, rfl⟩, fun v => .inr ⟨v, rfl, rfl⟩⟩

/-- How `refreshMode` may go: the mode of a resolved status word is taken over, and nothing is if
the word is not resolved or cannot be read. -/
theorem refreshMode_ensures (r : PhyRecord) :
    (refreshMode.runOn r).Ensures fun es out =>
      (∃ c, es = [lost r.address Register.physr c] ∧ out = (.error (.bus c), r)) ∨
        ∃ v, es = [got r.address Register.physr v] ∧
          out = (.ok (), { r with negotiated := Physr.mode? v <|> r.negotiated }) := by
  rw [refreshMode, runOn_get_bind]
  refine RecordM.ensures_liftM_bind (resolvedMode_ensures r.address) (fun es mode h => ?_)
    (fun es e h => ?_)
  · obtain ⟨c, -, h⟩ | ⟨v, rfl, h⟩ := h
    · cases h
    obtain rfl := Except.ok.inj h
    cases hv : Physr.mode? v with
    | none => exact .inr ⟨v, rfl, by rw [hv]; rfl⟩
    | some mode => exact .inr ⟨v, rfl, by rw [hv]; rfl⟩
  · obtain ⟨c, rfl, h⟩ | ⟨v, -, h⟩ := h
    · obtain rfl := Except.error.inj h
      exact .inl ⟨c, rfl, rfl⟩
    · cases h

end Transceiver

end EthernetPhy
