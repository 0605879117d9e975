import EthernetPhy.Proofs.Waits

/-!
# The settled state of a link

`Transceiver.settledState` waits for the negotiation, then waits for the speed or takes over what
there is of it, and turns a wait that ran out into the answer that the link is down.  This file says
what a caller may rely on, on every bus.

* `StateSettled` : the seven ways in which a call may go, each made of one way of
  `Clause22.trackLink` and one of what follows it (`settledState_ensures`);
* `SettlesState` : what a call promises; in particular the mode is in the record whenever the answer
  is that the link is up;
* `settledState_settles` : **every call goes one of those ways and keeps that promise**, on every bus
  and from every record.
-/

namespace EthernetPhy

open Event RecordM

/-! ### What the waits leave behind -/

namespace Clause22

namespace LinkTracked

variable {timeout : UInt32} {r : PhyRecord} {es : List Event} {out : Except Fault Unit × PhyRecord}

theorem record_eq (h : LinkTracked timeout r es out) :
    out.2 = { r with current := out.2.current } := by
  cases h <;> rfl

theorem of_error {e : Fault} {r' : PhyRecord} (h : LinkTracked timeout r es (.error e, r')) :
    (∃ c, e = .bus c ∧ r' = r) ∨ e = .timeout ∧ r' = { r with current := .down } := by
  cases h with
  | lost c => exact .inl ⟨c, rfl, rfl⟩
  | liveLost b c => exact .inl ⟨c, rfl, rfl⟩
  | waitLost b values c => exact .inl ⟨c, rfl, rfl⟩
  | ranOut b values => exact .inr ⟨rfl, rfl⟩

theorem request_eq (h : LinkTracked timeout r es out) :
    ∀ e ∈ es, e.request.isFrame = true → e.request = .read r.address Register.bmsr := by
  cases h <;> simp +contextual [mem_rounds, or_imp]

theorem replies_physr (h : LinkTracked timeout r es out) :
    replies r.address Register.physr es = [] :=
  replies_eq_nil h.request_eq (by decide)

/-- If the first two reads show a finished negotiation and no link, they are all that happens. -/
theorem of_replies_live (h : LinkTracked timeout r es out) {b b' : Word}
    {rest : List (Except BusFault Word)}
    (hes : replies r.address Register.bmsr es = .ok b :: .ok b' :: rest)
    (hb : (r.current.isUp && b.test Bmsr.linkStatus) = false)
    (hc : b.test Bmsr.anComplete = true) (hb' : b'.test Bmsr.linkStatus = false) :
    es = [got r.address Register.bmsr b, got r.address Register.bmsr b'] ∧
      out = (.ok (), { r with current := .down }) := by
  -- The first reply is `b`, so no wait begins.
  have hfirst : ∀ {u : Word} {values : List Word} {more : List (Except BusFault Word)},
      (Except.ok u :: more : List (Except BusFault Word)) = .ok b :: .ok b' :: rest →
      (∀ v ∈ u :: values, v.test Bmsr.anComplete = false) → False := by
    intro u values more hu hall
    have hub : u = b := by simpa using congrArg List.head? hu
    rw [hall b (by simp [hub])] at hc
    cases hc
  cases h with
  | lost c => simp at hes
  | stillUp u hu => simp at hes
  | liveLost u c hu huc => simp at hes
  | live u u' hu huc =>
    obtain ⟨rfl, rfl, -⟩ : u = b ∧ u' = b' ∧ rest = [] := by simpa [eq_comm] using hes
    exact ⟨rfl, by rw [hb']; rfl⟩
  | waitLost u values c hu huc hlen => exact (hfirst (by simpa using hes) huc).elim
  | waited u values v hu huc hlen hv => exact (hfirst (by simpa using hes) huc).elim
  | ranOut u values hu huc hlen => exact (hfirst (by simpa using hes) huc).elim

/-- If every read shows a running negotiation, the wait runs out, and no earlier than after all the
looks that there is time for. -/
theorem of_replies_ranOut (h : LinkTracked timeout r es out) {b : Word} {values : List Word}
    (hes : replies r.address Register.bmsr es = (b :: values).map .ok)
    (hb : (r.current.isUp && b.test Bmsr.linkStatus) = false)
    (hc : ∀ v ∈ b :: values, v.test Bmsr.anComplete = false) :
    values.length = (timeout / Timing.negotiationInterval).toNat ∧
      out = (.error .timeout, { r with current := .down }) := by
  have hok : ∀ c, Except.error c ∉ replies r.address Register.bmsr es := by
    intro c hm
    rw [hes] at hm
    simp at hm
  have hrunning : ∀ v, Except.ok v ∈ replies r.address Register.bmsr es →
      v.test Bmsr.anComplete = false := by
    intro v hm
    rw [hes, List.mem_map] at hm
    obtain ⟨w, hw, hwv⟩ := hm
    rw [← Except.ok.inj hwv]
    exact hc w hw
  -- In every way but one a read fails, the first read is enough, or the negotiation finishes.
  cases h with
  | ranOut u found hu huc hlen =>
    have hlist : (u :: found).map (Except.ok (ε := BusFault)) = (b :: values).map .ok := by
      simpa using hes
    have hsame := congrArg List.length hlist
    simp only [List.length_map, List.length_cons, Nat.add_right_cancel_iff] at hsame
    exact ⟨hsame ▸ hlen, rfl⟩
  | lost c => exact (hok c (by simp)).elim
  | stillUp u hu =>
    obtain ⟨rfl, -⟩ : u = b ∧ [] = values := by simpa using hes
    rw [hb] at hu
    cases hu
  | liveLost u c hu huc => exact (hok c (by simp)).elim
  | live u u' hu huc =>
    rw [hrunning u (by simp)] at huc
    cases huc
  | waitLost u found c hu huc hlen => exact (hok c (by simp)).elim
  | waited u found v hu huc hlen hv =>
    rw [hrunning v (by simp)] at hv
    cases hv

end LinkTracked

end Clause22

namespace Transceiver

namespace SpeedAwaited

variable {settings : Settings} {r : PhyRecord} {es : List Event}
  {out : Except Fault Unit × PhyRecord}

theorem record_eq (h : SpeedAwaited settings r es out) :
    out.2.address = r.address ∧ out.2.reported = r.reported := by
  cases h <;> exact ⟨rfl, rfl⟩

theorem of_error {e : Fault} {r' : PhyRecord} (h : SpeedAwaited settings r es (.error e, r')) :
    (∃ c, e = .bus c ∧ r' = r) ∨ e = .timeout ∧ r' = { r with current := .down } := by
  cases h with
  | lost c => exact .inl ⟨c, rfl, rfl⟩
  | waitLost v values c => exact .inl ⟨c, rfl, rfl⟩
  | ranOut v values => exact .inr ⟨rfl, rfl⟩

theorem request_eq (h : SpeedAwaited settings r es out) :
    ∀ e ∈ es, e.request.isFrame = true → e.request = .read r.address Register.physr := by
  cases h <;> simp +contextual [mem_rounds, or_imp]

theorem replies_bmsr (h : SpeedAwaited settings r es out) :
    replies r.address Register.bmsr es = [] :=
  replies_eq_nil h.request_eq (by decide)

/-- After a success the mode in the record is that of the last frame, and the link is up only if
that frame shows it or an earlier one was not resolved. -/
theorem of_ok {r' : PhyRecord} (h : SpeedAwaited settings r es (.ok (), r')) :
    ∃ v earlier, (frames es).getLast? = some (got r.address Register.physr v) ∧
      replies r.address Register.physr es = earlier ++ [.ok v] ∧ Physr.isResolved v = true ∧
      r'.negotiated = some (Physr.mode v) ∧
      (r'.current = .up →
        v.test Physr.link = true ∨ ∃ u, .ok u ∈ earlier ∧ Physr.isResolved u = false) := by
  cases h with
  | resolved v hv =>
    refine ⟨v, [], by simp, by simp, hv, rfl, fun hup => .inl ?_⟩
    have hlink : (Physr.linkState v).isUp = true := by
      change Physr.linkState v = .up at hup
      rw [hup]
      rfl
    simpa [Physr.linkState] using hlink
  | waited v values w hv hlen hw =>
    refine ⟨w, .ok v :: values.map .ok, ?_, by simp, hw, rfl, fun _ => .inr ⟨v, by simp, ?_⟩⟩
    · simp [List.getLast?_cons]
    · exact hv v (by simp)

end SpeedAwaited

/-! ### How a call may go -/

/-- The ways in which a call of `settledState` may go from a record, with its events, its result and
the record that it leaves. -/
inductive StateSettled (settings : Settings) (r : PhyRecord) :
    List Event → Except Fault LinkState × PhyRecord → Prop
  /-- A frame failed while the negotiation was followed. -/
  | trackLost (es : List Event) (c : BusFault)
    (h : Clause22.LinkTracked settings.negotiationTimeout r es (.error (.bus c), r)) :
    StateSettled settings r es (.error (.bus c), r)
  /-- The wait for the negotiation ran out. -/
  | trackRanOut (es : List Event)
    (h : Clause22.LinkTracked settings.negotiationTimeout r es
      (.error .timeout, { r with current := .down })) :
    StateSettled settings r es (.ok .down, { r with current := .down })
  /-- The link was up, and the speed was or became resolved. -/
  | resolved (es es' : List Event) (r' : PhyRecord)
    (h : Clause22.LinkTracked settings.negotiationTimeout r es (.ok (), { r with current := .up }))
    (h' : SpeedAwaited settings { r with current := .up } es' (.ok (), r')) :
    StateSettled settings r (es ++ es') (.ok r'.current, r')
  /-- The link was up, and a frame failed while the speed was waited for. -/
  | speedLost (es es' : List Event) (c : BusFault)
    (h : Clause22.LinkTracked settings.negotiationTimeout r es (.ok (), { r with current := .up }))
    (h' : SpeedAwaited settings { r with current := .up } es'
      (.error (.bus c), { r with current := .up })) :
    StateSettled settings r (es ++ es') (.error (.bus c), { r with current := .up })
  /-- The link was up, and the wait for the speed ran out. -/
  | speedRanOut (es es' : List Event)
    (h : Clause22.LinkTracked settings.negotiationTimeout r es (.ok (), { r with current := .up }))
    (h' : SpeedAwaited settings { r with current := .up } es'
      (.error .timeout, { r with current := .down })) :
    StateSettled settings r (es ++ es') (.ok .down, { r with current := .down })
  /-- The link was down, and the status word could not be read. -/
  | refreshLost (es : List Event) (c : BusFault)
    (h : Clause22.LinkTracked settings.negotiationTimeout r es
      (.ok (), { r with current := .down })) :
    StateSettled settings r (es ++ [lost r.address Register.physr c])
      (.error (.bus c), { r with current := .down })
  /-- The link was down, and the mode was taken over if the status word had one. -/
  | refreshed (es : List Event) (v : Word)
    (h : Clause22.LinkTracked settings.negotiationTimeout r es
      (.ok (), { r with current := .down })) :
    StateSettled settings r (es ++ [got r.address Register.physr v])
      (.ok .down, { r with current := .down, negotiated := Physr.mode? v <|> r.negotiated })

/-- **How `settledState` may go.** -/
theorem settledState_ensures (settings : Settings) (r : PhyRecord) :
    ((settledState settings).runOn r).Ensures (StateSettled settings r) := by
  rw [settledState, runOn_tryCatch, Program.ensures_bind, refresh]
  refine RecordM.ensures_bind (Clause22.trackLink_ensures _ _) (fun es _ r' h => ?_)
    (fun es e r' h => ?_)
  · -- The state that `trackLink` has found decides what is done next.
    have hr := h.record_eq
    rw [runOn_get_bind]
    cases hc : r'.current with
    | up =>
      rw [hc] at hr
      obtain rfl : r' = { r with current := .up } := hr
      refine RecordM.ensures_bind (awaitSpeed_ensures _ _) (fun es' _ r'' h' => ?_)
        (fun es' e r'' h' => ?_)
      · simpa [Except.map] using StateSettled.resolved es es' r'' h h'
      · obtain ⟨c, rfl, rfl⟩ | ⟨rfl, rfl⟩ := h'.of_error
        · simpa using StateSettled.speedLost es es' c h h'
        · simpa using StateSettled.speedRanOut es es' h h'
    | down =>
      rw [hc] at hr
      obtain rfl : r' = { r with current := .down } := hr
      refine RecordM.ensures_bind (refreshMode_ensures _) (fun es' _ r'' h' => ?_)
        (fun es' e r'' h' => ?_)
      · obtain ⟨c, -, hout⟩ | ⟨v, rfl, hout⟩ := h'
        · cases hout
        · cases hout
          simpa [Except.map] using StateSettled.refreshed es v h
      · obtain ⟨c, rfl, hout⟩ | ⟨v, -, hout⟩ := h'
        · cases hout
          simpa using StateSettled.refreshLost es c h
        · cases hout
  · obtain ⟨c, rfl, rfl⟩ | ⟨rfl, rfl⟩ := h.of_error
    · simpa using StateSettled.trackLost es c h
    · simpa using StateSettled.trackRanOut es h

/-! ### What a call promises -/

/-- What a call of `settledState` promises that started with the record `r`, had the events `es` and
ended with the result and the record `out`:

* `current` : the answer is the state in the record;
* `mode` : if the answer is that the link is up, the last frame found a resolved status word and the
  record has its mode; the word shows the link, unless an earlier one was not resolved;
* `fault` : the only fault is that of a frame;
* `ranOut` : if all there was to see was a running negotiation, it was looked at as often as there
  was time for, the status word was not read, and the link counts as down;
* `noLink` : if the negotiation had finished without a link, there was no delay and the status word
  was read once, and its mode taken over if it was resolved;
* `reads` : every frame is a read at the address of the record;
* `frame` : neither the address nor what the caller was told changes. -/
structure SettlesState (settings : Settings) (r : PhyRecord) (es : List Event)
    (out : Except Fault LinkState × PhyRecord) : Prop where
  current : ∀ s, out.1 = .ok s → out.2.current = s
  mode : out.1 = .ok .up → ∃ v earlier,
    (frames es).getLast? = some (got r.address Register.physr v) ∧
      replies r.address Register.physr es = earlier ++ [.ok v] ∧ Physr.isResolved v = true ∧
      out.2.negotiated = some (Physr.mode v) ∧
      (v.test Physr.link = true ∨ ∃ u, .ok u ∈ earlier ∧ Physr.isResolved u = false)
  fault : ∀ e, out.1 = .error e → ∃ c, e = .bus c
  ranOut : ∀ b values, replies r.address Register.bmsr es = (b :: values).map .ok →
    (r.current.isUp && b.test Bmsr.linkStatus) = false →
    (∀ v ∈ b :: values, v.test Bmsr.anComplete = false) →
    values.length = settings.negotiationTimeout.toNat / Timing.negotiationInterval.toNat ∧
      (∀ e ∈ es, ∀ phy, e.request ≠ .read phy Register.physr) ∧
      out.1 = .ok .down ∧ out.2.negotiated = r.negotiated
  noLink : ∀ b b' rest, replies r.address Register.bmsr es = .ok b :: .ok b' :: rest →
    b.test Bmsr.anComplete = true → (r.current.isUp && b.test Bmsr.linkStatus) = false →
    b'.test Bmsr.linkStatus = false →
    (∀ e ∈ es, e.request.isDelay = false) ∧
      ((∃ c, replies r.address Register.physr es = [.error c] ∧ out.1 = .error (.bus c)) ∨
        ∃ v, replies r.address Register.physr es = [.ok v] ∧ out.1 = .ok .down ∧
          out.2.negotiated = if Physr.isResolved v then some (Physr.mode v) else r.negotiated)
  reads : ∀ e ∈ es, e.request.isFrame = true → ∃ reg, e.request = .read r.address reg
  frame : out.2.address = r.address ∧ out.2.reported = r.reported

namespace StateSettled

variable {settings : Settings} {r : PhyRecord} {es : List Event}
  {out : Except Fault LinkState × PhyRecord}

theorem current_eq (h : StateSettled settings r es out) {s : LinkState} (hs : out.1 = .ok s) :
    out.2.current = s := by
  cases h <;> cases hs <;> rfl

theorem exists_mode (h : StateSettled settings r es out) (hup : out.1 = .ok .up) :
    ∃ v earlier, (frames es).getLast? = some (got r.address Register.physr v) ∧
      replies r.address Register.physr es = earlier ++ [.ok v] ∧ Physr.isResolved v = true ∧
      out.2.negotiated = some (Physr.mode v) ∧
      (v.test Physr.link = true ∨ ∃ u, .ok u ∈ earlier ∧ Physr.isResolved u = false) := by
  cases h with
  | resolved es es' r' h h' =>
    obtain ⟨v, earlier, hlast, hreplies, hv, hmode, hlink⟩ := h'.of_ok
    refine ⟨v, earlier, ?_, ?_, hv, hmode, hlink (Except.ok.inj hup)⟩
    · rw [frames_append, List.getLast?_append, hlast]
      rfl
    · rw [replies_append, h.replies_physr]
      exact hreplies
  | _ => cases hup

theorem fault_eq (h : StateSettled settings r es out) {e : Fault} (he : out.1 = .error e) :
    ∃ c, e = .bus c := by
  cases h <;> cases he <;> exact ⟨_, rfl⟩

/-- Every frame is a read of basic mode status or of the status word. -/
theorem request_eq (h : StateSettled settings r es out) :
    ∀ e ∈ es, e.request.isFrame = true → ∃ reg, e.request = .read r.address reg := by
  have htrack : ∀ {es : List Event} {o : Except Fault Unit × PhyRecord},
      Clause22.LinkTracked settings.negotiationTimeout r es o →
      ∀ e ∈ es, e.request.isFrame = true → ∃ reg, e.request = .read r.address reg :=
    fun h e he hf => ⟨_, h.request_eq e he hf⟩
  have hspeed : ∀ {es : List Event} {o : Except Fault Unit × PhyRecord},
      SpeedAwaited settings { r with current := .up } es o →
      ∀ e ∈ es, e.request.isFrame = true → ∃ reg, e.request = .read r.address reg :=
    fun h e he hf => ⟨_, h.request_eq e he hf⟩
  cases h with
  | trackLost es c h => exact htrack h
  | trackRanOut es h => exact htrack h
  | resolved es es' r' h h' => exact List.forall_mem_append.2 ⟨htrack h, hspeed h'⟩
  | speedLost es es' c h h' => exact List.forall_mem_append.2 ⟨htrack h, hspeed h'⟩
  | speedRanOut es es' h h' => exact List.forall_mem_append.2 ⟨htrack h, hspeed h'⟩
  | refreshLost es c h => exact List.forall_mem_append.2 ⟨htrack h, by simp⟩
  | refreshed es v h => exact List.forall_mem_append.2 ⟨htrack h, by simp⟩

theorem record_eq (h : StateSettled settings r es out) :
    out.2.address = r.address ∧ out.2.reported = r.reported := by
  cases h with
  | resolved es es' r' h h' => exact h'.record_eq
  | _ => exact ⟨rfl, rfl⟩

/-- A call begins with one of `trackLink`, and nothing after that reads basic mode status.  If the
wait ran out there, nothing follows; if the link was down, the status word is read once. -/
theorem exists_linkTracked (h : StateSettled settings r es out) :
    ∃ es₁ es₂ o, es = es₁ ++ es₂ ∧
      Clause22.LinkTracked settings.negotiationTimeout r es₁ o ∧
      replies r.address Register.bmsr es₂ = [] ∧
      (o = (.error .timeout, { r with current := .down }) →
        es₂ = [] ∧ out = (.ok .down, { r with current := .down })) ∧
      (o = (.ok (), { r with current := .down }) →
        (∃ c, es₂ = [lost r.address Register.physr c] ∧
          out = (.error (.bus c), { r with current := .down })) ∨
        ∃ v, es₂ = [got r.address Register.physr v] ∧
          out = (.ok .down,
            { r with current := .down, negotiated := Physr.mode? v <|> r.negotiated })) := by
  have hne : Register.physr ≠ Register.bmsr := by decide
  cases h with
  | trackLost es c h =>
    exact ⟨es, [], _, (List.append_nil _).symm, h, rfl, by simp, by simp⟩
  | trackRanOut es h =>
    exact ⟨es, [], _, (List.append_nil _).symm, h, rfl, by simp, by simp⟩
  | resolved es es' r' h h' => exact ⟨es, es', _, rfl, h, h'.replies_bmsr, by simp, by simp⟩
  | speedLost es es' c h h' => exact ⟨es, es', _, rfl, h, h'.replies_bmsr, by simp, by simp⟩
  | speedRanOut es es' h h' => exact ⟨es, es', _, rfl, h, h'.replies_bmsr, by simp, by simp⟩
  | refreshLost es c h =>
    exact ⟨es, _, _, rfl, h, by simp [hne], by simp, fun _ => .inl ⟨c, rfl, rfl⟩⟩
  | refreshed es v h =>
    exact ⟨es, _, _, rfl, h, by simp [hne], by simp, fun _ => .inr ⟨v, rfl, rfl⟩⟩

/-- A call that sees nothing but a running negotiation ends with the wait for it. -/
theorem of_replies_ranOut (h : StateSettled settings r es out) {b : Word} {values : List Word}
    (hes : replies r.address Register.bmsr es = (b :: values).map .ok)
    (hb : (r.current.isUp && b.test Bmsr.linkStatus) = false)
    (hc : ∀ v ∈ b :: values, v.test Bmsr.anComplete = false) :
    values.length = settings.negotiationTimeout.toNat / Timing.negotiationInterval.toNat ∧
      (∀ e ∈ es, ∀ phy, e.request ≠ .read phy Register.physr) ∧
      out = (.ok .down, { r with current := .down }) := by
  -- All reads of basic mode status are those of `trackLink`, so the hypotheses speak of its events.
  obtain ⟨es₁, es₂, o, rfl, htrack, hes₂, hout, -⟩ := h.exists_linkTracked
  rw [replies_append, hes₂, List.append_nil] at hes
  obtain ⟨hlen, ho⟩ := htrack.of_replies_ranOut hes hb hc
  obtain ⟨rfl, rfl⟩ := hout ho
  refine ⟨by rw [hlen, UInt32.toNat_div], fun e he phy hq => ?_, rfl⟩
  rw [List.append_nil] at he
  have := htrack.request_eq e he (by rw [hq]; rfl)
  rw [hq] at this
  exact absurd (Request.read.inj this).2 (by decide)

/-- A call that sees a finished negotiation without a link reads the status word once. -/
theorem of_replies_live (h : StateSettled settings r es out) {b b' : Word}
    {rest : List (Except BusFault Word)}
    (hes : replies r.address Register.bmsr es = .ok b :: .ok b' :: rest)
    (hc : b.test Bmsr.anComplete = true)
    (hb : (r.current.isUp && b.test Bmsr.linkStatus) = false)
    (hb' : b'.test Bmsr.linkStatus = false) :
    (∀ e ∈ es, e.request.isDelay = false) ∧
      ((∃ c, replies r.address Register.physr es = [.error c] ∧ out.1 = .error (.bus c)) ∨
        ∃ v, replies r.address Register.physr es = [.ok v] ∧ out.1 = .ok .down ∧
          out.2.negotiated = if Physr.isResolved v then some (Physr.mode v) else r.negotiated) := by
  obtain ⟨es₁, es₂, o, rfl, htrack, hes₂, -, hout⟩ := h.exists_linkTracked
  rw [replies_append, hes₂, List.append_nil] at hes
  have hphysr := htrack.replies_physr
  obtain ⟨rfl, ho⟩ := htrack.of_replies_live hes hb hc hb'
  obtain ⟨c, rfl, rfl⟩ | ⟨v, rfl, rfl⟩ := hout ho
  · refine ⟨by simp, .inl ⟨c, ?_, rfl⟩⟩
    rw [replies_append, hphysr]
    simp
  · refine ⟨by simp, .inr ⟨v, ?_, rfl, ?_⟩⟩
    · rw [replies_append, hphysr]
      simp
    · cases hv : Physr.isResolved v <;> simp [Physr.mode?, hv]

theorem settles (h : StateSettled settings r es out) : SettlesState settings r es out where
  current := fun _ => h.current_eq
  mode := h.exists_mode
  fault := fun _ => h.fault_eq
  ranOut := fun b values hes hb hc => by
    obtain ⟨hlen, hphysr, hout⟩ := h.of_replies_ranOut hes hb hc
    rw [hout]
    exact ⟨hlen, hphysr, rfl, rfl⟩
  noLink := fun b b' rest hes hc hb hb' => h.of_replies_live hes hc hb hb'
  reads := h.request_eq
  frame := h.record_eq

end StateSettled

/-- **Every call of `settledState` goes one of seven ways and keeps its promise**, on every bus, from
every record and with all settings. -/
theorem settledState_settles {σ : Type} (m : Machine σ) (s : σ) (settings : Settings)
    (r : PhyRecord) :
    let out := ((settledState settings).runOn r).run m s
    StateSettled settings r out.events out.result ∧
      SettlesState settings r out.events out.result := by
  intro out
  have h : StateSettled settings r out.events out.result := (settledState_ensures settings r).run m s
  exact ⟨h, h.settles⟩

end Transceiver

end EthernetPhy
