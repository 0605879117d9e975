import EthernetPhy.Proofs.ForcedLink
import EthernetPhy.Proofs.PendingReset
import EthernetPhy.Proofs.ResetCountdown
import Mathlib.Data.List.Induction

/-!
# The last command for the link mode wins

There are two commands for the link mode: one sets a mode by hand (`Clause22.forceMode`), and one
starts the negotiation (`Clause22.negotiate`).  Both edit basic mode control, in which they share the
bit that enables the negotiation, and each of them ends what the other one has begun.

* `ModeCommand.apply` : what a command makes of basic mode control;
* `LastWins`, `lastWins_applyAll` : **what any number of commands make of it**, which is decided by the
  last command, the last mode that was set by hand, and the bits that no command changes;
* `ModeCommand.perform_ensures` : what one command does to a simulated PHY, whatever fails on the way;
* `modeCommands_lastWin` : **what a whole sequence of commands comes to at a simulated PHY**.
-/

namespace EthernetPhy

open Event

/-! ### Commands -/

/-- A command for the link mode. -/
inductive ModeCommand where
  /-- Set a link mode by hand. -/
  | force (mode : LinkMode)
  /-- Start the negotiation. -/
  | negotiate
  deriving DecidableEq

namespace ModeCommand

/-- Gives a command to the PHY at an address. -/
def perform (phy : PhyAddress) : ModeCommand → PhyM Unit
  | force mode => Clause22.forceMode phy mode
  | negotiate => Clause22.negotiate phy

/-- What a command makes of basic mode control. -/
def apply : ModeCommand → Word → Word
  | force mode => Bmcr.forced mode
  | negotiate => Bmcr.renegotiating

/-- The mode that a command sets by hand. -/
def mode? : ModeCommand → Option LinkMode
  | force mode => some mode
  | negotiate => none

/-- What some commands make of basic mode control, first to last. -/
def applyAll (cs : List ModeCommand) (v : Word) : Word := cs.foldl (fun v c => c.apply v) v

theorem applyAll_concat {cs : List ModeCommand} {c : ModeCommand} {v : Word} :
    applyAll (cs ++ [c]) v = c.apply (applyAll cs v) := by
  simp [applyAll]

end ModeCommand

/-- The last mode that some commands set by hand. -/
def lastForced (cs : List ModeCommand) : Option LinkMode := (cs.filterMap ModeCommand.mode?).getLast?

theorem lastForced_concat {cs : List ModeCommand} {c : ModeCommand} :
    lastForced (cs ++ [c]) = (c.mode? <|> lastForced cs) := by
  rw [lastForced, List.filterMap_append]
  cases c <;> simp [ModeCommand.mode?, lastForced]

/-! ### Basic mode control after commands -/

namespace Bmcr

/-- The bits that no command changes. -/
def uncommanded : Word := loopback ||| powerDown ||| collisionTest ||| 0x003F

/-- The link mode that basic mode control selects, unless both speed bits are set. -/
def mode? (v : Word) : Option LinkMode :=
  let duplex := if v.test fullDuplex then Duplex.full else .half
  match v.test speed1000, v.test speed100 with
  | true, true => none
  | true, false => some ⟨.mbps1000, duplex⟩
  | false, true => some ⟨.mbps100, duplex⟩
  | false, false => some ⟨.mbps10, duplex⟩

theorem mode?_and_modeBits (v : Word) : mode? (v &&& modeBits) = mode? v := by
  have hfast : (v &&& modeBits).test speed1000 = v.test speed1000 := Word.test_and v (by decide)
  have hslow : (v &&& modeBits).test speed100 = v.test speed100 := Word.test_and v (by decide)
  have hduplex : (v &&& modeBits).test fullDuplex = v.test fullDuplex := Word.test_and v (by decide)
  rw [mode?, mode?, hfast, hslow, hduplex]

theorem mode?_congr {v w : Word} (h : v &&& modeBits = w &&& modeBits) : mode? v = mode? w := by
  rw [← mode?_and_modeBits v, h, mode?_and_modeBits w]

theorem mode?_forced (mode : LinkMode) (v : Word) : mode? (forced mode v) = some mode := by
  rw [← mode?_and_modeBits, forced, Word.update_and_of_cleared v (by decide)]
  obtain ⟨speed, duplex⟩ := mode
  cases speed <;> cases duplex <;> decide

theorem renegotiating_and_modeBits (v : Word) : renegotiating v &&& modeBits = v &&& modeBits :=
  Word.update_and_of_kept v (by decide) (by decide)

theorem forced_and_uncommanded (mode : LinkMode) (v : Word) :
    forced mode v &&& uncommanded = v &&& uncommanded :=
  Word.update_and_of_kept v (by decide) (selected_and mode (by decide))

end Bmcr

namespace ModeCommand

variable {c : ModeCommand} {v : Word}

theorem apply_and_uncommanded : c.apply v &&& Bmcr.uncommanded = v &&& Bmcr.uncommanded := by
  cases c with
  | force mode => exact Bmcr.forced_and_uncommanded mode v
  | negotiate => exact Word.update_and_of_kept v (by decide) (by decide)

theorem apply_harmless : Bmcr.Harmless (c.apply v) := by
  cases c with
  | force mode => exact Bmcr.harmless_forced mode v
  | negotiate => exact Bmcr.harmless_renegotiating v

theorem apply_anEnable : (c.apply v).test Bmcr.anEnable = true ↔ c = .negotiate := by
  cases c with
  | force mode => simp [apply, Bmcr.forced_anEnable]
  | negotiate =>
    have hset : Bmcr.renegotiating v &&& Bmcr.anEnable = Bmcr.anEnable :=
      Word.update_and_of_set v (by decide)
    refine iff_of_true ?_ rfl
    rw [apply, Word.test, hset]
    decide

theorem apply_or_reset : c.apply (v ||| Bmcr.reset) = c.apply v := by
  cases c with
  | force mode => exact Word.update_or v (by decide)
  | negotiate => exact Word.update_or v (by decide)

end ModeCommand

/-- What basic mode control is worth after some commands, from the value `v₀` before them.

* `harmless` : no reset and no isolation is left by any command;
* `anEnable` : the negotiation is enabled exactly if the last command was to start it;
* `mode_forced` : the mode that is selected is the last one that was set by hand;
* `mode_kept` : if none was, the bits that select a mode are the same as before;
* `kept` : the bits that no command changes are the same as before. -/
structure LastWins (v₀ : Word) (cs : List ModeCommand) (v : Word) : Prop where
  harmless : cs ≠ [] → Bmcr.Harmless v
  anEnable : cs ≠ [] → (v.test Bmcr.anEnable = true ↔ cs.getLast? = some .negotiate)
  mode_forced : ∀ mode, lastForced cs = some mode → Bmcr.mode? v = some mode
  mode_kept : lastForced cs = none → v &&& Bmcr.modeBits = v₀ &&& Bmcr.modeBits
  kept : v &&& Bmcr.uncommanded = v₀ &&& Bmcr.uncommanded

theorem LastWins.nil (v₀ : Word) : LastWins v₀ [] v₀ where
  harmless := absurd rfl
  anEnable := absurd rfl
  mode_forced _ := nofun
  mode_kept _ := rfl
  kept := rfl

/-- One more command overrides those before it. -/
theorem LastWins.concat {v₀ v : Word} {cs : List ModeCommand} (h : LastWins v₀ cs v)
    (c : ModeCommand) : LastWins v₀ (cs ++ [c]) (c.apply v) where
  harmless _ := ModeCommand.apply_harmless
  anEnable _ := by
    rw [List.getLast?_concat, Option.some_inj]
    exact ModeCommand.apply_anEnable
  mode_forced mode hmode := by
    rw [lastForced_concat] at hmode
    cases c with
    | force mode' =>
      cases hmode
      exact Bmcr.mode?_forced mode v
    | negotiate =>
      exact (Bmcr.mode?_congr (Bmcr.renegotiating_and_modeBits v)).trans (h.mode_forced mode hmode)
  mode_kept hmode := by
    rw [lastForced_concat] at hmode
    cases c with
    | force mode' => cases hmode
    | negotiate => exact (Bmcr.renegotiating_and_modeBits v).trans (h.mode_kept hmode)
  kept := ModeCommand.apply_and_uncommanded.trans h.kept

/-- **What some commands make of basic mode control is decided by the last ones.** -/
theorem lastWins_applyAll (v₀ : Word) (cs : List ModeCommand) :
    LastWins v₀ cs (ModeCommand.applyAll cs v₀) := by
  induction cs using List.reverseRecOn with
  | nil => exact .nil v₀
  | append_singleton cs c ih =>
    rw [ModeCommand.applyAll_concat]
    exact ih.concat c

/-! ### Commands to a simulated PHY -/

namespace SimulatedPhy

variable {lossy : Prop} {a : PhyAddress} {p p' : SimulatedPhy} {es : List Event}

/-- A PHY that takes commands: it is there, basic mode status can be read, and basic mode control can
be read and written.  Frames for its other registers may fail. -/
structure TakesCommands (p : SimulatedPhy) : Prop where
  present : p.isPresent = true
  control : p.Clear Register.bmcr
  status : p.Clear Register.bmsr
  writable : Register.bmcr ∉ p.failingWrites

theorem TakesCommands.read_snd (h : p.TakesCommands) (reg : RegAddress) :
    (p.read reg).2.TakesCommands := by
  have hcontrol := h.control.after_read reg
  have hstatus := h.status.after_read reg
  obtain ⟨queued, left, pending, hread, -⟩ := SimulatedPhy.read_snd p reg
  rw [hread] at hcontrol hstatus ⊢
  exact ⟨h.present, hcontrol, hstatus, h.writable⟩

theorem TakesCommands.write_snd (h : p.TakesCommands) (reg : RegAddress) (value : Word) :
    (p.write reg value).2.TakesCommands := by
  have hpresent : (p.write reg value).2.isPresent = true := by
    unfold SimulatedPhy.write
    split
    · exact h.present
    · exact isPresent_accept h.present
  have hcontrol := h.control.after_write reg value
  have hstatus := h.status.after_write reg value
  obtain ⟨registers, page, pending, hwrite, -, -⟩ := SimulatedPhy.write_snd p reg value
  rw [hwrite] at hpresent hcontrol hstatus ⊢
  exact ⟨hpresent, hcontrol, hstatus, h.writable⟩

theorem Trace.takesCommands (h : Trace lossy a p es p') (hp : p.TakesCommands) :
    p'.TakesCommands :=
  h.invariant hp (fun _ reg hq => hq.read_snd reg) fun _ reg value hq => hq.write_snd reg value

theorem Passes.control_eq {e : Event} (h : Passes lossy a p e p') (he : e.request.controls = false) :
    p'.contents Cell.control = p.contents Cell.control := by
  cases h with
  | read reg =>
    obtain ⟨queued, left, pending, hread, -⟩ := SimulatedPhy.read_snd p reg
    rw [hread]
    rfl
  | write reg value =>
    rw [SimulatedPhy.write]
    split
    · rfl
    · exact contents_accept_control (of_decide_eq_false he)
  | lost => rfl
  | other => rfl

theorem Trace.control_eq (h : Trace lossy a p es p') (hes : ∀ e ∈ es, e.request.controls = false) :
    p'.contents Cell.control = p.contents Cell.control ∧ p'.pendingReset = p.pendingReset := by
  refine ⟨?_, h.pendingReset_eq hes⟩
  induction h with
  | nil => rfl
  | cons hpass _ ih =>
    obtain ⟨he, hes⟩ := List.forall_mem_cons.1 hes
    rw [ih hes, hpass.control_eq he]

/-- No frame for basic mode control fails. -/
theorem TakesCommands.failure?_control {e : Event} (hp : p.TakesCommands)
    (h : Passes False a p e p') (hphy : e.request.phy? = some a)
    (he : e.request.controls = true) : e.failure? = none := by
  cases h with
  | read reg =>
    obtain rfl : reg = Register.bmcr := of_decide_eq_true he
    rw [hp.control.read]
    rfl
  | write reg value =>
    obtain rfl : reg = Register.bmcr := of_decide_eq_true he
    rw [SimulatedPhy.write, if_neg hp.writable]
    rfl
  | lost _ hlossy => exact hlossy.elim
  | other _ hother => exact absurd hphy hother

theorem TakesCommands.forall_passed (hp : p.TakesCommands) (h : Trace False a p es p')
    (hes : ∀ e ∈ es, e.request.phy? = some a ∧ e.request.controls = true) :
    ∀ e ∈ es, e.failure? = none := by
  induction h with
  | nil => exact List.forall_mem_nil _
  | cons hpass _ ih =>
    obtain ⟨⟨hphy, he⟩, hes⟩ := List.forall_mem_cons.1 hes
    have hnext := (Trace.cons hpass (.nil _)).takesCommands hp
    exact List.forall_mem_cons.2 ⟨hp.failure?_control hpass hphy he, ih hnext hes⟩

/-- A change of basic mode control that ends a reset is made, whether or not a reset is pending. -/
theorem TakesCommands.revised {change : Word → Word} {v : Word} {result : Except Fault Unit}
    (hp : p.TakesCommands) (h : Trace False a p es p')
    (hes : Attempted (revised a Register.bmcr change v) es result)
    (hreset : ∀ v, (change v).test Bmcr.reset = false)
    (hpending : ∀ v, change (v ||| Bmcr.reset) = change v) :
    result = .ok () ∧
      p'.contents Cell.control = some (change ((p.contents Cell.control).getD 0)) ∧
      p'.pendingReset = none := by
  have hplan : ∀ e ∈ EthernetPhy.revised a Register.bmcr change v,
      e.request.phy? = some a ∧ e.request.controls = true :=
    List.forall_mem_cons.2 ⟨⟨rfl, rfl⟩, List.forall_mem_singleton.2 ⟨rfl, rfl⟩⟩
  have hframes : ∀ e ∈ es, e.request.phy? = some a ∧ e.request.controls = true := by
    intro e he
    obtain ⟨e', he', hrequest⟩ := hes.exists_request_eq he
    rw [← hrequest]
    exact hplan e' he'
  obtain ⟨hok, rfl⟩ := hes.of_passed (hp.forall_passed h hframes)
  obtain ⟨q, hread, hrest⟩ := trace_cons.1 h
  obtain ⟨q', hwrite, hend⟩ := trace_cons.1 hrest
  obtain rfl := trace_nil.1 hend
  obtain rfl := hwrite.of_wrote
  have hvalue : change v = change ((p.contents Cell.control).getD 0) := by
    obtain rfl | rfl := hread.got_control hp.present hp.control.unqueued
    · rfl
    · exact hpending _
  rw [← hvalue]
  exact ⟨hok, accept_control (hreset v)⟩

end SimulatedPhy

open SimulatedPhy

theorem forall_mem_revised {phy : PhyAddress} {reg : RegAddress} {change : Word → Word} {v : Word}
    (hreg : reg ≠ Register.bmcr) : ∀ e ∈ revised phy reg change v, e.request.controls = false :=
  List.forall_mem_cons.2 ⟨decide_eq_false hreg, List.forall_mem_singleton.2 (decide_eq_false hreg)⟩

namespace ModeCommand

/-- What a command does to a PHY, with its result. -/
inductive Obeyed (c : ModeCommand) (p : SimulatedPhy) : Except Fault Unit → SimulatedPhy → Prop
  /-- The command is carried out. -/
  | done {p' : SimulatedPhy}
    (hcontrol : p'.contents Cell.control = some (c.apply ((p.contents Cell.control).getD 0)))
    (hpending : p'.pendingReset = none) : Obeyed c p (.ok ()) p'
  /-- A negotiation is not started. -/
  | refused {p' : SimulatedPhy} {f : Fault} (hc : c = .negotiate)
    (hcontrol : p'.contents Cell.control = p.contents Cell.control)
    (hpending : p'.pendingReset = p.pendingReset) : Obeyed c p (.error f) p'

/-- A negotiation is started, or basic mode control is left alone. -/
theorem obeyed_of_negotiated {phy : PhyAddress} {p p' : SimulatedPhy} {es : List Event}
    {result : Except Fault Unit} (h : Clause22.Negotiated phy es result) (hp : p.TakesCommands)
    (htrace : Trace False phy p es p') : negotiate.Obeyed p result p' := by
  cases h with
  | lost c =>
    obtain ⟨hcontrol, hpending⟩ := htrace.control_eq (List.forall_mem_singleton.2 rfl)
    exact .refused rfl hcontrol hpending
  | unable status hunable =>
    obtain ⟨hcontrol, hpending⟩ := htrace.control_eq (List.forall_mem_singleton.2 rfl)
    exact .refused rfl hcontrol hpending
  | @able status advertised gigabit control hable es result h =>
    -- Of the frames that are planned, the last two are the only ones for basic mode control.
    have hfront : ∀ e ∈ got phy Register.bmsr status ::
        (revised phy Register.anar (· ||| 0x01E0) advertised ++
          revised phy Register.ctrl1000 (· ||| 0x0300) gigabit), e.request.controls = false :=
      List.forall_mem_cons.2 ⟨rfl, List.forall_mem_append.2
        ⟨forall_mem_revised (by decide), forall_mem_revised (by decide)⟩⟩
    rw [Clause22.negotiationFrames, ← List.append_assoc] at h
    obtain ⟨h, f, rfl⟩ | ⟨back, rfl, hback⟩ := h.of_append
    · obtain ⟨hfirst, hrest⟩ := List.forall_mem_cons.1 hfront
      have hes : ∀ e ∈ got phy Register.bmsr status :: es, e.request.controls = false := by
        refine List.forall_mem_cons.2 ⟨hfirst, fun e he => ?_⟩
        obtain ⟨e', he', hrequest⟩ := h.exists_request_eq he
        rw [← hrequest, hrest e' he']
      obtain ⟨hcontrol, hpending⟩ := htrace.control_eq hes
      exact .refused rfl hcontrol hpending
    · rw [← List.cons_append] at htrace
      obtain ⟨q, hearly, hlate⟩ := trace_append.1 htrace
      obtain ⟨hsame, -⟩ := hearly.control_eq hfront
      obtain ⟨rfl, hcontrol, hpending⟩ := (hearly.takesCommands hp).revised hlate hback
        (fun v => (Bmcr.harmless_renegotiating v).1) fun _ => apply_or_reset (c := .negotiate)
      rw [hsame] at hcontrol
      exact .done hcontrol hpending

/-- **What one command does to a PHY that takes commands.** -/
theorem perform_ensures (phy : PhyAddress) (c : ModeCommand) :
    (c.perform phy).run.Ensures fun es result => ∀ p p' : SimulatedPhy, p.TakesCommands →
      Trace False phy p es p' → c.Obeyed p result p' := by
  cases c with
  | force mode =>
    refine (Clause22.forceMode_attempted phy mode).mono fun es result h p p' hp htrace => ?_
    obtain ⟨control, h⟩ := h
    obtain ⟨rfl, hcontrol, hpending⟩ := hp.revised htrace h
      (fun v => (Bmcr.harmless_forced mode v).1) fun _ => apply_or_reset (c := .force mode)
    exact .done hcontrol hpending
  | negotiate =>
    exact (Clause22.negotiate_ensures_negotiated phy).mono fun _ _ h _ _ hp htrace =>
      obeyed_of_negotiated h hp (trace_frames.2 htrace)

/-- Gives commands to the PHY at an address, one after the other, and keeps each with its result. -/
def performAll (phy : PhyAddress) :
    List ModeCommand → Program (List (ModeCommand × Except Fault Unit))
  | [] => return []
  | c :: cs => do
    let result ← (c.perform phy).run
    let results ← performAll phy cs
    return (c, result) :: results

end ModeCommand

/-- The commands that were carried out. -/
def succeeded (results : List (ModeCommand × Except Fault Unit)) : List ModeCommand :=
  results.filterMap fun
    | (c, .ok ()) => some c
    | (_, .error _) => none

/-- A PHY after some commands were carried out, from what it was before them. -/
structure Commanded (p₀ : SimulatedPhy) (cs : List ModeCommand) (p : SimulatedPhy) : Prop where
  takes : p.TakesCommands
  unchanged : cs = [] →
    p.contents Cell.control = p₀.contents Cell.control ∧ p.pendingReset = p₀.pendingReset
  control : cs ≠ [] → p.contents Cell.control =
    some (ModeCommand.applyAll cs ((p₀.contents Cell.control).getD 0))
  pendingReset : cs ≠ [] → p.pendingReset = none

section

variable {p₀ p p' : SimulatedPhy} {cs : List ModeCommand} {c : ModeCommand}
  {result : Except Fault Unit}

theorem Commanded.nil (h : p.TakesCommands) : Commanded p [] p where
  takes := h
  unchanged _ := ⟨rfl, rfl⟩
  control := absurd rfl
  pendingReset := absurd rfl

theorem Commanded.getD_control (h : Commanded p₀ cs p) : (p.contents Cell.control).getD 0 =
    ModeCommand.applyAll cs ((p₀.contents Cell.control).getD 0) := by
  cases cs with
  | nil => rw [(h.unchanged rfl).1]; rfl
  | cons c cs => rw [h.control (List.cons_ne_nil c cs)]; rfl

/-- One more command is carried out, or nothing happens. -/
theorem Commanded.step (h : Commanded p₀ cs p) (hc : c.Obeyed p result p')
    (htakes : p'.TakesCommands) : Commanded p₀ (cs ++ succeeded [(c, result)]) p' := by
  cases hc with
  | done hcontrol hpending =>
    have hsucceeded : succeeded [(c, .ok ())] = [c] := rfl
    rw [hsucceeded]
    refine ⟨htakes, fun hnil => by simp at hnil, fun _ => ?_, fun _ => hpending⟩
    rw [hcontrol, h.getD_control, ModeCommand.applyAll_concat]
  | @refused p' f hc hcontrol hpending =>
    have hsucceeded : succeeded [(c, .error f)] = [] := rfl
    rw [hsucceeded, List.append_nil]
    refine ⟨htakes, ?_, ?_, ?_⟩
    · rw [hcontrol, hpending]
      exact h.unchanged
    · rw [hcontrol]
      exact h.control
    · rw [hpending]
      exact h.pendingReset

end

/-- **What a sequence of commands does to a PHY**: what those do that are carried out, and these are
all but some that were to start the negotiation. -/
theorem performAll_ensures (phy : PhyAddress) (cs : List ModeCommand) :
    (ModeCommand.performAll phy cs).Ensures fun es results => results.map Prod.fst = cs ∧
      ∀ (p₀ : SimulatedPhy) before (p p' : SimulatedPhy), Commanded p₀ before p →
        Trace False phy p es p' → Commanded p₀ (before ++ succeeded results) p' ∧
          ∀ entry ∈ results, entry.1 ≠ .negotiate → entry.2 = .ok () := by
  induction cs with
  | nil =>
    refine ⟨rfl, fun p₀ before p p' hp htrace => ?_⟩
    rw [trace_nil.1 htrace]
    exact ⟨by rwa [succeeded, List.filterMap_nil, List.append_nil], List.forall_mem_nil _⟩
  | cons c cs ih =>
    rw [ModeCommand.performAll]
    refine (ModeCommand.perform_ensures phy c).bind fun es result h => ?_
    refine ih.bind fun es' results hrest => ?_
    obtain ⟨hcs, hrest⟩ := hrest
    refine ⟨by rw [List.map_cons, hcs], fun p₀ before p p' hp htrace => ?_⟩
    rw [List.append_nil] at htrace
    obtain ⟨q, hfirst, hlater⟩ := trace_append.1 htrace
    have hc := h p q hp.takes hfirst
    have hq := hp.step hc (hfirst.takesCommands hp.takes)
    obtain ⟨hdone, hforced⟩ := hrest p₀ _ q p' hq hlater
    have hresults : succeeded ((c, result) :: results) =
        succeeded [(c, result)] ++ succeeded results := by
      rw [succeeded, succeeded, succeeded, ← List.filterMap_append, List.singleton_append]
    refine ⟨by rwa [hresults, ← List.append_assoc],
      List.forall_mem_cons.2 ⟨fun hne => ?_, hforced⟩⟩
    cases hc with
    | done => rfl
    | refused hnegotiate => exact absurd hnegotiate hne

/-- A PHY that is found unable to negotiate was read once, which changes nothing on the bus. -/
theorem negotiate_unsupported (phy : PhyAddress) (b : Board SimulatedBus)
    (hstatus : (b.bus.phy phy).Clear Register.bmsr) :
    let out := (Clause22.negotiate phy).run.run SimulatedBus.bus.machine b
    out.result = .error .unsupported →
      (∀ q, out.final.bus.phy q = b.bus.phy q) ∧
        ∃ status, frames out.events = [got phy Register.bmsr status] := by
  intro out hresult
  have h : Clause22.Negotiated phy (frames out.events) out.result :=
    (Clause22.negotiate_ensures_negotiated phy).run SimulatedBus.bus.machine b
  rw [hresult] at h
  obtain ⟨status, -, hframes⟩ := h.of_unsupported
  refine ⟨fun q => ?_, status, hframes⟩
  have htrace := SimulatedBus.run_trace False (Clause22.negotiate phy).run b q
  rw [← trace_frames, hframes] at htrace
  refine (htrace.of_reads (List.forall_mem_singleton.2 fun hphy => ?_)).1
  obtain rfl := Option.some.inj hphy
  exact ⟨Register.bmsr, rfl, hstatus, by decide⟩

/-- **The last command for the link mode wins**, at every simulated PHY that takes commands, whatever
basic mode control holds and however long a reset will be pending.  Modes are always set; of the
commands that are carried out the last one decides on the negotiation and the last mode on the link, and
no reset is left.  A PHY that is found unable to negotiate is left as it is. -/
theorem modeCommands_lastWin (phy : PhyAddress) (cs : List ModeCommand) (b : Board SimulatedBus)
    (h : (b.bus.phy phy).TakesCommands) :
    let p := b.bus.phy phy
    let out := (ModeCommand.performAll phy cs).run SimulatedBus.bus.machine b
    let p' := out.final.bus.phy phy
    let done := succeeded out.result
    let single := (Clause22.negotiate phy).run.run SimulatedBus.bus.machine b
    (out.result.map Prod.fst = cs ∧
      ∀ entry ∈ out.result, entry.1 ≠ .negotiate → entry.2 = .ok ()) ∧
    (done ≠ [] → ∃ v, p'.contents Cell.control = some v ∧ p'.pendingReset = none ∧
      LastWins ((p.contents Cell.control).getD 0) done v) ∧
    (done = [] → p'.contents Cell.control = p.contents Cell.control ∧
      p'.pendingReset = p.pendingReset) ∧
    (single.result = .error .unsupported → (∀ q, single.final.bus.phy q = b.bus.phy q) ∧
      ∃ status, frames single.events = [got phy Register.bmsr status]) := by
  intro p out p' done single
  obtain ⟨hcs, hrun⟩ := (performAll_ensures phy cs).run SimulatedBus.bus.machine b
  have htrace := SimulatedBus.run_trace False (ModeCommand.performAll phy cs) b phy
  obtain ⟨hdone, hforced⟩ := hrun p [] p p' (.nil h) htrace
  rw [List.nil_append] at hdone
  refine ⟨⟨hcs, hforced⟩, fun hsome => ?_, hdone.unchanged, negotiate_unsupported phy b h.status⟩
  exact ⟨_, hdone.control hsome, hdone.pendingReset hsome, lastWins_applyAll _ _⟩

/-- Three commands while a reset is pending that never ends, with all bits set before them. -/
theorem modeCommands_lastWin_pending :
    let p : SimulatedPhy := { SimulatedPhy.apply (SimulatedPhy.powerUp {})
      (.register Page.standard Register.bmcr 0xFFFF) with pendingReset := some neverEnds }
    let b : Board SimulatedBus := { bus := SimulatedBus.setPhy {} 0 p }
    let cs := [.force .gigabitFull, .negotiate, .force .fastHalf]
    let out := (ModeCommand.performAll 0 cs).run SimulatedBus.bus.machine b
    (b.bus.phy 0).TakesCommands ∧ succeeded out.result = cs ∧
      (out.final.bus.phy 0).contents Cell.control = some 0x6ABF ∧
      LastWins 0xFFFF cs 0x6ABF := by
  intro p b cs out
  have htakes : (b.bus.phy 0).TakesCommands :=
    ⟨by decide +kernel, ⟨by decide +kernel, by decide +kernel, by decide +kernel⟩,
      ⟨by decide +kernel, by decide +kernel, by decide +kernel⟩, by decide +kernel⟩
  have hdone : succeeded out.result = cs := by decide +kernel
  have hcontrol : (out.final.bus.phy 0).contents Cell.control = some 0x6ABF := by decide +kernel
  have hbefore : ((b.bus.phy 0).contents Cell.control).getD 0 = 0xFFFF := by decide +kernel
  have hne : succeeded out.result ≠ [] := by
    rw [hdone]
    exact List.cons_ne_nil _ _
  obtain ⟨v, hv, -, hlast⟩ := (modeCommands_lastWin 0 cs b htakes).2.1 hne
  obtain rfl : v = 0x6ABF := Option.some.inj (hv.symm.trans hcontrol)
  change LastWins _ (succeeded out.result) _ at hlast
  rw [hbefore, hdone] at hlast
  exact ⟨htakes, hdone, hcontrol, hlast⟩

end EthernetPhy
