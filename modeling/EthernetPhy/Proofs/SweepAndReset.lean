import EthernetPhy.Clause22.Control
import EthernetPhy.Clause22.Discovery
import EthernetPhy.Proofs.Ensures

/-!
# How a sweep and a reset may go

Two procedures with a bounded number of rounds, each described by the events and the result that it
may end with, whatever answers it gets:

* `sweep_ensures_swept` : the ways of `Clause22.sweep` (`Swept`), address by address;
* `reset_ensures_done` : the ways of `Clause22.reset` (`ResetDone`), which are those of the wait for
  its end (`ResetAwaited`) after a write that was accepted.

A wait for the end of a reset looks first and waits after it, unlike the waits of
`EthernetPhy.Proofs.Waits`: its last look is not followed by a delay unless it still shows the
reset.
-/

namespace EthernetPhy

open Event

namespace Clause22

/-! ### The sweep -/

/-- The ways in which a sweep over some addresses may go, with its events and what it finds. -/
inductive Swept : List PhyAddress → List Event → Option (PhyAddress × Word × Word) → Prop
  /-- No address is left. -/
  | nothingLeft : Swept [] [] none
  /-- The first identifier register could not be read, and the address is passed over. -/
  | firstLost {phy : PhyAddress} {rest : List PhyAddress} {es : List Event}
    {found : Option (PhyAddress × Word × Word)} (c : BusFault) (h : Swept rest es found) :
    Swept (phy :: rest) (lost phy Register.phyidr1 c :: es) found
  /-- The second identifier register could not be read, and the address is passed over. -/
  | secondLost {phy : PhyAddress} {rest : List PhyAddress} {es : List Event}
    {found : Option (PhyAddress × Word × Word)} (id1 : Word) (c : BusFault)
    (h : Swept rest es found) :
    Swept (phy :: rest) (got phy Register.phyidr1 id1 :: lost phy Register.phyidr2 c :: es) found
  /-- The bus is idle at the address. -/
  | absent {phy : PhyAddress} {rest : List PhyAddress} {es : List Event}
    {found : Option (PhyAddress × Word × Word)} (id1 id2 : Word)
    (hidle : id1 = .idle ∨ id2 = .idle) (h : Swept rest es found) :
    Swept (phy :: rest) (got phy Register.phyidr1 id1 :: got phy Register.phyidr2 id2 :: es) found
  /-- A PHY is there. -/
  | present {phy : PhyAddress} {rest : List PhyAddress} (id1 id2 : Word)
    (hthere : id1 ≠ .idle ∧ id2 ≠ .idle) :
    Swept (phy :: rest) [got phy Register.phyidr1 id1, got phy Register.phyidr2 id2]
      (some (phy, id1, id2))

/-- **How a sweep may go.** -/
theorem sweep_ensures_swept (phys : List PhyAddress) : (sweep phys).Ensures (Swept phys) := by
  induction phys with
  | nil => exact .nothingLeft
  | cons phy rest ih =>
    simp only [sweep, probe, ExceptT.run_bind, BusM.run_read, Program.ask_bind, Program.done_bind,
      Program.ensures_ask]
    rintro (c | id1)
    · exact ih.mono fun _ _ h => .firstLost c h
    rintro (c | id2)
    · exact ih.mono fun _ _ h => .secondLost id1 c h
    by_cases hthere : id1 ≠ .idle ∧ id2 ≠ .idle
    · simp only [if_pos hthere, ExceptT.run_pure, Program.pure_eq]
      exact .present id1 id2 hthere
    · simp only [if_neg hthere, ExceptT.run_pure, Program.pure_eq]
      have hidle : id1 = .idle ∨ id2 = .idle := by
        by_cases hid1 : id1 = .idle
        · exact .inl hid1
        · exact .inr (Decidable.not_not.1 fun hid2 => hthere ⟨hid1, hid2⟩)
      exact ih.mono fun _ _ h => .absent id1 id2 hidle h

section

variable {phys : List PhyAddress} {es : List Event} {found : Option (PhyAddress × Word × Word)}

/-- A read of one half of the identifier at one of some addresses. -/
def Seeks (phys : List PhyAddress) (q : Request) : Prop :=
  ∃ phy ∈ phys, q = .read phy Register.phyidr1 ∨ q = .read phy Register.phyidr2

/-- A sweep reads identifiers, and only at its own addresses. -/
theorem Swept.seeks (h : Swept phys es found) : ∀ e ∈ es, Seeks phys e.request := by
  have hlater : ∀ {phy : PhyAddress} {rest : List PhyAddress} {es : List Event},
      (∀ e ∈ es, Seeks rest e.request) → ∀ e ∈ es, Seeks (phy :: rest) e.request := by
    intro phy rest es hes e he
    obtain ⟨phy', hphy', hq⟩ := hes e he
    exact ⟨phy', List.mem_cons_of_mem _ hphy', hq⟩
  induction h with
  | nothingLeft => exact List.forall_mem_nil _
  | firstLost c _ ih =>
    exact List.forall_mem_cons.2 ⟨⟨_, List.mem_cons_self, .inl rfl⟩, hlater ih⟩
  | secondLost id1 c _ ih =>
    exact List.forall_mem_cons.2 ⟨⟨_, List.mem_cons_self, .inl rfl⟩,
      List.forall_mem_cons.2 ⟨⟨_, List.mem_cons_self, .inr rfl⟩, hlater ih⟩⟩
  | absent id1 id2 hidle _ ih =>
    exact List.forall_mem_cons.2 ⟨⟨_, List.mem_cons_self, .inl rfl⟩,
      List.forall_mem_cons.2 ⟨⟨_, List.mem_cons_self, .inr rfl⟩, hlater ih⟩⟩
  | present id1 id2 hthere =>
    exact List.forall_mem_cons.2 ⟨⟨_, List.mem_cons_self, .inl rfl⟩,
      List.forall_mem_singleton.2 ⟨_, List.mem_cons_self, .inr rfl⟩⟩

theorem Swept.mem {phy : PhyAddress} {ids : Word × Word} (h : Swept phys es found)
    (hfound : found = some (phy, ids)) : phy ∈ phys := by
  induction h with
  | nothingLeft => cases hfound
  | firstLost c _ ih => exact List.mem_cons_of_mem _ (ih hfound)
  | secondLost id1 c _ ih => exact List.mem_cons_of_mem _ (ih hfound)
  | absent id1 id2 hidle _ ih => exact List.mem_cons_of_mem _ (ih hfound)
  | present id1 id2 hthere =>
    cases hfound
    exact List.mem_cons_self

/-- The result of a discovery, from a record and what the sweep has found. -/
def discovered (r : PhyRecord) : Option (PhyAddress × Word × Word) → Except Fault Unit × PhyRecord
  | none => (.error .noPhy, r)
  | some (phy, _) => (.ok (), { r with address := phy })

theorem discover_ensures_swept (r : PhyRecord) :
    (discover.runOn r).Ensures fun es out => ∃ search found message,
      Swept PhyAddress.all search found ∧ es = search ++ [logged message] ∧
        out = discovered r found := by
  rw [discover, RecordM.runOn_bind, RecordM.runOn_liftM_program, Program.ensures_bind,
    Program.ensures_map]
  refine (sweep_ensures_swept _).mono fun search found h => ?_
  cases found with
  | none => exact fun _ => ⟨search, none, .nothingDetected, h, rfl, rfl⟩
  | some found => exact fun _ => ⟨search, some found, .detected .., h, rfl, rfl⟩

/-- A discovery looks at the addresses of the bus, logs what comes of it, and has an address of the
bus in the record if it had one before. -/
theorem discover_ensures_seeks (r : PhyRecord) :
    (discover.runOn r).Ensures fun es out =>
      (∀ e ∈ es, Seeks PhyAddress.all e.request ∨ ∃ message, e.request = .log message) ∧
        (out.2.address = r.address ∨ out.2.address ∈ PhyAddress.all) := by
  refine (discover_ensures_swept r).mono fun es out h => ?_
  obtain ⟨search, found, message, hsearch, rfl, rfl⟩ := h
  refine ⟨List.forall_mem_append.2 ⟨fun e he => .inl (hsearch.seeks e he),
    List.forall_mem_singleton.2 (.inr ⟨message, rfl⟩)⟩, ?_⟩
  cases found with
  | none => exact .inl rfl
  | some found => exact .inr (hsearch.mem rfl)

end

/-! ### The reset -/

/-- The rounds of a wait for the end of a reset that found these values: for each one a look and a
delay. -/
def resetRounds (phy : PhyAddress) (values : List Word) : List Event :=
  values.flatMap fun v => [got phy Register.bmcr v, slept Timing.resetInterval]

@[simp] theorem resetRounds_nil {phy : PhyAddress} : resetRounds phy [] = [] := rfl

@[simp] theorem resetRounds_cons {phy : PhyAddress} {v : Word} {values : List Word} :
    resetRounds phy (v :: values) =
      got phy Register.bmcr v :: slept Timing.resetInterval :: resetRounds phy values := rfl

theorem mem_resetRounds {phy : PhyAddress} {values : List Word} {e : Event} :
    e ∈ resetRounds phy values ↔
      ∃ v ∈ values, e = got phy Register.bmcr v ∨ e = slept Timing.resetInterval := by
  simp [resetRounds]

@[simp] theorem replies_resetRounds {phy : PhyAddress} {values : List Word} :
    replies phy Register.bmcr (resetRounds phy values) = values.map .ok := by
  induction values with
  | nil => rfl
  | cons v values ih => simp [ih]

@[simp] theorem asked_resetRounds {phy : PhyAddress} {values : List Word} :
    asked (resetRounds phy values) =
      times values.length [.read phy Register.bmcr, .delay (.ms Timing.resetInterval)] := by
  induction values with
  | nil => rfl
  | cons v values ih => simp [ih, times_succ]

/-- The ways in which a wait for the end of a reset may go.  `values` are what the looks found that
still show the reset. -/
inductive ResetAwaited (phy : PhyAddress) (looks : Nat) : List Event → Except Fault Unit → Prop
  /-- A look failed. -/
  | lost (values : List Word) (c : BusFault) (hlen : values.length < looks)
    (hvalues : ∀ v ∈ values, v.test Bmcr.reset = true) :
    ResetAwaited phy looks (resetRounds phy values ++ [lost phy Register.bmcr c])
      (.error (.bus c))
  /-- The reset is over. -/
  | ended (values : List Word) (v : Word) (hlen : values.length < looks)
    (hvalues : ∀ v ∈ values, v.test Bmcr.reset = true) (hv : v.test Bmcr.reset = false) :
    ResetAwaited phy looks (resetRounds phy values ++ [got phy Register.bmcr v]) (.ok ())
  /-- The wait ran out. -/
  | ranOut (values : List Word) (hlen : values.length = looks)
    (hvalues : ∀ v ∈ values, v.test Bmcr.reset = true) :
    ResetAwaited phy looks (resetRounds phy values ++ [logged (.resetTimedOut phy)])
      (.error .timeout)

/-- One more look that still shows the reset. -/
theorem ResetAwaited.cons {phy : PhyAddress} {looks : Nat} {es : List Event}
    {result : Except Fault Unit} {v : Word} (hv : v.test Bmcr.reset = true)
    (h : ResetAwaited phy looks es result) :
    ResetAwaited phy (looks + 1)
      (got phy Register.bmcr v :: slept Timing.resetInterval :: es) result := by
  cases h with
  | lost values c hlen hvalues =>
    exact .lost (v :: values) c (Nat.succ_lt_succ hlen) (List.forall_mem_cons.2 ⟨hv, hvalues⟩)
  | ended values w hlen hvalues hw =>
    exact .ended (v :: values) w (Nat.succ_lt_succ hlen) (List.forall_mem_cons.2 ⟨hv, hvalues⟩) hw
  | ranOut values hlen hvalues =>
    exact .ranOut (v :: values) (congrArg (· + 1) hlen) (List.forall_mem_cons.2 ⟨hv, hvalues⟩)

/-- A wait for the end of a reset looks, waits and logs, and asks for nothing else. -/
theorem ResetAwaited.forall_request {phy : PhyAddress} {looks : Nat} {es : List Event}
    {result : Except Fault Unit} (h : ResetAwaited phy looks es result) {P : Request → Prop}
    (hread : P (.read phy Register.bmcr)) (hdelay : P (.delay (.ms Timing.resetInterval)))
    (hlog : ∀ message, P (.log message)) : ∀ e ∈ es, P e.request := by
  have hrounds : ∀ {values : List Word} {last : Event}, P last.request →
      ∀ e ∈ resetRounds phy values ++ [last], P e.request := by
    intro values last hlast e he
    rcases List.mem_append.1 he with hround | hend
    · obtain ⟨v, -, rfl | rfl⟩ := mem_resetRounds.1 hround
      · exact hread
      · exact hdelay
    · rwa [List.mem_singleton.1 hend]
  cases h with
  | lost => exact hrounds hread
  | ended => exact hrounds hread
  | ranOut => exact hrounds (hlog _)

/-- **How a wait for the end of a reset may go.** -/
theorem awaitReset_ensures_awaited (phy : PhyAddress) (looks : Nat) :
    (awaitReset phy looks).run.Ensures (ResetAwaited phy looks) := by
  induction looks with
  | zero => exact fun _ => .ranOut [] rfl (List.forall_mem_nil _)
  | succ looks ih =>
    rw [awaitReset, PhyM.ensures_read_bind]
    refine ⟨fun c => .lost [] c (Nat.succ_pos _) (List.forall_mem_nil _), fun v => ?_⟩
    split
    · rename_i hv
      exact fun _ => ih.mono fun _ _ h => h.cons hv
    · rename_i hv
      exact .ended [] v (Nat.succ_pos _) (List.forall_mem_nil _) (eq_false_of_ne_true hv)

/-- The ways in which a reset may go. -/
inductive ResetDone (phy : PhyAddress) (polls : UInt32) : List Event → Except Fault Unit → Prop
  /-- The reset could not be written. -/
  | refused (c : BusFault) :
    ResetDone phy polls [refused phy Register.bmcr Bmcr.reset c] (.error (.bus c))
  /-- The reset was written and waited for. -/
  | awaited {es : List Event} {result : Except Fault Unit}
    (h : ResetAwaited phy (polls.toNat + 1) es result) :
    ResetDone phy polls (wrote phy Register.bmcr Bmcr.reset :: es) result

theorem ResetDone.of_ok {phy : PhyAddress} {polls : UInt32} {es : List Event}
    (h : ResetDone phy polls es (.ok ())) :
    ∃ values v, (∀ v ∈ values, v.test Bmcr.reset = true) ∧ v.test Bmcr.reset = false ∧
      es = wrote phy Register.bmcr Bmcr.reset ::
        (resetRounds phy values ++ [got phy Register.bmcr v]) := by
  cases h with
  | awaited h =>
    cases h with
    | ended values v hlen hvalues hv => exact ⟨values, v, hvalues, hv, rfl⟩

/-- **How a reset may go.** -/
theorem reset_ensures_done (phy : PhyAddress) (polls : UInt32) :
    (reset phy polls).run.Ensures (ResetDone phy polls) := by
  rintro (c | ⟨⟩)
  · exact .refused c
  · exact (awaitReset_ensures_awaited phy _).mono fun _ _ h => .awaited h

end Clause22

end EthernetPhy
