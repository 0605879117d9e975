import EthernetPhy.Proofs.Landing
import EthernetPhy.Proofs.ResetCountdown
import EthernetPhy.Simulator.Setup

/-!
# Reads that were prepared

An experiment with a simulated PHY prepares what its driver will read: some values are queued for a
register of page `0`, and after a number of reads the register stops answering.  Both count reads, but
not the same ones.  Every read that succeeds is taken off the number of reads that are left; only one
that succeeds while the register is found on page `0` takes a value from the queue.

* `SimulatedPhy.Prepared reg left queue p` : `left` reads of the register will succeed, and `queue`
  waits for those of them that find page `0`;
* `Prepared.read_exhausted`, `Prepared.read`, `Prepared.read_other`, `Prepared.after_write` : what one
  frame makes of that;
* `Prepared.after_trace` : **what is left after any trace**, whatever else is read and written;
* `reads_prepared` : **what every read of a prepared register finds**, on every bus and in every run.
-/

namespace EthernetPhy

/-! ### Reads that find page `0` -/

/-- The value that an event reads from a register that is found on page `0`. -/
def Event.standardValue? (phy : PhyAddress) (reg : RegAddress) (page : Word) (e : Event) :
    Option Word :=
  match e.reply? phy reg with
  | some (.ok v) => if bank page reg = Page.standard then some v else none
  | _ => none

/-- The values that are read from a register while it is found on page `0`, in order, at a PHY that
has a page selected before them. -/
def standardValues (phy : PhyAddress) (reg : RegAddress) : Word → List Event → List Word
  | _, [] => []
  | page, e :: es =>
    (e.standardValue? phy reg page).toList ++ standardValues phy reg (e.pageAfter phy page) es

theorem Event.standardValue?_eq_some {phy : PhyAddress} {reg : RegAddress} {page v : Word}
    {e : Event} (h : e.standardValue? phy reg page = some v) :
    e = .got phy reg v ∧ bank page reg = Page.standard := by
  unfold standardValue? at h
  split at h
  · rename_i w hreply
    obtain ⟨q, answer⟩ := e
    cases q with
    | read phy' reg' =>
      obtain ⟨⟨rfl, rfl⟩, hanswer⟩ := Option.ite_none_right_eq_some.1 hreply
      obtain rfl : answer = .ok w := Option.some.inj hanswer
      split_ifs at h with hbank
      cases h
      exact ⟨rfl, hbank⟩
    | _ => cases hreply
  · cases h

/-- Each of these values was read at a moment. -/
theorem exists_of_standardValues {phy : PhyAddress} {reg : RegAddress} {page : Word}
    {es : List Event} {i : Nat} {v : Word} (h : (standardValues phy reg page es)[i]? = some v) :
    ∃ before after, es = before ++ .got phy reg v :: after ∧
      (standardValues phy reg page before).length = i ∧
      bank (before.foldl (Event.pageAfter phy) page) reg = Page.standard := by
  induction es generalizing page i with
  | nil => cases h
  | cons e es ih =>
    rw [standardValues] at h
    cases hvalue : e.standardValue? phy reg page with
    | none =>
      rw [hvalue] at h
      obtain ⟨before, after, rfl, hlen, hbank⟩ := ih h
      exact ⟨e :: before, after, rfl, by rw [standardValues, hvalue]; exact hlen, hbank⟩
    | some w =>
      rw [hvalue] at h
      cases i with
      | zero =>
        obtain rfl : w = v := Option.some.inj h
        obtain ⟨rfl, hbank⟩ := Event.standardValue?_eq_some hvalue
        exact ⟨[], es, rfl, rfl, hbank⟩
      | succ i =>
        obtain ⟨before, after, rfl, hlen, hbank⟩ := ih h
        refine ⟨e :: before, after, rfl, ?_, hbank⟩
        rw [standardValues, hvalue, Option.toList_some, List.singleton_append, List.length_cons, hlen]

theorem writeAll_of_forall_ne {ws : List (Cell × Word)} {cell : Cell} {f : Contents}
    (h : ∀ w ∈ ws, w.1 ≠ cell) : writeAll ws f cell = f cell := by
  induction ws generalizing f with
  | nil => rfl
  | cons w ws ih =>
    obtain ⟨hw, hws⟩ := List.forall_mem_cons.1 h
    exact (ih hws).trans (Function.update_of_ne hw.symm _ _)

namespace SimulatedPhy

variable {a : PhyAddress} {p p' : SimulatedPhy} {reg reg' : RegAddress} {value : Word} {e : Event}
  {es : List Event} {left : Nat} {queue : List Word}

/-! ### One frame -/

/-- A PHY at which `left` reads of a register will succeed, and at which `queue` waits for those of
them that find it on page `0`. -/
structure Prepared (reg : RegAddress) (left : Nat) (queue : List Word) (p : SimulatedPhy) : Prop where
  present : p.isPresent = true
  passes : reg ∉ p.failingReads
  limited : (p.readsLeft.get? reg).map UInt32.toNat = some left
  queued : (p.queued.get? reg).getD [] = queue

/-- The value that the next read of a register gives with `queue` waiting for it, if it succeeds. -/
def nextValue (queue : List Word) (p : SimulatedPhy) (reg : RegAddress) : Word :=
  (if bank p.page reg = Page.standard then queue.head? else none).getD (p.stored reg)

/-- With no reads left a read fails and changes nothing. -/
theorem Prepared.read_exhausted (h : p.Prepared reg 0 queue) :
    p.read reg = (.error .noResponse, p) := by
  obtain ⟨n, hn, hzero⟩ := Option.map_eq_some_iff.1 h.limited
  have hn0 : n = 0 := UInt32.toNat_inj.1 hzero
  rw [SimulatedPhy.read, passRead, if_neg h.passes, hn, hn0]
  rfl

/-- A read that was let through takes the first value of the queue if it finds page `0`. -/
theorem Prepared.answer (h : p.Prepared reg left queue) (hcontrol : reg ≠ Register.bmcr)
    (hselect : reg ≠ Register.pageSelect) :
    (p.answer reg).1 = nextValue queue p reg ∧ (p.answer reg).2.Prepared reg left
      (if bank p.page reg = Page.standard then queue.tail else queue) := by
  rw [SimulatedPhy.answer, h.present, if_neg (by decide), if_neg hselect, nextValue]
  have hqueued := h.queued
  by_cases hbank : bank p.page reg = Page.standard
  · rw [if_pos hbank, if_pos hbank]
    cases queue with
    | nil =>
      rw [takeQueued_eq_none hqueued, if_neg hcontrol]
      exact ⟨rfl, h⟩
    | cons v rest =>
      have hget : p.queued.get? reg = some (v :: rest) := by
        cases hget : p.queued.get? reg with
        | none => rw [hget] at hqueued; cases hqueued
        | some values => rw [hget] at hqueued; exact congrArg some hqueued
      have htaken : p.takeQueued reg =
          some (v, { p with queued := p.queued.insert reg rest }) := by
        rw [takeQueued, if_pos hbank, hget]
      have htail : ((p.queued.insert reg rest).get? reg).getD [] = rest := by
        rw [Table.get?_insert_self, Option.getD_some]
      rw [htaken]
      exact ⟨rfl, h.present, h.passes, h.limited, htail⟩
  · have htaken : p.takeQueued reg = none := by rw [takeQueued, if_neg hbank]
    rw [if_neg hbank, if_neg hbank, htaken, if_neg hcontrol]
    exact ⟨rfl, h⟩

/-- **With reads left a read succeeds and takes one off**; it takes a value from the queue if it finds
page `0`. -/
theorem Prepared.read (h : p.Prepared reg (left + 1) queue) (hcontrol : reg ≠ Register.bmcr)
    (hselect : reg ≠ Register.pageSelect) :
    (p.read reg).1 = .ok (nextValue queue p reg) ∧ (p.read reg).2.Prepared reg left
      (if bank p.page reg = Page.standard then queue.tail else queue) := by
  obtain ⟨n, hn, hsucc⟩ := Option.map_eq_some_iff.1 h.limited
  have hn0 : n ≠ 0 := by
    rintro rfl
    cases hsucc
  have hpass : p.passRead reg = some { p with readsLeft := p.readsLeft.insert reg (n - 1) } := by
    rw [passRead, if_neg h.passes, hn]
    exact if_neg hn0
  have hcount : (n - 1).toNat = left := by
    have hpred := (toNat_pred hn0).1
    omega
  have hpassed : Prepared reg left queue { p with readsLeft := p.readsLeft.insert reg (n - 1) } := by
    refine ⟨h.present, h.passes, ?_, h.queued⟩
    rw [Table.get?_insert_self, Option.map_some, hcount]
  obtain ⟨hvalue, hprepared⟩ := hpassed.answer hcontrol hselect
  rw [SimulatedPhy.read, hpass]
  exact ⟨congrArg Except.ok hvalue, hprepared⟩

theorem Prepared.read_other (h : p.Prepared reg left queue) (hne : reg' ≠ reg) :
    (p.read reg').2.Prepared reg left queue := by
  obtain ⟨hleft, hqueued⟩ := SimulatedPhy.read_other (p := p) hne
  obtain ⟨queued, readsLeft, pending, hread, -⟩ := read_snd p reg'
  rw [hread] at hleft hqueued ⊢
  exact ⟨h.present, h.passes, by rw [hleft]; exact h.limited, by rw [hqueued]; exact h.queued⟩

theorem Prepared.after_write (h : p.Prepared reg left queue) (reg' : RegAddress) (value : Word) :
    (p.write reg' value).2.Prepared reg left queue := by
  have hpresent : (p.write reg' value).2.isPresent = true := by
    unfold SimulatedPhy.write
    split
    · exact h.present
    · exact isPresent_accept h.present
  obtain ⟨registers, page, pending, hwrite, -, -⟩ := write_snd p reg' value
  rw [hwrite] at hpresent ⊢
  exact ⟨hpresent, h.passes, h.limited, h.queued⟩

/-! ### Any number of frames -/

/-- One event takes a read off what is left if it is one of the register, and a value if this read
succeeds and finds page `0`. -/
theorem Prepared.after_event (h : p.Prepared reg left queue) (hcontrol : reg ≠ Register.bmcr)
    (hselect : reg ≠ Register.pageSelect) (hpass : Passes False a p e p') :
    p'.Prepared reg (left - (e.reply? a reg).toList.length)
      (queue.drop (e.standardValue? a reg p.page).toList.length) := by
  -- An event that is no read of the register takes nothing.
  have hnone : ∀ {e : Event} {q : SimulatedPhy}, e.reply? a reg = none → q.Prepared reg left queue →
      q.Prepared reg (left - (e.reply? a reg).toList.length)
        (queue.drop (e.standardValue? a reg p.page).toList.length) := by
    intro e q he hq
    rw [Event.standardValue?, he]
    exact hq
  cases hpass with
  | lost _ hlossy => exact hlossy.elim
  | other _ hphy => exact hnone (reply?_eq_none hphy) h
  | write reg' value => exact hnone rfl (h.after_write reg' value)
  | read reg' =>
    by_cases hreg : reg' = reg
    · subst hreg
      have hreply : Event.reply? a reg' ⟨.read a reg', (p.read reg').1⟩ = some (p.read reg').1 :=
        if_pos ⟨rfl, rfl⟩
      rw [Event.standardValue?, hreply]
      cases left with
      | zero =>
        rw [h.read_exhausted]
        exact h
      | succ left =>
        obtain ⟨hvalue, hprepared⟩ := h.read hcontrol hselect
        rw [hvalue]
        split_ifs at hprepared ⊢ with hbank
        · rw [← List.drop_one] at hprepared
          exact hprepared
        · exact hprepared
    · exact hnone (if_neg fun hsame => hreg hsame.2) (h.read_other hreg)

/-- **After any trace the reads of the register are taken off what was left**, and as many values from
the queue as were read while the register was found on page `0`. -/
theorem Prepared.after_trace (h : p.Prepared reg left queue) (hcontrol : reg ≠ Register.bmcr)
    (hselect : reg ≠ Register.pageSelect) (htrace : Trace False a p es p') :
    p'.Prepared reg (left - (replies a reg es).length)
      (queue.drop (standardValues a reg p.page es).length) := by
  induction htrace generalizing left queue with
  | nil => exact h
  | cons hpass _ ih =>
    have hrest := ih (h.after_event hcontrol hselect hpass)
    rw [hpass.replay.2, List.drop_drop, Nat.sub_sub, ← List.length_append, ← List.length_append,
      ← replies_cons] at hrest
    exact hrest

theorem Trace.contents_eq {lossy : Prop} {cell : Cell} (h : Trace lossy a p es p')
    (hes : ∀ w ∈ landed a p.page es, w.1 ≠ cell) : p'.contents cell = p.contents cell := by
  rw [h.replay.1]
  exact writeAll_of_forall_ne hes

theorem prepared_apply {n : UInt32} {values : List Word} (hpresent : p.isPresent = true)
    (hpasses : reg ∉ p.failingReads) (hqueue : (p.queued.get? reg).getD [] = []) :
    ((p.apply (.failReadsAfter reg n)).apply (.queue reg values)).Prepared reg n.toNat values where
  present := hpresent
  passes := hpasses
  limited := congrArg (Option.map UInt32.toNat) (Table.get?_insert_self _ _ _)
  queued := by
    simp only [apply, Table.get?_insert_self, hqueue, List.nil_append, Option.getD_some]

end SimulatedPhy

/-! ### A run on a simulated bus -/

namespace SimulatedBus

open SimulatedPhy

variable {α : Type}

/-- Each event of a run passes each PHY on the way from one moment to the next. -/
theorem run_passes (x : Program α) (b : Board SimulatedBus) (a : PhyAddress)
    {before after : List Event} {e : Event}
    (h : (x.run bus.machine b).events = before ++ e :: after) :
    Passes False a (b.phyAfter before a) e (b.phyAfter (before ++ [e]) a) := by
  induction x generalizing b before with
  | done result => exact absurd h.symm (by simp)
  | ask q next ih =>
    rw [Program.run_ask] at h
    cases before with
    | nil =>
      obtain ⟨rfl, -⟩ := List.cons.inj h
      exact answer_passes q b a
    | cons first before =>
      obtain ⟨rfl, hrest⟩ := List.cons.inj h
      exact ih _ (bus.machine.answer _ b).2 hrest

theorem countReads_answer (q : Request) (b : Board SimulatedBus) (a : PhyAddress)
    (reg : RegAddress) :
    (bus.machine.answer q b).2.bus.countReads a reg = b.bus.countReads a reg +
      (Event.reply? a reg ⟨q, (bus.machine.answer q b).1⟩).toList.length := by
  cases q with
  | read phy reg' =>
    change ((phy, reg') :: b.bus.readLog).count (a, reg) = b.bus.readLog.count (a, reg) + _
    rw [List.count_cons, Event.reply?]
    by_cases hsame : phy = a ∧ reg' = reg
    · obtain ⟨rfl, rfl⟩ := hsame
      simp
    · simp [hsame]
  | write => rfl
  | delay => rfl
  | log => rfl
  | drive level =>
    change (b.drive level).2.bus.countReads a reg = _
    rw [drive_bus]
    rfl

/-- **Every read of a register is counted**, whether it succeeds or not, and nothing else is. -/
theorem countReads_run (x : Program α) (b : Board SimulatedBus) (a : PhyAddress)
    (reg : RegAddress) :
    (x.run bus.machine b).final.bus.countReads a reg =
      b.bus.countReads a reg + (replies a reg (x.run bus.machine b).events).length := by
  induction x generalizing b with
  | done result => rfl
  | ask q next ih =>
    rw [Program.run_ask]
    dsimp only
    rw [ih, countReads_answer, replies_cons, List.length_append, Nat.add_assoc]

/-- What one read of a run finds at a register that is prepared when the run starts. -/
theorem read_at {x : Program α} {b : Board SimulatedBus} {a : PhyAddress} {reg : RegAddress}
    {left : Nat} {queue : List Word} (h : (b.bus.phy a).Prepared reg left queue)
    (hcontrol : reg ≠ Register.bmcr) (hselect : reg ≠ Register.pageSelect)
    {before after : List Event} {answer : Except BusFault Word}
    (hx : (x.run bus.machine b).events = before ++ ⟨.read a reg, answer⟩ :: after) :
    let p := b.phyAfter before a
    let waiting := queue.drop (standardValues a reg (b.bus.phy a).page before).length
    (p.queued.get? reg).getD [] = waiting ∧
      if (replies a reg before).length < left then answer = .ok (nextValue waiting p reg)
      else answer = .error .noResponse ∧
        ∀ a', b.phyAfter (before ++ [⟨.read a reg, answer⟩]) a' = b.phyAfter before a' := by
  intro p waiting
  have hprepared : p.Prepared reg (left - (replies a reg before).length) waiting :=
    h.after_trace hcontrol hselect (run_trace_before False x b a hx)
  obtain ⟨hanswer, hafter⟩ | ⟨hlossy, -⟩ := (run_passes x b a hx).of_read
  · refine ⟨hprepared.queued, ?_⟩
    split
    · rename_i hcount
      obtain ⟨m, hm⟩ := Nat.exists_eq_succ_of_ne_zero (Nat.sub_ne_zero_of_lt hcount)
      rw [hm] at hprepared
      rw [hanswer, (hprepared.read hcontrol hselect).1]
    · rename_i hcount
      rw [Nat.sub_eq_zero_of_le (Nat.not_lt.1 hcount)] at hprepared
      refine ⟨by rw [hanswer, hprepared.read_exhausted], fun a' => ?_⟩
      by_cases ha : a' = a
      · rw [ha, hafter, hprepared.read_exhausted]
      · exact (run_passes x b a' hx).of_other fun hphy => ha (Option.some.inj hphy).symm
  · exact hlossy.elim

/-- The values that are read on page `0` are those of the queue in order, and then the stored one. -/
theorem standardValues_run {x : Program α} {b : Board SimulatedBus} {a : PhyAddress}
    {reg : RegAddress} {left : Nat} {queue : List Word}
    (h : (b.bus.phy a).Prepared reg left queue) (hcontrol : reg ≠ Register.bmcr)
    (hselect : reg ≠ Register.pageSelect)
    (hes : ∀ w ∈ landed a (b.bus.phy a).page (x.run bus.machine b).events,
      w.1 ≠ (Page.standard, reg)) {i : Nat} {v : Word}
    (hv : (standardValues a reg (b.bus.phy a).page (x.run bus.machine b).events)[i]? = some v) :
    v = queue[i]?.getD (((b.bus.phy a).contents (Page.standard, reg)).getD 0) := by
  obtain ⟨before, after, hx, rfl, hbank⟩ := exists_of_standardValues hv
  have htrace := run_trace_before False x b a hx
  obtain ⟨-, hread⟩ := read_at h hcontrol hselect hx
  have hvalue : v = nextValue
      (queue.drop (standardValues a reg (b.bus.phy a).page before).length) (b.phyAfter before a)
      reg := by
    split at hread
    · exact Except.ok.inj hread
    · cases hread.1
  have hbefore : ∀ w ∈ landed a (b.bus.phy a).page before, w.1 ≠ (Page.standard, reg) := by
    rw [hx, landed_append] at hes
    exact fun w hw => hes w (List.mem_append_left _ hw)
  rw [← htrace.replay.2] at hbank
  rw [hvalue, nextValue, if_pos hbank, List.head?_drop, stored, hbank]
  exact congrArg (fun stored => Option.getD _ (Option.getD stored 0)) (htrace.contents_eq hbefore)

/-- **What every read of a prepared register finds**, with any register but basic mode control and the
page select, at a PHY that is there and does not refuse to read it.  Reads of it are made to fail after
`n` of them, and values are queued for it where none were; then any program runs.

* Each of its reads succeeds or fails by the number of reads before it, on whichever page and of
  whichever result: the first `n` succeed, and the others fail and change nothing at any PHY.  One that
  succeeds gives the next value of the queue if it finds page `0` and the queue holds one, and what is
  stored then otherwise; only those before it that found page `0` have taken values from the queue.
* If no write of the register on page `0` lands, the reads that find page `0` and succeed give the
  queued values in order and then the value that was stored at the start.
* All of its reads are counted, the failed ones included. -/
theorem reads_prepared (b : Board SimulatedBus) (a : PhyAddress) (reg : RegAddress) (n : UInt32)
    (values : List Word) (x : Program α) (hpresent : (b.bus.phy a).isPresent = true)
    (hcontrol : reg ≠ Register.bmcr) (hselect : reg ≠ Register.pageSelect)
    (hpasses : reg ∉ (b.bus.phy a).failingReads)
    (hqueue : ((b.bus.phy a).queued.get? reg).getD [] = []) :
    let start : Board SimulatedBus :=
      { b with bus := (b.bus.apply a (.failReadsAfter reg n)).apply a (.queue reg values) }
    let out := x.run bus.machine start
    let page := (b.bus.phy a).page
    (∀ before after answer, out.events = before ++ ⟨.read a reg, answer⟩ :: after →
      let p := start.phyAfter before a
      let waiting := values.drop (standardValues a reg page before).length
      (p.queued.get? reg).getD [] = waiting ∧
        if (replies a reg before).length < n.toNat then answer = .ok (nextValue waiting p reg)
        else answer = .error .noResponse ∧
          ∀ a', start.phyAfter (before ++ [⟨.read a reg, answer⟩]) a' = start.phyAfter before a') ∧
    ((∀ w ∈ landed a page out.events, w.1 ≠ (Page.standard, reg)) →
      ∀ (i : Nat) (v : Word), (standardValues a reg page out.events)[i]? = some v →
        v = values[i]?.getD (((b.bus.phy a).contents (Page.standard, reg)).getD 0)) ∧
    out.final.bus.countReads a reg =
      b.bus.countReads a reg + (replies a reg out.events).length := by
  intro start out page
  have hphy : start.bus.phy a =
      ((b.bus.phy a).apply (.failReadsAfter reg n)).apply (.queue reg values) := by
    simp only [start, SimulatedBus.apply, phy_setPhy_self]
  have hprepared : (start.bus.phy a).Prepared reg n.toNat values :=
    hphy ▸ prepared_apply hpresent hpasses hqueue
  have hpage : (start.bus.phy a).page = page := by rw [hphy]; rfl
  have hcontents : (start.bus.phy a).contents = (b.bus.phy a).contents := by rw [hphy]; rfl
  refine ⟨fun before after answer hx => ?_, fun hes i v hv => ?_, countReads_run x start a reg⟩
  · rw [← hpage]
    exact read_at hprepared hcontrol hselect hx
  · rw [← hpage] at hes hv
    rw [← hcontents]
    exact standardValues_run hprepared hcontrol hselect hes hv

/-- Of the reads of two PHYs four are let through, one of them on another page, where the register is
also written; the queue holds two values. -/
theorem reads_prepared_four :
    let reg := Register.rxDelay
    let b : Board SimulatedBus := { bus :=
      (((({} : SimulatedBus).apply 0 .powerUp).apply 0 (.register Page.standard reg 5)).apply 1
        .powerUp) }
    let x : Program Unit := do
      let _ ← (BusM.read 0 reg).run
      let _ ← (BusM.read 1 reg).run
      let _ ← (BusM.write 0 Register.pageSelect Page.clockDelay).run
      let _ ← (BusM.read 0 reg).run
      let _ ← (BusM.write 0 reg 9).run
      let _ ← (BusM.write 0 Register.pageSelect Page.standard).run
      let _ ← (BusM.read 0 reg).run
      let _ ← (BusM.read 0 reg).run
      let _ ← (BusM.read 0 reg).run
      let _ ← (BusM.read 0 reg).run
    let start : Board SimulatedBus :=
      { b with bus := (b.bus.apply 0 (.failReadsAfter reg 4)).apply 0 (.queue reg [7, 8]) }
    let out := x.run bus.machine start
    ((b.bus.phy 0).isPresent = true ∧ reg ≠ Register.bmcr ∧ reg ≠ Register.pageSelect ∧
      reg ∉ (b.bus.phy 0).failingReads ∧ ((b.bus.phy 0).queued.get? reg).getD [] = [] ∧
      ∀ w ∈ landed 0 Page.standard out.events, w.1 ≠ (Page.standard, reg)) ∧
    replies 0 reg out.events =
      [.ok 7, .ok ClockDelayBit.rx, .ok 8, .ok 5, .error .noResponse, .error .noResponse] ∧
    standardValues 0 reg Page.standard out.events = [7, 8, 5] ∧
    (∀ (i : Nat) (v : Word), (standardValues 0 reg Page.standard out.events)[i]? = some v →
      v = [7, 8][i]?.getD 5) ∧
    out.final.bus.countReads 0 reg = 0 + 6 := by
  intro reg b x start out
  have hpresent : (b.bus.phy 0).isPresent = true := by decide +kernel
  have hpasses : reg ∉ (b.bus.phy 0).failingReads := by decide +kernel
  have hqueue : ((b.bus.phy 0).queued.get? reg).getD [] = [] := by decide +kernel
  have hlanded : landed 0 Page.standard out.events = [((Page.clockDelay, reg), 9)] := by
    decide +kernel
  have hes : ∀ w ∈ landed 0 Page.standard out.events, w.1 ≠ (Page.standard, reg) := by
    rw [hlanded]
    exact List.forall_mem_singleton.2 (by decide)
  have hreplies : replies 0 reg out.events =
      [.ok 7, .ok ClockDelayBit.rx, .ok 8, .ok 5, .error .noResponse, .error .noResponse] := by
    decide +kernel
  obtain ⟨-, hvalues, hcount⟩ := reads_prepared b 0 reg 4 [7, 8] x hpresent (by decide) (by decide)
    hpasses hqueue
  refine ⟨⟨hpresent, by decide, by decide, hpasses, hqueue, hes⟩, hreplies, by decide +kernel,
    hvalues hes, ?_⟩
  rw [hcount, hreplies]
  rfl

end SimulatedBus

end EthernetPhy
