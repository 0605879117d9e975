import EthernetPhy.Paged
import EthernetPhy.Program.Laws
import EthernetPhy.Proofs.Events

/-!
# What a program does on every machine

A program is a tree of requests, and a run on a machine is one path through it.  A property of all
paths therefore holds of the run on every machine from every state, and it can be read off the tree
without one.

* `Program.Ensures p post` : however its requests are answered, `p` ends with events and a result
  that satisfy `post`.
* `Program.ensures_bind`, `PhyM.ensures_bind`, `RecordM.ensures_bind` : the events of a sequence are
  those of the first part followed by those of the second.
* `Program.Ensures.run` : what a program ensures holds of its run on every machine.
* `Program.Asks allowed p` : `p` makes no requests but those that are `allowed`.
* `Program.run_simulates` : two machines that answer alike cannot be told apart.
-/

namespace EthernetPhy

open Event

namespace Program

variable {α β σ : Type} {p : Program α} {post post' : List Event → α → Prop}

/-- However its requests are answered, `p` ends with events and a result that satisfy `post`. -/
def Ensures : Program α → (List Event → α → Prop) → Prop
  | done a, post => post [] a
  | ask q next, post => ∀ answer, (next answer).Ensures fun es a => post (⟨q, answer⟩ :: es) a

@[simp] theorem ensures_done {a : α} : (done a).Ensures post ↔ post [] a := Iff.rfl

@[simp] theorem ensures_ask {q : Request} {next : q.Answer → Program α} :
    (ask q next).Ensures post ↔
      ∀ answer, (next answer).Ensures fun es a => post (⟨q, answer⟩ :: es) a := Iff.rfl

theorem Ensures.mono (h : p.Ensures post) (hpost : ∀ es a, post es a → post' es a) :
    p.Ensures post' := by
  induction p generalizing post post' with
  | done a => exact hpost _ _ h
  | ask q next ih => exact fun answer => ih answer (h answer) fun es a => hpost _ a

theorem Ensures.and (h : p.Ensures post) (h' : p.Ensures post') :
    p.Ensures fun es a => post es a ∧ post' es a := by
  induction p generalizing post post' with
  | done a => exact ⟨h, h'⟩
  | ask q next ih => exact fun answer => ih answer (h answer) (h' answer)

theorem Ensures.of_forall (h : ∀ es a, post es a) : p.Ensures post := by
  induction p generalizing post with
  | done a => exact h _ _
  | ask q next ih => exact fun answer => ih answer fun es => h _

theorem Ensures.forall {ι : Type} {post : ι → List Event → α → Prop}
    (h : ∀ i, p.Ensures (post i)) : p.Ensures fun es a => ∀ i, post i es a := by
  induction p generalizing post with
  | done a => exact h
  | ask q next ih => exact fun answer => ih answer fun i => h i answer

/-- The events of a sequence are those of its first part followed by those of its second. -/
theorem ensures_bind {f : α → Program β} {post : List Event → β → Prop} :
    (p >>= f).Ensures post ↔
      p.Ensures fun es a => (f a).Ensures fun es' b => post (es ++ es') b := by
  induction p generalizing post with
  | done a => rfl
  | ask q next ih => exact forall_congr' fun answer => ih answer

@[simp] theorem ensures_map {f : α → β} {post : List Event → β → Prop} :
    (f <$> p).Ensures post ↔ p.Ensures fun es a => post es (f a) := by
  induction p generalizing post with
  | done a => rfl
  | ask q next ih => exact forall_congr' fun answer => ih answer

theorem Ensures.bind {f : α → Program β} {spec : List Event → α → Prop}
    {post : List Event → β → Prop} (hp : p.Ensures spec)
    (hf : ∀ es a, spec es a → (f a).Ensures fun es' b => post (es ++ es') b) :
    (p >>= f).Ensures post :=
  ensures_bind.2 (hp.mono hf)

/-- **What a program ensures holds of its run on every machine**, from every state. -/
theorem Ensures.run (h : p.Ensures post) (m : Machine σ) (s : σ) :
    post (p.run m s).events (p.run m s).result := by
  induction p generalizing post s with
  | done a => exact h
  | ask q next ih =>
    rw [run_ask]
    exact ih _ (h _) _

end Program

/-! ### Operations that may fail -/

namespace PhyM

variable {α β : Type} {x : PhyM α} {f : α → PhyM β}

/-- A sequence of operations is dealt with in two steps, with the faults of the first one apart. -/
theorem ensures_bind {spec : List Event → Except Fault α → Prop}
    {post : List Event → Except Fault β → Prop} (hx : x.run.Ensures spec)
    (hok : ∀ es a, spec es (.ok a) → (f a).run.Ensures fun es' out => post (es ++ es') out)
    (herr : ∀ es e, spec es (.error e) → post es (.error e)) :
    (x >>= f).run.Ensures post := by
  rw [ExceptT.run_bind]
  refine hx.bind fun es out h => ?_
  obtain e | a := out
  · change post (es ++ []) (.error e)
    rw [List.append_nil]
    exact herr es e h
  · exact hok es a h

theorem ensures_read_bind {phy : PhyAddress} {reg : RegAddress} {f : Word → PhyM β}
    {post : List Event → Except Fault β → Prop} :
    (liftM (BusM.read phy reg) >>= f).run.Ensures post ↔
      (∀ c, post [lost phy reg c] (.error (.bus c))) ∧
        ∀ v, (f v).run.Ensures fun es out => post (got phy reg v :: es) out := by
  simp only [ExceptT.run_bind, run_liftM_bus, BusM.run_read, Program.map_ask, Program.map_done,
    Program.ask_bind, Program.ensures_ask]
  refine ⟨fun h => ⟨fun c => h (.error c), fun v => h (.ok v)⟩, ?_⟩
  rintro h (c | v)
  · exact h.1 c
  · exact h.2 v

end PhyM

/-! ### Operations with a record -/

namespace RecordM

variable {α β : Type} {x : RecordM α} {f : α → RecordM β} {r : PhyRecord}

/-- A sequence of operations is dealt with in two steps, with the faults of the first one apart. -/
theorem ensures_bind {spec : List Event → Except Fault α × PhyRecord → Prop}
    {post : List Event → Except Fault β × PhyRecord → Prop} (hx : (x.runOn r).Ensures spec)
    (hok : ∀ es a r', spec es (.ok a, r') →
      ((f a).runOn r').Ensures fun es' out => post (es ++ es') out)
    (herr : ∀ es e r', spec es (.error e, r') → post es (.error e, r')) :
    ((x >>= f).runOn r).Ensures post := by
  rw [runOn_bind]
  refine hx.bind fun es out h => ?_
  obtain ⟨e | a, r'⟩ := out
  · rw [Program.ensures_done, List.append_nil]
    exact herr es e r' h
  · exact hok es a r' h

theorem runOn_get_bind {f : PhyRecord → RecordM β} : (get >>= f).runOn r = (f r).runOn r := by
  rw [runOn_bind]
  rfl

theorem ensures_read_bind {phy : PhyAddress} {reg : RegAddress} {f : Word → RecordM β}
    {post : List Event → Except Fault β × PhyRecord → Prop} :
    ((liftM (BusM.read phy reg) >>= f).runOn r).Ensures post ↔
      (∀ c, post [lost phy reg c] (.error (.bus c), r)) ∧
        ∀ v, ((f v).runOn r).Ensures fun es out => post (got phy reg v :: es) out := by
  simp only [runOn_bind, runOn_liftM_bus, BusM.run_read, Program.map_ask, Program.map_done,
    Program.ask_bind, Program.ensures_ask]
  refine ⟨fun h => ⟨fun c => h (.error c), fun v => h (.ok v)⟩, ?_⟩
  rintro h (c | v)
  · exact h.1 c
  · exact h.2 v

theorem ensures_log_bind {message : Message} {f : Unit → RecordM β}
    {post : List Event → Except Fault β × PhyRecord → Prop} :
    ((liftM (Program.log message) >>= f).runOn r).Ensures post ↔
      ((f ()).runOn r).Ensures fun es out => post (logged message :: es) out := by
  rw [runOn_bind, runOn_liftM_program]
  exact ⟨fun h => h (), fun h _ => h⟩

theorem ensures_sleep_bind {duration : UInt32} {f : Unit → RecordM β}
    {post : List Event → Except Fault β × PhyRecord → Prop} :
    ((liftM (Program.sleep duration) >>= f).runOn r).Ensures post ↔
      ((f ()).runOn r).Ensures fun es out => post (slept duration :: es) out := by
  rw [runOn_bind, runOn_liftM_program]
  exact ⟨fun h => h (), fun h _ => h⟩

/-- An operation that does not use the record, followed by one that does. -/
theorem ensures_liftM_bind {x : PhyM α} {spec : List Event → Except Fault α → Prop}
    {post : List Event → Except Fault β × PhyRecord → Prop} (hx : x.run.Ensures spec)
    (hok : ∀ es a, spec es (.ok a) →
      ((f a).runOn r).Ensures fun es' out => post (es ++ es') out)
    (herr : ∀ es e, spec es (.error e) → post es (.error e, r)) :
    ((liftM x >>= f).runOn r).Ensures post := by
  have hlift : ((liftM x : RecordM α).runOn r).Ensures fun es out => spec es out.1 ∧ out.2 = r := by
    rw [runOn_liftM_phy, Program.ensures_map]
    exact hx.mono fun es a h => ⟨h, rfl⟩
  refine ensures_bind hlift (fun es a r' h => ?_) (fun es e r' h => ?_)
  · obtain ⟨h, rfl⟩ := h
    exact hok es a h
  · obtain ⟨h, rfl⟩ := h
    exact herr es e h

theorem ensures_return {f : α → β} (post : List Event → PhyRecord → Prop)
    (h : (x.runOn r).Ensures fun es out => post es out.2) :
    ((do return f (← x) : RecordM β).runOn r).Ensures fun es out => post es out.2 := by
  refine ensures_bind h (fun es a r' hes => ?_) fun es e r' hes => hes
  rwa [runOn_pure, Program.ensures_done, List.append_nil]

end RecordM

/-! ### What a program asks -/

section

variable {α β : Type} {allowed : Request → Prop}

/-- Every request that a program may make is allowed. -/
def Program.Asks (allowed : Request → Prop) (p : Program α) : Prop :=
  p.Ensures fun es _ => ∀ e ∈ es, allowed e.request

namespace Program.Asks

variable {p : Program α} {f : α → Program β}

theorem done {a : α} : (Program.done a).Asks allowed := List.forall_mem_nil _

theorem ask {q : Request} {next : q.Answer → Program α} (hq : allowed q)
    (h : ∀ answer, (next answer).Asks allowed) : (Program.ask q next).Asks allowed :=
  fun answer => (h answer).mono fun _ _ hes => List.forall_mem_cons.2 ⟨hq, hes⟩

theorem bind (hp : p.Asks allowed) (hf : ∀ a, (f a).Asks allowed) : (p >>= f).Asks allowed :=
  Ensures.bind hp fun _ a h => (hf a).mono fun _ _ h' => List.forall_mem_append.2 ⟨h, h'⟩

theorem map {f : α → β} (hp : p.Asks allowed) : (f <$> p).Asks allowed :=
  ensures_map.2 hp

theorem mono {allowed' : Request → Prop} (hp : p.Asks allowed) (h : ∀ q, allowed q → allowed' q) :
    p.Asks allowed' :=
  Ensures.mono hp fun _ _ hes e he => h _ (hes e he)

-- There is a first request only on a machine, which has an answer to everything.
theorem first {σ : Type} {q : Request} {next : q.Answer → Program α}
    (hp : (Program.ask q next).Asks allowed) (m : Machine σ) (s : σ) : allowed q :=
  hp.run m s ⟨q, (m.answer q s).1⟩ (by simp)

theorem rest {q : Request} {next : q.Answer → Program α} (hp : (Program.ask q next).Asks allowed)
    (answer : q.Answer) : (next answer).Asks allowed :=
  Ensures.mono (hp answer) fun _ _ hes => (List.forall_mem_cons.1 hes).2

end Program.Asks

/-- **Two machines that answer alike, and stay related as they do so, cannot be told apart** by a
program that asks nothing else. -/
theorem Program.run_simulates {σ τ : Type} {m : Machine σ} {m' : Machine τ} {R : σ → τ → Prop}
    (hanswer : ∀ q, allowed q → ∀ s s', R s s' →
      (m.answer q s).1 = (m'.answer q s').1 ∧ R (m.answer q s).2 (m'.answer q s').2)
    {p : Program α} (hp : p.Asks allowed) {s : σ} {s' : τ} (h : R s s') :
    (p.run m s).result = (p.run m' s').result ∧ (p.run m s).events = (p.run m' s').events ∧
      R (p.run m s).final (p.run m' s').final := by
  induction p generalizing s s' with
  | done a => exact ⟨rfl, rfl, h⟩
  | ask q next ih =>
    obtain ⟨hsame, hrelated⟩ := hanswer q (hp.first m s) s s' h
    obtain ⟨hresult, hevents, hfinal⟩ := ih _ (hp.rest _) hrelated
    rw [run_ask, run_ask, ← hsame]
    exact ⟨hresult, congrArg _ hevents, hfinal⟩

theorem Program.asks_run_bind {ε : Type} {x : ExceptT ε Program α} {f : α → ExceptT ε Program β}
    (hx : x.run.Asks allowed) (hf : ∀ a, (f a).run.Asks allowed) :
    (x >>= f).run.Asks allowed := by
  rw [ExceptT.run_bind]
  refine hx.bind fun result => ?_
  cases result with
  | error e => exact .done
  | ok a => exact hf a

namespace BusM

variable {phy : PhyAddress} {reg : RegAddress}

theorem asks_write {value : Word} (h : allowed (.write phy reg value)) :
    (write phy reg value).run.Asks allowed := .ask h fun _ => .done

theorem asks_modify {clear set : Word} (hread : allowed (.read phy reg))
    (hwrite : ∀ value : Word, allowed (.write phy reg (value.update clear set))) :
    (modify phy reg clear set).run.Asks allowed :=
  Program.asks_run_bind (.ask hread fun _ => .done) fun _ => asks_write (hwrite _)

theorem asks_withinPage {page : Word} {body : BusM α}
    (hselect : ∀ page, allowed (.write phy Register.pageSelect page))
    (h : body.run.Asks allowed) : (withinPage phy page body).run.Asks allowed := by
  rw [run_withinPage]
  refine .ask (hselect page) fun selected => ?_
  cases selected with
  | error c => exact .done
  | ok => exact h.bind fun result => .ask (hselect _) fun _ => .done

end BusM

namespace PhyM

/-- Every request that an operation may make is allowed. -/
def Asks (allowed : Request → Prop) (x : PhyM α) : Prop := x.run.Asks allowed

theorem Asks.ensures {x : PhyM α} {post : List Event → Except Fault α → Prop} (hx : Asks allowed x)
    (h : ∀ es result, (∀ e ∈ es, allowed e.request) → post es result) : x.run.Ensures post :=
  Program.Ensures.mono hx h

theorem Asks.mono {x : PhyM α} {allowed' : Request → Prop} (hx : Asks allowed x)
    (h : ∀ q, allowed q → allowed' q) : Asks allowed' x :=
  Program.Asks.mono hx h

theorem asks_pure {a : α} : Asks allowed (pure a : PhyM α) := .done

theorem asks_bind {x : PhyM α} {f : α → PhyM β} (hx : Asks allowed x)
    (hf : ∀ a, Asks allowed (f a)) : Asks allowed (x >>= f) :=
  Program.asks_run_bind hx hf

theorem asks_bus {x : BusM α} (hx : x.run.Asks allowed) : Asks allowed (liftM x : PhyM α) := by
  rw [Asks, run_liftM_bus]
  exact hx.map

theorem asks_program {x : Program α} (hx : x.Asks allowed) : Asks allowed (liftM x : PhyM α) := by
  rw [Asks, run_liftM_program]
  exact hx.map

theorem asks_read {phy : PhyAddress} {reg : RegAddress} (h : allowed (.read phy reg)) :
    Asks allowed (liftM (BusM.read phy reg) : PhyM Word) :=
  .ask h fun _ => .done

end PhyM

namespace RecordM

/-- Every request that an operation may make is allowed, from every record. -/
def Asks (allowed : Request → Prop) (x : RecordM α) : Prop := ∀ r, (x.runOn r).Asks allowed

theorem asks_pure {a : α} : Asks allowed (pure a : RecordM α) := fun _ => .done

theorem asks_bind {x : RecordM α} {f : α → RecordM β} (hx : Asks allowed x)
    (hf : ∀ a, Asks allowed (f a)) : Asks allowed (x >>= f) := by
  intro r
  rw [runOn_bind]
  refine (hx r).bind fun out => ?_
  obtain ⟨e | a, r'⟩ := out
  · exact .done
  · exact hf a r'

theorem asks_phy {x : PhyM α} (hx : PhyM.Asks allowed x) :
    Asks allowed (liftM x : RecordM α) := by
  intro r
  rw [runOn_liftM_phy]
  exact Program.Asks.map hx

end RecordM

end

/-! ### Operations that fail by a frame only -/

/-- The result is no fault but that of a frame. -/
def OnlyBusFaults {α : Type} (result : Except Fault α) : Prop :=
  ∀ f, result = .error f → ∃ c, f = .bus c

theorem onlyBusFaults_bus {α : Type} (c : BusFault) :
    OnlyBusFaults (.error (.bus c) : Except Fault α) :=
  fun _ hf => ⟨c, (Except.error.inj hf).symm⟩

namespace PhyM

variable {α β : Type}

/-- Only a frame can make an operation fail. -/
def FailsByFrame (x : PhyM α) : Prop := x.run.Ensures fun _ result => OnlyBusFaults result

theorem failsByFrame_bus {x : BusM α} : FailsByFrame (liftM x : PhyM α) := by
  rw [FailsByFrame, run_liftM_bus, Program.ensures_map]
  refine .of_forall fun es result => ?_
  cases result with
  | ok a => exact nofun
  | error c => exact onlyBusFaults_bus c

theorem failsByFrame_program {x : Program α} : FailsByFrame (liftM x : PhyM α) := by
  rw [FailsByFrame, run_liftM_program, Program.ensures_map]
  exact .of_forall fun _ _ => nofun

theorem failsByFrame_bind {x : PhyM α} {f : α → PhyM β} (hx : FailsByFrame x)
    (hf : ∀ a, FailsByFrame (f a)) : FailsByFrame (x >>= f) := by
  refine ensures_bind hx (fun es a _ => hf a) (fun es f h => ?_)
  obtain ⟨c, rfl⟩ := h f rfl
  exact onlyBusFaults_bus c

end PhyM

end EthernetPhy
