/-
  AgentResilience.System — the whole system: any number of operations over one SQLite
  store, interleaved call by call. A `World` is the store, the clock and the journal of
  what each thread did, newest first. Every call happens at some time at or after the
  previous one; a store call does what the store does, and the outside (engine, backend,
  AWS) answers anything.

  An `Env` restricts what is looked at: which answers of which calls are considered
  (`allows`), which operations may start (`starts`) and when a thread may die (`dies`).
  `Env.free` restricts nothing: every interleaving, lapsed lease, crash and answer.
  `player` runs a written schedule.
-/
import AgentResilience.Lib.Concurrent
import AgentResilience.Worker

namespace AgentResilience

open Interaction

abbrev ThreadId := Nat

inductive Entry where
  | began (i : ThreadId) (op : Operation)
  | did (i : ThreadId) (c : Call) (r : Except PyError c.Ret)
  | ended (i : ThreadId) (o : Except PyError Reply)
  | died (i : ThreadId)

def Entry.thread : Entry → ThreadId
  | began i _ | did i _ _ | ended i _ | died i => i

structure World where
  store : SQLiteStore
  now : Timestamp
  journal : List Entry

def World.init : World := ⟨.empty, 0, []⟩

structure Env where
  allows : ThreadId → World → (c : Call) → Except PyError c.Ret → Prop := fun _ _ _ _ => True
  starts : ThreadId → World → Operation → Prop := fun _ _ _ => True
  dies : ThreadId → World → Prop := fun _ _ => True

def Env.free : Env := {}

def Env.crashFree : Env where
  dies _ _ := False

/-- What a call answers and what it makes of the store. -/
def Effect : (c : Call) → SQLiteStore → Timestamp → Except PyError c.Ret → SQLiteStore → Prop
  | .store c, s, now, r, s' => c.apply s now = (r, s')
  | .clock, s, now, r, s' => r = .ok now ∧ s' = s
  | .awaitHeartbeat, s, _, r, s' => r = .ok () ∧ s' = s
  | .decide _, s, _, _, s' => s' = s
  | .takeUsage, s, _, _, s' => s' = s
  | .execute .., s, _, _, s' => s' = s
  | .aws _, s, _, _, s' => s' = s

/-- One call of thread `i`: the clock moves on, the call takes effect, the journal grows. -/
def calls (env : Env) (i : ThreadId) : Service Call Call.Ret PyError World := fun c w r w' =>
  ∃ t s', w.now ≤ t ∧ env.allows i { w with now := t } c r ∧ Effect c w.store t r s' ∧
    w' = ⟨s', t, .did i c r :: w.journal⟩

def system (rt : WorkflowRuntime) (config : Settings) (env : Env) :
    System ThreadId Call Call.Ret PyError Reply World where
  sem := calls env
  enter i p w w' := ∃ op, p = op.program rt config ∧ env.starts i w op ∧ w' = { w with journal := .began i op :: w.journal }
  leave i o w w' := w' = { w with journal := .ended i o :: w.journal }
  crash i w w' := env.dies i w ∧ w' = { w with journal := .died i :: w.journal }

abbrev Cfg := Config ThreadId Call Call.Ret PyError Reply World

/-- The configurations the system reaches from an empty store. -/
abbrev Reachable (rt : WorkflowRuntime) (config : Settings) (env : Env) : Cfg → Prop :=
  Reach (system rt config env) World.init

/-! ## Reading the journal -/

/-- What a journal entry says of the delivery thread `i` works on, if it says anything. -/
def Entry.delivers (i : ThreadId) : Entry → Option (Option QueueDelivery)
  | began j _ => if j = i then some none else none
  | did j (.store (.claim ..)) (.ok delivery) => if j = i then some delivery else none
  | _ => none

/-- What the newest entry that says anything says. -/
def latest {α : Type} (f : Entry → Option (Option α)) (journal : List Entry) : Option α := (journal.findSome? f).join

theorem latest_cons {α : Type} (f : Entry → Option (Option α)) (e : Entry) (journal : List Entry) :
    latest f (e :: journal) = (f e).getD (latest f journal) := by
  unfold latest
  rw [List.findSome?_cons]
  cases f e <;> rfl

/-- The delivery thread `i` claimed, in the operation it runs or ran last. -/
def delivering (i : ThreadId) : List Entry → Option QueueDelivery := latest (Entry.delivers i)

theorem delivering_cons (i : ThreadId) (e : Entry) (journal : List Entry) :
    delivering i (e :: journal) = (e.delivers i).getD (delivering i journal) := latest_cons ..

theorem delivers_other {i j : ThreadId} (h : j ≠ i) (c : Call) (r : Except PyError c.Ret) :
    (Entry.did j c r).delivers i = none := by
  unfold Entry.delivers
  split <;> simp_all

@[simp] theorem delivering_began (i : ThreadId) (op : Operation) (journal : List Entry) :
    delivering i (.began i op :: journal) = none := by
  rw [delivering_cons]; simp [Entry.delivers]

theorem delivering_began_other {i j : ThreadId} (h : j ≠ i) (op : Operation) (journal : List Entry) :
    delivering i (.began j op :: journal) = delivering i journal := by
  rw [delivering_cons]; simp [Entry.delivers, h]

@[simp] theorem delivering_ended (i j : ThreadId) (o : Except PyError Reply) (journal : List Entry) :
    delivering i (.ended j o :: journal) = delivering i journal := rfl

@[simp] theorem delivering_died (i j : ThreadId) (journal : List Entry) :
    delivering i (.died j :: journal) = delivering i journal := rfl

theorem delivering_did_other {i j : ThreadId} (h : j ≠ i) (c : Call) (r : Except PyError c.Ret) (journal : List Entry) :
    delivering i (.did j c r :: journal) = delivering i journal := by
  rw [delivering_cons, delivers_other h]; rfl

/-- A call that is no claim. -/
def Call.keepsDelivery : Call → Bool
  | .store (.claim ..) => false
  | _ => true

theorem delivering_did {i : ThreadId} {c : Call} (h : c.keepsDelivery = true) (r : Except PyError c.Ret)
    (journal : List Entry) : delivering i (.did i c r :: journal) = delivering i journal := by
  rw [delivering_cons]
  unfold Entry.delivers
  split
  · simp_all
  · simp_all [Call.keepsDelivery]
  · rfl

/-- The validated arguments a journal entry's decision asks for. -/
def Entry.asks : Entry → Option Arguments
  | did _ (.decide _) (.ok decision) =>
    decision.asked.bind fun tool => (validateAndDecide tool decision.arguments.modelDump).toOption.map (·.1)
  | _ => none

/-- The arguments that occur in a run. -/
def occurring (journal : List Entry) : List Arguments := journal.filterMap Entry.asks

/-- Every step writes one entry. -/
theorem step_journal {rt : WorkflowRuntime} {config : Settings} {env : Env} {cfg cfg' : Cfg}
    (h : Step (system rt config env) cfg cfg') : ∃ e, cfg'.state.journal = e :: cfg.state.journal := by
  cases h with
  | enter _ he => obtain ⟨op, -, -, rfl⟩ := he; exact ⟨_, rfl⟩
  | call _ hs => obtain ⟨t, s', -, -, -, rfl⟩ := hs; exact ⟨_, rfl⟩
  | leave _ _ hl => obtain rfl := hl; exact ⟨_, rfl⟩
  | crash _ hx => obtain ⟨-, rfl⟩ := hx; exact ⟨_, rfl⟩

/-- The entry is a call's. -/
def Entry.isCall : Entry → Bool
  | did .. => true
  | _ => false

/-- What holds of the empty world, and is kept by every call and by the entries of a thread's
    beginning and end, holds of every world reached. -/
theorem reachable_world {rt : WorkflowRuntime} {config : Settings} {env : Env} {P : World → Prop} (hinit : P World.init)
    (hbound : ∀ w e, P w → e.isCall = false → P { w with journal := e :: w.journal })
    (hcall : ∀ cfg i c k r w', Reachable rt config env cfg → P cfg.state → cfg.pool i = some (.call c k) →
      calls env i c cfg.state r w' → P w') {cfg : Cfg} (h : Reachable rt config env cfg) : P cfg.state := by
  induction h with
  | init => exact hinit
  | step hr hs ih =>
    cases hs with
    | enter _ he => obtain ⟨op, -, -, rfl⟩ := he; exact hbound _ _ ih rfl
    | call hp hc => exact hcall _ _ _ _ _ _ hr ih hp hc
    | leave _ _ hl => obtain rfl := hl; exact hbound _ _ ih rfl
    | crash _ hx => obtain ⟨-, rfl⟩ := hx; exact hbound _ _ ih rfl

/-- A later configuration of the same run. -/
abbrev Run (rt : WorkflowRuntime) (config : Settings) (env : Env) : Cfg → Cfg → Prop :=
  Relation.ReflTransGen (Step (system rt config env))

/-! ## Written schedules -/

/-- The outside's part of a call's answer: the time, and what engine or backend answers. -/
inductive Answer where
  | ok (t : Timestamp)
  | decision (t : Timestamp) (d : Except PyError AgentDecision)
  | usage (t : Timestamp) (u : Nat × Nat)
  | result (t : Timestamp) (r : Except PyError Json)
  | service (t : Timestamp) (r : EcsService)

def Answer.time : Answer → Timestamp
  | ok t | decision t _ | usage t _ | result t _ | service t _ => t

def respond : (c : Call) → Answer → SQLiteStore → Option (Except PyError c.Ret × SQLiteStore)
  | .store c, x, s => some (c.apply s x.time)
  | .clock, x, s => some (.ok x.time, s)
  | .awaitHeartbeat, _, s => some (.ok (), s)
  | .decide _, .decision _ d, s => some (d, s)
  | .takeUsage, .usage _ u, s => some (.ok u, s)
  | .execute .., .result _ r, s => some (r, s)
  | .aws (.updateService ..), .service _ r, s => some (.ok r, s)
  | _, _, _ => none

theorem respond_sound {c : Call} {x : Answer} {s s' : SQLiteStore} {r : Except PyError c.Ret}
    (h : respond c x s = some (r, s')) : Effect c s x.time r s' := by
  cases c with
  | store c => simpa [respond, Effect] using h
  | clock => cases h; exact ⟨rfl, rfl⟩
  | awaitHeartbeat => cases h; exact ⟨rfl, rfl⟩
  | decide state => cases x <;> cases h; rfl
  | takeUsage => cases x <;> cases h; rfl
  | execute state tool arguments attempt => cases x <;> cases h; rfl
  | aws c =>
    cases c with
    | updateService => cases x <;> cases h; rfl
    | _ => simp [respond] at h

/-- A schedule's reading of the system, for an environment whose conditions hold of every
    step the schedule takes. -/
def player (rt : WorkflowRuntime) (config : Settings) (env : Env)
    (allowed : (i : ThreadId) → (w : World) → (c : Call) → (r : Except PyError c.Ret) → Bool)
    (mayDie : ThreadId → World → Bool)
    (h : ∀ i w c r, allowed i w c r = true → env.allows i w c r)
    (hs : ∀ i w op, env.starts i w op)
    (hd : ∀ i w, mayDie i w = true → env.dies i w) :
    Simulator (system rt config env) Operation Answer where
  program op := op.program rt config
  start i op w := some { w with journal := .began i op :: w.journal }
  answer i c x w :=
    if w.now ≤ x.time then
      (respond c x w.store).bind fun rs =>
        if allowed i { w with now := x.time } c rs.1 then some (rs.1, ⟨rs.2, x.time, .did i c rs.1 :: w.journal⟩)
        else none
    else none
  finish i o w := some { w with journal := .ended i o :: w.journal }
  die i w := if mayDie i w then some { w with journal := .died i :: w.journal } else none
  start_sound := by
    intro i op w w' hw
    cases hw; exact ⟨op, rfl, hs i w op, rfl⟩
  answer_sound := by
    intro i c x w r w' hw
    split at hw
    · rename_i ht
      obtain ⟨⟨r', s'⟩, hr, hw⟩ := Option.bind_eq_some_iff.mp hw
      split at hw
      · rename_i ha
        simp only [Option.some.injEq, Prod.mk.injEq] at hw
        obtain ⟨rfl, rfl⟩ := hw
        exact ⟨x.time, s', ht, h _ _ _ _ ha, respond_sound hr, rfl⟩
      · cases hw
    · cases hw
  finish_sound := by
    intro i o w w' hw
    cases hw; rfl
  die_sound := by
    intro i w w' hw
    split at hw
    · rename_i hm
      cases hw; exact ⟨hd i w hm, rfl⟩
    · cases hw

/-- A schedule of threads below `n` that ends with all of them at rest ends with nothing in flight. -/
theorem play_settled {rt : WorkflowRuntime} {config : Settings} {env : Env}
    (sim : Simulator (system rt config env) Operation Answer) {ms : List (Move ThreadId Operation Answer)} {n : Nat}
    {check : Cfg → Bool}
    (h : (sim.play ⟨World.init, fun _ => none⟩ ms).any (fun cfg => (List.range n).all (fun i => (cfg.pool i).isNone) && check cfg) = true)
    (hn : ∀ m ∈ ms, m.thread < n) :
    ∃ cfg, Reachable rt config env cfg ∧ (∀ i, cfg.pool i = none) ∧ check cfg = true := by
  obtain ⟨cfg, hp, hc⟩ := Option.any_eq_true _ _ |>.mp h
  simp only [Bool.and_eq_true, List.all_eq_true, List.mem_range, Option.isNone_iff_eq_none] at hc
  refine ⟨cfg, Reach.init.run (sim.play_run hp), fun i => ?_, hc.2⟩
  by_cases hi : i < n
  · exact hc.1 i hi
  · exact sim.play_pool hp fun m hm e => hi (e ▸ hn m hm)

/-- The player of the unrestricted system. -/
def freePlayer (rt : WorkflowRuntime) (config : Settings) : Simulator (system rt config .free) Operation Answer :=
  player rt config .free (fun _ _ _ _ => true) (fun _ _ => true) (fun _ _ _ _ _ => trivial) (fun _ _ _ => trivial)
    (fun _ _ _ => trivial)

/-- The player of the system without crashes. -/
def crashFreePlayer (rt : WorkflowRuntime) (config : Settings) :
    Simulator (system rt config .crashFree) Operation Answer :=
  player rt config .crashFree (fun _ _ _ _ => true) (fun _ _ => false) (fun _ _ _ _ _ => trivial) (fun _ _ _ => trivial)
    (fun _ _ h => by cases h)

/-- Thread `i` makes `n` calls at time `t` that need no answer from the outside. -/
def continues (i : ThreadId) (n : Nat) (t : Timestamp := 0) : List (Move ThreadId Operation Answer) :=
  List.replicate n (.call i (.ok t))

/-- Thread `i` starts `op` and makes `n` such calls. -/
def begins (i : ThreadId) (op : Operation) (n : Nat) (t : Timestamp := 0) : List (Move ThreadId Operation Answer) :=
  .enter i op :: continues i n t

/-- Thread `i`'s engine answers. -/
def decides (i : ThreadId) (decision : AgentDecision) (t : Timestamp := 0) : List (Move ThreadId Operation Answer) :=
  [.call i (.decision t (.ok decision)), .call i (.usage t (0, 0))]

def minuteLater : Timestamp := seconds 61

/-- An operator creates the incident the schedules are about. -/
def createsIncident : List (Move ThreadId Operation Answer) :=
  begins 0 (.createIncident "t" "restore checkout" "checkout-pool-exhaustion") 2 ++ [.leave 0]

end AgentResilience
