/-
  AgentResilience.LiveRows — how many live rows a workflow has in the queue. A row is live
  unless it is completed. `createWorkflow` adds the first one, a claim, a lease or a retry
  changes a live row into a live one, an acknowledgement ends it, and a replay revives a
  dead one, which is live already. The one call that can add a second one is `enqueue`: it
  looks for pending and processing rows only, and not for dead ones.

  - `one_live_row`: while lapsed workers stay silent, a workflow has at most one live row in
    every run without an enqueueing beside a dead row, and that condition is exact, step by step.
  - `dead_and_pending`: an approval whose worker died enqueues beside the dead row of the
    action it approved.
-/
import AgentResilience.LiveDelivery
import AgentResilience.StageWalk

namespace AgentResilience

open Interaction

/-- No workflow has two rows that are pending, processing or dead. -/
def OneLiveRow (s : SQLiteStore) : Prop :=
  ∀ taskId id id' st st', rowStatus taskId s id = some st → rowStatus taskId s id' = some st' → st ≠ .completed →
    st' ≠ .completed → id = id'

/-- Every row is of a workflow. -/
def RowsKnown (s : SQLiteStore) : Prop := ∀ id row, s.queue.get id = some row → s.workflows.get row.taskId ≠ none

/-- An enqueueing for the task would add a row, and the task has a dead one. -/
def BesideDead (s : SQLiteStore) (taskId : String) : Prop :=
  s.queue.rows.find? (SQLiteStore.isActive taskId) = none ∧ s.workflows.get taskId ≠ none ∧
    ∃ id, rowStatus taskId s id = some .dead

/-- A worker whose lease has lapsed makes no further store call; threads may die. -/
def Env.whileLeased : Env where
  allows i w c _ := c.ofStore = true → HoldsLease i w

/-- The same, and no enqueueing adds a row beside a dead one. -/
def Env.apart : Env where
  allows i w c _ := (c.ofStore = true → HoldsLease i w) ∧
    match c with
    | .store (.enqueue taskId _) => ¬ BesideDead w.store taskId
    | _ => True

/-! ## Store calls -/

variable {s s' : SQLiteStore} {t : Timestamp}

/-- Every live row was there and live. -/
theorem OneLiveRow.of_back (h : OneLiveRow s)
    (hback : ∀ taskId id st', rowStatus taskId s' id = some st' → st' ≠ .completed →
      ∃ st, rowStatus taskId s id = some st ∧ st ≠ .completed) : OneLiveRow s' := by
  intro taskId id id' st st' hst hst' hne hne'
  obtain ⟨x, hx, hxne⟩ := hback taskId id st hst hne
  obtain ⟨y, hy, hyne⟩ := hback taskId id' st' hst' hne'
  exact h taskId id id' x y hx hy hxne hyne

/-- A change of the rows that completes or keeps alive. -/
theorem OneLiveRow.map (h : OneLiveRow s) {g : Nat → QueueRow → QueueRow}
    (hq : ∀ id, s'.queue.get id = (s.queue.get id).map (g id))
    (hg : ∀ id row, s.queue.get id = some row → (g id row).taskId = row.taskId ∧
      (row.status = .completed → (g id row).status = .completed)) : OneLiveRow s' := by
  refine h.of_back fun taskId id st' hst' hne => ?_
  obtain ⟨row', hr', ht', rfl⟩ := rowStatus_some.mp hst'
  rw [hq] at hr'
  obtain ⟨row, hr, rfl⟩ := Option.map_eq_some_iff.mp hr'
  obtain ⟨htask, hc⟩ := hg id row hr
  exact ⟨row.status, rowStatus_some.mpr ⟨row, hr, htask ▸ ht', rfl⟩, fun e => hne (hc e)⟩

theorem insertQueue_rowStatus (taskId : String) (n : Nat) (T : String) (id : Nat) :
    rowStatus T (s.insertQueue t taskId n) id =
      if id = s.nextQueueId then (if taskId = T then some .pending else none) else rowStatus T s id := by
  unfold rowStatus
  rw [SQLiteStore.insertQueue_get]
  by_cases e : id = s.nextQueueId <;> simp [e]

/-- A new row is the only live one exactly if the task had none. -/
theorem insert_oneLiveRow (h : OneLiveRow s) (taskId : String) (n : Nat) :
    OneLiveRow (s.insertQueue t taskId n) ↔ ∀ id st, rowStatus taskId s id = some st → st = .completed := by
  constructor
  · intro h' id st hst
    by_contra hne
    have hid : id ≠ s.nextQueueId := by
      intro e
      obtain ⟨row, hr, -⟩ := rowStatus_some.mp hst
      rw [e, SQLiteStore.nextQueueId_fresh] at hr
      cases hr
    refine hid (h' taskId id s.nextQueueId st .pending ?_ ?_ hne (by decide))
    · rw [insertQueue_rowStatus, if_neg hid]; exact hst
    · rw [insertQueue_rowStatus, if_pos rfl, if_pos rfl]
  · intro hdone T id id' st st' hst hst' hne hne'
    have hnew : ∀ k x, rowStatus T (s.insertQueue t taskId n) k = some x → x ≠ .completed →
        (k = s.nextQueueId ∧ taskId = T) ∨ k ≠ s.nextQueueId ∧ rowStatus T s k = some x := by
      intro k x hx hxne
      rw [insertQueue_rowStatus] at hx
      by_cases e : k = s.nextQueueId
      · rw [if_pos e] at hx
        split at hx
        · rename_i ht; exact .inl ⟨e, ht⟩
        · cases hx
      · rw [if_neg e] at hx
        exact .inr ⟨e, hx⟩
    rcases hnew id st hst hne with ⟨e, ht⟩ | ⟨e, hx⟩ <;> rcases hnew id' st' hst' hne' with ⟨e', ht'⟩ | ⟨e', hx'⟩
    · rw [e, e']
    · subst ht; exact absurd (hdone id' st' hx') hne'
    · subst ht'; exact absurd (hdone id st hx) hne
    · exact h T id id' st st' hx hx' hne hne'

theorem oneLiveRow_congr (hq : s'.queue = s.queue) : OneLiveRow s' ↔ OneLiveRow s := by
  unfold OneLiveRow
  simp only [rowStatus_queue hq]

/-- No live row unless it is dead: the task has no active row. -/
theorem inactive_iff {taskId : String} : s.queue.rows.find? (SQLiteStore.isActive taskId) = none ↔
    ∀ id st, rowStatus taskId s id = some st → st = .completed ∨ st = .dead := by
  rw [List.find?_eq_none]
  constructor
  · intro h id st hst
    obtain ⟨row, hr, ht, rfl⟩ := rowStatus_some.mp hst
    have := h row (Table.get_mem hr)
    simp only [SQLiteStore.isActive, ht, decide_eq_true_eq, true_and, not_or] at this
    cases hs : row.status <;> simp_all
  · intro h row hr
    simp only [SQLiteStore.isActive, decide_eq_true_eq, not_and, not_or]
    intro ht
    rcases h row.id row.status (rowStatus_some.mpr ⟨row, Table.mem_iff_get.mp hr, ht, rfl⟩) with e | e <;> rw [e] <;> decide

/-- Beside one live row, an enqueueing keeps it the only one exactly if it adds none beside a dead one. -/
theorem enqueue_oneLiveRow (h : OneLiveRow s) (taskId : String) (n : Nat) :
    OneLiveRow (s.enqueue t taskId n).2 ↔ ¬ BesideDead s taskId := by
  rcases he : s.enqueue t taskId n with ⟨r, s''⟩
  rcases SQLiteStore.enqueue_cases he with ⟨row, hf, -, -, -, -, rfl⟩ | ⟨hrows, hw, -, rfl⟩ | ⟨hn, -, rfl⟩
  · exact ⟨fun _ hb => (by rw [hb.1] at hf; cases hf), fun _ => h⟩
  · have hin : ∀ id st, rowStatus taskId s id = some st → st = .completed ∨ st = .dead := by
      intro id st hst
      obtain ⟨row, hr, ht, rfl⟩ := rowStatus_some.mp hst
      exact hrows id row hr ht
    show OneLiveRow (s.insertQueue t taskId n) ↔ _
    rw [insert_oneLiveRow h]
    constructor
    · intro hdone hb
      obtain ⟨-, -, id, hid⟩ := hb
      cases hdone id _ hid
    · intro hb id st hst
      rcases hin id st hst with e | e
      · exact e
      · subst e
        exact absurd ⟨inactive_iff.mpr hin, hw, id, hst⟩ hb
  · exact ⟨fun _ hb => hb.2.1 hn, fun _ => h⟩

theorem create_oneLiveRow (h : OneLiveRow s) (hk : RowsKnown s) (st : WorkflowState) (n : Nat) :
    OneLiveRow (s.createWorkflow t st n).2 := by
  rcases he : s.createWorkflow t st n with ⟨r, s''⟩
  rcases SQLiteStore.createWorkflow_cases he with ⟨-, -, rfl⟩ | ⟨hn, -, -, hq, -⟩
  · exact h
  · refine (oneLiveRow_congr hq).mpr ((insert_oneLiveRow h st.taskId n).mpr fun id x hx => ?_)
    obtain ⟨row, hr, ht, -⟩ := rowStatus_some.mp hx
    exact absurd hn (ht ▸ hk id row hr)

theorem claim_oneLiveRow (h : OneLiveRow s) (worker : String) (leaseSeconds : Int) :
    OneLiveRow (s.claim t worker leaseSeconds).2 := by
  rcases he : s.claim t worker leaseSeconds with ⟨r, s''⟩
  refine h.of_back fun taskId id st' hst' hne => ?_
  obtain ⟨row', hr', ht', rfl⟩ := rowStatus_some.mp hst'
  rcases SQLiteStore.claim_row he id with ⟨hn, -⟩ | ⟨row, x', hr, hx', htask, hst, hclaimed⟩
  · rw [hn] at hr'; cases hr'
  · rw [hx'] at hr'; cases hr'
    refine ⟨row.status, rowStatus_some.mpr ⟨row, hr, htask ▸ ht', rfl⟩, fun e => ?_⟩
    -- a completed row is neither expired nor claimed
    have hsw : (SQLiteStore.swept t row).status = .completed := by
      rw [SQLiteStore.swept_status]
      simp [SQLiteStore.isExpired, e]
    by_cases hc : r.any (fun d => d.id = id) = true
    · rw [hclaimed hc] at hsw; cases hsw
    · rw [hst, if_neg hc] at hne
      exact hne hsw

theorem retry_oneLiveRow (h : OneLiveRow s) {delivery : QueueDelivery} (error : String) (base : Seconds)
    (hlive : ∀ row, s.queue.get delivery.id = some row → row.status ≠ .completed) :
    OneLiveRow (s.retryOrDeadLetter t delivery error base).2 := by
  rcases he : s.retryOrDeadLetter t delivery error base with ⟨r, s''⟩
  rcases SQLiteStore.retryOrDeadLetter_cases he with ⟨-, rfl⟩ | ⟨_, -, -, hg, -⟩
  · exact h
  · refine h.map hg fun id row hr => ?_
    split
    · rename_i e
      exact ⟨rfl, fun hc => absurd hc (hlive row (e ▸ hr))⟩
    · exact ⟨rfl, fun e => e⟩

theorem replay_oneLiveRow (h : OneLiveRow s) (id : Nat) (taskId : String) (n : Nat) (actor reason : String) :
    OneLiveRow (s.replayDeadLetter t id taskId n actor reason).2 := by
  rcases he : s.replayDeadLetter t id taskId n actor reason with ⟨r, s''⟩
  rcases SQLiteStore.replayDeadLetter_cases he with ⟨-, rfl⟩ | ⟨q, w, state, -, -, -, -, -, -, -, hg, -⟩
  · exact h
  · refine h.map (g := fun _ => _) hg fun id row _ => ?_
    split
    · rename_i hc
      exact ⟨rfl, fun e => by rw [hc.2] at e; cases e⟩
    · exact ⟨rfl, fun e => e⟩

/-- A store call keeps one live row exactly if it is no enqueueing beside a dead one; a retry
    must be of a live row. -/
theorem apply_oneLiveRow (h : OneLiveRow s) (hk : RowsKnown s) (c : StoreCall)
    (hretry : ∀ delivery error base, c = .retryOrDeadLetter delivery error base →
      ∀ row, s.queue.get delivery.id = some row → row.status ≠ .completed) :
    OneLiveRow (c.apply s t).2 ↔ ∀ taskId n, c = .enqueue taskId n → ¬ BesideDead s taskId := by
  have hother : OneLiveRow (c.apply s t).2 → (∀ taskId n, c ≠ .enqueue taskId n) →
      (OneLiveRow (c.apply s t).2 ↔ ∀ taskId n, c = .enqueue taskId n → ¬ BesideDead s taskId) :=
    fun h' hne => ⟨fun _ taskId n e => absurd e (hne taskId n), fun _ => h'⟩
  cases c with
  | enqueue taskId n =>
    show OneLiveRow (s.enqueue t taskId n).2 ↔ _
    rw [enqueue_oneLiveRow h taskId n]
    constructor
    · intro hb taskId' n' e
      cases e; exact hb
    · intro hb
      exact hb taskId n rfl
  | createWorkflow st n => exact hother (create_oneLiveRow h hk st n) fun _ _ e => by cases e
  | claim worker leaseSeconds => exact hother (claim_oneLiveRow h worker leaseSeconds) fun _ _ e => by cases e
  | retryOrDeadLetter delivery error base =>
    exact hother (retry_oneLiveRow h error base (hretry _ _ _ rfl)) fun _ _ e => by cases e
  | replayDeadLetter id taskId n actor reason => exact hother (replay_oneLiveRow h id taskId n actor reason) fun _ _ e => by cases e
  | extendLease delivery leaseSeconds =>
    refine hother (h.map (SQLiteStore.extendLease_get delivery leaseSeconds) fun id row _ => ?_) fun _ _ e => by cases e
    split <;> exact ⟨rfl, fun e => e⟩
  | acknowledge n =>
    refine hother (h.map (SQLiteStore.acknowledge_get n) fun id row _ => ?_) fun _ _ e => by cases e
    split
    · exact ⟨rfl, fun _ => rfl⟩
    · exact ⟨rfl, fun e => e⟩
  | _ => exact hother ((oneLiveRow_congr (StoreCall.apply_queue rfl s t)).mpr h) fun _ _ e => by cases e

/-! ## Runs -/

/-- A call after which the worker holds its delivery no more. -/
def Call.settles : (c : Call) → Except PyError c.Ret → Bool
  | .store (.acknowledge _), .ok _ | .store (.retryOrDeadLetter ..), .ok _ | .store (.enqueue ..), .ok _ => true
  | _, _ => false

/-- A delivery held after a call was claimed by it, or held before and not settled. -/
theorem after_held {q : Stage} {c : Call} {r : Except PyError c.Ret} {d : QueueDelivery} (h : (q.after c r).held = some d) :
    c.claimed r = some d ∨ c.claimed r = none ∧ c.settles r = false ∧ q.held = some d := by
  cases c with
  | store c =>
    cases r with
    | error e => cases c <;> exact .inr ⟨rfl, rfl, h⟩
    | ok a =>
      cases c with
      | claim =>
        cases a with
        | none => exact .inr ⟨rfl, rfl, h⟩
        | some d' => exact .inl h
      | getToolResult => cases a <;> exact .inr ⟨rfl, rfl, h⟩
      | acknowledge | enqueue | retryOrDeadLetter => cases h
      | _ => exact .inr ⟨rfl, rfl, h⟩
  | _ => cases r <;> exact .inr ⟨rfl, rfl, h⟩

theorem holding_after {c : Call} {r : Except PyError c.Ret} (hc : c.claimed r = none) (hs : c.settles r = false)
    (d : QueueDelivery) (seen : Option WorkflowState) : ∃ seen', (Phase.holding d seen).after c r = .holding d seen' := by
  cases c with
  | store c =>
    cases r with
    | error e => cases c <;> exact ⟨_, rfl⟩
    | ok a =>
      cases c with
      | claim =>
        cases a with
        | none => exact ⟨_, rfl⟩
        | some d' => cases hc
      | acknowledge | enqueue | retryOrDeadLetter => cases hs
      | _ => exact ⟨_, rfl⟩
  | _ => cases r <;> exact ⟨_, rfl⟩

/-- A worker at a stage that holds a delivery is in the phase of holding it. -/
theorem held_phase {i : ThreadId} {es : List Entry} {d : QueueDelivery} (h : (stage i es).held = some d) :
    ∃ seen, phase i es = .holding d seen := by
  induction es with
  | nil => cases h
  | cons e es ih =>
    cases e with
    | did j c r =>
      by_cases hj : j = i
      · subst hj
        rw [stage_did] at h
        rw [phase_did]
        rcases after_held h with hc | ⟨hc, hs, hold⟩
        · refine ⟨none, ?_⟩
          unfold Call.claimed at hc
          split at hc
          · cases hc; rfl
          · cases hc
        · obtain ⟨seen, hp⟩ := ih hold
          rw [hp]
          exact holding_after hc hs d seen
      · rw [stage_other hj] at h
        rw [phase_other hj]
        exact ih h
    | began j _ | ended j _ | died j =>
      by_cases hj : j = i
      · simp [stage, hj] at h
      · simp only [stage, hj, if_false] at h
        simp only [phase, hj, if_false]
        exact ih h

variable {rt : WorkflowRuntime} {config : Settings} {env : Env}

theorem reachable_known {cfg : Cfg} (h : Reachable { rt with engine := anyEngine, backend := anyBackend } config env cfg) :
    RowsKnown cfg.state.store := by
  refine reachable_world (P := fun w => RowsKnown w.store) (fun _ _ h => ?_) (fun _ _ hk _ => hk)
    (fun cfg i c k r w' hr hk hp hx id row hrow => ?_) h
  · cases h
  · have hok := reachable_storeOk lawful_univ hr
    obtain ⟨t, s', -, -, he, rfl⟩ := hx
    rcases effect_row he id with ⟨row₀, row', hr₀, hr', ht, -⟩ | ⟨-, hn⟩
    · rw [hrow] at hr'; cases hr'
      rw [ht]
      exact later_known (effect_later hok he) (hk id row₀ hr₀)
    · exact hn row hrow

/-- The step enqueues a row beside a dead one. -/
def AddsBesideDead (cfg cfg' : Cfg) : Prop :=
  ∃ i taskId n r, cfg'.state.journal = .did i (.store (.enqueue taskId n)) r :: cfg.state.journal ∧ BesideDead cfg.state.store taskId

/-- While lapsed workers stay silent, a step keeps one live row exactly if it adds none beside a dead one. -/
theorem step_oneLiveRow {cfg cfg' : Cfg}
    (h : Reachable { rt with engine := anyEngine, backend := anyBackend } config env cfg)
    (hlease : ∀ i w c r, env.allows i w c r → c.ofStore = true → HoldsLease i w)
    (hs : Step (system { rt with engine := anyEngine, backend := anyBackend } config env) cfg cfg')
    (hone : OneLiveRow cfg.state.store) : OneLiveRow cfg'.state.store ↔ ¬ AddsBesideDead cfg cfg' := by
  have hquiet : ∀ {w : World}, cfg'.state = w → (∀ i c r, w.journal ≠ .did i c r :: cfg.state.journal) → w.store = cfg.state.store →
      (OneLiveRow cfg'.state.store ↔ ¬ AddsBesideDead cfg cfg') := by
    intro w e hj hst
    rw [e, hst]
    refine ⟨fun _ ha => ?_, fun _ => hone⟩
    obtain ⟨i, taskId, n, r, hj', -⟩ := ha
    exact hj _ _ _ (e ▸ hj')
  cases hs with
  | enter _ he => obtain ⟨op, -, -, rfl⟩ := he; exact hquiet rfl (fun _ _ _ e => by cases e) rfl
  | leave _ _ hl => obtain rfl := hl; exact hquiet rfl (fun _ _ _ e => by cases e) rfl
  | crash _ hx => obtain ⟨-, rfl⟩ := hx; exact hquiet rfl (fun _ _ _ e => by cases e) rfl
  | @call i c k r w' hp hx =>
    have hmay := conforms h hp
    obtain ⟨t, s', hle, hal, he, rfl⟩ := hx
    have hadds : AddsBesideDead cfg (cfg.put i (some (k r)) ⟨s', t, .did i c r :: cfg.state.journal⟩) ↔
        ∃ taskId n, c = .store (.enqueue taskId n) ∧ BesideDead cfg.state.store taskId := by
      constructor
      · intro ha
        obtain ⟨i', taskId, n, r', hj, hb⟩ := ha
        exact ⟨taskId, n, (Entry.did.inj (List.cons.inj hj).1).2.1, hb⟩
      · intro ha
        obtain ⟨taskId, n, rfl, hb⟩ := ha
        exact ⟨i, taskId, n, r, rfl, hb⟩
    rw [hadds]
    cases c with
    | store c =>
      obtain rfl := congrArg Prod.snd he
      show OneLiveRow (c.apply cfg.state.store t).2 ↔ _
      rw [apply_oneLiveRow hone (reachable_known h) c ?_]
      · constructor
        · intro hno ha
          obtain ⟨taskId, n, e, hb⟩ := ha
          exact hno taskId n (Call.store.inj e) hb
        · intro hno taskId n e hb
          exact hno ⟨taskId, n, by rw [e], hb⟩
      · -- the worker that retries holds the delivery, and its lease
        intro delivery error base e row hrow
        subst e
        obtain ⟨seen, hph⟩ := held_phase hmay.2
        obtain ⟨-, row', u, hrow', hst, -⟩ := hlease i _ _ r hal rfl delivery seen hph
        have hrow' : cfg.state.store.queue.get delivery.id = some row' := hrow'
        rw [hrow] at hrow'; cases hrow'
        rw [hst]; decide
    | clock | awaitHeartbeat =>
      obtain ⟨-, rfl⟩ := he
      exact ⟨fun _ ha => (by obtain ⟨_, _, e, -⟩ := ha; cases e), fun _ => hone⟩
    | _ =>
      obtain rfl := he
      exact ⟨fun _ ha => (by obtain ⟨_, _, e, -⟩ := ha; cases e), fun _ => hone⟩

theorem one_live_row (rt : WorkflowRuntime) (config : Settings) :
    (∀ cfg, Reachable { rt with engine := anyEngine, backend := anyBackend } config .apart cfg → OneLiveRow cfg.state.store) ∧
    ∀ cfg cfg', Reachable { rt with engine := anyEngine, backend := anyBackend } config .whileLeased cfg →
      Step (system { rt with engine := anyEngine, backend := anyBackend } config .whileLeased) cfg cfg' →
      OneLiveRow cfg.state.store → (OneLiveRow cfg'.state.store ↔ ¬ AddsBesideDead cfg cfg') := by
  refine ⟨fun cfg h => ?_, fun cfg cfg' h hs hone => step_oneLiveRow h (fun _ _ _ _ hal => hal) hs hone⟩
  induction h with
  | init => exact fun _ _ _ _ _ h => by cases h
  | @step cfg cfg' hr hs ih =>
    refine (step_oneLiveRow hr (fun _ _ _ _ hal => hal.1) hs ih).mpr fun ha => ?_
    obtain ⟨i, taskId, n, r, hj, hb⟩ := ha
    cases hs with
    | enter _ he => obtain ⟨op, -, -, rfl⟩ := he; cases hj
    | leave _ _ hl => obtain rfl := hl; cases hj
    | crash _ hx => obtain ⟨-, rfl⟩ := hx; cases hj
    | call hp hx =>
      obtain ⟨t, s', -, hal, he, rfl⟩ := hx
      cases hj
      exact hal.2 hb

/-! ## A dead row and a pending one -/

def twoAttempts : Settings := { maxQueueAttempts := 2 }

/-- A worker pauses for an approval and dies; the approval is granted, but its worker does not
    get to the enqueueing; a second worker takes the delivery over and dead-letters it. -/
def deadLettered : List (Move ThreadId Operation Answer) :=
  pausedRestart 4 ++ [.crash 1] ++ begins 2 (.approve "t" "operator" none) 4 ++
  begins 3 (.runOnce "w2") 5 minuteLater ++ [.call 3 (.result minuteLater (.error (.retryable "timeout")))] ++
  continues 3 3 minuteLater

def notEnqueue : Call → Bool
  | .store (.enqueue ..) => false
  | _ => true

theorem notEnqueue_apart {i : ThreadId} {w : World} {c : Call} {r : Except PyError c.Ret}
    (h : (leaseHeld i w && notEnqueue c) = true) : Env.apart.allows i w c r := by
  rw [Bool.and_eq_true] at h
  refine ⟨fun _ => leaseHeld_holds h.1, ?_⟩
  cases c with
  | store c =>
    cases c with
    | enqueue => cases h.2
    | _ => trivial
  | _ => trivial

def apartPlayer : Simulator (system {} twoAttempts .apart) Operation Answer :=
  player {} twoAttempts .apart (fun i w c _ => leaseHeld i w && notEnqueue c) (fun _ _ => true)
    (fun _ _ _ _ h => notEnqueue_apart h) (fun _ _ _ => trivial) (fun _ _ _ => trivial)

theorem deadLettered_plays : (apartPlayer.play ⟨World.init, fun _ => none⟩ deadLettered).any
    (fun cfg => decide (rowStatus "t" cfg.state.store 1 = some .dead)) = true := by
  decide +kernel

theorem one_live_row_dead : ∃ cfg, Reachable {} twoAttempts .apart cfg ∧ rowStatus "t" cfg.state.store 1 = some .dead ∧
    OneLiveRow cfg.state.store := by
  obtain ⟨cfg, h, hc⟩ := apartPlayer.play_exists deadLettered_plays
  exact ⟨cfg, h, of_decide_eq_true hc, (one_live_row {} twoAttempts).1 cfg h⟩

def whileLeasedPlayer : Simulator (system {} twoAttempts .whileLeased) Operation Answer :=
  player {} twoAttempts .whileLeased (fun i w _ _ => leaseHeld i w) (fun _ _ => true)
    (fun _ _ _ _ h _ => leaseHeld_holds h) (fun _ _ _ => trivial) (fun _ _ _ => trivial)

theorem enqueuedBesideDead_plays : (whileLeasedPlayer.play ⟨World.init, fun _ => none⟩
    (deadLettered ++ continues 2 1 minuteLater)).any (fun cfg =>
      decide (rowStatus "t" cfg.state.store 1 = some .dead) && decide (rowStatus "t" cfg.state.store 2 = some .pending)) = true := by
  decide +kernel

/-- The approval then enqueues a second delivery beside the dead one. -/
theorem dead_and_pending : ∃ cfg, Reachable {} twoAttempts .whileLeased cfg ∧ ¬ OneLiveRow cfg.state.store := by
  obtain ⟨cfg, h, hc⟩ := whileLeasedPlayer.play_exists enqueuedBesideDead_plays
  simp only [Bool.and_eq_true, decide_eq_true_eq] at hc
  refine ⟨cfg, h, fun hone => ?_⟩
  have := hone "t" 1 2 .dead .pending hc.1 hc.2 (by decide) (by decide)
  omega

end AgentResilience
