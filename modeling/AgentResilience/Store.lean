/-
  AgentResilience.Store — the SQLite store (store.py): checkpoints, queue, audit log,
  idempotency ledger and approvals, one definition a method. A method is one transaction:
  from the tables and the clock it computes what it returns or raises and the tables it
  leaves. Textual timestamps order as the times do, so the model compares times. Versions
  and `max_attempts` are natural numbers: the 64 bits of an SQLite integer do not bound
  them, and no row has a negative `max_attempts`.

  The lemmas after each group say what a method does to the row of a key; nothing else of
  the store changes (the record updates show it).
-/
import Mathlib.Data.List.MinMax
import Mathlib.Data.Rat.Floor
import AgentResilience.Lib.Table
import AgentResilience.Policy

namespace AgentResilience

structure WorkflowRow where
  taskId : String
  stateJson : WorkflowState
  version : Nat
  updatedAt : Timestamp

inductive QueueStatus where
  | pending
  | processing
  | completed
  | dead
  deriving DecidableEq, Repr

structure QueueRow where
  id : Nat
  taskId : String
  status : QueueStatus
  attempts : Nat
  maxAttempts : Nat
  availableAt : Timestamp
  leaseUntil : Option Timestamp := none
  workerId : Option String := none
  payload : Json := .obj []
  lastError : Option String := none
  createdAt : Timestamp
  updatedAt : Timestamp

structure ToolResultRow where
  idempotencyKey : String
  taskId : String
  toolName : String
  argumentsHash : String
  resultJson : Json
  createdAt : Timestamp

inductive ApprovalStatus where
  | pending
  | approved
  | rejected
  deriving DecidableEq, Repr

structure ApprovalRow where
  taskId : String
  actionId : String
  status : ApprovalStatus := .pending
  actor : Option String := none
  reason : Option String := none
  createdAt : Timestamp
  resolvedAt : Option Timestamp := none

structure SQLiteStore where
  workflows : Table String WorkflowRow (·.taskId)
  queue : Table Nat QueueRow (·.id)
  events : List EventRecord
  toolResults : Table String ToolResultRow (·.idempotencyKey)
  approvals : Table (String × String) ApprovalRow (fun r => (r.taskId, r.actionId))

/-- A number of seconds held as a `float`. -/
inductive Seconds where
  | finite (q : ℚ)
  | infinite
  deriving DecidableEq

/-- `timedelta(seconds=q)` in microseconds, rounding half to even. CPython multiplies the fraction of a second as a
    `float` before it rounds, which at some bases is another microsecond. -/
def timedelta (q : ℚ) : Timestamp :=
  let us := q * 1000000
  let f := us.floor
  if us - f < 1 / 2 then f else if 1 / 2 < us - f then f + 1 else if f % 2 = 0 then f else f + 1

def seconds (n : Int) : Timestamp := n * 1000000

/-- `min(60.0, base * 2 ** k)`; `2 ** k` has no float from `k = 1024` on. -/
def backoff (base : Seconds) (k : Nat) : Except PyError ℚ :=
  if 1024 ≤ k then .error (.overflow "int too large to convert to float")
  else match base with
    | .finite q => .ok (min 60 (q * 2 ^ k))
    | .infinite => .ok 60

theorem backoff_ok_iff {base : Seconds} {k : Nat} : (∃ delay, backoff base k = .ok delay) ↔ k < 1024 := by
  unfold backoff
  by_cases h : 1024 ≤ k
  · simp [h]
  · rw [if_neg h]
    cases base <;> simp [Nat.lt_of_not_le h]

namespace SQLiteStore

def empty : SQLiteStore := ⟨.empty, .empty, [], .empty, .empty⟩

variable (s : SQLiteStore) (now : Timestamp)

/-! ## Events and new queue rows -/

def recordEvent (taskId : String) (eventType : EventType) (payload : Json) : SQLiteStore :=
  { s with events := s.events ++ [⟨(s.events.getLast?.map (·.id)).getD 0 + 1, taskId, eventType, payload, now⟩] }

/-- The next `AUTOINCREMENT` id. -/
def nextQueueId : Nat := s.queue.rows.foldr (fun r m => max r.id m) 0 + 1

def insertQueue (taskId : String) (maxAttempts : Nat) : SQLiteStore :=
  let row := { id := s.nextQueueId, taskId, status := .pending, attempts := 0, maxAttempts, availableAt := now,
               createdAt := now, updatedAt := now }
  { s with queue := s.queue.insertOrIgnore row }

/-! ## Checkpoints -/

def createWorkflow (state : WorkflowState) (maxAttempts : Nat) : Except PyError WorkflowState × SQLiteStore :=
  match s.workflows.insert ⟨state.taskId, state, state.version, now⟩ with
  | none => (.error (.integrity "UNIQUE constraint failed: workflows.task_id"), s)
  | some workflows =>
    (.ok state, (({ s with workflows }.insertQueue now state.taskId maxAttempts).recordEvent now state.taskId
      .workflowCreated (.obj [("goal", .str state.goal)])))

def getWorkflow (taskId : String) : Option WorkflowState := (s.workflows.get taskId).map (·.stateJson)

def saveWorkflow (state : WorkflowState) (expectedVersion : Nat) : Except PyError WorkflowState × SQLiteStore :=
  let state := { state with version := expectedVersion + 1, updatedAt := now }
  let hit := fun (r : WorkflowRow) => decide (r.taskId = state.taskId ∧ r.version = expectedVersion)
  if s.workflows.rowcount hit = 1 then
    let workflows := s.workflows.update hit
      (fun r => { r with stateJson := state, version := state.version, updatedAt := now }) fun _ => rfl
    (.ok state, { s with workflows })
  else (.error (.concurrentUpdate s!"stale checkpoint for {state.taskId}"), s)

/-! ## The queue -/

def isActive (taskId : String) (r : QueueRow) : Bool :=
  decide (r.taskId = taskId ∧ (r.status = .pending ∨ r.status = .processing))

def enqueue (taskId : String) (maxAttempts : Nat) : Except PyError Nat × SQLiteStore :=
  match s.queue.rows.find? (isActive taskId) with
  | some active => (.ok active.id, s)
  | none =>
    if (s.workflows.get taskId).isSome then (.ok s.nextQueueId, s.insertQueue now taskId maxAttempts)
    else (.error (.integrity "FOREIGN KEY constraint failed"), s)

/-- `PROCESSING` with a lease that ended before `now`. -/
def isExpired (r : QueueRow) : Bool :=
  decide (r.status = .processing) && r.leaseUntil.any (· < now)

/-- Return the rows whose lease ended to `PENDING`. -/
def sweep : SQLiteStore :=
  let queue := s.queue.update (isExpired now)
    (fun r => { r with status := .pending, workerId := none, leaseUntil := none, updatedAt := now }) fun _ => rfl
  { s with queue }

def isClaimable (r : QueueRow) : Bool := decide (r.status = .pending) && decide (r.availableAt ≤ now)

def claim (workerId : String) (leaseSeconds : Int) : Option QueueDelivery × SQLiteStore :=
  let s := s.sweep now
  match (s.queue.rows.filter (isClaimable now)).argmin (·.id) with
  | none => (none, s)
  | some row =>
    let attempts := row.attempts + 1
    let queue := s.queue.update (fun r => decide (r.id = row.id ∧ r.status = .pending))
      (fun r => { r with status := .processing, attempts, workerId := some workerId,
                         leaseUntil := some (now + seconds leaseSeconds), updatedAt := now }) fun _ => rfl
    (some ⟨row.id, row.taskId, attempts, row.maxAttempts, row.payload⟩, { s with queue })

def acknowledge (deliveryId : Nat) : SQLiteStore :=
  let queue := s.queue.update (fun r => decide (r.id = deliveryId))
    (fun r => { r with status := .completed, leaseUntil := none, updatedAt := now }) fun _ => rfl
  { s with queue }

/-- The lease and `updated_at` come from two readings of the clock; here they are one. -/
def extendLease (delivery : QueueDelivery) (leaseSeconds : Int) : SQLiteStore :=
  let queue := s.queue.update (fun r => decide (r.id = delivery.id ∧ r.status = .processing))
    (fun r => { r with leaseUntil := some (now + seconds leaseSeconds), updatedAt := now }) fun _ => rfl
  { s with queue }

def retryOrDeadLetter (delivery : QueueDelivery) (error : String) (baseDelaySeconds : Seconds) :
    Except PyError Bool × SQLiteStore :=
  let dead := decide (delivery.maxAttempts ≤ delivery.attempts)
  match backoff baseDelaySeconds (delivery.attempts - 1) with
  | .error e => (.error e, s)
  | .ok delay =>
    let available := if dead then now else now + timedelta delay
    let queue := s.queue.update (fun r => decide (r.id = delivery.id))
      (fun r => { r with status := if dead then .dead else .pending, availableAt := available, leaseUntil := none,
                         workerId := none, lastError := some (error.take 2000).toString, updatedAt := now })
      fun _ => rfl
    (.ok dead, { s with queue })

def queueCounts : List (QueueStatus × Nat) :=
  [QueueStatus.pending, QueueStatus.processing, QueueStatus.completed, QueueStatus.dead].filterMap fun status =>
    let n := s.queue.rows.countP fun r => decide (r.status = status)
    if n = 0 then none else some (status, n)

/-! ## The idempotency ledger -/

def getToolResult (key : String) (arguments : Arguments) : Except PyError (Option Json) :=
  match s.toolResults.get key with
  | none => .ok none
  | some row =>
    if row.argumentsHash ≠ argumentsHash arguments then
      .error (.value "idempotency key reused with different arguments")
    else .ok (some row.resultJson)

def saveToolResult (key taskId tool : String) (arguments : Arguments) (result : Json) : SQLiteStore :=
  { s with toolResults := s.toolResults.insertOrIgnore ⟨key, taskId, tool, argumentsHash arguments, result, now⟩ }

/-! ## Approvals -/

def createApproval (taskId actionId : String) : SQLiteStore :=
  { s with approvals := s.approvals.insertOrIgnore { taskId, actionId, createdAt := now } }

def resolveApproval (taskId actionId : String) (approved : Bool) (actor : String) (reason : Option String) :
    Except PyError Unit × SQLiteStore :=
  let hit := fun (r : ApprovalRow) => decide ((r.taskId, r.actionId) = (taskId, actionId) ∧ r.status = .pending)
  if s.approvals.rowcount hit = 1 then
    let approvals := s.approvals.update hit
      (fun r => { r with status := if approved then .approved else .rejected, actor := some actor, reason,
                         resolvedAt := some now }) fun _ => rfl
    (.ok (), { s with approvals })
  else (.error (.value "approval is not pending"), s)

def approvalStatus (taskId actionId : String) : Option ApprovalStatus :=
  (s.approvals.get (taskId, actionId)).map (·.status)

/-! ## Replay -/

def replayDeadLetter (deliveryId : Nat) (taskId : String) (maxAttempts : Nat) (actor reason : String) :
    Option WorkflowState × SQLiteStore :=
  match s.queue.rows.find? fun r => decide (r.id = deliveryId ∧ r.taskId = taskId ∧ r.status = .dead) with
  | none => (none, s)
  | some row =>
    match s.workflows.get row.taskId with
    | none => (none, s)
    | some w =>
      let state := { w.stateJson with status := .queued, lastError := none, version := w.version + 1, updatedAt := now }
      let workflows := s.workflows.update (fun r => decide (r.taskId = state.taskId ∧ r.version = w.version))
        (fun r => { r with stateJson := state, version := state.version, updatedAt := now }) fun _ => rfl
      let queue := s.queue.update (fun r => decide (r.id = deliveryId ∧ r.status = .dead))
        (fun r => { r with status := .pending, attempts := 0, maxAttempts, availableAt := now, leaseUntil := none,
                           workerId := none, lastError := none, updatedAt := now }) fun _ => rfl
      (some state, { s with workflows, queue }.recordEvent now state.taskId .dlqReplayed
        (.obj [("delivery_id", .int deliveryId), ("actor", .str actor), ("reason", .str reason)]))

/-! ## What the methods do to the checkpoints -/

variable {s now}

@[simp] theorem recordEvent_workflows (taskId : String) (eventType : EventType) (payload : Json) :
    (s.recordEvent now taskId eventType payload).workflows = s.workflows := rfl
@[simp] theorem recordEvent_queue (taskId : String) (eventType : EventType) (payload : Json) :
    (s.recordEvent now taskId eventType payload).queue = s.queue := rfl
@[simp] theorem recordEvent_approvals (taskId : String) (eventType : EventType) (payload : Json) :
    (s.recordEvent now taskId eventType payload).approvals = s.approvals := rfl
@[simp] theorem recordEvent_toolResults (taskId : String) (eventType : EventType) (payload : Json) :
    (s.recordEvent now taskId eventType payload).toolResults = s.toolResults := rfl
@[simp] theorem insertQueue_workflows (taskId : String) (maxAttempts : Nat) :
    (s.insertQueue now taskId maxAttempts).workflows = s.workflows := rfl
@[simp] theorem insertQueue_approvals (taskId : String) (maxAttempts : Nat) :
    (s.insertQueue now taskId maxAttempts).approvals = s.approvals := rfl
@[simp] theorem insertQueue_toolResults (taskId : String) (maxAttempts : Nat) :
    (s.insertQueue now taskId maxAttempts).toolResults = s.toolResults := rfl

theorem getWorkflow_some {taskId : String} {state : WorkflowState} (h : s.getWorkflow taskId = some state) :
    ∃ row, s.workflows.get taskId = some row ∧ row.stateJson = state := by
  simpa [getWorkflow] using h

/-- A creation either finds the task there already, or adds its checkpoint and a delivery. -/
theorem createWorkflow_cases {state : WorkflowState} {maxAttempts : Nat} {r : Except PyError WorkflowState}
    {s' : SQLiteStore} (h : s.createWorkflow now state maxAttempts = (r, s')) :
    (s.workflows.get state.taskId ≠ none ∧ (∃ m, r = .error (.integrity m)) ∧ s' = s) ∨
      (s.workflows.get state.taskId = none ∧ r = .ok state ∧
        (∀ taskId, s'.workflows.get taskId =
          if state.taskId = taskId then some ⟨taskId, state, state.version, now⟩ else s.workflows.get taskId) ∧
        s'.queue = (s.insertQueue now state.taskId maxAttempts).queue ∧ s'.approvals = s.approvals ∧
        s'.toolResults = s.toolResults) := by
  unfold createWorkflow at h
  split at h
  · rename_i hi
    cases h
    rw [Table.insert_eq_none] at hi
    exact .inl ⟨by intro e; simp [e] at hi, ⟨_, rfl⟩, rfl⟩
  · rename_i t hi
    cases h
    have hnone : s.workflows.get state.taskId = none := by
      cases hg : s.workflows.get state.taskId with
      | none => rfl
      | some x => rw [Table.insert_eq_none.mpr (by rw [hg]; rfl)] at hi; cases hi
    refine .inr ⟨hnone, rfl, fun taskId => ?_, rfl, rfl, rfl⟩
    simp only [recordEvent_workflows, insertQueue_workflows]
    rw [Table.get_insert hi]
    by_cases e : state.taskId = taskId
    · subst e; simp
    · simp [e]

/-- A save either finds the version it expects and replaces the checkpoint, or changes nothing. -/
theorem saveWorkflow_cases {state : WorkflowState} {v : Nat} {r : Except PyError WorkflowState} {s' : SQLiteStore}
    (h : s.saveWorkflow now state v = (r, s')) :
    (∃ row, s.workflows.get state.taskId = some row ∧ row.version = v ∧
      r = .ok { state with version := v + 1, updatedAt := now } ∧
      (∀ taskId, s'.workflows.get taskId = if taskId = state.taskId
        then some ⟨taskId, { state with version := v + 1, updatedAt := now }, v + 1, now⟩
        else s.workflows.get taskId) ∧
      s'.queue = s.queue ∧ s'.approvals = s.approvals ∧ s'.toolResults = s.toolResults) ∨
    ((∃ m, r = .error (.concurrentUpdate m)) ∧ s' = s ∧
      ∀ row, s.workflows.get state.taskId = some row → row.version ≠ v) := by
  unfold saveWorkflow at h
  simp only at h
  have hp : ∀ row : WorkflowRow, decide (row.taskId = state.taskId ∧ row.version = v) = true →
      row.taskId = state.taskId := fun row e => (of_decide_eq_true e).1
  split at h
  · rename_i hc
    cases h
    obtain ⟨row, hrow, hv⟩ := (Table.rowcount_eq_one hp).mp hc
    refine .inl ⟨row, hrow, (of_decide_eq_true hv).2, rfl, fun taskId => ?_, rfl, rfl, rfl⟩
    rw [Table.get_update]
    by_cases e : taskId = state.taskId
    · subst e
      have hv' := of_decide_eq_true hv
      simp [hrow, hv'.2, hv'.1]
    · rw [if_neg e]
      cases hg : s.workflows.get taskId with
      | none => rfl
      | some x =>
        have hk : x.taskId = taskId := Table.get_key hg
        have : ¬ (x.taskId = state.taskId ∧ x.version = v) := fun h => e (hk ▸ h.1)
        simp [this]
  · rename_i hc
    cases h
    refine .inr ⟨⟨_, rfl⟩, rfl, fun row hrow e => hc ?_⟩
    exact (Table.rowcount_eq_one hp).mpr ⟨row, hrow, decide_eq_true ⟨Table.get_key hrow, e⟩⟩

/-- A replay either finds no dead delivery of the task, or puts one back and queues the workflow. -/
theorem replayDeadLetter_cases {deliveryId : Nat} {taskId : String} {maxAttempts : Nat} {actor reason : String}
    {r : Option WorkflowState} {s' : SQLiteStore}
    (h : s.replayDeadLetter now deliveryId taskId maxAttempts actor reason = (r, s')) :
    (r = none ∧ s' = s) ∨
    (∃ q w state, s.queue.get deliveryId = some q ∧ q.taskId = taskId ∧ q.status = .dead ∧
      s.workflows.get taskId = some w ∧
      state = { w.stateJson with status := .queued, lastError := none, version := w.version + 1, updatedAt := now } ∧
      r = some state ∧
      (∀ t, s'.workflows.get t = (s.workflows.get t).map fun x =>
        if x.taskId = state.taskId ∧ x.version = w.version
        then { x with stateJson := state, version := w.version + 1, updatedAt := now } else x) ∧
      (∀ id, s'.queue.get id = (s.queue.get id).map fun x =>
        if x.id = deliveryId ∧ x.status = .dead then
          { x with status := .pending, attempts := 0, maxAttempts, availableAt := now, leaseUntil := none,
                   workerId := none, lastError := none, updatedAt := now } else x) ∧
      s'.approvals = s.approvals ∧ s'.toolResults = s.toolResults) := by
  unfold replayDeadLetter at h
  split at h
  · cases h; exact .inl ⟨rfl, rfl⟩
  · rename_i q hq
    have hqm := List.mem_of_find?_eq_some hq
    have hqp := List.find?_some hq
    simp only [decide_eq_true_eq] at hqp
    have hget : s.queue.get deliveryId = some q := by rw [← hqp.1]; exact Table.mem_iff_get.mp hqm
    split at h
    · cases h; exact .inl ⟨rfl, rfl⟩
    · rename_i w hw
      rw [hqp.2.1] at hw
      cases h
      refine .inr ⟨q, w, _, hget, hqp.2.1, hqp.2.2, hw, rfl, rfl, fun t => ?_, fun id => ?_, rfl, rfl⟩
      · simp only [recordEvent_workflows]
        rw [Table.get_update]
        simp
      · simp only [recordEvent_queue]
        rw [Table.get_update]
        simp

/-- A replay that names a dead delivery of a workflow finds it. -/
theorem replayDeadLetter_some (now : Timestamp) (m : Nat) (a b : String) {deliveryId : Nat} {taskId : String} {row : QueueRow}
    (hr : s.queue.get deliveryId = some row) (ht : row.taskId = taskId) (hd : row.status = .dead)
    (hw : s.workflows.get taskId ≠ none) : ∃ state, (s.replayDeadLetter now deliveryId taskId m a b).1 = some state := by
  have hk : row.id = deliveryId := Table.get_key hr
  obtain ⟨w, hw⟩ := Option.ne_none_iff_exists'.mp hw
  unfold replayDeadLetter
  split
  · rename_i hnone
    have := List.find?_eq_none.mp hnone row (Table.get_mem hr)
    simp [hk, ht, hd] at this
  · rename_i q hq
    have hqt := List.find?_some hq
    simp only [decide_eq_true_eq] at hqt
    rw [hqt.2.1, hw]
    exact ⟨_, rfl⟩

/-! ## What the methods do to the approvals -/

theorem approval_key {k : String × String} {row : ApprovalRow} (h : s.approvals.get k = some row) :
    (row.taskId, row.actionId) = k :=
  @Table.get_key _ _ (fun r : ApprovalRow => (r.taskId, r.actionId)) _ _ _ _ h

theorem resolveApproval_cases {taskId actionId actor : String} {approved : Bool} {reason : Option String}
    {r : Except PyError Unit} {s' : SQLiteStore}
    (h : s.resolveApproval now taskId actionId approved actor reason = (r, s')) :
    (∃ row, s.approvals.get (taskId, actionId) = some row ∧ row.status = .pending ∧ r = .ok () ∧
      (∀ k, s'.approvals.get k = if k = (taskId, actionId) then
        some { row with status := if approved then .approved else .rejected, actor := some actor, reason,
                        resolvedAt := some now } else s.approvals.get k) ∧
      s'.workflows = s.workflows ∧ s'.queue = s.queue ∧ s'.toolResults = s.toolResults) ∨
    ((∃ m, r = .error (.value m)) ∧ s' = s ∧
      ∀ row, s.approvals.get (taskId, actionId) = some row → row.status ≠ .pending) := by
  unfold resolveApproval at h
  simp only at h
  have hp : ∀ row : ApprovalRow, decide ((row.taskId, row.actionId) = (taskId, actionId) ∧ row.status = .pending) = true →
      (row.taskId, row.actionId) = (taskId, actionId) := fun row e => (of_decide_eq_true e).1
  split at h
  · rename_i hc
    cases h
    obtain ⟨row, hrow, hv⟩ := (Table.rowcount_eq_one hp).mp hc
    have hv' := of_decide_eq_true hv
    refine .inl ⟨row, hrow, hv'.2, rfl, fun k => ?_, rfl, rfl, rfl⟩
    rw [Table.get_update]
    by_cases e : k = (taskId, actionId)
    · subst e
      simp only [hrow, Option.map_some, if_true, hv]
    · rw [if_neg e]
      cases hg : s.approvals.get k with
      | none => rfl
      | some x =>
        have hk := approval_key hg
        have : ¬ ((x.taskId, x.actionId) = (taskId, actionId) ∧ x.status = .pending) := fun h => e (hk ▸ h.1)
        simp only [Option.map_some, this, decide_false, Bool.false_eq_true, if_false]
  · rename_i hc
    cases h
    refine .inr ⟨⟨_, rfl⟩, rfl, fun row hrow e => hc ?_⟩
    exact (Table.rowcount_eq_one hp).mpr ⟨row, hrow, decide_eq_true ⟨approval_key hrow, e⟩⟩

theorem createApproval_get (taskId actionId : String) (k : String × String) :
    (s.createApproval now taskId actionId).approvals.get k =
      if (taskId, actionId) = k then some ((s.approvals.get k).getD { taskId, actionId, createdAt := now })
      else s.approvals.get k :=
  Table.get_insertOrIgnore _ _ _

theorem approvalStatus_some {taskId actionId : String} {st : ApprovalStatus}
    (h : s.approvalStatus taskId actionId = some st) :
    ∃ row, s.approvals.get (taskId, actionId) = some row ∧ row.status = st := by
  simpa [approvalStatus] using h

/-! ## What the methods do to the queue -/

theorem lt_nextQueueId {r : QueueRow} (h : r ∈ s.queue.rows) : r.id < s.nextQueueId := by
  have hle : ∀ l : List QueueRow, r ∈ l → r.id ≤ l.foldr (fun r m => max r.id m) 0 := by
    intro l hl
    induction l with
    | nil => cases hl
    | cons x l ih =>
      rcases List.mem_cons.mp hl with rfl | hl
      · exact Nat.le_max_left _ _
      · exact (ih hl).trans (Nat.le_max_right _ _)
  exact Nat.lt_succ_of_le (hle _ h)

theorem nextQueueId_fresh : s.queue.get s.nextQueueId = none :=
  Table.get_eq_none.mpr fun _ hr => (lt_nextQueueId hr).ne

/-- The queue after an insertion: the new row under the next id. -/
theorem insertQueue_get (taskId : String) (maxAttempts : Nat) (id : Nat) :
    (s.insertQueue now taskId maxAttempts).queue.get id = if id = s.nextQueueId then
      some { id, taskId, status := .pending, attempts := 0, maxAttempts, availableAt := now, createdAt := now,
             updatedAt := now } else s.queue.get id := by
  unfold insertQueue
  simp only
  rw [Table.get_insertOrIgnore]
  by_cases h : id = s.nextQueueId
  · subst h; rw [if_pos rfl, if_pos rfl, nextQueueId_fresh]; rfl
  · rw [if_neg h, if_neg (Ne.symm h)]

/-- An enqueueing finds the task's active delivery, or adds one, or does not know the task. -/
theorem enqueue_cases {taskId : String} {maxAttempts : Nat} {r : Except PyError Nat} {s' : SQLiteStore}
    (h : s.enqueue now taskId maxAttempts = (r, s')) :
    (∃ row, s.queue.rows.find? (isActive taskId) = some row ∧ s.queue.get row.id = some row ∧ row.taskId = taskId ∧
      (row.status = .pending ∨ row.status = .processing) ∧ r = .ok row.id ∧ s' = s) ∨
    ((∀ id row, s.queue.get id = some row → row.taskId = taskId → row.status = .completed ∨ row.status = .dead) ∧
      s.workflows.get taskId ≠ none ∧ r = .ok s.nextQueueId ∧ s' = s.insertQueue now taskId maxAttempts) ∨
    (s.workflows.get taskId = none ∧ (∃ m, r = .error (.integrity m)) ∧ s' = s) := by
  unfold enqueue at h
  split at h
  · rename_i row hrow
    cases h
    have hp := List.find?_some hrow
    simp only [isActive, decide_eq_true_eq] at hp
    exact .inl ⟨row, hrow, Table.mem_iff_get.mp (List.mem_of_find?_eq_some hrow), hp.1, hp.2, rfl, rfl⟩
  · rename_i hnone
    rw [List.find?_eq_none] at hnone
    split at h
    · rename_i hw
      cases h
      refine .inr (.inl ⟨fun id row hr ht => ?_, by rw [← Option.isSome_iff_ne_none]; exact hw, rfl, rfl⟩)
      have := hnone row (Table.get_mem hr)
      simp only [isActive, decide_eq_true_eq, not_and, not_or] at this
      have := this ht
      cases hs : row.status <;> simp_all
    · rename_i hw
      cases h
      exact .inr (.inr ⟨by simpa using hw, ⟨_, rfl⟩, rfl⟩)

/-- A row after the sweep. -/
def swept (now : Timestamp) (r : QueueRow) : QueueRow :=
  if isExpired now r then { r with status := .pending, workerId := none, leaseUntil := none, updatedAt := now } else r

theorem sweep_get (id : Nat) : (s.sweep now).queue.get id = (s.queue.get id).map (swept now) := by
  unfold sweep
  simp only
  rw [Table.get_update]
  rfl

/-- A claim finds nothing, or takes a pending row that has come due. -/
theorem claim_cases {workerId : String} {leaseSeconds : Int} {r : Option QueueDelivery} {s' : SQLiteStore}
    (h : s.claim now workerId leaseSeconds = (r, s')) :
    (r = none ∧ s' = s.sweep now) ∨
    ∃ row, (s.sweep now).queue.get row.id = some row ∧ row.status = .pending ∧ row.availableAt ≤ now ∧
      r = some ⟨row.id, row.taskId, row.attempts + 1, row.maxAttempts, row.payload⟩ ∧
      (∀ id, s'.queue.get id = if id = row.id then
        some { row with status := .processing, attempts := row.attempts + 1, workerId := some workerId,
                        leaseUntil := some (now + seconds leaseSeconds), updatedAt := now }
        else (s.sweep now).queue.get id) ∧
      s'.workflows = s.workflows ∧ s'.approvals = s.approvals ∧ s'.toolResults = s.toolResults := by
  unfold claim at h
  simp only at h
  split at h
  · cases h; exact .inl ⟨rfl, rfl⟩
  · rename_i row hrow
    cases h
    have hmem := List.mem_filter.mp (List.argmin_mem hrow)
    have hget : (s.sweep now).queue.get row.id = some row := Table.mem_iff_get.mp hmem.1
    have hp := hmem.2
    simp only [isClaimable, Bool.and_eq_true, decide_eq_true_eq] at hp
    refine .inr ⟨row, hget, hp.1, hp.2, rfl, fun id => ?_, rfl, rfl, rfl⟩
    rw [Table.get_update]
    by_cases e : id = row.id
    · subst e; simp [hget, hp.1]
    · rw [if_neg e]
      cases hg : (s.sweep now).queue.get id with
      | none => rfl
      | some x =>
        have hk : x.id = id := Table.get_key hg
        simp [hk, e]

theorem swept_status (r : QueueRow) : (swept now r).status = if isExpired now r then .pending else r.status := by
  unfold swept; split <;> rfl

/-- A row after a claim: processing if it was claimed, as the sweep leaves it otherwise. -/
theorem claim_row {workerId : String} {leaseSeconds : Int} {r : Option QueueDelivery} {s' : SQLiteStore}
    (h : s.claim now workerId leaseSeconds = (r, s')) (id : Nat) :
    s'.queue.get id = none ∧ s.queue.get id = none ∨
    ∃ row row', s.queue.get id = some row ∧ s'.queue.get id = some row' ∧ row'.taskId = row.taskId ∧
      row'.status = (if r.any (fun d => d.id = id) then .processing else (swept now row).status) ∧
      (r.any (fun d => d.id = id) = true → (swept now row).status = .pending) := by
  rcases claim_cases h with ⟨rfl, rfl⟩ | ⟨x, hx, hst, -, rfl, hget, -⟩
  · rw [sweep_get]
    cases hrow : s.queue.get id with
    | none => exact .inl ⟨rfl, rfl⟩
    | some row => exact .inr ⟨row, _, rfl, rfl, by unfold swept; split <;> rfl, by simp, by simp⟩
  · by_cases e : id = x.id
    · subst e
      rw [sweep_get] at hx
      obtain ⟨row, hrow, rfl⟩ := Option.map_eq_some_iff.mp hx
      refine .inr ⟨row, _, hrow, (hget _).trans (if_pos rfl), ?_, by simp, fun _ => hst⟩
      show (swept now row).taskId = row.taskId
      unfold swept; split <;> rfl
    · rw [hget, if_neg e, sweep_get]
      cases hrow : s.queue.get id with
      | none => exact .inl ⟨rfl, rfl⟩
      | some row => exact .inr ⟨row, _, rfl, rfl, by unfold swept; split <;> rfl, by simp [Ne.symm e], by simp [Ne.symm e]⟩

theorem acknowledge_get (deliveryId id : Nat) :
    (s.acknowledge now deliveryId).queue.get id = (s.queue.get id).map fun r =>
      if id = deliveryId then { r with status := .completed, leaseUntil := none, updatedAt := now } else r := by
  unfold acknowledge
  simp only
  rw [Table.get_update]
  cases hg : s.queue.get id with
  | none => rfl
  | some x =>
    have hk : x.id = id := Table.get_key hg
    simp [hk]

theorem extendLease_get (delivery : QueueDelivery) (leaseSeconds : Int) (id : Nat) :
    (s.extendLease now delivery leaseSeconds).queue.get id = (s.queue.get id).map fun r =>
      if id = delivery.id ∧ r.status = .processing then
        { r with leaseUntil := some (now + seconds leaseSeconds), updatedAt := now } else r := by
  unfold extendLease
  simp only
  rw [Table.get_update]
  cases hg : s.queue.get id with
  | none => rfl
  | some x =>
    have hk : x.id = id := Table.get_key hg
    simp [hk]

/-- A retry raises and changes nothing, or puts the delivery's row back or among the dead. -/
theorem retryOrDeadLetter_cases {delivery : QueueDelivery} {error : String} {base : Seconds} {r : Except PyError Bool}
    {s' : SQLiteStore} (h : s.retryOrDeadLetter now delivery error base = (r, s')) :
    ((∃ m, r = .error (.overflow m)) ∧ s' = s) ∨
    ∃ delay, backoff base (delivery.attempts - 1) = .ok delay ∧ r = .ok (decide (delivery.maxAttempts ≤ delivery.attempts)) ∧
      (∀ id, s'.queue.get id = (s.queue.get id).map fun row => if id = delivery.id then
        { row with status := if delivery.maxAttempts ≤ delivery.attempts then .dead else .pending,
                   availableAt := if delivery.maxAttempts ≤ delivery.attempts then now else now + timedelta delay,
                   leaseUntil := none, workerId := none, lastError := some (error.take 2000).toString,
                   updatedAt := now } else row) ∧
      s'.workflows = s.workflows ∧ s'.approvals = s.approvals ∧ s'.toolResults = s.toolResults := by
  unfold retryOrDeadLetter at h
  simp only at h
  split at h
  · rename_i e he
    cases h
    refine .inl ⟨?_, rfl⟩
    unfold backoff at he
    split at he
    · cases he; exact ⟨_, rfl⟩
    · split at he <;> cases he
  · rename_i delay hdelay
    cases h
    refine .inr ⟨delay, hdelay, rfl, fun id => ?_, rfl, rfl, rfl⟩
    rw [Table.get_update]
    cases hg : s.queue.get id with
    | none => rfl
    | some x =>
      have hk : x.id = id := Table.get_key hg
      simp [hk]

end SQLiteStore

end AgentResilience
