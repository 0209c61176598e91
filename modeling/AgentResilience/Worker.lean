/-
  AgentResilience.Worker — the worker (worker.py) and the control-plane operations
  (api.py) as programs. `runOnce` claims one delivery, processes it, and settles its
  queue row on each way out. The heartbeat beside it is an operation of its own
  (`heartbeatTick`), interleaved like any other; `awaitHeartbeat` is the `finally` part.
-/
import AgentResilience.Runtime

namespace AgentResilience

open Interaction.Prog (attempt throw)

structure Settings where
  maxQueueAttempts : Nat := 5
  queueLeaseSeconds : Int := 60
  queueRetryBaseSeconds : Seconds := .finite 1

variable (rt : WorkflowRuntime) (config : Settings)

/-! ## The worker -/

/-- The body of the `try`: process the delivery, acknowledge it, and queue the next one. -/
def processDelivery (delivery : QueueDelivery) : Py Unit := do
  let state ← rt.process delivery.taskId
  onStore (.acknowledge delivery.id)
  if state.status = .queued then do
    let _ ← onStore (.enqueue state.taskId config.maxQueueAttempts)
    pure ()
  else pure ()

/-- `except RetryableWorkflowError`. -/
def onRetryable (delivery : QueueDelivery) (e : PyError) : Py Unit := do
  let dead ← onStore (.retryOrDeadLetter delivery e.message config.queueRetryBaseSeconds)
  if dead then do
    match ← onStore (.getWorkflow delivery.taskId) with
    | none => pure ()
    | some state =>
      if state.terminal then pure ()
      else do
        let state ← save { state with status := .deadLettered, lastError := some e.message }
        record state.taskId .deadLettered (.obj [("error", .str e.message)])
  else pure ()

/-- `except PermanentWorkflowError`. -/
def onPermanent (delivery : QueueDelivery) (e : PyError) : Py Unit := do
  onStore (.acknowledge delivery.id)
  match ← onStore (.getWorkflow delivery.taskId) with
  | none => pure ()
  | some state =>
    if state.terminal then pure ()
    else do
      let state ← save { state with status := .failed, lastError := some e.message }
      record state.taskId .workflowFailed (.obj [("category", .str "permanent"), ("reason", .str e.message)])

/-- The `try` with its `except` clauses. -/
def handleDelivery (delivery : QueueDelivery) : Py Unit := do
  match ← attempt (processDelivery rt config delivery) with
  | .ok () => pure ()
  | .error e =>
    if e.isRetryable then onRetryable config delivery e
    else if e.isPermanent then onPermanent delivery e
    else throw e

def updateDepth : Py Unit := do
  let _ ← onStore .queueCounts
  pure ()

def awaitHeartbeat : Py Unit := .perform Call.awaitHeartbeat

def runOnce (workerId : String) : Py Bool := do
  match ← onStore (.claim workerId config.queueLeaseSeconds) with
  | none => do
    updateDepth
    pure false
  | some delivery => do
    let outcome ← attempt (handleDelivery rt config delivery)
    awaitHeartbeat
    match outcome with
    | .error e => throw e
    | .ok () => do
      updateDepth
      pure true

/-- One turn of `_heartbeat`. -/
def heartbeatTick (workerId : String) (delivery : QueueDelivery) : Py Unit := do
  onStore (.extendLease delivery config.queueLeaseSeconds)
  record delivery.taskId .queueLeaseExtended
    (.obj [("worker_id", .str workerId), ("lease_seconds", .int config.queueLeaseSeconds)])

/-! ## The control plane -/

def clock : Py Timestamp := .perform Call.clock

/-- `created_at` and `updated_at` are two defaults that each read the clock; here they are one reading. -/
def createIncident (taskId goal scenarioId : String) : Py WorkflowState := do
  let now ← clock
  onStore (.createWorkflow { taskId, goal, scenarioId, createdAt := now, updatedAt := now } config.maxQueueAttempts)

def required (taskId : String) : Py WorkflowState := do
  match ← onStore (.getWorkflow taskId) with
  | none => throw (.http 404 "workflow not found")
  | some state => pure state

def decisionPayload (actor : String) (reason : Option String) : Json :=
  .obj [("actor", .str actor), ("reason", Json.optStr reason)]

def approve (taskId actor : String) (reason : Option String) : Py WorkflowState := do
  let state ← required taskId
  match state.status, state.pendingAction with
  | .waitingForApproval, some pending => do
    onStore (.resolveApproval taskId pending.actionId true actor reason)
    let state ← save { state with status := .queued }
    record taskId .approvalGranted (decisionPayload actor reason)
    let _ ← onStore (.enqueue taskId config.maxQueueAttempts)
    pure state
  | _, _ => throw (.http 409 "workflow is not waiting for approval")

def reject (taskId actor : String) (reason : Option String) : Py WorkflowState := do
  let state ← required taskId
  match state.status, state.pendingAction with
  | .waitingForApproval, some pending => do
    onStore (.resolveApproval taskId pending.actionId false actor reason)
    let lastError := if truthy reason then reason else some "human rejected the proposed action"
    let state ← save { state with status := .humanRejected, lastError, pendingAction := none }
    record taskId .approvalRejected (decisionPayload actor reason)
    pure state
  | _, _ => throw (.http 409 "workflow is not waiting for approval")

def replay (deliveryId : Nat) (taskId actor reason : String) : Py WorkflowState := do
  match ← onStore (.replayDeadLetter deliveryId taskId config.maxQueueAttempts actor reason) with
  | none => throw (.http 404 "dead-letter delivery not found")
  | some state => pure state

/-! ## Operations -/

/-- The operations a process can start. -/
inductive Operation where
  | runOnce (workerId : String)
  | heartbeatTick (workerId : String) (delivery : QueueDelivery)
  | createIncident (taskId goal scenarioId : String)
  | approve (taskId actor : String) (reason : Option String)
  | reject (taskId actor : String) (reason : Option String)
  | replay (deliveryId : Nat) (taskId actor reason : String)

inductive Reply where
  | done
  | processed (b : Bool)
  | state (s : WorkflowState)

def Operation.program : Operation → Py Reply
  | runOnce workerId => do return .processed (← AgentResilience.runOnce rt config workerId)
  | heartbeatTick workerId delivery => do
    AgentResilience.heartbeatTick config workerId delivery
    return .done
  | createIncident taskId goal scenarioId => do
    return .state (← AgentResilience.createIncident config taskId goal scenarioId)
  | approve taskId actor reason => do return .state (← AgentResilience.approve config taskId actor reason)
  | reject taskId actor reason => do return .state (← AgentResilience.reject taskId actor reason)
  | replay deliveryId taskId actor reason => do
    return .state (← AgentResilience.replay config deliveryId taskId actor reason)

end AgentResilience
