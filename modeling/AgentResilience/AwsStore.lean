/-
  AgentResilience.AwsStore — the AWS store (aws_store.py): checkpoints, audit events, the
  idempotency ledger and approvals as items of one DynamoDB table, deliveries as messages of
  two SQS queues. A method is a program over the clients' calls, each of which may raise.

  `AwsEffect` is what a call does when AWS serves it: a write takes effect together with its
  condition, a read sees every write before it. `aws faults` also lets a call raise an error
  that `faults` has for it, without effect. DynamoDB refuses an item over 400 KB: among
  `faults` that is an error like any other, and an item that is served may be of any size
  (`EventLog.recordEvent` refuses the events that are too large).
-/
import AgentResilience.Contracts
import AgentResilience.Lib.DateTime
import AgentResilience.Lib.Items

namespace AgentResilience

open Interaction
open Interaction.Prog (attempt throw)

/-! ## Items and messages -/

abbrev ItemKey := String × String

/-- An item's attributes beside its key. -/
structure Item where
  entityType : Option String := none
  version : Option Nat := none
  stateJson : Option WorkflowState := none
  updatedAt : Option Timestamp := none
  eventId : Option String := none
  taskId : Option String := none
  eventType : Option EventType := none
  payloadJson : Option Json := none
  toolName : Option String := none
  argumentsHash : Option String := none
  resultJson : Option Json := none
  status : Option ApprovalStatus := none
  actor : Option String := none
  reason : Option String := none
  createdAt : Option Timestamp := none
  resolvedAt : Option Timestamp := none

inductive Condition where
  | always
  /-- `attribute_not_exists(pk)`: every item has its key's attributes. -/
  | absent
  /-- `version=:expected`. -/
  | version (expected : Nat)
  /-- `#status=:pending`. -/
  | status (expected : ApprovalStatus)

def Condition.holds : Condition → Option Item → Bool
  | always, _ => true
  | absent, item => item.isNone
  | version expected, item => item.any fun x => x.version = some expected
  | status expected, item => item.any fun x => x.status = some expected

inductive ItemUpdate where
  /-- `SET state_json=:state, version=:next, updated_at=:updated`. -/
  | checkpoint (state : WorkflowState) (next : Nat) (updated : Timestamp)
  /-- `SET #status=:status, actor=:actor, reason=:reason, resolved_at=:resolved`. -/
  | resolution (status : ApprovalStatus) (actor reason : String) (resolved : Timestamp)

/-- An item that is not there is made with the attributes set. -/
def ItemUpdate.apply (u : ItemUpdate) (item : Option Item) : Item :=
  match u with
  | checkpoint state next updated =>
    { item.getD {} with stateJson := some state, version := some next, updatedAt := some updated }
  | resolution status actor reason resolved =>
    { item.getD {} with status := some status, actor := some actor, reason := some reason, resolvedAt := some resolved }

structure SqsMessage where
  receiptHandle : String
  body : Json

inductive QueueName where
  | work
  | dead
  deriving DecidableEq

abbrev SqsQueue := Table String SqsMessage (·.receiptHandle)

structure AwsState where
  table : Items ItemKey Item
  work : SqsQueue
  dead : SqsQueue

namespace AwsState

def empty : AwsState := ⟨.empty, .empty, .empty⟩

variable (s : AwsState)

def queue : QueueName → SqsQueue
  | .work => s.work
  | .dead => s.dead

def withQueue (messages : SqsQueue) : QueueName → AwsState
  | .work => { s with work := messages }
  | .dead => { s with dead := messages }

end AwsState

/-! ## The clients -/

inductive DurableCall where
  | getItem (key : ItemKey)
  | putItem (key : ItemKey) (item : Item) (condition : Condition)
  | updateItem (key : ItemKey) (update : ItemUpdate) (condition : Condition)
  | sendMessage (queue : QueueName) (body : Json)
  | deleteMessage (queue : QueueName) (receiptHandle : String)
  | utcNow
  /-- `uuid.uuid4().hex`. -/
  | uuid4

abbrev DurableCall.Ret : DurableCall → Type
  | getItem _ => Option Item
  | putItem .. | updateItem .. | deleteMessage .. => Unit
  | sendMessage .. | uuid4 => String
  | utcNow => Timestamp

abbrev AwsPy (α : Type) : Type := Prog DurableCall DurableCall.Ret PyError α

def conditionalCheckFailed : String := "ConditionalCheckFailedException"

/-- A write whose condition decides. -/
def WriteEffect (written : Option (Items ItemKey Item)) (s : AwsState) (r : Except PyError Unit) (s' : AwsState) : Prop :=
  match written with
  | none => r = .error (.client conditionalCheckFailed) ∧ s' = s
  | some table => r = .ok () ∧ s' = { s with table }

/-- What a call that AWS serves answers and does. A receipt that no message has is an error or
    nothing. -/
def AwsEffect : (c : DurableCall) → AwsState → Except PyError c.Ret → AwsState → Prop
  | .getItem key, s, r, s' => r = .ok (s.table key) ∧ s' = s
  | .putItem key item condition, s, r, s' => WriteEffect (s.table.put key item condition.holds) s r s'
  | .updateItem key update condition, s, r, s' => WriteEffect (s.table.update key update.apply condition.holds) s r s'
  | .sendMessage name body, s, r, s' => ∃ messageId receipt messages,
      (s.queue name).insert ⟨receipt, body⟩ = some messages ∧ r = .ok messageId ∧ s' = s.withQueue messages name
  | .deleteMessage name receipt, s, r, s' =>
    (r = .ok () ∧ s' = s.withQueue ((s.queue name).delete receipt) name) ∨
      (s.queue name).get receipt = none ∧ (∃ code, r = .error (.client code)) ∧ s' = s
  | .utcNow, s, r, s' => (∃ t, r = .ok t) ∧ s' = s
  | .uuid4, s, r, s' => (∃ hex, r = .ok hex) ∧ s' = s

/-- AWS with errors of its own. -/
def aws (faults : DurableCall → PyError → Prop) : Service DurableCall DurableCall.Ret PyError AwsState := fun c s r s' =>
  AwsEffect c s r s' ∨ ∃ e, faults c e ∧ r = .error e ∧ s' = s

def noFaults : DurableCall → PyError → Prop := fun _ _ => False

/-- Every call of a client may raise, with any code. -/
def anyFault : DurableCall → PyError → Prop
  | .utcNow, _ | .uuid4, _ => False
  | _, e => (∃ code, e = .client code) ∨ ∃ name, e = .botocore name

/-! ## The store -/

def retryableCodes : List String :=
  ["InternalError", "InternalServerError", "ProvisionedThroughputExceededException", "RequestLimitExceeded",
   "RequestThrottled", "ServiceUnavailable", "ThrottlingException"]

/-- `_aws_error`. -/
def awsError (operation code : String) : PyError :=
  if code ∈ retryableCodes || code.startsWith "Throttl" then .retryable s!"AWS {operation} failed ({code})"
  else .permanent s!"AWS {operation} failed ({code})"

/-- `except ClientError as error: raise self._aws_error(operation, error)`. -/
def orAwsError {α : Type} (operation : String) (p : AwsPy α) : AwsPy α := do
  match ← attempt p with
  | .ok a => pure a
  | .error (.client code) => throw (awsError operation code)
  | .error e => throw e

def onDynamo (c : DurableCall) : AwsPy c.Ret := .perform c

structure AWSDurableStore where
  dlqUrl : Option String := none

namespace AWSDurableStore

def workflowPk (taskId : String) : String := "WORKFLOW#" ++ taskId

def stateKey (taskId : String) : ItemKey := (workflowPk taskId, "STATE")

def approvalKey (taskId actionId : String) : ItemKey := (workflowPk taskId, "APPROVAL#" ++ actionId)

def resultKey (key : String) : ItemKey := ("IDEMPOTENCY#" ++ key, "RESULT")

def eventKey (taskId eventId : String) : ItemKey := (workflowPk taskId, "EVENT#" ++ eventId)

def recordEvent (taskId : String) (eventType : EventType) (payload : Json) : AwsPy Unit := do
  let created ← onDynamo .utcNow
  let hex ← onDynamo .uuid4
  let eventId := (DateTime.ofMicroseconds created).isoformat ++ "#" ++ hex
  orAwsError "record audit event" (onDynamo (.putItem (eventKey taskId eventId)
    { entityType := some "EVENT", eventId := some eventId, taskId := some taskId, eventType := some eventType,
      payloadJson := some payload, createdAt := some created } .always))

def messageBody (taskId : String) (maxAttempts : Nat) : Json :=
  .obj [("task_id", .str taskId), ("max_attempts", .int maxAttempts), ("payload", .obj [])]

def enqueue (taskId : String) (maxAttempts : Nat) : AwsPy String :=
  orAwsError "enqueue task" (onDynamo (.sendMessage .work (messageBody taskId maxAttempts)))

def createWorkflow (state : WorkflowState) (maxAttempts : Nat) : AwsPy WorkflowState := do
  match ← attempt (onDynamo (.putItem (stateKey state.taskId)
      { entityType := some "WORKFLOW", version := some state.version, stateJson := some state,
        updatedAt := some state.updatedAt } .absent)) with
  | .error (.client code) =>
    if code = conditionalCheckFailed then throw (.permanent s!"workflow already exists: {state.taskId}")
    else throw (awsError "create workflow" code)
  | .error e => throw e
  | .ok () => do
    recordEvent state.taskId .workflowCreated (.obj [("goal", .str state.goal)])
    let _ ← enqueue state.taskId maxAttempts
    pure state

def getWorkflow (taskId : String) : AwsPy (Option WorkflowState) := do
  match ← orAwsError "read checkpoint" (onDynamo (.getItem (stateKey taskId))) with
  | none => pure none
  | some item =>
    match item.stateJson with
    | none => throw (.other "KeyError: 'state_json'")
    | some state => pure (some state)

def saveWorkflow (state : WorkflowState) (expectedVersion : Nat) : AwsPy WorkflowState := do
  let updatedAt ← onDynamo .utcNow
  let state := { state with version := expectedVersion + 1, updatedAt }
  match ← attempt (onDynamo (.updateItem (stateKey state.taskId) (.checkpoint state state.version state.updatedAt)
      (.version expectedVersion))) with
  | .error (.client code) =>
    if code = conditionalCheckFailed then throw (.concurrentUpdate s!"stale checkpoint for {state.taskId}")
    else throw (awsError "save checkpoint" code)
  | .error e => throw e
  | .ok () => pure state

def getToolResult (key : String) (arguments : Arguments) : AwsPy (Option Json) := do
  match ← orAwsError "read idempotency result" (onDynamo (.getItem (resultKey key))) with
  | none => pure none
  | some item =>
    match item.argumentsHash, item.resultJson with
    | none, _ => throw (.other "KeyError: 'arguments_hash'")
    | some hash, result =>
      if hash ≠ argumentsHash arguments then throw (.value "idempotency key reused with different arguments")
      else match result with
        | none => throw (.other "KeyError: 'result_json'")
        | some result => pure (some result)

def saveToolResult (key taskId tool : String) (arguments : Arguments) (result : Json) : AwsPy Unit := do
  let created ← onDynamo .utcNow
  match ← attempt (onDynamo (.putItem (resultKey key)
      { entityType := some "TOOL_RESULT", taskId := some taskId, toolName := some tool,
        argumentsHash := some (argumentsHash arguments), resultJson := some result, createdAt := some created }
      .absent)) with
  | .error (.client code) =>
    if code ≠ conditionalCheckFailed then throw (awsError "save idempotency result" code) else pure ()
  | .error e => throw e
  | .ok () => pure ()

def createApproval (taskId actionId : String) : AwsPy Unit := do
  let created ← onDynamo .utcNow
  match ← attempt (onDynamo (.putItem (approvalKey taskId actionId)
      { entityType := some "APPROVAL", status := some .pending, createdAt := some created } .absent)) with
  | .error (.client code) =>
    if code ≠ conditionalCheckFailed then throw (awsError "create approval" code) else pure ()
  | .error e => throw e
  | .ok () => pure ()

def resolveApproval (taskId actionId : String) (approved : Bool) (actor : String) (reason : Option String) :
    AwsPy Unit := do
  let resolved ← onDynamo .utcNow
  match ← attempt (onDynamo (.updateItem (approvalKey taskId actionId)
      (.resolution (if approved then .approved else .rejected) actor (reason.getD "") resolved) (.status .pending))) with
  | .error (.client code) =>
    if code = conditionalCheckFailed then throw (.value "approval is not pending")
    else throw (awsError "resolve approval" code)
  | .error e => throw e
  | .ok () => pure ()

def approvalStatus (taskId actionId : String) : AwsPy (Option ApprovalStatus) := do
  match ← orAwsError "read approval" (onDynamo (.getItem (approvalKey taskId actionId))) with
  | none => pure none
  | some item =>
    match item.status with
    | none => throw (.other "KeyError: 'status'")
    | some status => pure (some status)

variable (self : AWSDurableStore)

def replayDeadLetter (deliveryId taskId : String) (maxAttempts : Nat) (actor reason : String) :
    AwsPy (Option WorkflowState) := do
  match self.dlqUrl with
  | none => pure none
  | some _ =>
    match ← getWorkflow taskId with
    | none => pure none
    | some state => do
      let state ← saveWorkflow { state with status := .queued, lastError := none } state.version
      orAwsError "replay dead letter" (do
        let _ ← onDynamo (.sendMessage .work (messageBody taskId maxAttempts))
        onDynamo (.deleteMessage .dead deliveryId))
      recordEvent taskId .dlqReplayed (.obj [("actor", .str actor), ("reason", .str reason)])
      pure (some state)

end AWSDurableStore

end AgentResilience
