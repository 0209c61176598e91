/-
  AgentResilience.Models — the records of the runtime (models.py, errors.py).

  A checkpoint is kept as JSON text and read back; its fields are JSON values, strings,
  integers and UTC timestamps, which come back as they were, so the model keeps the
  record itself. A timestamp is the number of microseconds since the epoch. A value of
  `AgentToolArguments` or `AgentDecision` carries the proofs that it passed validation.
-/
import AgentResilience.Lib.Json

namespace AgentResilience

abbrev Timestamp := Int

inductive WorkflowStatus where
  | queued
  | running
  | waitingForApproval
  | completed
  | failed
  | deadLettered
  | loopStopped
  | humanRejected
  deriving DecidableEq, Repr

inductive RiskLevel where
  | low
  | medium
  | high
  | blocked
  deriving DecidableEq, Repr

def RiskLevel.value : RiskLevel → String
  | low => "LOW"
  | medium => "MEDIUM"
  | high => "HIGH"
  | blocked => "BLOCKED"

inductive ToolName where
  | readAlert
  | inspectMetrics
  | queryLogs
  | dependencyHealth
  | restartService
  | deleteDatabase
  | verifyRecovery
  deriving DecidableEq, Repr

def ToolName.value : ToolName → String
  | readAlert => "read_alert"
  | inspectMetrics => "inspect_metrics"
  | queryLogs => "query_logs"
  | dependencyHealth => "dependency_health"
  | restartService => "restart_service"
  | deleteDatabase => "delete_database"
  | verifyRecovery => "verify_recovery"

theorem ToolName.value_inj {a b : ToolName} (h : a.value = b.value) : a = b := by
  cases a <;> cases b <;> first | rfl | (simp [value] at h)

/-- The exceptions of the runtime, by the class an `except` clause tells them by. -/
inductive PyError where
  | retryable (message : String)
  | concurrentUpdate (message : String)
  | permanent (message : String)
  | value (message : String)
  | http (code : Nat) (detail : String)
  | integrity (message : String)
  | overflow (message : String)
  | client (code : String)
  | botocore (name : String)
  | other (message : String)
  deriving DecidableEq, Repr

namespace PyError

def message : PyError → String
  | retryable m | concurrentUpdate m | permanent m | value m | http _ m | integrity m | overflow m | client m
  | botocore m | other m => m

/-- `except RetryableWorkflowError`; `ConcurrentUpdateError` is a subclass. -/
def isRetryable : PyError → Bool
  | retryable _ | concurrentUpdate _ => true
  | _ => false

/-- `except PermanentWorkflowError`. -/
def isPermanent : PyError → Bool
  | permanent _ => true
  | _ => false

end PyError

/-! ## Checkpoints -/

abbrev Arguments := Dict Json

structure PendingAction where
  actionId : String
  tool : ToolName
  arguments : Arguments
  risk : RiskLevel
  rationale : String

structure WorkflowState where
  taskId : String
  goal : String
  scenarioId : String := "checkout-pool-exhaustion"
  status : WorkflowStatus := .queued
  completedSteps : List String := []
  currentStep : Option String := none
  evidence : Dict Json := []
  toolHistory : List String := []
  progressHistory : List String := []
  pendingAction : Option PendingAction := none
  diagnosis : Option String := none
  remediation : Option String := none
  finalAnswer : Option String := none
  lastError : Option String := none
  retries : Nat := 0
  modelCalls : Nat := 0
  inputTokens : Nat := 0
  outputTokens : Nat := 0
  toolCalls : Nat := 0
  version : Nat := 0
  createdAt : Timestamp
  updatedAt : Timestamp

def WorkflowStatus.terminal : WorkflowStatus → Bool
  | completed | failed | deadLettered | loopStopped | humanRejected => true
  | _ => false

def WorkflowState.terminal (state : WorkflowState) : Bool := state.status.terminal

/-! ## Decisions -/

/-- `^[a-zA-Z0-9_-]+$` with one to a hundred characters. -/
def validService (s : String) : Bool :=
  1 ≤ s.length && s.length ≤ 100 && s.toList.all fun c => c.isAlphanum || c = '_' || c = '-'

def environments : List String := ["production", "staging", "test"]

structure AgentToolArguments where
  service : Option String := none
  environment : Option String := none
  dependency : Option String := none
  service_ok : service.all validService = true := by decide
  environment_ok : environment.all environments.contains = true := by decide
  dependency_ok : dependency.all (fun d => 1 ≤ d.length && d.length ≤ 100) = true := by decide

/-- `model_dump(exclude_none=True)`. -/
def AgentToolArguments.modelDump (a : AgentToolArguments) : Arguments :=
  let field := fun (k : String) (v : Option String) => (v.map fun s => (k, Json.str s)).toList
  field "service" a.service ++ field "environment" a.environment ++ field "dependency" a.dependency

inductive DecisionAction where
  | useTool
  | complete
  | fail
  deriving DecidableEq, Repr

def DecisionAction.value : DecisionAction → String
  | useTool => "use_tool"
  | complete => "complete"
  | fail => "fail"

/-- `not s` of an optional string is false. -/
def truthy (s : Option String) : Bool := s.any (· ≠ "")

structure AgentDecision where
  action : DecisionAction
  rationale : String
  tool : Option ToolName := none
  arguments : AgentToolArguments := {}
  diagnosis : Option String := none
  remediation : Option String := none
  finalAnswer : Option String := none
  rationale_ok : (1 ≤ rationale.length && rationale.length ≤ 1000) = true := by decide
  tool_ok : action = .useTool → tool.isSome = true := by decide
  service_ok : action = .useTool → truthy arguments.service = true := by decide
  answer_ok : action = .complete → truthy finalAnswer = true := by decide

/-- The tool that a decision has called; one that completes or fails has none called. -/
def AgentDecision.asked (d : AgentDecision) : Option ToolName := if d.action = .useTool then d.tool else none

theorem AgentDecision.asked_useTool {d : AgentDecision} (h : d.action = .useTool) : d.asked = d.tool := if_pos h

/-- `decision.model_dump(mode="json")`. -/
def AgentDecision.modelDump (d : AgentDecision) : Json :=
  .obj [("action", .str d.action.value), ("rationale", .str d.rationale),
    ("tool", Json.optStr (d.tool.map ToolName.value)),
    ("arguments", .obj [("service", Json.optStr d.arguments.service),
      ("environment", Json.optStr d.arguments.environment),
      ("dependency", Json.optStr d.arguments.dependency)]),
    ("diagnosis", Json.optStr d.diagnosis), ("remediation", Json.optStr d.remediation),
    ("final_answer", Json.optStr d.finalAnswer)]

def PendingAction.modelDump (p : PendingAction) : Json :=
  .obj [("action_id", .str p.actionId), ("tool", .str p.tool.value), ("arguments", .obj p.arguments),
    ("risk", .str p.risk.value), ("rationale", .str p.rationale)]

/-! ## The queue and the audit log -/

structure QueueDelivery where
  id : Nat
  taskId : String
  attempts : Nat
  maxAttempts : Nat
  payload : Json

inductive EventType where
  | workflowCreated
  | agentDecisionStarted
  | modelRetryableFailure
  | agentDecision
  | workflowCompleted
  | loopDetected
  | policyDenied
  | approvalRequired
  | chaosPauseStarted
  | approvedActionResumed
  | toolRetryableFailure
  | toolCompleted
  | workflowFailed
  | deadLettered
  | queueLeaseExtended
  | dlqReplayed
  | approvalGranted
  | approvalRejected
  deriving DecidableEq, Repr

structure EventRecord where
  id : Nat
  taskId : String
  eventType : EventType
  payload : Json
  createdAt : Timestamp

end AgentResilience
