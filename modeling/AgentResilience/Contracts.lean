/-
  AgentResilience.Contracts — the calls a running part of the program makes
  (contracts.py, and the protocols of decision.py and tools.py): store methods, the
  decision engine, the tool backend, AWS clients, the clock. `Py α` is a program over
  these calls; every call may raise.

  `StoreCall.apply` is the SQLite store's answer to a store call.
-/
import AgentResilience.Lib.Sequential
import AgentResilience.Store

namespace AgentResilience

inductive StoreCall where
  | createWorkflow (state : WorkflowState) (maxAttempts : Nat)
  | getWorkflow (taskId : String)
  | saveWorkflow (state : WorkflowState) (expectedVersion : Nat)
  | enqueue (taskId : String) (maxAttempts : Nat)
  | claim (workerId : String) (leaseSeconds : Int)
  | extendLease (delivery : QueueDelivery) (leaseSeconds : Int)
  | acknowledge (deliveryId : Nat)
  | retryOrDeadLetter (delivery : QueueDelivery) (error : String) (baseDelaySeconds : Seconds)
  | recordEvent (taskId : String) (eventType : EventType) (payload : Json)
  | getToolResult (key : String) (arguments : Arguments)
  | saveToolResult (key taskId tool : String) (arguments : Arguments) (result : Json)
  | createApproval (taskId actionId : String)
  | resolveApproval (taskId actionId : String) (approved : Bool) (actor : String) (reason : Option String)
  | approvalStatus (taskId actionId : String)
  | queueCounts
  | replayDeadLetter (deliveryId : Nat) (taskId : String) (maxAttempts : Nat) (actor reason : String)

abbrev StoreCall.Ret : StoreCall → Type
  | createWorkflow .. | saveWorkflow .. => WorkflowState
  | getWorkflow _ | replayDeadLetter .. => Option WorkflowState
  | enqueue .. => Nat
  | claim .. => Option QueueDelivery
  | retryOrDeadLetter .. => Bool
  | getToolResult .. => Option Json
  | approvalStatus .. => Option ApprovalStatus
  | queueCounts => List (QueueStatus × Nat)
  | extendLease .. | acknowledge _ | recordEvent .. | saveToolResult .. | createApproval .. | resolveApproval .. => Unit

def StoreCall.apply : (c : StoreCall) → SQLiteStore → Timestamp → Except PyError c.Ret × SQLiteStore
  | createWorkflow state maxAttempts, s, now => s.createWorkflow now state maxAttempts
  | getWorkflow taskId, s, _ => (.ok (s.getWorkflow taskId), s)
  | saveWorkflow state expectedVersion, s, now => s.saveWorkflow now state expectedVersion
  | enqueue taskId maxAttempts, s, now => s.enqueue now taskId maxAttempts
  | claim workerId leaseSeconds, s, now => let r := s.claim now workerId leaseSeconds; (.ok r.1, r.2)
  | extendLease delivery leaseSeconds, s, now => (.ok (), s.extendLease now delivery leaseSeconds)
  | acknowledge deliveryId, s, now => (.ok (), s.acknowledge now deliveryId)
  | retryOrDeadLetter delivery error base, s, now => s.retryOrDeadLetter now delivery error base
  | recordEvent taskId eventType payload, s, now => (.ok (), s.recordEvent now taskId eventType payload)
  | getToolResult key arguments, s, _ => (s.getToolResult key arguments, s)
  | saveToolResult key taskId tool arguments result, s, now =>
    (.ok (), s.saveToolResult now key taskId tool arguments result)
  | createApproval taskId actionId, s, now => (.ok (), s.createApproval now taskId actionId)
  | resolveApproval taskId actionId approved actor reason, s, now =>
    s.resolveApproval now taskId actionId approved actor reason
  | approvalStatus taskId actionId, s, _ => (.ok (s.approvalStatus taskId actionId), s)
  | queueCounts, s, _ => (.ok s.queueCounts, s)
  | replayDeadLetter deliveryId taskId maxAttempts actor reason, s, now =>
    let r := s.replayDeadLetter now deliveryId taskId maxAttempts actor reason
    (.ok r.1, r.2)

/-- The calls that write checkpoints. -/
def StoreCall.writesWorkflows : StoreCall → Bool
  | createWorkflow .. | saveWorkflow .. | replayDeadLetter .. => true
  | _ => false

/-- The calls that write approvals. -/
def StoreCall.writesApprovals : StoreCall → Bool
  | createApproval .. | resolveApproval .. => true
  | _ => false

/-- The calls that write the idempotency ledger. -/
def StoreCall.writesLedger : StoreCall → Bool
  | saveToolResult .. => true
  | _ => false

/-- The calls that write the queue. -/
def StoreCall.writesQueue : StoreCall → Bool
  | createWorkflow .. | enqueue .. | claim .. | extendLease .. | acknowledge _ | retryOrDeadLetter ..
  | replayDeadLetter .. => true
  | _ => false

theorem enqueue_frame (s : SQLiteStore) (now : Timestamp) (taskId : String) (maxAttempts : Nat) :
    (s.enqueue now taskId maxAttempts).2.workflows = s.workflows ∧
      (s.enqueue now taskId maxAttempts).2.approvals = s.approvals ∧
      (s.enqueue now taskId maxAttempts).2.toolResults = s.toolResults := by
  unfold SQLiteStore.enqueue
  split
  · exact ⟨rfl, rfl, rfl⟩
  · split <;> exact ⟨rfl, rfl, rfl⟩

theorem claim_frame (s : SQLiteStore) (now : Timestamp) (workerId : String) (leaseSeconds : Int) :
    (s.claim now workerId leaseSeconds).2.workflows = s.workflows ∧
      (s.claim now workerId leaseSeconds).2.approvals = s.approvals ∧
      (s.claim now workerId leaseSeconds).2.toolResults = s.toolResults := by
  unfold SQLiteStore.claim
  simp only
  split <;> exact ⟨rfl, rfl, rfl⟩

theorem retryOrDeadLetter_frame (s : SQLiteStore) (now : Timestamp) (d : QueueDelivery) (e : String) (b : Seconds) :
    (s.retryOrDeadLetter now d e b).2.workflows = s.workflows ∧
      (s.retryOrDeadLetter now d e b).2.approvals = s.approvals ∧
      (s.retryOrDeadLetter now d e b).2.toolResults = s.toolResults := by
  unfold SQLiteStore.retryOrDeadLetter
  simp only
  split <;> exact ⟨rfl, rfl, rfl⟩

namespace StoreCall

theorem apply_workflows {c : StoreCall} (h : c.writesWorkflows = false) (s : SQLiteStore) (now : Timestamp) :
    (c.apply s now).2.workflows = s.workflows := by
  cases c with
  | createWorkflow | saveWorkflow | replayDeadLetter => cases h
  | enqueue => exact (enqueue_frame ..).1
  | claim => exact (claim_frame ..).1
  | retryOrDeadLetter => exact (retryOrDeadLetter_frame ..).1
  | resolveApproval => simp only [apply, SQLiteStore.resolveApproval]; split <;> rfl
  | _ => rfl

theorem apply_approvals {c : StoreCall} (h : c.writesApprovals = false) (s : SQLiteStore) (now : Timestamp) :
    (c.apply s now).2.approvals = s.approvals := by
  cases c with
  | createApproval | resolveApproval => cases h
  | enqueue => exact (enqueue_frame ..).2.1
  | claim => exact (claim_frame ..).2.1
  | retryOrDeadLetter => exact (retryOrDeadLetter_frame ..).2.1
  | createWorkflow => simp only [apply, SQLiteStore.createWorkflow]; split <;> rfl
  | saveWorkflow => simp only [apply, SQLiteStore.saveWorkflow]; split <;> rfl
  | replayDeadLetter =>
    simp only [apply, SQLiteStore.replayDeadLetter]
    split
    · rfl
    · split <;> rfl
  | _ => rfl

theorem apply_ledger {c : StoreCall} (h : c.writesLedger = false) (s : SQLiteStore) (now : Timestamp) :
    (c.apply s now).2.toolResults = s.toolResults := by
  cases c with
  | saveToolResult => cases h
  | enqueue => exact (enqueue_frame ..).2.2
  | claim => exact (claim_frame ..).2.2
  | retryOrDeadLetter => exact (retryOrDeadLetter_frame ..).2.2
  | createWorkflow => simp only [apply, SQLiteStore.createWorkflow]; split <;> rfl
  | saveWorkflow => simp only [apply, SQLiteStore.saveWorkflow]; split <;> rfl
  | resolveApproval => simp only [apply, SQLiteStore.resolveApproval]; split <;> rfl
  | replayDeadLetter =>
    simp only [apply, SQLiteStore.replayDeadLetter]
    split
    · rfl
    · split <;> rfl
  | _ => rfl

theorem apply_queue {c : StoreCall} (h : c.writesQueue = false) (s : SQLiteStore) (now : Timestamp) :
    (c.apply s now).2.queue = s.queue := by
  cases c with
  | createWorkflow | enqueue | claim | extendLease | acknowledge | retryOrDeadLetter | replayDeadLetter => cases h
  | saveWorkflow => simp only [apply, SQLiteStore.saveWorkflow]; split <;> rfl
  | resolveApproval => simp only [apply, SQLiteStore.resolveApproval]; split <;> rfl
  | _ => rfl

end StoreCall

/-! ## AWS clients -/

structure Alarm where
  name : String
  stateValue : String
  stateReason : Option String
  stateUpdated : Option Timestamp

/-- A datapoint: its time and its other fields. -/
structure Datapoint where
  timestamp : Timestamp
  fields : Dict Json

structure LogEvent where
  timestamp : Int
  message : String

structure Deployment where
  id : Option String
  status : Option String
  rolloutState : Option String

structure EcsService where
  status : Option String
  desiredCount : Option Nat
  runningCount : Option Nat
  pendingCount : Option Nat
  deployments : Option (List Deployment)

structure ServiceDescription where
  failures : List (Option String)
  services : List EcsService

inductive AwsCall where
  | describeAlarms (alarmNamePrefix : String) (maxRecords : Nat)
  | getMetricStatistics (metricNamespace metricName : String) (dimensions : List (String × String))
      (startTime endTime : Timestamp) (period : Nat) (statistics extendedStatistics : List String)
  | filterLogEvents (logGroupName : String) (startTime : Int) (filterPattern : String) (limit : Nat)
  | describeServices (cluster : String) (services : List String)
  | updateService (cluster service : String) (forceNewDeployment : Bool)

abbrev AwsCall.Ret : AwsCall → Type
  | describeAlarms .. => List Alarm
  | getMetricStatistics .. => List Datapoint
  | filterLogEvents .. => List LogEvent
  | describeServices .. => ServiceDescription
  | updateService .. => EcsService

/-! ## Programs -/

inductive Call where
  | store (c : StoreCall)
  | clock
  /-- `heartbeat.cancel()` and `await heartbeat`. -/
  | awaitHeartbeat
  | decide (state : WorkflowState)
  | takeUsage
  | execute (state : WorkflowState) (tool : ToolName) (arguments : Arguments) (attempt : Nat)
  | aws (c : AwsCall)

abbrev Call.Ret : Call → Type
  | store c => c.Ret
  | clock => Timestamp
  | awaitHeartbeat => Unit
  | decide _ => AgentDecision
  | takeUsage => Nat × Nat
  | execute .. => Json
  | aws c => c.Ret

abbrev Py (α : Type) : Type := Interaction.Prog Call Call.Ret PyError α

def onStore (c : StoreCall) : Py c.Ret := .perform (Call.store c)

def onAws (c : AwsCall) : Py c.Ret := .perform (Call.aws c)

/-- `saveWorkflow(state, state.version)`. -/
def save (state : WorkflowState) : Py WorkflowState := onStore (.saveWorkflow state state.version)

def record (taskId : String) (eventType : EventType) (payload : Json) : Py Unit :=
  onStore (.recordEvent taskId eventType payload)

structure DecisionEngine where
  decide : WorkflowState → Py AgentDecision
  takeUsage : Py (Nat × Nat)

abbrev ToolBackend := WorkflowState → ToolName → Arguments → Nat → Py Json

/-- An engine that answers whatever the outside decides, or raises. -/
def anyEngine : DecisionEngine := ⟨fun state => .perform (Call.decide state), .perform Call.takeUsage⟩

/-- A backend that answers whatever the outside decides, or raises. -/
def anyBackend : ToolBackend := fun state tool arguments attempt => .perform (Call.execute state tool arguments attempt)

end AgentResilience
