/-
  AgentResilience.Runtime — one bounded action a delivery (runtime.py, and the gateway of
  tools.py). `process` loads the checkpoint, resumes an approved action or asks the
  engine for a decision, checkpoints it, and runs it through the gateway; its branches
  are the definitions below, in the order the source has them.
-/
import AgentResilience.Contracts
import AgentResilience.LoopDetector

namespace AgentResilience

open Interaction.Prog (attempt ofExcept throw)

/-! ## The gateway -/

/-- `ToolGateway.execute`: the result, and whether the ledger had it. -/
def gatewayExecute (backend : ToolBackend) (state : WorkflowState) (tool : ToolName) (arguments : Arguments) :
    Py (Json × Bool) := do
  let (validated, decision) ← ofExcept (validateAndDecide tool arguments)
  if !decision.allowed then throw (.permanent decision.reason)
  else do
    let key := actionId state.taskId tool validated
    match ← onStore (.getToolResult key validated) with
    | some cached => pure (cached, true)
    | none => do
      let calls := state.toolHistory.count tool.value
      let result ← backend state tool validated calls
      if !result.nonEmptyObj then throw (.retryable s!"{tool.value} returned invalid structured output")
      else do
        onStore (.saveToolResult key state.taskId tool.value validated result)
        pure (result, false)

/-! ## The runtime -/

structure WorkflowRuntime where
  engine : DecisionEngine := anyEngine
  backend : ToolBackend := anyBackend
  loopDetector : LoopDetector := {}
  chaosPauseTool : Option String := none
  chaosPauseAfterSteps : Option Nat := none
  chaosPauseSeconds : Decimal := ⟨false, 0, 0⟩

def progressFingerprint (evidence : Dict Json) : String :=
  ((Sha256.hexdigest ((Json.obj evidence).dumps Json.sorted)).take 16).toString

def requiredState (taskId : String) : Py WorkflowState := do
  match ← onStore (.getWorkflow taskId) with
  | none => throw (.permanent s!"unknown workflow: {taskId}")
  | some state => pure state

/-- `_fail`. -/
def failWorkflow (state : WorkflowState) (reason category : String) : Py WorkflowState := do
  let state ← save { state with status := .failed, lastError := some reason, currentStep := none }
  record state.taskId .workflowFailed (.obj [("category", .str category), ("reason", .str reason)])
  pure state

/-- The checkpoint after a tool returned `result`. -/
def toolCompleted (state : WorkflowState) (tool : ToolName) (result : Json) : WorkflowState :=
  let evidence := state.evidence.set tool.value result
  { state with
    toolCalls := state.toolCalls + 1
    evidence
    completedSteps := if tool.value ∈ state.completedSteps then state.completedSteps
      else state.completedSteps ++ [tool.value]
    pendingAction := none
    currentStep := none
    lastError := none
    status := .queued
    progressHistory := state.progressHistory ++ [progressFingerprint evidence] }

namespace WorkflowRuntime

variable (rt : WorkflowRuntime)

def executeTool (state : WorkflowState) (tool : ToolName) (arguments : Arguments) : Py WorkflowState := do
  match ← attempt (gatewayExecute rt.backend state tool arguments) with
  | .error e =>
    if e.isRetryable then do
      let saved ← save { state with retries := state.retries + 1, lastError := some e.message, status := .queued }
      record saved.taskId .toolRetryableFailure (.obj [("tool", .str tool.value), ("error", .str e.message)])
      throw e
    else if e.isPermanent then failWorkflow state e.message "tool"
    else throw e
  | .ok (result, cached) => do
    let state ← save (toolCompleted state tool result)
    record state.taskId .toolCompleted
      (.obj [("tool", .str tool.value), ("cached", .bool cached), ("result", result)])
    pure state

def resumeApprovedAction (state : WorkflowState) (pending : PendingAction) : Py WorkflowState := do
  let approval ← onStore (.approvalStatus state.taskId pending.actionId)
  if approval ≠ some .approved then pure { state with status := .waitingForApproval }
  else do
    record state.taskId .approvedActionResumed (.obj [("action_id", .str pending.actionId)])
    rt.executeTool state pending.tool pending.arguments

/-- The approval pause. -/
def pauseForApproval (taskId : String) (state : WorkflowState) (pending : PendingAction) : Py WorkflowState := do
  let state ← save { state with pendingAction := some pending, status := .waitingForApproval }
  onStore (.createApproval taskId pending.actionId)
  record taskId .approvalRequired pending.modelDump
  pure state

/-- The checkpointed decision to use `tool`. -/
def decided (state : WorkflowState) (tool : ToolName) : WorkflowState :=
  { state with
    currentStep := some tool.value
    toolHistory := state.toolHistory ++ [tool.value]
    progressHistory := state.progressHistory ++ [progressFingerprint state.evidence] }

/-- The chaos pause is due before `tool`. -/
def chaosPauseDue (state : WorkflowState) (tool : ToolName) : Bool :=
  rt.chaosPauseSeconds.digits ≠ 0 && !rt.chaosPauseSeconds.neg &&
    (rt.chaosPauseTool == some tool.value || rt.chaosPauseAfterSteps == some state.completedSteps.length)

/-- A checkpointed tool decision, through the policy. -/
def runDecided (taskId : String) (state : WorkflowState) (decision : AgentDecision) (tool : ToolName)
    (arguments : Arguments) (policy : PolicyDecision) : Py WorkflowState := do
  if !policy.allowed then do
    record taskId .policyDenied (.obj [("tool", .str tool.value), ("reason", .str policy.reason)])
    failWorkflow state policy.reason "policy"
  else if policy.approvalRequired then
    pauseForApproval taskId state
      ⟨actionId state.taskId tool arguments, tool, arguments, policy.risk, decision.rationale⟩
  else if rt.chaosPauseDue state tool then do
    record taskId .chaosPauseStarted
      (.obj [("tool", .str tool.value), ("seconds", .float rt.chaosPauseSeconds)])
    rt.executeTool state tool arguments
  else rt.executeTool state tool arguments

def useTool (taskId : String) (state : WorkflowState) (decision : AgentDecision) (tool : ToolName) :
    Py WorkflowState := do
  let (arguments, policy) ← ofExcept (validateAndDecide tool decision.arguments.modelDump)
  let state := decided state tool
  match rt.loopDetector.reason state.toolHistory state.progressHistory with
  | some reason => do
    let state ← save { state with status := .loopStopped, lastError := some reason }
    record taskId .loopDetected
      (.obj [("reason", .str reason), ("history", .arr ((lastN 12 state.toolHistory).map .str))])
    pure state
  | none => do
    let state ← save state
    rt.runDecided taskId state decision tool arguments policy

/-- The counters and findings of a decision. -/
def absorb (state : WorkflowState) (decision : AgentDecision) (usage : Nat × Nat) : WorkflowState :=
  { state with
    modelCalls := state.modelCalls + 1
    inputTokens := state.inputTokens + usage.1
    outputTokens := state.outputTokens + usage.2
    diagnosis := if truthy decision.diagnosis then decision.diagnosis else state.diagnosis
    remediation := if truthy decision.remediation then decision.remediation else state.remediation }

def applyDecision (taskId : String) (state : WorkflowState) (decision : AgentDecision) : Py WorkflowState := do
  let usage ← rt.engine.takeUsage
  record taskId .agentDecision decision.modelDump
  let state := absorb state decision usage
  match decision.action with
  | .complete => do
    let state ← save { state with status := .completed, finalAnswer := decision.finalAnswer, currentStep := none }
    record taskId .workflowCompleted (.obj [("answer", Json.optStr state.finalAnswer)])
    pure state
  | .fail => failWorkflow state decision.rationale "agent_decision"
  | .useTool =>
    match decision.tool with
    | none => throw (.other "AssertionError")
    | some tool => rt.useTool taskId state decision tool

def decideNext (taskId : String) (state : WorkflowState) : Py WorkflowState := do
  let state ← save { state with status := .running, lastError := none }
  record taskId .agentDecisionStarted (.obj [("model_call", .int (state.modelCalls + 1))])
  match ← attempt (rt.engine.decide state) with
  | .error e =>
    if e.isRetryable then do
      let _ ← save { state with retries := state.retries + 1, status := .queued, lastError := some e.message }
      record taskId .modelRetryableFailure (.obj [("error", .str e.message)])
      throw e
    else throw e
  | .ok decision => rt.applyDecision taskId state decision

def process (taskId : String) : Py WorkflowState := do
  let state ← requiredState taskId
  if state.terminal || state.status = .waitingForApproval then pure state
  else match state.pendingAction with
    | some pending => rt.resumeApprovedAction state pending
    | none => rt.decideNext taskId state

end WorkflowRuntime

end AgentResilience
