/-
  AgentResilience.Turn — what one delivery makes of a checkpoint. Processing a delivery
  saves the checkpoint up to three times, between calls that read and write the rest of the
  store; a `Turn` is its net effect, on the checkpoint but for its version and time
  (`WorkflowState.content`) and on what it remembers elsewhere (`Memory`).

  - `Gateway`: what the gateway answers; `Ran`: what running a tool makes of a checkpoint;
    `Acted`: what a decision does; `Turn`: the whole delivery.
-/
import AgentResilience.AuditLog

namespace AgentResilience

open Interaction
open Interaction.Prog (attempt ofExcept throw makes_bind makes_perform)

/-! ## What a delivery remembers -/

namespace WorkflowState

/-- A checkpoint but for what every save changes. -/
def content (st : WorkflowState) : WorkflowState := { st with version := 0, updatedAt := 0 }

def started (st : WorkflowState) : WorkflowState := { st with status := .running, lastError := none }

def retrying (st : WorkflowState) (error : String) : WorkflowState :=
  { st with retries := st.retries + 1, lastError := some error, status := .queued }

def failedFor (st : WorkflowState) (reason : String) : WorkflowState :=
  { st with status := .failed, lastError := some reason, currentStep := none }

@[simp] theorem saved_content (st : WorkflowState) (t : Timestamp) : (st.saved t).content = st.content := rfl

end WorkflowState

/-- What a delivery reads and writes besides its checkpoint and the audit log, and what the
    journal says of the backend's calls and the deliveries handed out. -/
structure Memory where
  approvals : Table (String × String) ApprovalRow (fun r => (r.taskId, r.actionId))
  ledger : Table String ToolResultRow (·.idempotencyKey)
  executed : List (String × ToolName × Except PyError Json)
  claimed : List QueueDelivery

namespace Memory

def approved (m : Memory) (taskId actionId : String) : Prop := (m.approvals.get (taskId, actionId)).map (·.status) = some .approved

def ran (m : Memory) (taskId : String) (tool : ToolName) (r : Except PyError Json) : Memory :=
  { m with executed := (taskId, tool, r) :: m.executed }

def takes (m : Memory) (delivery : QueueDelivery) : Memory := { m with claimed := delivery :: m.claimed }

def keeps (m : Memory) (row : ToolResultRow) : Memory := { m with ledger := m.ledger.insertOrIgnore row }

def asks (m : Memory) (taskId actionId : String) (t : Timestamp) : Memory :=
  { m with approvals := m.approvals.insertOrIgnore { taskId, actionId, createdAt := t } }

end Memory

/-- A call of the backend, and its answer. -/
def Entry.executed : Entry → Option (String × ToolName × Except PyError Json)
  | did _ (.execute st tool ..) r => some (st.taskId, tool, r)
  | _ => none

/-- A delivery handed out. -/
def Entry.claimed : Entry → Option QueueDelivery
  | did _ (.store (.claim ..)) (.ok delivery) => delivery
  | _ => none

def World.memory (w : World) : Memory where
  approvals := w.store.approvals
  ledger := w.store.toolResults
  executed := w.journal.filterMap Entry.executed
  claimed := w.journal.filterMap Entry.claimed

/-! ## Turns -/

/-- The backend may answer `r`. -/
def Executes (env : Env) (m : Memory) (st : WorkflowState) (tool : ToolName) (arguments : Arguments)
    (r : Except PyError Json) : Prop :=
  ∃ w st' n, st'.content = st ∧ w.memory = m ∧ env.allows 0 w (.execute st' tool arguments n) r

/-- The ledger may answer `r`. -/
def Reads (env : Env) (m : Memory) (key : String) (arguments : Arguments) (r : Except PyError (Option Json)) : Prop :=
  ∃ w, w.memory = m ∧ env.allows 0 w (.store (.getToolResult key arguments)) r

/-- What the gateway makes of the backend's answer. -/
def accepts (tool : ToolName) : Except PyError Json → Except PyError (Json × Bool)
  | .error e => .error e
  | .ok result =>
    if !result.nonEmptyObj then .error (.retryable s!"{tool.value} returned invalid structured output") else .ok (result, false)

/-- What the gateway may answer, and what it then remembers. -/
inductive Gateway (env : Env) (m : Memory) (st : WorkflowState) (tool : ToolName) (arguments : Arguments) :
    Except PyError (Json × Bool) → Memory → Prop
  | invalid {e : PyError} : validateAndDecide tool arguments = .error e → Gateway env m st tool arguments (.error e) m
  | denied {validated : Arguments} {policy : PolicyDecision} : validateAndDecide tool arguments = .ok (validated, policy) →
      policy.allowed = false → Gateway env m st tool arguments (.error (.permanent policy.reason)) m
  | reused {validated : Arguments} {policy : PolicyDecision} {row : ToolResultRow} {message : String} :
      validateAndDecide tool arguments = .ok (validated, policy) →
      m.ledger.get (actionId st.taskId tool validated) = some row → row.argumentsHash ≠ argumentsHash validated →
      Reads env m (actionId st.taskId tool validated) validated (.error (.value message)) →
      Gateway env m st tool arguments (.error (.value message)) m
  | cached {validated : Arguments} {policy : PolicyDecision} {row : ToolResultRow} :
      validateAndDecide tool arguments = .ok (validated, policy) →
      m.ledger.get (actionId st.taskId tool validated) = some row → row.argumentsHash = argumentsHash validated →
      Gateway env m st tool arguments (.ok (row.resultJson, true)) m
  | refused {validated : Arguments} {policy : PolicyDecision} {r : Except PyError Json} {e : PyError} :
      validateAndDecide tool arguments = .ok (validated, policy) → m.ledger.get (actionId st.taskId tool validated) = none →
      Executes env m st tool validated r → accepts tool r = .error e →
      Gateway env m st tool arguments (.error e) (m.ran st.taskId tool r)
  | fresh {validated : Arguments} {policy : PolicyDecision} {result : Json} {t : Timestamp} :
      validateAndDecide tool arguments = .ok (validated, policy) → m.ledger.get (actionId st.taskId tool validated) = none →
      Executes env m st tool validated (.ok result) → result.nonEmptyObj = true →
      Gateway env m st tool arguments (.ok (result, false)) ((m.ran st.taskId tool (.ok result)).keeps
        ⟨actionId st.taskId tool validated, st.taskId, tool.value, argumentsHash validated, result, t⟩)

/-- What running a tool answers, the checkpoint it leaves, and what it remembers. -/
inductive Ran (env : Env) (m : Memory) (st : WorkflowState) (tool : ToolName) (arguments : Arguments) :
    Except PyError WorkflowState → WorkflowState → Memory → Prop
  | done {result : Json} {cached : Bool} {m' : Memory} : Gateway env m st tool arguments (.ok (result, cached)) m' →
      Ran env m st tool arguments (.ok (toolCompleted st tool result)) (toolCompleted st tool result) m'
  | retried {e : PyError} {m' : Memory} : Gateway env m st tool arguments (.error e) m' → e.isRetryable = true →
      Ran env m st tool arguments (.error e) (st.retrying e.message) m'
  | failed {e : PyError} {m' : Memory} : Gateway env m st tool arguments (.error e) m' → e.isRetryable = false →
      e.isPermanent = true → Ran env m st tool arguments (.ok (st.failedFor e.message)) (st.failedFor e.message) m'
  | raised {e : PyError} {m' : Memory} : Gateway env m st tool arguments (.error e) m' → e.isRetryable = false →
      e.isPermanent = false → Ran env m st tool arguments (.error e) st m'

open WorkflowRuntime in
/-- What acting on a decision does to the checkpoint that absorbed it. -/
inductive Acted (rt : WorkflowRuntime) (env : Env) (m : Memory) (st : WorkflowState) (d : AgentDecision) :
    Except PyError WorkflowState → WorkflowState → Memory → Prop
  | completed {st' : WorkflowState} : d.action = .complete →
      st' = { st with status := .completed, finalAnswer := d.finalAnswer, currentStep := none } →
      Acted rt env m st d (.ok st') st' m
  | declined : d.action = .fail → Acted rt env m st d (.ok (st.failedFor d.rationale)) (st.failedFor d.rationale) m
  | looped {tool : ToolName} {reason : String} {st' : WorkflowState} : d.action = .useTool → d.tool = some tool →
      rt.loopDetector.reason (decided st tool).toolHistory (decided st tool).progressHistory = some reason →
      st' = { decided st tool with status := .loopStopped, lastError := some reason } → Acted rt env m st d (.ok st') st' m
  | denied {tool : ToolName} {arguments : Arguments} {policy : PolicyDecision} {st' : WorkflowState} : d.action = .useTool →
      d.tool = some tool → rt.loopDetector.reason (decided st tool).toolHistory (decided st tool).progressHistory = none →
      validateAndDecide tool d.arguments.modelDump = .ok (arguments, policy) → policy.allowed = false →
      st' = (decided st tool).failedFor policy.reason → Acted rt env m st d (.ok st') st' m
  | paused {tool : ToolName} {arguments : Arguments} {policy : PolicyDecision} {st' : WorkflowState} {p : PendingAction}
      {t : Timestamp} : d.action = .useTool → d.tool = some tool →
      rt.loopDetector.reason (decided st tool).toolHistory (decided st tool).progressHistory = none →
      validateAndDecide tool d.arguments.modelDump = .ok (arguments, policy) → policy.allowed = true →
      policy.approvalRequired = true →
      p = ⟨actionId st.taskId tool arguments, tool, arguments, policy.risk, d.rationale⟩ →
      st' = { decided st tool with pendingAction := some p, status := .waitingForApproval } →
      Acted rt env m st d (.ok st') st' (m.asks st.taskId p.actionId t)
  | ran {tool : ToolName} {arguments : Arguments} {policy : PolicyDecision} {o : Except PyError WorkflowState}
      {st' : WorkflowState} {m' : Memory} : d.action = .useTool → d.tool = some tool →
      rt.loopDetector.reason (decided st tool).toolHistory (decided st tool).progressHistory = none →
      validateAndDecide tool d.arguments.modelDump = .ok (arguments, policy) → policy.allowed = true →
      policy.approvalRequired = false → Ran env m (decided st tool) tool arguments o st' m' → Acted rt env m st d o st' m'

/-- What processing a delivery answers, the checkpoint it leaves, and what it remembers. -/
inductive Turn (rt : WorkflowRuntime) (env : Env) (D : WorkflowState → Except PyError AgentDecision → Prop)
    (U : Except PyError (Nat × Nat) → Prop) (m : Memory) (cp : WorkflowState) :
    Except PyError WorkflowState → WorkflowState → Memory → Prop
  | idle : cp.status.active = false → Turn rt env D U m cp (.ok cp) cp m
  | unapproved {p : PendingAction} : cp.status.active = true → cp.pendingAction = some p →
      ¬ m.approved cp.taskId p.actionId → Turn rt env D U m cp (.ok { cp with status := .waitingForApproval }) cp m
  | resumed {p : PendingAction} {o : Except PyError WorkflowState} {st : WorkflowState} {m' : Memory} :
      cp.status.active = true → cp.pendingAction = some p → m.approved cp.taskId p.actionId →
      Ran env m cp p.tool p.arguments o st m' → Turn rt env D U m cp o st m'
  | undecided {e : PyError} : cp.status.active = true → cp.pendingAction = none → D cp.started (.error e) →
      e.isRetryable = true → Turn rt env D U m cp (.error e) (cp.started.retrying e.message) m
  | unanswered {e : PyError} : cp.status.active = true → cp.pendingAction = none → D cp.started (.error e) →
      e.isRetryable = false → Turn rt env D U m cp (.error e) cp.started m
  | unmetered {d : AgentDecision} {e : PyError} : cp.status.active = true → cp.pendingAction = none → D cp.started (.ok d) →
      U (.error e) → Turn rt env D U m cp (.error e) cp.started m
  | acted {d : AgentDecision} {u : Nat × Nat} {o : Except PyError WorkflowState} {st : WorkflowState} {m' : Memory} :
      cp.status.active = true → cp.pendingAction = none → D cp.started (.ok d) → U (.ok u) →
      Acted rt env m (WorkflowRuntime.absorb cp.started d u) d o st m' → Turn rt env D U m cp o st m'

end AgentResilience
