/-
  AgentResilience.Stage — where a thread is in its operation, read off its own journal
  entries: the delivery it holds, the checkpoint it read or saved last, how far the gateway
  got with the action, whether that checkpoint is a decision it has not acted on yet, and
  the delivery it dead-lettered.

  `May` says which calls a thread may make at a stage: it saves a `Change` of the checkpoint
  it saw, under that checkpoint's version; it invokes the backend for that checkpoint, for
  an action it looked up and missed, and once for each decision; it writes to the ledger
  what the backend returned and records what the ledger has; it settles the delivery it
  holds, with no action pending, and reads once after it dead-lettered it. `script` is this as an automaton.
-/
import AgentResilience.ApprovalSafety
import AgentResilience.Lib.Script

namespace AgentResilience

open Interaction

/-! ## Stages -/

/-- How far the gateway got with an action id. -/
inductive Action where
  | none
  | missed (key : String)
  | returned (key : String) (result : Json)
  | settled (key : String) (result : Json)

/-- The action id the gateway looked up and has not settled. -/
def Action.pending : Action → Option String
  | missed key | returned key _ => some key
  | _ => Option.none

structure Stage where
  held : Option QueueDelivery := none
  seen : Option WorkflowState := none
  /-- `seen` is a tool decision the thread saved and has not acted on. -/
  granted : Bool := false
  action : Action := .none
  dying : Option QueueDelivery := none

/-- The save of `st` put a tool decision in the place of `seen`. -/
def decides? (seen : Option WorkflowState) (st : WorkflowState) : Bool :=
  decide (st.status = .running) && seen.any fun cp => cp.toolHistory.length < st.toolHistory.length

/-- The action after the backend answered. -/
def Action.answered : Action → Except PyError Json → Action
  | missed key, .ok result => if result.nonEmptyObj then .returned key result else none
  | _, _ => none

/-- The action after its ledger write. -/
def Action.written : Action → Action
  | returned key result => .settled key result
  | a => a

/-- The stage after a call and its answer. -/
def Stage.after (q : Stage) : (c : Call) → Except PyError c.Ret → Stage
  | .store (.claim ..), .ok (some delivery) => { held := some delivery }
  | .store (.getWorkflow _), .ok o => { q with seen := o, granted := false }
  | .store (.saveWorkflow ..), .ok st => { q with seen := some st, granted := decides? q.seen st }
  | .store (.acknowledge _), .ok _ => { q with held := none }
  | .store (.enqueue ..), .ok _ => { q with held := none }
  | .store (.retryOrDeadLetter delivery ..), .ok dead => { dying := if dead then some delivery else none }
  | .store (.getToolResult key _), .ok (some result) => { q with action := .settled key result }
  | .store (.getToolResult key _), .ok none => { q with action := .missed key }
  | .store (.getToolResult ..), .error _ => { q with action := .none }
  | .store (.saveToolResult ..), .ok _ => { q with action := q.action.written }
  | .execute .., r => { q with granted := false, action := q.action.answered r }
  | _, _ => q

/-- The stage of thread `i`. -/
def stage (i : ThreadId) : List Entry → Stage
  | [] => {}
  | .began j _ :: es => if j = i then {} else stage i es
  | .did j c r :: es => if j = i then (stage i es).after c r else stage i es
  | .ended j _ :: es => if j = i then {} else stage i es
  | .died j :: es => if j = i then {} else stage i es

@[simp] theorem stage_did (i : ThreadId) (c : Call) (r : Except PyError c.Ret) (es : List Entry) :
    stage i (.did i c r :: es) = (stage i es).after c r := by
  simp [stage]

theorem stage_other {i j : ThreadId} (h : j ≠ i) (c : Call) (r : Except PyError c.Ret) (es : List Entry) :
    stage i (.did j c r :: es) = stage i es := by
  simp [stage, h]

/-- A thread's beginning and end reset its stage. -/
theorem stage_bound {e : Entry} (h : e.isCall = false) (i : ThreadId) (es : List Entry) :
    stage i (e :: es) = {} ∨ stage i (e :: es) = stage i es := by
  cases e with
  | did => cases h
  | began j _ | ended j _ | died j =>
    by_cases hj : j = i
    · exact .inl (by simp [stage, hj])
    · exact .inr (by simp [stage, hj])

theorem stage_absent {i : ThreadId} {es : List Entry} (h : ∀ e ∈ es, e.thread ≠ i) : stage i es = {} := by
  induction es with
  | nil => rfl
  | cons e es ih =>
    have he := h e List.mem_cons_self
    have hes := ih fun e he => h e (List.mem_cons_of_mem _ he)
    cases e with
    | _ => exact (if_neg he).trans hes

/-! ## The calls a thread may make -/

/-- A checkpoint as `createIncident` makes it. -/
def Fresh (st : WorkflowState) : Prop :=
  ∃ taskId goal scenarioId now, st = { taskId, goal, scenarioId, createdAt := now, updatedAt := now }

/-- The gateway settled the action of `cp` that runs `tool`, with `result`. -/
def Settled (q : Stage) (cp : WorkflowState) (tool : ToolName) (result : Json) : Prop :=
  ∃ arguments, q.action = .settled (actionId cp.taskId tool arguments) result

/-- A save of `st` under version `v`, where `cp` is what the thread saw last, which a worker that holds
    its delivery found active: only a worker that dead-lettered its delivery saves `DEAD_LETTERED`, and
    only a settled action adds a tool call. -/
structure MaySave (det : LoopDetector) (q : Stage) (st : WorkflowState) (v : Nat) (cp : WorkflowState) : Prop where
  seen : q.seen = some cp
  version : v = cp.version
  change : Change det Set.univ cp st
  held : q.held.isSome = true → cp.status.active = true
  dying : st.status = .deadLettered → ∃ delivery, q.dying = some delivery ∧ delivery.taskId = cp.taskId
  settled : st.toolCalls ≠ cp.toolCalls → ∃ tool result, Settled q cp tool result ∧ st = toolCompleted cp tool result

def May (det : LoopDetector) (q : Stage) : Call → Prop
  | .store (.createWorkflow st _) => Fresh st
  | .store (.saveWorkflow st v) => ∃ cp, MaySave det q st v cp
  | .store (.getWorkflow _) => q.dying = none ∨ q.seen = none
  | .store (.claim ..) | .store (.enqueue ..) => q.action.pending = none
  | .store (.acknowledge id) => q.action.pending = none ∧ ∃ delivery, q.held = some delivery ∧ delivery.id = id
  | .store (.retryOrDeadLetter delivery ..) => q.action.pending = none ∧ q.held = some delivery
  | .store (.getToolResult key _) => q.action.pending = none ∧ ∃ cp delivery tool arguments, q.seen = some cp ∧
      q.held = some delivery ∧ cp.taskId = delivery.taskId ∧ key = actionId cp.taskId tool arguments
  | .store (.saveToolResult key _ _ _ result) => q.action = .returned key result
  | .store (.recordEvent taskId .toolCompleted payload) => ∃ (tool : ToolName) (arguments : Arguments) (result : Json) (cached : Bool),
      q.action = .settled (actionId taskId tool arguments) result ∧
      payload = .obj [("tool", .str tool.value), ("cached", .bool cached), ("result", result)]
  | .execute st tool arguments _ => q.seen = some st ∧ (st.pendingAction = none → q.granted = true) ∧
      q.action = .missed (actionId st.taskId tool arguments)
  | _ => True

/-- The answers a call can have: those of a store in order. -/
def Answers (c : Call) (r : Except PyError c.Ret) : Prop :=
  ∃ s t s', StoreOk Set.univ s ∧ Effect c s t r s'

def script (det : LoopDetector) : Script Call Call.Ret PyError Stage := ⟨Stage.after, May det, Answers⟩

end AgentResilience
