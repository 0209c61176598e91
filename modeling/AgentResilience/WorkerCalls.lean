/-
  AgentResilience.WorkerCalls — which calls each part of the worker makes, whatever they
  answer. A property of these calls is one of the programs.

  - `Call.acts`: the calls of a turn after its decision; `applyDecision_makes`,
    `resumeApprovedAction_makes`.
  - `Call.turns`: the calls of a turn; `process_makes`.
  - `Call.works`: the calls of a worker's run; `runOnce_makes`.
-/
import AgentResilience.Guarantee

namespace AgentResilience

open Interaction
open Interaction.Prog (makes_bind makes_attempt makes_ofExcept makes_perform)

variable {rt : WorkflowRuntime} {config : Settings}

/-- A call that acts on a decision. -/
def Call.acts : Call → Bool
  | .store (.saveWorkflow ..) | .store (.recordEvent ..) | .store (.getToolResult ..) | .store (.saveToolResult ..)
  | .store (.createApproval ..) | .store (.approvalStatus ..) | .takeUsage | .execute .. => true
  | _ => false

/-- A call of a turn. -/
def Call.turns : Call → Bool
  | .store (.getWorkflow _) | .decide _ => true
  | c => c.acts

/-- A call of a worker's run. -/
def Call.works : Call → Bool
  | .store (.claim ..) | .store (.acknowledge _) | .store (.enqueue ..) | .store (.retryOrDeadLetter ..)
  | .store .queueCounts | .awaitHeartbeat => true
  | c => c.turns

theorem Call.turns_of_acts {c : Call} (h : c.acts = true) : c.turns = true := by
  unfold turns
  split <;> first | rfl | exact h

theorem Call.works_of_turns {c : Call} (h : c.turns = true) : c.works = true := by
  unfold works
  split <;> first | rfl | exact h

section Turn

variable {φ : Call → Prop} (hφ : ∀ c : Call, c.acts = true → φ c)

include hφ

theorem failWorkflow_makes (state : WorkflowState) (reason category : String) : (failWorkflow state reason category).Makes φ :=
  makes_bind (makes_perform (hφ _ rfl)) fun _ => makes_bind (makes_perform (hφ _ rfl)) fun _ => trivial

theorem executeTool_makes (hb : rt.backend = anyBackend) (state : WorkflowState) (tool : ToolName) (arguments : Arguments) :
    (rt.executeTool state tool arguments).Makes φ := by
  unfold WorkflowRuntime.executeTool
  rw [hb]
  refine makes_bind (makes_attempt (gatewayExecute_makes (fun _ _ => hφ _ rfl) (fun _ _ => hφ _ rfl) fun _ _ _ _ _ => hφ _ rfl))
    fun o => ?_
  cases o with
  | ok x => exact makes_bind (makes_perform (hφ _ rfl)) fun _ => makes_bind (makes_perform (hφ _ rfl)) fun _ => trivial
  | error e =>
    simp only
    split
    · exact makes_bind (makes_perform (hφ _ rfl)) fun _ => makes_bind (makes_perform (hφ _ rfl)) fun _ => trivial
    · split
      · exact failWorkflow_makes hφ ..
      · trivial

theorem resumeApprovedAction_makes (hb : rt.backend = anyBackend) (state : WorkflowState) (pending : PendingAction) :
    (rt.resumeApprovedAction state pending).Makes φ := by
  refine makes_bind (makes_perform (hφ _ rfl)) fun approval => ?_
  split
  · trivial
  · exact makes_bind (makes_perform (hφ _ rfl)) fun _ => executeTool_makes hφ hb ..

theorem runDecided_makes (hb : rt.backend = anyBackend) (taskId : String) (state : WorkflowState) (decision : AgentDecision)
    (tool : ToolName) (arguments : Arguments) (policy : PolicyDecision) :
    (rt.runDecided taskId state decision tool arguments policy).Makes φ := by
  unfold WorkflowRuntime.runDecided
  split
  · exact makes_bind (makes_perform (hφ _ rfl)) fun _ => failWorkflow_makes hφ ..
  · split
    · exact makes_bind (makes_perform (hφ _ rfl)) fun _ => makes_bind (makes_perform (hφ _ rfl)) fun _ =>
        makes_bind (makes_perform (hφ _ rfl)) fun _ => trivial
    · split
      · exact makes_bind (makes_perform (hφ _ rfl)) fun _ => executeTool_makes hφ hb ..
      · exact executeTool_makes hφ hb ..

theorem useTool_makes (hb : rt.backend = anyBackend) (taskId : String) (state : WorkflowState) (decision : AgentDecision)
    (tool : ToolName) : (rt.useTool taskId state decision tool).Makes φ := by
  refine makes_bind (makes_ofExcept _) fun x => ?_
  simp only
  split
  · exact makes_bind (makes_perform (hφ _ rfl)) fun _ => makes_bind (makes_perform (hφ _ rfl)) fun _ => trivial
  · exact makes_bind (makes_perform (hφ _ rfl)) fun _ => runDecided_makes hφ hb ..

theorem applyDecision_makes (he : rt.engine = anyEngine) (hb : rt.backend = anyBackend) (taskId : String) (state : WorkflowState)
    (decision : AgentDecision) : (rt.applyDecision taskId state decision).Makes φ := by
  unfold WorkflowRuntime.applyDecision
  rw [he]
  refine makes_bind (makes_perform (hφ _ rfl)) fun usage => makes_bind (makes_perform (hφ _ rfl)) fun _ => ?_
  simp only
  split
  · exact makes_bind (makes_perform (hφ _ rfl)) fun _ => makes_bind (makes_perform (hφ _ rfl)) fun _ => trivial
  · exact failWorkflow_makes hφ ..
  · split
    · trivial
    · exact useTool_makes hφ hb ..

end Turn

section Process

variable {φ : Call → Prop} (hφ : ∀ c : Call, c.turns = true → φ c)

include hφ

theorem decideNext_makes (he : rt.engine = anyEngine) (hb : rt.backend = anyBackend) (taskId : String) (state : WorkflowState) :
    (rt.decideNext taskId state).Makes φ := by
  unfold WorkflowRuntime.decideNext
  rw [he]
  refine makes_bind (makes_perform (hφ _ rfl)) fun state => makes_bind (makes_perform (hφ _ rfl)) fun _ =>
    makes_bind (makes_attempt (makes_perform (hφ _ rfl))) fun o => ?_
  cases o with
  | error e =>
    simp only
    split
    · exact makes_bind (makes_perform (hφ _ rfl)) fun _ => makes_bind (makes_perform (hφ _ rfl)) fun _ => trivial
    · trivial
  | ok decision => exact applyDecision_makes (fun c hc => hφ c (Call.turns_of_acts hc)) he hb ..

theorem process_makes (he : rt.engine = anyEngine) (hb : rt.backend = anyBackend) (taskId : String) :
    (rt.process taskId).Makes φ := by
  refine makes_bind (makes_bind (makes_perform (hφ _ rfl)) fun found => ?_) fun state => ?_
  · cases found <;> trivial
  · split
    · trivial
    · split
      · exact resumeApprovedAction_makes (fun c hc => hφ c (Call.turns_of_acts hc)) hb ..
      · exact decideNext_makes hφ he hb ..

end Process

section Run

variable {φ : Call → Prop} (hφ : ∀ c : Call, c.works = true → φ c)

include hφ

theorem processDelivery_makes (he : rt.engine = anyEngine) (hb : rt.backend = anyBackend) (d : QueueDelivery) :
    (processDelivery rt config d).Makes φ := by
  refine makes_bind (process_makes (fun c hc => hφ c (Call.works_of_turns hc)) he hb _) fun state => makes_bind (makes_perform (hφ _ rfl)) fun _ => ?_
  split
  · exact makes_bind (makes_perform (hφ _ rfl)) fun _ => trivial
  · trivial

theorem onRetryable_makes (d : QueueDelivery) (e : PyError) : (onRetryable config d e).Makes φ := by
  refine makes_bind (makes_perform (hφ _ rfl)) fun dead => ?_
  split
  · refine makes_bind (makes_perform (hφ _ rfl)) fun found => ?_
    split
    · trivial
    · split
      · trivial
      · exact makes_bind (makes_perform (hφ _ rfl)) fun _ => makes_perform (hφ _ rfl)
  · trivial

theorem onPermanent_makes (d : QueueDelivery) (e : PyError) : (onPermanent d e).Makes φ := by
  refine makes_bind (makes_perform (hφ _ rfl)) fun _ => makes_bind (makes_perform (hφ _ rfl)) fun found => ?_
  split
  · trivial
  · split
    · trivial
    · exact makes_bind (makes_perform (hφ _ rfl)) fun _ => makes_perform (hφ _ rfl)

theorem handleDelivery_makes (he : rt.engine = anyEngine) (hb : rt.backend = anyBackend) (d : QueueDelivery) :
    (handleDelivery rt config d).Makes φ := by
  refine makes_bind (makes_attempt (processDelivery_makes hφ he hb d)) fun o => ?_
  cases o with
  | ok u => trivial
  | error e =>
    simp only
    split
    · exact onRetryable_makes hφ d e
    · split
      · exact onPermanent_makes hφ d e
      · trivial

theorem runOnce_makes (he : rt.engine = anyEngine) (hb : rt.backend = anyBackend) (workerId : String) :
    (runOnce rt config workerId).Makes φ := by
  have hdepth : ∀ b : Bool, (updateDepth.bind fun _ => (.ret b : Py Bool)).Makes φ :=
    fun _ => makes_bind (makes_bind (makes_perform (hφ _ rfl)) fun _ => trivial) fun _ => trivial
  refine makes_bind (makes_perform (hφ _ rfl)) fun claimed => ?_
  cases claimed with
  | none => exact hdepth false
  | some delivery =>
    refine makes_bind (makes_attempt (handleDelivery_makes hφ he hb delivery)) fun o =>
      makes_bind (makes_perform (hφ _ rfl)) fun _ => ?_
    cases o with
    | error e => trivial
    | ok u => exact hdepth true

end Run

end AgentResilience
