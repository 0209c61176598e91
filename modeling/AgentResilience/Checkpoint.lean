/-
  AgentResilience.Checkpoint — what holds of every stored checkpoint. The steps, the
  evidence, the two histories and the counters are updated in different places, often in
  memory over several saves; `CheckpointOk` is what they agree on, together with what each
  status says of the pending action. Every change keeps it (`Change.checkpointOk`).
-/
import AgentResilience.History

namespace AgentResilience

structure CheckpointOk (st : WorkflowState) : Prop where
  nodup : st.completedSteps.Nodup
  evidence : ∀ step, step ∈ st.completedSteps ↔ step ∈ st.evidence.keys
  history : ∀ step ∈ st.completedSteps, step ∈ st.toolHistory
  progress : st.progressHistory.length = st.toolHistory.length + st.toolCalls
  modelCalls : st.toolHistory.length ≤ st.modelCalls
  toolCalls : st.completedSteps.length ≤ st.toolCalls
  waiting : st.status = .waitingForApproval → st.pendingAction ≠ none
  pending : ∀ p, st.pendingAction = some p → ProductionRestart p.tool p.arguments ∧
    p.actionId = actionId st.taskId p.tool p.arguments
  decided : ∀ p, st.pendingAction = some p → p.tool.value ∈ st.toolHistory
  completed : st.status = .completed → truthy st.finalAnswer = true ∧ st.currentStep = none ∧ st.pendingAction = none
  rejected : st.status = .humanRejected → st.pendingAction = none

variable {det : LoopDetector} {A : Set Arguments} {cp st : WorkflowState}

theorem Fresh.checkpointOk (h : Fresh st) : CheckpointOk st := by
  obtain ⟨taskId, goal, scenarioId, now, rfl⟩ := h
  have hnone : ∀ {p : Prop}, WorkflowStatus.queued = .completed → p := fun h => by cases h
  refine ⟨List.nodup_nil, fun _ => Iff.rfl, ?_, rfl, Nat.le_refl 0, Nat.le_refl 0, fun h => ?_, ?_, ?_, hnone, fun _ => rfl⟩
  · intro step hs
    cases hs
  · cases h
  · intro p hp
    cases hp
  · intro p hp
    cases hp

/-- The tool of a checkpoint about to run one is in its history. -/
theorem CheckpointOk.due (h : CheckpointOk cp) {tool : ToolName} (hdue : ToolDue cp tool) : tool.value ∈ cp.toolHistory := by
  rcases hdue.2 with ⟨-, -, hh⟩ | ⟨p, hp, rfl⟩
  · exact hh
  · exact h.decided p hp

/-- A status that asks for nothing, and the fields the invariant does not mention. -/
theorem CheckpointOk.moved (h : CheckpointOk cp) {status : WorkflowStatus} {currentStep lastError : Option String}
    {retries version : Nat} {updatedAt : Timestamp} (hw : status ≠ .waitingForApproval) (hc : status ≠ .completed)
    (hr : status ≠ .humanRejected) :
    CheckpointOk { cp with status, currentStep, lastError, retries, version, updatedAt } :=
  ⟨h.nodup, h.evidence, h.history, h.progress, h.modelCalls, h.toolCalls, fun e => absurd e hw, h.pending, h.decided,
    fun e => absurd e hc, fun e => absurd e hr⟩

theorem CheckpointOk.stamped (h : CheckpointOk st) {version : Nat} {updatedAt : Timestamp} :
    CheckpointOk { st with version, updatedAt } :=
  ⟨h.nodup, h.evidence, h.history, h.progress, h.modelCalls, h.toolCalls, h.waiting, h.pending, h.decided, h.completed,
    h.rejected⟩

theorem CheckpointOk.absorb (h : CheckpointOk cp) (dec : AgentDecision) (u : Nat × Nat) :
    CheckpointOk (WorkflowRuntime.absorb cp dec u) :=
  ⟨h.nodup, h.evidence, h.history, h.progress, Nat.le_succ_of_le h.modelCalls, h.toolCalls, h.waiting, h.pending,
    h.decided, h.completed, h.rejected⟩

/-- A tool decision adds to both histories; the model call it came from was counted. -/
theorem CheckpointOk.decision (h : CheckpointOk cp) (hrun : cp.status = .running) (hp : cp.pendingAction = none)
    (dec : AgentDecision) (u : Nat × Nat) (tool : ToolName) :
    CheckpointOk (WorkflowRuntime.decided (WorkflowRuntime.absorb cp dec u) tool) where
  nodup := h.nodup
  evidence := h.evidence
  history step hs := List.mem_append_left _ (h.history step hs)
  progress := by
    have := h.progress
    simp only [WorkflowRuntime.decided, WorkflowRuntime.absorb, List.length_append, List.length_singleton]
    omega
  modelCalls := by
    have := h.modelCalls
    simp only [WorkflowRuntime.decided, WorkflowRuntime.absorb, List.length_append, List.length_singleton]
    omega
  toolCalls := h.toolCalls
  waiting hs := by cases hrun.symm.trans hs
  pending p hs := by cases hp.symm.trans hs
  decided p hs := by cases hp.symm.trans hs
  completed hs := by cases hrun.symm.trans hs
  rejected _ := hp

/-- A tool that is in the history completes. -/
theorem CheckpointOk.toolCompleted (h : CheckpointOk cp) {tool : ToolName} (hh : tool.value ∈ cp.toolHistory) (result : Json) :
    CheckpointOk (toolCompleted cp tool result) where
  nodup := by
    show (if _ then _ else _ : List String).Nodup
    split
    · exact h.nodup
    · rename_i hne
      exact List.nodup_append.mpr ⟨h.nodup, List.nodup_singleton _, fun a ha b hb e => by
        simp only [List.mem_singleton] at hb
        exact hne (hb ▸ e ▸ ha)⟩
  evidence step := by
    show step ∈ (if _ then _ else _ : List String) ↔ step ∈ (cp.evidence.set tool.value result).keys
    rw [Dict.mem_keys_set, ← h.evidence]
    by_cases hin : tool.value ∈ cp.completedSteps
    · rw [if_pos hin]
      exact ⟨.inr, fun hs => hs.elim (fun e => e ▸ hin) id⟩
    · rw [if_neg hin, List.mem_append, List.mem_singleton, or_comm]
  history step hs := by
    have hs : step ∈ (if tool.value ∈ cp.completedSteps then cp.completedSteps else cp.completedSteps ++ [tool.value]) := hs
    split at hs
    · exact h.history step hs
    · rcases List.mem_append.mp hs with hs | hs
      · exact h.history step hs
      · rw [List.mem_singleton.mp hs]; exact hh
  progress := by
    have := h.progress
    simp only [AgentResilience.toolCompleted, List.length_append, List.length_singleton]
    omega
  modelCalls := h.modelCalls
  toolCalls := by
    have := h.toolCalls
    show (if _ then _ else _ : List String).length ≤ cp.toolCalls + 1
    split
    · omega
    · rw [List.length_append, List.length_singleton]; omega
  waiting hs := by cases hs
  pending p hs := by cases hs
  decided p hs := by cases hs
  completed hs := by cases hs
  rejected _ := rfl

/-- Every change keeps the invariant. -/
theorem Change.checkpointOk (hc : Change det A cp st) (h : CheckpointOk cp) : CheckpointOk st := by
  cases hc with
  | start | modelRetry | denied | toolRetry | toolFailed | deadLettered | failed | approved =>
    exact h.moved (by simp) (by simp) (by simp)
  | completed dec u hrun hp haction =>
    have ha := h.absorb dec u
    exact ⟨ha.nodup, ha.evidence, ha.history, ha.progress, ha.modelCalls, ha.toolCalls, fun e => (by cases e), ha.pending,
      ha.decided, fun _ => ⟨dec.answer_ok haction, rfl, hp⟩, fun e => (by cases e)⟩
  | declined dec u => exact (h.absorb dec u).moved (by simp) (by simp) (by simp)
  | loopStopped dec u tool reason hrun hp =>
    exact (h.decision hrun hp dec u tool).moved (by simp) (by simp) (by simp)
  | decided dec u tool hrun hp => exact h.decision hrun hp dec u tool
  | paused p hrun hp hh hok =>
    refine ⟨h.nodup, h.evidence, h.history, h.progress, h.modelCalls, h.toolCalls, fun _ => by simp, ?_, ?_,
      fun e => (by cases e), fun e => (by cases e)⟩
    · intro p' hp'
      cases hp'; exact ⟨hok.restart, hok.id⟩
    · intro p' hp'
      cases hp'; exact hh
  | toolDone tool result hdue => exact h.toolCompleted (h.due hdue) result
  | rejected p e =>
    exact ⟨h.nodup, h.evidence, h.history, h.progress, h.modelCalls, h.toolCalls, fun e => (by cases e), fun _ h => (by cases h),
      fun _ h => (by cases h), fun e => (by cases e), fun _ => rfl⟩

/-- Every stored checkpoint satisfies the invariant, under every interleaving of workers, API
    calls and replays, with crashes anywhere. -/
theorem checkpoint_representation (rt : WorkflowRuntime) (config : Settings) {cfg : Cfg}
    (h : Reachable { rt with engine := anyEngine, backend := anyBackend } config .free cfg) {taskId : String} {row : WorkflowRow}
    (hr : cfg.state.store.workflows.get taskId = some row) : CheckpointOk row.stateJson :=
  reachable_stored (fun _ hf => hf.checkpointOk) (fun _ _ _ h hc => (hc.checkpointOk h).stamped)
    (fun _ _ h => h.moved (by simp) (by simp) (by simp)) h (stored_some.mpr ⟨row, hr, rfl⟩)

theorem approvedRestart_pends : ((freePlayer {} {}).play ⟨World.init, fun _ => none⟩ approvedRestart).any
    (fun cfg => (cfg.state.store.workflows.get "t").any fun row => row.stateJson.pendingAction.isSome) = true := by
  decide +kernel

/-- The checkpoint of an approved restart. -/
theorem checkpoint_representation_restart : ∃ cfg row, Reachable {} {} .free cfg ∧
    cfg.state.store.workflows.get "t" = some row ∧ row.stateJson.pendingAction.isSome = true ∧ CheckpointOk row.stateJson := by
  obtain ⟨cfg, h, hc⟩ := (freePlayer {} {}).play_exists approvedRestart_pends
  obtain ⟨row, hr, hp⟩ := Option.any_eq_true _ _ |>.mp hc
  exact ⟨cfg, row, h, hr, hp, checkpoint_representation {} {} h hr⟩

end AgentResilience
