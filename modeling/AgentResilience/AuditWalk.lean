/-
  AgentResilience.AuditWalk — every operation, from a level log to a level log. The
  checkpoint an operation saves differs from the one before it by what the next event
  tells, in each of its branches; and a decision that passed validation passes the
  gateway's again (`decision_validates`), so no decision is recorded without being
  carried out.
-/
import AgentResilience.AuditLog

namespace AgentResilience

open Interaction
open Interaction.Prog (attempt ofExcept throw makes_bind makes_perform)
open WorkflowRuntime (decided absorb)

variable {rt : WorkflowRuntime} {config : Settings} {taskId : String} {cp st : WorkflowState} {a : Audit} {env : Env}
  {w w' : World}

@[simp] theorem saved_audit (st : WorkflowState) (t : Timestamp) : (st.saved t).audit = st.audit := rfl

/-- An event that is no completion tells no result. -/
@[simp] theorem tell_other {e : EventType} (h : e ≠ .toolCompleted) (a : Audit) (payload : Json) :
    a.tell e payload = { a with
      status := e.status.getD a.status
      modelCalls := if e = .agentDecision then a.modelCalls + 1 else a.modelCalls
      retries := if e = .modelRetryableFailure ∨ e = .toolRetryableFailure then a.retries + 1 else a.retries } := by
  have hc : (EventRecord.mk 0 "" e payload 0).completed = none := by
    unfold EventRecord.completed
    cases e <;> first | rfl | exact absurd rfl h
  unfold Audit.tell
  simp [hc, h, EventRecord.isRetry]

theorem tell_completed (a : Audit) (tool : String) (cached : Bool) (result : Json) :
    a.tell .toolCompleted (.obj [("tool", .str tool), ("cached", .bool cached), ("result", result)]) =
      { a with
        status := .queued
        evidence := a.evidence.set tool result
        completedSteps := if tool ∈ a.completedSteps then a.completedSteps else a.completedSteps ++ [tool]
        toolCalls := a.toolCalls + 1 } := rfl

/-! ## The second validation -/

/-- The arguments of a valid decision to use a tool are valid arguments of the tool. -/
theorem decision_validates (d : AgentDecision) (h : d.action = .useTool) (tool : ToolName) :
    ∃ validated policy, validateAndDecide tool d.arguments.modelDump = .ok (validated, policy) := by
  rcases hargs : d.arguments with ⟨service, environment, dependency, hs, he, hd⟩
  have htruthy := d.service_ok h
  rw [hargs] at htruthy
  obtain ⟨s, rfl⟩ : ∃ s, service = some s := by
    cases service with
    | none => cases htruthy
    | some s => exact ⟨s, rfl⟩
  have hservice : serviceField (AgentToolArguments.modelDump ⟨some s, environment, dependency, hs, he, hd⟩) = some s := by
    have hs' : validService s = true := hs
    show (if validService s then some s else none) = some s
    rw [if_pos hs']
  have henv : ∃ e, environmentField (AgentToolArguments.modelDump ⟨some s, environment, dependency, hs, he, hd⟩) = some e := by
    cases environment with
    | none => cases dependency <;> exact ⟨"production", rfl⟩
    | some e =>
      have he' : environments.contains e = true := he
      refine ⟨e, ?_⟩
      show (if environments.contains e then some e else none) = some e
      rw [if_pos he']
  have hdep : ∃ x, dependencyField (AgentToolArguments.modelDump ⟨some s, environment, dependency, hs, he, hd⟩) = some x := by
    cases dependency with
    | none => cases environment <;> exact ⟨none, rfl⟩
    | some x =>
      have hx : x.length ≤ 100 := by simpa using (Bool.and_eq_true_iff.mp hd).2
      refine ⟨some x, ?_⟩
      have hget : ∀ l : Arguments, dependencyField (("service", .str s) :: l) = dependencyField l := fun _ => rfl
      cases environment with
      | none => show (if x.length ≤ 100 then some (some x) else none) = some (some x); rw [if_pos hx]
      | some e => show (if x.length ≤ 100 then some (some x) else none) = some (some x); rw [if_pos hx]
  obtain ⟨e, henv⟩ := henv
  obtain ⟨x, hdep⟩ := hdep
  unfold validateAndDecide validateArguments
  rw [hservice, henv]
  simp only
  split
  · rw [hdep]; exact ⟨_, _, rfl⟩
  · exact ⟨_, _, rfl⟩

/-! ## Processing a delivery -/

theorem gatewayExecute_mute (st : WorkflowState) (tool : ToolName) (arguments : Arguments) :
    (gatewayExecute anyBackend st tool arguments).Makes fun c => c.mute = true :=
  gatewayExecute_makes (fun _ _ => rfl) (fun _ _ => rfl) fun _ _ _ _ _ => rfl

theorem failWorkflow_level (h : Abreast taskId cp a w.store) (ht : st.taskId = taskId) (hv : st.version = cp.version)
    (ha : { a with status := .failed } = { st.audit with status := .failed }) (reason category : String) :
    wp (calls env 0) (failWorkflow st reason category) (fun _ w' => Level w'.store) w := by
  refine wp_seq (save_abreast h (by exact ht) (by exact hv)) fun st' w₁ hq => ?_
  obtain ⟨⟨t, e⟩, h₁⟩ := hq
  refine wp_seq (record_level h₁ (by rw [e]; exact ht) ?_) fun _ w₂ h₂ => h₂
  rw [e, saved_audit, tell_other (by decide)]
  exact ha

theorem executeTool_level (hb : rt.backend = anyBackend) (h : Abreast taskId cp cp.audit w.store) (ht : cp.taskId = taskId)
    (tool : ToolName) (arguments : Arguments) :
    wp (calls env 0) (rt.executeTool cp tool arguments) (fun _ w' => Level w'.store) w := by
  unfold WorkflowRuntime.executeTool
  rw [hb]
  refine wp_bind.mpr (wp_attempt.mpr (wp_mono (abreast_mute (gatewayExecute_mute cp tool arguments) h) fun o w₁ h₁ => ?_))
  cases o with
  | error e =>
    show wp _ (if _ then _ else _) _ w₁
    split
    · refine wp_seq (save_abreast h₁ (by exact ht) rfl) fun st w₂ hq => ?_
      obtain ⟨⟨t, e⟩, h₂⟩ := hq
      refine wp_seq (record_level h₂ (by rw [e]; exact ht) ?_) fun _ w₃ h₃ => h₃
      rw [e, saved_audit]
      simp [EventType.status, WorkflowState.audit]
    · split
      · exact failWorkflow_level h₁ (by exact ht) rfl rfl _ _
      · exact h₁.level rfl
  | ok r =>
    refine wp_seq (save_abreast h₁ (by exact ht) rfl) fun st w₂ hq => ?_
    obtain ⟨⟨t, e⟩, h₂⟩ := hq
    refine wp_seq (record_level h₂ (by rw [e]; exact ht) ?_) fun _ w₃ h₃ => h₃
    rw [e, tell_completed]
    rfl

theorem resumeApprovedAction_level (hb : rt.backend = anyBackend) (h : Abreast taskId cp cp.audit w.store)
    (ht : cp.taskId = taskId) (pending : PendingAction) :
    wp (calls env 0) (rt.resumeApprovedAction cp pending) (fun _ w' => Level w'.store) w := by
  refine wp_bind.mpr (wp_mono (abreast_mute (makes_perform rfl) h) fun o w₁ h₁ => ?_)
  cases o with
  | error e => exact h₁.level rfl
  | ok status =>
    show wp _ (if _ then _ else _) _ w₁
    split
    · exact h₁.level rfl
    · rw [ht]
      refine wp_seq (record_abreast h₁ _ _) fun _ w₂ h₂ => executeTool_level hb ?_ ht _ _
      simpa [EventType.status] using h₂

theorem createApproval_abreast (h : Abreast taskId cp a w.store) (t actionId : String) :
    wp (calls env 0) (onStore (.createApproval t actionId)) (fun o w' => ∃ u, o = .ok u ∧ Abreast taskId cp a w'.store) w := by
  refine wp_perform.mpr fun r w' hs => ?_
  obtain ⟨hw, hev⟩ := calls_mute rfl hs
  obtain ⟨_, s', -, -, he, rfl⟩ := hs
  exact ⟨(), (congrArg Prod.fst he).symm, h.congr hw hev⟩

theorem pauseForApproval_level (h : Abreast taskId cp cp.audit w.store) (ht : cp.taskId = taskId) (pending : PendingAction) :
    wp (calls env 0) (WorkflowRuntime.pauseForApproval taskId cp pending) (fun _ w' => Level w'.store) w := by
  refine wp_seq (save_abreast h (by exact ht) rfl) fun st w₁ hq => ?_
  obtain ⟨⟨t, e⟩, h₁⟩ := hq
  refine wp_seq (createApproval_abreast h₁ _ _) fun _ w₂ h₂ => ?_
  refine wp_seq (record_level h₂ rfl ?_) fun _ w₃ h₃ => h₃
  rw [e, saved_audit]
  simp [EventType.status, WorkflowState.audit]

theorem runDecided_level (hb : rt.backend = anyBackend) (h : Abreast taskId cp cp.audit w.store) (ht : cp.taskId = taskId)
    (decision : AgentDecision) (tool : ToolName) (arguments : Arguments) (policy : PolicyDecision) :
    wp (calls env 0) (rt.runDecided taskId cp decision tool arguments policy) (fun _ w' => Level w'.store) w := by
  unfold WorkflowRuntime.runDecided
  split
  · refine wp_seq (record_abreast h _ _) fun _ w₁ h₁ => failWorkflow_level h₁ (by exact ht) rfl ?_ _ _
    simp [EventType.status]
  · split
    · exact pauseForApproval_level h ht _
    · split
      · refine wp_seq (record_abreast h _ _) fun _ w₁ h₁ => executeTool_level hb ?_ ht _ _
        simpa [EventType.status] using h₁
      · exact executeTool_level hb h ht _ _

theorem useTool_level (hb : rt.backend = anyBackend) (h : Abreast taskId cp st.audit w.store) (ht : st.taskId = taskId)
    (hv : st.version = cp.version) {decision : AgentDecision} (hd : decision.action = .useTool) (tool : ToolName) :
    wp (calls env 0) (rt.useTool taskId st decision tool) (fun _ w' => Level w'.store) w := by
  obtain ⟨arguments, policy, hval⟩ := decision_validates decision hd tool
  unfold WorkflowRuntime.useTool
  simp only [hval, Prog.bind_def, Prog.ofExcept_ok, Prog.ret_bind]
  split
  · refine wp_seq (save_abreast h (by exact ht) (by exact hv)) fun st' w₁ hq => ?_
    obtain ⟨⟨t, e⟩, h₁⟩ := hq
    refine wp_seq (record_level h₁ rfl ?_) fun _ w₂ h₂ => h₂
    rw [e, saved_audit]
    simp [EventType.status, WorkflowState.audit, decided]
  · have ht' : (decided st tool).taskId = taskId := ht
    refine wp_seq (save_abreast h ht' (by exact hv)) fun st' w₁ hq => ?_
    obtain ⟨⟨t, e⟩, h₁⟩ := hq
    exact runDecided_level hb (by rw [e] at h₁ ⊢; exact h₁) (by rw [e]; exact ht) _ _ _ _

theorem applyDecision_level (he : rt.engine = anyEngine) (hb : rt.backend = anyBackend)
    (h : Abreast taskId cp cp.audit w.store) (ht : cp.taskId = taskId) (decision : AgentDecision) :
    wp (calls env 0) (rt.applyDecision taskId cp decision) (fun _ w' => Level w'.store) w := by
  unfold WorkflowRuntime.applyDecision
  rw [he]
  refine wp_bind.mpr (wp_mono (abreast_mute (makes_perform rfl) h) fun o w₁ h₁ => ?_)
  cases o with
  | error e => exact h₁.level rfl
  | ok usage =>
    refine wp_seq (record_abreast h₁ _ _) fun _ w₂ h₂ => ?_
    have h₂ : Abreast taskId cp (absorb cp decision usage).audit w₂.store := by
      simpa [EventType.status, WorkflowState.audit, absorb] using h₂
    simp only
    split
    · refine wp_seq (save_abreast h₂ (by exact ht) rfl) fun st w₃ hq => ?_
      obtain ⟨⟨t, e⟩, h₃⟩ := hq
      refine wp_seq (record_level h₃ rfl ?_) fun _ w₄ h₄ => h₄
      rw [e, saved_audit]
      simp [EventType.status, WorkflowState.audit, absorb]
    · exact failWorkflow_level h₂ (by exact ht) (by exact rfl) rfl _ _
    · rename_i haction
      split
      · rename_i hnone
        have := decision.tool_ok haction
        rw [hnone] at this; cases this
      · exact useTool_level hb h₂ (by exact ht) rfl haction _

theorem decideNext_level (he : rt.engine = anyEngine) (hb : rt.backend = anyBackend)
    (h : Abreast taskId cp cp.audit w.store) (ht : cp.taskId = taskId) :
    wp (calls env 0) (rt.decideNext taskId cp) (fun _ w' => Level w'.store) w := by
  unfold WorkflowRuntime.decideNext
  rw [he]
  refine wp_seq (save_abreast h (by exact ht) rfl) fun st w₁ hq => ?_
  obtain ⟨⟨t, e⟩, h₁⟩ := hq
  refine wp_seq (record_abreast h₁ _ _) fun _ w₂ h₂ => ?_
  have htask : st.taskId = taskId := by rw [e]; exact ht
  have h₂ : Abreast taskId st st.audit w₂.store := by
    rw [e] at h₂ ⊢
    rw [saved_audit]
    simpa [EventType.status, WorkflowState.audit] using h₂
  refine wp_bind.mpr (wp_attempt.mpr (wp_mono (abreast_mute (makes_perform rfl) h₂) fun o w₃ h₃ => ?_))
  cases o with
  | error x =>
    show wp _ (if _ then _ else _) _ w₃
    split
    · refine wp_seq (save_abreast h₃ (by exact htask) rfl) fun st' w₄ hq => ?_
      obtain ⟨⟨t, e⟩, h₄⟩ := hq
      refine wp_seq (record_level h₄ rfl ?_) fun _ w₅ h₅ => h₅
      rw [e, saved_audit]
      simp [EventType.status, WorkflowState.audit]
    · exact h₃.level rfl
  | ok decision => exact applyDecision_level he hb h₃ htask decision

/-- A read of a checkpoint. -/
theorem getWorkflow_level (h : Level w.store) (taskId : String) :
    wp (calls env 0) (onStore (.getWorkflow taskId))
      (fun o w' => ∃ found, o = .ok found ∧ Level w'.store ∧ found = w'.store.stored taskId) w := by
  refine wp_perform.mpr fun r w' hs => ?_
  obtain ⟨_, s', -, -, he, rfl⟩ := hs
  obtain ⟨rfl, rfl⟩ := Prod.mk.inj he
  exact ⟨_, rfl, h, rfl⟩

theorem process_level (he : rt.engine = anyEngine) (hb : rt.backend = anyBackend) (h : Level w.store) (taskId : String) :
    wp (calls env 0) (rt.process taskId) (fun _ w' => Level w'.store) w := by
  refine wp_bind.mpr (wp_bind.mpr (wp_mono (getWorkflow_level h taskId) fun o w₁ hq => ?_))
  obtain ⟨found, ho, h₁, hfound⟩ := hq
  subst ho
  cases found with
  | none => exact h₁
  | some st =>
    have habr := h₁.abreast hfound.symm
    obtain ⟨-, -, -, ht⟩ := h₁.filed.version hfound.symm
    show wp _ (if _ then _ else _) _ w₁
    split
    · exact h₁
    · split
      · exact resumeApprovedAction_level hb habr ht _
      · exact decideNext_level he hb habr ht

/-! ## The worker -/

/-- An `except` clause ends a workflow. -/
theorem ends_level (h : Level w.store) (hst : w.store.stored taskId = some st) {status : WorkflowStatus} {error : String}
    {e : EventType} {payload : Json}
    (he : e ≠ .toolCompleted ∧ e ≠ .agentDecision ∧ e ≠ .modelRetryableFailure ∧ e ≠ .toolRetryableFailure)
    (hs : e.status = some status) :
    wp (calls env 0) ((save { st with status, lastError := some error }).bind fun state => record state.taskId e payload)
      (fun _ w' => Level w'.store) w := by
  obtain ⟨-, -, -, ht⟩ := h.filed.version hst
  refine wp_seq (save_abreast (h.abreast hst) (by exact ht) rfl) fun st' w₁ hq => ?_
  obtain ⟨⟨t, e'⟩, h₁⟩ := hq
  refine wp_mono (record_level h₁ (by rw [e']; exact ht) ?_) fun _ _ ⟨_, _, h₂⟩ => h₂
  rw [e', saved_audit]
  simp [he, hs, WorkflowState.audit]

theorem handleDelivery_level (he : rt.engine = anyEngine) (hb : rt.backend = anyBackend) (h : Level w.store)
    (delivery : QueueDelivery) :
    wp (calls env 0) (handleDelivery rt config delivery) (fun _ w' => Level w'.store) w := by
  refine wp_bind.mpr (wp_attempt.mpr (wp_mono (Q := fun _ w' => Level w'.store) ?_ fun o w₁ h₁ => ?_))
  · refine wp_bind.mpr (wp_mono (process_level he hb h delivery.taskId) fun o w₁ h₁ => ?_)
    cases o with
    | error e => exact h₁
    | ok state =>
      refine level_mute (makes_bind (makes_perform rfl) fun _ => ?_) h₁
      split
      · exact makes_bind (makes_perform rfl) fun _ => trivial
      · trivial
  · cases o with
    | ok u => exact h₁
    | error e =>
      show wp _ (if _ then _ else _) _ w₁
      split
      · refine wp_bind.mpr (wp_mono (level_mute (makes_perform rfl) h₁) fun o w₂ h₂ => ?_)
        cases o with
        | error e => exact h₂
        | ok dead =>
          show wp _ (if _ then _ else _) _ w₂
          split
          · refine wp_seq (getWorkflow_level h₂ delivery.taskId) fun found w₃ hq => ?_
            obtain ⟨h₃, hfound⟩ := hq
            cases found with
            | none => exact h₃
            | some st =>
              show wp _ (if _ then _ else _) _ w₃
              split
              · exact h₃
              · exact ends_level (e := .deadLettered) h₃ hfound.symm (by decide) rfl
          · exact h₂
      · split
        · refine wp_bind.mpr (wp_mono (level_mute (makes_perform rfl) h₁) fun o w₂ h₂ => ?_)
          cases o with
          | error e => exact h₂
          | ok u =>
            refine wp_seq (getWorkflow_level h₂ delivery.taskId) fun found w₃ hq => ?_
            obtain ⟨h₃, hfound⟩ := hq
            cases found with
            | none => exact h₃
            | some st =>
              show wp _ (if _ then _ else _) _ w₃
              split
              · exact h₃
              · exact ends_level (e := .workflowFailed) h₃ hfound.symm (by decide) rfl
        · exact h₁

theorem runOnce_level (he : rt.engine = anyEngine) (hb : rt.backend = anyBackend) (h : Level w.store) (workerId : String) :
    wp (calls env 0) (runOnce rt config workerId) (fun _ w' => Level w'.store) w := by
  refine wp_bind.mpr (wp_mono (level_mute (makes_perform rfl) h) fun o w₁ h₁ => ?_)
  cases o with
  | error e => exact h₁
  | ok delivery =>
    cases delivery with
    | none => exact level_mute (makes_bind (makes_bind (makes_perform rfl) fun _ => trivial) fun _ => trivial) h₁
    | some delivery =>
      refine wp_bind.mpr (wp_attempt.mpr (wp_mono (handleDelivery_level he hb h₁ delivery) fun o w₂ h₂ => ?_))
      refine level_mute (makes_bind (makes_perform rfl) fun _ => ?_) h₂
      cases o with
      | error e => trivial
      | ok u => exact makes_bind (makes_bind (makes_perform rfl) fun _ => trivial) fun _ => trivial

/-! ## The control plane -/

theorem createWorkflow_level {s : SQLiteStore} (h : Level s) (ha : st.audit = {}) (t : Timestamp) (n : Nat) :
    Level (s.createWorkflow t st n).2 := by
  unfold SQLiteStore.createWorkflow
  split
  · exact h
  · rename_i workflows hi
    have hnone : s.stored st.taskId = none := by
      cases hg : s.workflows.get st.taskId with
      | none => simp [SQLiteStore.stored, SQLiteStore.getWorkflow, hg]
      | some x => rw [Table.insert_eq_none.mpr (by rw [hg]; rfl)] at hi; cases hi
    obtain ⟨s₁, hs₁⟩ : ∃ s₁, s₁ = { s with workflows }.insertQueue t st.taskId n := ⟨_, rfl⟩
    have hget : ∀ T, s₁.workflows.get T = if st.taskId = T then some ⟨st.taskId, st, st.version, t⟩ else s.workflows.get T := by
      intro T; rw [hs₁]; exact Table.get_insert hi T
    have hev : ∀ T, s₁.eventsOf T = s.eventsOf T := fun T => eventsOf_congr (by rw [hs₁]; rfl) T
    have hfiled : Filed s₁ := by
      refine ⟨fun T row hT => ?_, by rw [hs₁]; exact h.filed.ids⟩
      rw [hget] at hT
      split at hT
      · rename_i e; cases hT; exact ⟨e, rfl⟩
      · exact h.filed.rows T row hT
    rw [← hs₁]
    refine ⟨hfiled.recordEvent .., fun T => ?_⟩
    rw [eventsOf_recordEvent, hev, h.told, recordEvent_stored]
    split
    · rename_i e
      rw [← e, hnone, stored_some.mpr ⟨_, (hget _).trans (if_pos rfl), rfl⟩]
      simp [EventType.status, ha]
    · rename_i e
      simp only [SQLiteStore.stored, SQLiteStore.getWorkflow, hget, if_neg e]

theorem createIncident_level (h : Level w.store) (taskId goal scenarioId : String) :
    wp (calls env 0) (createIncident config taskId goal scenarioId) (fun _ w' => Level w'.store) w := by
  refine wp_bind.mpr (wp_mono (level_mute (makes_perform rfl) h) fun o w₁ h₁ => ?_)
  cases o with
  | error e => exact h₁
  | ok now =>
    refine wp_perform.mpr fun r w₂ hs => ?_
    obtain ⟨t, s', -, -, he, rfl⟩ := hs
    obtain rfl := congrArg Prod.snd he
    exact createWorkflow_level h₁ rfl t _

theorem replayDeadLetter_events {s s' : SQLiteStore} {t : Timestamp} {deliveryId n : Nat} {actor reason : String}
    (h : s.replayDeadLetter t deliveryId taskId n actor reason = (some st, s')) :
    ∃ payload, s'.events = (s.recordEvent t st.taskId .dlqReplayed payload).events := by
  unfold SQLiteStore.replayDeadLetter at h
  split at h
  · cases h
  · split at h
    · cases h
    · cases h; exact ⟨_, rfl⟩

theorem replayDeadLetter_level {s s' : SQLiteStore} {t : Timestamp} {deliveryId n : Nat} {actor reason : String}
    {r : Option WorkflowState} (h : Level s) (hr : s.replayDeadLetter t deliveryId taskId n actor reason = (r, s')) :
    Level s' := by
  rcases SQLiteStore.replayDeadLetter_cases hr with ⟨-, rfl⟩ | ⟨q, row, state, -, -, -, hrow, hst, rfl, hws, -⟩
  · exact h
  · obtain ⟨payload, hev⟩ := replayDeadLetter_events hr
    obtain ⟨htask, hver⟩ := h.filed.rows _ row hrow
    have hget := replay_workflow htask hrow hst hws
    have hstate : state.taskId = taskId := by rw [hst]; exact htask
    have habr := h.abreast (stored_some.mpr ⟨row, hrow, rfl⟩)
    have hrec := h.filed.recordEvent t state.taskId .dlqReplayed payload
    have hat : s'.stored taskId = some state := stored_some.mpr ⟨_, (hget _).trans (if_pos rfl), rfl⟩
    have hlevel : ∀ {a}, Abreast taskId state a s' → a = state.audit → Level s' := Abreast.level
    refine hlevel ⟨⟨fun T x hT => ?_, by rw [hev]; exact hrec.ids⟩, hat, rfl, fun T hT => ?_⟩ ?_
    · rw [hget] at hT
      split at hT
      · rename_i e
        cases hT
        exact ⟨hstate.trans e.symm, by rw [hst]⟩
      · exact h.filed.rows T x hT
    · rw [eventsOf_congr hev, eventsOf_recordEvent, hstate, if_neg (Ne.symm hT), h.told]
      simp only [SQLiteStore.stored, SQLiteStore.getWorkflow, hget, if_neg hT]
    · rw [eventsOf_congr hev, eventsOf_recordEvent, if_pos hstate, habr.told, hst]
      simp [EventType.status, WorkflowState.audit]

theorem replay_level (h : Level w.store) (deliveryId : Nat) (taskId actor reason : String) :
    wp (calls env 0) (replay config deliveryId taskId actor reason) (fun _ w' => Level w'.store) w := by
  refine wp_bind.mpr (wp_perform.mpr fun r w₂ hs => ?_)
  obtain ⟨t, s', -, -, he, rfl⟩ := hs
  have he : (w.store.replayDeadLetter t deliveryId taskId config.maxQueueAttempts actor reason).2 = s' := congrArg Prod.snd he
  have hlevel : Level s' := replayDeadLetter_level h (Prod.ext rfl he)
  cases r with
  | error e => exact hlevel
  | ok found => cases found <;> exact hlevel

theorem required_level (h : Level w.store) (taskId : String) :
    wp (calls env 0) (required taskId)
      (fun o w' => Level w'.store ∧ ∀ st, o = .ok st → w'.store.stored taskId = some st) w := by
  refine wp_bind.mpr (wp_mono (getWorkflow_level h taskId) fun o w₁ hq => ?_)
  obtain ⟨found, ho, h₁, hfound⟩ := hq
  subst ho
  cases found with
  | none => exact ⟨h₁, fun _ e => by cases e⟩
  | some st => exact ⟨h₁, fun _ e => by cases e; exact hfound.symm⟩

/-- A decision once the workflow is loaded: the approval, the save and the event of the save. -/
theorem decided_level {st new : WorkflowState} {c : Call} {event : EventType} {payload : Json} {β : Type}
    {f : WorkflowState → Py β} (h : Level w.store) (hst : w.store.stored taskId = some st) (hc : c.mute = true)
    (htask : new.taskId = taskId) (hversion : new.version = st.version) (haudit : st.audit.tell event payload = new.audit)
    (hf : ∀ st' w', Level w'.store → wp (calls env 0) (f st') (fun _ w'' => Level w''.store) w') :
    wp (calls env 0) ((Prog.perform c).bind fun _ => (save new).bind fun st' => (record taskId event payload).bind fun _ => f st')
      (fun _ w' => Level w'.store) w := by
  refine wp_bind.mpr (wp_mono (abreast_mute (makes_perform hc) (h.abreast hst)) fun o w₂ h₂ => ?_)
  cases o with
  | error e => exact h₂.level rfl
  | ok u =>
    refine wp_seq (save_abreast h₂ htask hversion) fun st' w₃ hq => ?_
    obtain ⟨⟨t, e⟩, h₃⟩ := hq
    refine wp_seq (record_level h₃ rfl ?_) fun _ w₄ h₄ => hf st' w₄ h₄
    rw [e, saved_audit, haudit]

theorem approve_level (h : Level w.store) (taskId actor : String) (reason : Option String) :
    wp (calls env 0) (approve config taskId actor reason) (fun _ w' => Level w'.store) w := by
  refine wp_bind.mpr (wp_mono (required_level h taskId) fun o w₁ hq => ?_)
  obtain ⟨h₁, hst⟩ := hq
  cases o with
  | error e => exact h₁
  | ok st =>
    have hst := hst st rfl
    obtain ⟨-, -, -, ht⟩ := h₁.filed.version hst
    simp only [after]
    split
    · refine decided_level h₁ hst rfl ht rfl (by simp [EventType.status, WorkflowState.audit]) fun st' w₄ h₄ => ?_
      exact level_mute (makes_bind (makes_perform rfl) fun _ => trivial) h₄
    · exact h₁

theorem reject_level (h : Level w.store) (taskId actor : String) (reason : Option String) :
    wp (calls env 0) (reject taskId actor reason) (fun _ w' => Level w'.store) w := by
  refine wp_bind.mpr (wp_mono (required_level h taskId) fun o w₁ hq => ?_)
  obtain ⟨h₁, hst⟩ := hq
  cases o with
  | error e => exact h₁
  | ok st =>
    have hst := hst st rfl
    obtain ⟨-, -, -, ht⟩ := h₁.filed.version hst
    simp only [after]
    split
    · exact decided_level h₁ hst rfl ht rfl (by simp [EventType.status, WorkflowState.audit]) fun _ _ h₄ => h₄
    · exact h₁

theorem heartbeatTick_level (h : Level w.store) (workerId : String) (delivery : QueueDelivery) :
    wp (calls env 0) (heartbeatTick config workerId delivery) (fun _ w' => Level w'.store) w := by
  refine wp_bind.mpr (wp_mono (level_mute (makes_perform rfl) h) fun o w₁ h₁ => ?_)
  cases o with
  | error e => exact h₁
  | ok u =>
    refine wp_perform.mpr fun r w₂ hs => ?_
    obtain ⟨t, s', -, -, he, rfl⟩ := hs
    obtain rfl := congrArg Prod.snd he
    refine ⟨h₁.filed.recordEvent .., fun T => ?_⟩
    show auditOf (SQLiteStore.eventsOf (SQLiteStore.recordEvent ..) T) = _
    rw [eventsOf_recordEvent, h₁.told]
    split
    · simp [EventType.status]; rfl
    · rfl

/-! ## Sequences of operations -/

theorem operation_level (he : rt.engine = anyEngine) (hb : rt.backend = anyBackend) (op : Operation) (h : Level w.store) :
    wp (calls env 0) (op.program rt config) (fun _ w' => Level w'.store) w := by
  cases op with
  | runOnce workerId => exact wp_bind.mpr (wp_mono (runOnce_level he hb h workerId) fun o w' h' => by cases o <;> exact h')
  | heartbeatTick workerId delivery =>
    exact wp_bind.mpr (wp_mono (heartbeatTick_level h workerId delivery) fun o w' h' => by cases o <;> exact h')
  | createIncident taskId goal scenarioId =>
    exact wp_bind.mpr (wp_mono (createIncident_level h taskId goal scenarioId) fun o w' h' => by cases o <;> exact h')
  | approve taskId actor reason =>
    exact wp_bind.mpr (wp_mono (approve_level h taskId actor reason) fun o w' h' => by cases o <;> exact h')
  | reject taskId actor reason =>
    exact wp_bind.mpr (wp_mono (reject_level h taskId actor reason) fun o w' h' => by cases o <;> exact h')
  | replay deliveryId taskId actor reason =>
    exact wp_bind.mpr (wp_mono (replay_level h deliveryId taskId actor reason) fun o w' h' => by cases o <;> exact h')

theorem sequence_level (he : rt.engine = anyEngine) (hb : rt.backend = anyBackend) (hdies : ∀ w, ¬ env.dies 0 w)
    (h : Sequence rt config env w) : Level w.store := by
  induction h with
  | init => exact ⟨⟨fun _ _ h => (by cases h), List.Pairwise.nil⟩, fun _ => rfl⟩
  | @ran w w' op o _ _ hr ih =>
    have hop : wp (calls env 0) (op.program rt config) (fun _ w' => Level w'.store) (w.note (.began 0 op)) := operation_level he hb op ih
    have hlevel : Level w'.store := wp_sound hop hr
    exact hlevel
  | died _ _ _ hd _ => exact absurd hd (hdies _)

/-- After each of a sequence of operations, reading a task's events in the order of their ids
    tells its checkpoint's status, findings and counters. -/
theorem log_determines (rt : WorkflowRuntime) (config : Settings)
    (h : Sequence { rt with engine := anyEngine, backend := anyBackend } config .crashFree w) :
    w.store.events.Pairwise (fun a b => a.id < b.id) ∧
    ∀ taskId st, w.store.stored taskId = some st → auditOf (w.store.eventsOf taskId) = st.audit := by
  have hlevel : Level w.store := sequence_level rfl rfl (fun _ hd => hd) h
  exact ⟨hlevel.filed.ids, fun taskId st hst => by rw [hlevel.told, hst]; rfl⟩

/-- An incident whose worker reads the alert. -/
def readsAlert : List Act :=
  [createsAct, ⟨.runOnce "w1", deciding readAlertRequest ++ unasked 2 ++ [.result 0 (.ok alertRead)] ++ unasked 7, false⟩]

theorem readsAlert_plays : (Sequence.play {} {} (fun _ _ _ => true) (fun _ => false) readsAlert World.init).any
    (fun w => (w.store.stored "t").any fun st => st.toolCalls = 1) = true := by
  decide +kernel

theorem log_determines_read : ∃ w st, Sequence {} {} .crashFree w ∧ w.store.stored "t" = some st ∧ st.toolCalls = 1 ∧
    auditOf (w.store.eventsOf "t") = st.audit := by
  obtain ⟨w, h, hw⟩ : ∃ w, Sequence {} {} .crashFree w ∧ _ := Sequence.play_exists (fun _ _ _ _ => trivial)
    (fun _ h => by cases h) (fun _ _ _ => trivial) readsAlert_plays
  obtain ⟨st, hst, hcalls⟩ := Option.any_eq_true _ _ |>.mp hw
  exact ⟨w, st, h, hst, of_decide_eq_true hcalls, (log_determines {} {} h).2 "t" st hst⟩

end AgentResilience
