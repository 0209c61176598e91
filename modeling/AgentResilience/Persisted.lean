/-
  AgentResilience.Persisted — the state that `process` returns and the checkpoint it leaves.
  Every return path saves before it returns but one: a pending action whose approval is not
  approved makes `resumeApprovedAction` answer `WAITING_FOR_APPROVAL` and save nothing.

  - `Held`: the checkpoint of a task is the one in hand.
  - `Truthful`: what the answers of a store mean, whose calls may also fail; `process_agrees`.
  - `process_persisted_iff`: what is returned is what is stored, unless the stored checkpoint is
    active with such a pending action (`Unapproved`).
  - `requeued_unapproved`: a replay brings such a checkpoint about.
-/
import AgentResilience.ApprovalSafety
import AgentResilience.CrashRecovery

namespace AgentResilience

open Interaction
open Interaction.Prog (attempt ofExcept)

variable {rt : WorkflowRuntime} {env : Env} {i : ThreadId} {taskId : String} {cp st : WorkflowState} {w w' : World}

/-! ## The checkpoint in hand -/

structure Held (taskId : String) (st : WorkflowState) (w : World) : Prop where
  row : ∃ row, w.store.workflows.get taskId = some row ∧ row.stateJson = st ∧ row.version = st.version
  task : st.taskId = taskId

theorem Held.stored (h : Held taskId st w) : w.store.getWorkflow taskId = some st := by
  obtain ⟨row, hr, hst, -⟩ := h.row
  simp [SQLiteStore.getWorkflow, hr, hst]

theorem Held.same (h : Held taskId st w) (hs : w'.store.workflows = w.store.workflows) : Held taskId st w' := by
  obtain ⟨row, hr, hst⟩ := h.row
  exact ⟨⟨row, hs ▸ hr, hst⟩, h.task⟩

/-- What `process` may leave behind: the state it returns, in the store, and never while it runs. -/
def Agrees (taskId : String) (o : Except PyError WorkflowState) (w : World) : Prop :=
  ∀ st, o = .ok st → Held taskId st w ∧ st.status ≠ .running

theorem agrees_ok (h : Held taskId st w) (hrun : st.status ≠ .running) : Agrees taskId (.ok st) w := by
  intro st' e
  cases e
  exact ⟨h, hrun⟩

theorem agrees_error (e : PyError) (w : World) : Agrees taskId (.error e) w := by
  intro st h
  cases h

/-- The calls that leave every checkpoint alone. -/
def Call.spares : Call → Bool
  | .store c => !c.writesWorkflows
  | _ => true

/-- What the answers of a store mean whose calls may also fail. -/
structure Truthful (sem : Service Call Call.Ret PyError World) : Prop where
  spares : ∀ {c : Call} {w w' : World} {r : Except PyError c.Ret}, c.spares = true → sem c w r w' →
    w'.store.workflows = w.store.workflows
  saved : ∀ {st st' : WorkflowState} {w w' : World}, sem (.store (.saveWorkflow st st.version)) w (.ok st') w' →
    st'.status = st.status ∧ Held st.taskId st' w'
  read : ∀ {taskId : String} {w w' : World} {r : Option WorkflowState}, sem (.store (.getWorkflow taskId)) w (.ok r) w' →
    r = w.store.getWorkflow taskId ∧ w'.store.approvals = w.store.approvals
  approval : ∀ {taskId actionId : String} {w w' : World} {r : Option ApprovalStatus},
    sem (.store (.approvalStatus taskId actionId)) w (.ok r) w' → r = w.store.approvalStatus taskId actionId

/-- A call that leaves every checkpoint alone. -/
theorem effect_spares {c : Call} {s s' : SQLiteStore} {t : Timestamp} {r : Except PyError c.Ret} (hc : c.spares = true)
    (he : Effect c s t r s') : s'.workflows = s.workflows := by
  cases c with
  | store c =>
    obtain rfl := congrArg Prod.snd he
    exact StoreCall.apply_workflows (by simpa [Call.spares] using hc) ..
  | clock | awaitHeartbeat => obtain ⟨-, rfl⟩ := he; rfl
  | _ => obtain rfl := he; rfl

theorem effect_saved {s s' : SQLiteStore} {t : Timestamp} {j : List Entry}
    (he : Effect (.store (.saveWorkflow st st.version)) s t (.ok cp) s') : cp.status = st.status ∧ Held st.taskId cp ⟨s', t, j⟩ := by
  rcases SQLiteStore.saveWorkflow_cases he with ⟨-, -, -, e, hw, -⟩ | ⟨⟨_, e⟩, -⟩
  · cases e
    exact ⟨rfl, ⟨_, by rw [hw, if_pos rfl], rfl, rfl⟩, rfl⟩
  · cases e

variable {sem : Service Call Call.Ret PyError World}

theorem Held.keeps (ha : Truthful sem) (h : Held taskId st w) {c : Call} (hc : c.spares = true) {r : Except PyError c.Ret}
    (hs : sem c w r w') : Held taskId st w' := h.same (ha.spares hc hs)

theorem wp_held (ha : Truthful sem) {α : Type} {p : Py α} (hp : p.Makes fun c => c.spares = true) (h : Held taskId st w) :
    wp sem p (fun _ w' => Held taskId st w') w :=
  wp_keeps (fun _ _ _ _ hc hs h => h.keeps ha hc hs) hp h

theorem record_held (ha : Truthful sem) (h : Held taskId st w) (t : String) (e : EventType) (payload : Json) :
    wp sem (record t e payload) (fun o w' => ∀ u, o = .ok u → Held taskId st w') w :=
  wp_mono (wp_held ha (p := record t e payload) (Prog.makes_perform rfl) h) fun _ _ h _ _ => h

theorem save_held (ha : Truthful sem) (ht : st.taskId = taskId) :
    wp sem (save st) (fun o w' => ∀ st', o = .ok st' → st'.status = st.status ∧ Held taskId st' w') w := by
  subst ht
  refine wp_perform.mpr fun r w' hs st' e => ?_
  subst e
  exact ha.saved hs

/-- A save and the record of it, before the saved state is returned. -/
theorem saved_agrees (ha : Truthful sem) (ht : st.taskId = taskId) (hrun : st.status ≠ .running)
    {e : WorkflowState → EventType} {t : WorkflowState → String} {payload : WorkflowState → Json} :
    wp sem ((save st).bind fun st' => (record (t st') (e st') (payload st')).bind fun _ => .ret st') (Agrees taskId) w := by
  refine wp_then (save_held ha ht) agrees_error fun st' w₁ hq => ?_
  refine wp_then (record_held ha hq.2 _ _ _) agrees_error fun _ w₂ h₂ => ?_
  exact agrees_ok h₂ (hq.1 ▸ hrun)

/-! ## The runtime -/

theorem failWorkflow_agrees (ha : Truthful sem) (ht : st.taskId = taskId) (reason category : String) :
    wp sem (failWorkflow st reason category) (Agrees taskId) w :=
  saved_agrees ha (by exact ht) (by simp)

theorem executeTool_agrees (ha : Truthful sem) (ht : st.taskId = taskId) (tool : ToolName) (arguments : Arguments) :
    wp sem (rt.executeTool st tool arguments) (Agrees taskId) w := by
  unfold WorkflowRuntime.executeTool
  refine wp_bind.mpr (wp_attempt.mpr (wp_mono (wp_true _ _) fun o w₁ _ => ?_))
  cases o with
  | error e =>
    show wp _ (if _ then _ else _) _ w₁
    split
    · refine wp_then (save_held ha (by exact ht)) agrees_error fun st w₂ h₂ => ?_
      refine wp_then (record_held ha h₂.2 _ _ _) agrees_error fun _ w₃ _ => ?_
      exact agrees_error e _
    · split
      · exact failWorkflow_agrees ha ht _ _
      · exact agrees_error e _
  | ok x => exact saved_agrees ha (by exact ht) (by simp [toolCompleted])

theorem resumeApprovedAction_agrees (ha : Truthful sem) (ht : cp.taskId = taskId)
    {pending : PendingAction} (happroved : w.store.approvalStatus taskId pending.actionId = some .approved) :
    wp sem (rt.resumeApprovedAction cp pending) (Agrees taskId) w := by
  refine wp_then (R := fun r _ => r = some .approved) (wp_perform.mpr fun r w₁ hs a e => ?_) agrees_error fun r w₁ hr => ?_
  · subst e
    rw [ha.approval hs, ht, happroved]
  · subst hr
    show wp _ (if _ then _ else _) _ _
    rw [if_neg (by simp)]
    refine wp_then (wp_mono (wp_true _ _) fun _ _ _ _ _ => trivial) agrees_error fun _ w₂ _ => ?_
    exact executeTool_agrees ha ht _ _

theorem pauseForApproval_agrees (ha : Truthful sem) (ht : cp.taskId = taskId) (pending : PendingAction) :
    wp sem (WorkflowRuntime.pauseForApproval taskId cp pending) (Agrees taskId) w := by
  refine wp_then (save_held ha (by exact ht)) agrees_error fun st w₁ hq => ?_
  refine wp_then (wp_mono (wp_held ha (Prog.makes_perform rfl) hq.2) fun _ _ h _ _ => h) agrees_error fun _ w₂ h₂ => ?_
  refine wp_then (record_held ha h₂ _ _ _) agrees_error fun _ w₃ h₃ => ?_
  exact agrees_ok h₃ (by simp [hq.1])

theorem useTool_agrees (ha : Truthful sem) (ht : st.taskId = taskId) (decision : AgentDecision)
    (tool : ToolName) : wp sem (rt.useTool taskId st decision tool) (Agrees taskId) w := by
  unfold WorkflowRuntime.useTool
  cases validateAndDecide tool decision.arguments.modelDump with
  | error e => exact agrees_error e _
  | ok x =>
    obtain ⟨arguments, policy⟩ := x
    simp only [Prog.bind_def, Prog.ofExcept_ok, Prog.ret_bind]
    split
    · exact saved_agrees ha (by exact ht) (by simp)
    · refine wp_then (save_held ha (by exact ht)) agrees_error fun st' w₁ hq => ?_
      have ht' := hq.2.task
      unfold WorkflowRuntime.runDecided
      split
      · refine wp_then (record_held ha hq.2 _ _ _) agrees_error fun _ w₂ _ => ?_
        exact failWorkflow_agrees ha ht' _ _
      · split
        · exact pauseForApproval_agrees ha ht' _
        · split
          · refine wp_then (record_held ha hq.2 _ _ _) agrees_error fun _ w₂ _ => ?_
            exact executeTool_agrees ha ht' _ _
          · exact executeTool_agrees ha ht' _ _

theorem applyDecision_agrees (ha : Truthful sem) (he : rt.engine = anyEngine) (h : Held taskId cp w)
    (decision : AgentDecision) : wp sem (rt.applyDecision taskId cp decision) (Agrees taskId) w := by
  unfold WorkflowRuntime.applyDecision
  rw [he]
  refine wp_then (wp_mono (wp_held ha (Prog.makes_perform rfl) h) fun _ _ h _ _ => h) agrees_error fun usage w₁ h₁ => ?_
  refine wp_then (record_held ha h₁ _ _ _) agrees_error fun _ w₂ h₂ => ?_
  simp only
  split
  · exact saved_agrees ha (by exact h.task) (by simp)
  · exact failWorkflow_agrees ha (by exact h.task) _ _
  · split
    · exact agrees_error _ _
    · exact useTool_agrees ha (by exact h.task) _ _

theorem decideNext_agrees (ha : Truthful sem) (he : rt.engine = anyEngine) (ht : cp.taskId = taskId) :
    wp sem (rt.decideNext taskId cp) (Agrees taskId) w := by
  unfold WorkflowRuntime.decideNext
  refine wp_then (save_held ha (by exact ht)) agrees_error fun st w₁ hq => ?_
  refine wp_then (record_held ha hq.2 _ _ _) agrees_error fun _ w₂ h₂ => ?_
  rw [he]
  refine wp_bind.mpr (wp_attempt.mpr (wp_mono (wp_held ha (Prog.makes_perform rfl) h₂) fun r w₃ h₃ => ?_))
  cases r with
  | error e =>
    show wp _ (if _ then _ else _) _ w₃
    split
    · refine wp_then (save_held ha (by exact h₃.task)) agrees_error fun st w₄ h₄ => ?_
      refine wp_then (record_held ha h₄.2 _ _ _) agrees_error fun _ w₅ _ => ?_
      exact agrees_error e _
    · exact agrees_error e _
  | ok decision => exact applyDecision_agrees ha he h₃ decision

/-! ## What `process` returns -/

/-- The stored checkpoint is queued or running with a pending action that is not approved. -/
def Unapproved (taskId : String) (s : SQLiteStore) : Prop :=
  ∃ st pending, s.getWorkflow taskId = some st ∧ st.status.active = true ∧ st.pendingAction = some pending ∧
    s.approvalStatus taskId pending.actionId ≠ some .approved

theorem held_of_stored (hi : StoreOk Set.univ w.store) (h : w.store.getWorkflow taskId = some st) : Held taskId st w := by
  obtain ⟨row, hr, rfl⟩ := SQLiteStore.getWorkflow_some h
  exact ⟨⟨row, hr, rfl, hi.version taskId row hr⟩, (hi.state taskId row hr).task⟩

theorem process_agrees (ha : Truthful sem) (he : rt.engine = anyEngine) (hi : StoreOk Set.univ w.store)
    (hno : ¬ Unapproved taskId w.store) : wp sem (rt.process taskId) (Agrees taskId) w := by
  refine wp_then (R := fun st w' => w.store.getWorkflow taskId = some st ∧ Held taskId st w' ∧ w'.store.approvals = w.store.approvals)
    (wp_then (R := fun found w' => found = w.store.getWorkflow taskId ∧ w'.store.workflows = w.store.workflows ∧
        w'.store.approvals = w.store.approvals)
      (wp_perform.mpr fun r w₁ hs found e => ?_) (fun e _ _ h => by cases h) fun found w₁ hq => ?_)
    agrees_error fun st w₁ hq => ?_
  · subst e
    exact ⟨(ha.read hs).1, ha.spares rfl hs, (ha.read hs).2⟩
  · obtain ⟨rfl, hsame, happrovals⟩ := hq
    cases hst : w.store.getWorkflow taskId with
    | none => exact fun st h => by cases h
    | some st =>
      rintro _ ⟨⟩
      exact ⟨rfl, (held_of_stored hi hst).same hsame, happrovals⟩
  · obtain ⟨hst, h, happrovals⟩ := hq
    show wp _ (if _ then _ else _) _ _
    split
    · rename_i hstop
      refine agrees_ok h fun hrun => ?_
      simp [WorkflowState.terminal, hrun, WorkflowStatus.terminal] at hstop
    · rename_i hgo
      have hact : st.status.active = true := active_of_running hgo
      split
      · rename_i pending hp
        refine resumeApprovedAction_agrees ha h.task ?_
        show SQLiteStore.approvalStatus _ _ _ = _
        unfold SQLiteStore.approvalStatus
        rw [happrovals]
        by_contra hne
        exact hno ⟨st, pending, hst, hact, hp, hne⟩
      · exact decideNext_agrees ha he h.task

/-- The answers of a store that never fails. -/
theorem calls_truthful : Truthful (calls env i) where
  spares {c _ _ _} hc hs := by
    obtain ⟨t, s', -, -, he, rfl⟩ := hs
    exact effect_spares hc he
  saved hs := by
    obtain ⟨t, s', -, -, he, rfl⟩ := hs
    exact effect_saved he
  read hs := by
    obtain ⟨t, s', -, -, he, rfl⟩ := hs
    obtain ⟨e, rfl⟩ := Prod.mk.inj he
    exact ⟨(Except.ok.inj e).symm, rfl⟩
  approval hs := by
    obtain ⟨t, s', -, -, he, rfl⟩ := hs
    exact (Except.ok.inj (Prod.mk.inj he).1).symm

/-- The early return. -/
theorem process_disagrees (hi : StoreOk Set.univ w.store) (h : Unapproved taskId w.store) :
    wp (calls env i) (rt.process taskId) (fun o w' => ∃ st, o = .ok st ∧ w'.store.getWorkflow taskId ≠ some st) w := by
  obtain ⟨st, pending, hst, hact, hp, hne⟩ := h
  have htask := (held_of_stored hi hst).task
  refine wp_bind.mpr (wp_bind.mpr (wp_perform.mpr fun r w₁ hs => ?_))
  obtain ⟨t, s', -, -, heq, rfl⟩ := hs
  obtain ⟨rfl, rfl⟩ := Prod.mk.inj heq
  rw [hst]
  show wp _ (if _ then _ else _) _ _
  rw [if_neg (by rw [stops_iff, hact]; simp), hp]
  refine wp_bind.mpr (wp_perform.mpr fun r w₂ hs => ?_)
  obtain ⟨t₂, s₂, -, -, heq, rfl⟩ := hs
  obtain ⟨rfl, rfl⟩ := Prod.mk.inj heq
  show wp _ (if _ then _ else _) _ _
  rw [htask, if_pos hne]
  refine ⟨_, rfl, ?_⟩
  simp only [hst, ne_eq, Option.some.injEq]
  intro e
  rw [e] at hact
  cases hact

/-- Every call has an answer. -/
theorem free_answers (i : ThreadId) (c : Call) (w : World) : ∃ r w', calls .free i c w r w' := by
  cases c with
  | store c => exact ⟨_, _, w.now, _, le_rfl, trivial, rfl, rfl⟩
  | clock | awaitHeartbeat => exact ⟨_, _, w.now, _, le_rfl, trivial, ⟨rfl, rfl⟩, rfl⟩
  | _ => exact ⟨.error (.retryable "unavailable"), _, w.now, _, le_rfl, trivial, rfl, rfl⟩

/-- From every store reached, `process` returns what is stored in each of its runs exactly if
    the stored checkpoint is not active with a pending action that is not approved. -/
theorem process_persisted_iff (rt : WorkflowRuntime) (config : Settings) {cfg : Cfg}
    (h : Reachable { rt with engine := anyEngine, backend := anyBackend } config .free cfg) (taskId : String) :
    (∀ i o w', Runs (calls .free i) (({ rt with engine := anyEngine, backend := anyBackend } : WorkflowRuntime).process taskId)
      cfg.state o w' → ∀ st, o = .ok st → w'.store.getWorkflow taskId = some st) ↔ ¬ Unapproved taskId cfg.state.store := by
  have hi := reachable_storeOk lawful_univ h
  constructor
  · intro hall hun
    obtain ⟨o, w', hr⟩ := runs_exists (free_answers 0)
      (({ rt with engine := anyEngine, backend := anyBackend } : WorkflowRuntime).process taskId) cfg.state
    obtain ⟨st, ho, hne⟩ := wp_sound (process_disagrees hi hun) hr
    exact hne (hall 0 o w' hr st ho)
  · intro hno i o w' hr st ho
    exact (wp_sound (process_agrees calls_truthful rfl hi hno) hr st ho).1.stored

/-- The workflow is queued and has no pending action. -/
def queuedClear (w : World) : Bool :=
  (w.store.workflows.get "t").any fun row => row.stateJson.status = .queued && row.stateJson.pendingAction.isNone

theorem createsIncident_plays : ((freePlayer {} {}).play ⟨World.init, fun _ => none⟩ createsIncident).any
    (fun cfg => queuedClear cfg.state) = true := by
  decide +kernel

/-- An incident just created. -/
theorem process_persisted_created : ∃ cfg, Reachable {} {} .free cfg ∧ queuedClear cfg.state = true ∧
    ∀ i o w', Runs (calls .free i) (({} : WorkflowRuntime).process "t") cfg.state o w' → ∀ st, o = .ok st →
      w'.store.getWorkflow "t" = some st := by
  obtain ⟨cfg, h, hc⟩ := (freePlayer {} {}).play_exists createsIncident_plays
  refine ⟨cfg, h, hc, (process_persisted_iff {} {} h "t").mpr ?_⟩
  rintro ⟨st, pending, hst, -, hp, -⟩
  obtain ⟨row, hrow, hclear⟩ := Option.any_eq_true _ _ |>.mp hc
  obtain ⟨row', hrow', rfl⟩ := SQLiteStore.getWorkflow_some hst
  have : row = row' := Option.some.inj (hrow.symm.trans hrow')
  subst this
  simp [hp] at hclear

/-- A worker asks for a production restart and dies once its workflow waits; another one, with
    the lapsed delivery and the checkpoint from before, fails and dead-letters it; an operator
    replays it. -/
def replayedRequest : List (Move ThreadId Operation Answer) :=
  createsIncident ++ begins 1 (.runOnce "w1") 4 ++ decides 1 productionRestart ++ continues 1 2 ++
  begins 2 (.runOnce "w2") 2 minuteLater ++ continues 1 1 minuteLater ++ [.crash 1] ++ continues 2 7 minuteLater ++ [.leave 2] ++
  begins 3 (.replay 1 "t" "operator" "try again") 1 minuteLater ++ [.leave 3]

/-- `process` returns a state that waits for approval, and the stored one is queued. -/
def returnsWaiting (cfg : Cfg) : Bool :=
  (World.playFor (fun _ _ _ => true) (unasked 2 minuteLater) (({} : WorkflowRuntime).process "t") cfg.state).any fun q =>
    statusIs q.2 .queued && q.1.outcome?.any fun o => o.toOption.any fun st => st.status = .waitingForApproval

theorem replayedRequest_plays : ((freePlayer {} { maxQueueAttempts := 1 }).play ⟨World.init, fun _ => none⟩ replayedRequest).any
    returnsWaiting = true := by
  decide +kernel

/-- A replayed workflow whose pending action nobody approved: `process` returns
    `WAITING_FOR_APPROVAL`, and the stored checkpoint is `QUEUED`. -/
theorem requeued_unapproved : ∃ cfg st w', Reachable {} { maxQueueAttempts := 1 } .free cfg ∧
    Runs (calls .free 0) (({} : WorkflowRuntime).process "t") cfg.state (.ok st) w' ∧ st.status = .waitingForApproval ∧
    ∃ stored, w'.store.getWorkflow "t" = some stored ∧ stored.status = .queued := by
  obtain ⟨cfg, h, hc⟩ := (freePlayer {} { maxQueueAttempts := 1 }).play_exists replayedRequest_plays
  obtain ⟨⟨q, w'⟩, hq, hc⟩ := Option.any_eq_true _ _ |>.mp hc
  simp only [Bool.and_eq_true] at hc
  obtain ⟨o, ho, hst⟩ := Option.any_eq_true _ _ |>.mp hc.2
  obtain ⟨row, hrow, hqueued⟩ := Option.any_eq_true _ _ |>.mp hc.1
  cases o with
  | error e => simp [Except.toOption] at hst
  | ok st =>
    refine ⟨cfg, st, w', h, playFor_runs (fun _ _ _ _ => trivial) hq ho, ?_, row.stateJson, ?_, ?_⟩
    · simpa [Except.toOption] using hst
    · simp [SQLiteStore.getWorkflow, hrow]
    · exact of_decide_eq_true hqueued

end AgentResilience
