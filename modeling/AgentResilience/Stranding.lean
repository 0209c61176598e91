/-
  AgentResilience.Stranding — a worker's run, from rest to rest.

  `Stranding` names the call boundaries of a worker's run where the store is not at rest:
  right after a checkpoint `WAITING_FOR_APPROVAL` without its approval row, and right after
  an acknowledgement that leaves its workflow active. A process that dies there strands
  the workflow; `AtRest` is the condition a worker's run keeps everywhere.

  `process_rest`, `runOnce_rest`: a worker's run, at every other boundary and at its end.
-/
import AgentResilience.AtRest

namespace AgentResilience

open Interaction
open Interaction.Prog (attempt ofExcept throw makes_bind makes_perform)

def Stranding (w : World) : Prop :=
  match w.journal with
  | .did _ (.store (.acknowledge id)) _ :: _ => ∃ row, w.store.queue.get id = some row ∧ Active row.taskId w.store
  | .did _ (.store (.getWorkflow taskId)) _ :: .did _ (.store (.acknowledge _)) _ :: _ => Active taskId w.store
  | .did _ (.store (.saveWorkflow st _)) (.ok _) :: _ => st.status = .waitingForApproval ∧
      ∃ p, st.pendingAction = some p ∧ w.store.approvalStatus st.taskId p.actionId = none
  | _ => False

/-- A missing approval row counts as pending: the pause is about to add it. -/
def Opens (ok : Option ApprovalStatus → Prop) (status : Option ApprovalStatus) : Prop := ok (some (status.getD .pending))

/-- The engine's answers whose approval, once asked for, is `ok`. -/
def Asks (ok : Option ApprovalStatus → Prop) (s : SQLiteStore) : (c : Call) → Except PyError c.Ret → Prop
  | .decide state, .ok decision => ∀ tool validated policy, decision.asked = some tool →
      validateAndDecide tool decision.arguments.modelDump = .ok (validated, policy) → ProductionRestart tool validated →
      Opens ok (s.approvalStatus state.taskId (actionId state.taskId tool validated))
  | _, _ => True

def AtRest (ok : Option ApprovalStatus → Prop) (w : World) : Prop := Rest ok none w.store ∨ Stranding w

variable {ok : Option ApprovalStatus → Prop} {env : Env} {d : QueueDelivery} {a : Table (String × String) ApprovalRow _}
  {cp : WorkflowState} {w w' : World}

/-! ## A worker at work -/

/-- The worker's delivery is claimed, and its task's checkpoint is `cp`. -/
structure Working (ok : Option ApprovalStatus → Prop) (d : QueueDelivery)
    (a : Table (String × String) ApprovalRow (fun r => (r.taskId, r.actionId))) (cp : WorkflowState) (w : World) : Prop where
  rest : Rest ok none w.store
  approvals : w.store.approvals = a
  holds : ∃ row, w.store.queue.get d.id = some row ∧ row.taskId = d.taskId ∧ row.status = .processing
  stored : ∃ row, w.store.workflows.get d.taskId = some row ∧ row.stateJson = cp
  decided : cp.status ≠ .waitingForApproval

theorem Working.task (h : Working ok d a cp w) : cp.taskId = d.taskId := by
  obtain ⟨row, hr, rfl⟩ := h.stored
  exact (h.rest.store.state _ row hr).task

theorem Working.same (h : Working ok d a cp w) (hs : Same w w') : Working ok d a cp w' :=
  ⟨h.rest.congr hs.workflows hs.queue hs.approvals, hs.approvals.trans h.approvals, hs.queue ▸ h.holds,
    hs.workflows ▸ h.stored, h.decided⟩

/-- How processing a delivery ends. -/
def Done (ok : Option ApprovalStatus → Prop) (d : QueueDelivery) (o : Except PyError WorkflowState) (w : World) : Prop :=
  Rest ok none w.store ∧
  (∃ row, w.store.queue.get d.id = some row ∧ row.taskId = d.taskId ∧ row.status = .processing) ∧
  ∃ row, w.store.workflows.get d.taskId = some row ∧
    match o with
    | .ok st => st.taskId = d.taskId ∧ (st.status ≠ .queued → row.stateJson.status.active = false)
    | .error _ => row.stateJson.status ≠ .waitingForApproval

theorem Working.raises (h : Working ok d a cp w) (e : PyError) : Done ok d (.error e) w := by
  obtain ⟨row, hr, rfl⟩ := h.stored
  exact ⟨h.rest, h.holds, row, hr, h.decided⟩

theorem Working.returns (h : Working ok d a cp w) (hs : cp.status ≠ .queued → cp.status.active = false) :
    Done ok d (.ok cp) w := by
  have ht := h.task
  obtain ⟨row, hr, rfl⟩ := h.stored
  exact ⟨h.rest, h.holds, row, hr, ht, hs⟩

variable {α : Type}

theorem rest_quiet {p : Py α} (hp : p.Makes fun c => c.quiet = true) (h : Rest ok none w.store) :
    wpc (calls env 0) (AtRest ok) p (fun _ w' => Same w w') w :=
  wpc_quiet hp fun _ hs => .inl (h.congr hs.workflows hs.queue hs.approvals)

theorem record_rest (h : Rest ok none w.store) (taskId : String) (e : EventType) (payload : Json) :
    wpc (calls env 0) (AtRest ok) (record taskId e payload) (fun o w' => ∃ u, o = .ok u ∧ Same w w') w := by
  refine wpc_perform (.inl h) fun r w' hs => ?_
  have hsame := calls_same rfl hs
  obtain ⟨t, s', -, -, he, rfl⟩ := hs
  exact ⟨.inl (h.congr hsame.workflows hsame.queue hsame.approvals), (), (congrArg Prod.fst he).symm, hsame⟩

/-- The checkpoint a save leaves. -/
def WorkflowState.saved (st : WorkflowState) (t : Timestamp) : WorkflowState :=
  { st with version := st.version + 1, updatedAt := t }

/-- A save of a change of the stored checkpoint finds the version it expects. -/
theorem save_found (hi : StoreOk Set.univ w.store) {taskId : String} {row : WorkflowRow}
    (hr : w.store.workflows.get taskId = some row) {l : LoopDetector} {st : WorkflowState}
    (hc : Change l Set.univ row.stateJson st) {r : Except PyError WorkflowState}
    (hs : calls env 0 (.store (.saveWorkflow st st.version)) w r w') :
    ∃ t s', w' = ⟨s', t, .did 0 (.store (.saveWorkflow st st.version)) r :: w.journal⟩ ∧ r = .ok (st.saved t) ∧
      StoreOk Set.univ s' ∧ s'.queue = w.store.queue ∧ s'.approvals = w.store.approvals ∧
      ∃ row, row.stateJson = st.saved t ∧
        ∀ t, s'.workflows.get t = if t = taskId then some row else w.store.workflows.get t := by
  have htask : st.taskId = taskId := hc.same.1.trans (hi.state _ row hr).task
  have hver : row.version = st.version := by rw [hc.same.2, hi.version _ row hr]
  obtain ⟨t, s', -, -, he, rfl⟩ := hs
  have hok := save_storeOk hi (d := l) he fun row' hr' _ => by
    rw [htask, hr] at hr'; cases hr'; exact hc
  rcases SQLiteStore.saveWorkflow_cases he with ⟨row', -, -, hres, hw, hq, ha, -⟩ | ⟨-, -, hne⟩
  · refine ⟨t, s', rfl, hres, hok, hq, ha, ⟨taskId, st.saved t, st.version + 1, t⟩, rfl, fun t' => ?_⟩
    rw [hw, htask]
    split
    · rename_i e; rw [e]; simp [WorkflowState.saved, htask]
    · rfl
  · exact absurd hver (hne row (htask ▸ hr))

/-- A save, where neither the old nor the new checkpoint is waiting and an active one has a delivery. -/
theorem save_atRest (hK : AtRest ok w) {lack : Option String} (h : Rest ok lack w.store) {taskId : String}
    (hlack : ∀ t, lack = some t → t = taskId) {row : WorkflowRow} (hr : w.store.workflows.get taskId = some row)
    (hold : row.stateJson.status ≠ .waitingForApproval) {l : LoopDetector} {st : WorkflowState}
    (hc : Change l Set.univ row.stateJson st) (hst : st.status ≠ .waitingForApproval)
    (hlive : st.status.active = true →
      ∃ id q, w.store.queue.get id = some q ∧ q.taskId = taskId ∧ q.status ≠ .completed) :
    wpc (calls env 0) (AtRest ok) (save st) (fun o w' => ∃ st', o = .ok st' ∧ (∃ t, st' = st.saved t) ∧
      Rest ok none w'.store ∧ w'.store.queue = w.store.queue ∧ w'.store.approvals = w.store.approvals ∧
      ∃ row, w'.store.workflows.get taskId = some row ∧ row.stateJson = st') w := by
  refine wpc_perform hK fun r w' hs => ?_
  obtain ⟨t, s', rfl, rfl, hok, hq, ha, row', hrow, hw⟩ := save_found h.store hr hc hs
  have hrest : Rest ok none s' := by
    refine h.save hok hw hq (fun _ _ _ => by unfold SQLiteStore.approvalStatus; rw [ha])
      (fun _ e => by cases e) hlack (fun _ hact => hlive (by rw [hrow] at hact; exact hact)) ?_ ?_ ?_
    · intro hwait; rw [hrow] at hwait; exact absurd hwait hst
    · intro p _ hp
      rw [hrow] at hp
      have := h.approved taskId row p hr hold (hc.pending hst hp)
      unfold SQLiteStore.approvalStatus at this ⊢
      rw [ha]; exact this
    · rintro (hwait | e)
      · rw [hrow] at hwait; exact absurd hwait hst
      · cases e
  exact ⟨.inl hrest, _, rfl, ⟨t, rfl⟩, hrest, hq, ha, row', by rw [hw, if_pos rfl], hrow⟩

theorem save_rest (h : Working ok d a cp w) {l : LoopDetector} {st : WorkflowState} (hc : Change l Set.univ cp st)
    (hst : st.status ≠ .waitingForApproval) :
    wpc (calls env 0) (AtRest ok) (save st) (fun o w' => ∃ st', o = .ok st' ∧ (∃ t, st' = st.saved t) ∧
      Working ok d a st' w') w := by
  obtain ⟨row, hr, hcp⟩ := h.stored
  subst hcp
  refine wpc_mono (save_atRest (.inl h.rest) h.rest (fun _ e => by cases e) hr h.decided hc hst fun _ => ?_)
    fun o w' _ ⟨st', ho, ht, hrest, hq, ha, hstored⟩ => ⟨st', ho, ht, hrest, ha.trans h.approvals, hq ▸ h.holds, hstored, ?_⟩
  · obtain ⟨q, hq, ht, hp⟩ := h.holds
    exact ⟨d.id, q, hq, ht, by rw [hp]; decide⟩
  · obtain ⟨t, rfl⟩ := ht; exact hst

/-! ## Processing a delivery -/

variable {rt : WorkflowRuntime}

theorem failWorkflow_rest (h : Working ok d a cp w) {l : LoopDetector} {st : WorkflowState} {reason category : String}
    (hc : Change l Set.univ cp { st with status := .failed, lastError := some reason, currentStep := none }) :
    wpc (calls env 0) (AtRest ok) (failWorkflow st reason category) (Done ok d) w := by
  refine wpc_seq (save_rest h hc (by simp)) fun st w₁ hq => ?_
  obtain ⟨⟨t, e⟩, h₁⟩ := hq
  refine wpc_seq (record_rest h₁.rest _ _ _) fun _ w₂ hs => ?_
  have h₂ := h₁.same hs
  exact ⟨.inl h₂.rest, h₂.returns fun _ => by rw [e]; rfl⟩

theorem executeTool_rest (hb : rt.backend = anyBackend) (h : Working ok d a cp w) {tool : ToolName} (hdue : ToolDue cp tool)
    (arguments : Arguments) :
    wpc (calls env 0) (AtRest ok) (rt.executeTool cp tool arguments) (Done ok d) w := by
  unfold WorkflowRuntime.executeTool
  rw [hb]
  refine wpc_bind (wpc_attempt (wpc_mono (rest_quiet (gatewayExecute_quiet cp tool arguments) h.rest) fun o w₁ _ hs => ?_))
  have h₁ := h.same hs
  cases o with
  | error e =>
    show wpc _ _ (if _ then _ else _) _ w₁
    split
    · refine wpc_seq (save_rest h₁ (.toolRetry (d := {}) tool e.message hdue) (by simp)) fun st w₂ hq => ?_
      obtain ⟨_, h₂⟩ := hq
      refine wpc_seq (record_rest h₂.rest _ _ _) fun _ w₃ hs => ?_
      have h₃ := h₂.same hs
      exact ⟨.inl h₃.rest, h₃.raises e⟩
    · split
      · exact failWorkflow_rest h₁ (.toolFailed (d := {}) tool e.message hdue)
      · exact ⟨.inl h₁.rest, h₁.raises e⟩
  | ok r =>
    refine wpc_seq (save_rest h₁ (.toolDone (d := {}) tool r.1 hdue) (by simp [toolCompleted])) fun st w₂ hq => ?_
    obtain ⟨⟨t, e⟩, h₂⟩ := hq
    refine wpc_seq (record_rest h₂.rest _ _ _) fun _ w₃ hs => ?_
    have h₃ := h₂.same hs
    exact ⟨.inl h₃.rest, h₃.returns fun hne => absurd (by rw [e]; rfl) hne⟩

/-- An active workflow's pending action is approved, so it is resumed. -/
theorem resumeApprovedAction_rest (hb : rt.backend = anyBackend) (h : Working ok d a cp w) (hact : cp.status.active = true)
    {pending : PendingAction} (hp : cp.pendingAction = some pending) :
    wpc (calls env 0) (AtRest ok) (rt.resumeApprovedAction cp pending) (Done ok d) w := by
  refine wpc_seq (R := fun (status : Option ApprovalStatus) w' => status = some .approved ∧ Same w w') (wpc_perform (.inl h.rest) fun r w' hs => ?_)
    fun status w₁ ⟨hst, hs⟩ => ?_
  · have hsame := calls_same rfl hs
    obtain ⟨t, s', -, -, he, rfl⟩ := hs
    refine ⟨.inl (h.same hsame).rest, _, (congrArg Prod.fst he).symm, ?_, hsame⟩
    obtain ⟨row, hr, hcp⟩ := h.stored
    rw [h.task]
    exact h.rest.approved d.taskId row pending hr (hcp ▸ h.decided) (hcp ▸ hp)
  · rw [hst, if_neg (by simp)]
    have h₁ := h.same hs
    refine wpc_seq (record_rest h₁.rest _ _ _) fun _ w₂ hs => ?_
    exact executeTool_rest hb (h₁.same hs) ⟨hact, .inr ⟨pending, hp, rfl⟩⟩ _

/-- A checkpoint saved as waiting, and its approval row. -/
theorem waiting_rest (h : Working ok d a cp w) {s' : SQLiteStore} {row : WorkflowRow} {p : PendingAction}
    (hok : StoreOk Set.univ s') (hq : s'.queue = w.store.queue)
    (ha : ∀ t x, t ≠ d.taskId → s'.approvalStatus t x = w.store.approvalStatus t x)
    (hw : ∀ taskId, s'.workflows.get taskId = if taskId = d.taskId then some row else w.store.workflows.get taskId)
    (hst : row.stateJson.status = .waitingForApproval) (hp : row.stateJson.pendingAction = some p)
    (hgate : ok (s'.approvalStatus d.taskId p.actionId)) : Rest ok none s' := by
  refine h.rest.save hok hw hq ha (fun _ e => by cases e) (fun _ e => by cases e) ?_ (fun _ => ⟨p, hp, hgate⟩)
    (fun _ hn => absurd hst hn) ?_
  · intro _ hact; rw [hst] at hact; cases hact
  · intro _ id q hr ht hd
    obtain ⟨q', hr', ht', hp'⟩ := h.holds
    -- a task has one live delivery, and this one is being processed
    have := h.rest.one id d.id q q' hr hr' (ht.trans ht'.symm) (by rw [hd]; decide) (by rw [hp']; decide)
    subst this
    rw [hr] at hr'; cases hr'
    rw [hd] at hp'; cases hp'

theorem pauseForApproval_rest (h : Working ok d a cp w) (hrun : cp.status = .running) (hnone : cp.pendingAction = none)
    {pending : PendingAction} (hh : pending.tool.value ∈ cp.toolHistory) (hp : PendingOk Set.univ d.taskId pending)
    (hopen : Opens ok (w.store.approvalStatus d.taskId pending.actionId)) :
    wpc (calls env 0) (AtRest ok) (WorkflowRuntime.pauseForApproval d.taskId cp pending) (Done ok d) w := by
  obtain ⟨st, hpaused⟩ : ∃ st, st = { cp with pendingAction := some pending, status := .waitingForApproval } := ⟨_, rfl⟩
  have hc : Change {} Set.univ cp st := by rw [hpaused]; exact .paused pending hrun hnone hh (by rw [h.task]; exact hp)
  have hwait : st.status = .waitingForApproval := by rw [hpaused]
  have hpend : st.pendingAction = some pending := by rw [hpaused]
  have htask : st.taskId = d.taskId := hc.same.1.trans h.task
  have hstatus : ∀ {s' : SQLiteStore}, s'.approvals = w.store.approvals → ∀ t x,
      s'.approvalStatus t x = w.store.approvalStatus t x := fun e t x => by unfold SQLiteStore.approvalStatus; rw [e]
  unfold WorkflowRuntime.pauseForApproval
  rw [← hpaused]
  refine wpc_bind (wpc_perform (.inl h.rest) fun r w₁ hs => ?_)
  obtain ⟨row₀, hr₀, hcp⟩ := h.stored
  obtain ⟨t, s', rfl, rfl, hok, hq, ha, row, hrow, hw⟩ := save_found h.rest.store hr₀ (hcp ▸ hc) hs
  have hst : row.stateJson.status = .waitingForApproval := by rw [hrow]; exact hwait
  have hrowp : row.stateJson.pendingAction = some pending := by rw [hrow]; exact hpend
  have hrest₁ : AtRest ok ⟨s', t, .did 0 (.store (.saveWorkflow st st.version)) (.ok (st.saved t)) :: w.journal⟩ := by
    cases hx : w.store.approvalStatus d.taskId pending.actionId with
    | none => exact .inr ⟨hwait, pending, hpend, by rw [htask]; exact (hstatus ha _ _).trans hx⟩
    | some x =>
      refine .inl (waiting_rest h hok hq (fun t x _ => hstatus ha t x) hw hst hrowp ?_)
      rw [hx] at hopen
      rw [hstatus ha, hx]; exact hopen
  refine ⟨hrest₁, wpc_bind (wpc_perform hrest₁ fun r w₂ hs => ?_)⟩
  obtain ⟨t₂, s₂, -, -, he, rfl⟩ := hs
  obtain ⟨rfl, rfl⟩ := Prod.mk.inj he
  have hrest₂ : Rest ok none (s'.createApproval t₂ d.taskId pending.actionId) := by
    have hr := hp.restart
    refine waiting_rest h (createApproval_storeOk hok ⟨pending.arguments, by rw [← hr.1]; exact hr, trivial, ?_⟩) hq
      (fun t x e => ?_) hw hst hrowp ?_
    · rw [← hr.1]; exact hp.id
    · rw [← hstatus ha]
      unfold SQLiteStore.approvalStatus
      rw [SQLiteStore.createApproval_get, if_neg (fun hc => e (Prod.mk.inj hc).1.symm)]
    · have : (s'.createApproval t₂ d.taskId pending.actionId).approvalStatus d.taskId pending.actionId =
          some ((w.store.approvalStatus d.taskId pending.actionId).getD .pending) := by
        rw [← hstatus ha]
        unfold SQLiteStore.approvalStatus
        rw [SQLiteStore.createApproval_get, if_pos rfl]
        cases s'.approvals.get (d.taskId, pending.actionId) <;> rfl
      rw [this]; exact hopen
  refine ⟨.inl hrest₂, wpc_seq (record_rest hrest₂ _ _ _) fun _ w₃ hs => ?_⟩
  have hrest₃ := hrest₂.congr hs.workflows hs.queue hs.approvals
  refine ⟨.inl hrest₃, hrest₃, ?_, row, ?_, ?_, fun _ => by rw [hst]; rfl⟩
  · rw [hs.queue]; exact hq ▸ h.holds
  · rw [hs.workflows]; exact (hw _).trans (if_pos rfl)
  · exact htask

theorem runDecided_rest (hb : rt.backend = anyBackend) (h : Working ok d a cp w) (hrun : cp.status = .running)
    (hnone : cp.pendingAction = none) {decision : AgentDecision} {tool : ToolName} {arguments : Arguments}
    (hstep : cp.currentStep = some tool.value) (hh : tool.value ∈ cp.toolHistory) (hv : Validated tool arguments)
    (hopen : ProductionRestart tool arguments →
      Opens ok (w.store.approvalStatus d.taskId (actionId d.taskId tool arguments))) :
    wpc (calls env 0) (AtRest ok) (rt.runDecided d.taskId cp decision tool arguments (evaluate tool arguments)) (Done ok d) w := by
  have hdue : ToolDue cp tool := ⟨by rw [hrun]; rfl, .inl ⟨hnone, hstep, hh⟩⟩
  unfold WorkflowRuntime.runDecided
  split
  · refine wpc_seq (record_rest h.rest _ _ _) fun _ w₁ hs => ?_
    exact failWorkflow_rest (h.same hs) (.denied (d := {}) _ hrun hnone)
  · split
    · rename_i happ
      have hr := (approvalRequired_iff hv).mp happ
      exact pauseForApproval_rest h hrun hnone hh ⟨hr, trivial, by rw [h.task]⟩ (by rw [h.task]; exact hopen hr)
    · split
      · refine wpc_seq (record_rest h.rest _ _ _) fun _ w₁ hs => ?_
        exact executeTool_rest hb (h.same hs) hdue arguments
      · exact executeTool_rest hb h hdue arguments

open WorkflowRuntime in
theorem useTool_rest (hb : rt.backend = anyBackend) (h : Working ok d a cp w) (hrun : cp.status = .running)
    (hnone : cp.pendingAction = none) {decision : AgentDecision} (u : Nat × Nat) {tool : ToolName}
    (hopen : ∀ validated policy, validateAndDecide tool decision.arguments.modelDump = .ok (validated, policy) →
      ProductionRestart tool validated →
      Opens ok (w.store.approvalStatus d.taskId (actionId d.taskId tool validated))) :
    wpc (calls env 0) (AtRest ok) (rt.useTool d.taskId (absorb cp decision u) decision tool) (Done ok d) w := by
  unfold WorkflowRuntime.useTool
  cases hx : validateAndDecide tool decision.arguments.modelDump with
  | error e => exact ⟨.inl h.rest, h.raises e⟩
  | ok x =>
    obtain ⟨arguments, policy⟩ := x
    obtain ⟨hv, rfl⟩ := validateAndDecide_ok hx
    simp only [Prog.bind_def, Prog.ofExcept_ok, Prog.ret_bind]
    split
    · rename_i reason hreason
      refine wpc_seq (save_rest h (.loopStopped decision u tool reason hrun hnone hreason) (by simp)) fun st w₁ hq => ?_
      obtain ⟨⟨t, e⟩, h₁⟩ := hq
      refine wpc_seq (record_rest h₁.rest _ _ _) fun _ w₂ hs => ?_
      have h₂ := h₁.same hs
      exact ⟨.inl h₂.rest, h₂.returns fun _ => by rw [e]; rfl⟩
    · rename_i hreason
      have hst : (decided (absorb cp decision u) tool).status ≠ .waitingForApproval := h.decided
      refine wpc_seq (save_rest h (.decided decision u tool hrun hnone hreason) hst) fun st w₁ hq => ?_
      obtain ⟨⟨t, e⟩, h₁⟩ := hq
      have happ : ∀ t x, w₁.store.approvalStatus t x = w.store.approvalStatus t x := fun t x => by
        unfold SQLiteStore.approvalStatus; rw [h₁.approvals, h.approvals]
      subst e
      refine runDecided_rest hb h₁ hrun hnone rfl ?_ hv fun hr => ?_
      · simp [WorkflowState.saved, decided]
      · rw [happ]; exact hopen arguments _ hx hr

theorem applyDecision_rest (he : rt.engine = anyEngine) (hb : rt.backend = anyBackend) (h : Working ok d a cp w)
    (hrun : cp.status = .running) (hnone : cp.pendingAction = none) {decision : AgentDecision}
    (hopen : ∀ tool validated policy, decision.asked = some tool →
      validateAndDecide tool decision.arguments.modelDump = .ok (validated, policy) → ProductionRestart tool validated →
      Opens ok (w.store.approvalStatus d.taskId (actionId d.taskId tool validated))) :
    wpc (calls env 0) (AtRest ok) (rt.applyDecision d.taskId cp decision) (Done ok d) w := by
  unfold WorkflowRuntime.applyDecision
  rw [he]
  refine wpc_bind (wpc_mono (rest_quiet (makes_perform rfl) h.rest) fun o w₁ _ hs => ?_)
  have h₁ := h.same hs
  cases o with
  | error e => exact h₁.raises e
  | ok usage =>
    refine wpc_seq (record_rest h₁.rest _ _ _) fun _ w₂ hs₂ => ?_
    have h₂ := h₁.same hs₂
    have happ : ∀ t x, w₂.store.approvalStatus t x = w.store.approvalStatus t x := fun t x => by
      unfold SQLiteStore.approvalStatus; rw [(hs.trans hs₂).approvals]
    simp only
    split
    · rename_i haction
      refine wpc_seq (save_rest h₂ (.completed (d := {}) decision usage hrun hnone haction) (by simp)) fun st w₃ hq => ?_
      obtain ⟨⟨t, e⟩, h₃⟩ := hq
      refine wpc_seq (record_rest h₃.rest _ _ _) fun _ w₄ hs => ?_
      have h₄ := h₃.same hs
      exact ⟨.inl h₄.rest, h₄.returns fun _ => by rw [e]; rfl⟩
    · exact failWorkflow_rest h₂ (.declined (d := {}) decision usage hrun hnone)
    · rename_i haction
      split
      · exact ⟨.inl h₂.rest, h₂.raises _⟩
      · rename_i tool htool
        refine useTool_rest hb h₂ hrun hnone usage fun validated policy hx hr => ?_
        rw [happ]; exact hopen tool validated policy ((AgentDecision.asked_useTool haction).trans htool) hx hr

theorem decideNext_rest (he : rt.engine = anyEngine) (hb : rt.backend = anyBackend)
    (hal : ∀ w c r, env.allows 0 w c r → Asks ok w.store c r) (h : Working ok d a cp w) (hact : cp.status.active = true)
    (hnone : cp.pendingAction = none) :
    wpc (calls env 0) (AtRest ok) (rt.decideNext d.taskId cp) (Done ok d) w := by
  unfold WorkflowRuntime.decideNext
  rw [he]
  refine wpc_seq (save_rest h (.start (d := {}) hact hnone) (by simp)) fun st w₁ hq => ?_
  obtain ⟨⟨t, e⟩, h₁⟩ := hq
  refine wpc_seq (record_rest h₁.rest _ _ _) fun _ w₂ hs => ?_
  have h₂ := h₁.same hs
  have hrun : st.status = .running := by rw [e]; rfl
  have hnone : st.pendingAction = none := by rw [e]; exact hnone
  refine wpc_bind (wpc_attempt (wpc_perform (.inl h₂.rest) fun r w₃ hs => ?_))
  have h₃ := h₂.same (calls_same rfl hs)
  obtain ⟨t₃, s₃, -, hallow, rfl, rfl⟩ := hs
  refine ⟨.inl h₃.rest, ?_⟩
  cases r with
  | error e =>
    show wpc _ _ (if _ then _ else _) _ _
    split
    · refine wpc_seq (save_rest h₃ (.modelRetry (d := {}) e.message hrun hnone) (by simp)) fun st' w₄ hq => ?_
      obtain ⟨_, h₄⟩ := hq
      refine wpc_seq (record_rest h₄.rest _ _ _) fun _ w₅ hs => ?_
      have h₅ := h₄.same hs
      exact ⟨.inl h₅.rest, h₅.raises e⟩
    · exact ⟨.inl h₃.rest, h₃.raises e⟩
  | ok decision =>
    refine applyDecision_rest he hb h₃ hrun hnone fun tool validated policy htool hx hr => ?_
    have := hal _ _ _ hallow tool validated policy htool hx hr
    rw [h₂.task] at this; exact this

/-- A read of a checkpoint, which is at rest afterwards where it was before. -/
theorem stored_rest {taskId : String} {row : WorkflowRow} (hK : AtRest ok w)
    (hr : w.store.workflows.get taskId = some row)
    (hK' : ∀ w', Same w w' → w'.journal = .did 0 (.store (.getWorkflow taskId)) (.ok (some row.stateJson)) :: w.journal →
      AtRest ok w') :
    wpc (calls env 0) (AtRest ok) (onStore (.getWorkflow taskId))
      (fun o w' => ∃ o', o = .ok o' ∧ o' = some row.stateJson ∧ AtRest ok w' ∧ Same w w') w := by
  refine wpc_perform hK fun r w' hs => ?_
  have hsame := calls_same rfl hs
  obtain ⟨t, s', -, -, he, rfl⟩ := hs
  obtain ⟨rfl, rfl⟩ := Prod.mk.inj he
  have hget : w.store.getWorkflow taskId = some row.stateJson := by simp [SQLiteStore.getWorkflow, hr]
  have hAt := hK' _ hsame (by rw [hget])
  exact ⟨hAt, _, rfl, hget, hAt, hsame⟩

theorem process_rest (he : rt.engine = anyEngine) (hb : rt.backend = anyBackend)
    (hal : ∀ w c r, env.allows 0 w c r → Asks ok w.store c r) (h : Rest ok none w.store)
    (hd : ∃ row, w.store.queue.get d.id = some row ∧ row.taskId = d.taskId ∧ row.status = .processing) :
    wpc (calls env 0) (AtRest ok) (rt.process d.taskId) (Done ok d) w := by
  obtain ⟨row, hrow⟩ : ∃ row, w.store.workflows.get d.taskId = some row := by
    obtain ⟨q, hq, ht, -⟩ := hd
    exact Option.ne_none_iff_exists'.mp (ht ▸ h.known d.id q hq)
  refine wpc_seq (R := fun st w' => st = row.stateJson ∧ Same w w') (wpc_seq (stored_rest (.inl h) hrow fun w' hs _ =>
    .inl (h.congr hs.workflows hs.queue hs.approvals)) fun o w₁ ⟨ho, hK, hs⟩ => ?_) fun st w₁ ⟨hst, hs⟩ => ?_
  · subst ho
    exact ⟨hK, _, rfl, rfl, hs⟩
  · have hrest := h.congr hs.workflows hs.queue hs.approvals
    have hget : w₁.store.workflows.get d.taskId = some row := by rw [hs.workflows]; exact hrow
    have htask : st.taskId = d.taskId := by rw [hst]; exact (hrest.store.state _ row hget).task
    split
    · rename_i hstop
      refine ⟨.inl hrest, hrest, hs.queue ▸ hd, row, hget, htask, fun _ => ?_⟩
      rw [← hst]
      exact (stops_iff st).mp hstop
    · rename_i hgo
      have hact : st.status.active = true := active_of_running hgo
      have hwait : st.status ≠ .waitingForApproval := fun e => by rw [e] at hact; cases hact
      have hwork : Working ok d w₁.store.approvals st w₁ := ⟨hrest, rfl, hs.queue ▸ hd, ⟨row, hget, hst.symm⟩, hwait⟩
      split
      · rename_i pending hp
        exact resumeApprovedAction_rest hb hwork hact hp
      · rename_i hp
        exact decideNext_rest he hb hal hwork hact hp

/-! ## The worker -/

variable {config : Settings}

theorem Rest.atRest {taskId : String} (h : Rest ok (some taskId) w.store) (hs : Active taskId w.store → Stranding w) :
    AtRest ok w := by
  by_cases hact : Active taskId w.store
  · exact .inr (hs hact)
  · refine .inl (h.settle fun row hr => ?_)
    cases hb : row.stateJson.status.active with
    | false => rfl
    | true => exact absurd ⟨row, hr, hb⟩ hact

/-- An acknowledgement leaves the task without a delivery, which strands it when it is active. -/
theorem acknowledge_rest (h : Rest ok none w.store)
    (hd : ∃ row, w.store.queue.get d.id = some row ∧ row.taskId = d.taskId ∧ row.status = .processing) :
    wpc (calls env 0) (AtRest ok) (onStore (.acknowledge d.id)) (fun o w' => ∃ u, o = .ok u ∧
      AtRest ok w' ∧ Rest ok (some d.taskId) w'.store ∧ w'.store.workflows = w.store.workflows ∧
      ∃ r, w'.journal = .did 0 (.store (.acknowledge d.id)) r :: w.journal) w := by
  obtain ⟨row, hr, ht, hp⟩ := hd
  refine wpc_perform (.inl h) fun r w' hs => ?_
  obtain ⟨t, s', -, -, he, rfl⟩ := hs
  obtain ⟨rfl, rfl⟩ := Prod.mk.inj he
  have hrest := ht ▸ h.acknowledge hr hp t
  have hK : AtRest ok (World.mk (w.store.acknowledge t d.id) t
      (.did 0 (.store (.acknowledge d.id)) (.ok ()) :: w.journal)) := by
    refine hrest.atRest fun hact => ⟨{ row with status := .completed, leaseUntil := none, updatedAt := t }, ?_, ?_⟩
    · show (w.store.acknowledge t d.id).queue.get d.id = _
      rw [SQLiteStore.acknowledge_get, hr, Option.map_some, if_pos rfl]
    · show Active row.taskId (w.store.acknowledge t d.id)
      rw [ht]; exact hact
  exact ⟨hK, (), rfl, hK, hrest, rfl, _, rfl⟩

theorem processDelivery_rest (he : rt.engine = anyEngine) (hb : rt.backend = anyBackend)
    (hal : ∀ w c r, env.allows 0 w c r → Asks ok w.store c r) (h : Rest ok none w.store)
    (hd : ∃ row, w.store.queue.get d.id = some row ∧ row.taskId = d.taskId ∧ row.status = .processing) :
    wpc (calls env 0) (AtRest ok) (processDelivery rt config d)
      (fun o w' => (∃ u, o = .ok u ∧ Rest ok none w'.store) ∨ ∃ e, o = .error e ∧ Done ok d (.error e) w') w := by
  refine wpc_bind (wpc_mono (process_rest he hb hal h hd) fun o w₁ _ hq => ?_)
  cases o with
  | error e => exact .inr ⟨e, rfl, hq⟩
  | ok st =>
    obtain ⟨h₁, hd₁, row, hrow, htask, hst⟩ := hq
    refine wpc_seq (acknowledge_rest h₁ hd₁) fun _ w₂ hq => ?_
    obtain ⟨hK, h₂, hw, _⟩ := hq
    split
    · rename_i hqueued
      refine wpc_bind (wpc_perform hK fun r w₃ hs => ?_)
      obtain ⟨t, s', -, -, he, rfl⟩ := hs
      obtain ⟨hrest, id, rfl⟩ := h₂.enqueue (by rw [hw, hrow]; simp) (htask ▸ he)
      exact ⟨.inl hrest, .inl hrest, .inl ⟨(), rfl, hrest⟩⟩
    · rename_i hne
      have hrest := h₂.settle fun row' hr' => by
        rw [hw, hrow] at hr'; cases hr'; exact hst hne
      exact ⟨.inl hrest, .inl ⟨(), rfl, hrest⟩⟩

/-- The checkpoint of a task whose delivery went wrong is saved as a terminal one. -/
theorem ended_rest (hK : AtRest ok w) {lack : Option String} (h : Rest ok lack w.store)
    (hlack : ∀ t, lack = some t → t = d.taskId) {row : WorkflowRow} (hr : w.store.workflows.get d.taskId = some row)
    (hold : row.stateJson.status ≠ .waitingForApproval) {l : LoopDetector} {st : WorkflowState}
    (hc : Change l Set.univ row.stateJson st) (hst : st.status.terminal = true) (e : EventType) (payload : Json) :
    wpc (calls env 0) (AtRest ok) ((save st).bind fun st' => record st'.taskId e payload)
      (fun _ w' => Rest ok none w'.store) w := by
  have hwait : st.status ≠ .waitingForApproval := by intro hx; rw [hx] at hst; cases hst
  have hact : ¬ st.status.active = true := fun hx => by rw [active_not_terminal hx] at hst; cases hst
  refine wpc_seq (save_atRest hK h hlack hr hold hc hwait fun hx => absurd hx hact) fun st' w₁ hq => ?_
  obtain ⟨_, h₁, _⟩ := hq
  refine wpc_mono (record_rest h₁ _ _ _) fun o w₂ _ hq => ?_
  obtain ⟨_, _, hs⟩ := hq
  exact h₁.congr hs.workflows hs.queue hs.approvals

theorem onRetryable_rest {e : PyError} (h : Done ok d (.error e) w) :
    wpc (calls env 0) (AtRest ok) (onRetryable config d e) (fun _ w' => Rest ok none w'.store) w := by
  obtain ⟨hrest, ⟨q, hq, ht, hp⟩, row, hrow, hold⟩ := h
  refine wpc_bind (wpc_perform (.inl hrest) fun r w₁ hs => ?_)
  obtain ⟨t, s', -, -, he, rfl⟩ := hs
  have hrest₁ : Rest ok none s' ∧ s'.workflows = w.store.workflows := by
    rcases SQLiteStore.retryOrDeadLetter_cases he with ⟨-, rfl⟩ | ⟨delay, -, -, hg, hw, ha, -⟩
    · exact ⟨hrest, rfl⟩
    · refine ⟨hrest.rows hw ha hg fun id x hx => ?_, hw⟩
      by_cases e : id = d.id
      · subst e
        rw [hq] at hx; cases hx
        rw [if_pos rfl]
        refine ⟨rfl, ?_, fun _ => .inr ⟨rfl, fun w' hw' => ?_⟩⟩
        · rw [hp]; split <;> simp
        · rw [ht, hrow] at hw'; cases hw'; exact hold
      · rw [if_neg e]; exact ⟨rfl, Iff.rfl, .inl⟩
  refine ⟨.inl hrest₁.1, ?_⟩
  cases r with
  | error m => exact hrest₁.1
  | ok dead =>
    show wpc _ _ (if _ then _ else _) _ _
    split
    · refine wpc_seq (stored_rest (.inl hrest₁.1) (hrest₁.2 ▸ hrow) fun w' hs _ =>
        .inl (hrest₁.1.congr hs.workflows hs.queue hs.approvals)) fun o w₂ ⟨ho, _, hs⟩ => ?_
      have h₂ := hrest₁.1.congr hs.workflows hs.queue hs.approvals
      rw [ho]
      show wpc _ _ (if _ then _ else _) _ _
      split
      · exact ⟨.inl h₂, h₂⟩
      · rename_i hterm
        exact ended_rest (.inl h₂) h₂ (fun _ e => by cases e) (by rw [hs.workflows, hrest₁.2]; exact hrow) hold
          (.deadLettered (d := {}) e.message (by simpa [WorkflowState.terminal] using hterm)) rfl _ _
    · exact ⟨.inl hrest₁.1, hrest₁.1⟩

theorem onPermanent_rest {e : PyError} (h : Done ok d (.error e) w) :
    wpc (calls env 0) (AtRest ok) (onPermanent d e) (fun _ w' => Rest ok none w'.store) w := by
  obtain ⟨hrest, hd, row, hrow, hold⟩ := h
  refine wpc_seq (acknowledge_rest hrest hd) fun _ w₁ hq => ?_
  obtain ⟨hK, h₁, hw, r, hj⟩ := hq
  have hK₂ : ∀ w', Same w₁ w' →
      w'.journal = .did 0 (.store (.getWorkflow d.taskId)) (.ok (some row.stateJson)) :: w₁.journal → AtRest ok w' := by
    intro w' hs hj'
    refine (h₁.congr hs.workflows hs.queue hs.approvals).atRest fun hact => ?_
    rw [Stranding, hj', hj]; exact hact
  refine wpc_seq (stored_rest hK (hw ▸ hrow) hK₂) fun o w₂ hq => ?_
  obtain ⟨ho, hK, hs⟩ := hq
  have h₂ := h₁.congr hs.workflows hs.queue hs.approvals
  have hrow₂ : w₂.store.workflows.get d.taskId = some row := by rw [hs.workflows, hw]; exact hrow
  rw [ho]
  show wpc _ _ (if _ then _ else _) _ _
  split
  · rename_i hterm
    have hsettled := h₂.settle fun row' hr' => by
      rw [hrow₂] at hr'; cases hr'
      cases hb : row.stateJson.status.active with
      | false => rfl
      | true => rw [WorkflowState.terminal, active_not_terminal hb] at hterm; cases hterm
    exact ⟨.inl hsettled, hsettled⟩
  · rename_i hterm
    exact ended_rest hK h₂ (fun _ e => (Option.some.inj e).symm) hrow₂ hold
      (.failed (d := {}) e.message (by simpa [WorkflowState.terminal] using hterm)) rfl _ _

theorem handleDelivery_rest (he : rt.engine = anyEngine) (hb : rt.backend = anyBackend)
    (hal : ∀ w c r, env.allows 0 w c r → Asks ok w.store c r) (h : Rest ok none w.store)
    (hd : ∃ row, w.store.queue.get d.id = some row ∧ row.taskId = d.taskId ∧ row.status = .processing) :
    wpc (calls env 0) (AtRest ok) (handleDelivery rt config d) (fun _ w' => Rest ok none w'.store) w := by
  refine wpc_bind (wpc_attempt (wpc_mono (processDelivery_rest he hb hal h hd) fun o w₁ _ hq => ?_))
  rcases hq with ⟨u, rfl, h₁⟩ | ⟨e, rfl, h₁⟩
  · exact ⟨.inl h₁, h₁⟩
  · show wpc _ _ (if _ then _ else if _ then _ else _) _ _
    split
    · exact onRetryable_rest h₁
    · split
      · exact onPermanent_rest h₁
      · exact ⟨.inl h₁.1, h₁.1⟩

/-- A claim leaves the store at rest, and its delivery's row processing. -/
theorem claim_rest {s s' : SQLiteStore} (h : Rest ok none s) {now : Timestamp} {workerId : String} {leaseSeconds : Int}
    {r : Option QueueDelivery} (hc : s.claim now workerId leaseSeconds = (r, s')) :
    Rest ok none s' ∧ ∀ d, r = some d →
      ∃ row, s'.queue.get d.id = some row ∧ row.taskId = d.taskId ∧ row.status = .processing := by
  have hsweep : Rest ok none (s.sweep now) := by
    refine h.rows rfl rfl (f := fun _ => SQLiteStore.swept now) SQLiteStore.sweep_get fun id x hx => ?_
    unfold SQLiteStore.swept
    split
    · rename_i hexp
      simp only [SQLiteStore.isExpired, Bool.and_eq_true, decide_eq_true_eq] at hexp
      exact ⟨rfl, by simp [hexp.1], by simp⟩
    · exact ⟨rfl, Iff.rfl, .inl⟩
  rcases SQLiteStore.claim_cases hc with ⟨rfl, rfl⟩ | ⟨row, hrow, hst, -, rfl, hget, hw, ha, -⟩
  · exact ⟨hsweep, fun _ e => by cases e⟩
  · refine ⟨hsweep.rows hw ha (f := fun id x => if id = row.id then { row with status := .processing, attempts := row.attempts + 1, workerId := some workerId, leaseUntil := some (now + seconds leaseSeconds), updatedAt := now } else x) (fun id => ?_) fun id x hx => ?_, ?_⟩
    · rw [hget]
      split
      · rename_i e; rw [e, hrow]; simp
      · cases (s.sweep now).queue.get id <;> rfl
    · split
      · rename_i e
        rw [e, hrow] at hx; cases hx
        exact ⟨rfl, by simp [hst], by simp⟩
      · exact ⟨rfl, Iff.rfl, .inl⟩
    · rintro d e
      cases e
      exact ⟨_, (hget row.id).trans (if_pos rfl), rfl, rfl⟩

/-- A worker's run, from rest to rest; wherever it is cut off, the store is at rest or stranding. -/
theorem runOnce_rest (he : rt.engine = anyEngine) (hb : rt.backend = anyBackend)
    (hal : ∀ w c r, env.allows 0 w c r → Asks ok w.store c r) (h : Rest ok none w.store) (workerId : String) :
    wpc (calls env 0) (AtRest ok) (runOnce rt config workerId) (fun _ w' => Rest ok none w'.store) w := by
  refine wpc_bind (wpc_perform (.inl h) fun r w₁ hs => ?_)
  obtain ⟨t, s', -, -, he', rfl⟩ := hs
  obtain ⟨h₁, hd⟩ := claim_rest h (Eq.refl (w.store.claim t workerId config.queueLeaseSeconds))
  obtain ⟨hr, hs'⟩ := Prod.mk.inj he'
  rw [← hs'] at *
  refine ⟨.inl h₁, ?_⟩
  have hend : ∀ (b : Bool) w', Rest ok none w'.store →
      wpc (calls env 0) (AtRest ok) (updateDepth.bind fun _ => .ret b) (fun _ w' => Rest ok none w'.store) w' := by
    intro b w' h'
    refine wpc_bind (wpc_mono (rest_quiet updateDepth_quiet h') fun o w'' _ hs => ?_)
    have h'' := h'.congr hs.workflows hs.queue hs.approvals
    cases o with
    | error e => exact h''
    | ok u => exact ⟨.inl h'', h''⟩
  match r, hr with
  | .ok none, _ => exact hend false _ h₁
  | .ok (some delivery), hr =>
    have hd' := hd delivery (Except.ok.inj hr)
    refine wpc_bind (wpc_attempt (wpc_mono (handleDelivery_rest he hb hal h₁ hd') fun o w₂ _ h₂ => ?_))
    refine wpc_bind (wpc_mono (rest_quiet (makes_perform rfl) h₂) fun o' w₃ _ hs => ?_)
    have h₃ := h₂.congr hs.workflows hs.queue hs.approvals
    cases o' with
    | error e => exact h₃
    | ok u =>
      cases o with
      | error e => exact ⟨.inl h₃, h₃⟩
      | ok u => exact hend true _ h₃

end AgentResilience
