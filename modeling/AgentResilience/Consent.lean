/-
  AgentResilience.Consent — what an operation knows of approvals from its own calls, over any
  store: which operation it is, and the approval it read as granted. Every call may raise
  anything. A checkpoint read is the task's, and its pending action is a production restart
  under its own action id.

  - `Consent`, `consenting`: the script. Checkpoints are saved so; an approval is granted by its
    request alone; the backend is invoked for validated arguments, never to delete a database,
    and for a production restart only after its approval was read.
  - `executeTool_consents`, …, `operation_consents`: the programs, bottom up.
-/
import AgentResilience.Worker
import AgentResilience.Lifecycle
import AgentResilience.Lib.Script

namespace AgentResilience

open Interaction

/-! ## The script -/

structure Consent where
  op : Option Operation := none
  /-- The task and the action whose approval was read as granted. -/
  approved : Option (String × String) := none

variable {α β : Type} {q : Consent} {T : String} {cp st : WorkflowState} {rt : WorkflowRuntime} {config : Settings}

def Consent.after (q : Consent) : (c : Call) → Except PyError c.Ret → Consent
  | .store (.approvalStatus taskId actionId), .ok (some .approved) => { q with approved := some (taskId, actionId) }
  | _, _ => q

def Consent.may (q : Consent) : Call → Prop
  | .store (.createWorkflow st _) | .store (.saveWorkflow st _) => StateOk Set.univ st.taskId st
  | .store (.resolveApproval taskId _ approved actor reason) => approved = true → q.op = some (.approve taskId actor reason)
  | .execute st tool arguments _ => Validated tool arguments ∧ tool ≠ .deleteDatabase ∧
      (ProductionRestart tool arguments → q.approved = some (st.taskId, actionId st.taskId tool arguments))
  | _ => True

/-- A checkpoint read is the task's; a checkpoint saved is returned stamped. -/
def Call.returns : (c : Call) → Except PyError c.Ret → Prop
  | .store (.getWorkflow taskId), .ok (some st) => StateOk Set.univ taskId st
  | .store (.saveWorkflow st v), .ok st' => ∃ t, st' = { st with version := v + 1, updatedAt := t }
  | _, _ => True

def consenting : Script Call Call.Ret PyError Consent := ⟨Consent.after, Consent.may, Call.returns⟩

abbrev Consents (p : Py α) (q : Consent) : Prop := Follows consenting p (fun _ _ => True) q

/-! ## Rules -/

theorem Consents.call {c : Call} (hc : q.may c) : Consents (.perform c) q := Follows.perform hc fun _ _ => trivial

theorem Consents.seq {c : Call} {f : c.Ret → Py β} (hc : q.may c)
    (hf : ∀ a, c.returns (.ok a) → Consents (f a) (q.after c (.ok a))) : Consents ((Prog.perform c).bind f) q := by
  refine Follows.bind (R := fun o q' => ∀ a, o = .ok a → c.returns (.ok a) ∧ q' = q.after c (.ok a)) (Follows.perform hc fun r hr a e => ?_)
    (fun a q' h => ?_) fun _ _ _ => trivial
  · subst e
    exact ⟨hr, rfl⟩
  · obtain ⟨ha, rfl⟩ := h a rfl
    exact hf a ha

/-- A value made of what a program returns. -/
theorem Consents.reply {p : Py α} {f : α → β} (hp : Consents p q) : Consents (p.bind fun a => .ret (f a)) q :=
  Follows.bind hp (fun _ _ _ => trivial) fun _ _ _ => trivial

theorem Consents.save {f : WorkflowState → Py β} (h : StateOk Set.univ T st)
    (hf : ∀ t, Consents (f { st with version := st.version + 1, updatedAt := t }) q) :
    Consents ((AgentResilience.save st).bind f) q := by
  refine Consents.seq ⟨rfl, h.task ▸ h.pending⟩ fun st' hst' => ?_
  obtain ⟨t, rfl⟩ := hst'
  exact hf t

/-- The last save of a program, and its record. -/
theorem Consents.ends (h : StateOk Set.univ T st) (taskId : WorkflowState → String) (e : EventType) (payload : WorkflowState → Json)
    (f : WorkflowState → β) :
    Consents ((AgentResilience.save st).bind fun st' => (record (taskId st') e (payload st')).bind fun _ => .ret (f st')) q :=
  Consents.save h fun _ => Consents.seq trivial fun _ _ => trivial

/-- A changed checkpoint with the pending action it had. -/
theorem StateOk.kept {A : Set Arguments} (h : StateOk A T cp) (ht : st.taskId = cp.taskId) (hp : st.pendingAction = cp.pendingAction) :
    StateOk A T st :=
  ⟨ht.trans h.task, hp ▸ h.pending⟩

/-- A changed checkpoint without a pending action. -/
theorem StateOk.cleared {A : Set Arguments} (h : StateOk A T cp) (ht : st.taskId = cp.taskId) (hp : st.pendingAction = none) :
    StateOk A T st :=
  ⟨ht.trans h.task, fun p e => by rw [hp] at e; cases e⟩

/-! ## The gateway -/

theorem gatewayExecute_consents {tool : ToolName} {arguments : Arguments} (hgate : ∀ validated policy,
      validateAndDecide tool arguments = .ok (validated, policy) → ProductionRestart tool validated →
      q.approved = some (cp.taskId, actionId cp.taskId tool validated)) :
    Consents (gatewayExecute anyBackend cp tool arguments) q := by
  unfold gatewayExecute
  refine Follows.ofExcept (fun x hx => ?_) fun _ _ => trivial
  obtain ⟨validated, policy⟩ := x
  obtain ⟨hvalid, rfl⟩ := validateAndDecide_ok hx
  simp only
  split
  · trivial
  · rename_i hallowed
    have hpossible : tool ≠ .deleteDatabase := evaluate_allowed.mp (by simpa using hallowed)
    refine Consents.seq trivial fun found _ => ?_
    cases found with
    | some cached => trivial
    | none =>
      refine Consents.seq ⟨hvalid, hpossible, hgate _ _ hx⟩ fun result _ => ?_
      split
      · trivial
      · exact Consents.seq trivial fun _ _ => trivial

theorem failWorkflow_consents {reason category : String} (h : StateOk Set.univ T cp) : Consents (failWorkflow cp reason category) q :=
  Consents.ends (h.kept (by rfl) (by rfl)) ..

theorem executeTool_consents (hb : rt.backend = anyBackend) {tool : ToolName} {arguments : Arguments} (h : StateOk Set.univ T cp)
    (hgate : ∀ validated policy, validateAndDecide tool arguments = .ok (validated, policy) → ProductionRestart tool validated →
      q.approved = some (cp.taskId, actionId cp.taskId tool validated)) : Consents (rt.executeTool cp tool arguments) q := by
  unfold WorkflowRuntime.executeTool
  rw [hb]
  refine Follows.attempt (gatewayExecute_consents hgate) fun o q' _ => ?_
  cases o with
  | error e =>
    simp only
    split
    · exact Consents.save (h.kept (by rfl) (by rfl)) fun _ => Consents.seq trivial fun _ _ => trivial
    · split
      · exact failWorkflow_consents h
      · trivial
  | ok x => exact Consents.ends (h.cleared (by rfl) (by rfl)) ..

/-! ## The runtime -/

/-- The pending action runs once its approval was read as granted. -/
theorem resumeApprovedAction_consents (hb : rt.backend = anyBackend) {pending : PendingAction} (h : StateOk Set.univ T cp)
    (hp : cp.pendingAction = some pending) : Consents (rt.resumeApprovedAction cp pending) q := by
  refine Consents.seq trivial fun approval _ => ?_
  have hok := h.pending pending hp
  split
  · trivial
  · rename_i happroved
    obtain rfl : approval = some .approved := by simpa using happroved
    refine Consents.seq trivial fun _ _ => executeTool_consents hb h fun validated policy hx _ => ?_
    -- the pending action's arguments validate to themselves
    rw [validateAndDecide_idem hok.restart.2.1] at hx
    cases hx
    show some (cp.taskId, pending.actionId) = _
    rw [hok.id, h.task]

theorem pauseForApproval_consents {pending : PendingAction} (h : StateOk Set.univ T cp) (hok : PendingOk Set.univ cp.taskId pending)
    (taskId : String) : Consents (WorkflowRuntime.pauseForApproval taskId cp pending) q := by
  have hpaused : StateOk Set.univ T { cp with pendingAction := some pending, status := .waitingForApproval } := by
    refine ⟨h.task, fun p e => ?_⟩
    cases e
    exact h.task ▸ hok
  exact Consents.save hpaused fun _ => Consents.seq trivial fun _ _ => Consents.seq trivial fun _ _ => trivial

theorem runDecided_consents (hb : rt.backend = anyBackend) {tool : ToolName} {arguments : Arguments} (hvalid : Validated tool arguments)
    (h : StateOk Set.univ T cp) (taskId : String) (decision : AgentDecision) :
    Consents (rt.runDecided taskId cp decision tool arguments (evaluate tool arguments)) q := by
  unfold WorkflowRuntime.runDecided
  split
  · exact Consents.seq trivial fun _ _ => failWorkflow_consents h
  · split
    · rename_i happroval
      exact pauseForApproval_consents h ⟨(approvalRequired_iff hvalid).mp happroval, Set.mem_univ _, rfl⟩ _
    · rename_i hnone
      have hexecute : ∀ {q : Consent}, Consents (rt.executeTool cp tool arguments) q := by
        intro q
        refine executeTool_consents hb h fun validated policy hx hrestart => ?_
        rw [validateAndDecide_idem hvalid] at hx
        cases hx
        exact absurd ((approvalRequired_iff hvalid).mpr hrestart) hnone
      split
      · exact Consents.seq trivial fun _ _ => hexecute
      · exact hexecute

theorem useTool_consents (hb : rt.backend = anyBackend) {decision : AgentDecision} {tool : ToolName} (h : StateOk Set.univ T cp)
    (taskId : String) : Consents (rt.useTool taskId cp decision tool) q := by
  unfold WorkflowRuntime.useTool
  refine Follows.ofExcept (fun x hx => ?_) fun _ _ => trivial
  obtain ⟨arguments, policy⟩ := x
  obtain ⟨hvalid, rfl⟩ := validateAndDecide_ok hx
  simp only
  split
  · exact Consents.ends (h.kept (by rfl) (by rfl)) ..
  · exact Consents.save (h.kept (by rfl) (by rfl)) fun t => runDecided_consents hb hvalid (h.kept (by rfl) (by rfl)) _ _

theorem applyDecision_consents (he : rt.engine = anyEngine) (hb : rt.backend = anyBackend) {decision : AgentDecision}
    (h : StateOk Set.univ T cp) (taskId : String) : Consents (rt.applyDecision taskId cp decision) q := by
  unfold WorkflowRuntime.applyDecision
  rw [he]
  refine Consents.seq trivial fun usage _ => Consents.seq trivial fun _ _ => ?_
  have h' : StateOk Set.univ T (WorkflowRuntime.absorb cp decision usage) := h.kept (by rfl) (by rfl)
  simp only
  split
  · exact Consents.ends (h'.kept (by rfl) (by rfl)) ..
  · exact failWorkflow_consents h'
  · split
    · trivial
    · exact useTool_consents hb h' _

theorem decideNext_consents (he : rt.engine = anyEngine) (hb : rt.backend = anyBackend) (h : StateOk Set.univ T cp) (taskId : String) :
    Consents (rt.decideNext taskId cp) q := by
  unfold WorkflowRuntime.decideNext
  refine Consents.save (h.kept (by rfl) (by rfl)) fun t => Consents.seq trivial fun _ _ => ?_
  rw [he]
  refine Follows.attempt (Consents.call trivial) fun o q' _ => ?_
  cases o with
  | error e =>
    simp only
    split
    · exact Consents.save (h.kept (by rfl) (by rfl)) fun _ => Consents.seq trivial fun _ _ => trivial
    · trivial
  | ok decision => exact applyDecision_consents he hb (h.kept (by rfl) (by rfl)) _

/-- A read of the task's checkpoint. -/
theorem checkpoint_reads (T : String) (q : Consent) : Follows consenting (onStore (.getWorkflow T))
    (fun o q' => q' = q ∧ ∀ st, o = .ok (some st) → StateOk Set.univ T st) q := by
  refine Follows.perform trivial fun r hr => ⟨rfl, fun st e => ?_⟩
  subst e
  exact hr

theorem requiredState_reads (T : String) (q : Consent) : Follows consenting (requiredState T)
    (fun o q' => q' = q ∧ ∀ st, o = .ok st → StateOk Set.univ T st) q := by
  refine Follows.bind (checkpoint_reads T q) (fun found q' h => ?_) fun e q' h => ⟨h.1, fun _ e => by cases e⟩
  cases found with
  | none => exact ⟨h.1, fun _ e => by cases e⟩
  | some st => exact ⟨h.1, fun st' e => by cases e; exact h.2 st rfl⟩

theorem process_consents (he : rt.engine = anyEngine) (hb : rt.backend = anyBackend) (T : String) : Consents (rt.process T) q := by
  refine Follows.bind (requiredState_reads T q) (fun st q' h => ?_) fun _ _ _ => trivial
  have hst := h.2 st rfl
  split
  · trivial
  · split
    · rename_i pending hp
      exact resumeApprovedAction_consents hb hst hp
    · exact decideNext_consents he hb hst _

/-! ## The worker -/

theorem processDelivery_consents (he : rt.engine = anyEngine) (hb : rt.backend = anyBackend) (d : QueueDelivery) :
    Consents (processDelivery rt config d) q := by
  refine Follows.bind (process_consents he hb d.taskId) (fun st q' _ => Consents.seq trivial fun _ _ => ?_) fun _ _ _ => trivial
  split
  · exact Consents.seq trivial fun _ _ => trivial
  · trivial

theorem onRetryable_consents (d : QueueDelivery) (e : PyError) : Consents (onRetryable config d e) q := by
  refine Consents.seq trivial fun dead _ => ?_
  split
  · refine Consents.seq trivial fun found hfound => ?_
    cases found with
    | none => trivial
    | some st =>
      simp only
      split
      · trivial
      · exact Consents.save (StateOk.kept hfound (by rfl) (by rfl)) fun _ => Consents.call trivial
  · trivial

theorem onPermanent_consents (d : QueueDelivery) (e : PyError) : Consents (onPermanent d e) q := by
  refine Consents.seq trivial fun _ _ => Consents.seq trivial fun found hfound => ?_
  cases found with
  | none => trivial
  | some st =>
    simp only
    split
    · trivial
    · exact Consents.save (StateOk.kept hfound (by rfl) (by rfl)) fun _ => Consents.call trivial

theorem handleDelivery_consents (he : rt.engine = anyEngine) (hb : rt.backend = anyBackend) (d : QueueDelivery) :
    Consents (handleDelivery rt config d) q := by
  refine Follows.attempt (processDelivery_consents he hb d) fun o q' _ => ?_
  cases o with
  | ok u => trivial
  | error e =>
    simp only
    split
    · exact onRetryable_consents d e
    · split
      · exact onPermanent_consents d e
      · trivial

theorem runOnce_consents (he : rt.engine = anyEngine) (hb : rt.backend = anyBackend) (workerId : String) :
    Consents (runOnce rt config workerId) q := by
  have hdepth : ∀ {q : Consent}, Consents updateDepth q := Consents.seq trivial fun _ _ => trivial
  refine Consents.seq trivial fun found _ => ?_
  cases found with
  | none => exact hdepth.reply
  | some d =>
    refine Follows.attempt (handleDelivery_consents he hb d) fun o q' _ => Consents.seq trivial fun _ _ => ?_
    cases o with
    | error e => trivial
    | ok u => exact hdepth.reply

/-! ## The control plane -/

theorem required_reads (T : String) (q : Consent) : Follows consenting (required T)
    (fun o q' => q' = q ∧ ∀ st, o = .ok st → StateOk Set.univ T st) q := by
  refine Follows.bind (checkpoint_reads T q) (fun found q' h => ?_) fun e q' h => ⟨h.1, fun _ e => by cases e⟩
  cases found with
  | none => exact ⟨h.1, fun _ e => by cases e⟩
  | some st => exact ⟨h.1, fun st' e => by cases e; exact h.2 st rfl⟩

theorem approve_consents {taskId actor : String} {reason : Option String} (hop : q.op = some (.approve taskId actor reason)) :
    Consents (approve config taskId actor reason) q := by
  refine Follows.bind (required_reads taskId q) (fun st q' h => ?_) fun _ _ _ => trivial
  obtain ⟨rfl, hst⟩ := h
  split
  · exact Consents.seq (fun _ => hop) fun _ _ => Consents.save ((hst st rfl).kept (by rfl) (by rfl)) fun _ =>
      Consents.seq trivial fun _ _ => Consents.seq trivial fun _ _ => trivial
  · trivial

theorem reject_consents (taskId actor : String) (reason : Option String) : Consents (reject taskId actor reason) q := by
  refine Follows.bind (required_reads taskId q) (fun st q' h => ?_) fun _ _ _ => trivial
  obtain ⟨rfl, hst⟩ := h
  simp only
  split
  · exact Consents.seq nofun fun _ _ => Consents.save ((hst st rfl).cleared (by rfl) (by rfl)) fun _ =>
      Consents.seq trivial fun _ _ => trivial
  · trivial

theorem operation_consents (he : rt.engine = anyEngine) (hb : rt.backend = anyBackend) (op : Operation) :
    Consents (op.program rt config) { op := some op } := by
  cases op with
  | runOnce workerId => exact (runOnce_consents he hb workerId).reply
  | heartbeatTick workerId delivery => exact Consents.reply (Consents.seq trivial fun _ _ => Consents.call trivial)
  | createIncident taskId goal scenarioId => exact Consents.reply (Consents.seq trivial fun now _ => Consents.call ⟨rfl, nofun⟩)
  | approve taskId actor reason => exact (approve_consents rfl).reply
  | reject taskId actor reason => exact (reject_consents taskId actor reason).reply
  | replay deliveryId taskId actor reason =>
    refine Consents.reply (Consents.seq trivial fun found _ => ?_)
    cases found <;> trivial

end AgentResilience
