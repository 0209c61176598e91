/-
  AgentResilience.Controls — what an operation other than a worker's run makes of the store
  (`Steered`): it calls no tool and writes nothing to the ledger; a task's checkpoint stays,
  is created, or changes its status; and a workflow that is over, with its deliveries
  completed, stays so.
-/
import AgentResilience.Standing

namespace AgentResilience

open Interaction
open WorkflowState (content)

/-! ## Attempts -/

/-- A call of the backend and its answer. -/
structure Attempt where
  state : WorkflowState
  tool : ToolName
  arguments : Arguments
  number : Nat
  answer : Except PyError Json

def Entry.attempt : Entry → Option Attempt
  | did _ (.execute st tool arguments n) r => some ⟨st, tool, arguments, n, r⟩
  | _ => none

/-- The calls of the backend, newest first. -/
def World.attempts (w : World) : List Attempt := w.journal.filterMap Entry.attempt

/-- What the memory has of an attempt. -/
def Attempt.executed (a : Attempt) : String × ToolName × Except PyError Json := (a.state.taskId, a.tool, a.answer)

theorem executed_attempts (w : World) : w.memory.executed = w.attempts.map Attempt.executed := by
  show w.journal.filterMap Entry.executed = (w.journal.filterMap Entry.attempt).map Attempt.executed
  rw [List.map_filterMap]
  congr 1
  funext e
  cases e with
  | did i c r => cases c <;> rfl
  | _ => rfl

/-! ## Calls -/

/-- The calls that leave checkpoints, queue, ledger and backend alone. -/
def Call.aside : Call → Bool
  | .store c => !c.writesWorkflows && !c.writesQueue && !c.writesLedger
  | .execute .. => false
  | _ => true

structure Aside (w w' : World) : Prop where
  workflows : w'.store.workflows = w.store.workflows
  queue : w'.store.queue = w.store.queue
  ledger : w'.store.toolResults = w.store.toolResults
  attempts : w'.attempts = w.attempts

variable {rt : WorkflowRuntime} {config : Settings} {env : Env} {w w' w'' : World} {taskId : String} {α : Type}

theorem Aside.refl (w : World) : Aside w w := ⟨rfl, rfl, rfl, rfl⟩

theorem Aside.trans (h : Aside w w') (h' : Aside w' w'') : Aside w w'' :=
  ⟨h'.workflows.trans h.workflows, h'.queue.trans h.queue, h'.ledger.trans h.ledger, h'.attempts.trans h.attempts⟩

theorem attempts_did {c : Call} (hc : ∀ st tool arguments n, c ≠ .execute st tool arguments n) (s : SQLiteStore) (t : Timestamp)
    (r : Except PyError c.Ret) : (World.mk s t (.did 0 c r :: w.journal)).attempts = w.attempts := by
  refine List.filterMap_cons_none ?_
  cases c with
  | execute st tool arguments n => exact absurd rfl (hc st tool arguments n)
  | _ => rfl

theorem calls_aside {c : Call} {r : Except PyError c.Ret} (hc : c.aside = true) (hs : calls env 0 c w r w') : Aside w w' := by
  obtain ⟨t, s', -, -, he, rfl⟩ := hs
  have hattempts : ∀ s, (World.mk s t (.did 0 c r :: w.journal)).attempts = w.attempts := by
    intro s
    refine attempts_did ?_ s t r
    rintro st tool arguments n rfl
    cases hc
  cases c with
  | store c =>
    obtain rfl := congrArg Prod.snd he
    simp only [Call.aside, Bool.and_eq_true, Bool.not_eq_true'] at hc
    exact ⟨StoreCall.apply_workflows hc.1.1 .., StoreCall.apply_queue hc.1.2 .., StoreCall.apply_ledger hc.2 .., hattempts _⟩
  | clock | awaitHeartbeat => obtain ⟨-, rfl⟩ := he; exact ⟨rfl, rfl, rfl, hattempts _⟩
  | execute => cases hc
  | _ => obtain rfl := he; exact ⟨rfl, rfl, rfl, hattempts _⟩

/-! ## Operations -/

/-- What an operator's decision or a replay makes of a checkpoint. -/
inductive Steers (cp st : WorkflowState) : Prop
  | moved (status : WorkflowStatus) (lastError : Option String) : st.content = { cp.content with status, lastError } → Steers cp st
  | cleared (status : WorkflowStatus) (lastError : Option String) :
      st.content = { cp.content with status, lastError, pendingAction := none } → Steers cp st

/-- The workflow is over, and its deliveries are completed. -/
structure Over (taskId : String) (cp : WorkflowState) (s : SQLiteStore) : Prop where
  stored : s.stored taskId = some cp
  terminal : cp.terminal = true
  completed : ∀ id row, s.queue.get id = some row → row.taskId = taskId → row.status = .completed

structure Steered (w w' : World) : Prop where
  ledger : w'.store.toolResults = w.store.toolResults
  attempts : w'.attempts = w.attempts
  stored : ∀ T, w'.store.stored T = w.store.stored T ∨
    (w.store.stored T = none ∧ ∃ st, w'.store.stored T = some st ∧ Created st) ∨
    ∃ cp st, w.store.stored T = some cp ∧ w'.store.stored T = some st ∧ Steers cp st
  finished : ∀ T cp, Over T cp w.store → Over T cp w'.store

theorem Over.congr {cp : WorkflowState} {s s' : SQLiteStore} (h : Over taskId cp s) (hw : s'.workflows = s.workflows)
    (hq : s'.queue = s.queue) : Over taskId cp s' :=
  ⟨(stored_congr hw).trans h.stored, h.terminal, by rw [hq]; exact h.completed⟩

theorem Steered.refl (w : World) : Steered w w := ⟨rfl, rfl, fun _ => .inl rfl, fun _ _ h => h⟩

theorem Steered.aside (h : Steered w w') (h' : Aside w' w'') : Steered w w'' := by
  refine ⟨h'.ledger.trans h.ledger, h'.attempts.trans h.attempts, fun T => ?_, fun T cp ho => (h.finished T cp ho).congr h'.workflows h'.queue⟩
  rw [stored_congr h'.workflows]
  exact h.stored T

theorem Aside.steered (h : Aside w w') (h' : Steered w' w'') : Steered w w'' := by
  refine ⟨h'.ledger.trans h.ledger, h'.attempts.trans h.attempts, fun T => ?_, fun T cp ho => h'.finished T cp (ho.congr h.workflows h.queue)⟩
  rw [← stored_congr h.workflows]
  exact h'.stored T

/-- A program of such calls. -/
theorem wp_aside {p : Py α} (hp : p.Makes fun c => c.aside = true) (h : Steered w w') :
    wp (calls env 0) p (fun _ w'' => Steered w w'') w' :=
  wp_keeps (I := Steered w) (fun _ _ _ _ hc hs h => h.aside (calls_aside hc hs)) hp h

/-- A save of the checkpoint read, of a workflow that is not over. -/
theorem save_steered {cp st : WorkflowState} {f : WorkflowState → Py WorkflowState} (h : Aside w w') (hcp : w.store.stored taskId = some cp)
    (ht : st.taskId = taskId) (hsteers : ∀ st', st'.content = st.content → Steers cp st') (hterm : ¬ cp.terminal = true)
    (hf : ∀ st' w'', Steered w w'' → w''.store.stored taskId = some st' → st'.content = st.content →
      wp (calls env 0) (f st') (fun _ w'' => Steered w w'') w'') :
    wp (calls env 0) ((save st).bind f) (fun _ w' => Steered w w') w' := by
  refine wp_bind.mpr (wp_perform.mpr fun r w₁ hs => ?_)
  obtain ⟨t, s, -, -, he, rfl⟩ := hs
  have hattempts : (World.mk s t (.did 0 (.store (.saveWorkflow st st.version)) r :: w'.journal)).attempts = w'.attempts :=
    attempts_did (by simp) s t r
  rcases SQLiteStore.saveWorkflow_cases he with ⟨row, -, -, rfl, hw, hq, -, hl⟩ | ⟨⟨m, rfl⟩, rfl, -⟩
  · subst ht
    have hst := stored_some.mpr ⟨_, (hw st.taskId).trans (if_pos rfl), rfl⟩
    have hothers : ∀ T, T ≠ st.taskId → s.stored T = w.store.stored T := by
      intro T hne
      rw [← stored_congr h.workflows]
      simp only [SQLiteStore.stored, SQLiteStore.getWorkflow, hw, if_neg hne]
    refine hf _ _ ⟨hl.trans h.ledger, hattempts.trans h.attempts, fun T => ?_, fun T cp' ho => ?_⟩ hst rfl
    · by_cases e : T = st.taskId
      · subst e
        exact .inr (.inr ⟨cp, _, hcp, hst, hsteers _ rfl⟩)
      · exact .inl (hothers T e)
    · have hne : T ≠ st.taskId := by
        rintro rfl
        have hst := ho.stored
        rw [hcp] at hst
        cases hst
        exact hterm ho.terminal
      exact ⟨(hothers T hne).trans ho.stored, ho.terminal, by rw [show s.queue = _ from hq.trans h.queue]; exact ho.completed⟩
  · exact (Steered.refl w).aside (h.trans ⟨rfl, rfl, rfl, hattempts⟩)

/-- What follows such a call. -/
theorem aside_call {c : Call} {f : c.Ret → Py α} (hc : c.aside = true) (h : Steered w w')
    (hf : ∀ a w₂, Aside w' w₂ → wp (calls env 0) (f a) (fun _ w'' => Steered w w'') w₂) :
    wp (calls env 0) ((Prog.perform c).bind f) (fun _ w'' => Steered w w'') w' := by
  refine wp_bind.mpr (wp_perform.mpr fun r w₂ hs => ?_)
  have haside := calls_aside hc hs
  cases r with
  | error e => exact h.aside haside
  | ok a => exact hf a w₂ haside

/-- The operator's workflow is read first. -/
theorem required_steered {f : WorkflowState → Py WorkflowState}
    (hf : ∀ cp w₁, w.store.stored taskId = some cp → Aside w w₁ → wp (calls env 0) (f cp) (fun _ w' => Steered w w') w₁) :
    wp (calls env 0) ((required taskId).bind f) (fun _ w' => Steered w w') w := by
  refine wp_bind.mpr (wp_bind.mpr (wp_perform.mpr fun r w₁ hs => ?_))
  have haside := calls_aside rfl hs
  obtain ⟨t, s, -, -, he, rfl⟩ := hs
  obtain ⟨rfl, rfl⟩ := Prod.mk.inj he
  cases hst : w.store.getWorkflow taskId with
  | none =>
    rw [hst] at haside
    exact haside.steered (.refl _)
  | some cp =>
    rw [hst] at haside
    show wp (calls env 0) (f cp) _ _
    exact hf cp _ hst haside

theorem enqueue_steered {n : Nat} {st : WorkflowState} (hst : w'.store.stored taskId = some st) (hterm : ¬ st.terminal = true)
    (h : Steered w w') : wp (calls env 0) (onStore (.enqueue taskId n)) (fun _ w'' => Steered w w'') w' := by
  refine wp_perform.mpr fun r w₂ hs => ?_
  obtain ⟨t, s, -, -, he, rfl⟩ := hs
  have hattempts : (World.mk s t (.did 0 (.store (.enqueue taskId n)) r :: w'.journal)).attempts = w'.attempts :=
    attempts_did (by simp) s t r
  rcases SQLiteStore.enqueue_cases he with ⟨_, -, -, -, -, -, rfl⟩ | ⟨-, -, -, rfl⟩ | ⟨-, -, rfl⟩
  · exact h.aside ⟨rfl, rfl, rfl, hattempts⟩
  · refine ⟨h.ledger, hattempts.trans h.attempts, h.stored, fun T cp ho => ?_⟩
    obtain ⟨hstored, hover, hrows⟩ := h.finished T cp ho
    refine ⟨hstored, hover, fun id row hr ht => ?_⟩
    have hr : (w'.store.insertQueue t taskId n).queue.get id = some row := hr
    rw [SQLiteStore.insertQueue_get] at hr
    split at hr
    · cases hr
      have ht : taskId = T := ht
      subst ht
      rw [hst] at hstored
      cases hstored
      exact absurd hover hterm
    · exact hrows id row hr ht
  · exact h.aside ⟨rfl, rfl, rfl, hattempts⟩

theorem waiting_not_terminal {st : WorkflowState} (h : st.status = .waitingForApproval) : ¬ st.terminal = true := by
  unfold WorkflowState.terminal
  rw [h]
  decide

theorem approve_steered (hf : Filed w.store) (taskId actor : String) (reason : Option String) :
    wp (calls env 0) (approve config taskId actor reason) (fun _ w' => Steered w w') w := by
  refine required_steered fun cp w₁ hcp h₁ => ?_
  obtain ⟨-, -, -, ht⟩ := hf.version hcp
  split
  · rename_i pending hwait hp
    refine aside_call rfl ((Steered.refl w).aside h₁) fun _ w₂ h₂ => ?_
    refine save_steered (h₁.trans h₂) hcp ht (fun st' e => .moved .queued cp.lastError e) (waiting_not_terminal hwait)
      fun st' w₃ h₃ hst' hcontent => ?_
    refine aside_call rfl h₃ fun _ w₄ h₄ => ?_
    have hqueued : ¬ st'.terminal = true := by
      unfold WorkflowState.terminal
      rw [show st'.status = .queued from congrArg (·.status) hcontent]
      decide
    refine wp_bind.mpr (wp_mono (enqueue_steered ((stored_congr h₄.workflows).trans hst') hqueued (h₃.aside h₄)) fun o w₅ h₅ => ?_)
    cases o <;> exact h₅
  · exact (Steered.refl w).aside h₁

theorem reject_steered (hf : Filed w.store) (taskId actor : String) (reason : Option String) :
    wp (calls env 0) (reject taskId actor reason) (fun _ w' => Steered w w') w := by
  refine required_steered fun cp w₁ hcp h₁ => ?_
  obtain ⟨-, -, -, ht⟩ := hf.version hcp
  split
  · rename_i pending hwait hp
    refine aside_call rfl ((Steered.refl w).aside h₁) fun _ w₂ h₂ => ?_
    refine save_steered (h₁.trans h₂) hcp ht (fun st' e => .cleared .humanRejected _ e) (waiting_not_terminal hwait)
      fun st' w₃ h₃ _ _ => ?_
    exact aside_call rfl h₃ fun _ w₄ h₄ => h₃.aside h₄
  · exact (Steered.refl w).aside h₁

theorem createIncident_steered (taskId goal scenarioId : String) :
    wp (calls env 0) (createIncident config taskId goal scenarioId) (fun _ w' => Steered w w') w := by
  refine aside_call rfl (.refl w) fun now w₁ h₁ => wp_perform.mpr fun r w₂ hs => ?_
  have h := (Steered.refl w).aside h₁
  obtain ⟨t, s, -, -, he, rfl⟩ := hs
  have hattempts := attempts_did (w := w₁) (c := .store (.createWorkflow
    { taskId, goal, scenarioId, createdAt := now, updatedAt := now } config.maxQueueAttempts)) (by simp) s t r
  rcases SQLiteStore.createWorkflow_cases he with ⟨-, -, rfl⟩ | ⟨hnone, -, hw, hq, -, hl⟩
  · exact h.aside ⟨rfl, rfl, rfl, hattempts⟩
  · have hw : ∀ T, s.workflows.get T = if taskId = T then some ⟨T, { taskId, goal, scenarioId, createdAt := now, updatedAt := now }, 0, t⟩
        else w₁.store.workflows.get T := hw
    have hfresh : w.store.stored taskId = none := by
      rw [← stored_congr h₁.workflows]
      show (w₁.store.workflows.get taskId).map _ = none
      rw [show w₁.store.workflows.get taskId = none from hnone]
      rfl
    have hothers : ∀ T, taskId ≠ T → s.stored T = w.store.stored T := by
      intro T hne
      rw [← stored_congr h₁.workflows]
      simp only [SQLiteStore.stored, SQLiteStore.getWorkflow, hw, if_neg hne]
    refine ⟨hl.trans h₁.ledger, hattempts.trans h₁.attempts, fun T => ?_, fun T cp ho => ?_⟩
    · by_cases e : taskId = T
      · subst e
        exact .inr (.inl ⟨hfresh, _, stored_some.mpr ⟨_, (hw _).trans (if_pos rfl), rfl⟩, ⟨rfl, rfl, rfl, rfl, rfl, rfl, rfl, rfl⟩⟩)
      · exact .inl (hothers T e)
    · have hne : taskId ≠ T := by
        rintro rfl
        rw [ho.stored] at hfresh
        cases hfresh
      refine ⟨(hothers T hne).trans ho.stored, ho.terminal, fun id row hr hrt => ?_⟩
      have hr : s.queue.get id = some row := hr
      have hq : s.queue = (w₁.store.insertQueue t taskId config.maxQueueAttempts).queue := hq
      rw [hq, SQLiteStore.insertQueue_get] at hr
      split at hr
      · cases hr
        exact absurd hrt hne
      · exact ho.completed id row (by rw [← h₁.queue]; exact hr) hrt

theorem heartbeatTick_steered (workerId : String) (delivery : QueueDelivery) :
    wp (calls env 0) (heartbeatTick config workerId delivery) (fun _ w' => Steered w w') w := by
  refine wp_bind.mpr (wp_perform.mpr fun r w₁ hs => ?_)
  obtain ⟨t, s, -, -, he, rfl⟩ := hs
  obtain ⟨rfl, rfl⟩ := Prod.mk.inj he
  refine wp_aside (Prog.makes_perform rfl) ⟨rfl, attempts_did (by simp) _ t _, fun _ => .inl rfl, fun T cp ho => ⟨ho.stored, ho.terminal, ?_⟩⟩
  intro id row hr hrt
  have hr : (w.store.extendLease t delivery config.queueLeaseSeconds).queue.get id = some row := hr
  rw [SQLiteStore.extendLease_get] at hr
  obtain ⟨x, hx, rfl⟩ := Option.map_eq_some_iff.mp hr
  have hxt : x.taskId = T := by
    split at hrt <;> exact hrt
  have hdone := ho.completed id x hx hxt
  split
  · exact hdone
  · exact hdone

theorem replay_steered (hf : Filed w.store) (deliveryId : Nat) (taskId actor reason : String) :
    wp (calls env 0) (replay config deliveryId taskId actor reason) (fun _ w' => Steered w w') w := by
  refine wp_bind.mpr (wp_perform.mpr fun r w₁ hs => ?_)
  obtain ⟨t, s, -, -, he, rfl⟩ := hs
  have hattempts := attempts_did (w := w) (c := .store (.replayDeadLetter deliveryId taskId config.maxQueueAttempts actor reason))
    (by simp) s t r
  suffices h : Steered w ⟨s, t, .did 0 (.store (.replayDeadLetter deliveryId taskId config.maxQueueAttempts actor reason)) r :: w.journal⟩ by
    match r with
    | .error _ | .ok none | .ok (some _) => exact h
  obtain ⟨-, hs'⟩ := Prod.mk.inj he
  have hres : w.store.replayDeadLetter t deliveryId taskId config.maxQueueAttempts actor reason =
      ((w.store.replayDeadLetter t deliveryId taskId config.maxQueueAttempts actor reason).1, s) := Prod.ext rfl hs'
  rcases SQLiteStore.replayDeadLetter_cases hres with ⟨-, rfl⟩ | ⟨x, row, state, hx, hxt, hdead, hrow, hstate, -, hw, hq, -, hl⟩
  · exact ⟨rfl, hattempts, fun _ => .inl rfl, fun _ _ ho => ho⟩
  have hcp : w.store.stored taskId = some row.stateJson := stored_some.mpr ⟨row, hrow, rfl⟩
  obtain ⟨_, _, -, ht⟩ := hf.version hcp
  have hw := replay_workflow ht hrow hstate hw
  have hothers : ∀ T, T ≠ taskId → s.stored T = w.store.stored T := by
    intro T hne
    simp only [SQLiteStore.stored, SQLiteStore.getWorkflow, hw, if_neg hne]
  refine ⟨hl, hattempts, fun T => ?_, fun T cp ho => ?_⟩
  · by_cases e : T = taskId
    · subst e
      exact .inr (.inr ⟨_, state, hcp, stored_some.mpr ⟨_, (hw _).trans (if_pos rfl), rfl⟩, .moved .queued none (by rw [hstate]; rfl)⟩)
    · exact .inl (hothers T e)
  · have hne : T ≠ taskId := by
      rintro rfl
      have hdone := ho.completed _ x hx hxt
      rw [hdead] at hdone
      cases hdone
    refine ⟨(hothers T hne).trans ho.stored, ho.terminal, fun id row' hr hrt => ?_⟩
    have hr : s.queue.get id = some row' := hr
    rw [hq] at hr
    obtain ⟨y, hy, rfl⟩ := Option.map_eq_some_iff.mp hr
    have hyt : y.taskId = T := by split at hrt <;> exact hrt
    have hdone := ho.completed id y hy hyt
    rw [if_neg]
    · exact hdone
    · rintro ⟨-, e⟩
      rw [hdone] at e
      cases e

/-- Every operation but a worker's run. -/
theorem operation_steered (hf : Filed w.store) {op : Operation} (hop : ∀ workerId, op ≠ .runOnce workerId) :
    wp (calls env 0) (op.program rt config) (fun _ w' => Steered w w') w := by
  cases op with
  | runOnce workerId => exact absurd rfl (hop workerId)
  | heartbeatTick workerId delivery => exact wp_reply (heartbeatTick_steered workerId delivery)
  | createIncident taskId goal scenarioId => exact wp_reply (createIncident_steered taskId goal scenarioId)
  | approve taskId actor reason => exact wp_reply (approve_steered hf taskId actor reason)
  | reject taskId actor reason => exact wp_reply (reject_steered hf taskId actor reason)
  | replay deliveryId taskId actor reason => exact wp_reply (replay_steered hf deliveryId taskId actor reason)

/-! ## A worker's run -/

variable {D : WorkflowState → Except PyError AgentDecision → Prop} {U : Except PyError (Nat × Nat) → Prop}

/-- The delivery `d` took a turn from `cp` to `st`, and was settled. -/
structure TookTurn (rt : WorkflowRuntime) (env : Env) (D : WorkflowState → Except PyError AgentDecision → Prop)
    (U : Except PyError (Nat × Nat) → Prop) (d : QueueDelivery) (cp : WorkflowState) (o : Except PyError WorkflowState)
    (st : WorkflowState) (w w' : World) : Prop where
  stored : w.store.stored d.taskId = some cp
  task : cp.taskId = d.taskId
  turn : Turn rt env D U (w.memory.takes d) cp.content o st w'.memory
  left : ∃ cp', w'.store.stored d.taskId = some cp' ∧ (cp'.content = st ∨ ∃ status error, cp'.content = st.endedBy status error)
  others : ∀ T, T ≠ d.taskId → w'.store.stored T = w.store.stored T
  finished : ∀ T cp, Over T cp w.store → T ≠ d.taskId ∧ Over T cp w'.store
  closed : (∃ out, o = .ok out ∧ out.status ≠ .queued) → ∀ id row, w'.store.queue.get id = some row → row.taskId = d.taskId →
    row.status = .completed

/-- Nothing was handed out. -/
structure Unclaimed (w w' : World) : Prop where
  stored : ∀ T, w'.store.stored T = w.store.stored T
  memory : w'.memory = w.memory
  finished : ∀ T cp, Over T cp w.store → Over T cp w'.store

/-- Where a row left by a settlement comes from: it was there, or follows the delivery. -/
theorem Settlement.back {d : QueueDelivery} {s s₂ : SQLiteStore} {t t₂ : Timestamp} {o : Except PyError WorkflowState}
    {st st' : WorkflowState} (h : Settlement config env d s t o st st' s₂ t₂) {id : Nat} {row : QueueRow}
    (hr : s₂.queue.get id = some row) : (∃ x, s.queue.get id = some x ∧ x.taskId = row.taskId ∧ (id ≠ d.id → x = row)) ∨
      row.taskId = d.taskId ∧ ∃ out, o = .ok out ∧ out.status = .queued := by
  have hmap : ∀ {f : QueueRow → QueueRow} {s₁ : SQLiteStore},
      s₁.queue.get id = (s.queue.get id).map (fun x => if id = d.id then f x else x) → s₁.queue.get id = some row →
      (∀ x, (f x).taskId = x.taskId) → ∃ x, s.queue.get id = some x ∧ x.taskId = row.taskId ∧ (id ≠ d.id → x = row) := by
    intro f s₁ hq hr hf
    rw [hr] at hq
    obtain ⟨x, hx, hrow⟩ := Option.map_eq_some_iff.mp hq.symm
    refine ⟨x, hx, ?_, fun hne => by rw [if_neg hne] at hrow; exact hrow⟩
    rw [← hrow]
    split
    · exact (hf x).symm
    · rfl
  cases h with
  | acknowledged | failed => exact .inl (hmap (SQLiteStore.acknowledge_get _ _) hr fun _ => rfl)
  | @requeued out _ t₁ _ _ _ hqueued =>
    rw [SQLiteStore.insertQueue_get] at hr
    split at hr
    · cases hr
      exact .inr ⟨rfl, out, rfl, hqueued⟩
    · exact .inl (hmap (SQLiteStore.acknowledge_get _ _) hr fun _ => rfl)
  | overflowed | raised => exact .inl ⟨row, hr, rfl, fun _ => rfl⟩
  | returned _ _ hdelay | buried _ _ hdelay => exact .inl (hmap (retried_get hdelay _ _ _) hr fun _ => rfl)

/-- A delivery that the turn answered completes. -/
theorem Settlement.completes {d : QueueDelivery} {s s₂ : SQLiteStore} {t t₂ : Timestamp} {out st st' : WorkflowState}
    (h : Settlement config env d s t (.ok out) st st' s₂ t₂) (hout : out.status ≠ .queued) {row : QueueRow}
    (hr : s₂.queue.get d.id = some row) : row.status = .completed := by
  cases h with
  | acknowledged =>
    rw [SQLiteStore.acknowledge_get] at hr
    obtain ⟨x, -, rfl⟩ := Option.map_eq_some_iff.mp hr
    rw [if_pos rfl]
  | requeued _ _ hqueued => exact absurd hqueued hout

/-- So the task's deliveries are completed, when the others were. -/
theorem Settlement.closes {d : QueueDelivery} {s s₂ : SQLiteStore} {t t₂ : Timestamp} {out st st' : WorkflowState}
    (h : Settlement config env d s t (.ok out) st st' s₂ t₂) (hout : out.status ≠ .queued)
    (hone : ∀ id row, s.queue.get id = some row → row.taskId = d.taskId → id ≠ d.id → row.status = .completed) {id : Nat} {row : QueueRow}
    (hr : s₂.queue.get id = some row) (ht : row.taskId = d.taskId) : row.status = .completed := by
  rcases h.back hr with ⟨x, hx, hxt, hxrow⟩ | ⟨-, out', ho, hqueued⟩
  · by_cases hid : id = d.id
    · subst hid
      exact h.completes hout hr
    · obtain rfl := hxrow hid
      exact hone id x hx ht hid
  · cases ho
    exact absurd hqueued hout

theorem Settlement.left {d : QueueDelivery} {s s₂ : SQLiteStore} {t t₂ : Timestamp} {o : Except PyError WorkflowState}
    {st st' : WorkflowState} (h : Settlement config env d s t o st st' s₂ t₂) :
    st' = st ∨ ∃ status error, st' = st.endedBy status error := by
  cases h with
  | buried | failed => exact .inr ⟨_, _, rfl⟩
  | _ => exact .inl rfl

/-- A worker's run leaves everything but its queue, or settles a turn. -/
theorem Served.outcome {workerId : String} (hs : Served rt config env D U workerId w w') (h : Standing w.store) :
    Unclaimed w w' ∨ ∃ d cp o st, TookTurn rt env D U d cp o st w w' := by
  have hback : ∀ {t : Timestamp} {id : Nat} {row : QueueRow}, (w.store.sweep t).queue.get id = some row →
      ∃ x, w.store.queue.get id = some x ∧ row = SQLiteStore.swept t x := by
    intro t id row hr
    rw [SQLiteStore.sweep_get] at hr
    obtain ⟨x, hx, hrow⟩ := Option.map_eq_some_iff.mp hr
    exact ⟨x, hx, hrow.symm⟩
  have hdone : ∀ {t : Timestamp} {x : QueueRow}, x.status = .completed → (SQLiteStore.swept t x).status = .completed := by
    intro t x hx
    by_contra hc
    exact swept_live hc hx
  obtain ⟨t, -, -, ⟨s, hclaim, hq, -, hst, hm, -⟩ | ⟨d, s, cp, hclaim, hcp, o, st, m', cp', s₂, t₂, hturn, hsettled, hserving⟩⟩ := hs
  · rcases SQLiteStore.claim_cases hclaim with ⟨-, rfl⟩ | ⟨row, -, -, -, hsome, -⟩
    · refine .inl ⟨hst, hm, fun T cp ho => ⟨(hst T).trans ho.stored, ho.terminal, fun id row hr ht => ?_⟩⟩
      rw [hq] at hr
      obtain ⟨x, hx, rfl⟩ := hback hr
      exact hdone (ho.completed id x hx ((swept_keeps t x).2.1.symm.trans ht))
    · cases hsome
  obtain ⟨hrest, hrow⟩ := claim_rest h.rest hclaim
  obtain ⟨rowd, hrd, hrdt, hproc⟩ := hrow d rfl
  obtain ⟨_, _, -, ht⟩ := h.level.filed.version hcp
  have hothers : ∀ T, T ≠ d.taskId → w'.store.stored T = w.store.stored T := by
    intro T hne
    exact (hserving.others T hne).trans ((hsettled.later.2 T).trans (claim_stored hclaim T))
  have hclaimed : ∀ {id : Nat} {row : QueueRow}, s.queue.get id = some row → id ≠ d.id → (w.store.sweep t).queue.get id = some row := by
    intro id row hr hne
    rcases SQLiteStore.claim_cases hclaim with ⟨hnone, -⟩ | ⟨row', -, -, -, hsome, hget, -⟩
    · cases hnone
    · cases hsome
      rw [hget, if_neg hne] at hr
      exact hr
  refine .inr ⟨d, cp, o, st, hcp, ht, hserving.memory.symm ▸ hturn, ⟨cp', hserving.stored, hsettled.left⟩, hothers, fun T c ho => ?_,
    fun hout id row hr ht => ?_⟩
  · have hne : T ≠ d.taskId := by
      rintro rfl
      rcases SQLiteStore.claim_cases hclaim with ⟨hnone, -⟩ | ⟨row', hrow', hpend, -, hsome, -⟩
      · cases hnone
      · cases hsome
        obtain ⟨x, hx, rfl⟩ := hback hrow'
        rw [hdone (ho.completed _ x hx (swept_keeps t x).2.1.symm)] at hpend
        cases hpend
    refine ⟨hne, (hothers T hne).trans ho.stored, ho.terminal, fun id row hr ht => ?_⟩
    rw [hserving.queue] at hr
    have hne' : row.taskId ≠ d.taskId := by rw [ht]; exact hne
    rcases hsettled.back hr with ⟨x, hx, hxt, hxrow⟩ | ⟨e, -⟩
    · have hid : id ≠ d.id := by
        rintro rfl
        rw [hrd] at hx
        cases hx
        exact hne' (hxt.symm.trans hrdt)
      obtain rfl := hxrow hid
      obtain ⟨y, hy, rfl⟩ := hback (hclaimed hx hid)
      exact hdone (ho.completed _ y hy ((swept_keeps t y).2.1.symm.trans ht))
    · exact absurd e hne'
  · obtain ⟨out, rfl, hne⟩ := hout
    rw [hserving.queue] at hr
    refine hsettled.closes hne (fun id x hx hxt hid => ?_) hr ht
    by_contra hc
    exact hid (hrest.one _ _ _ _ hx hrd (hxt.trans hrdt.symm) hc (by rw [hproc]; decide))

end AgentResilience
