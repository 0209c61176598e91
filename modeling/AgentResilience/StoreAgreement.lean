/-
  AgentResilience.StoreAgreement — the SQLite store and the AWS store answer alike. Both run
  the same checkpoint and ledger calls from empty; AWS serves every call.

  - `Agree`: a row of the one store is an item of the other, up to when it was written.
  - `createWorkflow_agrees`, `saveWorkflow_agrees`, …: each method keeps it and answers alike.
  - `stores_agree`: so does every sequence of calls.
-/
import Mathlib.Data.Fintype.EquivFin
import AgentResilience.AwsStore

namespace AgentResilience

open Interaction
open Interaction.Prog (attempt throw)
open AWSDurableStore (workflowPk stateKey approvalKey resultKey eventKey)

/-! ## Keys -/

theorem stateKey_inj {a b : String} : stateKey a = stateKey b ↔ a = b := by
  simp [stateKey, workflowPk]

theorem approvalKey_inj {t x t' x' : String} : approvalKey t x = approvalKey t' x' ↔ t = t' ∧ x = x' := by
  simp [approvalKey, workflowPk]

theorem resultKey_inj {a b : String} : resultKey a = resultKey b ↔ a = b := by
  simp [resultKey]

/-- Texts that begin differently are different. -/
theorem text_ne {a b : String} (h : a.toList.head? ≠ b.toList.head?) : a ≠ b := fun e => h (e ▸ rfl)

theorem stateKey_approvalKey (a t x : String) : stateKey a ≠ approvalKey t x := by
  intro e
  exact text_ne (by simp) (Prod.mk.inj e).2

theorem stateKey_resultKey (a k : String) : stateKey a ≠ resultKey k := by
  intro e
  exact text_ne (by simp [workflowPk]) (Prod.mk.inj e).1

theorem approvalKey_resultKey (t x k : String) : approvalKey t x ≠ resultKey k := by
  intro e
  exact text_ne (by simp [workflowPk]) (Prod.mk.inj e).1

theorem eventKey_stateKey (t e a : String) : eventKey t e ≠ stateKey a := by
  intro h
  exact text_ne (by simp) (Prod.mk.inj h).2

theorem eventKey_approvalKey (t e t' x : String) : eventKey t e ≠ approvalKey t' x := by
  intro h
  exact text_ne (by simp) (Prod.mk.inj h).2

theorem eventKey_resultKey (t e k : String) : eventKey t e ≠ resultKey k := by
  intro h
  exact text_ne (by simp [workflowPk]) (Prod.mk.inj h).1

/-! ## Agreement -/

/-- The state without the time it was saved at. -/
def WorkflowState.undated (st : WorkflowState) : WorkflowState := { st with updatedAt := 0 }

def RowItem (row : WorkflowRow) (item : Item) : Prop :=
  item.version = some row.version ∧ ∃ st, item.stateJson = some st ∧ st.undated = row.stateJson.undated

def ApprovalItem (row : ApprovalRow) (item : Item) : Prop := item.status = some row.status

def ResultItem (row : ToolResultRow) (item : Item) : Prop :=
  item.argumentsHash = some row.argumentsHash ∧ item.resultJson = some row.resultJson

structure Agree (s : SQLiteStore) (a : AwsState) : Prop where
  workflows : ∀ taskId, Option.Rel RowItem (s.workflows.get taskId) (a.table (stateKey taskId))
  approvals : ∀ t x, Option.Rel ApprovalItem (s.approvals.get (t, x)) (a.table (approvalKey t x))
  results : ∀ k, Option.Rel ResultItem (s.toolResults.get k) (a.table (resultKey k))

variable {s s' : SQLiteStore} {a a' : AwsState} {t held : Timestamp}

theorem agree_empty : Agree .empty .empty :=
  ⟨fun _ => .none, fun _ _ => .none, fun _ => .none⟩

/-- Items of events are no part of it. -/
theorem Agree.item (h : Agree s a)
    (hs : ∀ taskId, a'.table (stateKey taskId) = a.table (stateKey taskId))
    (ha : ∀ t x, a'.table (approvalKey t x) = a.table (approvalKey t x))
    (hr : ∀ k, a'.table (resultKey k) = a.table (resultKey k)) : Agree s a' := by
  constructor
  · intro taskId; rw [hs]; exact h.workflows taskId
  · intro t x; rw [ha]; exact h.approvals t x
  · intro k; rw [hr]; exact h.results k

theorem Agree.putState (h : Agree s a) {taskId : String} (row : WorkflowRow) {item : Item} (hrow : RowItem row item)
    {table : Items ItemKey Item} (hget : ∀ k, table k = if k = stateKey taskId then some item else a.table k)
    (hw : s'.workflows.get taskId = some row) (ho : ∀ t, t ≠ taskId → s'.workflows.get t = s.workflows.get t)
    (ha : s'.approvals = s.approvals) (hl : s'.toolResults = s.toolResults) : Agree s' { a with table } := by
  constructor
  · intro t
    show Option.Rel RowItem _ (table _)
    by_cases e : t = taskId
    · subst e
      rw [hw, hget, if_pos rfl]
      exact .some hrow
    · rw [ho t e, hget, if_neg (mt stateKey_inj.mp e)]
      exact h.workflows t
  · intro t x
    show Option.Rel ApprovalItem _ (table _)
    rw [ha, hget, if_neg (Ne.symm (stateKey_approvalKey _ _ _))]
    exact h.approvals t x
  · intro k
    show Option.Rel ResultItem _ (table _)
    rw [hl, hget, if_neg (Ne.symm (stateKey_resultKey _ _))]
    exact h.results k

theorem Agree.putApproval (h : Agree s a) {taskId actionId : String} (row : ApprovalRow) {item : Item}
    (hrow : ApprovalItem row item) {table : Items ItemKey Item}
    (hget : ∀ k, table k = if k = approvalKey taskId actionId then some item else a.table k)
    (ha : ∀ k, s'.approvals.get k = if k = (taskId, actionId) then some row else s.approvals.get k)
    (hw : s'.workflows = s.workflows) (hl : s'.toolResults = s.toolResults) : Agree s' { a with table } := by
  constructor
  · intro t
    show Option.Rel RowItem _ (table _)
    rw [hw, hget, if_neg (stateKey_approvalKey _ _ _)]
    exact h.workflows t
  · intro t x
    show Option.Rel ApprovalItem _ (table _)
    rw [ha, hget]
    by_cases e : (t, x) = (taskId, actionId)
    · rw [if_pos e, if_pos (approvalKey_inj.mpr (Prod.mk.inj e))]
      exact .some hrow
    · rw [if_neg e, if_neg (fun h => e (by simp [approvalKey_inj.mp h]))]
      exact h.approvals t x
  · intro k
    show Option.Rel ResultItem _ (table _)
    rw [hl, hget, if_neg (Ne.symm (approvalKey_resultKey _ _ _))]
    exact h.results k

theorem Agree.putResult (h : Agree s a) {key : String} (row : ToolResultRow) {item : Item} (hrow : ResultItem row item)
    {table : Items ItemKey Item} (hget : ∀ k, table k = if k = resultKey key then some item else a.table k)
    (hl : ∀ k, s'.toolResults.get k = if k = key then some row else s.toolResults.get k)
    (hw : s'.workflows = s.workflows) (ha : s'.approvals = s.approvals) : Agree s' { a with table } := by
  constructor
  · intro t
    show Option.Rel RowItem _ (table _)
    rw [hw, hget, if_neg (stateKey_resultKey _ _)]
    exact h.workflows t
  · intro t x
    show Option.Rel ApprovalItem _ (table _)
    rw [ha, hget, if_neg (approvalKey_resultKey _ _ _)]
    exact h.approvals t x
  · intro k
    show Option.Rel ResultItem _ (table _)
    rw [hl, hget]
    by_cases e : k = key
    · rw [if_pos e, if_pos (resultKey_inj.mpr e)]
      exact .some hrow
    · rw [if_neg e, if_neg (mt resultKey_inj.mp e)]
      exact h.results k

/-- An item that is absent has no row, and one that is there has one. -/
theorem rel_none {α β : Type} {R : α → β → Prop} {o : Option α} {o' : Option β} (h : Option.Rel R o o') :
    o = none ↔ o' = none := by
  cases h <;> simp

/-! ## Calls that AWS serves -/

theorem wp_served {c : DurableCall} {Q : Except PyError c.Ret → AwsState → Prop}
    (h : ∀ r a', AwsEffect c a r a' → Q r a') : wp (aws noFaults) (onDynamo c) Q a := by
  refine wp_perform.mpr fun r a' hs => ?_
  rcases hs with hs | ⟨e, hf, -⟩
  · exact h r a' hs
  · exact hf.elim

theorem wp_utcNow {Q : Except PyError Timestamp → AwsState → Prop} (h : ∀ t, Q (.ok t) a) :
    wp (aws noFaults) (onDynamo .utcNow) Q a := by
  refine wp_served fun r a' hs => ?_
  obtain ⟨⟨t, rfl⟩, rfl⟩ := hs
  exact h t

theorem wp_getItem {key : ItemKey} {Q : Except PyError (Option Item) → AwsState → Prop} (h : Q (.ok (a.table key)) a) :
    wp (aws noFaults) (onDynamo (.getItem key)) Q a := by
  refine wp_served fun r a' hs => ?_
  obtain ⟨rfl, rfl⟩ := hs
  exact h

theorem wp_putItem {key : ItemKey} {item : Item} {condition : Condition} {Q : Except PyError Unit → AwsState → Prop}
    (hok : ∀ table, condition.holds (a.table key) = true →
      (∀ k, table k = if k = key then some item else a.table k) → Q (.ok ()) { a with table })
    (herr : condition.holds (a.table key) = false → Q (.error (.client conditionalCheckFailed)) a) :
    wp (aws noFaults) (onDynamo (.putItem key item condition)) Q a := by
  refine wp_served fun r a' hs => ?_
  cases hp : a.table.put key item condition.holds with
  | none =>
    simp only [AwsEffect, WriteEffect, hp] at hs
    obtain ⟨rfl, rfl⟩ := hs
    exact herr (Items.put_none.mp hp)
  | some table =>
    simp only [AwsEffect, WriteEffect, hp] at hs
    obtain ⟨rfl, rfl⟩ := hs
    obtain ⟨hc, hget⟩ := Items.put_some hp
    exact hok table hc hget

theorem wp_updateItem {key : ItemKey} {update : ItemUpdate} {condition : Condition}
    {Q : Except PyError Unit → AwsState → Prop}
    (hok : ∀ table, condition.holds (a.table key) = true →
      (∀ k, table k = if k = key then some (update.apply (a.table key)) else a.table k) → Q (.ok ()) { a with table })
    (herr : condition.holds (a.table key) = false → Q (.error (.client conditionalCheckFailed)) a) :
    wp (aws noFaults) (onDynamo (.updateItem key update condition)) Q a := by
  refine wp_served fun r a' hs => ?_
  cases hp : a.table.update key update.apply condition.holds with
  | none =>
    simp only [AwsEffect, WriteEffect, hp] at hs
    obtain ⟨rfl, rfl⟩ := hs
    exact herr (Items.update_none.mp hp)
  | some table =>
    simp only [AwsEffect, WriteEffect, hp] at hs
    obtain ⟨rfl, rfl⟩ := hs
    obtain ⟨hc, hget⟩ := Items.update_some hp
    exact hok table hc hget

/-- A program that does not raise has no error to translate. -/
theorem wp_orAwsError {α : Type} {operation : String} {p : AwsPy α} {R : α → AwsState → Prop}
    (h : wp (aws noFaults) p (fun o a' => ∃ x, o = .ok x ∧ R x a') a) :
    wp (aws noFaults) (orAwsError operation p) (fun o a' => ∃ x, o = .ok x ∧ R x a') a := by
  refine wp_bind.mpr (wp_attempt.mpr (wp_mono h fun o a' hq => ?_))
  obtain ⟨x, rfl, hr⟩ := hq
  exact ⟨x, rfl, hr⟩

theorem recordEvent_agrees (h : Agree s a) (taskId : String) (e : EventType) (payload : Json) :
    wp (aws noFaults) (AWSDurableStore.recordEvent taskId e payload) (fun o a' => ∃ u, o = .ok u ∧ Agree s a') a := by
  refine wp_bind.mpr (wp_utcNow fun created => ?_)
  refine wp_bind.mpr (wp_served fun r a₁ hs => ?_)
  obtain ⟨⟨hex, rfl⟩, rfl⟩ := hs
  refine wp_orAwsError (wp_putItem (fun table _ hget => ⟨(), rfl, h.item ?_ ?_ ?_⟩) fun hc => by cases hc)
  · intro taskId
    exact (hget _).trans (if_neg (Ne.symm (eventKey_stateKey _ _ _)))
  · intro t x
    exact (hget _).trans (if_neg (Ne.symm (eventKey_approvalKey _ _ _ _)))
  · intro k
    exact (hget _).trans (if_neg (Ne.symm (eventKey_resultKey _ _ _)))

theorem enqueue_agrees (h : Agree s a) (taskId : String) (n : Nat) :
    wp (aws noFaults) (AWSDurableStore.enqueue taskId n) (fun o a' => ∃ u, o = .ok u ∧ Agree s a') a := by
  refine wp_orAwsError (wp_served fun r a' hs => ?_)
  obtain ⟨messageId, receipt, messages, -, rfl, rfl⟩ := hs
  exact ⟨messageId, rfl, h.item (fun _ => rfl) (fun _ _ => rfl) fun _ => rfl⟩

/-! ## The methods -/

/-- A store call's value without the time a state was saved at. -/
def StoreCall.undated : (c : StoreCall) → c.Ret → c.Ret
  | .createWorkflow .., st => st.undated
  | .saveWorkflow .., st => st.undated
  | .getWorkflow _, o => o.map WorkflowState.undated
  | _, r => r

/-- `p` answers as the store call does, and leaves the stores in agreement. -/
def AnswersAlike (c : StoreCall) (s : SQLiteStore) (t : Timestamp) (p : AwsPy c.Ret) (a : AwsState) : Prop :=
  wp (aws noFaults) p (fun o a' => o.map c.undated = (c.apply s t).1.map c.undated ∧ Agree (c.apply s t).2 a') a

theorem createWorkflow_agrees (h : Agree s a) {state : WorkflowState} (hn : s.workflows.get state.taskId = none) (n : Nat) :
    AnswersAlike (.createWorkflow state n) s t (AWSDurableStore.createWorkflow state n) a := by
  have habsent := (rel_none (h.workflows state.taskId)).mp hn
  rcases he : s.createWorkflow t state n with ⟨r, s'⟩
  unfold AnswersAlike
  simp only [StoreCall.apply, he]
  rcases SQLiteStore.createWorkflow_cases he with ⟨hne, -⟩ | ⟨-, rfl, hw, -, ha, hl⟩
  · exact absurd hn hne
  · refine wp_bind.mpr (wp_attempt.mpr (wp_putItem (fun table _ hget => ?_) fun hc => ?_))
    · have h₁ : Agree s' { a with table } :=
        h.putState ⟨state.taskId, state, state.version, t⟩ ⟨rfl, state, rfl, rfl⟩ hget
          ((hw _).trans (if_pos rfl)) (fun t e => (hw t).trans (if_neg (Ne.symm e))) ha hl
      refine wp_seq (recordEvent_agrees h₁ _ _ _) fun _ a₂ h₂ => ?_
      refine wp_seq (enqueue_agrees h₂ _ _) fun _ a₃ h₃ => ?_
      exact ⟨rfl, h₃⟩
    · simp [Condition.holds, habsent] at hc

theorem getWorkflow_agrees (h : Agree s a) (taskId : String) :
    AnswersAlike (.getWorkflow taskId) s t (AWSDurableStore.getWorkflow taskId) a := by
  refine wp_bind.mpr (wp_mono (wp_orAwsError (R := fun x a' => x = a.table (stateKey taskId) ∧ a' = a)
    (wp_getItem ⟨_, rfl, rfl, rfl⟩)) fun o a' hq => ?_)
  obtain ⟨x, rfl, rfl, rfl⟩ := hq
  have hrel := h.workflows taskId
  generalize hg : s.workflows.get taskId = row at hrel
  generalize a'.table (stateKey taskId) = item at hrel
  cases hrel with
  | none => exact ⟨by simp [StoreCall.apply, SQLiteStore.getWorkflow, hg], h⟩
  | some hrow =>
    obtain ⟨-, st, hst, hu⟩ := hrow
    simp only [after, hst]
    refine ⟨?_, h⟩
    simp only [StoreCall.apply, SQLiteStore.getWorkflow, hg, Option.map_some]
    exact congrArg (fun x => Except.ok (some x)) hu

/-- A save that finds another version. -/
theorem saveWorkflow_stale {state : WorkflowState} {v : Nat}
    (h : ∀ row, s.workflows.get state.taskId = some row → row.version ≠ v) :
    s.saveWorkflow t state v = (.error (.concurrentUpdate s!"stale checkpoint for {state.taskId}"), s) := by
  have hp : ∀ row : WorkflowRow, decide (row.taskId = state.taskId ∧ row.version = v) = true →
      row.taskId = state.taskId := fun row e => (of_decide_eq_true e).1
  unfold SQLiteStore.saveWorkflow
  simp only
  split
  · rename_i hc
    obtain ⟨row, hr, hv⟩ := (Table.rowcount_eq_one hp).mp hc
    exact absurd (of_decide_eq_true hv).2 (h row hr)
  · rfl

theorem saveWorkflow_agrees (h : Agree s a) (state : WorkflowState) (v : Nat) :
    AnswersAlike (.saveWorkflow state v) s t (AWSDurableStore.saveWorkflow { state with updatedAt := held } v) a := by
  -- the condition holds of the item exactly if the row has the version expected
  have hversion : (Condition.version v).holds (a.table (stateKey state.taskId)) = true ↔
      ∃ row, s.workflows.get state.taskId = some row ∧ row.version = v := by
    have hrel := h.workflows state.taskId
    generalize s.workflows.get state.taskId = row at hrel ⊢
    generalize a.table (stateKey state.taskId) = item at hrel ⊢
    cases hrel with
    | none => simp [Condition.holds]
    | some hrow => simp [Condition.holds, hrow.1]
  refine wp_bind.mpr (wp_utcNow fun updated => ?_)
  refine wp_bind.mpr (wp_attempt.mpr (wp_updateItem (fun table hc hget => ?_) fun hc => ?_))
  · obtain ⟨row, hr, hv⟩ := hversion.mp hc
    rcases he : s.saveWorkflow t state v with ⟨r, s'⟩
    rcases SQLiteStore.saveWorkflow_cases he with ⟨-, -, -, rfl, hw, -, ha, hl⟩ | ⟨-, -, hne⟩
    · simp only [after, StoreCall.apply, he]
      exact ⟨rfl, h.putState _ (by exact ⟨rfl, _, rfl, rfl⟩) hget ((hw _).trans (if_pos rfl)) (fun t e => (hw t).trans (if_neg e)) ha hl⟩
    · exact absurd hv (hne row hr)
  · have hstale := @saveWorkflow_stale s t state v fun row hr hv => by
      rw [hversion.mpr ⟨row, hr, hv⟩] at hc
      cases hc
    simp only [after, StoreCall.apply, hstale, if_true]
    exact ⟨rfl, h⟩

theorem createApproval_agrees (h : Agree s a) (taskId actionId : String) :
    AnswersAlike (.createApproval taskId actionId) s t (AWSDurableStore.createApproval taskId actionId) a := by
  have hget' := @SQLiteStore.createApproval_get s t taskId actionId
  refine wp_bind.mpr (wp_utcNow fun created => ?_)
  refine wp_bind.mpr (wp_attempt.mpr (wp_putItem (fun table hc hget => ?_) fun hc => ?_))
  · have hnone : s.approvals.get (taskId, actionId) = none :=
      (rel_none (h.approvals taskId actionId)).mpr (by simpa [Condition.holds] using hc)
    refine ⟨rfl, h.putApproval { taskId, actionId, createdAt := t } (by exact rfl) hget (fun k => ?_) rfl rfl⟩
    show (s.createApproval t taskId actionId).approvals.get k = _
    rw [hget']
    by_cases e : (taskId, actionId) = k
    · subst e; rw [if_pos rfl, if_pos rfl, hnone]; rfl
    · rw [if_neg e, if_neg (Ne.symm e)]
  · have hsome : s.approvals.get (taskId, actionId) ≠ none := fun e => by
      simp [Condition.holds, (rel_none (h.approvals taskId actionId)).mp e] at hc
    simp only [after, ne_eq, not_true, if_false]
    refine ⟨rfl, h.workflows, fun T x => ?_, h.results⟩
    show Option.Rel ApprovalItem ((s.createApproval t taskId actionId).approvals.get (T, x)) _
    rw [hget']
    split
    · rename_i e
      obtain ⟨row, hrow⟩ := Option.ne_none_iff_exists'.mp (e ▸ hsome)
      have := h.approvals T x
      rw [hrow] at this ⊢
      exact this
    · exact h.approvals T x

/-- A resolution that finds no pending approval. -/
theorem resolveApproval_settled {taskId actionId actor : String} {approved : Bool} {reason : Option String}
    (h : ∀ row, s.approvals.get (taskId, actionId) = some row → row.status ≠ .pending) :
    s.resolveApproval t taskId actionId approved actor reason = (.error (.value "approval is not pending"), s) := by
  have hp : ∀ row : ApprovalRow, decide ((row.taskId, row.actionId) = (taskId, actionId) ∧ row.status = .pending) = true →
      (row.taskId, row.actionId) = (taskId, actionId) := fun row e => (of_decide_eq_true e).1
  unfold SQLiteStore.resolveApproval
  simp only
  split
  · rename_i hc
    obtain ⟨row, hr, hv⟩ := (Table.rowcount_eq_one hp).mp hc
    exact absurd (of_decide_eq_true hv).2 (h row hr)
  · rfl

theorem resolveApproval_agrees (h : Agree s a) (taskId actionId : String) (approved : Bool) (actor : String)
    (reason : Option String) :
    AnswersAlike (.resolveApproval taskId actionId approved actor reason) s t
      (AWSDurableStore.resolveApproval taskId actionId approved actor reason) a := by
  have hpending : (Condition.status .pending).holds (a.table (approvalKey taskId actionId)) = true ↔
      ∃ row, s.approvals.get (taskId, actionId) = some row ∧ row.status = .pending := by
    have hrel := h.approvals taskId actionId
    generalize s.approvals.get (taskId, actionId) = row at hrel ⊢
    generalize a.table (approvalKey taskId actionId) = item at hrel ⊢
    cases hrel with
    | none => simp [Condition.holds]
    | some hrow => simp [Condition.holds, show _ = _ from hrow]
  refine wp_bind.mpr (wp_utcNow fun resolved => ?_)
  refine wp_bind.mpr (wp_attempt.mpr (wp_updateItem (fun table hc hget => ?_) fun hc => ?_))
  · obtain ⟨row, hr, hst⟩ := hpending.mp hc
    rcases he : s.resolveApproval t taskId actionId approved actor reason with ⟨r, s'⟩
    rcases SQLiteStore.resolveApproval_cases he with ⟨row', -, -, rfl, ha, hw, -, hl⟩ | ⟨-, -, hne⟩
    · simp only [after, StoreCall.apply, he]
      exact ⟨rfl, h.putApproval _ (by exact rfl) hget ha hw hl⟩
    · exact absurd hst (hne row hr)
  · have hsettled := @resolveApproval_settled s t taskId actionId actor approved reason fun row hr hst => by
      rw [hpending.mpr ⟨row, hr, hst⟩] at hc
      cases hc
    simp only [after, StoreCall.apply, hsettled, if_true]
    exact ⟨rfl, h⟩

theorem approvalStatus_agrees (h : Agree s a) (taskId actionId : String) :
    AnswersAlike (.approvalStatus taskId actionId) s t (AWSDurableStore.approvalStatus taskId actionId) a := by
  refine wp_bind.mpr (wp_mono (wp_orAwsError (R := fun x a' => x = a.table (approvalKey taskId actionId) ∧ a' = a)
    (wp_getItem ⟨_, rfl, rfl, rfl⟩)) fun o a' hq => ?_)
  obtain ⟨x, rfl, rfl, rfl⟩ := hq
  have hrel := h.approvals taskId actionId
  generalize hg : s.approvals.get (taskId, actionId) = row at hrel
  generalize a'.table (approvalKey taskId actionId) = item at hrel
  cases hrel with
  | none => exact ⟨by simp [StoreCall.apply, SQLiteStore.approvalStatus, hg], h⟩
  | some hrow =>
    have hrow : _ = _ := hrow
    simp only [after, hrow]
    exact ⟨by simp [StoreCall.apply, SQLiteStore.approvalStatus, hg], h⟩

theorem saveToolResult_agrees (h : Agree s a) (key taskId tool : String) (arguments : Arguments) (result : Json) :
    AnswersAlike (.saveToolResult key taskId tool arguments result) s t
      (AWSDurableStore.saveToolResult key taskId tool arguments result) a := by
  have hget' : ∀ k, (s.saveToolResult t key taskId tool arguments result).toolResults.get k = _ :=
    Table.get_insertOrIgnore _ _
  refine wp_bind.mpr (wp_utcNow fun created => ?_)
  refine wp_bind.mpr (wp_attempt.mpr (wp_putItem (fun table hc hget => ?_) fun hc => ?_))
  · have hnone : s.toolResults.get key = none := (rel_none (h.results key)).mpr (by simpa [Condition.holds] using hc)
    refine ⟨rfl, h.putResult ⟨key, taskId, tool, argumentsHash arguments, result, t⟩ ⟨rfl, rfl⟩ hget
      (fun k => ?_) rfl rfl⟩
    show (s.saveToolResult t key taskId tool arguments result).toolResults.get k = _
    rw [hget']
    by_cases e : key = k
    · subst e; rw [if_pos rfl, if_pos rfl, hnone]; rfl
    · rw [if_neg e, if_neg (Ne.symm e)]
  · have hsome : s.toolResults.get key ≠ none := fun e => by
      simp [Condition.holds, (rel_none (h.results key)).mp e] at hc
    simp only [after, ne_eq, not_true, if_false]
    refine ⟨rfl, h.workflows, h.approvals, fun k => ?_⟩
    show Option.Rel ResultItem ((s.saveToolResult t key taskId tool arguments result).toolResults.get k) _
    rw [hget']
    split
    · rename_i e
      have e : key = k := e
      obtain ⟨row, hrow⟩ := Option.ne_none_iff_exists'.mp (e ▸ hsome)
      have := h.results k
      rw [hrow] at this ⊢
      exact this
    · exact h.results k

theorem getToolResult_agrees (h : Agree s a) (key : String) (arguments : Arguments) :
    AnswersAlike (.getToolResult key arguments) s t (AWSDurableStore.getToolResult key arguments) a := by
  refine wp_bind.mpr (wp_mono (wp_orAwsError (R := fun x a' => x = a.table (resultKey key) ∧ a' = a)
    (wp_getItem ⟨_, rfl, rfl, rfl⟩)) fun o a' hq => ?_)
  obtain ⟨x, rfl, rfl, rfl⟩ := hq
  have hrel := h.results key
  generalize hg : s.toolResults.get key = row at hrel
  generalize a'.table (resultKey key) = item at hrel
  cases hrel with
  | none => exact ⟨by simp [StoreCall.apply, SQLiteStore.getToolResult, hg], h⟩
  | some hrow =>
    obtain ⟨hhash, hresult⟩ := hrow
    simp only [after, hhash, hresult]
    split
    · rename_i hne
      exact ⟨by simp [StoreCall.apply, SQLiteStore.getToolResult, hg, hne], h⟩
    · rename_i heq
      exact ⟨by simp [StoreCall.apply, SQLiteStore.getToolResult, hg, heq], h⟩

/-! ## Sequences of calls -/

/-- The calls both stores are compared on. -/
inductive LedgerCall where
  | createWorkflow (state : WorkflowState) (maxAttempts : Nat)
  | getWorkflow (taskId : String)
  | saveWorkflow (state : WorkflowState) (expectedVersion : Nat)
  | createApproval (taskId actionId : String)
  | resolveApproval (taskId actionId : String) (approved : Bool) (actor : String) (reason : Option String)
  | approvalStatus (taskId actionId : String)
  | saveToolResult (key taskId tool : String) (arguments : Arguments) (result : Json)
  | getToolResult (key : String) (arguments : Arguments)

namespace LedgerCall

def onSQLite : LedgerCall → StoreCall
  | createWorkflow state n => .createWorkflow state n
  | getWorkflow taskId => .getWorkflow taskId
  | saveWorkflow state v => .saveWorkflow state v
  | createApproval taskId actionId => .createApproval taskId actionId
  | resolveApproval taskId actionId approved actor reason => .resolveApproval taskId actionId approved actor reason
  | approvalStatus taskId actionId => .approvalStatus taskId actionId
  | saveToolResult key taskId tool arguments result => .saveToolResult key taskId tool arguments result
  | getToolResult key arguments => .getToolResult key arguments

/-- The call on the AWS store. Its client holds the state that store returned: the same one,
    saved at another time. -/
def onAWS (held : Timestamp) : (c : LedgerCall) → AwsPy c.onSQLite.Ret
  | createWorkflow state n => AWSDurableStore.createWorkflow state n
  | getWorkflow taskId => AWSDurableStore.getWorkflow taskId
  | saveWorkflow state v => AWSDurableStore.saveWorkflow { state with updatedAt := held } v
  | createApproval taskId actionId => AWSDurableStore.createApproval taskId actionId
  | resolveApproval taskId actionId approved actor reason =>
    AWSDurableStore.resolveApproval taskId actionId approved actor reason
  | approvalStatus taskId actionId => AWSDurableStore.approvalStatus taskId actionId
  | saveToolResult key taskId tool arguments result => AWSDurableStore.saveToolResult key taskId tool arguments result
  | getToolResult key arguments => AWSDurableStore.getToolResult key arguments

/-- The task a call creates. -/
def creates : LedgerCall → Option String
  | createWorkflow state _ => some state.taskId
  | _ => none

end LedgerCall

/-- The stores after the same calls, newest first: every creation is of a fresh task. -/
inductive Both : List LedgerCall → SQLiteStore → AwsState → Prop
  | start : Both [] .empty .empty
  | step {cs : List LedgerCall} {s : SQLiteStore} {a a' : AwsState} (h : Both cs s a) (c : LedgerCall) (t held : Timestamp)
      {o : Except PyError c.onSQLite.Ret} (fresh : ∀ taskId, c.creates = some taskId → taskId ∉ cs.filterMap LedgerCall.creates)
      (run : Runs (aws noFaults) (c.onAWS held) a o a') : Both (c :: cs) (c.onSQLite.apply s t).2 a'

theorem ledgerCall_answers (h : Agree s a) (c : LedgerCall) (t held : Timestamp)
    (hfresh : ∀ taskId, c.creates = some taskId → s.workflows.get taskId = none) :
    AnswersAlike c.onSQLite s t (c.onAWS held) a := by
  cases c with
  | createWorkflow state n => exact createWorkflow_agrees h (hfresh _ rfl) n
  | getWorkflow taskId => exact getWorkflow_agrees h taskId
  | saveWorkflow state v => exact saveWorkflow_agrees h state v
  | createApproval taskId actionId => exact createApproval_agrees h taskId actionId
  | resolveApproval taskId actionId approved actor reason => exact resolveApproval_agrees h taskId actionId approved actor reason
  | approvalStatus taskId actionId => exact approvalStatus_agrees h taskId actionId
  | saveToolResult key taskId tool arguments result => exact saveToolResult_agrees h key taskId tool arguments result
  | getToolResult key arguments => exact getToolResult_agrees h key arguments

/-- Only creations make checkpoints. -/
theorem ledgerCall_creates (c : LedgerCall) {taskId : String} (hn : s.workflows.get taskId = none)
    (hne : c.creates ≠ some taskId) : (c.onSQLite.apply s t).2.workflows.get taskId = none := by
  cases c with
  | createWorkflow state n =>
    rcases he : s.createWorkflow t state n with ⟨r, s'⟩
    show (s.createWorkflow t state n).2.workflows.get taskId = none
    rw [he]
    rcases SQLiteStore.createWorkflow_cases he with ⟨-, -, rfl⟩ | ⟨-, -, hw, -⟩
    · exact hn
    · rw [hw, if_neg (fun e => hne (by simp [LedgerCall.creates, e]))]
      exact hn
  | saveWorkflow state v =>
    rcases he : s.saveWorkflow t state v with ⟨r, s'⟩
    show (s.saveWorkflow t state v).2.workflows.get taskId = none
    rw [he]
    rcases SQLiteStore.saveWorkflow_cases he with ⟨row, hr, -, -, hw, -⟩ | ⟨-, rfl, -⟩
    · rw [hw]
      split
      · rename_i e
        rw [← e, hn] at hr
        cases hr
      · exact hn
    · exact hn
  | resolveApproval => rw [StoreCall.apply_workflows rfl]; exact hn
  | _ => exact hn

/-- After the same calls the stores agree, and every task there was created by one of them. -/
theorem both_agree {cs : List LedgerCall} (h : Both cs s a) :
    Agree s a ∧ ∀ taskId, taskId ∉ cs.filterMap LedgerCall.creates → s.workflows.get taskId = none := by
  induction h with
  | start => exact ⟨agree_empty, fun _ _ => rfl⟩
  | step h c t held fresh run ih =>
    obtain ⟨hagree, hnone⟩ := ih
    refine ⟨(wp_sound (ledgerCall_answers hagree c t held fun taskId e => hnone taskId (fresh taskId e)) run).2, ?_⟩
    intro taskId hni
    refine ledgerCall_creates c (hnone taskId ?_) ?_
    · intro hmem
      obtain ⟨c', hc', e⟩ := List.mem_filterMap.mp hmem
      exact hni (List.mem_filterMap.mpr ⟨c', List.mem_cons_of_mem _ hc', e⟩)
    · intro e
      exact hni (List.mem_filterMap.mpr ⟨c, List.mem_cons_self, e⟩)

theorem infinite_string : Infinite String :=
  Infinite.of_injective (fun n => String.ofList (List.replicate n 'a')) fun m n e => by
    simpa using congrArg String.length e

/-- AWS has an answer to every call. -/
theorem aws_answers (c : DurableCall) (a : AwsState) : ∃ r a', aws noFaults c a r a' := by
  cases c with
  | getItem key => exact ⟨_, _, .inl ⟨rfl, rfl⟩⟩
  | putItem key item condition =>
    cases hp : a.table.put key item condition.holds with
    | none => exact ⟨_, _, .inl (by simp only [AwsEffect, WriteEffect, hp]; exact ⟨rfl, rfl⟩)⟩
    | some table => exact ⟨_, _, .inl (by simp only [AwsEffect, WriteEffect, hp]; exact ⟨rfl, rfl⟩)⟩
  | updateItem key update condition =>
    cases hp : a.table.update key update.apply condition.holds with
    | none => exact ⟨_, _, .inl (by simp only [AwsEffect, WriteEffect, hp]; exact ⟨rfl, rfl⟩)⟩
    | some table => exact ⟨_, _, .inl (by simp only [AwsEffect, WriteEffect, hp]; exact ⟨rfl, rfl⟩)⟩
  | sendMessage name body =>
    have := infinite_string
    obtain ⟨receipt, hreceipt⟩ := Infinite.exists_notMem_finset ((a.queue name).rows.map (·.receiptHandle)).toFinset
    have hnone : (a.queue name).get receipt = none := Table.get_eq_none.mpr fun m hm e =>
      hreceipt (List.mem_toFinset.mpr (e ▸ List.mem_map_of_mem hm))
    obtain ⟨messages, hi⟩ := @Table.insert_fresh _ _ (fun m : SqsMessage => m.receiptHandle) _ (a.queue name) ⟨receipt, body⟩ hnone
    exact ⟨_, _, .inl ⟨"", receipt, messages, hi, rfl, rfl⟩⟩
  | deleteMessage name receipt => exact ⟨_, _, .inl (.inl ⟨rfl, rfl⟩)⟩
  | utcNow => exact ⟨_, _, .inl ⟨⟨0, rfl⟩, rfl⟩⟩
  | uuid4 => exact ⟨_, _, .inl ⟨⟨"", rfl⟩, rfl⟩⟩

/-- After the same calls, with creations of fresh tasks only, the next call has the same
    result or the same exception on both stores, up to when a state was saved, and it does
    return or raise on both. -/
theorem stores_agree {cs : List LedgerCall} (h : Both cs s a) (c : LedgerCall) (t held : Timestamp)
    (fresh : ∀ taskId, c.creates = some taskId → taskId ∉ cs.filterMap LedgerCall.creates) :
    (∃ o a', Runs (aws noFaults) (c.onAWS held) a o a') ∧
      ∀ o a', Runs (aws noFaults) (c.onAWS held) a o a' →
        o.map c.onSQLite.undated = (c.onSQLite.apply s t).1.map c.onSQLite.undated := by
  obtain ⟨hagree, hnone⟩ := both_agree h
  refine ⟨runs_exists aws_answers _ a, fun o a' hr => ?_⟩
  exact (wp_sound (ledgerCall_answers hagree c t held fun taskId e => hnone taskId (fresh taskId e)) hr).1

def newIncident : WorkflowState := { taskId := "t", goal := "restore checkout", createdAt := 0, updatedAt := 0 }

/-- A checkpoint is created and then saved under a version it does not have: the AWS store
    raises what the SQLite store raises. -/
theorem stores_agree_stale : ∃ s a, Both [.createWorkflow newIncident 5] s a ∧ s.getWorkflow "t" = some newIncident ∧
    ∀ o a', Runs (aws noFaults) ((LedgerCall.saveWorkflow newIncident 7).onAWS 0) a o a' →
      o = .error (.concurrentUpdate "stale checkpoint for t") := by
  obtain ⟨o₁, a₁, hr⟩ := runs_exists aws_answers ((LedgerCall.createWorkflow newIncident 5).onAWS 0) .empty
  have h := Both.start.step (.createWorkflow newIncident 5) 0 0 (by simp) hr
  refine ⟨_, _, h, rfl, fun o a' hrun => ?_⟩
  have heq := (stores_agree h (.saveWorkflow newIncident 7) 0 0 (by simp [LedgerCall.creates])).2 o a' hrun
  have hstale : ((LedgerCall.saveWorkflow newIncident 7).onSQLite.apply
      ((LedgerCall.createWorkflow newIncident 5).onSQLite.apply .empty 0).2 0).1 =
        .error (.concurrentUpdate "stale checkpoint for t") := by
    refine congrArg Prod.fst (saveWorkflow_stale fun row hrow => ?_)
    cases hrow
    simp [newIncident]
  rw [hstale] at heq
  cases o with
  | error e => exact congrArg Except.error (Except.error.inj heq)
  | ok st => cases heq

end AgentResilience
