/-
  AgentResilience.AtRest — what holds of the store between operations that run one after
  another. `Rest ok lack`: an active workflow has a live delivery (but for the workflow
  `lack`, between the acknowledgement of its delivery and the next step), a task has at
  most one live delivery, a waiting workflow has a pending action whose approval is `ok`,
  and the pending action of any other workflow is approved.

  - `Rest.save`, `Rest.rows`: a checkpoint replaced, and queue rows that stay of their task.
  - `Rest.acknowledge`, `Rest.insert`: a task loses its delivery, and gets one.
-/
import AgentResilience.Sequence

namespace AgentResilience

open Interaction
open Interaction.Prog (attempt ofExcept throw makes_bind makes_perform)

/-! ## The store at rest -/

structure Rest (ok : Option ApprovalStatus → Prop) (lack : Option String) (s : SQLiteStore) : Prop where
  store : StoreOk Set.univ s
  known : ∀ id row, s.queue.get id = some row → s.workflows.get row.taskId ≠ none
  live : ∀ taskId w, lack ≠ some taskId → s.workflows.get taskId = some w → w.stateJson.status.active = true →
    ∃ id row, s.queue.get id = some row ∧ row.taskId = taskId ∧ row.status ≠ .completed
  one : ∀ id id' row row', s.queue.get id = some row → s.queue.get id' = some row' → row.taskId = row'.taskId →
    row.status ≠ .completed → row'.status ≠ .completed → id = id'
  gate : ∀ taskId w, s.workflows.get taskId = some w → w.stateJson.status = .waitingForApproval →
    ∃ p, w.stateJson.pendingAction = some p ∧ ok (s.approvalStatus taskId p.actionId)
  approved : ∀ taskId w p, s.workflows.get taskId = some w → w.stateJson.status ≠ .waitingForApproval →
    w.stateJson.pendingAction = some p → s.approvalStatus taskId p.actionId = some .approved
  dead : ∀ id row w, s.queue.get id = some row → row.status = .dead → s.workflows.get row.taskId = some w →
    w.stateJson.status ≠ .waitingForApproval
  lacking : ∀ taskId id row, lack = some taskId → s.queue.get id = some row → row.taskId = taskId → row.status ≠ .dead

variable {ok : Option ApprovalStatus → Prop} {lack : Option String} {s s' : SQLiteStore}

theorem Rest.congr (h : Rest ok lack s) (hw : s'.workflows = s.workflows) (hq : s'.queue = s.queue)
    (ha : s'.approvals = s.approvals) : Rest ok lack s' := by
  have hstatus : ∀ t a, s'.approvalStatus t a = s.approvalStatus t a := fun t a => by
    unfold SQLiteStore.approvalStatus; rw [ha]
  refine ⟨h.store.of_eq hw ha, ?_, ?_, ?_, ?_, ?_, ?_, ?_⟩
  · rw [hw, hq]; exact h.known
  · rw [hw, hq]; exact h.live
  · rw [hq]; exact h.one
  · rw [hw]; intro t w hg hs; rw [funext (hstatus t)]; exact h.gate t w hg hs
  · rw [hw]; intro t w p hg hs hp; rw [hstatus]; exact h.approved t w p hg hs hp
  · rw [hw, hq]; exact h.dead
  · rw [hq]; exact h.lacking

/-- Changes of queue rows that move none of them between tasks, and complete or revive none. -/
theorem Rest.rows (h : Rest ok lack s) (hw : s'.workflows = s.workflows) (ha : s'.approvals = s.approvals)
    {f : Nat → QueueRow → QueueRow} (hq : ∀ id, s'.queue.get id = (s.queue.get id).map (f id))
    (hf : ∀ id r, s.queue.get id = some r → (f id r).taskId = r.taskId ∧
      ((f id r).status = .completed ↔ r.status = .completed) ∧
      ((f id r).status = .dead → r.status = .dead ∨ (lack = none ∧
        ∀ w, s.workflows.get r.taskId = some w → w.stateJson.status ≠ .waitingForApproval))) : Rest ok lack s' := by
  have hget : ∀ id row', s'.queue.get id = some row' → ∃ row, s.queue.get id = some row ∧ f id row = row' := by
    intro id row' hr; rw [hq] at hr; exact Option.map_eq_some_iff.mp hr
  have hstatus : ∀ t a, s'.approvalStatus t a = s.approvalStatus t a := fun t a => by
    unfold SQLiteStore.approvalStatus; rw [ha]
  refine ⟨h.store.of_eq hw ha, ?_, ?_, ?_, ?_, ?_, ?_, ?_⟩
  · intro id row' hr
    obtain ⟨row, hrow, rfl⟩ := hget id row' hr
    rw [hw, (hf id row hrow).1]; exact h.known id row hrow
  · intro t w hl hg hact
    obtain ⟨id, row, hrow, ht, hc⟩ := h.live t w hl (hw ▸ hg) hact
    have hr := hf id row hrow
    refine ⟨id, f id row, by rw [hq, hrow]; rfl, by rw [hr.1, ht], ?_⟩
    rw [ne_eq, hr.2.1]; exact hc
  · intro id id' r₁ r₂ h₁ h₂ ht hc₁ hc₂
    obtain ⟨row, hrow, rfl⟩ := hget id r₁ h₁
    obtain ⟨row', hrow', rfl⟩ := hget id' r₂ h₂
    rw [(hf id row hrow).1, (hf id' row' hrow').1] at ht
    rw [ne_eq, (hf id row hrow).2.1] at hc₁
    rw [ne_eq, (hf id' row' hrow').2.1] at hc₂
    exact h.one id id' row row' hrow hrow' ht hc₁ hc₂
  · rw [hw]; intro t w hg hs; rw [funext (hstatus t)]; exact h.gate t w hg hs
  · rw [hw]; intro t w p hg hs hp; rw [hstatus]; exact h.approved t w p hg hs hp
  · intro id row' w hr hd hg
    obtain ⟨row, hrow, rfl⟩ := hget id row' hr
    rw [hw, (hf id row hrow).1] at hg
    rcases (hf id row hrow).2.2 hd with hd | ⟨-, hn⟩
    · exact h.dead id row w hrow hd hg
    · exact hn w hg
  · intro t id row' hl hr ht hd
    obtain ⟨row, hrow, rfl⟩ := hget id row' hr
    rcases (hf id row hrow).2.2 hd with hd | ⟨hn, -⟩
    · exact h.lacking t id row hl hrow ((hf id row hrow).1 ▸ ht) hd
    · rw [hl] at hn; cases hn

/-- One checkpoint replaced. -/
theorem Rest.save (h : Rest ok lack s) {taskId : String} {row' : WorkflowRow} {lack' : Option String}
    (hs : StoreOk Set.univ s') (hw : ∀ t, s'.workflows.get t = if t = taskId then some row' else s.workflows.get t)
    (hq : s'.queue = s.queue) (ha : ∀ t a, t ≠ taskId → s'.approvalStatus t a = s.approvalStatus t a)
    (hlack : ∀ t, lack' = some t → t = taskId) (hlack' : ∀ t, lack = some t → t = taskId)
    (hlive : lack' = none → row'.stateJson.status.active = true →
      ∃ id row, s.queue.get id = some row ∧ row.taskId = taskId ∧ row.status ≠ .completed)
    (hgate : row'.stateJson.status = .waitingForApproval →
      ∃ p, row'.stateJson.pendingAction = some p ∧ ok (s'.approvalStatus taskId p.actionId))
    (happ : ∀ p, row'.stateJson.status ≠ .waitingForApproval → row'.stateJson.pendingAction = some p →
      s'.approvalStatus taskId p.actionId = some .approved)
    (hdead : row'.stateJson.status = .waitingForApproval ∨ lack' = some taskId →
      ∀ id row, s.queue.get id = some row → row.taskId = taskId → row.status ≠ .dead) : Rest ok lack' s' := by
  refine ⟨hs, ?_, ?_, by rw [hq]; exact h.one, ?_, ?_, ?_, ?_⟩
  · intro id row hr
    rw [hw]
    split
    · simp
    · exact h.known id row (hq ▸ hr)
  · intro t w hl hg hact
    rw [hw] at hg
    rw [hq]
    split at hg
    · rename_i e
      cases hg; subst e
      refine hlive ?_ hact
      cases hc : lack' with
      | none => rfl
      | some x => exact absurd (by rw [hc, hlack x hc]) hl
    · rename_i e
      exact h.live t w (fun hc => e (hlack' t hc)) hg hact
  · intro t w hg hst
    rw [hw] at hg
    split at hg
    · rename_i e
      cases hg; subst e; exact hgate hst
    · rename_i e
      obtain ⟨p, hp, hok⟩ := h.gate t w hg hst
      exact ⟨p, hp, by rw [ha _ _ e]; exact hok⟩
  · intro t w p hg hst hp
    rw [hw] at hg
    split at hg
    · rename_i e
      cases hg; subst e; exact happ p hst hp
    · rename_i e
      rw [ha _ _ e]; exact h.approved t w p hg hst hp
  · intro id row w hr hd hg hst
    rw [hq] at hr
    rw [hw] at hg
    split at hg
    · rename_i e
      cases hg; exact hdead (.inl hst) id row hr e hd
    · exact h.dead id row w hr hd hg hst
  · intro t id row hl hr ht
    obtain rfl := hlack t hl
    exact hdead (.inr hl) id row (hq ▸ hr) ht

/-- A settled delivery: its task is left without one. -/
theorem Rest.acknowledge (h : Rest ok none s) {id : Nat} {row : QueueRow} (hr : s.queue.get id = some row)
    (hst : row.status = .processing) (now : Timestamp) : Rest ok (some row.taskId) (s.acknowledge now id) := by
  have hget : ∀ id' row', (s.acknowledge now id).queue.get id' = some row' → row'.status ≠ .completed →
      id' ≠ id ∧ s.queue.get id' = some row' := by
    intro id' row' hr' hc
    rw [SQLiteStore.acknowledge_get] at hr'
    obtain ⟨x, hx, rfl⟩ := Option.map_eq_some_iff.mp hr'
    by_cases e : id' = id
    · rw [if_pos e] at hc; exact absurd rfl hc
    · rw [if_neg e]; exact ⟨e, hx⟩
  refine ⟨h.store.of_eq rfl rfl, ?_, ?_, ?_, h.gate, h.approved, ?_, ?_⟩
  · intro id' row' hr'
    rw [SQLiteStore.acknowledge_get] at hr'
    obtain ⟨x, hx, rfl⟩ := Option.map_eq_some_iff.mp hr'
    have ht : (if id' = id then { x with status := .completed, leaseUntil := none, updatedAt := now } else x).taskId =
        x.taskId := by split <;> rfl
    rw [ht]; exact h.known id' x hx
  · intro t w hl hg hact
    obtain ⟨id', row', hr', ht, hc⟩ := h.live t w (by simp) hg hact
    have e : id' ≠ id := by
      rintro rfl
      rw [hr] at hr'; cases hr'
      exact hl (congrArg some ht)
    exact ⟨id', row', by rw [SQLiteStore.acknowledge_get, hr', Option.map_some, if_neg e], ht, hc⟩
  · intro id₁ id₂ r₁ r₂ h₁ h₂ ht hc₁ hc₂
    exact h.one id₁ id₂ r₁ r₂ (hget id₁ r₁ h₁ hc₁).2 (hget id₂ r₂ h₂ hc₂).2 ht hc₁ hc₂
  · intro id' row' w hr' hd hg
    exact h.dead id' row' w (hget id' row' hr' (by rw [hd]; decide)).2 hd hg
  · intro t id' row' hl hr' ht hd
    cases hl
    obtain ⟨hne, hr''⟩ := hget id' row' hr' (by rw [hd]; decide)
    exact hne (h.one id' id row' row hr'' hr ht (by rw [hd]; decide) (by rw [hst]; decide))

/-- The task that lacks a delivery gets one. -/
theorem Rest.insert {taskId : String} (h : Rest ok (some taskId) s) (hw : s'.workflows = s.workflows)
    (ha : s'.approvals = s.approvals) {now : Timestamp} {n : Nat} (hq : s'.queue = (s.insertQueue now taskId n).queue)
    (hknown : s.workflows.get taskId ≠ none)
    (hdone : ∀ id row, s.queue.get id = some row → row.taskId = taskId → row.status = .completed) : Rest ok none s' := by
  have hget : ∀ id row, s'.queue.get id = some row →
      (id = s.nextQueueId ∧ row.taskId = taskId ∧ row.status = .pending) ∨ s.queue.get id = some row := by
    intro id row hr
    rw [hq, SQLiteStore.insertQueue_get] at hr
    split at hr
    · cases hr; exact .inl ⟨by assumption, rfl, rfl⟩
    · exact .inr hr
  have hnew : ∃ row, s'.queue.get s.nextQueueId = some row ∧ row.taskId = taskId ∧ row.status = .pending :=
    ⟨_, by rw [hq, SQLiteStore.insertQueue_get, if_pos rfl], rfl, rfl⟩
  have hstatus : ∀ t a, s'.approvalStatus t a = s.approvalStatus t a := fun t a => by
    unfold SQLiteStore.approvalStatus; rw [ha]
  refine ⟨h.store.of_eq hw ha, ?_, ?_, ?_, ?_, ?_, ?_, fun _ _ _ hl => by cases hl⟩
  · intro id row hr
    rw [hw]
    rcases hget id row hr with ⟨-, ht, -⟩ | hr
    · rw [ht]; exact hknown
    · exact h.known id row hr
  · intro t w _ hg hact
    by_cases e : t = taskId
    · subst e
      obtain ⟨row, hr, ht, hst⟩ := hnew
      exact ⟨_, row, hr, ht, by rw [hst]; decide⟩
    · obtain ⟨id, row, hr, ht, hc⟩ := h.live t w (fun hs => e (Option.some.inj hs).symm) (hw ▸ hg) hact
      refine ⟨id, row, ?_, ht, hc⟩
      rw [hq, SQLiteStore.insertQueue_get, if_neg ?_]
      · exact hr
      · rintro rfl; rw [SQLiteStore.nextQueueId_fresh] at hr; cases hr
  · intro id id' r₁ r₂ h₁ h₂ ht hc₁ hc₂
    rcases hget id r₁ h₁ with ⟨e₁, t₁, -⟩ | h₁ <;> rcases hget id' r₂ h₂ with ⟨e₂, t₂, -⟩ | h₂
    · rw [e₁, e₂]
    · exact absurd (hdone id' r₂ h₂ (ht ▸ t₁)) hc₂
    · exact absurd (hdone id r₁ h₁ (ht.trans t₂)) hc₁
    · exact h.one id id' r₁ r₂ h₁ h₂ ht hc₁ hc₂
  · rw [hw]; intro t w hg hs; rw [funext (hstatus t)]; exact h.gate t w hg hs
  · rw [hw]; intro t w p hg hs hp; rw [hstatus]; exact h.approved t w p hg hs hp
  · intro id row w hr hd hg
    rcases hget id row hr with ⟨-, -, hp⟩ | hr
    · rw [hp] at hd; cases hd
    · exact h.dead id row w hr hd (hw ▸ hg)

/-- A task that is not active lacks nothing. -/
theorem Rest.settle {taskId : String} (h : Rest ok (some taskId) s)
    (hs : ∀ w, s.workflows.get taskId = some w → w.stateJson.status.active = false) : Rest ok none s := by
  refine ⟨h.store, h.known, fun t w _ hg hact => ?_, h.one, h.gate, h.approved, h.dead, fun _ _ _ hl => by cases hl⟩
  refine h.live t w (fun e => ?_) hg hact
  cases e
  rw [hs w hg] at hact; cases hact

theorem Rest.enqueue {taskId : String} (h : Rest ok (some taskId) s) {now : Timestamp} {n : Nat} {r : Except PyError Nat}
    (hknown : s.workflows.get taskId ≠ none) (he : s.enqueue now taskId n = (r, s')) :
    Rest ok none s' ∧ ∃ id, r = .ok id := by
  rcases SQLiteStore.enqueue_cases he with ⟨row, -, hr, ht, hst, rfl, rfl⟩ | ⟨hdone, -, rfl, rfl⟩ | ⟨hn, -⟩
  · refine ⟨⟨h.store, h.known, fun t w _ hg hact => ?_, h.one, h.gate, h.approved, h.dead, fun _ _ _ hl => by cases hl⟩,
      _, rfl⟩
    by_cases e : t = taskId
    · subst e
      exact ⟨row.id, row, hr, ht, by rcases hst with e | e <;> rw [e] <;> decide⟩
    · exact h.live t w (fun hs => e (Option.some.inj hs).symm) hg hact
  · refine ⟨h.insert rfl rfl rfl hknown fun id row hr ht => ?_, _, rfl⟩
    exact (hdone id row hr ht).resolve_right (h.lacking taskId id row rfl hr ht)
  · exact absurd hn hknown

end AgentResilience
