/-
  AgentResilience.Operations — the operators' part of a workflow's life in the terms of
  `Serving`: creating an incident queues its first delivery; approving a waiting workflow
  resolves its approval and queues the next one.

  - `createIncident_serving`, `approve_serving`: both either change nothing or do all of it.
-/
import AgentResilience.Delivery

namespace AgentResilience

open Interaction
open Interaction.Prog (makes_bind makes_perform)
open WorkflowState (content)

variable {config : Settings} {env : Env} {taskId : String} {cp st : WorkflowState} {m : Memory} {w₀ w w' : World}

/-- A freshly created checkpoint. -/
def Created (st : WorkflowState) : Prop :=
  st.status = .queued ∧ st.completedSteps = [] ∧ st.evidence = [] ∧ st.toolHistory = [] ∧ st.progressHistory = [] ∧
    st.pendingAction = none ∧ st.diagnosis = none ∧ st.finalAnswer = none

theorem createIncident_serving (hf : Filed w.store) (taskId goal scenarioId : String) :
    wp (calls env 0) (createIncident config taskId goal scenarioId) (fun _ w' => Idle w w' ∨
      ∃ st t, w.store.stored taskId = none ∧ Created st.content ∧ w.now ≤ t ∧
        Serving taskId ⟨w.store.insertQueue t taskId config.maxQueueAttempts, t, []⟩ st w.memory w') w := by
  refine wp_bind.mpr (wp_mono (wp_idle (makes_perform rfl) hf) fun o w₁ hi => ?_)
  cases o with
  | error e => exact .inl hi
  | ok now =>
    refine wp_perform.mpr fun r w₂ hs => ?_
    obtain ⟨t, s, ht, -, he, rfl⟩ := hs
    have he : w₁.store.createWorkflow t { taskId, goal, scenarioId, createdAt := now, updatedAt := now } config.maxQueueAttempts =
        (r, s) := he
    rcases SQLiteStore.createWorkflow_cases he with ⟨-, -, rfl⟩ | ⟨hn, -, hw, hq, ha, hl⟩
    · refine .inl (hi.trans ⟨hi.filed, fun _ => rfl, rfl, ?_, ht⟩)
      rw [memory_did rfl rfl]; rfl
    · have hnone : w₁.store.stored taskId = none := by
        have hn : w₁.store.workflows.get taskId = none := hn
        simp [SQLiteStore.stored, SQLiteStore.getWorkflow, hn]
      have hev : ∃ s₁ : SQLiteStore, ∃ e payload, s₁.events = w₁.store.events ∧ s.events = (s₁.recordEvent t taskId e payload).events := by
        have := congrArg Prod.snd he
        unfold SQLiteStore.createWorkflow at this
        split at this
        · rename_i hi'
          have hn : w₁.store.workflows.get taskId = none := hn
          rw [Table.insert_eq_none] at hi'
          simp [hn] at hi'
        · obtain rfl := this
          exact ⟨_, _, _, rfl, rfl⟩
      obtain ⟨s₁, e, payload, he₁, hev⟩ := hev
      have hids : s.events.Pairwise fun a b => a.id < b.id := by
        have h₁ : Filed { w₁.store with events := s₁.events } := ⟨hi.filed.rows, by rw [he₁]; exact hi.filed.ids⟩
        rw [hev]
        exact (h₁.recordEvent t taskId e payload).ids
      refine .inr ⟨{ taskId, goal, scenarioId, createdAt := now, updatedAt := now }, t, ?_, ⟨rfl, rfl, rfl, rfl, rfl, rfl, rfl, rfl⟩,
        hi.now.trans ht, ⟨fun T row hT => ?_, hids⟩, ?_, fun T hT => ?_, ?_, ?_, le_rfl⟩
      · rw [← hi.stored]; exact hnone
      · rw [hw] at hT
        split at hT
        · rename_i e; cases hT; exact ⟨e, rfl⟩
        · exact hi.filed.rows T row hT
      · exact stored_some.mpr ⟨_, (hw _).trans (if_pos rfl), rfl⟩
      · show s.stored T = w.store.stored T
        rw [← hi.stored]
        simp only [SQLiteStore.stored, SQLiteStore.getWorkflow, hw, if_neg (Ne.symm hT)]
      · show s.queue = (w.store.insertQueue t taskId config.maxQueueAttempts).queue
        rw [hq]
        simp only [SQLiteStore.insertQueue, SQLiteStore.nextQueueId, hi.queue]
      · rw [memory_did rfl rfl, ha, hl]
        exact hi.memory

/-- The memory after an approval was resolved. -/
def Memory.resolved (m : Memory) (t : Timestamp) (taskId actionId actor : String) (reason : Option String) : Memory :=
  { m with approvals := ({ SQLiteStore.empty with approvals := m.approvals }.resolveApproval t taskId actionId true actor reason).2.approvals }

theorem resolveApproval_serving (h : Serving taskId w₀ cp m w) (actionId actor : String) (reason : Option String) :
    wp (calls env 0) (onStore (.resolveApproval taskId actionId true actor reason)) (fun o w' =>
      ((∃ e, o = .error e) ∧ Idle w w' ∧ (m.approvals.get (taskId, actionId)).map (·.status) ≠ some .pending) ∨
      ∃ u t, o = .ok u ∧ (m.approvals.get (taskId, actionId)).map (·.status) = some .pending ∧
        Serving taskId w₀ cp (m.resolved t taskId actionId actor reason) w') w := by
  refine wp_perform.mpr fun r w' hs => ?_
  obtain ⟨t, s, ht, -, he, rfl⟩ := hs
  have he : w.store.resolveApproval t taskId actionId true actor reason = (r, s) := he
  have happ : m.approvals = w.store.approvals := by rw [← h.memory]; rfl
  have hev : s.events = w.store.events := by
    have := StoreCall.apply_events (c := .resolveApproval taskId actionId true actor reason) rfl w.store t
    rw [show StoreCall.apply (.resolveApproval taskId actionId true actor reason) w.store t = (r, s) from he] at this
    exact this
  rcases SQLiteStore.resolveApproval_cases he with ⟨row, hrow, hpend, rfl, hget, hw, hq, hl⟩ | ⟨⟨msg, rfl⟩, rfl, hne⟩
  · refine .inr ⟨(), t, rfl, by rw [happ, hrow, Option.map_some, hpend], h.filed.congr hw hev, (stored_congr hw).trans h.stored,
      fun T hT => (stored_congr hw).trans (h.others T hT), hq.trans h.queue, ?_, h.now.trans ht⟩
    rw [memory_did rfl rfl, hl]
    have ha : s.approvals = ({ SQLiteStore.empty with approvals := m.approvals }.resolveApproval t taskId actionId true actor reason).2.approvals := by
      have hs : (w.store.resolveApproval t taskId actionId true actor reason).2 = s := congrArg Prod.snd he
      rw [← hs, happ]
      unfold SQLiteStore.resolveApproval
      simp only
      split <;> rfl
    rw [ha, ← h.memory]
    rfl
  · refine .inl ⟨⟨_, rfl⟩, ⟨h.filed.congr rfl rfl, fun _ => rfl, rfl, ?_, ht⟩, fun hp => ?_⟩
    · rw [memory_did rfl rfl]; rfl
    · rw [happ] at hp
      obtain ⟨row, hrow, hst⟩ := Option.map_eq_some_iff.mp hp
      exact hne row hrow hst

/-- An approval that finds the workflow waiting resolves its approval, queues the workflow and
    its next delivery; otherwise nothing changes. -/
theorem approve_serving (hf : Filed w.store) (taskId actor : String) (reason : Option String)
    (hdone : ∀ id row, w.store.queue.get id = some row → row.taskId = taskId →
      (∃ st, w.store.stored taskId = some st ∧ st.status = .waitingForApproval) → row.status = .completed ∨ row.status = .dead) :
    wp (calls env 0) (approve config taskId actor reason) (fun _ w' =>
      (Idle w w' ∧ ∀ cp p, w.store.stored taskId = some cp → cp.status = .waitingForApproval → cp.pendingAction = some p →
        (w.memory.approvals.get (taskId, p.actionId)).map (·.status) ≠ some .pending) ∨
      ∃ cp p st t t', w.store.stored taskId = some cp ∧ cp.status = .waitingForApproval ∧ cp.pendingAction = some p ∧
        (w.memory.approvals.get (taskId, p.actionId)).map (·.status) = some .pending ∧
        st.content = { cp.content with status := .queued } ∧ w.now ≤ t ∧
        Serving taskId ⟨w.store.insertQueue t taskId config.maxQueueAttempts, t, []⟩ st
          (w.memory.resolved t' taskId p.actionId actor reason) w') w := by
  refine wp_bind.mpr (wp_bind.mpr (wp_perform.mpr fun r w₁ hs => ?_))
  have hi := calls_idle hf rfl hs
  obtain ⟨_, s, -, -, he, rfl⟩ := hs
  obtain ⟨rfl, rfl⟩ := Prod.mk.inj he
  cases hst : w.store.stored taskId with
  | none =>
    have hget : w.store.getWorkflow taskId = none := hst
    rw [hget] at hi ⊢
    exact .inl ⟨hi, fun _ _ h => by cases h⟩
  | some cp =>
    have hget : w.store.getWorkflow taskId = some cp := hst
    rw [hget] at hi ⊢
    simp only [after, Prog.pure_def, wp_ret]
    split
    · rename_i p hwait hp
      have h : Serving taskId w cp w.memory w := ⟨hf, hst, fun _ _ => rfl, rfl, rfl, le_rfl⟩
      refine wp_bind.mpr (wp_mono (resolveApproval_serving (h.idle hi) p.actionId actor reason) fun o w₂ hres => ?_)
      rcases hres with ⟨⟨e, rfl⟩, hi₂, hne⟩ | ⟨u, t', rfl, hpend, h₂⟩
      · refine .inl ⟨hi.trans hi₂, fun cp' p' hcp' _ hp' => ?_⟩
        cases hcp'
        rw [hp] at hp'
        cases hp'
        exact hne
      · refine wp_seq (save_serving h₂ (by exact h.task) rfl) fun st w₃ hq => ?_
        obtain ⟨⟨t₃, e⟩, h₃⟩ := hq
        refine wp_seq (record_serving h₃ _ _ _) fun _ w₄ h₄ => ?_
        refine wp_seq (enqueue_serving h₄ (fun id row hr ht => hdone id row hr ht ⟨cp, hst, hwait⟩) config.maxQueueAttempts)
          fun _ w₅ hq => ?_
        obtain ⟨t, ht, h₅⟩ := hq
        exact .inr ⟨cp, p, st, t, t', rfl, hwait, hp, hpend, by rw [e]; rfl, ht, h₅⟩
    · rename_i hno
      exact .inl ⟨hi, fun cp' p' hcp' hw' hp' => by cases hcp'; exact absurd hp' (hno p' hw')⟩

end AgentResilience
