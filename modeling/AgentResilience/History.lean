/-
  AgentResilience.History — the checkpoints a workflow goes through. Every checkpoint is
  `Written` over the one before it: created, saved as a `Change` of it, or queued again by
  a replay. What creation establishes and changes and replays keep holds of every
  checkpoint ever stored (`reachable_stored`). What a thread has seen is a copy of what is
  stored, or out of date (`reachable_copy`).
-/
import AgentResilience.StageWalk

namespace AgentResilience

open Interaction

/-- `new` may be stored in the place of `old`. -/
inductive Written (det : LoopDetector) : Option WorkflowState → WorkflowState → Prop
  | created {st : WorkflowState} : Fresh st → Written det none st
  | saved {cp st : WorkflowState} (t : Timestamp) : Change det Set.univ cp st →
      Written det (some cp) { st with version := st.version + 1, updatedAt := t }
  | replayed {cp : WorkflowState} (t : Timestamp) :
      Written det (some cp) { cp with status := .queued, lastError := none, version := cp.version + 1, updatedAt := t }

/-- The stored checkpoint. -/
def SQLiteStore.stored (s : SQLiteStore) (taskId : String) : Option WorkflowState := s.getWorkflow taskId

variable {det : LoopDetector} {s s' : SQLiteStore} {t : Timestamp} {taskId : String} {st : WorkflowState}

theorem stored_some : s.stored taskId = some st ↔ ∃ row, s.workflows.get taskId = some row ∧ row.stateJson = st := by
  simp [SQLiteStore.stored, SQLiteStore.getWorkflow]

theorem stored_congr (h : s'.workflows = s.workflows) : s'.stored taskId = s.stored taskId := by
  simp [SQLiteStore.stored, SQLiteStore.getWorkflow, h]

theorem save_written (hs : StoreOk Set.univ s) {v : Nat} {r : Except PyError WorkflowState}
    (ho : StoreObs det Set.univ (.saveWorkflow st v) s) (h : s.saveWorkflow t st v = (r, s')) :
    s'.stored taskId = s.stored taskId ∨
      taskId = st.taskId ∧ s'.stored taskId = some { st with version := st.version + 1, updatedAt := t } ∧
      Written det (s.stored taskId) { st with version := st.version + 1, updatedAt := t } := by
  rcases SQLiteStore.saveWorkflow_cases h with ⟨row, hr, hv, -, hw, -⟩ | ⟨-, rfl, -⟩
  · by_cases e : taskId = st.taskId
    · subst e
      have hc := ho row hr hv
      have hver : v = st.version := by rw [← hv, hs.version _ row hr, hc.same.2]
      subst hver
      refine .inr ⟨rfl, ?_, ?_⟩
      · exact stored_some.mpr ⟨_, (hw _).trans (if_pos rfl), rfl⟩
      · rw [stored_some.mpr ⟨row, hr, rfl⟩]
        exact .saved t hc
    · left
      simp [SQLiteStore.stored, SQLiteStore.getWorkflow, hw, e]
  · exact .inl rfl

theorem create_written {n : Nat} {r : Except PyError WorkflowState} (hf : Fresh st) (h : s.createWorkflow t st n = (r, s')) :
    s'.stored taskId = s.stored taskId ∨
      taskId = st.taskId ∧ s'.stored taskId = some st ∧ Written det (s.stored taskId) st := by
  rcases SQLiteStore.createWorkflow_cases h with ⟨-, -, rfl⟩ | ⟨hn, -, hw, -⟩
  · exact .inl rfl
  · by_cases e : st.taskId = taskId
    · subst e
      refine .inr ⟨rfl, stored_some.mpr ⟨_, (hw _).trans (if_pos rfl), rfl⟩, ?_⟩
      rw [show s.stored st.taskId = none by simp [SQLiteStore.stored, SQLiteStore.getWorkflow, hn]]
      exact .created hf
    · left
      simp [SQLiteStore.stored, SQLiteStore.getWorkflow, hw, e]

theorem replay_written (hs : StoreOk Set.univ s) {id n : Nat} {task actor reason : String} {r : Option WorkflowState}
    (h : s.replayDeadLetter t id task n actor reason = (r, s')) :
    s'.stored taskId = s.stored taskId ∨ taskId = task ∧ ∃ cp, s.stored taskId = some cp ∧
      s'.stored taskId = some { cp with status := .queued, lastError := none, version := cp.version + 1, updatedAt := t } := by
  rcases SQLiteStore.replayDeadLetter_cases h with ⟨-, rfl⟩ | ⟨q, w, state, -, -, -, hw, hst, -, hws, -⟩
  · exact .inl rfl
  · have hget := replay_workflow (hs.state _ _ hw).task hw hst hws
    by_cases e : taskId = task
    · subst e
      refine .inr ⟨rfl, w.stateJson, stored_some.mpr ⟨w, hw, rfl⟩, ?_⟩
      rw [← hs.version _ w hw, ← hst]
      exact stored_some.mpr ⟨_, (hget _).trans (if_pos rfl), rfl⟩
    · left
      simp [SQLiteStore.stored, SQLiteStore.getWorkflow, hget, e]

/-- A store call leaves a checkpoint alone or writes over it. -/
theorem apply_written (hs : StoreOk Set.univ s) (c : StoreCall) (ho : StoreObs det Set.univ c s)
    (hf : ∀ st n, c = .createWorkflow st n → Fresh st) :
    (c.apply s t).2.stored taskId = s.stored taskId ∨
      ∃ st, (c.apply s t).2.stored taskId = some st ∧ Written det (s.stored taskId) st := by
  cases c with
  | saveWorkflow st v =>
    rcases save_written hs ho (Eq.refl (s.saveWorkflow t st v)) with h | ⟨-, h, hw⟩
    · exact .inl h
    · exact .inr ⟨_, h, hw⟩
  | createWorkflow st n =>
    rcases create_written (hf st n rfl) (Eq.refl (s.createWorkflow t st n)) with h | ⟨-, h, hw⟩
    · exact .inl h
    · exact .inr ⟨_, h, hw⟩
  | replayDeadLetter id task n actor reason =>
    rcases replay_written hs (Eq.refl (s.replayDeadLetter t id task n actor reason)) with h | ⟨-, cp, hcp, h⟩
    · exact .inl h
    · refine .inr ⟨_, h, ?_⟩
      rw [hcp]
      exact .replayed t
  | _ => exact .inl (stored_congr (StoreCall.apply_workflows rfl s t))

/-! ## Runs -/

variable {rt : WorkflowRuntime} {config : Settings} {env : Env}

/-- A step leaves a checkpoint alone or writes over it. -/
theorem step_written {cfg cfg' : Cfg} (h : Reachable { rt with engine := anyEngine, backend := anyBackend } config env cfg)
    (hs : Step (system { rt with engine := anyEngine, backend := anyBackend } config env) cfg cfg') (taskId : String) :
    cfg'.state.store.stored taskId = cfg.state.store.stored taskId ∨
      ∃ st, cfg'.state.store.stored taskId = some st ∧ Written rt.loopDetector (cfg.state.store.stored taskId) st := by
  have hcover := reachable_cover lawful_univ h
  cases hs with
  | enter _ he => obtain ⟨op, -, -, rfl⟩ := he; exact .inl rfl
  | leave _ _ hl => obtain rfl := hl; exact .inl rfl
  | crash _ hx => obtain ⟨-, rfl⟩ := hx; exact .inl rfl
  | @call i c k r w' hp hx =>
    have ho := hcover.obs hp
    have hmay := conforms h hp
    obtain ⟨t, s', -, -, he, rfl⟩ := hx
    cases c with
    | store c =>
      obtain rfl := congrArg Prod.snd he
      refine apply_written hcover.1 c ho fun st n e => ?_
      subst e; exact hmay
    | clock | awaitHeartbeat => obtain ⟨-, rfl⟩ := he; exact .inl rfl
    | _ => obtain rfl := he; exact .inl rfl

/-- What creation establishes, and changes and replays keep, holds of every stored checkpoint. -/
theorem reachable_stored {P : WorkflowState → Prop} (hfresh : ∀ st, Fresh st → P st)
    (hsaved : ∀ cp st t, P cp → Change rt.loopDetector Set.univ cp st → P { st with version := st.version + 1, updatedAt := t })
    (hreplayed : ∀ cp t, P cp → P { cp with status := .queued, lastError := none, version := cp.version + 1, updatedAt := t })
    {cfg : Cfg} (h : Reachable { rt with engine := anyEngine, backend := anyBackend } config env cfg) {st : WorkflowState}
    (hst : cfg.state.store.stored taskId = some st) : P st := by
  induction h generalizing st with
  | init => cases hst
  | @step cfg cfg' hr hs ih =>
    rcases step_written hr hs taskId with he | ⟨st', hst', hw⟩
    · exact ih (he ▸ hst)
    · rw [hst'] at hst
      cases hst
      generalize ho : cfg.state.store.stored taskId = old at hw
      cases hw with
      | created hf => exact hfresh _ hf
      | saved t hc => exact hsaved _ _ t (ih ho) hc
      | replayed t => exact hreplayed _ t (ih ho)

/-! ## What threads have seen -/

/-- The checkpoint a thread has seen after a call: what the call answered, or what it had seen before. -/
theorem after_seen {q : Stage} {c : Call} {r : Except PyError c.Ret} {cp : WorkflowState} (h : (q.after c r).seen = some cp) :
    q.seen = some cp ∨ (∃ taskId, c = .store (.getWorkflow taskId) ∧ HEq r (Except.ok (some cp) : Except PyError (Option WorkflowState))) ∨
      ∃ st v, c = .store (.saveWorkflow st v) ∧ HEq r (Except.ok cp : Except PyError WorkflowState) := by
  unfold Stage.after at h
  split at h
  · cases h
  · cases h; exact .inr (.inl ⟨_, rfl, HEq.rfl⟩)
  · cases h; exact .inr (.inr ⟨_, _, rfl, HEq.rfl⟩)
  · exact .inl h
  · exact .inl h
  · cases h
  all_goals exact .inl h

/-- What a thread has seen is a copy of what is stored. -/
theorem reachable_copy {cfg : Cfg} (h : Reachable { rt with engine := anyEngine, backend := anyBackend } config env cfg) :
    ∀ i cp, (stage i cfg.state.journal).seen = some cp → Copy cp cfg.state.store := by
  refine reachable_world (P := fun w => ∀ i cp, (stage i w.journal).seen = some cp → Copy cp w.store)
    (fun _ _ h => ?_) (fun w e ih he i cp hs => ?_) (fun cfg j c k r w' hr ih hp hx i cp hs => ?_) h
  · cases h
  · rcases stage_bound he i w.journal with hb | hb <;> rw [hb] at hs
    · cases hs
    · exact ih i cp hs
  · have hok := reachable_storeOk lawful_univ hr
    have hlater := calls_later hok hx
    by_cases e : j = i
    · subst e
      rw [(stage_call hx).1] at hs
      obtain ⟨t, s', -, -, he, rfl⟩ := hx
      rcases after_seen hs with hs | ⟨taskId, rfl, hr⟩ | ⟨st, v, rfl, hr⟩
      · exact (ih _ cp hs).later hlater
      · cases hr
        obtain ⟨e, rfl⟩ := Prod.mk.inj he
        obtain ⟨row, hrow, rfl⟩ := SQLiteStore.getWorkflow_some (Except.ok.inj e)
        exact ⟨row, by rw [(hok.state _ row hrow).task]; exact hrow, (hok.version _ row hrow).ge, fun _ => rfl⟩
      · cases hr
        rcases SQLiteStore.saveWorkflow_cases he with ⟨-, -, -, e, hw, -⟩ | ⟨⟨m, hm⟩, -⟩
        · cases e
          exact ⟨_, (hw _).trans (if_pos rfl), Nat.le_refl _, fun _ => rfl⟩
        · cases hm
    · rw [(stage_call hx).2 i (Ne.symm e)] at hs
      exact (ih i cp hs).later hlater

end AgentResilience
