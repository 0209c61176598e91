/-
  AgentResilience.ControlPlane — the operators' operations, from rest to rest, and with
  them any sequence of operations.

  - `approve_rest`, `reject_rest`: they succeed on a workflow that waits for a pending
    approval (`Gated`).
  - `sequence_rest`: the store is at rest after every sequence of operations in which no
    worker dies at a stranding boundary.
-/
import AgentResilience.Stranding

namespace AgentResilience

open Interaction
open Interaction.Prog (attempt makes_bind makes_perform)

variable {ok : Option ApprovalStatus → Prop} {env : Env} {w w' : World} {config : Settings} {rt : WorkflowRuntime}

/-! ## Approvals -/

/-- The checkpoint waits for an approval that is still pending. -/
def Gated (taskId : String) (s : SQLiteStore) : Prop :=
  ∃ row p, s.workflows.get taskId = some row ∧ row.stateJson.status = .waitingForApproval ∧
    row.stateJson.pendingAction = some p ∧ s.approvalStatus taskId p.actionId = some .pending

theorem Gated.read {taskId : String} (h : Gated taskId w.store) (hs : Same w w') {row : WorkflowRow}
    (hr : w'.store.workflows.get taskId = some row) :
    ∃ p, row.stateJson.status = .waitingForApproval ∧ row.stateJson.pendingAction = some p ∧
      w'.store.approvalStatus taskId p.actionId = some .pending := by
  obtain ⟨row', p, hr', hst, hp, ha⟩ := h
  rw [← hs.workflows, hr] at hr'
  cases hr'
  exact ⟨p, hst, hp, by unfold SQLiteStore.approvalStatus at ha ⊢; rw [hs.approvals]; exact ha⟩

theorem record_wp {taskId : String} {e : EventType} {payload : Json} {Q : Except PyError Unit → World → Prop}
    (h : ∀ w', Same w w' → Q (.ok ()) w') : wp (calls env 0) (record taskId e payload) Q w := by
  refine wp_perform.mpr fun r w' hs => ?_
  have hsame := calls_same rfl hs
  obtain ⟨t, s', -, -, he, rfl⟩ := hs
  obtain rfl := congrArg Prod.fst he
  exact h _ hsame

/-- An approval resolved and its checkpoint saved. -/
theorem resolve_rest (h : Rest ok none w.store) {taskId actor : String} {b : Bool} {reason : Option String}
    {row : WorkflowRow} {p : PendingAction} (hr : w.store.workflows.get taskId = some row)
    (hst : row.stateJson.status = .waitingForApproval) {st : WorkflowState} (hc : Change {} Set.univ row.stateJson st)
    (hst' : st.status ≠ .waitingForApproval) (hp : ∀ q, st.pendingAction = some q → q = p ∧ b = true)
    {lack : Option String} (hl : lack = some taskId ∨ lack = none ∧ st.status.active = false)
    {f : WorkflowState → Py WorkflowState} {Q : Except PyError WorkflowState → World → Prop}
    (hok : ∀ t w', Rest ok lack w'.store → w'.store.workflows.get taskId ≠ none → wp (calls env 0) (f (st.saved t)) Q w')
    (herr : w.store.approvalStatus taskId p.actionId ≠ some .pending → ∀ e w', Same w w' → Q (.error e) w') :
    wp (calls env 0) ((onStore (.resolveApproval taskId p.actionId b actor reason)).bind fun _ => (save st).bind f) Q w := by
  refine wp_bind.mpr (wp_perform.mpr fun r w₁ hs => ?_)
  obtain ⟨t, s₁, -, -, he, rfl⟩ := hs
  rcases SQLiteStore.resolveApproval_cases he with ⟨arow, ha, hpend, rfl, hget, hw, hq, -⟩ | ⟨⟨m, rfl⟩, rfl, hne⟩
  · have hi := resolveApproval_storeOk h.store he
    refine wp_bind.mpr (wp_perform.mpr fun r w₂ hs => ?_)
    obtain ⟨t₂, s₂, rfl, rfl, hi₂, hq₂, ha₂, row₂, hrow₂, hw₂⟩ := save_found hi (hw ▸ hr) hc hs
    have hstatus : ∀ t x, s₂.approvalStatus t x = s₁.approvalStatus t x := fun t x => by
      unfold SQLiteStore.approvalStatus; rw [ha₂]
    have hrest : Rest ok lack s₂ := by
      rw [hw] at hw₂
      refine h.save hi₂ hw₂ (hq₂.trans hq) (fun t x e => ?_) (fun t e => ?_)
        (fun _ e => by cases e) (fun e hact => ?_) (fun e => ?_) (fun q _ e => ?_) (fun _ id q hr' ht hd => ?_)
      · rw [hstatus]
        unfold SQLiteStore.approvalStatus
        rw [hget, if_neg (fun hc => e (Prod.mk.inj hc).1)]
      · rcases hl with rfl | ⟨rfl, -⟩
        · exact (Option.some.inj e).symm
        · cases e
      · rcases hl with rfl | ⟨-, hn⟩
        · cases e
        · rw [hrow₂] at hact; exact absurd (hn.symm.trans hact) (by simp)
      · rw [hrow₂] at e; exact absurd e hst'
      · rw [hrow₂] at e
        obtain ⟨rfl, rfl⟩ := hp q e
        rw [hstatus]
        unfold SQLiteStore.approvalStatus
        rw [hget, if_pos rfl]; rfl
      · exact h.dead id q row hr' hd (ht ▸ hr) hst
    exact hok t₂ _ hrest (by show s₂.workflows.get taskId ≠ none; rw [hw₂, if_pos rfl]; simp)
  · refine herr (fun hx => ?_) _ _ ⟨rfl, rfl, rfl⟩
    obtain ⟨arow, ha, hp⟩ := SQLiteStore.approvalStatus_some hx
    exact hne arow ha hp

/-- The operator's workflow is read first. -/
theorem required_wp {taskId : String} {f : WorkflowState → Py WorkflowState}
    {Q : Except PyError WorkflowState → World → Prop}
    (hok : ∀ row w', Same w w' → w'.store.workflows.get taskId = some row → wp (calls env 0) (f row.stateJson) Q w')
    (herr : w.store.workflows.get taskId = none → ∀ e w', Same w w' → Q (.error e) w') :
    wp (calls env 0) ((required taskId).bind f) Q w := by
  refine wp_bind.mpr (wp_bind.mpr (wp_perform.mpr fun r w₁ hs => ?_))
  have hsame := calls_same rfl hs
  obtain ⟨t, s', -, -, he, rfl⟩ := hs
  obtain ⟨rfl, rfl⟩ := Prod.mk.inj he
  cases hg : w.store.workflows.get taskId with
  | none =>
    have : w.store.getWorkflow taskId = none := by simp [SQLiteStore.getWorkflow, hg]
    rw [this] at hsame ⊢
    exact herr hg _ _ hsame
  | some row =>
    have : w.store.getWorkflow taskId = some row.stateJson := by simp [SQLiteStore.getWorkflow, hg]
    rw [this] at hsame ⊢
    exact hok row _ hsame hg

theorem approve_rest (h : Rest ok none w.store) (taskId actor : String) (reason : Option String) :
    wp (calls env 0) (approve config taskId actor reason)
      (fun o w' => Rest ok none w'.store ∧ (Gated taskId w.store → ∃ st, o = .ok st)) w := by
  refine required_wp (fun row w₁ hs hr => ?_) fun hn e w₁ hs => ?_
  · have h₁ := h.congr hs.workflows hs.queue hs.approvals
    split
    · rename_i pending hst hp
      refine resolve_rest h₁ hr hst (.approved pending hst hp) (by simp) (fun q e => ?_) (.inl rfl)
        (fun t w₂ h₂ hknown => ?_) fun hne e w₂ hs₂ => ?_
      · exact ⟨(Option.some.inj (hp.symm.trans e)).symm, rfl⟩
      · refine wp_bind.mpr (record_wp fun w₃ hs₃ => wp_bind.mpr (wp_perform.mpr fun r w₄ hs₄ => ?_))
        have h₃ := h₂.congr hs₃.workflows hs₃.queue hs₃.approvals
        obtain ⟨t₄, s₄, -, -, he, rfl⟩ := hs₄
        obtain ⟨hrest, id, rfl⟩ := h₃.enqueue (by rw [hs₃.workflows]; exact hknown) he
        exact ⟨hrest, fun _ => ⟨_, rfl⟩⟩
      · refine ⟨h₁.congr hs₂.workflows hs₂.queue hs₂.approvals, fun hg => ?_⟩
        obtain ⟨p, -, hp', ha⟩ := hg.read hs hr
        rw [hp] at hp'; cases hp'
        exact absurd ha hne
    · rename_i hno
      refine ⟨h₁, fun hg => ?_⟩
      obtain ⟨p, hst, hp, -⟩ := hg.read hs hr
      exact absurd hp (hno p hst)
  · exact ⟨h.congr hs.workflows hs.queue hs.approvals, fun ⟨row, p, hr, _⟩ => by rw [hn] at hr; cases hr⟩

theorem reject_rest (h : Rest ok none w.store) (taskId actor : String) (reason : Option String) :
    wp (calls env 0) (reject taskId actor reason)
      (fun o w' => Rest ok none w'.store ∧ (Gated taskId w.store → ∃ st, o = .ok st)) w := by
  refine required_wp (fun row w₁ hs hr => ?_) fun hn e w₁ hs => ?_
  · have h₁ := h.congr hs.workflows hs.queue hs.approvals
    split
    · rename_i pending hst hp
      refine resolve_rest h₁ hr hst (.rejected pending _ hst hp) (by simp) (fun q e => by cases e) (.inr ⟨rfl, rfl⟩)
        (fun t w₂ h₂ hknown => ?_) fun hne e w₂ hs₂ => ?_
      · refine wp_bind.mpr (record_wp fun w₃ hs₃ => ?_)
        exact ⟨h₂.congr hs₃.workflows hs₃.queue hs₃.approvals, fun _ => ⟨_, rfl⟩⟩
      · refine ⟨h₁.congr hs₂.workflows hs₂.queue hs₂.approvals, fun hg => ?_⟩
        obtain ⟨p, -, hp', ha⟩ := hg.read hs hr
        rw [hp] at hp'; cases hp'
        exact absurd ha hne
    · rename_i hno
      refine ⟨h₁, fun hg => ?_⟩
      obtain ⟨p, hst, hp, -⟩ := hg.read hs hr
      exact absurd hp (hno p hst)
  · exact ⟨h.congr hs.workflows hs.queue hs.approvals, fun ⟨row, p, hr, _⟩ => by rw [hn] at hr; cases hr⟩

/-! ## The other operations -/

theorem createIncident_rest (h : Rest ok none w.store) (taskId goal scenarioId : String) :
    wp (calls env 0) (createIncident config taskId goal scenarioId) (fun _ w' => Rest ok none w'.store) w := by
  refine wp_bind.mpr (wp_perform.mpr fun r w₁ hs => ?_)
  obtain ⟨t, s', -, -, ⟨rfl, rfl⟩, rfl⟩ := hs
  refine wp_perform.mpr fun r w₂ hs => ?_
  obtain ⟨t₂, s₂, -, -, he, rfl⟩ := hs
  have hok := create_storeOk h.store he rfl
  rcases SQLiteStore.createWorkflow_cases he with ⟨-, -, rfl⟩ | ⟨hn, -, hw, hq, ha, -⟩
  · exact h
  · have hnone : ∀ id row, w.store.queue.get id = some row → row.taskId ≠ taskId := by
      rintro id row hr rfl
      exact h.known id row hr hn
    obtain ⟨state, hst, hp, hstate⟩ : ∃ state : WorkflowState, state.status = .queued ∧ state.pendingAction = none ∧
        ∀ t', s₂.workflows.get t' = if t' = taskId then some ⟨taskId, state, state.version, t₂⟩ else w.store.workflows.get t' := by
      refine ⟨{ taskId, goal, scenarioId, createdAt := t, updatedAt := t }, rfl, rfl, fun t' => ?_⟩
      rw [hw]
      by_cases e : t' = taskId
      · subst e; rw [if_pos rfl]
      · rw [if_neg e, if_neg (Ne.symm e)]
    have hmid : Rest ok (some taskId) { w.store with workflows := s₂.workflows } := by
      refine h.save (hok.of_eq rfl ha.symm) hstate rfl (fun _ _ _ => rfl) (fun t e => (Option.some.inj e).symm)
        (fun _ e => by cases e) (fun e => by cases e) (fun e => ?_) (fun p _ e => ?_)
        fun _ id row hr ht => absurd ht (hnone id row hr)
      · rw [hst] at e; cases e
      · rw [hp] at e; cases e
    refine hmid.insert rfl ha hq ?_ fun id row hr ht => absurd ht (hnone id row hr)
    show s₂.workflows.get taskId ≠ none
    rw [hstate, if_pos rfl]; simp

theorem replayDeadLetter_rest {s s' : SQLiteStore} (h : Rest ok none s) {now : Timestamp} {deliveryId n : Nat}
    {taskId actor reason : String} {r : Option WorkflowState}
    (he : s.replayDeadLetter now deliveryId taskId n actor reason = (r, s')) : Rest ok none s' := by
  have hok := replay_storeOk h.store he
  rcases SQLiteStore.replayDeadLetter_cases he with ⟨-, rfl⟩ | ⟨q, row, state, hq, ht, hd, hr, hst, -, hw, hqueue, ha, -⟩
  · exact h
  · have hold := h.dead deliveryId q row hq hd (ht ▸ hr)
    have hmid : Rest ok none { s with workflows := s'.workflows } := by
      refine h.save (hok.of_eq rfl ha.symm) (replay_workflow (h.store.state _ _ hr).task hr hst hw) rfl (fun _ _ _ => rfl)
        (fun _ e => by cases e) (fun _ e => by cases e) (fun _ _ => ⟨deliveryId, q, hq, ht, by rw [hd]; decide⟩)
        (fun e => ?_) (fun p _ e => ?_) fun e => ?_
      · simp only [hst] at e; cases e
      · simp only [hst] at e
        exact h.approved taskId row p hr hold e
      · simp only [hst] at e
        rcases e with e | e <;> cases e
    refine hmid.rows rfl ha hqueue fun id x hx => ?_
    split
    · rename_i e
      exact ⟨rfl, by simp [e.2], by simp⟩
    · exact ⟨rfl, Iff.rfl, .inl⟩

theorem replay_rest (h : Rest ok none w.store) (deliveryId : Nat) (taskId actor reason : String) :
    wp (calls env 0) (replay config deliveryId taskId actor reason) (fun _ w' => Rest ok none w'.store) w := by
  refine wp_bind.mpr (wp_perform.mpr fun r w₁ hs => ?_)
  obtain ⟨t, s', -, -, he, rfl⟩ := hs
  have hrest : Rest ok none s' := by
    obtain rfl := congrArg Prod.snd he
    exact replayDeadLetter_rest h rfl
  match r with
  | .error _ | .ok none | .ok (some _) => exact hrest

theorem heartbeatTick_rest (h : Rest ok none w.store) (workerId : String) (delivery : QueueDelivery) :
    wp (calls env 0) (heartbeatTick config workerId delivery) (fun _ w' => Rest ok none w'.store) w := by
  refine wp_bind.mpr (wp_perform.mpr fun r w₁ hs => ?_)
  obtain ⟨t, s', -, -, he, rfl⟩ := hs
  obtain ⟨rfl, rfl⟩ := Prod.mk.inj he
  have h₁ : Rest ok none (w.store.extendLease t delivery config.queueLeaseSeconds) := by
    refine h.rows rfl rfl (SQLiteStore.extendLease_get delivery _) fun id x _ => ?_
    split <;> exact ⟨rfl, Iff.rfl, .inl⟩
  exact record_wp fun w₂ hs => h₁.congr hs.workflows hs.queue hs.approvals

/-! ## Sequences -/

theorem wp_reply {α : Type} {p : Py α} {f : α → Reply} {R : World → Prop} (h : wp (calls env 0) p (fun _ w' => R w') w) :
    wp (calls env 0) (p.bind fun a => .ret (f a)) (fun _ w' => R w') w := by
  refine wp_bind.mpr (wp_mono h fun o w' hr => ?_)
  cases o <;> exact hr

/-- Every operation but a worker's run. -/
theorem operation_rest (h : Rest ok none w.store) {op : Operation} (hop : ∀ workerId, op ≠ .runOnce workerId) :
    wp (calls env 0) (op.program rt config) (fun _ w' => Rest ok none w'.store) w := by
  cases op with
  | runOnce workerId => exact absurd rfl (hop workerId)
  | heartbeatTick workerId delivery => exact wp_reply (heartbeatTick_rest h workerId delivery)
  | createIncident taskId goal scenarioId => exact wp_reply (createIncident_rest h taskId goal scenarioId)
  | approve taskId actor reason => exact wp_reply (wp_mono (approve_rest h taskId actor reason) fun _ _ hq => hq.1)
  | reject taskId actor reason => exact wp_reply (wp_mono (reject_rest h taskId actor reason) fun _ _ hq => hq.1)
  | replay deliveryId taskId actor reason => exact wp_reply (replay_rest h deliveryId taskId actor reason)

theorem worker_rest (he : rt.engine = anyEngine) (hb : rt.backend = anyBackend)
    (hal : ∀ w c r, env.allows 0 w c r → Asks ok w.store c r) (h : Rest ok none w.store) (workerId : String) :
    wpc (calls env 0) (AtRest ok) ((Operation.runOnce workerId).program rt config) (fun _ w' => Rest ok none w'.store) w := by
  refine wpc_bind (wpc_mono (runOnce_rest he hb hal h workerId) fun o w' hK hr => ?_)
  cases o with
  | ok b => exact ⟨hK, hr⟩
  | error e => exact hr

theorem rest_init : Rest ok none World.init.store :=
  ⟨storeOk_init, fun _ _ h => (by cases h), fun _ _ _ h => (by cases h), fun _ _ _ _ h => (by cases h),
    fun _ _ h => (by cases h), fun _ _ _ h => (by cases h), fun _ _ _ h => (by cases h), fun _ _ _ h => (by cases h)⟩

/-- The store is at rest after every sequence of operations in which no worker dies at a stranding boundary. -/
theorem sequence_rest (he : rt.engine = anyEngine) (hb : rt.backend = anyBackend)
    (hal : ∀ w c r, env.allows 0 w c r → Asks ok w.store c r) (hdies : ∀ w, env.dies 0 w → ¬ Stranding w)
    (h : Sequence rt config env w) : Rest ok none w.store := by
  induction h with
  | init => exact rest_init
  | @ran w w' op o _ _ hr ih =>
    have hstart : Rest ok none (w.note (.began 0 op)).store := ih
    show Rest ok none w'.store
    by_cases hop : ∃ workerId, op = .runOnce workerId
    · obtain ⟨workerId, rfl⟩ := hop
      exact wpc_runs (worker_rest he hb hal hstart workerId) hr
    · exact wp_sound (operation_rest hstart fun workerId e => hop ⟨workerId, e⟩) hr
  | @died w w' workerId _ _ hp hd ih =>
    have hstart : Rest ok none (w.note (.began 0 (.runOnce workerId))).store := ih
    show Rest ok none w'.store
    exact (wpc_crash (worker_rest he hb hal hstart workerId) hp).resolve_right (hdies w' hd)

end AgentResilience
