/-
  AgentResilience.Standing — the store between operations that nobody died in, and what a
  worker's run makes of one task's delivery: the run hands it out, or leaves it as the sweep
  does (`Served.row`).
-/
import AgentResilience.Termination

namespace AgentResilience

open Interaction

variable {rt : WorkflowRuntime} {config : Settings} {env : Env} {w w' : World}

/-- The store between operations that nobody died in. -/
structure Standing (s : SQLiteStore) : Prop where
  level : Level s
  rest : Rest (· ≠ none) none s

theorem Standing.operation (he : rt.engine = anyEngine) (hb : rt.backend = anyBackend) (h : Standing w.store) {op : Operation}
    {o : Except PyError Reply} (hr : Runs (calls env 0) (op.program rt config) w o w') : Standing w'.store := by
  refine ⟨wp_sound (operation_level he hb op h.level) hr, ?_⟩
  by_cases hop : ∃ workerId, op = .runOnce workerId
  · obtain ⟨workerId, rfl⟩ := hop
    exact wpc_runs (worker_rest he hb (fun w c r _ => asks_any w.store c r) h.rest workerId) hr
  · exact wp_sound (operation_rest h.rest fun workerId e => hop ⟨workerId, e⟩) hr

theorem Sequence.standing (he : rt.engine = anyEngine) (hb : rt.backend = anyBackend) (hdies : ∀ w, ¬ env.dies 0 w)
    (h : Sequence rt config env w) : Standing w.store :=
  ⟨sequence_level he hb hdies h, sequence_rest he hb (fun w c r _ => asks_any w.store c r) (fun w hd => absurd hd (hdies w)) h⟩

/-- What the environment lets an engine answer. -/
theorem anyEngine_spec : EngineSpec env anyEngine (fun st r => ∃ w st', st'.content = st ∧ env.allows 0 w (.decide st') r)
    (fun r => ∃ w, env.allows 0 w .takeUsage r) where
  decide h := wp_perform.mpr fun r _ hs => by
    have h' := h.steady rfl hs
    obtain ⟨_, _, -, hal, -⟩ := hs
    exact ⟨⟨_, _, rfl, hal⟩, h'⟩
  usage h := wp_perform.mpr fun r _ hs => by
    have h' := h.steady rfl hs
    obtain ⟨_, _, -, hal, -⟩ := hs
    exact ⟨⟨_, hal⟩, h'⟩

/-- A worker's run, where nobody died. -/
theorem Standing.served (hb : rt.backend = anyBackend) {D : WorkflowState → Except PyError AgentDecision → Prop}
    {U : Except PyError (Nat × Nat) → Prop} (hans : EngineSpec env rt.engine D U) (h : Standing w.store) {workerId : String}
    {o : Except PyError Reply} (hr : Runs (calls env 0) ((Operation.runOnce workerId).program rt config) w o w') :
    Served rt config env D U workerId w w' :=
  wp_sound (wp_reply (runOnce_served hans hb h.level.filed fun _ _ _ _ hclaim => h.rest.hands hclaim)) hr

open Prog (makes_bind makes_perform) in
/-- What follows a failed delivery. -/
theorem onFailure_makes {φ : Call → Prop} (hφ : ∀ c : StoreCall, (∀ workerId n, c ≠ .claim workerId n) → φ (.store c))
    (d : QueueDelivery) (e : PyError) :
    (if e.isRetryable then onRetryable config d e else if e.isPermanent then onPermanent d e else Prog.throw e).Makes φ := by
  split
  · refine makes_bind (makes_perform (hφ _ (by simp))) fun dead => ?_
    split
    · refine makes_bind (makes_perform (hφ _ (by simp))) fun found => ?_
      split
      · trivial
      · split
        · trivial
        · exact makes_bind (makes_perform (hφ _ (by simp))) fun _ => makes_perform (hφ _ (by simp))
    · trivial
  · split
    · refine makes_bind (makes_perform (hφ _ (by simp))) fun _ => makes_bind (makes_perform (hφ _ (by simp))) fun found => ?_
      split
      · trivial
      · split
        · trivial
        · exact makes_bind (makes_perform (hφ _ (by simp))) fun _ => makes_perform (hφ _ (by simp))
    · trivial

/-- A settlement leaves the other deliveries alone. -/
theorem Settlement.keeps {d : QueueDelivery} {s s₂ : SQLiteStore} {t t₂ : Timestamp} {o : Except PyError WorkflowState}
    {st st' : WorkflowState} (h : Settlement config env d s t o st st' s₂ t₂) {id : Nat} {row : QueueRow}
    (hr : s.queue.get id = some row) (hne : id ≠ d.id) : s₂.queue.get id = some row := by
  have hack : ∀ t, (s.acknowledge t d.id).queue.get id = some row := by
    intro t
    rw [SQLiteStore.acknowledge_get, hr, Option.map_some, if_neg hne]
  have hretry : ∀ {e : PyError} {delay : ℚ} {t}, backoff config.queueRetryBaseSeconds (d.attempts - 1) = .ok delay →
      (s.retryOrDeadLetter t d e.message config.queueRetryBaseSeconds).2.queue.get id = some row := by
    intro e delay t hdelay
    rw [retried_get hdelay, hr, Option.map_some, if_neg hne]
  cases h with
  | acknowledged | failed => exact hack _
  | @requeued _ _ t₁ =>
    rw [SQLiteStore.insertQueue_get, if_neg]
    · exact hack _
    · intro e
      have hfresh : (s.acknowledge t₁ d.id).queue.get (s.acknowledge t₁ d.id).nextQueueId = none := SQLiteStore.nextQueueId_fresh
      rw [← e, hack] at hfresh
      cases hfresh
  | overflowed | raised => exact hr
  | returned _ _ hdelay | buried _ _ hdelay => exact hretry hdelay

/-- What the sweep leaves of a row. -/
theorem swept_keeps (t : Timestamp) (x : QueueRow) : (SQLiteStore.swept t x).id = x.id ∧ (SQLiteStore.swept t x).taskId = x.taskId ∧
    (SQLiteStore.swept t x).maxAttempts = x.maxAttempts ∧ (SQLiteStore.swept t x).attempts = x.attempts ∧
    (SQLiteStore.swept t x).availableAt = x.availableAt ∧ (SQLiteStore.swept t x).payload = x.payload := by
  unfold SQLiteStore.swept
  split <;> exact ⟨rfl, rfl, rfl, rfl, rfl, rfl⟩

theorem swept_live {t : Timestamp} {x : QueueRow} (h : (SQLiteStore.swept t x).status ≠ .completed) : x.status ≠ .completed := by
  intro e
  apply h
  simp [SQLiteStore.swept_status, SQLiteStore.isExpired, e]

/-- How a claim touches a task's row: it hands it out, or leaves it as the sweep does. -/
theorem Served.row {workerId : String} {D : WorkflowState → Except PyError AgentDecision → Prop} {U : Except PyError (Nat × Nat) → Prop}
    (hs : Served rt config env D U workerId w w') (h : Standing w.store) {id : Nat} {x : QueueRow} (hx : w.store.queue.get id = some x)
    (hlive : x.status ≠ .completed) :
    (claims x.taskId w'.memory = claims x.taskId w.memory ∧ w'.store.stored x.taskId = w.store.stored x.taskId ∧ w.now ≤ w'.now ∧
      ∃ t, w'.store.queue.get id = some (SQLiteStore.swept t x)) ∨
    ∃ t cp s, w.now ≤ t ∧ x.availableAt ≤ t ∧ (SQLiteStore.swept t x).status = .pending ∧ w.store.stored x.taskId = some cp ∧
      s.queue.get id = some { SQLiteStore.swept t x with status := .processing, attempts := x.attempts + 1, workerId := some workerId,
                                                         leaseUntil := some (t + seconds config.queueLeaseSeconds), updatedAt := t } ∧
      claims x.taskId w'.memory = claims x.taskId w.memory + 1 ∧
      Delivered rt config env D U ⟨id, x.taskId, x.attempts + 1, x.maxAttempts, x.payload⟩ ⟨s, t, []⟩ cp
        (w.memory.takes ⟨id, x.taskId, x.attempts + 1, x.maxAttempts, x.payload⟩) w' := by
  obtain ⟨t, ht, -, ⟨s, hclaim, hq, hf, hst, hm, hnow⟩ | ⟨d, s, cp, hclaim, hcp, hd⟩⟩ := hs
  · rcases SQLiteStore.claim_cases hclaim with ⟨-, rfl⟩ | ⟨row, -, -, -, hsome, -⟩
    · refine .inl ⟨by rw [hm], hst _, ht.trans hnow, t, ?_⟩
      rw [hq, SQLiteStore.sweep_get, hx]
      rfl
    · cases hsome
  rcases SQLiteStore.claim_cases hclaim with ⟨hnone, -⟩ | ⟨row, hrow, hpend, hav, hsome, hget, -⟩
  · cases hnone
  cases hsome
  rw [SQLiteStore.sweep_get] at hrow
  obtain ⟨y, hy, hyrow⟩ := Option.map_eq_some_iff.mp hrow
  have hkeeps := swept_keeps t y
  rw [hyrow] at hkeeps
  obtain ⟨hid, htask, hmax, hatt, hyav, hpay⟩ := hkeeps
  have hd' := hd
  obtain ⟨o, st, m', cp', s₂, t₂, hturn, hsettled, hserving⟩ := hd'
  have hclaims : claims x.taskId w'.memory = claims x.taskId w.memory + if row.taskId = x.taskId then 1 else 0 := by
    rw [hserving.memory, ← claims_takes x.taskId w.memory ⟨row.id, row.taskId, row.attempts + 1, row.maxAttempts, row.payload⟩]
    unfold claims
    rw [hturn.claimed]
  have hlater := hsettled.later
  by_cases e : row.id = id
  · rw [e, hx] at hy
    cases hy
    rw [htask] at hcp hclaims
    rw [if_pos rfl] at hclaims
    refine .inr ⟨t, cp, s, ht, hyav ▸ hav, by rw [hyrow]; exact hpend, hcp, ?_, hclaims, ?_⟩
    · rw [hget, if_pos e.symm, hyrow, hatt]
    · rw [e, htask, hmax, hatt, hpay] at hd
      exact hd
  · have hne : row.taskId ≠ x.taskId := by
      intro ht
      have hylive : y.status ≠ .completed := swept_live (by rw [hyrow, hpend]; decide)
      exact e (h.rest.one _ _ _ _ hy hx (htask.symm.trans ht) hylive hlive)
    rw [if_neg hne] at hclaims
    refine .inl ⟨hclaims, ?_, ht.trans (hlater.1.trans hserving.now), t, ?_⟩
    · exact (hserving.others _ (Ne.symm hne)).trans ((hlater.2 _).trans (claim_stored hclaim _))
    · rw [hserving.queue]
      refine hsettled.keeps ?_ (Ne.symm e)
      show s.queue.get id = _
      rw [hget, if_neg (Ne.symm e), SQLiteStore.sweep_get, hx]
      rfl

end AgentResilience
