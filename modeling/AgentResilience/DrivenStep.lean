/-
  AgentResilience.DrivenStep — one call and the whole invariant. A row of the queue never
  goes, never changes its task, and is processing only if it was or is claimed
  (`effect_row`); so what a worker holds stays in the queue, and a workflow that is stuck
  stays stuck, for its worker makes no call (`Stuck.kept`).

  - `driven_calls`: every call a program makes as `DrivenObs` asks keeps `DrivenInv`.
-/
import AgentResilience.DrivenCalls

namespace AgentResilience

open Interaction

variable {det : LoopDetector} {w : World} {i : ThreadId} {s' : SQLiteStore} {t : Timestamp}

/-! ## Rows -/

/-- What a store call makes of row `id`: it keeps its task, and is processing only if it was
    or is claimed; a new row is of a workflow that is there. -/
def RowStep (s s' : SQLiteStore) (claimed : Bool) (id : Nat) : Prop :=
  (∃ row row', s.queue.get id = some row ∧ s'.queue.get id = some row' ∧ row'.taskId = row.taskId ∧
    (row'.status = .processing → row.status = .processing ∨ claimed = true)) ∨
  s.queue.get id = none ∧ ∀ row', s'.queue.get id = some row' → s'.workflows.get row'.taskId ≠ none

theorem RowStep.map {s : SQLiteStore} {id : Nat} {b : Bool} {g : QueueRow → QueueRow}
    (h : s'.queue.get id = (s.queue.get id).map g)
    (hg : ∀ r, (g r).taskId = r.taskId ∧ ((g r).status = .processing → r.status = .processing)) : RowStep s s' b id := by
  cases hr : s.queue.get id with
  | none =>
    refine .inr ⟨hr, fun row' hr' => ?_⟩
    rw [h, hr] at hr'; cases hr'
  | some row => exact .inl ⟨row, g row, hr, by rw [h, hr]; rfl, (hg row).1, fun hp => .inl ((hg row).2 hp)⟩

theorem RowStep.same {s : SQLiteStore} (h : s'.queue = s.queue) (b : Bool) (id : Nat) : RowStep s s' b id :=
  .map (g := fun r => r) (by rw [h, Option.map_id']) fun _ => ⟨rfl, fun h => h⟩

theorem RowStep.inserted {s : SQLiteStore} {taskId : String} {n : Nat}
    (h : s'.queue = (s.insertQueue t taskId n).queue) (hw : s'.workflows.get taskId ≠ none) (b : Bool) (id : Nat) :
    RowStep s s' b id := by
  by_cases e : id = s.nextQueueId
  · subst e
    refine .inr ⟨SQLiteStore.nextQueueId_fresh, fun row' hr' => ?_⟩
    rw [h, SQLiteStore.insertQueue_get, if_pos rfl] at hr'
    cases hr'; exact hw
  · refine .map (g := fun r => r) ?_ fun _ => ⟨rfl, fun h => h⟩
    rw [h, SQLiteStore.insertQueue_get, if_neg e, Option.map_id']

theorem apply_row {s : SQLiteStore} {c : StoreCall} {r : Except PyError c.Ret} (h : c.apply s t = (r, s')) (id : Nat) :
    RowStep s s' (((Call.store c).claimed r).any fun d => d.id = id) id := by
  have hq := fun hc : c.writesQueue = false => (congrArg (fun x => x.2.queue) h).symm.trans (StoreCall.apply_queue hc s t)
  cases c with
  | createWorkflow st n =>
    rcases SQLiteStore.createWorkflow_cases h with ⟨-, -, rfl⟩ | ⟨-, -, hw, hqueue, -⟩
    · exact .same rfl _ _
    · exact .inserted hqueue (by rw [hw]; simp) _ _
  | enqueue taskId n =>
    rcases SQLiteStore.enqueue_cases h with ⟨row, -, -, -, -, -, rfl⟩ | ⟨-, hw, -, rfl⟩ | ⟨-, -, rfl⟩
    · exact .same rfl _ _
    · exact .inserted rfl hw _ _
    · exact .same rfl _ _
  | claim workerId leaseSeconds =>
    obtain ⟨rfl, rfl⟩ := Prod.mk.inj h
    have hclaim : s.claim t workerId leaseSeconds = ((s.claim t workerId leaseSeconds).1, (s.claim t workerId leaseSeconds).2) := rfl
    rcases SQLiteStore.claim_row hclaim id with
      ⟨hn, ho⟩ | ⟨row, row', hr, hr', ht, hst, -⟩
    · exact .inr ⟨ho, fun row' hr' => by rw [hn] at hr'; cases hr'⟩
    · refine .inl ⟨row, row', hr, hr', ht, fun hp => ?_⟩
      rw [hst] at hp
      split at hp
      · rename_i hc; exact .inr hc
      · rw [SQLiteStore.swept_status] at hp
        split at hp
        · cases hp
        · exact .inl hp
  | extendLease delivery leaseSeconds =>
    obtain ⟨-, rfl⟩ := Prod.mk.inj h
    refine .map (SQLiteStore.extendLease_get delivery leaseSeconds id) fun r => ?_
    split <;> exact ⟨rfl, fun h => h⟩
  | acknowledge n =>
    obtain ⟨-, rfl⟩ := Prod.mk.inj h
    refine .map (SQLiteStore.acknowledge_get n id) fun r => ?_
    split
    · exact ⟨rfl, fun h => by cases h⟩
    · exact ⟨rfl, fun h => h⟩
  | retryOrDeadLetter delivery error base =>
    rcases SQLiteStore.retryOrDeadLetter_cases h with ⟨-, rfl⟩ | ⟨delay, -, -, hg, -⟩
    · exact .same rfl _ _
    · refine .map (hg id) fun r => ?_
      split
      · refine ⟨rfl, fun h => ?_⟩
        simp only at h
        split at h <;> cases h
      · exact ⟨rfl, fun h => h⟩
  | replayDeadLetter n taskId m actor reason =>
    obtain ⟨-, rfl⟩ := Prod.mk.inj h
    have hreplay : s.replayDeadLetter t n taskId m actor reason =
        ((s.replayDeadLetter t n taskId m actor reason).1, (s.replayDeadLetter t n taskId m actor reason).2) := rfl
    rcases SQLiteStore.replayDeadLetter_cases hreplay with ⟨-, e⟩ | ⟨q, x, state, -, -, -, -, -, -, -, hg, -⟩
    · exact .same (congrArg SQLiteStore.queue e) _ _
    · refine .map (hg id) fun r => ?_
      split
      · exact ⟨rfl, fun h => by cases h⟩
      · exact ⟨rfl, fun h => h⟩
  | _ => exact .same (hq rfl) _ _


/-- What a call does to the queue, and which rows it adds. -/
theorem effect_row {c : Call} {r : Except PyError c.Ret} (h : Effect c w.store t r s') (id : Nat) :
    RowStep w.store s' ((c.claimed r).any fun d => d.id = id) id := by
  cases c with
  | store c => exact apply_row h id
  | clock | awaitHeartbeat => obtain ⟨-, rfl⟩ := h; exact .same rfl _ _
  | _ => obtain rfl := h; exact .same rfl _ _

theorem effect_later {A : Set Arguments} (hi : StoreOk A w.store) {c : Call} {r : Except PyError c.Ret}
    (h : Effect c w.store t r s') : Later w.store s' := by
  cases c with
  | store c => obtain rfl := congrArg Prod.snd h; exact apply_later hi c t
  | clock | awaitHeartbeat => obtain ⟨-, rfl⟩ := h; exact .refl _
  | _ => obtain rfl := h; exact .refl _

/-! ## What is held, known and owed -/

variable {c : Call} {r : Except PyError c.Ret}

/-- A workflow stays stuck: its worker makes no call. -/
theorem Stuck.kept (hi : DrivenInv w) (hl : HoldsLease i w) (he : Effect c w.store t r s') {taskId : String}
    (h : Stuck w taskId) : Stuck ⟨s', t, .did i c r :: w.journal⟩ taskId := by
  obtain ⟨k, d, st, hp, hst, ht, hlost⟩ := h
  have hk : k ≠ i := by
    intro e
    subst e
    obtain ⟨hcl, row, u, hr, hproc, -⟩ := hl d _ hp
    exact hlost ⟨hcl, row, hr, hproc⟩
  refine ⟨k, d, st, by rw [phase_other (Ne.symm hk)]; exact hp, hst, ht, fun hcur => ?_⟩
  obtain ⟨hcl, row', hr', hproc⟩ := hcur
  rw [claimant_claimed] at hcl
  split at hcl
  · exact hk (Option.some.inj hcl).symm
  · rename_i hno
    rcases effect_row he d.id with ⟨row, row'', hr, hr'', -, hback⟩ | ⟨hn, -⟩
    · rw [hr'] at hr''; cases hr''
      rcases hback hproc with hproc | hc
      · exact hlost ⟨hcl, row, hr, hproc⟩
      · exact hno hc
    · obtain ⟨row, hr, -⟩ := hi.held k d _ hp
      rw [hn] at hr; cases hr

/-- A claimed row is in the queue, and is of the task its delivery names. -/
theorem claimed_row (he : Effect c w.store t r s') {d : QueueDelivery} (hc : c.claimed r = some d) :
    ∃ row, s'.queue.get d.id = some row ∧ row.taskId = d.taskId := by
  unfold Call.claimed at hc
  split at hc
  · rename_i workerId leaseSeconds o
    subst hc
    obtain ⟨ho, rfl⟩ := Prod.mk.inj he
    have hclaim : w.store.claim t workerId leaseSeconds =
        (some d, (w.store.claim t workerId leaseSeconds).2) := Prod.ext (Except.ok.inj ho) rfl
    rcases SQLiteStore.claim_cases hclaim with ⟨e, -⟩ | ⟨x, -, -, -, e, hg, -⟩
    · cases e
    · cases e; exact ⟨_, (hg _).trans (if_pos rfl), rfl⟩
  · cases hc

theorem held_kept (hi : DrivenInv w) (he : Effect c w.store t r s') {k : ThreadId} {d : QueueDelivery}
    {seen : Option WorkflowState} (h : phase k (.did i c r :: w.journal) = .holding d seen) :
    ∃ row, s'.queue.get d.id = some row ∧ row.taskId = d.taskId := by
  have hold : (∃ seen, phase k w.journal = .holding d seen) → ∃ row, s'.queue.get d.id = some row ∧ row.taskId = d.taskId := by
    intro h
    obtain ⟨seen, h⟩ := h
    obtain ⟨row, hr, ht⟩ := hi.held k d seen h
    rcases effect_row he d.id with ⟨row₀, row', hr₀, hr', ht', -⟩ | ⟨hn, -⟩
    · rw [hr] at hr₀; cases hr₀
      exact ⟨row', hr', ht'.trans ht⟩
    · rw [hn] at hr; cases hr
  by_cases e : k = i
  · subst e
    rw [phase_did] at h
    rcases after_holding h with hc | ⟨-, h⟩
    · exact claimed_row he hc
    · exact hold h
  · rw [phase_other (Ne.symm e)] at h
    exact hold ⟨seen, h⟩

theorem later_known {s : SQLiteStore} (h : Later s s') {taskId : String} (hn : s.workflows.get taskId ≠ none) :
    s'.workflows.get taskId ≠ none := by
  obtain ⟨row, hr⟩ := Option.ne_none_iff_exists'.mp hn
  obtain ⟨row', hr', -⟩ := h.workflow _ row hr
  rw [hr']; simp

theorem known_kept (hi : DrivenInv w) (he : Effect c w.store t r s') {id : Nat} {row : QueueRow}
    (h : s'.queue.get id = some row) : s'.workflows.get row.taskId ≠ none := by
  rcases effect_row he id with ⟨row₀, row', hr₀, hr', ht, -⟩ | ⟨-, hn⟩
  · rw [h] at hr'; cases hr'
    rw [ht]
    exact later_known (effect_later hi.store he) (hi.known id row₀ hr₀)
  · exact hn row h

/-- A claim leaves nothing owed. -/
theorem owes_unclaimed {ph : Phase} (h : (ph.after c r).owes = true) : c.claimed r = none := by
  cases hc : c.claimed r with
  | none => rfl
  | some d =>
    unfold Call.claimed at hc
    split at hc
    · cases hc; cases h
    · cases hc

/-- A thread that owed nothing and held nothing owes the delivery of the workflow it saved as queued. -/
theorem owes_saved (ho : DrivenObs det i w c) (he : Effect c w.store t r s') (hp : phase i w.journal = .free)
    (h : ((phase i w.journal).after c r).owes = true) :
    ∃ taskId row, concerning i w.journal = some taskId ∧ w.store.workflows.get taskId = some row := by
  rw [hp] at h
  cases c with
  | store c =>
    cases c with
    | saveWorkflow st v =>
      rcases SQLiteStore.saveWorkflow_cases he with ⟨row, hr, hv, rfl, -⟩ | ⟨⟨m, rfl⟩, -⟩
      · obtain ⟨-, hobs⟩ := ho.2.2 row hr hv
        simp only [hp] at hobs
        by_cases hst : st.status = .queued
        · exact ⟨st.taskId, row, (hobs.2 (by rw [hst]; rfl)).2.2.1, hr⟩
        · simp [Phase.after, hst, Phase.owes] at h
      · cases h
    | claim =>
      have := owes_unclaimed h
      rcases r with _ | _ | d
      · cases h
      · cases h
      · cases this
    | _ => cases r <;> cases h
  | _ => cases h

/-- The workflow a thread owes something is there. -/
theorem owed_kept (hi : DrivenInv w) (ho : DrivenObs det i w c) (he : Effect c w.store t r s') {k : ThreadId} {taskId : String}
    (htask : concerning k (.did i c r :: w.journal) = some taskId)
    (howes : (phase k (.did i c r :: w.journal)).owes = true) : s'.workflows.get taskId ≠ none := by
  by_cases e : k = i
  · subst e
    rw [phase_did] at howes
    rw [concerning_did (owes_unclaimed howes)] at htask
    refine later_known (effect_later hi.store he) ?_
    cases hp : phase k w.journal with
    | free =>
      obtain ⟨taskId', row, htask', hr⟩ := owes_saved ho he hp howes
      rw [htask] at htask'; cases htask'
      rw [hr]; simp
    | holding d seen =>
      obtain ⟨row, hr, ht⟩ := hi.held k d seen hp
      rw [holding_concerning hp] at htask; cases htask
      rw [← ht]; exact hi.known _ row hr
    | owing | failing _ => exact hi.owed k taskId htask (by rw [hp]; rfl)
  · rw [concerning_other (Ne.symm e)] at htask
    rw [phase_other (Ne.symm e)] at howes
    exact later_known (effect_later hi.store he) (hi.owed k taskId htask howes)


/-! ## Every call -/

/-- The calls that leave phases, checkpoints and the queue's statuses alone. -/
def Call.steady : Call → Bool
  | .store (.createWorkflow ..) | .store (.getWorkflow _) | .store (.saveWorkflow ..) | .store (.enqueue ..)
  | .store (.claim ..) | .store (.acknowledge _) | .store (.retryOrDeadLetter ..) | .store (.replayDeadLetter ..) => false
  | _ => true

theorem steady_after (h : c.steady = true) (ph : Phase) (r : Except PyError c.Ret) :
    ph.after c r = ph ∧ c.claimed r = none := by
  cases c with
  | store c => cases c <;> first | exact ⟨rfl, rfl⟩ | cases h
  | _ => exact ⟨rfl, rfl⟩

theorem steady_store (h : c.steady = true) (he : Effect c w.store t r s') :
    s'.workflows = w.store.workflows ∧ (∀ taskId id, rowStatus taskId s' id = rowStatus taskId w.store id) ∧
      ∀ k row, w.store.approvals.get k = some row → row.status ≠ .pending → s'.approvals.get k = some row := by
  cases c with
  | store c =>
    obtain rfl := congrArg Prod.snd he
    have hw := fun h : c.writesWorkflows = false => StoreCall.apply_workflows h w.store t
    have hq := fun h : c.writesQueue = false => StoreCall.apply_queue h w.store t
    have ha := fun h : c.writesApprovals = false => StoreCall.apply_approvals h w.store t
    cases c with
    | createWorkflow | getWorkflow | saveWorkflow | enqueue | claim | acknowledge | retryOrDeadLetter | replayDeadLetter => cases h
    | extendLease delivery leaseSeconds =>
      refine ⟨rfl, fun taskId id => ?_, fun _ _ h _ => h⟩
      show rowStatus taskId (w.store.extendLease t delivery leaseSeconds) id = _
      unfold rowStatus
      rw [SQLiteStore.extendLease_get]
      cases w.store.queue.get id with
      | none => rfl
      | some row =>
        simp only [Option.map_some, Option.bind_some]
        split <;> rfl
    | createApproval taskId a =>
      exact ⟨rfl, fun _ _ => rfl, (createApproval_later w.store t taskId a).resolved⟩
    | resolveApproval taskId a b actor reason =>
      exact ⟨hw rfl, fun _ _ => by rw [rowStatus_queue (hq rfl)], (resolveApproval_later he).resolved⟩
    | _ => exact ⟨hw rfl, fun _ _ => by rw [rowStatus_queue (hq rfl)], by rw [ha rfl]; exact fun _ _ h _ => h⟩
  | clock | awaitHeartbeat => obtain ⟨-, rfl⟩ := he; exact ⟨rfl, fun _ _ => rfl, fun _ _ h _ => h⟩
  | _ => obtain rfl := he; exact ⟨rfl, fun _ _ => rfl, fun _ _ h _ => h⟩

theorem steady_good (hi : DrivenInv w) (hc : c.steady = true) (he : Effect c w.store t r s') {taskId : String}
    (h : Good w taskId) : Good ⟨s', t, .did i c r :: w.journal⟩ taskId := by
  obtain ⟨hw, hrows, happ⟩ := steady_store hc he
  refine h.untouched hi (steady_after hc (phase i w.journal) r).2 (hrows taskId) (by rw [hw]) (fun x hx => ?_)
    (.inl (steady_after hc _ r).1)
  obtain ⟨row, hr, hst⟩ := SQLiteStore.approvalStatus_some hx
  simp [SQLiteStore.approvalStatus, happ _ row hr (by rw [hst]; decide), hst]

theorem holdsLease_earlier (hle : w.now ≤ t) (h : HoldsLease i { w with now := t }) : HoldsLease i w := by
  intro d seen hp
  obtain ⟨hcl, row, u, hr, hst, hu, hnow⟩ := h d seen hp
  exact ⟨hcl, row, u, hr, hst, hu, le_trans hle hnow⟩

/-- What a call does to a workflow that is not stuck. -/
theorem calls_good (hi : DrivenInv w) (hl : HoldsLease i w) (ho : DrivenObs det i w c) (hal : Env.unspent.allows i w c r)
    (he : Effect c w.store t r s') {taskId : String} (h : Good w taskId) :
    Stuck ⟨s', t, .did i c r :: w.journal⟩ taskId ∨ Good ⟨s', t, .did i c r :: w.journal⟩ taskId := by
  cases c with
  | store c =>
    cases c with
    | claim workerId leaseSeconds =>
      obtain ⟨hr, rfl⟩ := Prod.mk.inj he
      exact claim_good hi ho.2 hr.symm rfl h
    | createWorkflow st n => exact .inr (createWorkflow_good hi ho he h)
    | getWorkflow task =>
      obtain ⟨hr, rfl⟩ := Prod.mk.inj he
      exact .inr (getWorkflow_good hi ho hr.symm h)
    | saveWorkflow st v => exact .inr (saveWorkflow_good hi hl ho he h)
    | enqueue task n => exact .inr (enqueue_good hi ho hal.2 he h)
    | acknowledge id =>
      obtain ⟨rfl, rfl⟩ := Prod.mk.inj he
      exact .inr (acknowledge_good hi hl ho h)
    | retryOrDeadLetter d error base => exact .inr (retry_good hi hl ho he h)
    | replayDeadLetter id task n actor reason =>
      obtain ⟨hr, rfl⟩ := Prod.mk.inj he
      exact .inr (replay_good hi ho.2 hr.symm rfl h)
    | _ => exact .inr (steady_good hi rfl he h)
  | _ => exact .inr (steady_good hi rfl he h)

/-- Every call a program makes as `DrivenObs` asks keeps the invariant. -/
theorem driven_calls {w' : World} (hi : DrivenInv w) (ho : DrivenObs det i w c) (h : calls .unspent i c w r w') : DrivenInv w' := by
  obtain ⟨t, s', hle, hal, he, rfl⟩ := h
  have hl := holdsLease_earlier hle hal.1
  refine ⟨?_, fun k d seen => held_kept hi he, fun id row => known_kept hi he, fun k taskId => owed_kept hi ho he, fun taskId => ?_⟩
  · cases c with
    | store c => obtain rfl := congrArg Prod.snd he; exact apply_storeOk hi.store c t ho.1
    | clock | awaitHeartbeat => obtain ⟨-, rfl⟩ := he; exact hi.store
    | _ => obtain rfl := he; exact hi.store
  · rcases hi.good taskId with hstuck | hgood
    · exact .inl (hstuck.kept hi hl he)
    · exact calls_good hi hl ho ⟨hl, hal.2⟩ he hgood

end AgentResilience
