/-
  AgentResilience.Handouts — one task's part of the store, from operation to operation.
  Operators create and approve, a worker runs, and nobody dies.

  - `Undisturbed`: what concerns the task is as before. `Hands`: a worker's run hands out the
    task's pending row. `Served.split`: a run does one of the two.
  - `Paused`: the rows of a waiting workflow are completed. `Counted`: a row's attempts are
    the deliveries of the row.
-/
import AgentResilience.Attempts

namespace AgentResilience

open Interaction
open WorkflowState (content)

variable {rt : WorkflowRuntime} {config : Settings} {env : Env} {N : Nat} {w w' : World} {taskId : String} {cp st : WorkflowState}
  {m m' : Memory} {o : Except PyError WorkflowState} {d : QueueDelivery} {D : WorkflowState → Except PyError AgentDecision → Prop}
  {U : Except PyError (Nat × Nat) → Prop}

/-! ## The task's part of the store -/

/-- How often the backend was called for the task's tool. -/
def calledFor (taskId : String) (tool : ToolName) (m : Memory) : Nat := m.executed.countP fun x => x.1 = taskId ∧ x.2.1 = tool

/-- What concerns the task is as before. -/
structure Undisturbed (taskId : String) (w w' : World) : Prop where
  stored : w'.store.stored taskId = w.store.stored taskId
  rows : ∀ id row, row.taskId = taskId → (w'.store.queue.get id = some row ↔ w.store.queue.get id = some row)
  called : ∀ tool, calledFor taskId tool w'.memory = calledFor taskId tool w.memory
  claims : claims taskId w'.memory = claims taskId w.memory

theorem Idle.undisturbed (h : Idle w w') (taskId : String) : Undisturbed taskId w w' :=
  ⟨h.stored taskId, fun _ _ _ => by rw [h.queue], fun _ => by rw [h.memory], by rw [h.memory]⟩

theorem Turn.executes (h : Turn rt env D U m cp o st m') :
    m'.executed = m.executed ∨ ∃ tool r, m'.executed = (cp.taskId, tool, r) :: m.executed := by
  have hran : ∀ {cp₀ : WorkflowState} {arguments : Arguments} {tool : ToolName}, cp₀.taskId = cp.taskId →
      Ran env m cp₀ tool arguments o st m' → m'.executed = m.executed ∨ ∃ tool r, m'.executed = (cp.taskId, tool, r) :: m.executed := by
    intro cp₀ arguments tool ht hr
    obtain ⟨⟨x, -, hdid⟩, -⟩ := hr.did
    rw [ht] at hdid
    cases hdid with
    | nothing e => exact .inl e
    | tool tool r e => exact .inr ⟨tool, r, e⟩
  cases h with
  | idle | unapproved | undecided | unanswered | unmetered => exact .inl rfl
  | resumed _ _ _ hr => exact hran rfl hr
  | acted _ _ _ _ ha =>
    cases ha with
    | completed | declined | looped | denied | paused => exact .inl rfl
    | ran _ _ _ _ _ _ hr => exact hran (by exact rfl) hr

/-- Another task's next row is added. -/
theorem undisturbed_queued {T : String} {w₂ : World} {t : Timestamp} {n : Nat} (hw₂ : w₂ = ⟨w.store.insertQueue t T n, t, []⟩)
    (hne : taskId ≠ T) (h : Serving T w₂ st m w') (hx : m.executed = w.memory.executed) (hc : m.claimed = w.memory.claimed) :
    Undisturbed taskId w w' := by
  subst hw₂
  refine ⟨h.others _ hne, fun id row ht => ?_, fun tool => ?_, ?_⟩
  · rw [h.queue]
    show (w.store.insertQueue t T n).queue.get id = some row ↔ _
    rw [SQLiteStore.insertQueue_get]
    split
    · rename_i e
      subst e
      rw [SQLiteStore.nextQueueId_fresh]
      constructor
      · intro e
        cases e
        exact absurd ht.symm hne
      · intro e
        cases e
    · rfl
  · unfold calledFor
    rw [h.memory, hx]
  · unfold AgentResilience.claims
    rw [h.memory, hc]

/-- A worker's run hands out the task's pending row and delivers it. -/
structure Hands (rt : WorkflowRuntime) (config : Settings) (env : Env) (D : WorkflowState → Except PyError AgentDecision → Prop)
    (U : Except PyError (Nat × Nat) → Prop) (taskId : String) (row : QueueRow) (cp : WorkflowState) (w : World) (s : SQLiteStore)
    (t : Timestamp) (w' : World) : Prop where
  found : w.store.queue.get row.id = some row
  task : row.taskId = taskId
  pending : row.status = .pending
  leased : ∃ x, s.queue.get row.id = some x ∧ x.taskId = taskId ∧ x.attempts = row.attempts + 1 ∧ x.maxAttempts = row.maxAttempts
  others : ∀ id x, id ≠ row.id → x.taskId = taskId → s.queue.get id = some x → w.store.queue.get id = some x
  stored : w.store.stored taskId = some cp
  counted : claims taskId w'.memory = claims taskId w.memory + 1
  delivered : Delivered rt config env D U ⟨row.id, taskId, row.attempts + 1, row.maxAttempts, row.payload⟩ ⟨s, t, []⟩ cp
    (w.memory.takes ⟨row.id, taskId, row.attempts + 1, row.maxAttempts, row.payload⟩) w'

/-- A worker's run leaves the task alone, or hands out its pending row. -/
theorem Served.split {workerId : String} (hs : Served rt config env D U workerId w w') (h : Standing w.store)
    (hidle : ∀ id row, w.store.queue.get id = some row → row.taskId = taskId → row.status ≠ .processing) :
    Undisturbed taskId w w' ∨ ∃ row cp s t, Hands rt config env D U taskId row cp w s t w' := by
  have hswept : ∀ {t id row}, w.store.queue.get id = some row → row.taskId = taskId → SQLiteStore.swept t row = row := by
    intro t id row hr ht
    simp [SQLiteStore.swept, SQLiteStore.isExpired, hidle id row hr ht]
  have hsweep : ∀ {t id row}, row.taskId = taskId → ((w.store.sweep t).queue.get id = some row ↔ w.store.queue.get id = some row) := by
    intro t id row ht
    rw [SQLiteStore.sweep_get]
    constructor
    · intro hr
      obtain ⟨x, hx, rfl⟩ := Option.map_eq_some_iff.mp hr
      rw [hswept hx ((swept_keeps t x).2.1.symm.trans ht)]
      exact hx
    · intro hr
      rw [hr, Option.map_some, hswept hr ht]
  obtain ⟨t, -, -, ⟨s, hclaim, hq, -, hst, hm, -⟩ | ⟨d, s, cp, hclaim, hcp, hd⟩⟩ := hs
  · rcases SQLiteStore.claim_cases hclaim with ⟨-, rfl⟩ | ⟨row, -, -, -, hsome, -⟩
    · exact .inl ⟨hst taskId, fun id row ht => by rw [hq]; exact hsweep ht, fun _ => by rw [hm], by rw [hm]⟩
    · cases hsome
  rcases SQLiteStore.claim_cases hclaim with ⟨hnone, -⟩ | ⟨row, hrow, hpend, -, hsome, hget, -⟩
  · cases hnone
  cases hsome
  obtain ⟨o, st, m', cp', s₂, t₂, hturn, hsettled, hserving⟩ := hd
  have hclaims : ∀ T, claims T w'.memory = claims T w.memory + if row.taskId = T then 1 else 0 := by
    intro T
    rw [hserving.memory, ← claims_takes T w.memory ⟨row.id, row.taskId, row.attempts + 1, row.maxAttempts, row.payload⟩]
    unfold claims
    rw [hturn.claimed]
  by_cases e : row.taskId = taskId
  · subst e
    refine .inr ⟨row, cp, s, t, (hsweep rfl).mp hrow, rfl, hpend, ⟨_, (hget row.id).trans (if_pos rfl), rfl, rfl, rfl⟩, ?_, hcp,
      by rw [hclaims, if_pos rfl], o, st, m', cp', s₂, t₂, hturn, hsettled, hserving⟩
    intro id x hne ht hx
    rw [hget, if_neg hne] at hx
    exact (hsweep ht).mp hx
  · refine .inl ⟨?_, fun id x ht => ?_, fun tool => ?_, by rw [hclaims, if_neg e]; rfl⟩
    · exact (hserving.others _ (Ne.symm e)).trans ((hsettled.later.2 _).trans (claim_stored hclaim _))
    · have hkept : ∀ y : QueueRow, y.taskId = taskId → (s.queue.get id = some y ↔ w.store.queue.get id = some y) := by
        intro y hy
        rw [hget]
        split
        · rename_i hid
          subst hid
          rw [← hsweep hy, hrow]
          constructor
          · intro h'
            cases h'
            exact absurd hy e
          · intro h'
            cases h'
            exact absurd hy e
        · exact hsweep hy
      rw [hserving.queue]
      constructor
      · intro hx
        rcases hsettled.back hx with ⟨y, hy, hyt, hrow'⟩ | ⟨ht', -⟩
        · by_cases hid : id = row.id
          · subst hid
            have hy' := (hkept y (hyt.trans ht)).mp hy
            rw [← hsweep (hyt.trans ht), hrow] at hy'
            cases hy'
            exact absurd (hyt.trans ht) e
          · obtain rfl := hrow' hid
            exact (hkept y ht).mp hy
        · exact absurd (ht'.symm.trans ht) e
      · intro hx
        have hid : id ≠ row.id := by
          rintro rfl
          rw [← hsweep ht, hrow] at hx
          cases hx
          exact e ht
        exact hsettled.keeps ((hkept x ht).mpr hx) hid
    · obtain ⟨_, _, _, htask⟩ := h.level.filed.version hcp
      unfold calledFor
      rw [hserving.memory]
      rcases hturn.executes with hx | ⟨x, r, hx⟩
      · rw [hx]; rfl
      · rw [hx]
        refine List.countP_cons_of_neg ?_
        have hne : cp.content.taskId ≠ taskId := fun h' => e (htask.symm.trans h')
        simpa using fun h' => absurd h' hne

/-! ## Waiting workflows -/

/-- The task's rows are completed. -/
def Closed (taskId : String) (s : SQLiteStore) : Prop :=
  ∀ id row, s.queue.get id = some row → row.taskId = taskId → row.status = .completed

/-- The rows of a waiting workflow are completed. -/
def Paused (w : World) : Prop := ∀ T st, w.store.stored T = some st → st.status = .waitingForApproval → Closed T w.store

/-- A turn that leaves its workflow waiting answers. -/
theorem Turn.waits (h : Turn rt env D U m cp o st m') (hcp : cp.status ≠ .waitingForApproval)
    (hwait : st.status = .waitingForApproval) : ∃ out, o = .ok out ∧ out.status ≠ .queued := by
  have hran : ∀ {cp₀ : WorkflowState} {arguments : Arguments} {tool : ToolName}, cp₀.status ≠ .waitingForApproval →
      Ran env m cp₀ tool arguments o st m' → False := by
    intro cp₀ arguments tool hne hr
    cases hr with
    | done | retried | failed => cases hwait
    | raised => exact hne hwait
  cases h with
  | idle | unapproved => exact absurd hwait hcp
  | undecided | unanswered | unmetered => cases hwait
  | resumed _ _ _ hr => exact (hran hcp hr).elim
  | acted _ _ _ _ ha =>
    cases ha with
    | completed _ e | looped _ _ _ e | denied _ _ _ _ _ e =>
      rw [e] at hwait
      cases hwait
    | declined => cases hwait
    | paused _ _ _ _ _ _ _ e => exact ⟨_, rfl, by rw [hwait]; decide⟩
    | ran _ _ _ _ _ _ hr => exact (hran (by simp [WorkflowRuntime.decided, WorkflowRuntime.absorb, WorkflowState.started]) hr).elim

theorem Settlement.waits {s s₂ : SQLiteStore} {t t₂ : Timestamp} {st' : WorkflowState}
    (h : Settlement config env d s t o st st' s₂ t₂) (hwait : st'.status = .waitingForApproval) : st.status = .waitingForApproval := by
  have hended : ∀ {status : WorkflowStatus} {error : String}, status ≠ .waitingForApproval →
      (st.endedBy status error).status = .waitingForApproval → st.status = .waitingForApproval := by
    intro status error hne hw
    unfold WorkflowState.endedBy at hw
    split at hw
    · exact hw
    · exact absurd hw hne
  cases h with
  | acknowledged | requeued | overflowed | returned | raised => exact hwait
  | buried => exact hended (by decide) hwait
  | failed => exact hended (by decide) hwait

theorem Paused.served {workerId : String} (h : Paused w) (hs : Standing w.store)
    (hserved : Served rt config env D U workerId w w') : Paused w' := by
  intro T st hst hwait
  by_cases hbefore : ∃ cp, w.store.stored T = some cp ∧ cp.status = .waitingForApproval
  · obtain ⟨cp, hcp, hcpwait⟩ := hbefore
    have hclosed := h T cp hcp hcpwait
    rcases hserved.split hs fun id row hr ht => by rw [hclosed id row hr ht]; decide with hu | ⟨row, _, _, _, hh⟩
    · exact fun id row hr ht => hclosed id row ((hu.rows id row ht).mp hr) ht
    · have hpend := hh.pending
      rw [hclosed _ row hh.found hh.task] at hpend
      cases hpend
  obtain ⟨t, -, -, ⟨s, -, -, -, hsame, -⟩ | ⟨d, s, cp, hclaim, hcp, o, out, m', cp', s₂, t₂, hturn, hsettled, hserving⟩⟩ := hserved
  · exact absurd ⟨st, (hsame T).symm.trans hst, hwait⟩ hbefore
  by_cases e : T = d.taskId
  · subst e
    rw [hserving.stored] at hst
    cases hst
    have hcpwait : cp.content.status ≠ .waitingForApproval := fun hw => hbefore ⟨cp, hcp, hw⟩
    obtain ⟨a, rfl, hne⟩ := hturn.waits hcpwait (hsettled.waits hwait)
    obtain ⟨hrest, hrow⟩ := claim_rest hs.rest hclaim
    obtain ⟨rowd, hrd, hrdt, hproc⟩ := hrow d rfl
    intro id row hr ht
    rw [hserving.queue] at hr
    refine hsettled.closes hne (fun id x hx hxt hid => ?_) hr ht
    by_contra hc
    exact hid (hrest.one _ _ _ _ hx hrd (hxt.trans hrdt.symm) hc (by rw [hproc]; decide))
  · have hsame : w'.store.stored T = w.store.stored T :=
      (hserving.others T e).trans ((hsettled.later.2 T).trans (claim_stored hclaim T))
    exact absurd ⟨st, hsame.symm.trans hst, hwait⟩ hbefore

/-- The task's other rows are completed when its pending row is handed out. -/
theorem Hands.others_completed {row : QueueRow} {s : SQLiteStore} {t : Timestamp}
    (h : Hands rt config env D U taskId row cp w s t w') (hs : Standing w.store) (id : Nat) (x : QueueRow)
    (hx : s.queue.get id = some x) (ht : x.taskId = taskId) (hne : id ≠ row.id) : x.status = .completed := by
  by_contra hc
  exact hne (hs.rest.one id row.id x row (h.others id x hne ht hx) h.found (ht.trans h.task.symm) hc (by rw [h.pending]; decide))

theorem Paused.undisturbed (h : Paused w)
    (hu : ∀ T st, w'.store.stored T = some st → st.status = .waitingForApproval → Undisturbed T w w') : Paused w' := by
  intro T st hst hwait id row hr ht
  have hu := hu T st hst hwait
  exact h T st (hu.stored.symm.trans hst) hwait id row ((hu.rows id row ht).mp hr) ht

/-- What an operator's operation does: nothing, or it queues a task's next delivery. -/
def Queues (w w' : World) : Prop :=
  Idle w w' ∨ ∃ T st m t n, Serving T ⟨w.store.insertQueue t T n, t, []⟩ st m w' ∧ m.executed = w.memory.executed ∧
    m.claimed = w.memory.claimed ∧ st.status = .queued

/-- An operator's operation, or a worker's run. -/
theorem Paused.starts (he : rt.engine = anyEngine) (hb : rt.backend = anyBackend) (hs : Standing w.store) (h : Paused w)
    {op : Operation} (hop : Env.operator.starts 0 w op) {reply : Except PyError Reply}
    (hr : Runs (calls env 0) (op.program rt config) w reply w') : Queues w w' ∨ ∃ workerId, Served rt config env
      (fun st r => ∃ w st', st'.content = st ∧ env.allows 0 w (.decide st') r) (fun r => ∃ w, env.allows 0 w .takeUsage r) workerId w w' := by
  cases op with
  | runOnce workerId => exact .inr ⟨workerId, hs.served hb (he ▸ anyEngine_spec) hr⟩
  | createIncident T goal scenarioId =>
    refine .inl (wp_sound (wp_reply (wp_mono (createIncident_serving hs.level.filed T goal scenarioId) fun _ w' hcases => ?_)) hr)
    rcases hcases with hi | ⟨st, t, -, ⟨hqueued, -⟩, -, hserving⟩
    · exact .inl hi
    · exact .inr ⟨T, st, _, t, _, hserving, rfl, rfl, hqueued⟩
  | approve T actor reason =>
    refine .inl (wp_sound (wp_reply (wp_mono (approve_serving hs.level.filed T actor reason fun id row hr ht ⟨st, hst, hwait⟩ =>
      .inl (h T st hst hwait id row hr ht)) fun _ w' hcases => ?_)) hr)
    rcases hcases with ⟨hi, -⟩ | ⟨cp, p, st, t, t', -, -, -, -, hst, -, hserving⟩
    · exact .inl hi
    · exact .inr ⟨T, st, _, t, _, hserving, rfl, rfl, congrArg (·.status) hst⟩
  | _ => cases hop

theorem Paused.queues (h : Paused w) (hq : Queues w w') : Paused w' := by
  rcases hq with hi | ⟨T, st, m, t, n, hserving, hx, hc, hqueued⟩
  · exact h.undisturbed fun T _ _ _ => hi.undisturbed T
  refine h.undisturbed fun T' st' hst' hwait => ?_
  by_cases e : T' = T
  · subst e
    rw [hserving.stored] at hst'
    cases hst'
    rw [hqueued] at hwait
    cases hwait
  · exact undisturbed_queued rfl e hserving hx hc

/-! ## Deliveries of a row -/

/-- How often the row was handed out. -/
def handed (id : Nat) (m : Memory) : Nat := m.claimed.countP fun d => d.id = id

/-- The row's attempts; none when there is no such row. -/
def attemptsOf (s : SQLiteStore) (id : Nat) : Nat := ((s.queue.get id).map (·.attempts)).getD 0

/-- The rows count the deliveries. -/
def Counted (w : World) : Prop := ∀ id, handed id w.memory = attemptsOf w.store id

theorem attemptsOf_map {s s' : SQLiteStore} {id : Nat} {g : QueueRow → QueueRow} (hq : s'.queue.get id = (s.queue.get id).map g)
    (hg : ∀ x, (g x).attempts = x.attempts) : attemptsOf s' id = attemptsOf s id := by
  unfold attemptsOf
  rw [hq, Option.map_map]
  congr 2
  exact funext hg

theorem attemptsOf_inserted (s : SQLiteStore) (t : Timestamp) (T : String) (n id : Nat) :
    attemptsOf (s.insertQueue t T n) id = attemptsOf s id := by
  unfold attemptsOf
  rw [SQLiteStore.insertQueue_get]
  split
  · rename_i e
    rw [e, SQLiteStore.nextQueueId_fresh]
    rfl
  · rfl

theorem Settlement.attempts {s s₂ : SQLiteStore} {t t₂ : Timestamp} {st' : WorkflowState}
    (h : Settlement config env d s t o st st' s₂ t₂) (id : Nat) : attemptsOf s₂ id = attemptsOf s id := by
  have hack : ∀ t, attemptsOf (s.acknowledge t d.id) id = attemptsOf s id := by
    intro t
    refine attemptsOf_map (SQLiteStore.acknowledge_get d.id id) fun x => ?_
    split <;> rfl
  have hretry : ∀ {e : PyError} {delay : ℚ} {t}, backoff config.queueRetryBaseSeconds (d.attempts - 1) = .ok delay →
      attemptsOf (s.retryOrDeadLetter t d e.message config.queueRetryBaseSeconds).2 id = attemptsOf s id := by
    intro e delay t hdelay
    refine attemptsOf_map (retried_get hdelay e.message t id) fun x => ?_
    split <;> rfl
  cases h with
  | acknowledged | failed => exact hack _
  | requeued => exact (attemptsOf_inserted ..).trans (hack _)
  | overflowed | raised => rfl
  | returned _ _ hdelay | buried _ _ hdelay => exact hretry hdelay

theorem Counted.served {workerId : String} (h : Counted w) (hserved : Served rt config env D U workerId w w') : Counted w' := by
  have hsweep : ∀ t id, attemptsOf (w.store.sweep t) id = attemptsOf w.store id := by
    intro t id
    refine attemptsOf_map (SQLiteStore.sweep_get id) fun x => (swept_keeps t x).2.2.2.1
  have hqueue : ∀ {s s' : SQLiteStore}, s'.queue = s.queue → ∀ id, attemptsOf s' id = attemptsOf s id := by
    intro s s' hq id
    unfold attemptsOf
    rw [hq]
  intro id
  obtain ⟨t, -, -, ⟨s, hclaim, hq, -, -, hm, -⟩ | ⟨d, s, cp, hclaim, hcp, o, st, m', cp', s₂, t₂, hturn, hsettled, hserving⟩⟩ := hserved
  · rcases SQLiteStore.claim_cases hclaim with ⟨-, rfl⟩ | ⟨row, -, -, -, hsome, -⟩
    · rw [hm, hqueue hq, hsweep, h id]
    · cases hsome
  rcases SQLiteStore.claim_cases hclaim with ⟨hnone, -⟩ | ⟨row, hrow, -, -, hsome, hget, -⟩
  · cases hnone
  cases hsome
  rw [hqueue hserving.queue, hsettled.attempts, hserving.memory]
  unfold handed
  rw [hturn.claimed]
  show List.countP _ (_ :: w.memory.claimed) = _
  rw [List.countP_cons]
  have hbefore : w.memory.claimed.countP (fun d => d.id = id) = attemptsOf (w.store.sweep t) id := (h id).trans (hsweep t id).symm
  rw [hbefore]
  unfold attemptsOf
  rw [hget]
  by_cases e : id = row.id
  · subst e
    rw [if_pos rfl, hrow]
    simp
  · rw [if_neg e]
    simp [Ne.symm e]

theorem Counted.queues (h : Counted w) (hq : Queues w w') : Counted w' := by
  intro id
  unfold handed attemptsOf
  rcases hq with hi | ⟨T, st, m, t, n, hserving, -, hc, -⟩
  · rw [hi.memory, hi.queue]
    exact h id
  · rw [hserving.memory, hc, hserving.queue]
    exact (h id).trans (attemptsOf_inserted ..).symm

/-! ## Rows of a task -/

/-- The task has a row with the status, handed out `n` of `N` times. -/
def HasRow (taskId : String) (status : QueueStatus) (n N : Nat) (s : SQLiteStore) : Prop :=
  ∃ id row, s.queue.get id = some row ∧ row.taskId = taskId ∧ row.status = status ∧ row.attempts = n ∧ row.maxAttempts = N

theorem HasRow.congr {status : QueueStatus} {n : Nat} {s s' : SQLiteStore} (h : HasRow taskId status n N s) (hq : s'.queue = s.queue) :
    HasRow taskId status n N s' := by
  obtain ⟨id, row, hr, h⟩ := h
  exact ⟨id, row, by rw [hq]; exact hr, h⟩

theorem hasRow_inserted (s : SQLiteStore) (t : Timestamp) (taskId : String) (N : Nat) :
    HasRow taskId .pending 0 N (s.insertQueue t taskId N) := by
  obtain ⟨new, ht, hmax, hpend, hatt, -, hq⟩ := inserted_get s t taskId N
  exact ⟨s.nextQueueId, new, (hq _).trans (if_pos rfl), ht, hpend, hatt, hmax⟩

/-- A task has one row that is not completed. -/
theorem HasRow.only {status : QueueStatus} {n : Nat} {s : SQLiteStore} (h : HasRow taskId status n N s) (hs : Standing s)
    (hne : status ≠ .completed) {id : Nat} {row : QueueRow} (hr : s.queue.get id = some row) (ht : row.taskId = taskId)
    (hlive : row.status ≠ .completed) : row.status = status ∧ row.attempts = n ∧ row.maxAttempts = N := by
  obtain ⟨id', row', hr', ht', hstatus, hatt, hmax⟩ := h
  obtain rfl := hs.rest.one id id' row row' hr hr' (ht.trans ht'.symm) hlive (by rw [hstatus]; exact hne)
  rw [hr] at hr'
  cases hr'
  exact ⟨hstatus, hatt, hmax⟩

/-- A worker's run leaves the task alone, or hands out the one row that is not completed. -/
theorem HasRow.split {env : Env} {workerId : String} {status : QueueStatus} {n : Nat} (h : HasRow taskId status n N w.store)
    (hs : Standing w.store) (hne : status ≠ .completed) (hproc : status ≠ .processing) (hserved : Served rt config env D U workerId w w') :
    Undisturbed taskId w w' ∨
      ∃ row cp s t, Hands rt config env D U taskId row cp w s t w' ∧ status = .pending ∧ row.attempts = n ∧ row.maxAttempts = N := by
  have hidle : ∀ id row, w.store.queue.get id = some row → row.taskId = taskId → row.status ≠ .processing := by
    intro id row hr ht hp
    exact hproc ((h.only hs hne hr ht (by rw [hp]; decide)).1.symm.trans hp)
  rcases hserved.split hs hidle with hu | ⟨row, cp, s, t, hh⟩
  · exact .inl hu
  · obtain ⟨hstatus, hatt, hmax⟩ := h.only hs hne hh.found hh.task (by rw [hh.pending]; decide)
    exact .inr ⟨row, cp, s, t, hh, hstatus.symm.trans hh.pending, hatt, hmax⟩

/-- The row of a failed delivery. -/
theorem hasRow_retried {s : SQLiteStore} {leased : QueueRow} {base : Seconds} {delay : ℚ} (h : backoff base (d.attempts - 1) = .ok delay)
    (hl : s.queue.get d.id = some leased) (error : String) (t : Timestamp) :
    HasRow leased.taskId (if d.maxAttempts ≤ d.attempts then .dead else .pending) leased.attempts leased.maxAttempts
      (s.retryOrDeadLetter t d error base).2 := by
  have hq := retried_get (s := s) h error t d.id
  rw [hl, Option.map_some, if_pos rfl] at hq
  exact ⟨d.id, _, hq, rfl, rfl, rfl, rfl⟩

end AgentResilience
