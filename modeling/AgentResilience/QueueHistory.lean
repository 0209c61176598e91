/-
  AgentResilience.QueueHistory — every history of store calls, by any workers and at
  nondecreasing times, as the claims of one queue row see it.

  - `claim_takes`: a claim takes the lowest row that is ready, and of the others only gives
    back those whose lease ended.
  - `RowEffect`: what one call can do to one row, with its claim, its retry or its replay.
  - `Kept`: since a claim of the row no call released it, so its lease says who has it.
  - `history_claims`: no row is claimed twice without a release or a lease that ended, and its
    attempts count its claims since it was created or replayed.
-/
import AgentResilience.Phase

namespace AgentResilience

open SQLiteStore

/-! ## What a claim takes -/

/-- `PROCESSING` with a lease that ended before `t`. -/
def QueueRow.Lapsed (t : Timestamp) (row : QueueRow) : Prop :=
  row.status = .processing ∧ ∃ lease, row.leaseUntil = some lease ∧ lease < t

/-- The row may be claimed at `t`. -/
def QueueRow.Ready (t : Timestamp) (row : QueueRow) : Prop :=
  (row.status = .pending ∨ row.Lapsed t) ∧ row.availableAt ≤ t

variable {s s' : SQLiteStore} {t : Timestamp} {id : Nat} {row row' : QueueRow}

theorem isExpired_iff : isExpired t row = true ↔ row.Lapsed t := by
  unfold isExpired QueueRow.Lapsed
  cases row.leaseUntil <;> simp

theorem swept_lapsed (h : row.Lapsed t) : swept t row =
    { row with status := .pending, workerId := none, leaseUntil := none, updatedAt := t } := by
  unfold swept
  rw [if_pos (isExpired_iff.mpr h)]

theorem swept_kept (h : ¬ row.Lapsed t) : swept t row = row := by
  unfold swept
  rw [if_neg (mt isExpired_iff.mp h)]

@[simp] theorem swept_id : (swept t row).id = row.id := by unfold swept; split <;> rfl
@[simp] theorem swept_attempts : (swept t row).attempts = row.attempts := by unfold swept; split <;> rfl
@[simp] theorem swept_availableAt : (swept t row).availableAt = row.availableAt := by unfold swept; split <;> rfl

theorem swept_pending : (swept t row).status = .pending ↔ row.status = .pending ∨ row.Lapsed t := by
  by_cases h : row.Lapsed t
  · simp [swept_lapsed h, h]
  · simp [swept_kept h, h]

/-- What the claim of a delivery does to the queue. -/
structure Takes (s : SQLiteStore) (t : Timestamp) (delivery : QueueDelivery) (s' : SQLiteStore) : Prop where
  taken : ∃ row row', s.queue.get delivery.id = some row ∧ row.Ready t ∧ delivery.attempts = row.attempts + 1 ∧
    s'.queue.get delivery.id = some row' ∧ row'.status = .processing ∧ row'.attempts = delivery.attempts
  lowest : ∀ id row, s.queue.get id = some row → row.Ready t → delivery.id ≤ id
  others : ∀ id, id ≠ delivery.id → s'.queue.get id = (s.queue.get id).map (swept t)

theorem claimable_swept (hr : s.queue.get id = some row) (h : row.Ready t) :
    swept t row ∈ (s.sweep t).queue.rows.filter (isClaimable t) := by
  have hget : (s.sweep t).queue.get id = some (swept t row) := by rw [sweep_get, hr]; rfl
  refine List.mem_filter.mpr ⟨Table.get_mem hget, ?_⟩
  unfold isClaimable
  simp [swept_pending.mpr h.1, h.2]

theorem claim_lowest {worker : String} {leaseSeconds : Int} {delivery : QueueDelivery}
    (h : (s.claim t worker leaseSeconds).1 = some delivery) (hr : s.queue.get id = some row) (hready : row.Ready t) :
    delivery.id ≤ id := by
  have hmem := claimable_swept hr hready
  have hk : row.id = id := Table.get_key hr
  unfold claim at h
  simp only at h
  split at h
  · cases h
  · rename_i x hx
    cases h
    have := List.le_of_mem_argmin hmem hx
    simpa [hk] using this

theorem claim_takes {worker : String} {leaseSeconds : Int} {delivery : QueueDelivery}
    (h : s.claim t worker leaseSeconds = (some delivery, s')) : Takes s t delivery s' := by
  have hlow : ∀ id row, s.queue.get id = some row → row.Ready t → delivery.id ≤ id := by
    intro id row hr hready
    exact claim_lowest (by rw [h]) hr hready
  rcases claim_cases h with ⟨hn, -⟩ | ⟨x, hx, hst, hav, hd, hget, -⟩
  · cases hn
  · have hid : delivery.id = x.id := by cases hd; rfl
    rw [sweep_get] at hx
    obtain ⟨row, hr, hrow⟩ := Option.map_eq_some_iff.mp hx
    refine ⟨⟨row, _, hid ▸ hr, ⟨?_, ?_⟩, ?_, (hget _).trans (if_pos hid), rfl, ?_⟩, hlow, ?_⟩
    · exact swept_pending.mp (hrow ▸ hst)
    · simpa [← hrow] using hav
    · cases hd; simp [← hrow]
    · cases hd; rfl
    · intro id hne
      rw [hget, if_neg (hid ▸ hne), sweep_get]

/-- A delivery's allowance is that of its row. -/
theorem claim_maxAttempts {worker : String} {leaseSeconds : Int} {delivery : QueueDelivery}
    (h : (s.claim t worker leaseSeconds).1 = some delivery) (hr : s.queue.get delivery.id = some row) :
    delivery.maxAttempts = row.maxAttempts := by
  have he : s.claim t worker leaseSeconds = (some delivery, (s.claim t worker leaseSeconds).2) := Prod.ext h rfl
  rcases claim_cases he with ⟨hn, -⟩ | ⟨x, hx, -, -, hd, -⟩
  · cases hn
  · cases hd
    rw [sweep_get, hr] at hx
    rw [← Option.some.inj hx]
    unfold swept
    split <;> rfl

/-! ## One call and one row -/

/-- The call releases row `id` with a retry. -/
def StoreCall.retries (id : Nat) : (c : StoreCall) → Except PyError c.Ret → Bool
  | .retryOrDeadLetter delivery .., .ok _ => decide (delivery.id = id)
  | _, _ => false

/-- The call puts the dead row `id` back. -/
def StoreCall.replays (id : Nat) : (c : StoreCall) → Except PyError c.Ret → Bool
  | .replayDeadLetter deliveryId .., .ok (some _) => decide (deliveryId = id)
  | _, _ => false

/-- The attempts that the call hands row `id` out with. -/
def StoreCall.token (id : Nat) (c : StoreCall) (answer : Except PyError c.Ret) : Option Nat :=
  (((Call.store c).claimed answer).filter fun d => decide (d.id = id)).map (·.attempts)

inductive RowEffect (t : Timestamp) (id : Nat) (c : StoreCall) (answer : Except PyError c.Ret) (row row' : QueueRow) : Prop
  | claim (token : c.token id answer = some (row.attempts + 1)) (ready : row.status = .pending ∨ row.Lapsed t)
      (replays : c.replays id answer = false) (attempts : row'.attempts = row.attempts + 1)
      (status : row'.status = .processing) (lease : row'.leaseUntil ≠ none)
  | retry (retries : c.retries id answer = true) (token : c.token id answer = none)
      (replays : c.replays id answer = false) (attempts : row'.attempts = row.attempts)
  | replay (replays : c.replays id answer = true) (attempts : row'.attempts = 0)
  | finish (token : c.token id answer = none) (replays : c.replays id answer = false)
      (attempts : row'.attempts = row.attempts) (status : row'.status = .completed)
  | extend (token : c.token id answer = none) (replays : c.replays id answer = false)
      (attempts : row'.attempts = row.attempts) (status : row'.status = .processing) (lease : row'.leaseUntil ≠ none)
  | lapse (token : c.token id answer = none) (replays : c.replays id answer = false)
      (lapsed : row.Lapsed t) (eq : row' = { row with status := .pending, workerId := none, leaseUntil := none, updatedAt := t })
  | same (token : c.token id answer = none) (replays : c.replays id answer = false) (eq : row' = row)

theorem claim_rowEffect {worker : String} {leaseSeconds : Int} {r : Option QueueDelivery}
    (h : s.claim t worker leaseSeconds = (r, s')) (hr : s.queue.get id = some row) :
    ∃ row', s'.queue.get id = some row' ∧ RowEffect t id (.claim worker leaseSeconds) (.ok r) row row' := by
  have hother : (StoreCall.claim worker leaseSeconds).token id (.ok r) = none → s'.queue.get id = some (swept t row) →
      ∃ row', s'.queue.get id = some row' ∧ RowEffect t id (.claim worker leaseSeconds) (.ok r) row row' := by
    intro htoken hget
    by_cases hl : row.Lapsed t
    · exact ⟨_, hget, .lapse htoken rfl hl (swept_lapsed hl)⟩
    · exact ⟨_, hget, .same htoken rfl (swept_kept hl)⟩
  rcases claim_cases h with ⟨rfl, rfl⟩ | ⟨x, hx, hst, -, rfl, hget, -⟩
  · exact hother rfl (by rw [sweep_get, hr]; rfl)
  · by_cases e : id = x.id
    · subst e
      rw [sweep_get, hr] at hx
      have hx : swept t row = x := Option.some.inj hx
      refine ⟨_, (hget _).trans (if_pos rfl), .claim ?_ (swept_pending.mp (hx ▸ hst)) rfl ?_ rfl ?_⟩
      · simp [StoreCall.token, Call.claimed, ← hx]
      · simp [← hx]
      · simp
    · refine hother ?_ ?_
      · simp [StoreCall.token, Call.claimed, Ne.symm e]
      · rw [hget, if_neg e, sweep_get, hr]
        rfl

/-- Every call takes one step with every row. -/
theorem row_effect {c : StoreCall} {answer : Except PyError c.Ret} (h : c.apply s t = (answer, s'))
    (hr : s.queue.get id = some row) :
    ∃ row', s'.queue.get id = some row' ∧ RowEffect t id c answer row row' := by
  have hk : row.id = id := Table.get_key hr
  have hfresh : id ≠ s.nextQueueId := by
    intro e
    rw [e, nextQueueId_fresh] at hr
    cases hr
  cases c with
  | createWorkflow st n =>
    refine ⟨row, ?_, .same rfl rfl rfl⟩
    rcases createWorkflow_cases h with ⟨-, -, rfl⟩ | ⟨-, -, -, hq, -⟩
    · exact hr
    · rw [hq, insertQueue_get, if_neg hfresh]
      exact hr
  | enqueue taskId n =>
    refine ⟨row, ?_, .same rfl rfl rfl⟩
    rcases enqueue_cases h with ⟨-, -, -, -, -, -, rfl⟩ | ⟨-, -, -, rfl⟩ | ⟨-, -, rfl⟩
    · exact hr
    · rw [insertQueue_get, if_neg hfresh]
      exact hr
    · exact hr
  | claim worker leaseSeconds =>
    cases h
    exact claim_rowEffect rfl hr
  | extendLease delivery leaseSeconds =>
    cases h
    have hget := @extendLease_get s t delivery leaseSeconds id
    by_cases e : id = delivery.id ∧ row.status = .processing
    · simp only [hr, Option.map_some, if_pos e] at hget
      exact ⟨_, hget, .extend rfl rfl rfl e.2 (by simp)⟩
    · simp only [hr, Option.map_some, if_neg e] at hget
      exact ⟨_, hget, .same rfl rfl rfl⟩
  | acknowledge deliveryId =>
    cases h
    have hget := @acknowledge_get s t deliveryId id
    by_cases e : id = deliveryId
    · simp only [hr, Option.map_some, if_pos e] at hget
      exact ⟨_, hget, .finish rfl rfl rfl rfl⟩
    · simp only [hr, Option.map_some, if_neg e] at hget
      exact ⟨_, hget, .same rfl rfl rfl⟩
  | retryOrDeadLetter delivery error base =>
    rcases retryOrDeadLetter_cases h with ⟨⟨m, rfl⟩, rfl⟩ | ⟨delay, -, rfl, hget, -⟩
    · exact ⟨row, hr, .same rfl rfl rfl⟩
    · have hget := hget id
      by_cases e : id = delivery.id
      · simp only [hr, Option.map_some, if_pos e] at hget
        exact ⟨_, hget, .retry (by simp [StoreCall.retries, e]) rfl rfl rfl⟩
      · simp only [hr, Option.map_some, if_neg e] at hget
        exact ⟨_, hget, .same rfl rfl rfl⟩
  | replayDeadLetter n taskId m actor reason =>
    cases h
    rcases he : s.replayDeadLetter t n taskId m actor reason with ⟨r, s'⟩
    rcases replayDeadLetter_cases he with ⟨rfl, rfl⟩ | ⟨q, w, st, hq, -, hdead, -, -, rfl, -, hget, -⟩
    · exact ⟨row, hr, .same rfl rfl rfl⟩
    · have hget := hget id
      by_cases e : id = n
      · subst e
        have : q = row := Option.some.inj (hq.symm.trans hr)
        subst this
        simp only [hr, Option.map_some, if_pos (And.intro hk hdead)] at hget
        exact ⟨_, hget, .replay (by simp [StoreCall.replays]) rfl⟩
      · have hne : ¬ (row.id = n ∧ row.status = .dead) := fun h => e (hk ▸ h.1)
        simp only [hr, Option.map_some, if_neg hne] at hget
        exact ⟨_, hget, .same rfl (by simp [StoreCall.replays, Ne.symm e]) rfl⟩
  | saveWorkflow st v =>
    have hq : s'.queue = s.queue := by
      rcases saveWorkflow_cases h with ⟨-, -, -, -, -, hq, -⟩ | ⟨-, rfl, -⟩
      · exact hq
      · rfl
    exact ⟨row, by rw [hq]; exact hr, .same rfl rfl rfl⟩
  | resolveApproval taskId actionId approved actor reason =>
    have hq : s'.queue = s.queue := by
      rcases resolveApproval_cases h with ⟨-, -, -, -, -, -, hq, -⟩ | ⟨-, rfl, -⟩
      · exact hq
      · rfl
    exact ⟨row, by rw [hq]; exact hr, .same rfl rfl rfl⟩
  | _ =>
    cases h
    exact ⟨row, hr, .same rfl rfl rfl⟩

theorem replays_of_token {c : StoreCall} {answer : Except PyError c.Ret} {n : Nat} (h : c.token id answer = some n) :
    c.replays id answer = false := by
  cases c with
  | replayDeadLetter => cases h
  | _ => rfl

/-- The row of a claim was ready, and is leased after it. -/
theorem RowEffect.claimed {c : StoreCall} {answer : Except PyError c.Ret} (h : RowEffect t id c answer row row') {n : Nat}
    (htoken : c.token id answer = some n) :
    (row.status = .pending ∨ row.Lapsed t) ∧ row'.status = .processing ∧ row'.leaseUntil ≠ none := by
  cases h with
  | claim _ ready _ _ status lease => exact ⟨ready, status, lease⟩
  | retry _ h | finish h | extend h | lapse h | same h => rw [htoken] at h; cases h
  | replay h => rw [replays_of_token htoken] at h; cases h

/-- A row that is not there is handed out by no call, and starts without attempts. -/
theorem row_absent {c : StoreCall} {answer : Except PyError c.Ret} (h : c.apply s t = (answer, s'))
    (hn : s.queue.get id = none) :
    c.token id answer = none ∧ c.replays id answer = false ∧ ∀ row, s'.queue.get id = some row → row.attempts = 0 := by
  have hinsert : ∀ {taskId : String} {n : Nat} {row : QueueRow},
      (s.insertQueue t taskId n).queue.get id = some row → row.attempts = 0 := by
    intro taskId n row hr
    rw [insertQueue_get] at hr
    split at hr
    · cases hr; rfl
    · rw [hn] at hr; cases hr
  have hnone : ∀ {s' : SQLiteStore}, s'.queue.get id = none → ∀ row, s'.queue.get id = some row → row.attempts = 0 := by
    intro s' hn row hr
    rw [hn] at hr; cases hr
  cases c with
  | createWorkflow st n =>
    refine ⟨rfl, rfl, ?_⟩
    rcases createWorkflow_cases h with ⟨-, -, rfl⟩ | ⟨-, -, -, hq, -⟩
    · exact hnone hn
    · intro row hr
      rw [hq] at hr
      exact hinsert hr
  | enqueue taskId n =>
    refine ⟨rfl, rfl, ?_⟩
    rcases enqueue_cases h with ⟨-, -, -, -, -, -, rfl⟩ | ⟨-, -, -, rfl⟩ | ⟨-, -, rfl⟩
    · exact hnone hn
    · exact fun row => hinsert
    · exact hnone hn
  | claim worker leaseSeconds =>
    cases h
    rcases he : s.claim t worker leaseSeconds with ⟨r, s'⟩
    rcases claim_cases he with ⟨rfl, rfl⟩ | ⟨x, hx, -, -, rfl, hget, -⟩
    · exact ⟨rfl, rfl, hnone (by rw [sweep_get, hn]; rfl)⟩
    · have hne : x.id ≠ id := by
        intro e
        rw [e, sweep_get, hn] at hx
        cases hx
      refine ⟨by simp [StoreCall.token, Call.claimed, hne], rfl, hnone ?_⟩
      rw [hget, if_neg hne.symm, sweep_get, hn]
      rfl
  | extendLease delivery leaseSeconds =>
    cases h
    exact ⟨rfl, rfl, hnone (by rw [extendLease_get, hn]; rfl)⟩
  | acknowledge deliveryId =>
    cases h
    exact ⟨rfl, rfl, hnone (by rw [acknowledge_get, hn]; rfl)⟩
  | retryOrDeadLetter delivery error base =>
    refine ⟨rfl, rfl, ?_⟩
    rcases retryOrDeadLetter_cases h with ⟨-, rfl⟩ | ⟨delay, -, -, hg, -⟩
    · exact hnone hn
    · exact hnone (by rw [hg, hn]; rfl)
  | replayDeadLetter n taskId m actor reason =>
    cases h
    rcases he : s.replayDeadLetter t n taskId m actor reason with ⟨r, s'⟩
    rcases replayDeadLetter_cases he with ⟨rfl, rfl⟩ | ⟨q, w, st, hq, -, -, -, -, rfl, -, hg, -⟩
    · exact ⟨rfl, rfl, hnone hn⟩
    · have hne : n ≠ id := by
        intro e
        rw [e, hn] at hq
        cases hq
      exact ⟨rfl, by simp [StoreCall.replays, hne], hnone (by rw [hg, hn]; rfl)⟩
  | saveWorkflow st v =>
    refine ⟨rfl, rfl, hnone ?_⟩
    rcases saveWorkflow_cases h with ⟨-, -, -, -, -, hq, -⟩ | ⟨-, rfl, -⟩
    · rw [hq]; exact hn
    · exact hn
  | resolveApproval taskId actionId approved actor reason =>
    refine ⟨rfl, rfl, hnone ?_⟩
    rcases resolveApproval_cases h with ⟨-, -, -, -, -, -, hq, -⟩ | ⟨-, rfl, -⟩
    · rw [hq]; exact hn
    · exact hn
  | _ =>
    cases h
    exact ⟨rfl, rfl, hnone hn⟩

/-! ## Histories -/

/-- A call: when it was made, its answer, and the store before and after it. -/
structure Moment where
  time : Timestamp
  call : StoreCall
  answer : Except PyError call.Ret
  found : SQLiteStore
  left : SQLiteStore

/-- The calls made on a new database, newest first. -/
inductive History : List Moment → SQLiteStore → Prop
  | start : History [] .empty
  | next {ms : List Moment} {s : SQLiteStore} (h : History ms s) (t : Timestamp) (c : StoreCall)
      (later : ∀ m ∈ ms.head?, m.time ≤ t) :
      History (⟨t, c, (c.apply s t).1, s, (c.apply s t).2⟩ :: ms) (c.apply s t).2

namespace Moment

variable (m : Moment)

def claimed : Option QueueDelivery := (Call.store m.call).claimed m.answer

def releases (id : Nat) : Bool := m.call.retries id m.answer || m.call.replays id m.answer

/-- The lease that row `id` has after the call. -/
def lease (id : Nat) : Option Timestamp := (m.left.queue.get id).bind (·.leaseUntil)

end Moment

/-- The lease recorded last for row `id`. -/
def recorded (id : Nat) (ms : List Moment) : Option Timestamp := ms.findSome? (·.lease id)

/-- The attempts that row `id` was claimed with since it was last replayed, newest first. -/
def tokens (id : Nat) : List Moment → List Nat
  | [] => []
  | m :: ms => if m.call.replays id m.answer then [] else (m.call.token id m.answer).toList ++ tokens id ms

variable {m : Moment} {ms : List Moment}

theorem History.older (h : History (m :: ms) s) :
    ∃ s', History ms s' ∧ m.found = s' ∧ m.call.apply s' m.time = (m.answer, m.left) ∧ s = m.left ∧
      ∀ m' ∈ ms.head?, m'.time ≤ m.time := by
  cases h with
  | next h t c later => exact ⟨_, h, rfl, rfl, rfl, later⟩

theorem History.suffix {newer older : List Moment} (h : History (newer ++ older) s) : ∃ s', History older s' := by
  induction newer generalizing s with
  | nil => exact ⟨s, h⟩
  | cons m newer ih =>
    obtain ⟨s', h, -⟩ := h.older
    exact ih h

theorem token_claimed {delivery : QueueDelivery} (h : m.claimed = some delivery) :
    m.call.token delivery.id m.answer = some delivery.attempts := by
  unfold Moment.claimed at h
  simp [StoreCall.token, h]

theorem claimed_call {delivery : QueueDelivery} (h : m.claimed = some delivery) :
    ∃ worker leaseSeconds, m.call = .claim worker leaseSeconds := by
  obtain ⟨t, c, answer, found, left⟩ := m
  cases c with
  | claim worker leaseSeconds => exact ⟨worker, leaseSeconds, rfl⟩
  | _ => cases h

/-! ## Attempts -/

/-- The attempts of every row count its claims. -/
theorem history_tokens (h : History ms s) (id : Nat) :
    (s.queue.get id = none → tokens id ms = []) ∧
      ∀ row, s.queue.get id = some row → (tokens id ms).reverse = List.range' 1 row.attempts := by
  induction h with
  | start => exact ⟨fun _ => rfl, fun _ hr => by cases hr⟩
  | @next ms s h t c later ih =>
    rcases he : c.apply s t with ⟨answer, s'⟩
    cases hg : s.queue.get id with
    | none =>
      obtain ⟨htoken, hreplays, hnew⟩ := row_absent he hg
      have htokens : tokens id (⟨t, c, answer, s, s'⟩ :: ms) = [] := by
        simp [tokens, htoken, hreplays, ih.1 hg]
      refine ⟨fun _ => htokens, fun row hr => ?_⟩
      rw [htokens, hnew row hr]
      rfl
    | some row =>
      have hih := ih.2 row hg
      obtain ⟨row', hr', hstep⟩ := row_effect he hg
      refine ⟨fun hn => (by rw [hn] at hr'; cases hr'), fun x hx => ?_⟩
      have hx : row' = x := Option.some.inj (hr'.symm.trans hx)
      subst hx
      have hkept : c.token id answer = none → c.replays id answer = false → row'.attempts = row.attempts →
          (tokens id (⟨t, c, answer, s, s'⟩ :: ms)).reverse = List.range' 1 row'.attempts := by
        intro htoken hreplays hattempts
        simp [tokens, htoken, hreplays, hih, hattempts]
      cases hstep with
      | claim htoken _ hreplays hattempts =>
        simp only [tokens, htoken, hreplays, hattempts]
        simp [hih, List.range'_concat, Nat.add_comm]
      | retry _ htoken hreplays hattempts => exact hkept htoken hreplays hattempts
      | replay hreplays hattempts => simp [tokens, hreplays, hattempts]
      | finish htoken hreplays hattempts => exact hkept htoken hreplays hattempts
      | extend htoken hreplays hattempts => exact hkept htoken hreplays hattempts
      | lapse htoken hreplays _ heq => exact hkept htoken hreplays (by rw [heq])
      | same htoken hreplays heq => exact hkept htoken hreplays (by rw [heq])

/-! ## Exclusivity -/

/-- What a row that no call has released since its claim says about the lease recorded for
    it: the row holds it, or it ended before the last call. -/
structure Kept (id : Nat) (ms : List Moment) (row : QueueRow) : Prop where
  processing : row.status = .processing → ∃ lease, row.leaseUntil = some lease ∧ recorded id ms = some lease
  pending : row.status = .pending → row.leaseUntil = none ∧
    ∃ lease, recorded id ms = some lease ∧ ∃ m ∈ ms.head?, lease < m.time

theorem recorded_some (h : m.left.queue.get id = some row) {lease : Timestamp} (hl : row.leaseUntil = some lease) :
    recorded id (m :: ms) = some lease := by
  simp [recorded, Moment.lease, h, hl]

theorem recorded_none (h : m.left.queue.get id = some row) (hl : row.leaseUntil = none) :
    recorded id (m :: ms) = recorded id ms := by
  simp [recorded, Moment.lease, h, hl]

theorem kept_leased (h : m.left.queue.get id = some row) (hst : row.status = .processing) (hl : row.leaseUntil ≠ none) :
    Kept id (m :: ms) row := by
  obtain ⟨lease, hl⟩ := Option.ne_none_iff_exists'.mp hl
  refine ⟨fun _ => ⟨lease, hl, recorded_some h hl⟩, fun hp => ?_⟩
  rw [hst] at hp
  cases hp

theorem releases_false {id : Nat} (h : m.releases id = false) :
    m.call.retries id m.answer = false ∧ m.call.replays id m.answer = false := by
  simpa [Moment.releases] using h

/-- A call that releases nothing keeps it. -/
theorem kept_step (hk : Kept id ms row) (hr : m.found.queue.get id = some row)
    (hm : m.call.apply m.found m.time = (m.answer, m.left)) (hlater : ∀ m' ∈ ms.head?, m'.time ≤ m.time)
    (hno : m.releases id = false) : ∃ row', m.left.queue.get id = some row' ∧ Kept id (m :: ms) row' := by
  obtain ⟨row', hr', hstep⟩ := row_effect hm hr
  refine ⟨row', hr', ?_⟩
  cases hstep with
  | claim _ _ _ _ hst hl => exact kept_leased hr' hst hl
  | retry h => rw [(releases_false hno).1] at h; cases h
  | replay h => rw [(releases_false hno).2] at h; cases h
  | finish _ _ _ hst =>
    constructor
    · intro h; rw [hst] at h; cases h
    · intro h; rw [hst] at h; cases h
  | extend _ _ _ hst hl => exact kept_leased hr' hst hl
  | lapse _ _ hlapsed heq =>
    subst heq
    obtain ⟨hst, lease, hl, hlt⟩ := hlapsed
    obtain ⟨lease', hl', hrec⟩ := hk.processing hst
    have : lease' = lease := Option.some.inj (hl'.symm.trans hl)
    subst this
    constructor
    · intro h; cases h
    · intro _
      exact ⟨rfl, lease', by rw [recorded_none hr' rfl]; exact hrec, m, rfl, hlt⟩
  | same _ _ heq =>
    subst heq
    constructor
    · intro hst
      obtain ⟨lease, hl, -⟩ := hk.processing hst
      exact ⟨lease, hl, recorded_some hr' hl⟩
    · intro hst
      obtain ⟨hl, lease, hrec, m', hm', hlt⟩ := hk.pending hst
      exact ⟨hl, lease, by rw [recorded_none hr' hl]; exact hrec, m, rfl, hlt.trans_le (hlater m' hm')⟩

theorem kept_claimed {delivery : QueueDelivery} (hc : m.claimed = some delivery)
    (hm : m.call.apply m.found m.time = (m.answer, m.left)) :
    ∃ row, m.left.queue.get delivery.id = some row ∧ Kept delivery.id [m] row := by
  have htoken := token_claimed hc
  cases hr : m.found.queue.get delivery.id with
  | none =>
    rw [(row_absent hm hr).1] at htoken
    cases htoken
  | some row =>
    obtain ⟨row', hr', hstep⟩ := row_effect hm hr
    obtain ⟨-, hst, hl⟩ := hstep.claimed htoken
    exact ⟨row', hr', kept_leased hr' hst hl⟩

/-- From a claim on, as long as no call releases the row. -/
theorem kept_between {between older : List Moment} {delivery : QueueDelivery} (h : History (between ++ m :: older) s)
    (hc : m.claimed = some delivery) (hno : ∀ m' ∈ between, m'.releases delivery.id = false) :
    ∃ row, s.queue.get delivery.id = some row ∧ Kept delivery.id (between ++ [m]) row := by
  induction between generalizing s with
  | nil =>
    obtain ⟨s', -, rfl, hm, rfl, -⟩ := h.older
    exact kept_claimed hc hm
  | cons m' between ih =>
    obtain ⟨s', hold, rfl, hm, rfl, hlater⟩ := h.older
    obtain ⟨row, hr, hk⟩ := ih hold fun x hx => hno x (List.mem_cons_of_mem _ hx)
    refine kept_step hk hr hm (fun x hx => hlater x ?_) (hno m' (List.mem_cons_self ..))
    cases between <;> exact hx

/-! ## The claims of a history -/

/-- Two claims of one row: between them it was released, or the lease recorded for it ended
    before the second. -/
def Exclusive (ms : List Moment) : Prop :=
  ∀ newer m₂ between m₁ older d₁ d₂, ms = newer ++ m₂ :: (between ++ m₁ :: older) → m₁.claimed = some d₁ →
    m₂.claimed = some d₂ → d₁.id = d₂.id →
    (∃ m ∈ between, m.releases d₁.id = true) ∨ ∃ lease, recorded d₁.id (between ++ [m₁]) = some lease ∧ lease < m₂.time

theorem history_exclusive (h : History ms s) : Exclusive ms := by
  intro newer m₂ between m₁ older d₁ d₂ he hc₁ hc₂ hid
  subst he
  by_cases hrel : ∃ m ∈ between, m.releases d₁.id = true
  · exact .inl hrel
  · right
    obtain ⟨s₂, h⟩ := h.suffix
    obtain ⟨s', hold, -, hm, -, hlater⟩ := h.older
    obtain ⟨row, hr, hk⟩ := kept_between hold hc₁ fun m hm => by
      by_contra hne
      exact hrel ⟨m, hm, by simpa using hne⟩
    obtain ⟨row', -, hstep⟩ := row_effect hm hr
    have htoken := token_claimed hc₂
    rw [← hid] at htoken
    rcases (hstep.claimed htoken).1 with hst | ⟨hst, lease, hl, hlt⟩
    · obtain ⟨-, lease, hrec, m, hmem, hlt⟩ := hk.pending hst
      exact ⟨lease, hrec, hlt.trans_le (hlater m (by cases between <;> exact hmem))⟩
    · obtain ⟨lease', hl', hrec⟩ := hk.processing hst
      have : lease' = lease := Option.some.inj (hl'.symm.trans hl)
      exact ⟨lease', hrec, this ▸ hlt⟩

theorem history_takes (h : History ms s) {delivery : QueueDelivery} (hm : m ∈ ms) (hc : m.claimed = some delivery) :
    Takes m.found m.time delivery m.left := by
  induction h with
  | start => cases hm
  | next h t c later ih =>
    rcases List.mem_cons.mp hm with rfl | hm
    · obtain ⟨worker, leaseSeconds, hcall⟩ := claimed_call hc
      cases hcall
      exact claim_takes (Prod.ext hc rfl)
    · exact ih hm

/-- In every history of store calls: no row is claimed again before it was released or its
    lease ended; since it was created or replayed it is handed out with attempts 1, 2, 3 and so
    on; and a claim takes the lowest row that is ready and only gives back lapsed ones. -/
theorem history_claims (h : History ms s) :
    Exclusive ms ∧ (∀ id, ∃ n, (tokens id ms).reverse = List.range' 1 n) ∧
      ∀ m ∈ ms, ∀ delivery, m.claimed = some delivery → Takes m.found m.time delivery m.left := by
  refine ⟨history_exclusive h, fun id => ?_, fun m hm delivery hc => history_takes h hm hc⟩
  cases hr : s.queue.get id with
  | none => exact ⟨0, by rw [(history_tokens h id).1 hr]; rfl⟩
  | some row => exact ⟨row.attempts, (history_tokens h id).2 row hr⟩

/-- An incident with a delivery that may be attempted once. -/
def onceOnly : Timestamp × StoreCall :=
  (0, .createWorkflow { taskId := "t", goal := "restore checkout", createdAt := 0, updatedAt := 0 } 1)

/-- The incident is claimed twice: the first lease ended between. -/
theorem history_claims_twice : ∃ ms s, History ms s ∧ tokens 1 ms = [2, 1] ∧ Exclusive ms ∧
    ∀ m ∈ ms, ∀ delivery, m.claimed = some delivery → Takes m.found m.time delivery m.left := by
  have h := ((History.start.next 0 onceOnly.2 (by simp)).next 0 (.claim "w1" 60) (by simp)).next (seconds 61)
    (.claim "w2" 60) (by simp [seconds])
  exact ⟨_, _, h, by decide +kernel, (history_claims h).1, (history_claims h).2.2⟩

end AgentResilience
