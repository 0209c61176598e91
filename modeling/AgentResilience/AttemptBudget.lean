/-
  AgentResilience.AttemptBudget — how often a delivery is handed out. `claim` raises the
  attempts of the row it takes and returns it to `PENDING` when its lease ends; only
  `retryOrDeadLetter` compares the attempts with `maxAttempts`, and a worker that dies
  never gets there. A run is a list of timed store calls, with any arguments.

  - `FindsSpent`: a claim comes upon a delivery without attempts left.
  - `Exhausts`: the calls that put a row without attempts left back into the queue.
  - `attempts_bounded_iff`: the attempts are bounded, and deliveries whose workers died dead,
    exactly in the runs where no claim finds such a delivery; so in those without such a call.
  - `dying_never_dead`: workers that only claim and die never get a delivery out of the queue.
-/
import AgentResilience.QueueHistory

namespace AgentResilience

namespace SQLiteStore

/-- The store after a run. -/
def after (s : SQLiteStore) : List (Timestamp × StoreCall) → SQLiteStore
  | [] => s
  | (t, c) :: ops => ((c.apply s t).2).after ops

theorem after_append (s : SQLiteStore) (ops ops' : List (Timestamp × StoreCall)) :
    s.after (ops ++ ops') = (s.after ops).after ops' := by
  induction ops generalizing s with
  | nil => rfl
  | cons op ops ih => exact ih _

end SQLiteStore

open SQLiteStore

/-- At a claim at time `t`, a row without attempts left has a lease that ended, or is the first one that is ready. -/
def FindsSpent (s : SQLiteStore) (t : Timestamp) : Prop :=
  ∃ id row, s.queue.get id = some row ∧ row.maxAttempts ≤ row.attempts ∧
    (row.Lapsed t ∨ row.Ready t ∧ ∀ id' row', s.queue.get id' = some row' → row'.Ready t → id ≤ id')

/-- No claim of the run finds a row without attempts left. -/
def NeverFindsSpent : SQLiteStore → List (Timestamp × StoreCall) → Prop
  | _, [] => True
  | s, (t, c) :: ops => (∀ worker leaseSeconds, c = .claim worker leaseSeconds → ¬ FindsSpent s t) ∧ NeverFindsSpent (c.apply s t).2 ops

/-- The claim hands out no delivery with more attempts than it may have, and leaves dead the one whose last worker died. -/
def ClaimBounded (s : SQLiteStore) (t : Timestamp) (worker : String) (leaseSeconds : Int) : Prop :=
  (∀ delivery, (s.claim t worker leaseSeconds).1 = some delivery → delivery.attempts ≤ delivery.maxAttempts) ∧
  ∀ id row, s.queue.get id = some row → row.Lapsed t → row.maxAttempts ≤ row.attempts →
    ∃ row', (s.claim t worker leaseSeconds).2.queue.get id = some row' ∧ row'.status = .dead

/-- Every claim of the run is bounded. -/
def Bounded : SQLiteStore → List (Timestamp × StoreCall) → Prop
  | _, [] => True
  | s, (t, c) :: ops => (∀ worker leaseSeconds, c = .claim worker leaseSeconds → ClaimBounded s t worker leaseSeconds) ∧
      Bounded (c.apply s t).2 ops

/-- The call puts a row back, or a new one in, that has no attempts left: a claim finds the
    lease of a row's last attempt ended, a retry is for an attempt before the row's last, or
    the row starts with none. -/
def Exhausts (s : SQLiteStore) (t : Timestamp) : StoreCall → Prop
  | .claim .. => ∃ id row, s.queue.get id = some row ∧ row.Lapsed t ∧ row.maxAttempts ≤ row.attempts
  | .retryOrDeadLetter delivery .. => delivery.attempts < delivery.maxAttempts ∧ delivery.attempts ≤ 1024 ∧
      ∃ row, s.queue.get delivery.id = some row ∧ row.maxAttempts ≤ row.attempts
  | .createWorkflow st maxAttempts => maxAttempts = 0 ∧ s.workflows.get st.taskId = none
  | .enqueue taskId maxAttempts => maxAttempts = 0 ∧ s.workflows.get taskId ≠ none ∧
      ∀ id row, s.queue.get id = some row → row.taskId = taskId → row.status = .completed ∨ row.status = .dead
  | .replayDeadLetter id taskId maxAttempts .. => maxAttempts = 0 ∧ s.workflows.get taskId ≠ none ∧
      ∃ row, s.queue.get id = some row ∧ row.taskId = taskId ∧ row.status = .dead
  | _ => False

/-- No call of the run exhausts a row. -/
def Sparing : SQLiteStore → List (Timestamp × StoreCall) → Prop
  | _, [] => True
  | s, (t, c) :: ops => ¬ Exhausts s t c ∧ Sparing (c.apply s t).2 ops

/-! ## One claim -/

variable {s s' : SQLiteStore} {t : Timestamp}

theorem claim_ready (worker : String) (leaseSeconds : Int) {id : Nat} {row : QueueRow} (hr : s.queue.get id = some row)
    (h : row.Ready t) : ∃ delivery, (s.claim t worker leaseSeconds).1 = some delivery := by
  have hmem := claimable_swept hr h
  unfold claim
  simp only
  split
  · rename_i hnone
    rw [List.argmin_eq_none.mp hnone] at hmem
    cases hmem
  · exact ⟨_, rfl⟩

/-- A claim leaves no row of the queue dead. -/
theorem claim_stays (t : Timestamp) (worker : String) (leaseSeconds : Int) {id : Nat} {row : QueueRow} (hr : s.queue.get id = some row)
    (hlive : row.status = .pending ∨ row.status = .processing) :
    ∃ row', (s.claim t worker leaseSeconds).2.queue.get id = some row' ∧ (row'.status = .pending ∨ row'.status = .processing) := by
  rcases he : s.claim t worker leaseSeconds with ⟨r, s''⟩
  rcases SQLiteStore.claim_row he id with ⟨-, hn⟩ | ⟨x, x', hx, hx', -, hst, -⟩
  · rw [hn] at hr; cases hr
  · rw [hr] at hx; cases hx
    refine ⟨x', hx', ?_⟩
    rw [hst, SQLiteStore.swept_status]
    by_cases hc : r.any (fun d => d.id = id) = true
    · simp [hc]
    · by_cases hexp : SQLiteStore.isExpired t row = true
      · simp [hc, hexp]
      · simpa [hc, hexp] using hlive

/-- A claim is bounded exactly if it finds no row without attempts left. -/
theorem claimBounded_iff {worker : String} {leaseSeconds : Int} : ClaimBounded s t worker leaseSeconds ↔ ¬ FindsSpent s t := by
  constructor
  · rintro ⟨hattempts, hdead⟩ ⟨id, row, hr, hspent, hlapsed | ⟨hready, hfirst⟩⟩
    · obtain ⟨row', hr', hst⟩ := hdead id row hr hlapsed hspent
      obtain ⟨row'', hr'', hlive⟩ := claim_stays t worker leaseSeconds hr (.inr hlapsed.1)
      cases hr'.symm.trans hr''
      rw [hst] at hlive
      simp at hlive
    · obtain ⟨delivery, hd⟩ := claim_ready worker leaseSeconds hr hready
      have htakes : Takes s t delivery (s.claim t worker leaseSeconds).2 := claim_takes (Prod.ext hd rfl)
      obtain ⟨row', -, hr', hready', hatt, -⟩ := htakes.taken
      have hid : delivery.id = id := Nat.le_antisymm (htakes.lowest id row hr hready) (hfirst _ row' hr' hready')
      rw [hid, hr] at hr'; cases hr'
      have hle := hattempts delivery hd
      rw [claim_maxAttempts hd (hid ▸ hr), hatt] at hle
      omega
  · intro h
    refine ⟨fun delivery hd => ?_, fun id row hr hlapsed hspent => absurd ⟨id, row, hr, hspent, .inl hlapsed⟩ h⟩
    have htakes : Takes s t delivery (s.claim t worker leaseSeconds).2 := claim_takes (Prod.ext hd rfl)
    obtain ⟨row, -, hr, hready, hatt, -⟩ := htakes.taken
    by_contra hgt
    rw [claim_maxAttempts hd hr, hatt] at hgt
    exact h ⟨delivery.id, row, hr, by omega, .inr ⟨hready, htakes.lowest⟩⟩

/-! ## The invariant -/

structure QueueRow.InBudget (row : QueueRow) : Prop where
  pending : row.status = .pending → row.attempts < row.maxAttempts
  processing : row.status = .processing → row.attempts ≤ row.maxAttempts

def InBudget (s : SQLiteStore) : Prop := ∀ id row, s.queue.get id = some row → row.InBudget

/-- A change of the rows that keeps each within its budget. -/
theorem InBudget.map {g : Nat → QueueRow → QueueRow} (h : InBudget s)
    (hq : ∀ id, s'.queue.get id = (s.queue.get id).map (g id))
    (hg : ∀ id row, s.queue.get id = some row → row.InBudget → (g id row).InBudget) : InBudget s' := by
  intro id row' hr'
  rw [hq] at hr'
  obtain ⟨row, hr, rfl⟩ := Option.map_eq_some_iff.mp hr'
  exact hg id row hr (h id row hr)

theorem InBudget.insert {taskId : String} {n : Nat} (h : InBudget s) (hn : n ≠ 0) : InBudget (s.insertQueue t taskId n) := by
  intro id row hr
  rw [SQLiteStore.insertQueue_get] at hr
  split at hr
  · cases hr
    exact ⟨fun _ => by show 0 < n; omega, fun h => by cases h⟩
  · exact h id row hr

/-- The sweep of a claim. -/
theorem InBudget.sweep (h : InBudget s)
    (hc : ∀ id row, s.queue.get id = some row → row.Lapsed t → row.attempts < row.maxAttempts) : InBudget (s.sweep t) := by
  refine h.map (g := fun _ => swept t) sweep_get fun id row hr hrow => ?_
  by_cases hlapsed : row.Lapsed t
  · rw [swept_lapsed hlapsed]
    exact ⟨fun _ => hc id row hr hlapsed, fun h => by cases h⟩
  · rw [swept_kept hlapsed]
    exact hrow

theorem claim_inBudget (h : InBudget s) {worker : String} {leaseSeconds : Int}
    (hc : ¬ Exhausts s t (.claim worker leaseSeconds)) {r : Option QueueDelivery} (he : s.claim t worker leaseSeconds = (r, s')) :
    InBudget s' := by
  have hsweep : InBudget (s.sweep t) := by
    refine h.sweep fun id row hr hlapsed => ?_
    by_contra hle
    exact hc ⟨id, row, hr, hlapsed, by omega⟩
  rcases SQLiteStore.claim_cases he with ⟨rfl, rfl⟩ | ⟨row, hr, hst, -, rfl, hg, -⟩
  · exact hsweep
  · have hlt := (hsweep _ row hr).pending hst
    intro id row' hr'
    rw [hg] at hr'
    split at hr'
    · cases hr'
      exact ⟨fun h => (by cases h), fun _ => hlt⟩
    · exact hsweep id row' hr'

/-- Within the budget a claim finds no row without attempts left, unless its last lease ended. -/
theorem InBudget.finds (h : InBudget s) {worker : String} {leaseSeconds : Int} (hc : ¬ Exhausts s t (.claim worker leaseSeconds)) :
    ¬ FindsSpent s t := by
  rintro ⟨id, row, hr, hspent, hlapsed | ⟨⟨hpending | hlapsed, -⟩, -⟩⟩
  · exact hc ⟨id, row, hr, hlapsed, hspent⟩
  · have := (h id row hr).pending hpending
    omega
  · exact hc ⟨id, row, hr, hlapsed, hspent⟩

/-- Every call that exhausts no row keeps every row within its budget. -/
theorem apply_inBudget (h : InBudget s) {c : StoreCall} (hc : ¬ Exhausts s t c) : InBudget (c.apply s t).2 := by
  have hq := fun h : c.writesQueue = false => StoreCall.apply_queue h s t
  have hsame : ∀ {s'' : SQLiteStore}, s''.queue = s.queue → InBudget s'' := fun e => by unfold InBudget; rw [e]; exact h
  cases c with
  | createWorkflow st n =>
    rcases he : s.createWorkflow t st n with ⟨r, s''⟩
    show InBudget (s.createWorkflow t st n).2
    rw [he]
    rcases SQLiteStore.createWorkflow_cases he with ⟨-, -, rfl⟩ | ⟨hn, -, -, hqueue, -⟩
    · exact h
    · have hi : InBudget (s.insertQueue t st.taskId n) := h.insert fun e => hc ⟨e, hn⟩
      unfold InBudget at hi ⊢
      rw [hqueue]; exact hi
  | enqueue taskId n =>
    rcases he : s.enqueue t taskId n with ⟨r, s''⟩
    show InBudget (s.enqueue t taskId n).2
    rw [he]
    rcases SQLiteStore.enqueue_cases he with ⟨row, -, -, -, -, -, rfl⟩ | ⟨hrows, hw, -, rfl⟩ | ⟨-, -, rfl⟩
    · exact h
    · exact h.insert fun e => hc ⟨e, hw, hrows⟩
    · exact h
  | claim worker leaseSeconds => exact claim_inBudget h hc rfl
  | extendLease delivery leaseSeconds =>
    refine h.map (fun id => SQLiteStore.extendLease_get delivery leaseSeconds id) fun id row _ hrow => ?_
    split
    · exact ⟨hrow.pending, hrow.processing⟩
    · exact hrow
  | acknowledge n =>
    refine h.map (fun id => SQLiteStore.acknowledge_get n id) fun id row _ hrow => ?_
    split
    · exact ⟨fun h => (by cases h), fun h => (by cases h)⟩
    · exact hrow
  | retryOrDeadLetter delivery error base =>
    rcases he : s.retryOrDeadLetter t delivery error base with ⟨r, s''⟩
    show InBudget (s.retryOrDeadLetter t delivery error base).2
    rw [he]
    rcases SQLiteStore.retryOrDeadLetter_cases he with ⟨-, rfl⟩ | ⟨delay, hdelay, -, hg, -⟩
    · exact h
    · have hk := backoff_ok_iff.mp ⟨delay, hdelay⟩
      refine h.map hg fun id row hr hrow => ?_
      split
      · rename_i hid
        refine ⟨fun hp => ?_, fun hp => ?_⟩
        · by_contra hle
          by_cases hd : delivery.maxAttempts ≤ delivery.attempts
          · simp [hd] at hp
          · exact hc ⟨by omega, by omega, row, by rw [← hid]; exact hr, Nat.le_of_not_lt hle⟩
        · simp only at hp
          split at hp <;> cases hp
      · exact hrow
  | replayDeadLetter n taskId m actor reason =>
    rcases he : s.replayDeadLetter t n taskId m actor reason with ⟨r, s''⟩
    show InBudget (s.replayDeadLetter t n taskId m actor reason).2
    rw [he]
    rcases SQLiteStore.replayDeadLetter_cases he with ⟨-, rfl⟩ | ⟨q, x, state, hq, ht, hd, hx, -, -, -, hg, -⟩
    · exact h
    · have hm : m ≠ 0 := fun e => hc ⟨e, by rw [hx]; simp, q, hq, ht, hd⟩
      refine h.map (g := fun _ => _) hg fun id row _ hrow => ?_
      split
      · exact ⟨fun _ => Nat.pos_of_ne_zero hm, fun h => by cases h⟩
      · exact hrow
  | _ => exact hsame (hq rfl)

/-! ## Runs -/

theorem inBudget_empty : InBudget .empty := fun _ _ h => by cases h

/-- The claims of a run are bounded exactly if none finds a row without attempts left. -/
theorem bounded_iff {ops : List (Timestamp × StoreCall)} : Bounded s ops ↔ NeverFindsSpent s ops := by
  induction ops generalizing s with
  | nil => exact Iff.rfl
  | cons op ops ih =>
    obtain ⟨t, c⟩ := op
    unfold Bounded NeverFindsSpent
    rw [ih]
    refine and_congr_left' ?_
    exact forall_congr' fun worker => forall_congr' fun leaseSeconds => imp_congr_right fun _ => claimBounded_iff

/-- Where no call exhausts a row, none does. -/
theorem Sparing.neverFindsSpent {ops : List (Timestamp × StoreCall)} (h : InBudget s) (hs : Sparing s ops) : NeverFindsSpent s ops := by
  induction ops generalizing s with
  | nil => trivial
  | cons op ops ih =>
    refine ⟨fun worker leaseSeconds hc => h.finds (hc ▸ hs.1), ih (apply_inBudget h hs.1) hs.2⟩

/-- However many workers die after their claim, the delivery stays in the queue. -/
theorem dying_never_dead {claims : List (Timestamp × String × Int)} {id : Nat} {row : QueueRow}
    (hr : s.queue.get id = some row) (hlive : row.status = .pending ∨ row.status = .processing) :
    ∃ row', (s.after (claims.map fun c => (c.1, .claim c.2.1 c.2.2))).queue.get id = some row' ∧
      (row'.status = .pending ∨ row'.status = .processing) := by
  induction claims generalizing s row with
  | nil => exact ⟨row, hr, hlive⟩
  | cons c claims ih =>
    obtain ⟨row', hr', hlive'⟩ := claim_stays c.1 c.2.1 c.2.2 hr hlive
    exact ih hr' hlive'

/-- The attempts are bounded in a run, and deliveries whose last worker died dead, exactly if no claim of it finds a row without
    attempts left, which is so where no call puts one back; and where every worker dies, no delivery is ever dead. -/
theorem attempts_bounded_iff (ops : List (Timestamp × StoreCall)) :
    (Bounded .empty ops ↔ NeverFindsSpent .empty ops) ∧
    (Sparing .empty ops → NeverFindsSpent .empty ops) ∧
    ∀ (claims : List (Timestamp × String × Int)) id row, (SQLiteStore.empty.after ops).queue.get id = some row →
      (row.status = .pending ∨ row.status = .processing) →
      ∃ row', (SQLiteStore.empty.after (ops ++ claims.map fun c => (c.1, .claim c.2.1 c.2.2))).queue.get id = some row' ∧
        (row'.status = .pending ∨ row'.status = .processing) := by
  refine ⟨bounded_iff, Sparing.neverFindsSpent inBudget_empty, fun claims id row hr hlive => ?_⟩
  rw [SQLiteStore.after_append]
  exact dying_never_dead hr hlive

/-- The first worker of a delivery that may be attempted once dies after the claim; a minute later another one asks for work. -/
theorem reclaimed : ¬ Bounded .empty [onceOnly, (0, .claim "w1" 60), (seconds 61, .claim "w2" 60)] ∧
    ((SQLiteStore.empty.after [onceOnly, (0, .claim "w1" 60)]).claim (seconds 61) "w2" 60).1.map
      (fun delivery => (delivery.attempts, delivery.maxAttempts)) = some (2, 1) := by
  have hrun : ((SQLiteStore.empty.after [onceOnly, (0, .claim "w1" 60)]).claim (seconds 61) "w2" 60).1.map
      (fun delivery => (delivery.attempts, delivery.maxAttempts)) = some (2, 1) := by decide +kernel
  refine ⟨fun hb => ?_, hrun⟩
  obtain ⟨delivery, hd, he⟩ := Option.map_eq_some_iff.mp hrun
  have hle := (hb.2.2.1 "w2" 60 rfl).1 delivery hd
  have h2 : delivery.attempts = 2 := congrArg Prod.fst he
  have h1 : delivery.maxAttempts = 1 := congrArg Prod.snd he
  omega

end AgentResilience
