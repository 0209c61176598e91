/-
  AgentResilience.StoredTimes — the tables as they are stored, every time a text
  (`isoformat`). The statements compare and sort texts (`lease_until < ?`,
  `available_at <= ?`, `ORDER BY updated_at DESC`, an event's sort key); the methods of
  SQLiteStore compare times.

  `claimRows`, `listRows` and `listDeadRows` are the statements on stored rows.
  `claimRows_stored`, `listRows_stored`, `listDeadRows_stored`: on a store of times that a
  datetime can have they do what the methods do. `texts_order_as_times` joins them.
-/
import Mathlib.Data.List.TakeDrop
import AgentResilience.Lib.Calendar
import AgentResilience.AwsEvents
import AgentResilience.Listing

namespace AgentResilience

open DateTime (Representable)
open EventLog (RecordCall eventItem toList_sk)

/-! ## The text of a time -/

def isoText (t : Timestamp) : String := (DateTime.ofMicroseconds t).isoformat

variable {a b now : Timestamp}

theorem isoText_lt (ha : Representable a) (hb : Representable b) : isoText a < isoText b ↔ a < b := by
  unfold isoText
  rw [DateTime.isoformat_lt_iff (DateTime.valid_ofMicroseconds ha) (DateTime.valid_ofMicroseconds hb),
    DateTime.ofMicroseconds_lt_iff ha hb]

theorem isoText_le (ha : Representable a) (hb : Representable b) : isoText a ≤ isoText b ↔ a ≤ b := by
  rw [← not_lt, isoText_lt hb ha, not_lt]

/-! ## Dead letters -/

structure DeadLetterRecord where
  id : Nat
  taskId : String
  attempts : Nat
  maxAttempts : Nat
  lastError : Option String
  payload : Json
  updatedAt : DateTime

def QueueRow.deadLetter (r : QueueRow) : DeadLetterRecord :=
  ⟨r.id, r.taskId, r.attempts, r.maxAttempts, r.lastError, r.payload, DateTime.ofMicroseconds r.updatedAt⟩

/-- `max(1, min(limit, 100))`. -/
def deadLetterLimit (limit : Int) : Nat := (max 1 (min limit 100)).toNat

def SQLiteStore.listDeadLetters (s : SQLiteStore) (limit : Int) : List DeadLetterRecord :=
  let dead := s.queue.rows.filter fun r => decide (r.status = .dead)
  ((dead.insertionSort fun a b => b.updatedAt ≤ a.updatedAt).take (deadLetterLimit limit)).map QueueRow.deadLetter

/-! ## Stored rows -/

structure StoredWorkflow where
  taskId : String
  stateJson : WorkflowState
  version : Nat
  updatedAt : String

structure StoredDelivery where
  id : Nat
  taskId : String
  status : QueueStatus
  attempts : Nat
  maxAttempts : Nat
  availableAt : String
  leaseUntil : Option String
  workerId : Option String
  payload : Json
  lastError : Option String
  createdAt : String
  updatedAt : String

def WorkflowRow.stored (r : WorkflowRow) : StoredWorkflow := ⟨r.taskId, r.stateJson, r.version, isoText r.updatedAt⟩

def QueueRow.stored (r : QueueRow) : StoredDelivery where
  id := r.id
  taskId := r.taskId
  status := r.status
  attempts := r.attempts
  maxAttempts := r.maxAttempts
  availableAt := isoText r.availableAt
  leaseUntil := r.leaseUntil.map isoText
  workerId := r.workerId
  payload := r.payload
  lastError := r.lastError
  createdAt := isoText r.createdAt
  updatedAt := isoText r.updatedAt

/-! ## The statements -/

/-- `status='PROCESSING' AND lease_until < ?`. -/
def StoredDelivery.isExpired (nowText : String) (r : StoredDelivery) : Bool :=
  decide (r.status = .processing) && r.leaseUntil.any fun lease => decide (lease < nowText)

/-- `status='PENDING' AND available_at <= ?`. -/
def StoredDelivery.isClaimable (nowText : String) (r : StoredDelivery) : Bool :=
  decide (r.status = .pending) && decide (r.availableAt ≤ nowText)

def sweepRows (nowText : String) (rows : List StoredDelivery) : List StoredDelivery :=
  rows.map fun r =>
    if r.isExpired nowText then { r with status := .pending, workerId := none, leaseUntil := none, updatedAt := nowText } else r

def claimRows (now : Timestamp) (workerId : String) (leaseSeconds : Int) (rows : List StoredDelivery) :
    Option QueueDelivery × List StoredDelivery :=
  let nowText := isoText now
  let leaseUntil := isoText (now + seconds leaseSeconds)
  let rows := sweepRows nowText rows
  match (rows.filter (·.isClaimable nowText)).argmin (·.id) with
  | none => (none, rows)
  | some row =>
    let attempts := row.attempts + 1
    (some ⟨row.id, row.taskId, attempts, row.maxAttempts, row.payload⟩,
      rows.map fun r =>
        if decide (r.id = row.id ∧ r.status = .pending) then
          { r with status := .processing, attempts, workerId := some workerId, leaseUntil := some leaseUntil, updatedAt := nowText }
        else r)

def listRows (limit : Int) (status : Option WorkflowStatus) (rows : List StoredWorkflow) : List WorkflowState :=
  let requested := requestedLimit limit
  let rows := (rows.insertionSort fun a b => b.updatedAt ≤ a.updatedAt).take (if status.isSome then 500 else requested)
  let states := rows.map (·.stateJson)
  (states.filter (hasStatusOr status)).take requested

def StoredDelivery.deadLetter (r : StoredDelivery) : Option DeadLetterRecord := do
  let updatedAt ← DateTime.fromisoformat r.updatedAt
  pure ⟨r.id, r.taskId, r.attempts, r.maxAttempts, r.lastError, r.payload, updatedAt⟩

def listDeadRows (limit : Int) (rows : List StoredDelivery) : Option (List DeadLetterRecord) :=
  let dead := rows.filter fun r => decide (r.status = .dead)
  ((dead.insertionSort fun a b => b.updatedAt ≤ a.updatedAt).take (deadLetterLimit limit)).mapM StoredDelivery.deadLetter

/-! ## The statements do what the methods do -/

/-- Every time of the row is one that a datetime can have. -/
structure QueueRow.Dated (r : QueueRow) : Prop where
  availableAt : Representable r.availableAt
  leaseUntil : ∀ lease ∈ r.leaseUntil, Representable lease
  updatedAt : Representable r.updatedAt

structure SQLiteStore.Dated (s : SQLiteStore) : Prop where
  workflows : ∀ r ∈ s.workflows.rows, Representable r.updatedAt
  queue : ∀ r ∈ s.queue.rows, r.Dated

theorem isExpired_stored {r : QueueRow} (hnow : Representable now) (hr : r.Dated) :
    r.stored.isExpired (isoText now) = SQLiteStore.isExpired now r := by
  unfold StoredDelivery.isExpired SQLiteStore.isExpired
  rw [show r.stored.leaseUntil = r.leaseUntil.map isoText from rfl, show r.stored.status = r.status from rfl]
  cases hlease : r.leaseUntil with
  | none => rfl
  | some lease =>
    have hlt := isoText_lt (hr.leaseUntil lease hlease) hnow
    rw [Option.map_some, Option.any_some, Option.any_some, decide_eq_decide.mpr hlt]

theorem isClaimable_stored {r : QueueRow} (hnow : Representable now) (hr : Representable r.availableAt) :
    r.stored.isClaimable (isoText now) = SQLiteStore.isClaimable now r := by
  unfold StoredDelivery.isClaimable SQLiteStore.isClaimable
  rw [show r.stored.availableAt = isoText r.availableAt from rfl, show r.stored.status = r.status from rfl,
    decide_eq_decide.mpr (isoText_le hr hnow)]

variable {s : SQLiteStore}

theorem sweepRows_stored (hnow : Representable now) (hs : s.Dated) :
    sweepRows (isoText now) (s.queue.rows.map QueueRow.stored) = (s.sweep now).queue.rows.map QueueRow.stored := by
  show _ = (s.queue.rows.map fun r => if SQLiteStore.isExpired now r then _ else r).map QueueRow.stored
  unfold sweepRows
  rw [List.map_map, List.map_map]
  refine List.map_congr_left fun r hr => ?_
  simp only [Function.comp, isExpired_stored hnow (hs.queue r hr)]
  split <;> rfl

/-- A row that the sweep leaves is available when it was. -/
theorem sweep_available {r : QueueRow} (hr : r ∈ (s.sweep now).queue.rows) : ∃ x ∈ s.queue.rows, r.availableAt = x.availableAt := by
  obtain ⟨x, hx, rfl⟩ := List.mem_map.mp hr
  refine ⟨x, hx, ?_⟩
  split <;> rfl

theorem argmin_map {α β : Type} (f : α → β) (g : β → Nat) (l : List α) :
    (l.map f).argmin g = (l.argmin (g ∘ f)).map f := by
  induction l using List.reverseRecOn with
  | nil => rfl
  | append_singleton l x ih =>
    rw [List.map_append, List.map_singleton, List.argmin_concat, List.argmin_concat, ih]
    cases l.argmin (g ∘ f) with
    | none => rfl
    | some y =>
      simp only [Option.map_some, Function.comp]
      split <;> rfl

theorem claimRows_stored (workerId : String) (leaseSeconds : Int) (hnow : Representable now) (hs : s.Dated) :
    claimRows now workerId leaseSeconds (s.queue.rows.map QueueRow.stored) =
      ((s.claim now workerId leaseSeconds).1, (s.claim now workerId leaseSeconds).2.queue.rows.map QueueRow.stored) := by
  unfold claimRows SQLiteStore.claim
  simp only [sweepRows_stored hnow hs]
  have hfilter : ((s.sweep now).queue.rows.map QueueRow.stored).filter (·.isClaimable (isoText now)) =
      ((s.sweep now).queue.rows.filter (SQLiteStore.isClaimable now)).map QueueRow.stored := by
    rw [List.filter_map]
    refine congrArg _ (List.filter_congr fun r hr => ?_)
    obtain ⟨x, hx, e⟩ := sweep_available hr
    exact isClaimable_stored hnow (e ▸ (hs.queue x hx).availableAt)
  rw [hfilter, argmin_map]
  show (match ((List.filter _ _).argmin fun r : QueueRow => r.id).map QueueRow.stored with | none => _ | some row => _) = _
  cases ((s.sweep now).queue.rows.filter (SQLiteStore.isClaimable now)).argmin (·.id) with
  | none => rfl
  | some row =>
    refine Prod.ext rfl ?_
    show ((s.sweep now).queue.rows.map QueueRow.stored).map _ = ((s.sweep now).queue.rows.map _).map QueueRow.stored
    rw [List.map_map, List.map_map]
    refine List.map_congr_left fun r _ => ?_
    by_cases hrow : r.id = row.id ∧ r.status = .pending <;> simp [QueueRow.stored, hrow]

theorem listRows_stored (limit : Int) (status : Option WorkflowStatus) (hs : s.Dated) :
    listRows limit status (s.workflows.rows.map WorkflowRow.stored) = s.listWorkflows limit status := by
  have hsort : (s.workflows.rows.map WorkflowRow.stored).insertionSort (fun a b => b.updatedAt ≤ a.updatedAt) =
      (newestFirst s.workflows.rows).map WorkflowRow.stored :=
    (List.map_insertionSort _ _ _ _ fun x hx y hy => (isoText_le (hs.workflows y hy) (hs.workflows x hx)).symm).symm
  unfold listRows SQLiteStore.listWorkflows
  simp only [hsort, ← List.map_take, List.map_map]
  rfl

theorem deadLetter_stored {r : QueueRow} (hr : r.Dated) : r.stored.deadLetter = some r.deadLetter := by
  unfold StoredDelivery.deadLetter
  rw [show r.stored.updatedAt = (DateTime.ofMicroseconds r.updatedAt).isoformat from rfl,
    DateTime.fromisoformat_isoformat (DateTime.valid_ofMicroseconds hr.updatedAt)]
  rfl

theorem mapM_map {α β γ : Type} {f : α → β} {g : β → Option γ} {k : α → γ} {l : List α} (h : ∀ x ∈ l, g (f x) = some (k x)) :
    (l.map f).mapM g = some (l.map k) := by
  induction l with
  | nil => rfl
  | cons x l ih =>
    rw [List.map_cons, List.mapM_cons, h x List.mem_cons_self, ih fun y hy => h y (List.mem_cons_of_mem _ hy)]
    rfl

theorem listDeadRows_stored (limit : Int) (hs : s.Dated) :
    listDeadRows limit (s.queue.rows.map QueueRow.stored) = some (s.listDeadLetters limit) := by
  have hfilter : (s.queue.rows.map QueueRow.stored).filter (fun r => decide (r.status = .dead)) =
      (s.queue.rows.filter fun r => decide (r.status = .dead)).map QueueRow.stored := List.filter_map
  have hsort : ((s.queue.rows.filter fun r => decide (r.status = .dead)).map QueueRow.stored).insertionSort
      (fun a b => b.updatedAt ≤ a.updatedAt) =
      ((s.queue.rows.filter fun r => decide (r.status = .dead)).insertionSort fun a b => b.updatedAt ≤ a.updatedAt).map
        QueueRow.stored := by
    refine (List.map_insertionSort _ _ _ _ fun x hx y hy => ?_).symm
    exact (isoText_le (hs.queue y (List.mem_of_mem_filter hy)).updatedAt (hs.queue x (List.mem_of_mem_filter hx)).updatedAt).symm
  unfold listDeadRows SQLiteStore.listDeadLetters
  simp only [hfilter, hsort, ← List.map_take]
  refine mapM_map fun r hr => deadLetter_stored (hs.queue r ?_)
  exact List.mem_of_mem_filter ((List.mem_insertionSort _).mp (List.mem_of_mem_take hr))

/-! ## The sort keys of events -/

theorem sk_lt {x y : RecordCall} (h : x.created < y.created) : (eventItem x).sk < (eventItem y).sk := by
  refine String.lt_iff_toList_lt.mpr ?_
  rw [toList_sk, toList_sk]
  exact (((DateTime.below_isoformat y.created_ok h).append _ _).prepend _).lt

/-- Events sort by their times, those of one time by their ids. -/
theorem sk_lt_iff (x y : RecordCall) :
    (eventItem x).sk < (eventItem y).sk ↔ x.created < y.created ∨ x.created = y.created ∧ x.hex < y.hex := by
  rcases DateTime.lt_or_eq_or_gt x.created y.created with h | h | h
  · simp [h, sk_lt h]
  · rw [String.lt_iff_toList_lt, toList_sk, toList_sk, h, String.lt_iff_toList_lt]
    have hsame : ¬ y.created < y.created := List.lt_irrefl _
    simp only [TextOrder.append_lt_append_iff, hsame, true_and, false_or]
  · have hnot : ¬ x.created < y.created := List.lt_asymm h
    have hne : x.created ≠ y.created := fun e => List.lt_irrefl _ (e ▸ h)
    simp [hnot, hne, lt_asymm (sk_lt h)]

/-! ## All comparisons -/

/-- Texts of datetimes compare as the datetimes do; so the statements on stored rows do what the methods do on times, and
    events sort by when they were recorded. -/
theorem texts_order_as_times :
    (∀ a b : DateTime, a.Valid → b.Valid → (a.isoformat < b.isoformat ↔ a < b) ∧ (a.isoformat = b.isoformat ↔ a = b)) ∧
    (∀ a b : Timestamp, Representable a → Representable b → (DateTime.ofMicroseconds a < DateTime.ofMicroseconds b ↔ a < b)) ∧
    (∀ (s : SQLiteStore) (now : Timestamp), s.Dated → Representable now →
      (∀ r ∈ s.queue.rows, r.stored.isExpired (isoText now) = SQLiteStore.isExpired now r ∧
        r.stored.isClaimable (isoText now) = SQLiteStore.isClaimable now r) ∧
      ∀ workerId leaseSeconds, claimRows now workerId leaseSeconds (s.queue.rows.map QueueRow.stored) =
        ((s.claim now workerId leaseSeconds).1, (s.claim now workerId leaseSeconds).2.queue.rows.map QueueRow.stored)) ∧
    (∀ s : SQLiteStore, s.Dated →
      (∀ limit status, listRows limit status (s.workflows.rows.map WorkflowRow.stored) = s.listWorkflows limit status) ∧
      ∀ limit, listDeadRows limit (s.queue.rows.map QueueRow.stored) = some (s.listDeadLetters limit)) ∧
    ∀ x y : RecordCall, (eventItem x).sk < (eventItem y).sk ↔ x.created < y.created ∨ x.created = y.created ∧ x.hex < y.hex := by
  refine ⟨fun a b ha hb => ⟨DateTime.isoformat_lt_iff ha hb, DateTime.isoformat_inj ha hb⟩,
    fun a b => DateTime.ofMicroseconds_lt_iff, fun s now hs hnow => ⟨fun r hr => ?_, fun workerId leaseSeconds => ?_⟩,
    fun s hs => ⟨fun limit status => listRows_stored limit status hs, fun limit => listDeadRows_stored limit hs⟩, sk_lt_iff⟩
  · exact ⟨isExpired_stored hnow (hs.queue r hr), isClaimable_stored hnow (hs.queue r hr).availableAt⟩
  · exact claimRows_stored workerId leaseSeconds hnow hs

/-- Midnight of 1 January 2024, and half a second later: a `+` against a `.`. -/
def midnight : DateTime := ⟨2024, 1, 1, 0, 0, 0, 0⟩
def halfSecond : DateTime := ⟨2024, 1, 1, 0, 0, 0, 500000⟩

/-- A workflow created and claimed at that midnight. -/
def claimedAtMidnight : SQLiteStore :=
  let s := (SQLiteStore.empty.createWorkflow 1704067200000000
    { taskId := "task-1", goal := "checkout errors are up", createdAt := 1704067200000000, updatedAt := 1704067200000000 } 5).2
  (s.claim 1704067200000000 "worker-1" 30).2

theorem claimedAtMidnight_dated : claimedAtMidnight.Dated := by
  have hrow : ∀ r ∈ claimedAtMidnight.queue.rows, Representable r.availableAt ∧ (∀ lease ∈ r.leaseUntil, Representable lease) ∧
      Representable r.updatedAt := by
    decide
  refine ⟨by decide, fun r hr => ?_⟩
  obtain ⟨havailable, hlease, hupdated⟩ := hrow r hr
  exact ⟨havailable, hlease, hupdated⟩

theorem texts_order_as_times_midnight :
    (midnight.isoformat < halfSecond.isoformat ↔ midnight < halfSecond) ∧
    (DateTime.ofMicroseconds 1704067200000000 < DateTime.ofMicroseconds 1704067200500000 ↔
      (1704067200000000 : Timestamp) < 1704067200500000) ∧
    claimRows 1704067230500000 "worker-2" 30 (claimedAtMidnight.queue.rows.map QueueRow.stored) =
      ((claimedAtMidnight.claim 1704067230500000 "worker-2" 30).1,
        (claimedAtMidnight.claim 1704067230500000 "worker-2" 30).2.queue.rows.map QueueRow.stored) ∧
    listRows 100 none (claimedAtMidnight.workflows.rows.map WorkflowRow.stored) = claimedAtMidnight.listWorkflows 100 none := by
  obtain ⟨hdate, htime, hclaim, hlist, -⟩ := texts_order_as_times
  have hvalid : midnight.Valid ∧ halfSecond.Valid := by
    constructor <;> constructor <;> decide
  exact ⟨(hdate midnight halfSecond hvalid.1 hvalid.2).1, htime _ _ (by decide) (by decide),
    (hclaim claimedAtMidnight _ claimedAtMidnight_dated (by decide)).2 _ _, (hlist claimedAtMidnight claimedAtMidnight_dated).1 _ _⟩

end AgentResilience
