/-
  AgentResilience.Termination — an incident ends. Every accepted decision lengthens the tool
  history, which the detector bounds; a decision leads to at most two more deliveries to
  queue (its approval's and its success's), and a delivery is handed out at most
  `maxQueueAttempts` times.

  - `rounds`: how many more deliveries a workflow can get. `Turn.pays`: a turn pays for
    the delivery it queues.
  - `Calm`: what holds between operations; what was claimed, and what still can be, is
    within the bound.
  - `incident_terminates`: while no delivery is retried after more than 1024 attempts, and
    no ledger key is asked for with other arguments. `incident_goes_on`: an engine that is
    never available, with 1025 attempts a delivery.
-/
import AgentResilience.Operations
import AgentResilience.HumanGate

namespace AgentResilience

open Interaction
open WorkflowState (content)

/-- An operator who approves, and engines and backends that raise the runtime's exceptions only. -/
def Env.operator : Env where
  allows _ _ c r :=
    match c, r with
    | .decide _, .error e | .takeUsage, .error e | .execute .., .error e => e.isRetryable = true ∨ e.isPermanent = true
    | _, _ => True
  starts _ _ op :=
    match op with
    | .createIncident .. | .runOnce _ | .approve .. => True
    | _ => False
  dies _ _ := False

/-- The same, where no delivery is retried after more than 1024 attempts, and no key of the
    ledger is used with other arguments. -/
def Env.operated : Env where
  allows i w c r := Env.operator.allows i w c r ∧
    match c with
    | .store (.retryOrDeadLetter d ..) => d.attempts ≤ 1024
    | .store (.getToolResult key arguments) => ∀ row, w.store.toolResults.get key = some row →
        row.argumentsHash = argumentsHash arguments
    | _ => True
  starts := Env.operator.starts
  dies := Env.operator.dies

/-- How often the task's deliveries were handed out. -/
def claims (taskId : String) (m : Memory) : Nat := m.claimed.countP fun d => d.taskId = taskId

/-- How many more deliveries a workflow can get. -/
def rounds : Option WorkflowState → Nat
  | none => 39
  | some st =>
    if st.terminal then 0
    else 2 * (19 - st.toolHistory.length) +
      if st.status = .waitingForApproval then 2 else if st.pendingAction.isSome then 1 else 0

variable {rt : WorkflowRuntime} {config : Settings} {env : Env} {taskId : String} {cp st : WorkflowState} {m m' : Memory}
  {w w' : World} {d : QueueDelivery} {N : Nat}

theorem rounds_active (h : st.status.active = true) :
    rounds (some st) = 2 * (19 - st.toolHistory.length) + if st.pendingAction.isSome then 1 else 0 := by
  unfold rounds WorkflowState.terminal
  cases hs : st.status <;> simp_all [WorkflowStatus.active, WorkflowStatus.terminal]

theorem rounds_terminal (h : st.terminal = true) : rounds (some st) = 0 := by
  simp only [rounds, if_pos h]

theorem rounds_waiting (h : st.status = .waitingForApproval) : rounds (some st) = 2 * (19 - st.toolHistory.length) + 2 := by
  unfold rounds WorkflowState.terminal
  simp [h, WorkflowStatus.terminal]

@[simp] theorem rounds_content (st : WorkflowState) : rounds (some st.content) = rounds (some st) := rfl

/-! ## Turns -/

theorem validateAndDecide_error {tool : ToolName} {arguments : Arguments} {e : PyError}
    (h : validateAndDecide tool arguments = .error e) : e.isPermanent = true := by
  unfold validateAndDecide at h
  cases hv : validateArguments tool arguments with
  | ok v => rw [hv] at h; cases h
  | error e' =>
    rw [hv] at h
    cases h
    unfold validateArguments at hv
    split at hv
    · cases hv; rfl
    · split at hv
      · cases hv; rfl
      · split at hv
        · split at hv
          · cases hv; rfl
          · cases hv
        · cases hv

/-- The gateway raises the runtime's exceptions only. -/
theorem Gateway.raises {tool : ToolName} {arguments : Arguments} {e : PyError}
    (h : Gateway .operated m st tool arguments (.error e) m') : e.isRetryable = true ∨ e.isPermanent = true := by
  cases h with
  | invalid hv => exact .inr (validateAndDecide_error hv)
  | denied => exact .inr rfl
  | reused _ hrow hne hreads =>
    obtain ⟨w, rfl, hallow⟩ := hreads
    exact absurd (hallow.2 _ hrow) hne
  | @refused _ _ r _ _ _ hx ha =>
    obtain ⟨w, st', n, -, -, hallow⟩ := hx
    cases r with
    | error e' =>
      cases ha
      exact hallow.1
    | ok result =>
      unfold accepts at ha
      simp only at ha
      split at ha
      · cases ha; exact .inl rfl
      · cases ha

/-- What a turn's end must satisfy for the delivery it may queue to be paid for. -/
def Pays (cp : WorkflowState) (o : Except PyError WorkflowState) (st : WorkflowState) : Prop :=
  match o with
  | .ok out => out = st ∧ (st.status = .queued → rounds (some st) + 1 ≤ rounds (some cp)) ∧
      (st.status ≠ .queued → st.status.active = false ∧ rounds (some st) ≤ rounds (some cp))
  | .error e => st.status.active = true ∧ rounds (some st) ≤ rounds (some cp) ∧ (e.isRetryable = true ∨ e.isPermanent = true)

theorem pays_terminal (h : st.terminal = true) (hq : st.status ≠ .queued) (hact : st.status.active = false) :
    Pays cp (.ok st) st :=
  ⟨rfl, fun e => absurd e hq, fun _ => ⟨hact, by rw [rounds_terminal h]; exact Nat.zero_le _⟩⟩

/-- Running a tool, from a checkpoint that can pay for the delivery after it. -/
theorem Ran.pays {tool : ToolName} {arguments : Arguments} {o : Except PyError WorkflowState} {st' : WorkflowState}
    (h : Ran .operated m st tool arguments o st' m') (hact : st.status.active = true)
    (hle : rounds (some st) ≤ rounds (some cp)) (hpay : 2 * (19 - st.toolHistory.length) + 1 ≤ rounds (some cp)) :
    Pays cp o st' := by
  cases h with
  | done =>
    refine ⟨rfl, fun _ => ?_, fun hne => absurd rfl hne⟩
    rw [rounds_active rfl]
    exact hpay
  | retried hg _ =>
    refine ⟨rfl, ?_, hg.raises⟩
    rw [rounds_active hact] at hle
    rw [rounds_active rfl]
    exact hle
  | failed => exact pays_terminal rfl (by simp [WorkflowState.failedFor]) rfl
  | raised hg hr hp =>
    rcases hg.raises with e | e
    · rw [e] at hr; cases hr
    · rw [e] at hp; cases hp

/-- What the engine and its meter may answer. -/
def RaisesOnly {α : Type} (r : Except PyError α) : Prop := ∀ e, r = .error e → e.isRetryable = true ∨ e.isPermanent = true

open WorkflowRuntime in
theorem Acted.pays (hdet : rt.loopDetector = {}) {dec : AgentDecision} {u : Nat × Nat} {o : Except PyError WorkflowState}
    (h : Acted rt .operated m (absorb cp.started dec u) dec o st m') (hact : cp.status.active = true)
    (hnone : cp.pendingAction = none) : Pays cp o st := by
  have hcp : rounds (some cp) = 2 * (19 - cp.toolHistory.length) := by rw [rounds_active hact, hnone]; simp
  have hlen : ∀ tool, (decided (absorb cp.started dec u) tool).toolHistory.length = cp.toolHistory.length + 1 := by
    intro tool; simp [decided, absorb, WorkflowState.started]
  -- an accepted decision is within the detector's budget
  have hbudget : ∀ tool, rt.loopDetector.reason (decided (absorb cp.started dec u) tool).toolHistory
      (decided (absorb cp.started dec u) tool).progressHistory = none → cp.toolHistory.length + 1 < 20 := by
    intro tool hreason
    have hlt := ((rt.loopDetector.reason_none_iff _ _).mp hreason).1
    rw [hlen, hdet] at hlt
    have hlt : ((cp.toolHistory.length + 1 : Nat) : Int) < 20 := hlt
    omega
  cases h with
  | completed _ e => subst e; exact pays_terminal rfl (by simp) rfl
  | declined => exact pays_terminal rfl (by simp [WorkflowState.failedFor]) rfl
  | looped _ _ _ e => subst e; exact pays_terminal rfl (by simp) rfl
  | denied _ _ _ _ _ e => subst e; exact pays_terminal rfl (by simp [WorkflowState.failedFor]) rfl
  | @paused tool _ _ _ _ _ _ _ hreason _ _ _ _ e =>
    have := hbudget tool hreason
    subst e
    refine ⟨rfl, fun hq => by simp at hq, fun _ => ⟨rfl, ?_⟩⟩
    rw [rounds_waiting rfl, hcp]
    show 2 * (19 - (decided (absorb cp.started dec u) tool).toolHistory.length) + 2 ≤ _
    rw [hlen]
    omega
  | @ran tool _ _ _ _ _ _ _ hreason _ _ _ hran =>
    have := hbudget tool hreason
    refine hran.pays rfl ?_ ?_
    · rw [rounds_active rfl, hlen, hcp]
      have : (decided (absorb cp.started dec u) tool).pendingAction = none := hnone
      rw [this]
      simp
      omega
    · rw [hlen, hcp]
      omega

/-- A turn pays for the delivery it queues. -/
theorem Turn.pays (hdet : rt.loopDetector = {}) {o : Except PyError WorkflowState}
    (h : Turn rt .operated (fun _ => RaisesOnly) RaisesOnly m cp o st m') (hact : cp.status.active = true)
    (happ : ∀ p, cp.pendingAction = some p → m.approved cp.taskId p.actionId) : Pays cp o st := by
  cases h with
  | idle hidle => rw [hact] at hidle; cases hidle
  | unapproved _ hp hno => exact absurd (happ _ hp) hno
  | resumed _ hp _ hran =>
    refine hran.pays hact le_rfl ?_
    rw [rounds_active hact, hp]
    simp
  | undecided _ hnone hd _ =>
    refine ⟨rfl, ?_, hd _ rfl⟩
    rw [rounds_active rfl, rounds_active hact]
    exact le_rfl
  | unanswered _ hnone hd _ =>
    refine ⟨rfl, ?_, hd _ rfl⟩
    rw [rounds_active rfl, rounds_active hact]
    exact le_rfl
  | unmetered _ hnone _ hu =>
    refine ⟨rfl, ?_, hu _ rfl⟩
    rw [rounds_active rfl, rounds_active hact]
    exact le_rfl
  | acted _ hnone _ _ ha => exact ha.pays hdet hact hnone

/-! ## Between operations -/

/-- A pending row of a workflow that can still pay for its deliveries. -/
structure Due (N : Nat) (w : World) (row : QueueRow) : Prop where
  available : row.availableAt ≤ w.now
  attempts : row.attempts < N
  paid : ∃ st, w.store.stored row.taskId = some st ∧ st.status.active = true ∧
    claims row.taskId w.memory + N * rounds (some st) + (N - row.attempts) ≤ 39 * N

structure Calm (N : Nat) (w : World) : Prop where
  filed : Filed w.store
  rows : ∀ id row, w.store.queue.get id = some row → row.maxAttempts = N ∧ row.status ≠ .processing
  due : ∀ id row, w.store.queue.get id = some row → row.status = .pending → Due N w row
  live : ∀ taskId st, w.store.stored taskId = some st → st.status.active = true →
    ∃ id row, w.store.queue.get id = some row ∧ row.taskId = taskId ∧ row.status = .pending
  spent : ∀ taskId, claims taskId w.memory + N * rounds (w.store.stored taskId) ≤ 39 * N

/-- A change that concerns one task. -/
theorem Calm.update (h : Calm N w) (taskId : String) (hf : Filed w'.store) (hothers : ∀ t, t ≠ taskId → w'.store.stored t = w.store.stored t)
    (hclaims : ∀ t, t ≠ taskId → claims t w'.memory = claims t w.memory) (hnow : w.now ≤ w'.now)
    (hkeep : ∀ id row, row.taskId ≠ taskId → (w'.store.queue.get id = some row ↔ w.store.queue.get id = some row))
    (hrows : ∀ id row, w'.store.queue.get id = some row → row.taskId = taskId →
      row.maxAttempts = N ∧ row.status ≠ .processing ∧ (row.status = .pending → Due N w' row))
    (hlive : ∀ st, w'.store.stored taskId = some st → st.status.active = true →
      ∃ id row, w'.store.queue.get id = some row ∧ row.taskId = taskId ∧ row.status = .pending)
    (hspent : claims taskId w'.memory + N * rounds (w'.store.stored taskId) ≤ 39 * N) : Calm N w' := by
  refine ⟨hf, fun id row hr => ?_, fun id row hr hp => ?_, fun t st hst hact => ?_, fun t => ?_⟩
  · by_cases e : row.taskId = taskId
    · exact ⟨(hrows id row hr e).1, (hrows id row hr e).2.1⟩
    · exact h.rows id row ((hkeep id row e).mp hr)
  · by_cases e : row.taskId = taskId
    · exact (hrows id row hr e).2.2 hp
    · obtain ⟨hav, hatt, st, hst, hact, hpaid⟩ := h.due id row ((hkeep id row e).mp hr) hp
      exact ⟨hav.trans hnow, hatt, st, (hothers _ e).trans hst, hact, by rw [hclaims _ e]; exact hpaid⟩
  · by_cases e : t = taskId
    · subst e; exact hlive st hst hact
    · rw [hothers t e] at hst
      obtain ⟨id, row, hr, ht, hp⟩ := h.live t st hst hact
      exact ⟨id, row, (hkeep id row (ht ▸ e)).mpr hr, ht, hp⟩
  · by_cases e : t = taskId
    · subst e; exact hspent
    · rw [hclaims t e, hothers t e]; exact h.spent t

/-- Nothing is leased between operations, so a claim has nothing to return. -/
theorem Calm.sweep (h : Calm N w) (t : Timestamp) (id : Nat) : (w.store.sweep t).queue.get id = w.store.queue.get id := by
  rw [SQLiteStore.sweep_get]
  cases hr : w.store.queue.get id with
  | none => rfl
  | some row =>
    have hne := (h.rows id row hr).2
    simp [SQLiteStore.swept, SQLiteStore.isExpired, hne]

theorem Calm.same (h : Calm N w) (hf : Filed w'.store) (hst : ∀ t, w'.store.stored t = w.store.stored t)
    (hq : ∀ id, w'.store.queue.get id = w.store.queue.get id) (hm : w'.memory = w.memory) (hnow : w.now ≤ w'.now) :
    Calm N w' := by
  refine h.update "" hf (fun t _ => hst t) (fun t _ => by rw [hm]) hnow
    (fun id row _ => by rw [hq]) (fun id row hr _ => ?_) (fun st hs hact => ?_) ?_
  · rw [hq] at hr
    refine ⟨(h.rows id row hr).1, (h.rows id row hr).2, fun hp => ?_⟩
    obtain ⟨hav, hatt, st, hs, hact, hpaid⟩ := h.due id row hr hp
    exact ⟨hav.trans hnow, hatt, st, (hst _).trans hs, hact, by rw [hm]; exact hpaid⟩
  · simp only [hq]
    exact h.live _ st (by rw [← hst]; exact hs) hact
  · rw [hm, hst]
    exact h.spent _

/-- The task's live row is now `new`, if it has one. -/
theorem Calm.renewed (h : Calm N w) (taskId : String) (hf : Filed w'.store) (hothers : ∀ t, t ≠ taskId → w'.store.stored t = w.store.stored t)
    (hclaims : ∀ t, t ≠ taskId → claims t w'.memory = claims t w.memory) (hnow : w.now ≤ w'.now)
    (hkeep : ∀ id row, row.taskId ≠ taskId → (w'.store.queue.get id = some row ↔ w.store.queue.get id = some row))
    {n : Nat} {new : QueueRow} (hget : w'.store.queue.get n = some new) (ht : new.taskId = taskId) (hmax : new.maxAttempts = N)
    (hproc : new.status ≠ .processing) (hdue : new.status = .pending → Due N w' new)
    (hold : ∀ id row, id ≠ n → w'.store.queue.get id = some row → row.taskId = taskId →
      row.maxAttempts = N ∧ (row.status = .completed ∨ row.status = .dead))
    (hlive : ∀ st, w'.store.stored taskId = some st → st.status.active = true → new.status = .pending)
    (hspent : claims taskId w'.memory + N * rounds (w'.store.stored taskId) ≤ 39 * N) : Calm N w' := by
  refine h.update taskId hf hothers hclaims hnow hkeep (fun id row hr hrt => ?_)
    (fun st hst hact => ⟨n, new, hget, ht, hlive st hst hact⟩) hspent
  by_cases e : id = n
  · subst e
    rw [hget] at hr
    cases hr
    exact ⟨hmax, hproc, hdue⟩
  · obtain ⟨hm, hd⟩ := hold id row e hr hrt
    refine ⟨hm, ?_, fun hp => ?_⟩
    · rcases hd with hd | hd <;> rw [hd] <;> decide
    · rcases hd with hd | hd <;> rw [hd] at hp <;> cases hp

/-! ## The operations -/

theorem Ran.claimed {tool : ToolName} {arguments : Arguments} {o : Except PyError WorkflowState} {st' : WorkflowState}
    (h : Ran env m st tool arguments o st' m') : m'.claimed = m.claimed := by
  have hg : ∀ {x}, Gateway env m st tool arguments x m' → m'.claimed = m.claimed := by
    intro x hg
    cases hg <;> rfl
  cases h with
  | done h | retried h | failed h | raised h => exact hg h

theorem Turn.claimed {D : WorkflowState → Except PyError AgentDecision → Prop} {U : Except PyError (Nat × Nat) → Prop}
    {o : Except PyError WorkflowState} (h : Turn rt env D U m cp o st m') : m'.claimed = m.claimed := by
  cases h with
  | resumed _ _ _ hr => exact hr.claimed
  | acted _ _ _ _ ha =>
    cases ha with
    | ran _ _ _ _ _ _ hr => exact hr.claimed
    | _ => rfl
  | _ => rfl

theorem claims_takes (t : String) (m : Memory) (d : QueueDelivery) :
    claims t (m.takes d) = claims t m + if d.taskId = t then 1 else 0 := by
  unfold claims Memory.takes
  rw [List.countP_cons]
  simp

/-- No delay before a retry. -/
theorem timedelta_backoff {k : Nat} {delay : ℚ} (h : backoff (.finite 0) k = .ok delay) : timedelta delay = 0 := by
  unfold backoff at h
  split at h
  · cases h
  · cases h
    have hfloor : (0 : ℚ).floor = 0 := rfl
    simp [timedelta, hfloor]

theorem Settlement.later {s s₂ : SQLiteStore} {now t : Timestamp} {o : Except PyError WorkflowState} {st st' : WorkflowState}
    (h : Settlement config env d s now o st st' s₂ t) : now ≤ t ∧ ∀ T, s₂.stored T = s.stored T := by
  cases h with
  | acknowledged ht _ => exact ⟨ht, fun _ => rfl⟩
  | requeued ht ht' _ => exact ⟨ht.trans ht', fun _ => rfl⟩
  | overflowed | raised => exact ⟨le_rfl, fun _ => rfl⟩
  | returned ht | buried ht => exact ⟨ht, fun T => stored_congr (retryOrDeadLetter_frame ..).1⟩
  | failed ht => exact ⟨ht, fun _ => rfl⟩

theorem endedBy_ended {status : WorkflowStatus} (hs : status.terminal = true) (st : WorkflowState) (error : String) :
    (st.endedBy status error).terminal = true := by
  unfold WorkflowState.endedBy
  split
  · assumption
  · exact hs

/-- A claimed delivery, and the world its run leaves. -/
structure HandedOut (N : Nat) (w : World) (row : QueueRow) (w' : World) : Prop where
  found : w.store.queue.get row.id = some row
  max : row.maxAttempts = N
  due : Due N w row
  alone : ∀ id r, id ≠ row.id → w.store.queue.get id = some r → r.taskId = row.taskId → r.maxAttempts = N ∧ r.status = .completed
  filed : Filed w'.store
  others : ∀ t, t ≠ row.taskId → w'.store.stored t = w.store.stored t
  counted : ∀ t, claims t w'.memory = claims t w.memory + if row.taskId = t then 1 else 0
  now : w.now ≤ w'.now

/-- The row handed out is now `new`. -/
theorem Calm.closed {row new : QueueRow} (h : Calm N w) (hh : HandedOut N w row w')
    (hq : ∀ id, w'.store.queue.get id = if id = row.id then some new else w.store.queue.get id)
    (ht : new.taskId = row.taskId) (hmax : new.maxAttempts = N) (hproc : new.status ≠ .processing)
    (hst : w'.store.stored row.taskId = some st) (hlive : st.status.active = true → new.status = .pending)
    (hdue : new.status = .pending → new.availableAt ≤ w'.now ∧ new.attempts = row.attempts + 1 ∧ new.attempts < N ∧
      st.status.active = true)
    (hrounds : ∃ cp, w.store.stored row.taskId = some cp ∧ rounds (some st) ≤ rounds (some cp)) : Calm N w' := by
  obtain ⟨cp, hcp, hle⟩ := hrounds
  obtain ⟨-, hatt, cp', hcp', -, hpaid⟩ := hh.due
  rw [hcp] at hcp'
  cases hcp'
  have hmul := Nat.mul_le_mul_left N hle
  have hclaims : claims row.taskId w'.memory = claims row.taskId w.memory + 1 := by rw [hh.counted]; simp
  refine h.renewed row.taskId hh.filed hh.others (fun t hne => by rw [hh.counted, if_neg (Ne.symm hne)]; rfl)
    hh.now (fun id r hne => ?_) (n := row.id) ((hq _).trans (if_pos rfl)) ht hmax hproc (fun hp => ?_)
    (fun id r hne hr hrt => ?_) (fun st' hst' hact => ?_) ?_
  · rw [hq]
    by_cases e : id = row.id
    · subst e
      rw [if_pos rfl, hh.found]
      constructor
      · intro e; cases e; exact absurd ht hne
      · intro e; cases e; exact absurd rfl hne
    · rw [if_neg e]
  · obtain ⟨hav, ha, hlt, hact⟩ := hdue hp
    refine ⟨hav, hlt, st, by rw [ht]; exact hst, hact, ?_⟩
    rw [ht, hclaims, ha]
    omega
  · rw [hq, if_neg hne] at hr
    have := hh.alone id r hne hr hrt
    exact ⟨this.1, .inl this.2⟩
  · rw [hst] at hst'
    cases hst'
    exact hlive hact
  · rw [hclaims, hst]
    omega

/-- The row handed out is completed, and another one follows it. -/
theorem Calm.followed {row done new : QueueRow} (h : Calm N w) (hh : HandedOut N w row w') {n : Nat}
    (hq : ∀ id, w'.store.queue.get id = if id = n then some new else if id = row.id then some done else w.store.queue.get id)
    (hdone : done.status = .completed) (hdt : done.taskId = row.taskId) (hdm : done.maxAttempts = N) (hn : w.store.queue.get n = none)
    (ht : new.taskId = row.taskId) (hmax : new.maxAttempts = N) (hpend : new.status = .pending) (hatt : new.attempts = 0)
    (hav : new.availableAt ≤ w'.now) (hst : w'.store.stored row.taskId = some st) (hact : st.status.active = true)
    (hrounds : ∃ cp, w.store.stored row.taskId = some cp ∧ rounds (some st) + 1 ≤ rounds (some cp)) : Calm N w' := by
  obtain ⟨cp, hcp, hle⟩ := hrounds
  obtain ⟨-, hlt, cp', hcp', -, hpaid⟩ := hh.due
  rw [hcp] at hcp'
  cases hcp'
  have hmul := Nat.mul_le_mul_left N hle
  rw [Nat.mul_succ] at hmul
  have hclaims : claims row.taskId w'.memory = claims row.taskId w.memory + 1 := by rw [hh.counted]; simp
  have hne_n : row.id ≠ n := by rintro rfl; rw [hh.found] at hn; cases hn
  refine h.renewed row.taskId hh.filed hh.others (fun t hne => by rw [hh.counted, if_neg (Ne.symm hne)]; rfl)
    hh.now (fun id r hne => ?_) (n := n) ((hq _).trans (if_pos rfl)) ht hmax (by rw [hpend]; decide) (fun _ => ?_)
    (fun id r hne hr hrt => ?_) (fun _ _ _ => hpend) ?_
  · rw [hq]
    by_cases e : id = n
    · subst e
      rw [if_pos rfl, hn]
      constructor
      · intro e; cases e; exact absurd ht hne
      · intro e; cases e
    · rw [if_neg e]
      by_cases e : id = row.id
      · subst e
        rw [if_pos rfl, hh.found]
        constructor
        · intro e; cases e; exact absurd hdt hne
        · intro e; cases e; exact absurd rfl hne
      · rw [if_neg e]
  · refine ⟨hav, by omega, st, by rw [ht]; exact hst, hact, ?_⟩
    rw [ht, hclaims, hatt]
    omega
  · rw [hq, if_neg hne] at hr
    by_cases e : id = row.id
    · rw [if_pos e] at hr
      cases hr
      exact ⟨hdm, .inl hdone⟩
    · rw [if_neg e] at hr
      have := hh.alone id r e hr hrt
      exact ⟨this.1, .inl this.2⟩
  · rw [hclaims, hst]
    omega

/-- The row an insertion adds. -/
theorem inserted_get (s : SQLiteStore) (t : Timestamp) (taskId : String) (n : Nat) : ∃ new : QueueRow, new.taskId = taskId ∧
    new.maxAttempts = n ∧ new.status = .pending ∧ new.attempts = 0 ∧ new.availableAt = t ∧
    ∀ id, (s.insertQueue t taskId n).queue.get id = if id = s.nextQueueId then some new else s.queue.get id := by
  refine ⟨{ id := s.nextQueueId, taskId, status := .pending, attempts := 0, maxAttempts := n, availableAt := t, createdAt := t,
            updatedAt := t }, rfl, rfl, rfl, rfl, rfl, fun id => ?_⟩
  rw [SQLiteStore.insertQueue_get]
  by_cases e : id = s.nextQueueId
  · simp only [e, if_true]
  · simp only [e, if_false]

/-- A change of the leased row's fields. -/
theorem leased_get {s s₂ : SQLiteStore} {id₀ : Nat} {leased : QueueRow}
    (hs : ∀ id, s.queue.get id = if id = id₀ then some leased else w.store.queue.get id) {f : QueueRow → QueueRow}
    (hq : ∀ id, s₂.queue.get id = (s.queue.get id).map fun x => if id = id₀ then f x else x) (id : Nat) :
    s₂.queue.get id = if id = id₀ then some (f leased) else w.store.queue.get id := by
  rw [hq, hs]
  by_cases e : id = id₀
  · simp only [e, if_true, Option.map_some]
  · simp only [e, if_false, Option.map_id']

theorem retried_get {s : SQLiteStore} {base : Seconds} {delay : ℚ} (h : backoff base (d.attempts - 1) = .ok delay)
    (error : String) (t : Timestamp) (id : Nat) : (s.retryOrDeadLetter t d error base).2.queue.get id =
      (s.queue.get id).map fun row => if id = d.id then
        { row with status := if d.maxAttempts ≤ d.attempts then .dead else .pending,
                   availableAt := if d.maxAttempts ≤ d.attempts then t else t + timedelta delay,
                   leaseUntil := none, workerId := none, lastError := some (error.take 2000).toString,
                   updatedAt := t } else row := by
  obtain ⟨⟨_, hr⟩, -⟩ | ⟨delay', h', -, hg, -⟩ := SQLiteStore.retryOrDeadLetter_cases (Eq.refl (s.retryOrDeadLetter t d error base))
  · simp only [h] at hr
    cases hr
  · rw [h] at h'
    cases h'
    exact hg id

theorem Calm.worked (hdet : rt.loopDetector = {}) (hN : config.maxQueueAttempts = N)
    (hbase : config.queueRetryBaseSeconds = .finite 0) (h : Calm N w) {ok : Option ApprovalStatus → Prop}
    (hrest : Rest ok none w.store) {workerId : String}
    (hw : Served rt config .operated (fun _ => RaisesOnly) RaisesOnly workerId w w') : Calm N w' := by
  obtain ⟨t, ht, -, ⟨s, hclaim, hq, hf, hst, hm, hnow⟩ | ⟨d, s, cp, hclaim, hcp, hd⟩⟩ := hw
  · refine h.same hf hst (fun id => ?_) hm (ht.trans hnow)
    rcases SQLiteStore.claim_cases hclaim with ⟨-, rfl⟩ | ⟨row, -, -, -, hsome, -⟩
    · rw [hq]; exact h.sweep t id
    · cases hsome
  rcases SQLiteStore.claim_cases hclaim with ⟨hnone, -⟩ | ⟨row, hrow, hpend, hav, hsome, hget, -⟩
  · cases hnone
  cases hsome
  simp only [h.sweep] at hrow hget
  obtain ⟨o, st, m', cp', s₂, t₂, hturn, hsettled, hserving⟩ := hd
  have hdue := h.due _ _ hrow hpend
  have hmax := (h.rows _ _ hrow).1
  have hatt := hdue.attempts
  have hact : cp.status.active = true := by
    obtain ⟨_, hcp', hact, -⟩ := hdue.paid
    rw [hcp] at hcp'
    cases hcp'
    exact hact
  have hlater := hsettled.later
  have hpays : Pays cp.content o st := hturn.pays hdet hact fun p hp => by
    obtain ⟨wrow, hwrow, rfl⟩ := stored_some.mp hcp
    obtain ⟨-, -, -, htask⟩ := h.filed.version hcp
    have hne : wrow.stateJson.status ≠ .waitingForApproval := by intro e; rw [e] at hact; cases hact
    show (w.store.approvals.get (wrow.stateJson.taskId, p.actionId)).map (·.status) = some .approved
    rw [htask]
    exact hrest.approved _ wrow p hwrow hne hp
  have hh : HandedOut N w row w' := by
    refine ⟨hrow, hmax, hdue, fun id r hne hr hrt => ⟨(h.rows _ _ hr).1, ?_⟩, hserving.filed, fun T hT => ?_, fun T => ?_, ?_⟩
    · by_contra hc
      exact hne (hrest.one _ _ _ _ hr hrow hrt hc (by rw [hpend]; decide))
    · exact (hserving.others T hT).trans ((hlater.2 T).trans (claim_stored hclaim T))
    · rw [hserving.memory, ← claims_takes T w.memory ⟨row.id, row.taskId, row.attempts + 1, row.maxAttempts, row.payload⟩]
      unfold claims
      rw [hturn.claimed]
    · exact ht.trans (hlater.1.trans hserving.now)
  have hst : w'.store.stored row.taskId = some cp' := hserving.stored
  have hend : ∀ {new : QueueRow}, (∀ id, s₂.queue.get id = if id = row.id then some new else w.store.queue.get id) →
      new.taskId = row.taskId → new.maxAttempts = N → new.status ≠ .processing → (cp'.status.active = true → new.status = .pending) →
      (new.status = .pending → new.availableAt ≤ w'.now ∧ new.attempts = row.attempts + 1 ∧ new.attempts < N ∧
        cp'.status.active = true) → rounds (some cp'.content) ≤ rounds (some cp.content) → Calm N w' := by
    intro new hq hnt hnm hproc hlive hnd hr
    exact h.closed hh (fun id => by rw [hserving.queue]; exact hq id) hnt hnm hproc hst hlive hnd ⟨cp, hcp, hr⟩
  have hended : ∀ {status : WorkflowStatus} {error : String}, status.terminal = true → cp'.content = st.endedBy status error →
      cp'.status.active = false ∧ rounds (some cp'.content) ≤ rounds (some cp.content) := by
    intro status error hs e
    have hterm : cp'.content.terminal = true := by rw [e]; exact endedBy_ended hs st error
    exact ⟨(terminal_inactive hterm : cp'.content.status.active = false), by rw [rounds_terminal hterm]; exact Nat.zero_le _⟩
  have hack := fun t' => leased_get hget (@SQLiteStore.acknowledge_get s t' row.id)
  generalize hcontent : cp'.content = out at hsettled
  have hstatus : cp'.status = out.status := congrArg (·.status) hcontent
  cases hsettled with
  | acknowledged _ hne =>
    obtain ⟨rfl, -, hidle⟩ := hpays
    obtain ⟨hinact, hr⟩ := hidle hne
    refine hend (hack _) rfl hmax (by simp) (fun ha => ?_) (fun hp => by cases hp) (hcontent ▸ hr)
    rw [hstatus, hinact] at ha
    cases ha
  | @requeued _ _ t₁ _ _ _ hqueued =>
    obtain ⟨rfl, hr, -⟩ := hpays
    have hfresh : ∀ t' id, (s.acknowledge t' row.id).queue.get id = none → w.store.queue.get id = none := fun t' id hn => by
      rw [hack] at hn
      split at hn
      · cases hn
      · exact hn
    obtain ⟨new, hnt, hnm, hnp, hna, hnav, hq⟩ := inserted_get (s.acknowledge t₁ row.id) t₂ row.taskId config.maxQueueAttempts
    have hq := fun id => (congrArg (·.get id) hserving.queue).trans ((hq id).trans (if_congr Iff.rfl rfl (hack t₁ id)))
    refine h.followed hh hq rfl rfl hmax
      (hfresh _ _ SQLiteStore.nextQueueId_fresh) hnt (hnm.trans hN) hnp hna (hnav ▸ hserving.now) hst ?_ ⟨cp, hcp, ?_⟩
    · rw [hstatus, hqueued]; rfl
    · rw [← rounds_content cp', ← rounds_content cp, hcontent]
      exact hr hqueued
  | overflowed _ hx hallow =>
    obtain ⟨_, _, -, hattempts⟩ := hallow
    have hlt : row.attempts + 1 - 1 < 1024 := hattempts
    obtain ⟨delay, hdelay⟩ := backoff_ok_iff.mpr hlt
    rw [hdelay] at hx
    cases hx
  | @returned e _ _ delay _ _ hdelay hlt =>
    obtain ⟨hstact, hr, -⟩ := hpays
    have hlt : row.attempts + 1 < row.maxAttempts := hlt
    refine hend (leased_get hget (retried_get hdelay e.message t₂)) rfl hmax ?_ (fun _ => ?_) (fun _ => ⟨?_, rfl, ?_, ?_⟩) (hcontent ▸ hr)
    · simp [Nat.not_le.mpr hlt]
    · simp [Nat.not_le.mpr hlt]
    · have hzero : timedelta delay = 0 := timedelta_backoff (by rw [hbase] at hdelay; exact hdelay)
      have hnow := hserving.now
      simpa [Nat.not_le.mpr hlt, hzero] using hnow
    · rw [hmax] at hlt; exact hlt
    · rw [hstatus]; exact hstact
  | @buried e _ _ delay _ _ hdelay hge =>
    obtain ⟨hinact, hr⟩ := hended rfl hcontent
    have hge : row.maxAttempts ≤ row.attempts + 1 := hge
    refine hend (leased_get hget (retried_get hdelay e.message t₂)) rfl hmax ?_ (fun ha => ?_) (fun hp => ?_) hr
    · simp [hge]
    · rw [hinact] at ha; cases ha
    · simp [hge] at hp
  | failed _ _ _ =>
    obtain ⟨hinact, hr⟩ := hended rfl hcontent
    refine hend (hack _) rfl hmax (by simp) (fun ha => ?_) (fun hp => by cases hp) hr
    rw [hinact] at ha; cases ha
  | raised hr hp =>
    obtain ⟨-, -, e | e⟩ := hpays
    · rw [e] at hr; cases hr
    · rw [e] at hp; cases hp

/-- A workflow's next delivery, when it has no other that is not settled. -/
theorem Calm.queued (h : Calm N w) (hpos : 1 ≤ N) {w₂ : World} {t : Timestamp}
    (hw₂ : w₂ = ⟨w.store.insertQueue t taskId N, t, []⟩) (ht : w.now ≤ t) (hserving : Serving taskId w₂ st m w')
    (hdone : ∀ id row, w.store.queue.get id = some row → row.taskId = taskId → row.status = .completed ∨ row.status = .dead)
    (hclaimed : m.claimed = w.memory.claimed) (hact : st.status.active = true)
    (hrounds : rounds (some st) + 1 ≤ rounds (w.store.stored taskId)) : Calm N w' := by
  subst hw₂
  obtain ⟨new, hnt, hnm, hnp, hna, hnav, hq⟩ := inserted_get w.store t taskId N
  have hq : ∀ id, w'.store.queue.get id = if id = w.store.nextQueueId then some new else w.store.queue.get id := fun id =>
    (congrArg (·.get id) hserving.queue).trans (hq id)
  have hclaims : ∀ T, claims T w'.memory = claims T w.memory := fun T => by
    unfold claims
    rw [hserving.memory, hclaimed]
  have hmul := Nat.mul_le_mul_left N hrounds
  rw [Nat.mul_succ] at hmul
  have hspent := h.spent taskId
  refine h.renewed taskId hserving.filed hserving.others (fun T _ => hclaims T) (ht.trans hserving.now)
    (fun id r hne => ?_) ((hq _).trans (if_pos rfl)) hnt hnm (by rw [hnp]; decide) (fun _ => ?_) (fun id r hne hr hrt => ?_)
    (fun _ _ _ => hnp) ?_
  · rw [hq]
    by_cases e : id = w.store.nextQueueId
    · subst e
      rw [if_pos rfl, SQLiteStore.nextQueueId_fresh]
      constructor
      · intro e; cases e; exact absurd hnt hne
      · intro e; cases e
    · rw [if_neg e]
  · refine ⟨by rw [hnav]; exact hserving.now, by omega, st, by rw [hnt]; exact hserving.stored, hact, ?_⟩
    rw [hnt, hclaims, hna]
    omega
  · rw [hq, if_neg hne] at hr
    exact ⟨(h.rows id r hr).1, hdone id r hr hrt⟩
  · rw [hclaims, hserving.stored]
    omega

theorem Calm.idle (h : Calm N w) (hi : Idle w w') : Calm N w' :=
  h.same hi.filed hi.stored (fun id => congrArg (·.get id) hi.queue) hi.memory hi.now

theorem createIncident_calm (hN : config.maxQueueAttempts = N) (hpos : 1 ≤ N) (h : Calm N w) {ok : Option ApprovalStatus → Prop}
    (hrest : Rest ok none w.store) (taskId goal scenarioId : String) :
    wp (calls env 0) (createIncident config taskId goal scenarioId) (fun _ w' => Calm N w') w := by
  refine wp_mono (createIncident_serving h.filed taskId goal scenarioId) fun _ w' hcases => ?_
  rcases hcases with hi | ⟨st, t, hnone, ⟨hqueued, -, -, hhist, -, hp, -⟩, ht, hserving⟩
  · exact h.idle hi
  · have hqueued : st.status = .queued := hqueued
    have hhist : st.toolHistory = [] := hhist
    have hp : st.pendingAction = none := hp
    have hact : st.status.active = true := by rw [hqueued]; rfl
    refine h.queued hpos (by rw [hN]) ht hserving (fun id row hr hrt => ?_) rfl hact ?_
    · have hknown := hrest.known id row hr
      rw [hrt] at hknown
      obtain ⟨wrow, hwrow⟩ := Option.ne_none_iff_exists'.mp hknown
      rw [stored_some.mpr ⟨wrow, hwrow, rfl⟩] at hnone
      cases hnone
    · rw [hnone, rounds_active hact, hhist, hp]
      exact le_rfl

theorem approve_calm (hN : config.maxQueueAttempts = N) (hpos : 1 ≤ N) (h : Calm N w) (taskId actor : String) (reason : Option String) :
    wp (calls env 0) (approve config taskId actor reason) (fun _ w' => Calm N w') w := by
  have hdone : ∀ id row, w.store.queue.get id = some row → row.taskId = taskId →
      (∃ st, w.store.stored taskId = some st ∧ st.status = .waitingForApproval) → row.status = .completed ∨ row.status = .dead := by
    intro id row hr hrt ⟨st, hst, hwait⟩
    cases hs : row.status with
    | completed => exact .inl rfl
    | dead => exact .inr rfl
    | processing => exact absurd hs (h.rows id row hr).2
    | pending =>
      obtain ⟨-, -, st', hst', hact, -⟩ := h.due id row hr hs
      rw [hrt, hst] at hst'
      cases hst'
      rw [hwait] at hact
      cases hact
  refine wp_mono (approve_serving h.filed taskId actor reason hdone) fun _ w' hcases => ?_
  rcases hcases with ⟨hi, -⟩ | ⟨cp, p, st, t, t', hcp, hwait, hp, -, hst, ht, hserving⟩
  · exact h.idle hi
  · have hact : st.status.active = true := by
      have : st.status = .queued := congrArg (·.status) hst
      rw [this]; rfl
    refine h.queued hpos (by rw [hN]) ht hserving (fun id row hr hrt => hdone id row hr hrt ⟨cp, hcp, hwait⟩) rfl hact ?_
    have hlen : st.toolHistory = cp.toolHistory := congrArg (·.toolHistory) hst
    have hpend : st.pendingAction = some p := (congrArg (·.pendingAction) hst).trans hp
    rw [hcp, rounds_waiting hwait, rounds_active hact, hlen, hpend]
    exact le_rfl

theorem operated_engine : EngineSpec .operated anyEngine (fun _ => RaisesOnly) RaisesOnly where
  decide h := wp_perform.mpr fun r _ hs => by
    have h' := h.steady rfl hs
    obtain ⟨_, _, -, hal, -⟩ := hs
    refine ⟨fun e he => ?_, h'⟩
    subst he
    exact hal.1
  usage h := wp_perform.mpr fun r _ hs => by
    have h' := h.steady rfl hs
    obtain ⟨_, _, -, hal, -⟩ := hs
    refine ⟨fun e he => ?_, h'⟩
    subst he
    exact hal.1

/-- A delivery handed out at rest has its workflow, and is its task's only one that is not done with. -/
theorem Rest.hands {ok : Option ApprovalStatus → Prop} (h : Rest ok none w.store) {t : Timestamp} {workerId : String} {n : Int}
    {s : SQLiteStore} (hclaim : w.store.claim t workerId n = (some d, s)) :
    (∃ cp, w.store.stored d.taskId = some cp) ∧ Alone d s := by
  obtain ⟨hrest, hrow⟩ := claim_rest h hclaim
  obtain ⟨row, hr, hrt, hproc⟩ := hrow d rfl
  refine ⟨?_, fun id x hx hxt hne => ?_⟩
  · obtain ⟨wrow, hwrow⟩ := Option.ne_none_iff_exists'.mp (hrest.known _ _ hr)
    refine ⟨wrow.stateJson, ?_⟩
    rw [← claim_stored hclaim, ← hrt]
    exact stored_some.mpr ⟨wrow, hwrow, rfl⟩
  · by_contra hc
    exact hne (hrest.one id d.id x row hx hr (hxt.trans hrt.symm) (fun e => hc (.inl e)) (by rw [hproc]; decide))

theorem runOnce_calm (he : rt.engine = anyEngine) (hb : rt.backend = anyBackend) (hdet : rt.loopDetector = {})
    (hN : config.maxQueueAttempts = N) (hbase : config.queueRetryBaseSeconds = .finite 0) (h : Calm N w)
    {ok : Option ApprovalStatus → Prop} (hrest : Rest ok none w.store) (workerId : String) :
    wp (calls .operated 0) (runOnce rt config workerId) (fun _ w' => Calm N w') w := by
  exact wp_mono (runOnce_served (he ▸ operated_engine) hb h.filed fun _ _ _ _ hclaim => hrest.hands hclaim) fun _ w' hw =>
    h.worked hdet hN hbase hrest hw

theorem calm_init : Calm N World.init where
  filed := ⟨fun _ _ h => (by cases h), List.Pairwise.nil⟩
  rows _ _ h := by cases h
  due _ _ h := by cases h
  live _ _ h := by cases h
  spent taskId := by
    show 0 + N * 39 ≤ 39 * N
    omega

theorem operation_calm (he : rt.engine = anyEngine) (hb : rt.backend = anyBackend) (hdet : rt.loopDetector = {})
    (hN : config.maxQueueAttempts = N) (hpos : 1 ≤ N) (hbase : config.queueRetryBaseSeconds = .finite 0) (h : Calm N w)
    {ok : Option ApprovalStatus → Prop} (hrest : Rest ok none w.store) {op : Operation} (hop : Env.operated.starts 0 w op) :
    wp (calls .operated 0) (op.program rt config) (fun _ w' => Calm N w') w := by
  cases op with
  | createIncident taskId goal scenarioId => exact wp_reply (createIncident_calm hN hpos h hrest taskId goal scenarioId)
  | runOnce workerId => exact wp_reply (runOnce_calm he hb hdet hN hbase h hrest workerId)
  | approve taskId actor reason => exact wp_reply (approve_calm hN hpos h taskId actor reason)
  | _ => cases hop

theorem sequence_calm (he : rt.engine = anyEngine) (hb : rt.backend = anyBackend) (hdet : rt.loopDetector = {})
    (hN : config.maxQueueAttempts = N) (hpos : 1 ≤ N) (hbase : config.queueRetryBaseSeconds = .finite 0)
    (h : Sequence rt config .operated w) : Calm N w := by
  induction h with
  | init => exact calm_init
  | @ran w w' op o hseq hop hr ih =>
    have hrest : Rest (· ≠ none) none w.store :=
      sequence_rest he hb (fun w c r _ => asks_any w.store c r) (fun _ (hd : False) => hd.elim) hseq
    have hstart : Calm N (w.note (.began 0 op)) := ih.same ih.filed (fun _ => rfl) (fun _ => rfl) rfl le_rfl
    have hend : Calm N w' := wp_sound (operation_calm he hb hdet hN hpos hbase hstart hrest hop) hr
    exact hend.same hend.filed (fun _ => rfl) (fun _ => rfl) rfl le_rfl
  | died _ _ _ hd _ => exact hd.elim

/-- A row of the task can be claimed. -/
def Claimable (w : World) (taskId : String) : Prop :=
  ∃ id row, w.store.queue.get id = some row ∧ row.taskId = taskId ∧ SQLiteStore.isClaimable w.now row = true

/-- No row of the task can be claimed now or later, and the workflow has ended or waits. -/
def Ended (w : World) (taskId : String) (st : WorkflowState) : Prop :=
  (∀ id row, w.store.queue.get id = some row → row.taskId = taskId → row.status = .completed ∨ row.status = .dead) ∧
    (st.terminal = true ∨ st.status = .waitingForApproval)

/-- An incident's deliveries are handed out at most `40 * maxQueueAttempts` times, and until
    it has ended or waits there is one to hand out. -/
theorem incident_terminates (rt : WorkflowRuntime) (config : Settings) (hpos : 1 ≤ config.maxQueueAttempts)
    (hbase : config.queueRetryBaseSeconds = .finite 0)
    (h : Sequence { rt with engine := anyEngine, backend := anyBackend, loopDetector := {} } config .operated w)
    (hst : w.store.stored taskId = some st) :
    claims taskId w.memory ≤ 40 * config.maxQueueAttempts ∧ (Claimable w taskId ∨ Ended w taskId st) := by
  have hcalm : Calm config.maxQueueAttempts w := sequence_calm rfl rfl rfl rfl hpos hbase h
  refine ⟨(Nat.le_add_right _ _).trans ((hcalm.spent taskId).trans (Nat.mul_le_mul_right _ (by decide))), ?_⟩
  by_cases hpend : ∃ id row, w.store.queue.get id = some row ∧ row.taskId = taskId ∧ row.status = .pending
  · obtain ⟨id, row, hr, ht, hp⟩ := hpend
    refine .inl ⟨id, row, hr, ht, ?_⟩
    simp [SQLiteStore.isClaimable, hp, (hcalm.due id row hr hp).available]
  · refine .inr ⟨fun id row hr ht => ?_, ?_⟩
    · have hproc := (hcalm.rows id row hr).2
      cases hs : row.status with
      | completed => exact .inl rfl
      | dead => exact .inr rfl
      | processing => exact absurd hs hproc
      | pending => exact absurd ⟨id, row, hr, ht, hs⟩ hpend
    · have hidle : st.status.active = false := by
        cases ha : st.status.active with
        | false => rfl
        | true =>
          obtain ⟨id, row, hr, ht, hp⟩ := hcalm.live taskId st hst ha
          exact absurd ⟨id, row, hr, ht, hp⟩ hpend
      exact stopped_iff.mp hidle

def immediate : Settings := { queueRetryBaseSeconds := .finite 0 }

/-- Nothing raises, and the ledger is empty. -/
def smooth (w : World) (c : Call) (r : Except PyError c.Ret) : Bool :=
  match c, r with
  | .decide _, .error _ | .takeUsage, .error _ | .execute .., .error _ | .store (.retryOrDeadLetter ..), _ => false
  | .store (.getToolResult key _), _ => (w.store.toolResults.get key).isNone
  | _, _ => true

theorem smooth_operated (w : World) (c : Call) (r : Except PyError c.Ret) (h : smooth w c r = true) : Env.operated.allows 0 w c r := by
  cases c with
  | store c =>
    cases c with
    | getToolResult key arguments =>
      refine ⟨trivial, fun row hr => ?_⟩
      have h : (w.store.toolResults.get key).isNone = true := h
      rw [hr] at h
      cases h
    | retryOrDeadLetter => cases h
    | _ => exact ⟨trivial, trivial⟩
  | decide | takeUsage | execute =>
    cases r with
    | error e => cases h
    | ok a => exact ⟨trivial, trivial⟩
  | _ => exact ⟨trivial, trivial⟩

theorem readsAlert_smooth : (Sequence.play {} immediate smooth (fun _ => false) readsAlert World.init).any
    (fun w => (w.store.stored "t").isSome && decide (claims "t" w.memory = 1)) = true := by
  decide +kernel

theorem incident_terminates_read : ∃ w st, Sequence {} immediate .operated w ∧ w.store.stored "t" = some st ∧ claims "t" w.memory = 1 ∧
    claims "t" w.memory ≤ 200 ∧ (Claimable w "t" ∨ Ended w "t" st) := by
  obtain ⟨w, h, hw⟩ : ∃ w, Sequence {} immediate .operated w ∧ _ := Sequence.play_exists smooth_operated (fun _ hd => by cases hd)
    (fun a ha _ => by
      have ha : a ∈ [_, _] := ha
      rcases List.mem_pair.mp ha with rfl | rfl <;> trivial) readsAlert_smooth
  obtain ⟨hsome, hone⟩ := Bool.and_eq_true _ _ ▸ hw
  obtain ⟨st, hst⟩ := Option.isSome_iff_exists.mp hsome
  obtain ⟨hle, hend⟩ := incident_terminates {} immediate (by decide) rfl h hst
  exact ⟨w, st, h, hst, of_decide_eq_true hone, hle, hend⟩

/-! ## Without the bound on attempts -/

/-- An engine that is never available, and claims once every lease has lapsed. -/
def Env.unavailable : Env where
  allows _ w c r :=
    match c, r with
    | .decide _, r => r = .error (.retryable "model unavailable")
    | .takeUsage, r => r = .ok (0, 0)
    | .execute .., r => r = .ok .null
    | .store (.claim ..), _ => ∀ id row lease, w.store.queue.get id = some row → row.leaseUntil = some lease → lease < w.now
    | _, _ => True
  starts := Env.operator.starts
  dies := Env.operator.dies

def impatient : Settings := { maxQueueAttempts := 1025, queueRetryBaseSeconds := .finite 0 }

/-- The task's delivery goes round. -/
structure Circling (w : World) (taskId : String) : Prop where
  filed : Filed w.store
  row : ∃ row, w.store.queue.get row.id = some row ∧ (∀ id x, w.store.queue.get id = some x → id = row.id) ∧ row.taskId = taskId ∧
    row.maxAttempts = 1025 ∧ row.availableAt ≤ w.now ∧
    (row.status = .pending ∨ row.status = .processing ∧ ∃ lease, row.leaseUntil = some lease)
  active : ∃ st, w.store.stored taskId = some st ∧ st.status.active = true ∧ st.pendingAction = none

/-- A row that waits, or whose lease has lapsed, is handed out. -/
theorem claim_hands {s s' : SQLiteStore} {row : QueueRow} (hr : s.queue.get row.id = some row)
    {t : Timestamp} (hav : row.availableAt ≤ t)
    (hst : row.status = .pending ∨ row.status = .processing ∧ ∃ lease, row.leaseUntil = some lease ∧ lease < t)
    {workerId : String} {n : Int} {r : Option QueueDelivery} (h : s.claim t workerId n = (r, s')) : r ≠ none := by
  intro hnone
  subst hnone
  have hget : (s.sweep t).queue.get row.id = some (SQLiteStore.swept t row) := by rw [SQLiteStore.sweep_get, hr]; rfl
  have hclaimable : SQLiteStore.isClaimable t (SQLiteStore.swept t row) = true := by
    unfold SQLiteStore.isClaimable
    have havail : (SQLiteStore.swept t row).availableAt = row.availableAt := by unfold SQLiteStore.swept; split <;> rfl
    rw [SQLiteStore.swept_status, havail]
    rcases hst with hp | ⟨hp, lease, hl, hlt⟩
    · simp [SQLiteStore.isExpired, hp, hav]
    · simp [SQLiteStore.isExpired, hp, hl, hlt, hav]
  unfold SQLiteStore.claim at h
  simp only at h
  split at h
  · rename_i hmin
    rw [List.argmin_eq_none, List.filter_eq_nil_iff] at hmin
    exact hmin _ (Table.get_mem hget) hclaimable
  · cases h

theorem lapse_exists (now : Timestamp) (rows : List QueueRow) :
    ∃ t, now ≤ t ∧ ∀ row ∈ rows, ∀ lease, row.leaseUntil = some lease → lease < t := by
  induction rows with
  | nil => exact ⟨now, le_rfl, fun _ h => by cases h⟩
  | cons row rows ih =>
    obtain ⟨t, ht, hrows⟩ := ih
    refine ⟨max t (row.leaseUntil.getD t + 1), ht.trans (le_max_left _ _), fun x hx lease hl => ?_⟩
    rcases List.mem_cons.mp hx with rfl | hx
    · rw [hl]
      simp
    · exact (hrows x hx lease hl).trans_le (le_max_left _ _)

theorem unavailable_answers (c : Call) (w : World) : ∃ r w', calls .unavailable 0 c w r w' := by
  cases c with
  | store c =>
    obtain ⟨t, ht, hlapsed⟩ := lapse_exists w.now w.store.queue.rows
    refine ⟨_, _, t, _, ht, ?_, Prod.mk.eta.symm, rfl⟩
    cases c with
    | claim => exact fun id row lease hr hl => hlapsed row (Table.get_mem hr) lease hl
    | _ => trivial
  | clock => exact ⟨_, _, w.now, _, le_rfl, trivial, ⟨rfl, rfl⟩, rfl⟩
  | awaitHeartbeat => exact ⟨_, _, w.now, _, le_rfl, trivial, ⟨rfl, rfl⟩, rfl⟩
  | decide | takeUsage | execute => exact ⟨_, _, w.now, _, le_rfl, rfl, rfl, rfl⟩
  | aws c => exact ⟨.error (.value ""), _, w.now, _, le_rfl, trivial, rfl, rfl⟩

/-- The task's delivery is handed out, and goes back or stays leased. -/
theorem Circling.worked (h : Circling w taskId) {workerId : String}
    (hw : Served rt impatient .unavailable (fun _ r => r = .error (.retryable "model unavailable")) (fun r => r = .ok (0, 0))
      workerId w w') : Circling w' taskId ∧ claims taskId w'.memory = claims taskId w.memory + 1 := by
  obtain ⟨row, hr, honly, hrt, hmax, hav, hst⟩ := h.row
  obtain ⟨cp, hcp, hact, hnone⟩ := h.active
  obtain ⟨t, ht, ⟨_, hlapsed⟩, ⟨s, hclaim, -⟩ | ⟨d, s, cp', hclaim, hcp', hd⟩⟩ := hw
  · refine absurd rfl (claim_hands hr (hav.trans ht) ?_ hclaim)
    rcases hst with hp | ⟨hp, lease, hl⟩
    · exact .inl hp
    · exact .inr ⟨hp, lease, hl, hlapsed row.id row lease hr hl⟩
  rcases SQLiteStore.claim_cases hclaim with ⟨e, -⟩ | ⟨x, hx, hxp, hxav, hsome, hget, -⟩
  · cases e
  cases hsome
  -- the row handed out is the task's
  have hxrow : x = SQLiteStore.swept t row := by
    rw [SQLiteStore.sweep_get] at hx
    obtain ⟨y, hy, rfl⟩ := Option.map_eq_some_iff.mp hx
    rw [honly _ y hy, hr] at hy
    cases hy
    rfl
  have hxid : x.id = row.id := by rw [hxrow]; unfold SQLiteStore.swept; split <;> rfl
  have hxt : x.taskId = taskId := by rw [hxrow, ← hrt]; unfold SQLiteStore.swept; split <;> rfl
  have hxm : x.maxAttempts = 1025 := by rw [hxrow, ← hmax]; unfold SQLiteStore.swept; split <;> rfl
  rw [show (QueueDelivery.mk x.id x.taskId (x.attempts + 1) x.maxAttempts x.payload).taskId = taskId from hxt, hcp] at hcp'
  cases hcp'
  have honly' : ∀ id y, s.queue.get id = some y → id = x.id := by
    intro id y hy
    rw [hget] at hy
    split at hy
    · assumption
    · rw [SQLiteStore.sweep_get] at hy
      obtain ⟨z, hz, -⟩ := Option.map_eq_some_iff.mp hy
      rw [hxid]
      exact honly id z hz
  obtain ⟨o, st, m', cp', s₂, t₂, hturn, hsettled, hserving⟩ := hd
  have hclaimed : claims taskId w'.memory = claims taskId w.memory + 1 := by
    have := claims_takes taskId w.memory ⟨x.id, x.taskId, x.attempts + 1, x.maxAttempts, x.payload⟩
    rw [if_pos hxt] at this
    rw [hserving.memory, ← this]
    unfold claims
    rw [hturn.claimed]
  have hfailed : ∃ e, o = .error e ∧ e.isRetryable = true ∧ st.status.active = true ∧ st.pendingAction = none := by
    cases hturn with
    | idle hidle => exact absurd (hidle.symm.trans hact) (by decide)
    | unapproved _ hp | resumed _ hp => exact absurd (hnone.symm.trans hp) (by simp)
    | undecided _ _ hd hretry => exact ⟨_, rfl, hretry, rfl, hnone⟩
    | unanswered _ _ hd hno => cases hd; cases hno
    | unmetered _ _ hd | acted _ _ hd => cases hd
  obtain ⟨e, rfl, hretry, hstact, hstnone⟩ := hfailed
  have hq : ∀ id, w'.store.queue.get id = s₂.queue.get id := fun id => congrArg (·.get id) hserving.queue
  have hnow : t₂ ≤ w'.now := hserving.now
  have hx' := hget x.id
  rw [if_pos rfl] at hx'
  generalize hcontent : cp'.content = out at hsettled
  have hend : ∀ {row : QueueRow}, s₂.queue.get x.id = some row → (∀ id y, s₂.queue.get id = some y → id = x.id) →
      row.taskId = taskId → row.maxAttempts = 1025 → row.availableAt ≤ w'.now →
      (row.status = .pending ∨ row.status = .processing ∧ ∃ lease, row.leaseUntil = some lease) → out = st →
      Circling w' taskId ∧ claims taskId w'.memory = claims taskId w.memory + 1 := by
    intro row hrow honly ht hm hav hst hout
    subst hout
    have hid : row.id = x.id := Table.get_key hrow
    refine ⟨⟨hserving.filed, ⟨row, ?_, fun id y hy => ?_, ht, hm, hav, hst⟩, cp', hxt ▸ hserving.stored, ?_, ?_⟩, hclaimed⟩
    · rw [hq, hid]; exact hrow
    · rw [hid]; exact honly id y (hq id ▸ hy)
    · rw [← hcontent] at hstact; exact hstact
    · rw [← hcontent] at hstnone; exact hstnone
  cases hsettled with
  | overflowed _ _ _ =>
    exact hend hx' honly' hxt hxm (hxav.trans hnow) (.inr ⟨rfl, _, rfl⟩) rfl
  | @returned _ _ _ delay _ _ hdelay hlt =>
    have hlt : x.attempts + 1 < x.maxAttempts := hlt
    have hg := retried_get (s := s) hdelay e.message t₂
    have hg' := hg x.id
    rw [hx', Option.map_some, if_pos rfl] at hg'
    refine hend hg' (fun id y hy => ?_) hxt hxm ?_ (.inl ?_) rfl
    · rw [hg] at hy
      obtain ⟨z, hz, -⟩ := Option.map_eq_some_iff.mp hy
      exact honly' id z hz
    · have hzero : timedelta delay = 0 := timedelta_backoff hdelay
      simpa [Nat.not_le.mpr hlt, hzero] using hnow
    · simp [Nat.not_le.mpr hlt]
  | buried _ _ hdelay hge =>
    have hlt := backoff_ok_iff.mp ⟨_, hdelay⟩
    have hge : x.maxAttempts ≤ x.attempts + 1 := hge
    have hlt : x.attempts + 1 - 1 < 1024 := hlt
    omega
  | failed _ hno _ | raised hno _ => rw [hno] at hretry; cases hretry

theorem unavailable_engine : EngineSpec .unavailable anyEngine (fun _ r => r = .error (.retryable "model unavailable"))
    (fun r => r = .ok (0, 0)) where
  decide h := wp_perform.mpr fun r _ hs => by
    have h' := h.steady rfl hs
    obtain ⟨_, _, -, hal, -⟩ := hs
    exact ⟨hal, h'⟩
  usage h := wp_perform.mpr fun r _ hs => by
    have h' := h.steady rfl hs
    obtain ⟨_, _, -, hal, -⟩ := hs
    exact ⟨hal, h'⟩

theorem Circling.runOnce (h : Circling w taskId) (workerId : String) :
    wp (calls .unavailable 0) ((Operation.runOnce workerId).program {} impatient)
      (fun _ w' => Circling w' taskId ∧ claims taskId w'.memory = claims taskId w.memory + 1) w := by
  refine wp_reply (wp_mono (runOnce_served unavailable_engine rfl h.filed fun t d s _ hclaim => ?_) fun _ w' hw => h.worked hw)
  obtain ⟨row, hr, honly, hrt, -⟩ := h.row
  obtain ⟨cp, hcp, -⟩ := h.active
  have hback : ∀ id x', s.queue.get id = some x' → id = row.id ∧ x'.taskId = taskId := by
    intro id x' hx'
    rcases SQLiteStore.claim_row hclaim id with ⟨hn, -⟩ | ⟨x, y, hx, hy, hyt, -⟩
    · rw [hn] at hx'; cases hx'
    · rw [hy] at hx'
      cases hx'
      have hid := honly id x hx
      rw [hid, hr] at hx
      cases hx
      exact ⟨hid, hyt.trans hrt⟩
  rcases SQLiteStore.claim_cases hclaim with ⟨e, -⟩ | ⟨x, -, -, -, hsome, hget, -⟩
  · cases e
  cases hsome
  obtain ⟨hid, ht⟩ := hback x.id _ ((hget x.id).trans (if_pos rfl))
  refine ⟨⟨cp, ?_⟩, fun id y hy hyt hne => absurd ((hback id y hy).1.trans hid.symm) hne⟩
  have ht : x.taskId = taskId := ht
  show w.store.stored x.taskId = some cp
  rw [ht]
  exact hcp

/-- The worker's next run. -/
theorem Circling.goes_on (h : Circling w taskId) : ∃ o w', Runs (calls .unavailable 0) ((Operation.runOnce "w1").program {} impatient)
    (w.note (.began 0 (.runOnce "w1"))) o w' ∧ Circling (w'.note (.ended 0 o)) taskId ∧
      claims taskId (w'.note (.ended 0 o)).memory = claims taskId w.memory + 1 := by
  have hbegan : Circling (w.note (.began 0 (.runOnce "w1"))) taskId := ⟨h.filed, h.row, h.active⟩
  obtain ⟨o, w', hr⟩ := runs_exists unavailable_answers ((Operation.runOnce "w1").program {} impatient) (w.note (.began 0 (.runOnce "w1")))
  obtain ⟨hcirc, hn⟩ := wp_sound (hbegan.runOnce "w1") hr
  exact ⟨o, w', hr, ⟨hcirc.filed, hcirc.row, hcirc.active⟩, hn⟩

/-- An incident has been created, and its first delivery queued. -/
def firstQueued (w : World) : Bool :=
  match w.store.queue.rows, w.store.stored "t" with
  | [row], some st => decide (row.taskId = "t" ∧ row.maxAttempts = 1025 ∧ row.availableAt ≤ w.now ∧ row.status = .pending ∧
      st.status.active = true ∧ st.pendingAction.isNone = true ∧ claims "t" w.memory = 0)
  | _, _ => false

/-- The calls of the store but claims, and the clock. -/
def creating : Call → Bool
  | .store (.claim ..) => false
  | .store _ | .clock => true
  | _ => false

theorem Circling.of_first (hf : Filed w.store) (hw : firstQueued w = true) : Circling w "t" ∧ claims "t" w.memory = 0 := by
  unfold firstQueued at hw
  split at hw
  · rename_i row st hrows hst
    obtain ⟨ht, hm, hav, hp, hact, hnone, hzero⟩ := of_decide_eq_true hw
    refine ⟨⟨hf, ⟨row, ?_, fun id x hx => ?_, ht, hm, hav, .inl hp⟩, st, hst, hact, ?_⟩, hzero⟩
    · exact Table.mem_iff_get.mp (by rw [hrows]; exact List.mem_singleton_self _)
    · have hmem := Table.get_mem hx
      rw [hrows] at hmem
      obtain rfl := List.mem_singleton.mp hmem
      exact (Table.get_key hx).symm
    · exact Option.isNone_iff_eq_none.mp hnone
  · cases hw

/-- A written incident's first moments, without a worker. -/
theorem creates_unavailable {P : World → Bool}
    (h : (Sequence.play {} impatient (fun _ c _ => creating c) (fun _ => false) [createsAct] World.init).any P = true) :
    ∃ w, Sequence {} impatient .unavailable w ∧ P w = true :=
  Sequence.play_exists (fun w c r hc => by
    cases c with
    | store c => cases c <;> trivial
    | clock => trivial
    | _ => cases hc) (fun _ hd => by cases hd) (fun a ha _ => by
      obtain rfl := List.mem_singleton.mp ha
      trivial) h

theorem creates_plays : (Sequence.play {} impatient (fun _ c _ => creating c) (fun _ => false) [createsAct] World.init).any firstQueued =
    true := by
  decide +kernel

theorem circling_exists (n : Nat) : ∃ w, Sequence {} impatient .unavailable w ∧ Circling w "t" ∧ claims "t" w.memory = n := by
  induction n with
  | zero =>
    obtain ⟨w, h, hw⟩ := creates_unavailable creates_plays
    have hlevel : Level w.store := sequence_level rfl rfl (fun _ hd => hd) h
    exact ⟨w, h, Circling.of_first hlevel.filed hw⟩
  | succ n ih =>
    obtain ⟨w, h, hcirc, hn⟩ := ih
    obtain ⟨o, w', hr, hcirc', hn'⟩ := hcirc.goes_on
    refine ⟨_, h.ran (by exact trivial) hr, hcirc', ?_⟩
    rw [hn', hn]

/-- With 1025 attempts a delivery, an engine that is never available keeps an incident going. -/
theorem incident_goes_on : ∃ w, Sequence {} impatient .operator w ∧ 40 * impatient.maxQueueAttempts < claims "t" w.memory := by
  obtain ⟨w, h, -, hn⟩ := circling_exists (40 * impatient.maxQueueAttempts + 1)
  have hmono : ∀ w c r, Env.unavailable.allows 0 w c r → Env.operator.allows 0 w c r := by
    intro w c r hal
    cases c with
    | decide => obtain rfl := hal; exact .inl rfl
    | takeUsage | execute => obtain rfl := hal; trivial
    | _ => cases r <;> trivial
  exact ⟨w, h.mono hmono (fun _ _ hs => hs) (fun _ hd => hd), by omega⟩

end AgentResilience
