/-
  AgentResilience.ModelFailures — a model that is not available, under one worker run after
  another.

  - `process_asked`, `runOnce_asked`: a run that hands out a delivery asks the engine once,
    about the stored checkpoint, started, if that is active and has no pending action.
  - `Failing`: a delivery and its workflow after `n` failures; `Failing.worked` is the step,
    `Failing.rounds` the run.
  - `model_failures_absorbed_iff`: the queue's budget absorbs the failures, as long as there
    are at most 1024. `overflow_unburied`: the 1025th overflows the queue's backoff, so the
    delivery is neither put back nor dead-lettered.
-/
import AgentResilience.Standing
import AgentResilience.WorkerCalls

namespace AgentResilience

open Interaction
open Interaction.Prog (makes_bind makes_attempt makes_ofExcept makes_perform)
open WorkflowState (content)

/-! ## What the engine is asked -/

/-- The checkpoint the engine was asked about. -/
def Entry.asked : Entry → Option WorkflowState
  | did _ (.decide st) _ => some st
  | _ => none

/-- The checkpoints the engine was asked about, newest first. -/
def World.asked (w : World) : List WorkflowState := w.journal.filterMap Entry.asked

def Call.silent : Call → Bool
  | .decide _ | .store (.claim ..) => false
  | _ => true

/-- The engine was not asked, and no delivery was handed out. -/
structure Silent (w w' : World) : Prop where
  asked : w'.asked = w.asked
  claimed : w'.memory.claimed = w.memory.claimed

/-- The engine was asked once, about `cp` started, and no delivery was handed out. -/
def AskedAbout (w : World) (cp : WorkflowState) (w' : World) : Prop :=
  w'.memory.claimed = w.memory.claimed ∧ ∃ st, w'.asked = st :: w.asked ∧ st.content = cp.content.started

/-- The engine was asked about the task's checkpoint, if that is active and has no pending action. -/
def AskedOnce (w : World) (taskId : String) (w' : World) : Prop :=
  (∃ cp, w.store.stored taskId = some cp ∧ AskedAbout w cp w') ∨
    Silent w w' ∧ ∀ cp, w.store.stored taskId = some cp → cp.status.active = true → cp.pendingAction ≠ none

variable {rt : WorkflowRuntime} {config : Settings} {env : Env} {taskId : String} {cp st : WorkflowState} {m : Memory}
  {w₀ w w' w'' : World} {α : Type}

theorem Silent.refl (w : World) : Silent w w := ⟨rfl, rfl⟩

theorem Silent.trans (h : Silent w w') (h' : Silent w' w'') : Silent w w'' :=
  ⟨h'.asked.trans h.asked, h'.claimed.trans h.claimed⟩

theorem AskedAbout.after (h : Silent w w') (h' : AskedAbout w' cp w'') : AskedAbout w cp w'' := by
  obtain ⟨hc, st, ha, hst⟩ := h'
  exact ⟨hc.trans h.claimed, st, by rw [ha, h.asked], hst⟩

theorem AskedAbout.silent (h : AskedAbout w cp w') (h' : Silent w' w'') : AskedAbout w cp w'' := by
  obtain ⟨hc, st, ha, hst⟩ := h
  exact ⟨h'.claimed.trans hc, st, h'.asked.trans ha, hst⟩

theorem AskedOnce.silent (h : AskedOnce w taskId w') (h' : Silent w' w'') : AskedOnce w taskId w'' := by
  rcases h with ⟨cp, hcp, h⟩ | ⟨h, hno⟩
  · exact .inl ⟨cp, hcp, h.silent h'⟩
  · exact .inr ⟨h.trans h', hno⟩

theorem calls_silent {c : Call} {r : Except PyError c.Ret} (hc : c.silent = true) (hs : calls env 0 c w r w') : Silent w w' := by
  obtain ⟨t, s', -, -, -, rfl⟩ := hs
  have hnone : (Entry.did 0 c r).asked = none ∧ (Entry.did 0 c r).claimed = none := by
    cases c with
    | decide => cases hc
    | store c =>
      cases c with
      | claim => cases hc
      | _ => exact ⟨rfl, rfl⟩
    | _ => exact ⟨rfl, rfl⟩
  exact ⟨List.filterMap_cons_none hnone.1, List.filterMap_cons_none hnone.2⟩

theorem silent_store (c : StoreCall) (h : ∀ workerId n, c ≠ .claim workerId n) : (Call.store c).silent = true := by
  cases c with
  | claim workerId n => exact absurd rfl (h workerId n)
  | _ => rfl

/-- A program of silent calls. -/
theorem wp_silent {p : Py α} (hp : p.Makes fun c => c.silent = true) (w : World) :
    wp (calls env 0) p (fun _ w' => Silent w w') w :=
  wp_keeps (I := Silent w) (fun _ _ _ _ hc hs h => h.trans (calls_silent hc hs)) hp (.refl w)

theorem silent_acts (c : Call) (h : c.acts = true) : c.silent = true := by
  unfold Call.silent
  split <;> first | rfl | cases h

theorem decideNext_asked (he : rt.engine = anyEngine) (hb : rt.backend = anyBackend) (h : Serving taskId w₀ cp m w) :
    wp (calls env 0) (rt.decideNext taskId cp) (fun _ w' => AskedAbout w cp w') w := by
  unfold WorkflowRuntime.decideNext
  refine wp_seq (R := fun st w₁ => st.content = cp.content.started ∧ Serving taskId w₀ st m w₁ ∧ Silent w w₁) ?_ fun st w₁ hq => ?_
  · refine wp_mono (wp_and (save_serving h (by exact h.task) rfl) (wp_silent (makes_perform rfl) w)) fun o w₁ hq => ?_
    obtain ⟨⟨st, ho, ⟨t, e⟩, h₁⟩, hs⟩ := hq
    exact ⟨st, ho, by rw [e]; rfl, h₁, hs⟩
  obtain ⟨hst, h₁, hs₁⟩ := hq
  refine wp_seq (R := fun _ w₂ => Silent w w₂) ?_ fun _ w₂ hs₂ => ?_
  · refine wp_mono (wp_and (record_serving h₁ _ _ _) (wp_silent (makes_perform rfl) w₁)) fun o w₂ hq => ?_
    obtain ⟨⟨u, ho, -⟩, hs⟩ := hq
    exact ⟨u, ho, hs₁.trans hs⟩
  rw [he]
  refine wp_bind.mpr (wp_attempt.mpr (wp_perform.mpr fun r w₃ hs => ?_))
  have hasked : AskedAbout w cp w₃ := by
    obtain ⟨t₃, s₃, -, -, -, rfl⟩ := hs
    refine AskedAbout.after hs₂ ⟨rfl, st, rfl, hst⟩
  have hrest : ∀ {p : Py WorkflowState}, p.Makes (fun c => c.silent = true) →
      wp (calls env 0) p (fun _ w' => AskedAbout w cp w') w₃ := by
    intro p hp
    exact wp_mono (wp_silent hp w₃) fun _ w' hw => hasked.silent hw
  cases r with
  | ok d => exact hrest (applyDecision_makes silent_acts he hb ..)
  | error e =>
    show wp _ (if _ then _ else _) _ _
    split
    · exact hrest (makes_bind (makes_perform rfl) fun _ => makes_bind (makes_perform rfl) fun _ => trivial)
    · exact hrest trivial

theorem process_asked (he : rt.engine = anyEngine) (hb : rt.backend = anyBackend) (hf : Filed w.store) :
    wp (calls env 0) (rt.process taskId) (fun _ w' => AskedOnce w taskId w') w := by
  refine wp_bind.mpr (wp_bind.mpr (wp_perform.mpr fun r w₁ hs => ?_))
  have hs₁ := calls_silent rfl hs
  have hi := calls_idle hf rfl hs
  obtain ⟨t, s', -, -, hget, rfl⟩ := hs
  obtain ⟨rfl, rfl⟩ := Prod.mk.inj hget
  cases hst : w.store.getWorkflow taskId with
  | none =>
    rw [hst] at hs₁
    refine .inr ⟨hs₁, fun cp hcp => ?_⟩
    exact absurd (hst.symm.trans hcp) (by simp)
  | some cp =>
    rw [hst] at hs₁ hi
    have hcp : ∀ cp', w.store.stored taskId = some cp' → cp' = cp := fun cp' h => Option.some.inj (h.symm.trans hst)
    show wp _ (if _ then _ else _) _ _
    split
    · rename_i hstop
      refine .inr ⟨hs₁, fun cp' h hact => ?_⟩
      obtain rfl := hcp cp' h
      rw [(stops_iff cp').mp hstop] at hact
      cases hact
    · split
      · rename_i p hp
        refine wp_mono (wp_silent (resumeApprovedAction_makes silent_acts hb ..) _) fun _ _ h => .inr ⟨hs₁.trans h, fun cp' h _ => ?_⟩
        obtain rfl := hcp cp' h
        rw [hp]
        simp
      · have hserving : Serving taskId w cp w.memory ⟨w.store, t, .did 0 (.store (.getWorkflow taskId)) (.ok (some cp)) :: w.journal⟩ :=
          ⟨hf, hst, fun _ _ => rfl, rfl, hi.memory, hi.now⟩
        exact wp_mono (decideNext_asked he hb hserving) fun _ w' h => .inl ⟨cp, hst, .after hs₁ h⟩

theorem handleDelivery_asked (he : rt.engine = anyEngine) (hb : rt.backend = anyBackend) (hf : Filed w.store) (config : Settings)
    (d : QueueDelivery) :
    wp (calls env 0) (handleDelivery rt config d) (fun _ w' => AskedOnce w d.taskId w') w := by
  have hrest : ∀ {β : Type} {p : Py β} {w₁ : World}, AskedOnce w d.taskId w₁ → p.Makes (fun c => c.silent = true) →
      wp (calls env 0) p (fun _ w' => AskedOnce w d.taskId w') w₁ := by
    intro β p w₁ h₁ hp
    exact wp_mono (wp_silent hp w₁) fun _ w₂ h => h₁.silent h
  refine wp_bind.mpr (wp_attempt.mpr (wp_bind.mpr (wp_mono (process_asked he hb hf) fun o w₁ h₁ => ?_)))
  cases o with
  | error e => exact hrest h₁ (onFailure_makes silent_store d e)
  | ok st =>
    refine wp_bind.mpr (wp_mono (hrest h₁ (makes_perform rfl)) fun o w₂ h₂ => ?_)
    cases o with
    | error e => exact hrest h₂ (onFailure_makes silent_store d e)
    | ok u =>
      show wp _ (if _ then _ else _) _ w₂
      split
      · refine wp_bind.mpr (wp_mono (hrest h₂ (makes_perform rfl)) fun o w₃ h₃ => ?_)
        cases o with
        | error e => exact hrest h₃ (onFailure_makes silent_store d e)
        | ok n => exact h₃
      · exact h₂

/-- A worker's run hands out nothing, or a delivery whose checkpoint the engine is asked about. -/
theorem runOnce_asked (he : rt.engine = anyEngine) (hb : rt.backend = anyBackend) (hf : Filed w.store) (workerId : String) :
    wp (calls env 0) (runOnce rt config workerId) (fun _ w' => Silent w w' ∨ ∃ d w₁, w₁.store.stored = w.store.stored ∧
      w₁.asked = w.asked ∧ w₁.memory.claimed = d :: w.memory.claimed ∧ AskedOnce w₁ d.taskId w') w := by
  refine wp_bind.mpr (wp_perform.mpr fun r w₁ hs => ?_)
  obtain ⟨t, s, -, -, hclaim, rfl⟩ := hs
  obtain ⟨rfl, hs⟩ := Prod.mk.inj hclaim
  have hfiled : Filed s := by
    obtain rfl := hs
    exact hf.congr (claim_frame ..).1 (StoreCall.apply_events (c := .claim workerId config.queueLeaseSeconds) rfl _ _)
  have hstored : s.stored = w.store.stored := by
    obtain rfl := hs
    exact funext fun T => claim_stored (Eq.refl (w.store.claim t workerId config.queueLeaseSeconds)) T
  have hdepth : ∀ b : Bool, (updateDepth.bind fun _ => (.ret b : Py Bool)).Makes fun c => c.silent = true :=
    fun _ => makes_bind (makes_bind (makes_perform rfl) fun _ => trivial) fun _ => trivial
  cases (w.store.claim t workerId config.queueLeaseSeconds).1 with
  | none =>
    have hs₁ : Silent w ⟨s, t, .did 0 (.store (.claim workerId config.queueLeaseSeconds)) (.ok none) :: w.journal⟩ := ⟨rfl, rfl⟩
    exact wp_mono (wp_silent (hdepth false) _) fun _ w' h => .inl (hs₁.trans h)
  | some d =>
    refine wp_bind.mpr (wp_attempt.mpr (wp_mono (handleDelivery_asked he hb hfiled config d) fun o w₂ h₂ => ?_))
    refine wp_mono (wp_silent (makes_bind (makes_perform rfl) fun _ => ?_) w₂) fun _ w' h => .inr
      ⟨d, ⟨s, t, .did 0 (.store (.claim workerId config.queueLeaseSeconds)) (.ok (some d)) :: w.journal⟩, hstored, rfl, rfl, h₂.silent h⟩
    cases o with
    | error e => trivial
    | ok u => exact hdepth true

/-! ## Failures -/

/-- Worker runs, one after another. -/
inductive Rounds (rt : WorkflowRuntime) (config : Settings) (env : Env) (w : World) : World → Prop
  | here : Rounds rt config env w w
  | round {w' w'' : World} {workerId : String} {o : Except PyError Reply} : Rounds rt config env w w' →
      Runs (calls env 0) ((Operation.runOnce workerId).program rt config) (w'.note (.began 0 (.runOnce workerId))) o w'' →
      Rounds rt config env w (w''.note (.ended 0 o))

/-- An engine that raises a retryable error whenever it is asked about the task. -/
def Env.failing (taskId : String) : Env where
  allows _ _ c r :=
    match c with
    | .decide st => st.taskId = taskId → ∃ e, r = .error e ∧ e.isRetryable = true
    | _ => True

/-- What a decision builds on is as in `cp`, and `n` retries were added. -/
structure Resumes (cp : WorkflowState) (n : Nat) (st : WorkflowState) : Prop where
  toolHistory : st.toolHistory = cp.toolHistory
  progressHistory : st.progressHistory = cp.progressHistory
  evidence : st.evidence = cp.evidence
  completedSteps : st.completedSteps = cp.completedSteps
  retries : st.retries = cp.retries + n

/-- Whenever the task's delivery is handed out next, the engine is asked once, about a checkpoint that `P` holds of. -/
def AsksNext (rt : WorkflowRuntime) (config : Settings) (taskId : String) (P : WorkflowState → Prop) (w : World) : Prop :=
  ∀ w₁ w₂ workerId o, Rounds rt config .free w w₁ → claims taskId w₁.memory = claims taskId w.memory →
    Runs (calls .free 0) ((Operation.runOnce workerId).program rt config) (w₁.note (.began 0 (.runOnce workerId))) o w₂ →
    claims taskId w₂.memory = claims taskId w.memory + 1 → ∃ st, w₂.asked = st :: w₁.asked ∧ st.taskId = taskId ∧ P st

/-- After `n` failures of the delivery `row`: while attempts are left it can be claimed at once,
    and the engine is asked about the checkpoint `cp` with `n` more retries; after the last the
    workflow is dead-lettered, and a replay goes on from that checkpoint. -/
structure Absorbed (rt : WorkflowRuntime) (config : Settings) (row : QueueRow) (cp : WorkflowState) (n : Nat) (w : World) : Prop where
  retried : n < row.maxAttempts →
    (∃ x, w.store.queue.get row.id = some x ∧ x.status = .pending ∧ x.attempts = n ∧ x.availableAt ≤ w.now) ∧
      AsksNext rt config row.taskId (Resumes cp n) w
  buried : row.maxAttempts ≤ n → n = row.maxAttempts ∧
    (∃ x st, w.store.queue.get row.id = some x ∧ x.status = .dead ∧ w.store.stored row.taskId = some st ∧
      st.status = .deadLettered ∧ Resumes cp n st) ∧
    ∀ deliveryId actor reason reply w', Runs (calls .free 0) ((Operation.replay deliveryId row.taskId actor reason).program rt config)
      (w.note (.began 0 (.replay deliveryId row.taskId actor reason))) (.ok reply) w' →
      AsksNext rt config row.taskId (Resumes cp n) (w'.note (.ended 0 (.ok reply)))

/-! ### The next decision -/

variable {n : Nat} {row : QueueRow} {workerId : String} {o : Except PyError Reply}

theorem Resumes.asked {st' : WorkflowState} (h : Resumes cp n st) (hst : st'.content = st.content.started) : Resumes cp n st' where
  toolHistory := (congrArg (·.toolHistory) hst).trans h.toolHistory
  progressHistory := (congrArg (·.progressHistory) hst).trans h.progressHistory
  evidence := (congrArg (·.evidence) hst).trans h.evidence
  completedSteps := (congrArg (·.completedSteps) hst).trans h.completedSteps
  retries := (congrArg (·.retries) hst).trans h.retries

/-- A run hands out at most one delivery. -/
theorem runOnce_claims (he : rt.engine = anyEngine) (hb : rt.backend = anyBackend) (h : Standing w.store)
    (hr : Runs (calls env 0) ((Operation.runOnce workerId).program rt config) w o w') :
    Silent w w' ∨ ∃ d w₁, w₁.store.stored = w.store.stored ∧ w₁.asked = w.asked ∧ w'.memory.claimed = d :: w.memory.claimed ∧
      AskedOnce w₁ d.taskId w' := by
  rcases wp_sound (wp_reply (runOnce_asked he hb h.level.filed workerId)) hr with h | ⟨d, w₁, hst, ha, hc, h⟩
  · exact .inl h
  · refine .inr ⟨d, w₁, hst, ha, ?_, h⟩
    rcases h with ⟨_, _, hc', -⟩ | ⟨hs, -⟩
    · rw [hc', hc]
    · rw [hs.claimed, hc]

theorem runOnce_mono (he : rt.engine = anyEngine) (hb : rt.backend = anyBackend) (h : Standing w.store)
    (hr : Runs (calls env 0) ((Operation.runOnce workerId).program rt config) w o w') (taskId : String) :
    claims taskId w.memory ≤ claims taskId w'.memory := by
  unfold claims
  rcases runOnce_claims he hb h hr with h | ⟨d, _, -, -, hc, -⟩
  · rw [h.claimed]
  · rw [hc, List.countP_cons]
    omega

/-- A workflow that can go on, with a delivery that is not completed. -/
structure Ready (taskId : String) (st : WorkflowState) (w : World) : Prop where
  standing : Standing w.store
  stored : w.store.stored taskId = some st
  active : st.status.active = true
  idle : st.pendingAction = none
  row : ∃ id x, w.store.queue.get id = some x ∧ x.taskId = taskId ∧ x.status ≠ .completed

theorem Ready.note (h : Ready taskId st w) (e : Entry) : Ready taskId st (w.note e) := ⟨h.standing, h.stored, h.active, h.idle, h.row⟩

/-- A run that does not hand out the task's delivery leaves it ready. -/
theorem Ready.kept (he : rt.engine = anyEngine) (hb : rt.backend = anyBackend) (h : Ready taskId st w)
    (hr : Runs (calls env 0) ((Operation.runOnce workerId).program rt config) w o w')
    (hc : claims taskId w'.memory = claims taskId w.memory) : Ready taskId st w' := by
  obtain ⟨id, x, hx, ht, hlive⟩ := h.row
  subst ht
  rcases (h.standing.served hb (he ▸ anyEngine_spec) hr).row h.standing hx hlive with ⟨-, hst, -, t, hx'⟩ | ⟨_, _, _, -, -, -, -, -, hc', -⟩
  · refine ⟨h.standing.operation he hb hr, hst.trans h.stored, h.active, h.idle, id, _, hx', (swept_keeps t x).2.1, ?_⟩
    rw [SQLiteStore.swept_status]
    split
    · decide
    · exact hlive
  · omega

/-- Worker runs hand out ever more deliveries. -/
theorem Rounds.claims_mono (he : rt.engine = anyEngine) (hb : rt.backend = anyBackend) (h : Standing w.store)
    (hr : Rounds rt config env w w') (taskId : String) : Standing w'.store ∧ claims taskId w.memory ≤ claims taskId w'.memory := by
  induction hr with
  | here => exact ⟨h, le_rfl⟩
  | @round w' w'' workerId o _ hrun ih =>
    obtain ⟨hstanding, hle⟩ := ih
    have hend : Standing w''.store := Standing.operation he hb (by exact hstanding) hrun
    exact ⟨hend, hle.trans (runOnce_mono he hb (by exact hstanding) hrun taskId)⟩

theorem Ready.rounds (he : rt.engine = anyEngine) (hb : rt.backend = anyBackend) (h : Ready taskId st w)
    (hr : Rounds rt config env w w') (hc : claims taskId w'.memory = claims taskId w.memory) : Ready taskId st w' := by
  induction hr with
  | here => exact h
  | @round w' w'' workerId o hr hrun ih =>
    obtain ⟨hstanding, hle⟩ := hr.claims_mono he hb h.standing taskId
    have hle' : claims taskId w'.memory ≤ claims taskId w''.memory := runOnce_mono he hb (by exact hstanding) hrun taskId
    have hc : claims taskId w''.memory = claims taskId w.memory := hc
    have hready := (ih (by omega)).note (.began 0 (.runOnce workerId))
    exact (hready.kept he hb hrun (by show _ = claims taskId w'.memory; omega)).note _

theorem Ready.asks (he : rt.engine = anyEngine) (hb : rt.backend = anyBackend) (h : Ready taskId st w) (hst : Resumes cp n st) :
    AsksNext rt config taskId (Resumes cp n) w := by
  intro w₁ w₂ workerId o hrounds hc hr hc₂
  have h₁ := h.rounds he hb hrounds hc
  rcases runOnce_claims he hb (by exact h₁.standing) hr with hs | ⟨d, w₃, hstored, ha, hclaimed, h₃⟩
  · have : claims taskId w₂.memory = claims taskId w₁.memory := congrArg (List.countP _) hs.claimed
    omega
  have hd : d.taskId = taskId := by
    by_contra hne
    have : claims taskId w₂.memory = claims taskId w₁.memory := by
      unfold claims
      rw [hclaimed, List.countP_cons_of_neg]
      · rfl
      · simpa using hne
    omega
  subst hd
  have hstored : w₃.store.stored d.taskId = some st := (congrFun hstored _).trans h₁.stored
  rcases h₃ with ⟨cp', hcp', -, st', hasked, hst'⟩ | ⟨-, hno⟩
  · rw [hstored] at hcp'
    cases hcp'
    refine ⟨st', hasked.trans (by rw [ha]; rfl), ?_, hst.asked hst'⟩
    obtain ⟨-, -, -, ht⟩ := h₁.standing.level.filed.version h₁.stored
    exact (congrArg (·.taskId) hst').trans ht
  · exact absurd h₁.idle (hno st hstored h₁.active)

/-! ### The failures -/

/-- What `n` failures make of a delivery with `N` attempts, and of its workflow. From the
    1025th on the queue's backoff overflows, and the delivery stays leased until it lapses. -/
inductive Fate (N : Nat) : Nat → QueueStatus → WorkflowStatus → Prop
  | waiting {n : Nat} {status : WorkflowStatus} : n ≤ 1024 → n < N → status.active = true → Fate N n .pending status
  | buried : N ≤ 1024 → Fate N N .dead .deadLettered
  | stuck {n : Nat} {q : QueueStatus} {status : WorkflowStatus} : 1024 < n → q = .pending ∨ q = .processing →
      status.active = true → Fate N n q status

/-- The delivery `row` and its workflow `cp` after `n` failures. -/
structure Failing (row : QueueRow) (cp : WorkflowState) (n : Nat) (w : World) : Prop where
  standing : Standing w.store
  fate : ∃ x st, w.store.queue.get row.id = some x ∧ x.taskId = row.taskId ∧ x.maxAttempts = row.maxAttempts ∧ x.attempts = n ∧
    x.availableAt ≤ w.now ∧ w.store.stored row.taskId = some st ∧ Resumes cp n st ∧ st.pendingAction = none ∧
    Fate row.maxAttempts n x.status st.status

variable {N : Nat} {q : QueueStatus} {status : WorkflowStatus}

theorem Fate.swept {x : QueueRow} (h : Fate N n x.status status) (t : Timestamp) :
    Fate N n (SQLiteStore.swept t x).status status := by
  rw [SQLiteStore.swept_status]
  split
  · rename_i hexp
    simp only [SQLiteStore.isExpired, Bool.and_eq_true, decide_eq_true_eq] at hexp
    rw [hexp.1] at h
    cases h with
    | stuck hn _ hact => exact .stuck hn (.inl rfl) hact
  · exact h

theorem Fate.live (h : Fate N n q status) : q ≠ .completed := by
  cases h with
  | waiting | buried => decide
  | stuck _ hq _ => rcases hq with rfl | rfl <;> decide

theorem Fate.pending (h : Fate N n .pending status) : status.active = true ∧ (n < N ∧ n ≤ 1024 ∨ 1024 < n) := by
  cases h with
  | waiting hn hlt hact => exact ⟨hact, .inl ⟨hlt, hn⟩⟩
  | stuck hn _ hact => exact ⟨hact, .inr hn⟩

theorem Failing.note (h : Failing row cp n w) (e : Entry) : Failing row cp n (w.note e) := ⟨h.standing, h.fate⟩

/-- A run does not hand out the delivery, or fails it once more. -/
theorem Failing.worked (hb : rt.backend = anyBackend) (he : rt.engine = anyEngine) (hbase : config.queueRetryBaseSeconds = .finite 0)
    (h : Failing row cp n w)
    (hr : Runs (calls (.failing row.taskId) 0) ((Operation.runOnce workerId).program rt config) w o w') :
    (claims row.taskId w'.memory = claims row.taskId w.memory ∧ Failing row cp n w') ∨
      (claims row.taskId w'.memory = claims row.taskId w.memory + 1 ∧ Failing row cp (n + 1) w' ∧
        (1024 ≤ n → ∃ x, w'.store.queue.get row.id = some x ∧ x.status = .processing)) := by
  have hstanding := h.standing.operation he hb hr
  obtain ⟨x, st, hx, hxt, hxm, hxa, hav, hst, hresumes, hnone, hfate⟩ := h.fate
  rw [← hxt] at hst ⊢
  rcases (h.standing.served hb (he ▸ anyEngine_spec) hr).row h.standing hx hfate.live with
    ⟨hc, hst', hnow, t, hx'⟩ | ⟨t, cp', s, ht, -, hpend, hcp', hs, hc, hd⟩
  · obtain ⟨-, htask, hmax, hatt, havail, -⟩ := swept_keeps t x
    refine .inl ⟨hc, hstanding, _, st, hx', htask.trans hxt, hmax.trans hxm, hatt.trans hxa, ?_, ?_, hresumes, hnone, hfate.swept t⟩
    · rw [havail]; exact hav.trans hnow
    · rw [← hxt, hst', hst]
  refine .inr ⟨hc, ?_⟩
  rw [hst] at hcp'
  cases hcp'
  obtain ⟨hact, hn⟩ := (hpend ▸ hfate.swept t).pending
  obtain ⟨-, htask, hmax, -, havail, -⟩ := swept_keeps t x
  have htaskId : st.taskId = row.taskId := by
    obtain ⟨-, -, -, e⟩ := h.standing.level.filed.version hst
    exact e.trans hxt
  obtain ⟨o', st', m', cp', s₂, t₂, hturn, hsettled, hserving⟩ := hd
  have hfailed : ∃ e, o' = .error e ∧ e.isRetryable = true ∧ st' = st.content.started.retrying e.message := by
    have hraises : ∀ {r : Except PyError AgentDecision}, (∃ w st', st'.content = st.content.started ∧
        (Env.failing row.taskId).allows 0 w (.decide st') r) → ∃ e, r = .error e ∧ e.isRetryable = true := by
      intro r hr
      obtain ⟨_, st'', hst'', hallow⟩ := hr
      exact hallow ((congrArg (·.taskId) hst'').trans htaskId)
    cases hturn with
    | idle hidle => exact absurd (hidle.symm.trans hact) (by decide)
    | unapproved _ hp | resumed _ hp => exact absurd (hnone.symm.trans hp) (by simp)
    | undecided _ _ _ hretry => exact ⟨_, rfl, hretry, rfl⟩
    | unanswered _ _ hd hno =>
      obtain ⟨e, he, hretry⟩ := hraises hd
      cases he
      rw [hno] at hretry
      cases hretry
    | unmetered _ _ hd | acted _ _ hd =>
      obtain ⟨e, he, -⟩ := hraises hd
      cases he
  obtain ⟨e, rfl, hretry, rfl⟩ := hfailed
  have hq : ∀ id, w'.store.queue.get id = s₂.queue.get id := fun id => congrArg (·.get id) hserving.queue
  have hnow : t₂ ≤ w'.now := hserving.now
  have hst' : w'.store.stored row.taskId = some cp' := hxt ▸ hserving.stored
  have hresumes' : Resumes cp (n + 1) (st.content.started.retrying e.message) :=
    ⟨hresumes.toolHistory, hresumes.progressHistory, hresumes.evidence, hresumes.completedSteps, congrArg (· + 1) hresumes.retries⟩
  have hcontent : ∀ {out}, cp'.content = out → Resumes cp (n + 1) out → Resumes cp (n + 1) cp' := by
    intro out e h
    subst e
    exact ⟨h.toolHistory, h.progressHistory, h.evidence, h.completedSteps, h.retries⟩
  generalize hout : cp'.content = out at hsettled
  have hstatus : cp'.status = out.status := congrArg (·.status) hout
  have hidle : cp'.pendingAction = out.pendingAction := congrArg (·.pendingAction) hout
  cases hsettled with
  | overflowed _ hover =>
    have hge : ¬ n < 1024 := by
      intro hlt
      obtain ⟨delay, hdelay⟩ := backoff_ok_iff.mpr (show x.attempts + 1 - 1 < 1024 by omega)
      rw [hdelay] at hover
      cases hover
    have hx' := (hq row.id).trans hs
    refine ⟨⟨hstanding, _, cp', hx', htask.trans hxt, hmax.trans hxm, ?_, ?_, hst', hcontent hout hresumes', hidle.trans hnone,
      .stuck (by omega) (.inr rfl) ?_⟩, fun _ => ⟨_, hx', rfl⟩⟩
    · exact congrArg (· + 1) hxa
    · rw [havail]; exact hav.trans (ht.trans hnow)
    · rw [hstatus]; rfl
  | @returned _ _ _ delay _ _ hdelay hlt =>
    have hlt : x.attempts + 1 < x.maxAttempts := hlt
    have hn' : x.attempts + 1 - 1 < 1024 := backoff_ok_iff.mp ⟨delay, hdelay⟩
    have hx' := (hq row.id).trans (retried_get (s := s) hdelay e.message t₂ row.id)
    rw [hs, Option.map_some, if_pos rfl] at hx'
    refine ⟨⟨hstanding, _, cp', hx', htask.trans hxt, hmax.trans hxm, congrArg (· + 1) hxa, ?_, hst', hcontent hout hresumes',
      hidle.trans hnone, ?_⟩, fun _ => by omega⟩
    · have hzero : timedelta delay = 0 := timedelta_backoff (by rw [hbase] at hdelay; exact hdelay)
      simpa [Nat.not_le.mpr hlt, hzero] using hnow
    · simp only [Nat.not_le.mpr hlt, if_false]
      exact .waiting (by omega) (by omega) (by rw [hstatus]; rfl)
  | @buried _ _ _ delay _ _ hdelay hge =>
    have hge : x.maxAttempts ≤ x.attempts + 1 := hge
    have hn' : x.attempts + 1 - 1 < 1024 := backoff_ok_iff.mp ⟨delay, hdelay⟩
    have hx' := (hq row.id).trans (retried_get (s := s) hdelay e.message t₂ row.id)
    rw [hs, Option.map_some, if_pos rfl] at hx'
    have hended : ((st.content.started.retrying e.message).endedBy .deadLettered e.message) =
        { st.content.started.retrying e.message with status := .deadLettered, lastError := some e.message } :=
      if_neg (by simp [WorkflowState.terminal, WorkflowState.retrying, WorkflowStatus.terminal])
    rw [hended] at hout hstatus hidle
    refine ⟨⟨hstanding, _, cp', hx', htask.trans hxt, hmax.trans hxm, congrArg (· + 1) hxa, ?_, hst',
      hcontent hout ⟨hresumes'.toolHistory, hresumes'.progressHistory, hresumes'.evidence, hresumes'.completedSteps, hresumes'.retries⟩,
      hidle.trans hnone, ?_⟩, fun _ => by omega⟩
    · simpa [hge] using hnow
    · have hN : n + 1 = row.maxAttempts := by omega
      simp only [hge, if_true, hstatus, hN]
      exact .buried (by omega)
  | failed _ hno | raised hno =>
    rw [hno] at hretry
    cases hretry

theorem Failing.rounds (hb : rt.backend = anyBackend) (he : rt.engine = anyEngine) (hbase : config.queueRetryBaseSeconds = .finite 0)
    (h : Failing row cp 0 w) (hr : Rounds rt config (.failing row.taskId) w w') :
    ∃ n, claims row.taskId w'.memory = claims row.taskId w.memory + n ∧ Failing row cp n w' := by
  induction hr with
  | here => exact ⟨0, rfl, h⟩
  | @round w' w'' workerId _ _ hrun ih =>
    obtain ⟨n, hn, h'⟩ := ih
    have hn : claims row.taskId (w'.note (.began 0 (.runOnce workerId))).memory = claims row.taskId w.memory + n := hn
    rcases (h'.note _).worked hb he hbase hrun with ⟨hc, h''⟩ | ⟨hc, h'', -⟩
    · exact ⟨n, hc.trans hn, h''.note _⟩
    · exact ⟨n + 1, hc.trans (by rw [hn, Nat.add_assoc]), h''.note _⟩

/-- A run with more than 1024 failures goes through the 1025th, which leaves the delivery leased. -/
theorem Failing.overflows (hb : rt.backend = anyBackend) (he : rt.engine = anyEngine)
    (hbase : config.queueRetryBaseSeconds = .finite 0) (h : Failing row cp 0 w) (hr : Rounds rt config (.failing row.taskId) w w')
    (hmany : claims row.taskId w.memory + 1024 < claims row.taskId w'.memory) :
    ∃ w₁, Rounds rt config (.failing row.taskId) w w₁ ∧ Rounds rt config (.failing row.taskId) w₁ w' ∧
      claims row.taskId w₁.memory = claims row.taskId w.memory + 1025 ∧ Failing row cp 1025 w₁ ∧
      ∃ x, w₁.store.queue.get row.id = some x ∧ x.status = .processing := by
  induction hr with
  | here => omega
  | @round w' w'' workerId o hr hrun ih =>
    obtain ⟨n, hn, h'⟩ := h.rounds hb he hbase hr
    have hmany : claims row.taskId w.memory + 1024 < claims row.taskId w''.memory := hmany
    have hn' : claims row.taskId (w'.note (.began 0 (.runOnce workerId))).memory = claims row.taskId w.memory + n := hn
    have hearlier : 1024 < n → _ := fun hlt => ih (by omega)
    rcases (h'.note _).worked hb he hbase hrun with ⟨hc, -⟩ | ⟨hc, h'', hleased⟩
    · obtain ⟨w₁, h₁, h₂, hrest⟩ := hearlier (by omega)
      exact ⟨w₁, h₁, h₂.round hrun, hrest⟩
    · by_cases hlt : 1024 < n
      · obtain ⟨w₁, h₁, h₂, hrest⟩ := hearlier hlt
        exact ⟨w₁, h₁, h₂.round hrun, hrest⟩
      · have hn₁ : n = 1024 := by omega
        subst hn₁
        exact ⟨w''.note (.ended 0 o), hr.round hrun, .here, by show claims row.taskId w''.memory = _; omega, h''.note _,
          hleased le_rfl⟩

/-- A replay that succeeds puts the checkpoint and the dead row back. -/
theorem replay_requeues (h : Standing w.store) (hst : w.store.stored taskId = some st) {deliveryId : Nat} {actor reason : String}
    {reply : Reply} (hr : Runs (calls env 0) ((Operation.replay deliveryId taskId actor reason).program rt config) w (.ok reply) w') :
    ∃ t, w'.store.stored taskId = some { st with status := .queued, lastError := none, version := st.version + 1, updatedAt := t } ∧
      ∃ x, w'.store.queue.get deliveryId = some x ∧ x.taskId = taskId ∧ x.status = .pending := by
  suffices hwp : wp (calls env 0) ((Operation.replay deliveryId taskId actor reason).program rt config) (fun o w' => ∀ reply, o = .ok reply →
      ∃ t, w'.store.stored taskId = some { st with status := .queued, lastError := none, version := st.version + 1, updatedAt := t } ∧
        ∃ x, w'.store.queue.get deliveryId = some x ∧ x.taskId = taskId ∧ x.status = .pending) w from wp_sound hwp hr reply rfl
  refine wp_bind.mpr (wp_bind.mpr (wp_perform.mpr fun r w₁ hs => ?_))
  obtain ⟨t, s', -, -, he, rfl⟩ := hs
  obtain ⟨hr₁, hs'⟩ := Prod.mk.inj he
  generalize hfound : (w.store.replayDeadLetter t deliveryId taskId config.maxQueueAttempts actor reason).1 = found at hr₁
  subst hr₁
  rcases SQLiteStore.replayDeadLetter_cases (Prod.ext hfound hs') with
    ⟨rfl, -⟩ | ⟨x, row, state, hx, hxt, hdead, hrow, hstate, rfl, hw, hq, -⟩
  · exact fun _ e => by cases e
  · intro reply _
    obtain ⟨row', hrow', hversion, htask⟩ := h.level.filed.version hst
    obtain ⟨row'', hrow'', rfl⟩ := stored_some.mp hst
    rw [hrow] at hrow' hrow''
    cases hrow'
    cases hrow''
    have hget := replay_workflow htask hrow hstate hw taskId
    rw [if_pos rfl] at hget
    have hx' := (hq deliveryId).trans (congrArg (Option.map _) hx)
    rw [Option.map_some, if_pos ⟨Table.get_key hx, hdead⟩] at hx'
    exact ⟨t, stored_some.mpr ⟨_, hget, by rw [hstate, hversion]⟩, _, hx', hxt, rfl⟩

/-- A dead-lettered delivery's replay. -/
theorem replay_ready (cp : WorkflowState) (he : rt.engine = anyEngine) (hb : rt.backend = anyBackend) (h : Standing w.store)
    (hst : w.store.stored taskId = some st) (hnone : st.pendingAction = none) {deliveryId : Nat} {actor reason : String} {reply : Reply}
    (hr : Runs (calls env 0) ((Operation.replay deliveryId taskId actor reason).program rt config) w (.ok reply) w') :
    ∃ st', Ready taskId st' w' ∧ ∀ n, Resumes cp n st → Resumes cp n st' := by
  obtain ⟨t, hst', x, hx, hxt, hpend⟩ := replay_requeues h hst hr
  refine ⟨_, ⟨h.operation he hb hr, hst', rfl, hnone, deliveryId, x, hx, hxt, by rw [hpend]; decide⟩, fun n hres => ?_⟩
  exact ⟨hres.toolHistory, hres.progressHistory, hres.evidence, hres.completedSteps, hres.retries⟩

theorem Failing.absorbed (he : rt.engine = anyEngine) (hb : rt.backend = anyBackend) (h : Failing row cp n w) (hn : n ≤ 1024) :
    Absorbed rt config row cp n w := by
  obtain ⟨x, st, hx, hxt, -, hxa, hav, hst, hresumes, hnone, hfate⟩ := h.fate
  have hlive := hfate.live
  generalize hq : x.status = q at hfate hlive
  generalize hs : st.status = status at hfate
  cases hfate with
  | waiting _ hlt hact =>
    have hready : Ready row.taskId st w := ⟨h.standing, hst, by rw [hs]; exact hact, hnone, row.id, x, hx, hxt, by rw [hq]; decide⟩
    exact ⟨fun _ => ⟨⟨x, hx, hq, hxa, hav⟩, hready.asks he hb hresumes⟩, fun hge => absurd hlt (by omega)⟩
  | buried _ =>
    refine ⟨fun hlt => absurd hlt (by omega), fun _ => ⟨rfl, ⟨x, st, hx, hq, hst, hs, hresumes⟩, ?_⟩⟩
    intro deliveryId actor reason reply w' hr
    obtain ⟨st', hready, hres⟩ := replay_ready cp he hb (by exact h.standing) (by exact hst) hnone hr
    exact (hready.note _).asks he hb (hres _ hresumes)
  | stuck hlt _ _ => omega

/-- A fresh delivery of a workflow that can go on. -/
theorem failing_fresh (h : Standing w.store) (hrow : w.store.queue.get row.id = some row) (hpend : row.status = .pending)
    (hzero : row.attempts = 0) (hav : row.availableAt ≤ w.now) (hpos : 1 ≤ row.maxAttempts)
    (hcp : w.store.stored row.taskId = some cp) (hterm : ¬ cp.terminal = true) (hnone : cp.pendingAction = none) :
    Failing row cp 0 w := by
  have hact : cp.status.active = true := by
    obtain ⟨wrow, hwrow, rfl⟩ := stored_some.mp hcp
    have hwait : wrow.stateJson.status ≠ .waitingForApproval := by
      intro e
      obtain ⟨p, hp, -⟩ := h.rest.gate _ wrow hwrow e
      rw [hnone] at hp
      cases hp
    exact active_of_running (by simp [hterm, hwait])
  refine ⟨h, row, cp, hrow, rfl, rfl, hzero, hav, hcp, ⟨rfl, rfl, rfl, rfl, rfl⟩, hnone, ?_⟩
  rw [hpend]
  exact .waiting (by omega) hpos hact

/-- After any number of failures `k` that a run of the worker meets, each is absorbed by the
    queue's budget, if and only if there are at most 1024. -/
theorem model_failures_absorbed_iff (rt : WorkflowRuntime) (config : Settings) (hbase : config.queueRetryBaseSeconds = .finite 0)
    (h : Sequence { rt with engine := anyEngine, backend := anyBackend } config .crashFree w)
    (hrow : w.store.queue.get row.id = some row) (hpend : row.status = .pending) (hzero : row.attempts = 0)
    (hav : row.availableAt ≤ w.now) (hpos : 1 ≤ row.maxAttempts) (hcp : w.store.stored row.taskId = some cp)
    (hterm : ¬ cp.terminal = true) (hnone : cp.pendingAction = none)
    (hrun : Rounds { rt with engine := anyEngine, backend := anyBackend } config (.failing row.taskId) w w') {k : Nat}
    (hk : claims row.taskId w'.memory = claims row.taskId w.memory + k) :
    (∀ w₁ n, Rounds { rt with engine := anyEngine, backend := anyBackend } config (.failing row.taskId) w w₁ →
      Rounds { rt with engine := anyEngine, backend := anyBackend } config (.failing row.taskId) w₁ w' →
      claims row.taskId w₁.memory = claims row.taskId w.memory + n →
      Absorbed { rt with engine := anyEngine, backend := anyBackend } config row cp n w₁) ↔ k ≤ 1024 := by
  have hfresh : Failing row cp 0 w :=
    failing_fresh (h.standing rfl rfl fun _ hd => hd) hrow hpend hzero hav hpos hcp hterm hnone
  constructor
  · intro habsorbed
    by_contra hmany
    obtain ⟨w₁, h₁, h₂, hc, h₁₀₂₅, x, hx, hproc⟩ := hfresh.overflows rfl rfl hbase hrun (by omega)
    have hab := habsorbed w₁ 1025 h₁ h₂ hc
    obtain ⟨_, st, -, -, -, -, -, hst, -, -, hfate⟩ := h₁₀₂₅.fate
    by_cases hlt : 1025 < row.maxAttempts
    · obtain ⟨⟨y, hy, hwait, -⟩, -⟩ := hab.retried hlt
      rw [hx] at hy
      cases hy
      rw [hproc] at hwait
      cases hwait
    · obtain ⟨-, ⟨_, st', hy, hdead, -⟩, -⟩ := hab.buried (by omega)
      rw [hx] at hy
      cases hy
      rw [hproc] at hdead
      cases hdead
  · intro hle w₁ n h₁ h₂ hn
    obtain ⟨n', hn', hfailing⟩ := hfresh.rounds rfl rfl hbase h₁
    obtain ⟨-, hmono⟩ := h₂.claims_mono rfl rfl hfailing.standing row.taskId
    obtain rfl : n' = n := by omega
    exact hfailing.absorbed rfl rfl (by omega)

/-! ### A model that is never available -/

theorem Rounds.mono {env' : Env} (hallows : ∀ w c r, env.allows 0 w c r → env'.allows 0 w c r) (h : Rounds rt config env w w') :
    Rounds rt config env' w w' := by
  induction h with
  | here => exact .here
  | round _ hr ih =>
    refine ih.round (hr.mono fun c w r w' hs => ?_)
    obtain ⟨t, s', ht, hal, he, rfl⟩ := hs
    exact ⟨t, s', ht, hallows _ c r hal, he, rfl⟩

theorem unavailable_failing (taskId : String) (w : World) (c : Call) (r : Except PyError c.Ret) (h : Env.unavailable.allows 0 w c r) :
    (Env.failing taskId).allows 0 w c r := by
  cases c with
  | decide st =>
    obtain rfl := h
    exact fun _ => ⟨_, rfl, rfl⟩
  | _ => trivial

theorem Circling.rounds (h : Circling w taskId) (n : Nat) : ∃ w', Rounds {} impatient .unavailable w w' ∧ Circling w' taskId ∧
    claims taskId w'.memory = claims taskId w.memory + n := by
  induction n with
  | zero => exact ⟨w, .here, h, rfl⟩
  | succ n ih =>
    obtain ⟨w₁, h₁, hcirc, hn⟩ := ih
    obtain ⟨o, w₂, hr, hcirc', hn'⟩ := hcirc.goes_on
    exact ⟨w₂.note (.ended 0 o), h₁.round hr, hcirc', by omega⟩

/-- The first delivery is fresh. -/
def firstFresh (w : World) : Bool := firstQueued w && w.store.queue.rows.all fun row => decide (row.attempts = 0)

theorem creates_fresh : (Sequence.play {} impatient (fun _ c _ => creating c) (fun _ => false) [createsAct] World.init).any firstFresh =
    true := by
  decide +kernel

/-- A new incident with 1025 attempts a delivery, and an engine that fails `n` times. -/
theorem failures_exist (n : Nat) : ∃ w w' row cp, Sequence {} impatient .crashFree w ∧ w.store.queue.get row.id = some row ∧
    row.status = .pending ∧ row.attempts = 0 ∧ row.availableAt ≤ w.now ∧ row.maxAttempts = 1025 ∧
    w.store.stored row.taskId = some cp ∧ ¬ cp.terminal = true ∧ cp.pendingAction = none ∧
    Rounds {} impatient (.failing row.taskId) w w' ∧ claims row.taskId w'.memory = claims row.taskId w.memory + n ∧
    Circling w' row.taskId := by
  obtain ⟨w, h, hw⟩ := creates_unavailable creates_fresh
  have hlevel : Level w.store := sequence_level rfl rfl (fun _ hd => hd) h
  obtain ⟨hfirst, hzero⟩ := Bool.and_eq_true _ _ ▸ hw
  obtain ⟨hcirc, -⟩ := Circling.of_first hlevel.filed hfirst
  obtain ⟨w', hr, hcirc', hn⟩ := hcirc.rounds n
  unfold firstQueued at hfirst
  split at hfirst
  · rename_i row cp hrows hst
    obtain ⟨ht, hm, hav, hp, hact, hnone, -⟩ := of_decide_eq_true hfirst
    rw [hrows] at hzero
    have hz : row.attempts = 0 := by simpa using hzero
    have hget : w.store.queue.get row.id = some row := Table.mem_iff_get.mp (by rw [hrows]; exact List.mem_singleton_self _)
    refine ⟨w, w', row, cp, h.mono (fun _ _ _ _ => ?_) (fun _ _ _ => ?_) (fun _ hd => ?_), hget, hp, hz, hav, hm, ?_, fun hterm => ?_,
      Option.isNone_iff_eq_none.mp hnone, hr.mono (unavailable_failing _), ?_, ?_⟩
    · trivial
    · trivial
    · exact hd
    · rw [ht]; exact hst
    · rw [terminal_inactive hterm] at hact
      cases hact
    · rw [ht]; exact hn
    · rw [ht]; exact hcirc'
  · cases hfirst

theorem model_failures_absorbed_once : ∃ w w' row cp, Rounds {} impatient (.failing row.taskId) w w' ∧
    claims row.taskId w'.memory = claims row.taskId w.memory + 1 ∧
    ((∀ w₁ n, Rounds {} impatient (.failing row.taskId) w w₁ → Rounds {} impatient (.failing row.taskId) w₁ w' →
      claims row.taskId w₁.memory = claims row.taskId w.memory + n → Absorbed {} impatient row cp n w₁) ↔ 1 ≤ 1024) := by
  obtain ⟨w, w', row, cp, h, hrow, hp, hz, hav, hm, hst, hterm, hnone, hr, hn, -⟩ := failures_exist 1
  exact ⟨w, w', row, cp, hr, hn, model_failures_absorbed_iff {} impatient rfl h hrow hp hz hav (by omega) hst hterm hnone hr hn⟩

/-- The 1025th of 1025 attempts: the backoff overflows, and the workflow is never dead-lettered. -/
theorem overflow_unburied : ∃ w w' row cp, Sequence {} impatient .crashFree w ∧ w.store.queue.get row.id = some row ∧
    row.status = .pending ∧ row.attempts = 0 ∧ row.availableAt ≤ w.now ∧ row.maxAttempts = 1025 ∧
    w.store.stored row.taskId = some cp ∧ ¬ cp.terminal = true ∧ cp.pendingAction = none ∧
    Rounds {} impatient (.failing row.taskId) w w' ∧ claims row.taskId w'.memory = claims row.taskId w.memory + row.maxAttempts ∧
    ∃ st, w'.store.stored row.taskId = some st ∧ st.status ≠ .deadLettered := by
  obtain ⟨w, w', row, cp, h, hrow, hp, hz, hav, hm, hst, hterm, hnone, hr, hn, hcirc⟩ := failures_exist 1025
  obtain ⟨st, hst', hact, -⟩ := hcirc.active
  refine ⟨w, w', row, cp, h, hrow, hp, hz, hav, hm, hst, hterm, hnone, hr, by rw [hm]; exact hn, st, hst', fun e => ?_⟩
  rw [e] at hact
  cases hact

end AgentResilience
