/-
  AgentResilience.DeadLetters — dead-lettering against replays. A worker that gives up on a
  delivery marks its row `DEAD` in one transaction, reads the checkpoint in a second and
  saves `DEAD_LETTERED` in a third. A replay after the read makes the save stale. A replay
  between the first two is read as any other state, and overwritten
  (`replay_overwritten`): the workflow ends `DEAD_LETTERED` beside a pending row.

  - `dead_letters_replayable`: while lapsed workers stay silent and no replay falls between
    the two, a dead-lettered workflow has a dead row, and only failures after its last
    replay dead-letter it.
-/
import AgentResilience.History
import AgentResilience.LiveRows
import AgentResilience.Outcomes

namespace AgentResilience

open Interaction

/-- The delivery a call gave up on, and whether it was the last attempt. -/
def Call.retried : (c : Call) → Except PyError c.Ret → Option (QueueDelivery × Bool)
  | .store (.retryOrDeadLetter delivery ..), .ok dead => some (delivery, dead)
  | _, _ => none

/-- The task whose dead delivery a call replayed. -/
def Call.replayed : (c : Call) → Except PyError c.Ret → Option String
  | .store (.replayDeadLetter _ taskId ..), .ok (some _) => some taskId
  | _, _ => none

/-- The last delivery thread `i` gave up on was of the task, and the task was not replayed since. -/
def failing (i : ThreadId) (taskId : String) : List Entry → Bool
  | [] => false
  | .did j c r :: es =>
    if c.replayed r = some taskId then false
    else match c.retried r with
      | some (delivery, dead) => if j = i then dead && decide (delivery.taskId = taskId) else failing i taskId es
      | none => failing i taskId es
  | _ :: es => failing i taskId es

/-- A worker gave up on a delivery of the task, and the task was not replayed since. -/
def exhausted (taskId : String) : List Entry → Bool
  | [] => false
  | .did _ c r :: es =>
    if c.replayed r = some taskId then false
    else (c.retried r).any (fun x => x.2 && decide (x.1.taskId = taskId)) || exhausted taskId es
  | _ :: es => exhausted taskId es

/-- Thread `i` gave up on a delivery of the task and has not read the checkpoint yet. -/
def Unread (i : ThreadId) (taskId : String) (journal : List Entry) : Prop :=
  (stage i journal).seen = none ∧ ∃ delivery, (stage i journal).dying = some delivery ∧ delivery.taskId = taskId

/-- Lapsed workers are silent, and no replay finds its row while a worker that gave up on a
    delivery of the task has yet to read the checkpoint. -/
def Env.afterRead : Env where
  allows i w c _ := (c.ofStore = true → HoldsLease i w) ∧
    match c with
    | .store (.replayDeadLetter id taskId ..) => ReplayHits w.store id taskId → ∀ j, ¬ Unread j taskId w.journal
    | _ => True

/-! ## Dead rows -/

variable {s s' : SQLiteStore} {t : Timestamp} {taskId : String} {id : Nat}

theorem replayHits_iff : ReplayHits s id taskId ↔ rowStatus taskId s id = some .dead :=
  rowStatus_some.symm

theorem rowStatus_map {st : QueueStatus} {g : QueueRow → QueueRow} (hq : s'.queue.get id = (s.queue.get id).map g)
    (hg : ∀ row, s.queue.get id = some row → row.taskId = taskId → row.status = st →
      (g row).taskId = taskId ∧ (g row).status = st)
    (h : rowStatus taskId s id = some st) : rowStatus taskId s' id = some st := by
  obtain ⟨row, hr, ht, hst⟩ := rowStatus_some.mp h
  obtain ⟨ht', hst'⟩ := hg row hr ht hst
  exact rowStatus_some.mpr ⟨g row, by rw [hq, hr]; rfl, ht', hst'⟩

theorem rowStatus_insert {st : QueueStatus} {task : String} {n : Nat} (h : rowStatus taskId s id = some st) :
    rowStatus taskId (s.insertQueue t task n) id = some st := by
  have hid : id ≠ s.nextQueueId := by
    intro e
    obtain ⟨row, hr, -⟩ := rowStatus_some.mp h
    rw [e, SQLiteStore.nextQueueId_fresh] at hr
    cases hr
  rw [insertQueue_rowStatus, if_neg hid]
  exact h

/-- A row the call settles: by an acknowledgement, or a retry. -/
def StoreCall.settles : StoreCall → Option Nat
  | .acknowledge id => some id
  | .retryOrDeadLetter delivery .. => some delivery.id
  | _ => none

/-- A dead row stays dead until a replay finds it, as long as nobody settles it again. -/
theorem dead_kept (c : StoreCall) (hc : c.settles ≠ some id) (h : rowStatus taskId s id = some .dead) :
    rowStatus taskId (c.apply s t).2 id = some .dead ∨
      ∃ n actor reason, c = .replayDeadLetter id taskId n actor reason ∧ ReplayHits s id taskId := by
  cases c with
  | createWorkflow st n =>
    left
    rcases he : s.createWorkflow t st n with ⟨r, s''⟩
    show rowStatus taskId (s.createWorkflow t st n).2 id = _
    rw [he]
    rcases SQLiteStore.createWorkflow_cases he with ⟨-, -, rfl⟩ | ⟨-, -, -, hq, -⟩
    · exact h
    · rw [show rowStatus taskId s'' = _ from rowStatus_queue hq]
      exact rowStatus_insert h
  | enqueue task n =>
    left
    rcases he : s.enqueue t task n with ⟨r, s''⟩
    show rowStatus taskId (s.enqueue t task n).2 id = _
    rw [he]
    rcases SQLiteStore.enqueue_cases he with ⟨_, -, -, -, -, -, rfl⟩ | ⟨-, -, -, rfl⟩ | ⟨-, -, rfl⟩
    · exact h
    · exact rowStatus_insert h
    · exact h
  | claim worker leaseSeconds =>
    left
    rcases he : s.claim t worker leaseSeconds with ⟨r, s''⟩
    show rowStatus taskId (s.claim t worker leaseSeconds).2 id = _
    rw [he]
    obtain ⟨row, hr, ht, hst⟩ := rowStatus_some.mp h
    have hsw : (SQLiteStore.swept t row).status = .dead := by
      rw [SQLiteStore.swept_status]
      simp [SQLiteStore.isExpired, hst]
    rcases SQLiteStore.claim_row he id with ⟨-, hn⟩ | ⟨row₀, row', hr₀, hr', ht', hst', hclaimed⟩
    · rw [hn] at hr; cases hr
    · rw [hr] at hr₀; cases hr₀
      refine rowStatus_some.mpr ⟨row', hr', ht'.trans ht, ?_⟩
      rw [hst', if_neg, hsw]
      intro hc
      rw [hclaimed hc] at hsw
      cases hsw
  | extendLease delivery leaseSeconds =>
    refine .inl (rowStatus_map (SQLiteStore.extendLease_get delivery leaseSeconds id) (fun row _ ht hst => ?_) h)
    split <;> exact ⟨ht, hst⟩
  | acknowledge n =>
    refine .inl (rowStatus_map (SQLiteStore.acknowledge_get n id) (fun row _ ht hst => ?_) h)
    rw [if_neg fun e => hc (congrArg some e.symm)]
    exact ⟨ht, hst⟩
  | retryOrDeadLetter delivery error base =>
    left
    rcases he : s.retryOrDeadLetter t delivery error base with ⟨r, s''⟩
    show rowStatus taskId (s.retryOrDeadLetter t delivery error base).2 id = _
    rw [he]
    rcases SQLiteStore.retryOrDeadLetter_cases he with ⟨-, rfl⟩ | ⟨_, -, -, hg, -⟩
    · exact h
    · refine rowStatus_map (hg id) (fun row _ ht hst => ?_) h
      rw [if_neg fun e => hc (congrArg some e.symm)]
      exact ⟨ht, hst⟩
  | replayDeadLetter n task m actor reason =>
    rcases he : s.replayDeadLetter t n task m actor reason with ⟨r, s''⟩
    rcases SQLiteStore.replayDeadLetter_cases he with ⟨-, e⟩ | ⟨q, w, state, hq, hqt, hqs, -, -, -, -, hg, -⟩
    · left
      show rowStatus taskId (s.replayDeadLetter t n task m actor reason).2 id = _
      rw [he, e]; exact h
    · by_cases e : n = id
      · right
        subst e
        obtain ⟨row, hr, ht, -⟩ := rowStatus_some.mp h
        rw [hq] at hr; cases hr
        obtain rfl := hqt.symm.trans ht
        exact ⟨m, actor, reason, rfl, q, hq, hqt, hqs⟩
      · left
        show rowStatus taskId (s.replayDeadLetter t n task m actor reason).2 id = _
        rw [he]
        refine rowStatus_map (hg id) (fun row hr ht hst => ?_) h
        rw [if_neg fun hh => e (hh.1.symm.trans (Table.get_key hr))]
        exact ⟨ht, hst⟩
  | _ => left; rw [show rowStatus taskId _ = _ from rowStatus_queue (StoreCall.apply_queue rfl s t)]; exact h

/-! ## The status -/

/-- A call dead-letters a workflow only by saving that status. -/
theorem apply_deadLettered (hs : StoreOk Set.univ s) (c : StoreCall)
    (hf : ∀ st n, c = .createWorkflow st n → Fresh st) (h : (c.apply s t).2.statusOf taskId = some .deadLettered) :
    s.statusOf taskId = some .deadLettered ∨ ∃ st v, c = .saveWorkflow st v ∧ st.taskId = taskId ∧ st.status = .deadLettered ∧
      ∃ row, s.workflows.get taskId = some row ∧ row.version = v := by
  cases c with
  | saveWorkflow st v =>
    rcases he : s.saveWorkflow t st v with ⟨r, s''⟩
    have h : s''.statusOf taskId = some .deadLettered := by
      have h : (s.saveWorkflow t st v).2.statusOf taskId = some .deadLettered := h
      rw [he] at h; exact h
    rcases SQLiteStore.saveWorkflow_cases he with ⟨row, hrow, hv, -, hw, -⟩ | ⟨-, e, -⟩
    · unfold SQLiteStore.statusOf at h
      rw [hw] at h
      by_cases e : taskId = st.taskId
      · rw [if_pos e] at h
        exact .inr ⟨st, v, rfl, e.symm, Option.some.inj h, row, e ▸ hrow, hv⟩
      · rw [if_neg e] at h
        exact .inl h
    · rw [e] at h
      exact .inl h
  | createWorkflow st n =>
    left
    obtain ⟨task, goal, scenarioId, now, hfresh⟩ := hf st n rfl
    rcases he : s.createWorkflow t st n with ⟨r, s''⟩
    have h : s''.statusOf taskId = some .deadLettered := by
      have h : (s.createWorkflow t st n).2.statusOf taskId = some .deadLettered := h
      rw [he] at h; exact h
    rcases SQLiteStore.createWorkflow_cases he with ⟨-, -, e⟩ | ⟨-, -, hw, -⟩
    · rw [e] at h
      exact h
    · unfold SQLiteStore.statusOf at h
      rw [hw] at h
      split at h
      · rw [hfresh] at h; cases h
      · exact h
  | replayDeadLetter n task m actor reason =>
    left
    rcases he : s.replayDeadLetter t n task m actor reason with ⟨r, s''⟩
    have h : s''.statusOf taskId = some .deadLettered := by
      have h : (s.replayDeadLetter t n task m actor reason).2.statusOf taskId = some .deadLettered := h
      rw [he] at h; exact h
    rcases SQLiteStore.replayDeadLetter_cases he with ⟨-, e⟩ | ⟨q, w, state, -, -, -, hw, hst, -, hws, -⟩
    · rw [e] at h
      exact h
    · unfold SQLiteStore.statusOf at h
      rw [replay_workflow (hs.state _ _ hw).task hw hst hws] at h
      split at h
      · rw [hst] at h; cases h
      · exact h
  | _ =>
    left
    unfold SQLiteStore.statusOf at h ⊢
    rw [StoreCall.apply_workflows rfl s t] at h
    exact h

/-! ## Failures and replays in the journal -/

variable {c : Call} {r : Except PyError c.Ret} {i j : ThreadId} {es : List Entry} {d : QueueDelivery} {q : Stage}

theorem exhausted_of_failing (h : failing i taskId es = true) : exhausted taskId es = true := by
  induction es with
  | nil => cases h
  | cons e es ih =>
    cases e with
    | did j c r =>
      simp only [failing, exhausted] at h ⊢
      split at h
      · cases h
      · rename_i hno
        rw [if_neg hno]
        split at h
        · rename_i delivery dead hret
          split at h
          · simp [hret, h]
          · simp [ih h]
        · simp [ih h]
    | _ => exact ih h

/-- A failure stands after a call that is no retry of the thread and no replay. -/
theorem failing_did (hreplay : c.replayed r ≠ some taskId) (hretry : j = i → c.retried r = none)
    (h : failing i taskId es = true) : failing i taskId (.did j c r :: es) = true := by
  simp only [failing, if_neg hreplay]
  split
  · rename_i hret
    rw [if_neg fun e => by rw [hretry e] at hret; cases hret]
    exact h
  · exact h

theorem exhausted_did (hreplay : c.replayed r ≠ some taskId) (h : exhausted taskId es = true) :
    exhausted taskId (.did j c r :: es) = true := by
  simp only [exhausted, if_neg hreplay, h, Bool.or_true]

/-- The delivery a thread dead-lettered, after a call: one the call gave up on, or the one before. -/
theorem after_dying (h : (q.after c r).dying = some d) :
    c.retried r = some (d, true) ∨ c.retried r = none ∧ q.dying = some d := by
  cases c with
  | store c =>
    cases r with
    | error e => cases c <;> exact .inr ⟨rfl, h⟩
    | ok a =>
      cases c with
      | claim =>
        cases a with
        | none => exact .inr ⟨rfl, h⟩
        | some d' => cases h
      | getToolResult => cases a <;> exact .inr ⟨rfl, h⟩
      | retryOrDeadLetter delivery error base =>
        cases a with
        | false => cases h
        | true => cases h; exact .inl rfl
      | _ => exact .inr ⟨rfl, h⟩
  | _ => cases r <;> exact .inr ⟨rfl, h⟩

/-- A replay that answers with a checkpoint found its row. -/
theorem replayed_hits (he : Effect c s t r s') (h : c.replayed r = some taskId) :
    ∃ id n actor reason, c = .store (.replayDeadLetter id taskId n actor reason) ∧ ReplayHits s id taskId := by
  unfold Call.replayed at h
  split at h
  · rename_i id task n actor reason state
    obtain rfl := Option.some.inj h
    obtain ⟨ho, -⟩ := Prod.mk.inj he
    rcases hreplay : s.replayDeadLetter t id task n actor reason with ⟨o, s''⟩
    rw [hreplay] at ho
    rcases SQLiteStore.replayDeadLetter_cases hreplay with ⟨hn, -⟩ | ⟨x, -, -, hx, hxt, hxs, -⟩
    · rw [hn] at ho; cases ho
    · exact ⟨id, n, actor, reason, rfl, x, hx, hxt, hxs⟩
  · cases h

/-! ## The invariant -/

/-- What thread `i` saw last is the stored checkpoint of the task, if it saw any. -/
def UpToDate (i : ThreadId) (taskId : String) (w : World) : Prop :=
  ∀ cp, (stage i w.journal).seen = some cp →
    cp.taskId = taskId ∧ ∃ row, w.store.workflows.get taskId = some row ∧ row.version = cp.version

structure DeadInv (w : World) : Prop where
  held : ∀ i d, (stage i w.journal).held = some d → ∃ row, w.store.queue.get d.id = some row ∧ row.taskId = d.taskId
  dying : ∀ i d, (stage i w.journal).dying = some d → UpToDate i d.taskId w →
    rowStatus d.taskId w.store d.id = some .dead ∧ failing i d.taskId w.journal = true
  letters : ∀ taskId, w.store.statusOf taskId = some .deadLettered →
    exhausted taskId w.journal = true ∧ ∃ id, rowStatus taskId w.store id = some .dead

variable {w : World}

theorem UpToDate.back {k : ThreadId} (hlater : Later w.store s') (hcopy : ∀ cp, (stage k w.journal).seen = some cp → Copy cp w.store)
    (hseen : (stage k es).seen = (stage k w.journal).seen) (h : UpToDate k taskId ⟨s', t, es⟩) : UpToDate k taskId w := by
  intro cp hcp
  obtain ⟨ht, row', hr', hv'⟩ := h cp (hseen.trans hcp)
  obtain ⟨row, hr, hle, -⟩ := hcopy cp hcp
  rw [ht] at hr
  obtain ⟨row'', hr'', hle', -⟩ := hlater.workflow _ row hr
  have hr' : s'.workflows.get taskId = some row' := hr'
  rw [hr'] at hr''; cases hr''
  exact ⟨ht, row, hr, by omega⟩

/-- A replay leaves no thread that saw a checkpoint of the task up to date. -/
theorem replay_outdates {k : ThreadId} {n m : Nat} {actor reason : String} {cp : WorkflowState} {o : Option WorkflowState}
    (hok : StoreOk Set.univ w.store) (hreplay : w.store.replayDeadLetter t n taskId m actor reason = (o, s')) (hhit : ReplayHits w.store n taskId)
    (hcopy : Copy cp w.store) (hseen : (stage k es).seen = some cp) : ¬ UpToDate k taskId ⟨s', t, es⟩ := by
  intro hup
  obtain ⟨ht, row', hr', hv'⟩ := hup cp hseen
  have hr' : s'.workflows.get taskId = some row' := hr'
  obtain ⟨row, hr, hle, -⟩ := hcopy
  rw [ht] at hr
  obtain ⟨x, hx, hxt, hxs⟩ := hhit
  rcases SQLiteStore.replayDeadLetter_cases hreplay with ⟨hn, -⟩ | ⟨-, row₀, state, -, -, -, hw, hst, -, hws, -⟩
  · obtain ⟨state, hs⟩ := SQLiteStore.replayDeadLetter_some t m actor reason hx hxt hxs (by rw [hr]; simp)
    rw [hreplay, hn] at hs
    cases hs
  · rw [hr] at hw; cases hw
    rw [replay_workflow (hok.state _ _ hr).task hr hst hws, if_pos rfl] at hr'
    cases hr'
    simp only at hv'
    omega

/-! ## One call -/

theorem held_row_kept (hi : ∀ i d, (stage i w.journal).held = some d → ∃ row, w.store.queue.get d.id = some row ∧ row.taskId = d.taskId)
    (he : Effect c w.store t r s') {k : ThreadId}
    (h : (stage k (.did i c r :: w.journal)).held = some d) : ∃ row, s'.queue.get d.id = some row ∧ row.taskId = d.taskId := by
  have hold : (stage k w.journal).held = some d → ∃ row, s'.queue.get d.id = some row ∧ row.taskId = d.taskId := by
    intro h
    obtain ⟨row, hr, ht⟩ := hi k d h
    rcases effect_row he d.id with ⟨row₀, row', hr₀, hr', ht', -⟩ | ⟨hn, -⟩
    · rw [hr] at hr₀; cases hr₀
      exact ⟨row', hr', ht'.trans ht⟩
    · rw [hn] at hr; cases hr
  by_cases e : i = k
  · subst e
    rw [stage_did] at h
    rcases after_held h with hc | ⟨-, -, h⟩
    · exact claimed_row he hc
    · exact hold h
  · rw [stage_other e] at h
    exact hold h

/-- A worker settles the delivery it holds. -/
theorem settles_held {det : LoopDetector} {c : StoreCall} (hmay : May det q (.store c)) {id : Nat} (hc : c.settles = some id) :
    ∃ d, q.held = some d ∧ d.id = id := by
  cases c with
  | acknowledge n => cases hc; exact hmay.2
  | retryOrDeadLetter delivery error base => cases hc; exact ⟨delivery, hmay.2, rfl⟩
  | _ => cases hc

/-- A row that its holder settles is in processing, while its lease lasts. -/
theorem settles_processing {det : LoopDetector} {c : StoreCall} (hmay : May det (stage i w.journal) (.store c))
    (hlease : HoldsLease i { w with now := t }) {id : Nat} (hc : c.settles = some id) : rowStatus taskId w.store id ≠ some .dead := by
  obtain ⟨d, hd, rfl⟩ := settles_held hmay hc
  obtain ⟨seen, hph⟩ := held_phase hd
  obtain ⟨-, row, u, hr, hst, -⟩ := hlease d seen hph
  intro h
  obtain ⟨row', hr', -, hst'⟩ := rowStatus_some.mp h
  rw [hr] at hr'; cases hr'
  rw [hst] at hst'
  cases hst'

/-- A dead row stays dead until a replay finds it. -/
theorem effect_dead {det : LoopDetector} (hmay : May det (stage i w.journal) c) (hlease : c.ofStore = true → HoldsLease i { w with now := t })
    (he : Effect c w.store t r s') {id : Nat} (h : rowStatus taskId w.store id = some .dead) :
    rowStatus taskId s' id = some .dead ∨
      ∃ n actor reason, c = .store (.replayDeadLetter id taskId n actor reason) ∧ ReplayHits w.store id taskId := by
  cases c with
  | store c =>
    obtain rfl := congrArg Prod.snd he
    rcases dead_kept c (fun hc => settles_processing hmay (hlease rfl) hc h) h with h | ⟨n, actor, reason, rfl, hhit⟩
    · exact .inl h
    · exact .inr ⟨n, actor, reason, rfl, hhit⟩
  | clock | awaitHeartbeat => obtain ⟨-, rfl⟩ := he; exact .inl h
  | _ => obtain rfl := he; exact .inl h

/-- What the checkpoint seen is after a call that neither claims nor gives up on a delivery. -/
theorem seen_cases (hd : (q.after c r).dying = some d) (hret : c.retried r = none) :
    (q.after c r).seen = q.seen ∨ (∃ task, c = .store (.getWorkflow task)) ∨ ∃ st v, c = .store (.saveWorkflow st v) := by
  cases c with
  | store c =>
    cases r with
    | error e => cases c <;> exact .inl rfl
    | ok a =>
      cases c with
      | getWorkflow task => exact .inr (.inl ⟨task, rfl⟩)
      | saveWorkflow st v => exact .inr (.inr ⟨st, v, rfl⟩)
      | claim =>
        cases a with
        | none => exact .inl rfl
        | some d' => cases hd
      | retryOrDeadLetter => cases hret
      | getToolResult => cases a <;> exact .inl rfl
      | _ => exact .inl rfl
  | _ => cases r <;> exact .inl rfl

/-- A thread that dead-lettered a delivery, and is up to date after a call, was so before it. -/
theorem upToDate_back {det : LoopDetector} {k : ThreadId} (hok : StoreOk Set.univ w.store)
    (hmay : May det (stage i w.journal) c) (hcopy : ∀ cp, (stage k w.journal).seen = some cp → Copy cp w.store)
    (he : Effect c w.store t r s') (hd : (stage k (.did i c r :: w.journal)).dying = some d) (hret : i = k → c.retried r = none)
    (hup : UpToDate k taskId ⟨s', t, .did i c r :: w.journal⟩) : UpToDate k taskId w := by
  have hlater := effect_later hok he
  by_cases e : i = k
  · subst e
    rw [stage_did] at hd
    have hseen := hup
    simp only [UpToDate, stage_did] at hseen
    rcases seen_cases hd (hret rfl) with hs | ⟨task, rfl⟩ | ⟨st, v, rfl⟩
    · exact hup.back hlater hcopy (by rw [stage_did]; exact hs)
    · -- it reads once, and has seen nothing before
      have hdying : (stage i w.journal).dying = some d := by
        rcases after_dying hd with h | h
        · cases h
        · exact h.2
      rcases hmay with h | h
      · rw [h] at hdying; cases hdying
      · intro cp hcp
        rw [h] at hcp; cases hcp
    · obtain ⟨cp, hsave⟩ := hmay
      rcases SQLiteStore.saveWorkflow_cases he with ⟨row, hrow, hv, rfl, -⟩ | ⟨⟨m, rfl⟩, -⟩
      · intro cp' hcp
        rw [hsave.seen] at hcp; cases hcp
        have ht : st.taskId = taskId := (hseen _ rfl).1
        exact ⟨hsave.change.same.1 ▸ ht, row, ht ▸ hrow, hv.trans hsave.version⟩
      · exact hup.back hlater hcopy (by rw [stage_did]; rfl)
  · exact hup.back hlater hcopy (by rw [stage_other e])

/-- A thread up to date after a call has seen no replay of its task. -/
theorem not_replayed {k : ThreadId} {n m : Nat} {actor reason : String} (hok : StoreOk Set.univ w.store)
    (hcopy : ∀ cp, (stage k w.journal).seen = some cp → Copy cp w.store)
    (hunread : ReplayHits w.store n d.taskId → ¬ Unread k d.taskId w.journal)
    (he : Effect c w.store t r s') (hc : c = .store (.replayDeadLetter n d.taskId m actor reason))
    (hd : (stage k w.journal).dying = some d) (hseen : (stage k (.did i c r :: w.journal)).seen = (stage k w.journal).seen)
    (hup : UpToDate k d.taskId ⟨s', t, .did i c r :: w.journal⟩) : ¬ ReplayHits w.store n d.taskId := by
  intro hhit
  subst hc
  cases hs : (stage k w.journal).seen with
  | none => exact hunread hhit ⟨hs, d, hd, rfl⟩
  | some cp =>
    obtain ⟨-, rfl⟩ := Prod.mk.inj he
    exact replay_outdates hok rfl hhit (hcopy cp hs) (hseen.trans hs) hup

/-- A delivery given up on for good has a dead row. -/
theorem retried_dead (hi : DeadInv w) {det : LoopDetector} (hmay : May det (stage i w.journal) c) (he : Effect c w.store t r s')
    (h : c.retried r = some (d, true)) : rowStatus d.taskId s' d.id = some .dead := by
  unfold Call.retried at h
  split at h
  · rename_i delivery error base dead
    cases h
    obtain ⟨row, hr, ht⟩ := hi.held i d hmay.2
    rcases SQLiteStore.retryOrDeadLetter_cases he with ⟨⟨m, e⟩, -⟩ | ⟨delay, -, hdead, hg, -⟩
    · cases e
    · have hmax : d.maxAttempts ≤ d.attempts := of_decide_eq_true (Except.ok.inj hdead).symm
      refine rowStatus_some.mpr ⟨_, (hg d.id).trans (by rw [hr]; rfl), ?_, ?_⟩
      · simpa using ht
      · simp [hmax]
  · cases h

/-- What a thread that dead-lettered a delivery relies on is kept by every call. -/
theorem dying_kept {det : LoopDetector} {k : ThreadId} (hi : DeadInv w) (hok : StoreOk Set.univ w.store)
    (hmay : May det (stage i w.journal) c) (hcopy : ∀ cp, (stage k w.journal).seen = some cp → Copy cp w.store)
    (hlease : c.ofStore = true → HoldsLease i { w with now := t })
    (hunread : ∀ n task m actor reason, c = .store (.replayDeadLetter n task m actor reason) → ReplayHits w.store n task →
      ¬ Unread k task w.journal)
    (he : Effect c w.store t r s') (hd : (stage k (.did i c r :: w.journal)).dying = some d)
    (hup : UpToDate k d.taskId ⟨s', t, .did i c r :: w.journal⟩) :
    rowStatus d.taskId s' d.id = some .dead ∧ failing k d.taskId (.did i c r :: w.journal) = true := by
  by_cases hret : i = k ∧ c.retried r = some (d, true)
  · obtain ⟨rfl, hret⟩ := hret
    refine ⟨retried_dead hi hmay he hret, ?_⟩
    have hno : c.replayed r ≠ some d.taskId := by
      intro h
      unfold Call.retried at hret
      split at hret
      · cases h
      · cases hret
    simp only [failing, if_neg hno, hret, if_true, Bool.true_and, decide_true]
  · have hnone : i = k → c.retried r = none := by
      intro e
      subst e
      rw [stage_did] at hd
      rcases after_dying hd with h | h
      · exact absurd ⟨rfl, h⟩ hret
      · exact h.1
    have hdying : (stage k w.journal).dying = some d := by
      by_cases e : i = k
      · subst e
        rw [stage_did] at hd
        rcases after_dying hd with h | h
        · exact absurd ⟨rfl, h⟩ hret
        · exact h.2
      · rw [stage_other e] at hd; exact hd
    obtain ⟨hdead, hfail⟩ := hi.dying k d hdying (upToDate_back hok hmay hcopy he hd hnone hup)
    have hno : ∀ n m actor reason, c = .store (.replayDeadLetter n d.taskId m actor reason) → ¬ ReplayHits w.store n d.taskId := by
      intro n m actor reason hc
      refine not_replayed hok hcopy (hunread n _ m actor reason hc) he hc hdying ?_ hup
      subst hc
      by_cases e : i = k
      · subst e; rw [stage_did]; cases r <;> rfl
      · rw [stage_other e]
    refine ⟨?_, failing_did (fun h => ?_) hnone hfail⟩
    · rcases effect_dead hmay hlease he hdead with h | ⟨m, actor, reason, hc, hhit⟩
      · exact h
      · exact absurd hhit (hno _ m actor reason hc)
    · obtain ⟨n, m, actor, reason, hc, hhit⟩ := replayed_hits he h
      exact hno n m actor reason hc hhit

/-- A thread that saves `DEAD_LETTERED` gave up on a delivery that is still dead, since the last replay. -/
theorem save_failing {det : LoopDetector} (hi : DeadInv w) {st : WorkflowState} {v : Nat}
    (hmay : May det (stage i w.journal) (.store (.saveWorkflow st v))) (hst : st.status = .deadLettered) {row : WorkflowRow}
    (hrow : w.store.workflows.get st.taskId = some row) (hv : row.version = v) :
    failing i st.taskId w.journal = true ∧ ∃ id, rowStatus st.taskId w.store id = some .dead := by
  obtain ⟨cp, hsave⟩ := hmay
  obtain ⟨d, hd, ht⟩ := hsave.dying hst
  have htask : st.taskId = d.taskId := hsave.change.same.1.trans ht.symm
  rw [htask] at hrow ⊢
  obtain ⟨hdead, hfail⟩ := hi.dying i d hd fun cp' hcp => by
    rw [hsave.seen] at hcp; cases hcp
    exact ⟨ht.symm, row, hrow, hv.trans hsave.version⟩
  exact ⟨hfail, d.id, hdead⟩

/-- A call that leaves a workflow dead-lettered leaves it with a dead row and a failure since its last replay. -/
theorem letters_kept {det : LoopDetector} (hi : DeadInv w) (hok : StoreOk Set.univ w.store)
    (hmay : May det (stage i w.journal) c) (hlease : c.ofStore = true → HoldsLease i { w with now := t })
    (he : Effect c w.store t r s') (h : s'.statusOf taskId = some .deadLettered) :
    exhausted taskId (.did i c r :: w.journal) = true ∧ ∃ id, rowStatus taskId s' id = some .dead := by
  have hbefore : exhausted taskId w.journal = true ∧ (∃ id, rowStatus taskId w.store id = some .dead) ∧
      ∃ st, w.store.statusOf taskId = some st := by
    have hold : w.store.statusOf taskId = some .deadLettered → exhausted taskId w.journal = true ∧
        (∃ id, rowStatus taskId w.store id = some .dead) ∧ ∃ st, w.store.statusOf taskId = some st :=
      fun h => ⟨(hi.letters taskId h).1, (hi.letters taskId h).2, _, h⟩
    cases c with
    | store c =>
      obtain rfl := congrArg Prod.snd he
      rcases apply_deadLettered hok c (fun st n e => by subst e; exact hmay) h with h | ⟨st, v, rfl, rfl, hst, row, hrow, hv⟩
      · exact hold h
      · obtain ⟨hfail, hdead⟩ := save_failing hi hmay hst hrow hv
        exact ⟨exhausted_of_failing hfail, hdead, row.stateJson.status, by simp [SQLiteStore.statusOf, hrow]⟩
    | clock | awaitHeartbeat => obtain ⟨-, rfl⟩ := he; exact hold h
    | _ => obtain rfl := he; exact hold h
  obtain ⟨hex, ⟨id, hdead⟩, st, hst⟩ := hbefore
  -- the call is no replay, for a replay queues the workflow
  have hno : ∀ n m actor reason, c = .store (.replayDeadLetter n taskId m actor reason) → ¬ ReplayHits w.store n taskId := by
    intro n m actor reason hc hhit
    subst hc
    obtain ⟨-, rfl⟩ := Prod.mk.inj he
    rcases hreplay : w.store.replayDeadLetter t n taskId m actor reason with ⟨o, s''⟩
    rw [hreplay, replay_hit_status hok hreplay hhit hst] at h
    cases h
  refine ⟨exhausted_did (fun hrep => ?_) hex, id, ?_⟩
  · obtain ⟨n, m, actor, reason, hc, hhit⟩ := replayed_hits he hrep
    exact hno n m actor reason hc hhit
  · rcases effect_dead hmay hlease he hdead with h | ⟨m, actor, reason, hc, hhit⟩
    · exact h
    · exact absurd hhit (hno _ m actor reason hc)

/-! ## Runs -/

variable {rt : WorkflowRuntime} {config : Settings}

theorem reachable_deadInv {cfg : Cfg}
    (h : Reachable { rt with engine := anyEngine, backend := anyBackend } config .afterRead cfg) : DeadInv cfg.state := by
  refine reachable_world (P := DeadInv) ⟨fun _ _ h => (by cases h), fun _ _ h => (by cases h), fun _ h => (by cases h)⟩
    (fun w e hi he => ?_) (fun cfg i c k r w' hr hi hp hx => ?_) h
  · have hstage := fun i => stage_bound he i w.journal
    have hfail : ∀ i taskId, failing i taskId (e :: w.journal) = failing i taskId w.journal := by
      intro i taskId; cases e <;> first | rfl | cases he
    have hex : ∀ taskId, exhausted taskId (e :: w.journal) = exhausted taskId w.journal := by
      intro taskId; cases e <;> first | rfl | cases he
    refine ⟨fun i d hd => ?_, fun i d hd hup => ?_, fun taskId hst => ?_⟩
    · rcases hstage i with hb | hb <;> rw [hb] at hd
      · cases hd
      · exact hi.held i d hd
    · rcases hstage i with hb | hb <;> rw [hb] at hd
      · cases hd
      · rw [hfail]
        refine hi.dying i d hd fun cp hcp => hup cp ?_
        rw [hb]; exact hcp
    · rw [hex]; exact hi.letters taskId hst
  · have hok := reachable_storeOk lawful_univ hr
    have hmay := conforms hr hp
    have hcopy := reachable_copy hr
    obtain ⟨t, s', -, hal, he, rfl⟩ := hx
    refine ⟨fun j d hd => held_row_kept hi.held he hd, fun j d hd hup => ?_, fun taskId hst => letters_kept hi hok hmay hal.1 he hst⟩
    refine dying_kept hi hok hmay (hcopy j) hal.1 (fun n task m actor reason hc hhit => ?_) he hd hup
    subst hc
    exact hal.2 hhit j

/-- Thread `i` saved the status of a workflow in the step. -/
def Saves (cfg cfg' : Cfg) (i : ThreadId) (taskId : String) (status : WorkflowStatus) : Prop :=
  ∃ st v st', cfg'.state.journal = .did i (.store (.saveWorkflow st v)) (.ok st') :: cfg.state.journal ∧
    st.taskId = taskId ∧ st.status = status

/-- Where no replay falls between a failure and the read that follows it: a dead-lettered
    workflow has a dead row, whose replay succeeds; a delivery of it failed for good since its
    last replay, and nobody saves `DEAD_LETTERED` for an older failure; and a replay queues it. -/
theorem dead_letters_replayable (rt : WorkflowRuntime) (config : Settings) {cfg : Cfg}
    (h : Reachable { rt with engine := anyEngine, backend := anyBackend } config .afterRead cfg) (taskId : String) :
    (cfg.state.store.statusOf taskId = some .deadLettered → exhausted taskId cfg.state.journal = true ∧
      ∃ id, ReplayHits cfg.state.store id taskId ∧ ∀ now n actor reason, ∃ state,
        (cfg.state.store.replayDeadLetter now id taskId n actor reason).1 = some state) ∧
    ∀ cfg', Step (system { rt with engine := anyEngine, backend := anyBackend } config .afterRead) cfg cfg' →
      (∀ i, Saves cfg cfg' i taskId .deadLettered → failing i taskId cfg.state.journal = true) ∧
      (Replays cfg cfg' taskId → cfg'.state.store.statusOf taskId = some .queued) := by
  have hi := reachable_deadInv h
  have hknown := reachable_known h
  refine ⟨fun hst => ?_, fun cfg' hs => ⟨fun i hsave => ?_, fun hrep => ?_⟩⟩
  · obtain ⟨hex, id, hdead⟩ := hi.letters taskId hst
    obtain ⟨row, hr, ht, hrst⟩ := replayHits_iff.mpr hdead
    exact ⟨hex, id, ⟨row, hr, ht, hrst⟩, fun now n actor reason =>
      SQLiteStore.replayDeadLetter_some now n actor reason hr ht hrst (ht ▸ hknown id row hr)⟩
  · obtain ⟨st, v, st', hj, rfl, hst⟩ := hsave
    cases hs with
    | enter _ he => obtain ⟨op, -, -, rfl⟩ := he; cases hj
    | leave _ _ hl => obtain rfl := hl; cases hj
    | crash _ hx => obtain ⟨-, rfl⟩ := hx; cases hj
    | call hp hx =>
      have hmay := conforms h hp
      obtain ⟨t, s', -, -, he, rfl⟩ := hx
      cases hj
      rcases SQLiteStore.saveWorkflow_cases he with ⟨row, hrow, hv, -⟩ | ⟨⟨m, hm⟩, -⟩
      · exact (save_failing hi hmay hst hrow hv).1
      · cases hm
  · obtain ⟨i, id, n, actor, reason, r, hj, row, hr, ht, hrst⟩ := hrep
    obtain ⟨wrow, hw⟩ := Option.ne_none_iff_exists'.mp (hknown id row hr)
    rw [ht] at hw
    exact step_replays h hs ⟨i, id, n, actor, reason, r, hj, row, hr, ht, hrst⟩
      (show cfg.state.store.statusOf taskId = some wrow.stateJson.status by simp [SQLiteStore.statusOf, hw])

/-! ## A replay between the failure and the read -/

/-- A worker's only attempt fails, and it marks the row dead. -/
def marksDead : List (Move ThreadId Operation Answer) :=
  begins 1 (.runOnce "w1") 4 ++ [.call 1 (.decision 0 (.error (.retryable "timeout")))] ++ continues 1 3

def lastAttempt : List (Move ThreadId Operation Answer) := createsIncident ++ marksDead

def replaysIt : List (Move ThreadId Operation Answer) :=
  begins 2 (.replay 1 "t" "operator" "dependency restored") 1 ++ [.leave 2]

/-- The worker reads the checkpoint and saves `DEAD_LETTERED`. -/
def deadLetters : List (Move ThreadId Operation Answer) := continues 1 5 ++ [.leave 1]

/-- A replay comes when every thread that gave up on a delivery has read the checkpoint. -/
def allRead (w : World) : Call → Bool
  | .store (.replayDeadLetter ..) =>
    w.journal.all fun e => (stage e.thread w.journal).seen.isSome || (stage e.thread w.journal).dying.isNone
  | _ => true

theorem allRead_afterRead {i : ThreadId} {w : World} {c : Call} {r : Except PyError c.Ret}
    (h : (leaseHeld i w && allRead w c) = true) : Env.afterRead.allows i w c r := by
  rw [Bool.and_eq_true] at h
  refine ⟨fun _ => leaseHeld_holds h.1, ?_⟩
  cases c with
  | store c =>
    cases c with
    | replayDeadLetter id taskId =>
      rintro - j ⟨hseen, delivery, hdying, -⟩
      by_cases hmem : ∃ e ∈ w.journal, e.thread = j
      · obtain ⟨e, he, rfl⟩ := hmem
        have := List.all_eq_true.mp h.2 e he
        simp [hseen, hdying] at this
      · rw [stage_absent fun e he ht => hmem ⟨e, he, ht⟩] at hdying
        cases hdying
    | _ => trivial
  | _ => trivial

def afterReadPlayer : Simulator (system {} oneAttempt .afterRead) Operation Answer :=
  player {} oneAttempt .afterRead (fun i w c _ => leaseHeld i w && allRead w c) (fun _ _ => true)
    (fun _ _ _ _ h => allRead_afterRead h) (fun _ _ _ => trivial) (fun _ _ _ => trivial)

/-- The incident is dead-lettered and was replayed once. -/
def letteredAgain (cfg : Cfg) : Bool :=
  hasStatus .deadLettered cfg &&
    decide (cfg.state.journal.countP (fun | .did _ c r => decide (c.replayed r = some "t") | _ => false) = 1)

theorem deadLetters_plays : (afterReadPlayer.play ⟨World.init, fun _ => none⟩
    (lastAttempt ++ deadLetters ++ replaysIt ++ marksDead ++ deadLetters)).any letteredAgain = true := by
  decide +kernel

theorem dead_letters_replayable_again : ∃ cfg, Reachable {} oneAttempt .afterRead cfg ∧
    (∃ i c r, .did i c r ∈ cfg.state.journal ∧ c.replayed r = some "t") ∧ exhausted "t" cfg.state.journal = true ∧
    ∃ id, ReplayHits cfg.state.store id "t" := by
  obtain ⟨cfg, h, hc⟩ := afterReadPlayer.play_exists deadLetters_plays
  obtain ⟨hst, hreplays⟩ := Bool.and_eq_true _ _ ▸ hc
  obtain ⟨hex, id, hhit, -⟩ := (dead_letters_replayable {} oneAttempt h "t").1 (of_decide_eq_true hst)
  have hpos : 0 < cfg.state.journal.countP _ := (of_decide_eq_true hreplays).symm ▸ Nat.one_pos
  obtain ⟨e, hmem, he⟩ := List.countP_pos_iff.mp hpos
  cases e with
  | did i c r => exact ⟨cfg, h, ⟨i, c, r, hmem, of_decide_eq_true he⟩, hex, id, hhit⟩
  | _ => cases he

def oneLeasedPlayer : Simulator (system {} oneAttempt .leased) Operation Answer :=
  player {} oneAttempt .leased (fun i w _ _ => leaseHeld i w) (fun _ _ => false) leaseHeld_leased (fun _ _ _ => trivial)
    leased_dies

theorem replayedBetween_plays : (oneLeasedPlayer.play ⟨World.init, fun _ => none⟩ (lastAttempt ++ replaysIt ++ deadLetters)).any
    (fun cfg => (List.range 3).all (fun i => (cfg.pool i).isNone) && (hasStatus .deadLettered cfg &&
      cfg.state.store.queue.rows.all fun row => decide (row.status ≠ .dead))) = true := by
  decide +kernel

/-- A workflow at rest is dead-lettered and has no dead row: the failure overwrote its replay. -/
theorem replay_overwritten : ∃ cfg, Reachable {} oneAttempt .leased cfg ∧ (∀ i, cfg.pool i = none) ∧
    cfg.state.store.statusOf "t" = some .deadLettered ∧ ∀ id, ¬ ReplayHits cfg.state.store id "t" := by
  obtain ⟨cfg, h, hidle, hc⟩ := play_settled oneLeasedPlayer replayedBetween_plays (by decide)
  rw [Bool.and_eq_true, List.all_eq_true] at hc
  refine ⟨cfg, h, hidle, of_decide_eq_true hc.1, fun id hhit => ?_⟩
  obtain ⟨row, hr, -, hst⟩ := hhit
  exact of_decide_eq_true (hc.2 row (Table.get_mem hr)) hst

end AgentResilience
