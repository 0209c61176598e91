/-
  AgentResilience.AuditLog — the audit log tells where a workflow stands. A checkpoint and
  the event about it are written by two calls, so the log falls behind within an operation;
  between operations it has caught up.

  - `Audit` is what of a checkpoint the log tells, `auditOf` what the log tells of it.
  - `Level`: nothing of any workflow is ahead of its log. `Abreast` is `Level` within an
    operation on one task: its checkpoint is `cp`, and its log tells `a`.
  - `save_abreast`, `record_abreast`, `abreast_mute`: the calls; each function of the
    program then goes from `Level` to `Level`.
  - `log_determines`: every sequence of operations leaves the log level.
-/
import AgentResilience.CrashRecovery
import AgentResilience.History

namespace AgentResilience

open Interaction
open Interaction.Prog (attempt ofExcept throw makes_bind makes_perform)

/-- What of a checkpoint the audit log tells. -/
structure Audit where
  status : WorkflowStatus := .queued
  evidence : Dict Json := []
  completedSteps : List String := []
  toolCalls : Nat := 0
  modelCalls : Nat := 0
  retries : Nat := 0

def WorkflowState.audit (st : WorkflowState) : Audit :=
  ⟨st.status, st.evidence, st.completedSteps, st.toolCalls, st.modelCalls, st.retries⟩

/-- The status an event reports, if it reports one. -/
def EventType.status : EventType → Option WorkflowStatus
  | workflowCreated | dlqReplayed | approvalGranted | toolCompleted | modelRetryableFailure | toolRetryableFailure =>
    some .queued
  | agentDecisionStarted => some .running
  | approvalRequired => some .waitingForApproval
  | workflowCompleted => some .completed
  | workflowFailed => some .failed
  | loopDetected => some .loopStopped
  | deadLettered => some .deadLettered
  | approvalRejected => some .humanRejected
  | agentDecision | policyDenied | chaosPauseStarted | approvedActionResumed | queueLeaseExtended => none

/-- The tool and the result a `TOOL_COMPLETED` payload names. -/
def EventRecord.completed (e : EventRecord) : Option (String × Json) :=
  match e.eventType, e.payload with
  | .toolCompleted, .obj fields =>
    match Dict.get? fields "tool", Dict.get? fields "result" with
    | some (.str tool), some result => some (tool, result)
    | _, _ => none
  | _, _ => none

def EventRecord.isRetry (e : EventRecord) : Bool :=
  e.eventType = .modelRetryableFailure || e.eventType = .toolRetryableFailure

/-- A task's events, read in order. -/
def auditOf (events : List EventRecord) : Audit where
  status := events.foldl (fun status e => e.eventType.status.getD status) .queued
  evidence := (events.filterMap (·.completed)).foldl (fun evidence r => evidence.set r.1 r.2) []
  completedSteps := (events.filterMap (·.completed)).foldl (fun steps r => if r.1 ∈ steps then steps else steps ++ [r.1]) []
  toolCalls := events.countP (·.eventType = .toolCompleted)
  modelCalls := events.countP (·.eventType = .agentDecision)
  retries := events.countP (·.isRetry)

def SQLiteStore.eventsOf (s : SQLiteStore) (taskId : String) : List EventRecord := s.events.filter (·.taskId = taskId)

/-- What one more event changes. -/
def Audit.tell (a : Audit) (e : EventType) (payload : Json) : Audit :=
  let record : EventRecord := ⟨0, "", e, payload, 0⟩
  { status := e.status.getD a.status
    evidence := record.completed.elim a.evidence fun r => a.evidence.set r.1 r.2
    completedSteps := record.completed.elim a.completedSteps fun r =>
      if r.1 ∈ a.completedSteps then a.completedSteps else a.completedSteps ++ [r.1]
    toolCalls := if e = .toolCompleted then a.toolCalls + 1 else a.toolCalls
    modelCalls := if e = .agentDecision then a.modelCalls + 1 else a.modelCalls
    retries := if record.isRetry then a.retries + 1 else a.retries }

theorem auditOf_snoc (events : List EventRecord) (e : EventRecord) :
    auditOf (events ++ [e]) = (auditOf events).tell e.eventType e.payload := by
  have hc : (EventRecord.mk 0 "" e.eventType e.payload 0).completed = e.completed := rfl
  have hr : (EventRecord.mk 0 "" e.eventType e.payload 0).isRetry = e.isRetry := rfl
  unfold auditOf Audit.tell
  simp only [hc, hr, List.filterMap_append, List.foldl_append, List.countP_append]
  cases h : e.completed <;> simp [h, List.countP_cons] <;> grind

theorem eventsOf_recordEvent (s : SQLiteStore) (t : Timestamp) (taskId : String) (e : EventType) (payload : Json) (T : String) :
    auditOf ((s.recordEvent t taskId e payload).eventsOf T) =
      if taskId = T then (auditOf (s.eventsOf T)).tell e payload else auditOf (s.eventsOf T) := by
  unfold SQLiteStore.eventsOf SQLiteStore.recordEvent
  simp only [List.filter_append]
  split
  · rename_i h
    simp only [List.filter_singleton, h, decide_true, cond_true]
    exact auditOf_snoc _ _
  · rename_i h
    simp [h]

/-! ## The log and the checkpoints -/

/-- Rows and events as the store keeps them. -/
structure Filed (s : SQLiteStore) : Prop where
  rows : ∀ taskId row, s.workflows.get taskId = some row → row.stateJson.taskId = taskId ∧ row.version = row.stateJson.version
  ids : s.events.Pairwise fun a b => a.id < b.id

structure Level (s : SQLiteStore) : Prop where
  filed : Filed s
  told : ∀ taskId, auditOf (s.eventsOf taskId) = ((s.stored taskId).map WorkflowState.audit).getD {}

structure Abreast (taskId : String) (cp : WorkflowState) (a : Audit) (s : SQLiteStore) : Prop where
  filed : Filed s
  stored : s.stored taskId = some cp
  told : auditOf (s.eventsOf taskId) = a
  others : ∀ t, t ≠ taskId → auditOf (s.eventsOf t) = ((s.stored t).map WorkflowState.audit).getD {}

variable {s s' : SQLiteStore} {taskId : String} {cp st : WorkflowState} {a : Audit} {env : Env} {w w' : World}

theorem Level.abreast (h : Level s) (hst : s.stored taskId = some st) : Abreast taskId st st.audit s :=
  ⟨h.filed, hst, by rw [h.told, hst]; rfl, fun t _ => h.told t⟩

theorem Abreast.level (h : Abreast taskId cp a s) (ha : a = cp.audit) : Level s := by
  refine ⟨h.filed, fun t => ?_⟩
  by_cases e : t = taskId
  · subst e; rw [h.told, h.stored, ha]; rfl
  · exact h.others t e

theorem Filed.version (h : Filed s) (hst : s.stored taskId = some st) :
    ∃ row, s.workflows.get taskId = some row ∧ row.version = st.version ∧ st.taskId = taskId := by
  obtain ⟨row, hr, rfl⟩ := stored_some.mp hst
  exact ⟨row, hr, (h.rows _ _ hr).2, (h.rows _ _ hr).1⟩

theorem Filed.recordEvent (h : Filed s) (t : Timestamp) (taskId : String) (e : EventType) (payload : Json) :
    Filed (s.recordEvent t taskId e payload) := by
  refine ⟨h.rows, List.pairwise_append.mpr ⟨h.ids, List.pairwise_singleton _ _, fun x hx y hy => ?_⟩⟩
  obtain rfl := List.mem_singleton.mp hy
  -- the next id is above the last, and the last is above the others
  obtain ⟨l, z, hl⟩ := (List.eq_nil_or_concat s.events).resolve_left (List.ne_nil_of_mem hx)
  have hids := h.ids
  rw [hl, List.concat_eq_append] at hids hx
  rw [show s.events.getLast? = some z by rw [hl]; simp]
  rcases List.mem_append.mp hx with hx | hx
  · exact Nat.lt_succ_of_lt ((List.pairwise_append.mp hids).2.2 x hx z List.mem_cons_self)
  · rw [List.mem_singleton.mp hx]; exact Nat.lt_succ_self _

/-! ## Calls that neither checkpoint nor record -/

def Call.mute : Call → Bool
  | .store (.createWorkflow ..) | .store (.saveWorkflow ..) | .store (.replayDeadLetter ..) | .store (.recordEvent ..) => false
  | _ => true

theorem StoreCall.apply_events {c : StoreCall} (h : (Call.store c).mute = true) (s : SQLiteStore) (now : Timestamp) :
    (c.apply s now).2.events = s.events := by
  cases c with
  | createWorkflow | saveWorkflow | replayDeadLetter | recordEvent => cases h
  | enqueue =>
    simp only [apply, SQLiteStore.enqueue]
    split
    · rfl
    · split <;> rfl
  | claim => simp only [apply, SQLiteStore.claim]; split <;> rfl
  | retryOrDeadLetter => simp only [apply, SQLiteStore.retryOrDeadLetter]; split <;> rfl
  | resolveApproval => simp only [apply, SQLiteStore.resolveApproval]; split <;> rfl
  | _ => rfl

theorem calls_mute {c : Call} (hc : c.mute = true) {r : Except PyError c.Ret} (h : calls env 0 c w r w') :
    w'.store.workflows = w.store.workflows ∧ w'.store.events = w.store.events := by
  obtain ⟨t, s', -, -, he, rfl⟩ := h
  cases c with
  | store c =>
    obtain rfl := congrArg Prod.snd he
    refine ⟨StoreCall.apply_workflows ?_ _ _, StoreCall.apply_events hc _ _⟩
    cases c <;> first | rfl | cases hc
  | clock | awaitHeartbeat => obtain ⟨-, rfl⟩ := he; exact ⟨rfl, rfl⟩
  | _ => obtain rfl := he; exact ⟨rfl, rfl⟩

theorem Filed.congr (h : Filed s) (hw : s'.workflows = s.workflows) (he : s'.events = s.events) : Filed s' :=
  ⟨by rw [hw]; exact h.rows, by rw [he]; exact h.ids⟩

theorem eventsOf_congr (he : s'.events = s.events) (taskId : String) : s'.eventsOf taskId = s.eventsOf taskId := by
  simp [SQLiteStore.eventsOf, he]

theorem Level.congr (h : Level s) (hw : s'.workflows = s.workflows) (he : s'.events = s.events) : Level s' :=
  ⟨h.filed.congr hw he, fun t => by rw [eventsOf_congr he, stored_congr hw]; exact h.told t⟩

theorem Abreast.congr (h : Abreast taskId cp a s) (hw : s'.workflows = s.workflows) (he : s'.events = s.events) :
    Abreast taskId cp a s' :=
  ⟨h.filed.congr hw he, (stored_congr hw).trans h.stored, by rw [eventsOf_congr he]; exact h.told,
    fun t ht => by rw [eventsOf_congr he, stored_congr hw]; exact h.others t ht⟩

/-- A program of mute calls. -/
theorem wp_mute {α : Type} {p : Py α} (hp : p.Makes fun c => c.mute = true) (w : World) :
    wp (calls env 0) p (fun _ w' => w'.store.workflows = w.store.workflows ∧ w'.store.events = w.store.events) w := by
  refine wp_keeps (I := fun w' : World => w'.store.workflows = w.store.workflows ∧ w'.store.events = w.store.events)
    (fun c w₁ r w₂ hc hs h => ?_) hp ⟨rfl, rfl⟩
  obtain ⟨hw, he⟩ := calls_mute hc hs
  exact ⟨hw.trans h.1, he.trans h.2⟩

theorem level_mute {α : Type} {p : Py α} (hp : p.Makes fun c => c.mute = true) (h : Level w.store) :
    wp (calls env 0) p (fun _ w' => Level w'.store) w :=
  wp_mono (wp_mute hp w) fun _ _ hs => h.congr hs.1 hs.2

theorem abreast_mute {α : Type} {p : Py α} (hp : p.Makes fun c => c.mute = true) (h : Abreast taskId cp a w.store) :
    wp (calls env 0) p (fun _ w' => Abreast taskId cp a w'.store) w :=
  wp_mono (wp_mute hp w) fun _ _ hs => h.congr hs.1 hs.2

/-! ## Saving and recording -/

/-- What a save of the stored checkpoint's successor leaves. -/
structure Saved (st : WorkflowState) (w w' : World) : Prop where
  filed : Filed w'.store
  stored : w'.store.stored st.taskId = some st
  others : ∀ t, t ≠ st.taskId → w'.store.stored t = w.store.stored t
  queue : w'.store.queue = w.store.queue
  approvals : w'.store.approvals = w.store.approvals
  toolResults : w'.store.toolResults = w.store.toolResults
  events : w'.store.events = w.store.events

theorem save_filed (h : Filed w.store) (hst : w.store.stored taskId = some cp) (ht : st.taskId = taskId)
    (hv : st.version = cp.version) {r : Except PyError WorkflowState}
    (hs : calls env 0 (.store (.saveWorkflow st st.version)) w r w') :
    ∃ t, r = .ok (st.saved t) ∧ Saved (st.saved t) w w' := by
  obtain ⟨t, s', -, -, he, rfl⟩ := hs
  obtain ⟨row, hr, hver, -⟩ := h.version hst
  have hev : s'.events = w.store.events := by
    rw [show s' = (w.store.saveWorkflow t st st.version).2 from (congrArg Prod.snd he).symm]
    unfold SQLiteStore.saveWorkflow
    simp only
    split <;> rfl
  subst ht
  rcases SQLiteStore.saveWorkflow_cases he with ⟨row', -, -, hres, hw, hq, ha, hl⟩ | ⟨-, -, hne⟩
  · refine ⟨t, hres, ⟨fun T row hT => ?_, by rw [hev]; exact h.ids⟩, ?_, fun T hT => ?_, hq, ha, hl, hev⟩
    · rw [hw] at hT
      split at hT
      · rename_i e
        cases hT
        exact ⟨e.symm, rfl⟩
      · exact h.rows T row hT
    · exact stored_some.mpr ⟨_, (hw _).trans (if_pos rfl), rfl⟩
    · have hT : T ≠ st.taskId := hT
      simp only [SQLiteStore.stored, SQLiteStore.getWorkflow, hw, if_neg hT]
  · exact absurd (hver.trans hv.symm) (hne row hr)

theorem save_abreast (h : Abreast taskId cp a w.store) (ht : st.taskId = taskId) (hv : st.version = cp.version) :
    wp (calls env 0) (save st) (fun o w' => ∃ st', o = .ok st' ∧ (∃ t, st' = st.saved t) ∧ Abreast taskId st' a w'.store) w := by
  refine wp_perform.mpr fun r w' hs => ?_
  obtain ⟨t, hr, hsaved⟩ := save_filed h.filed h.stored ht hv hs
  subst ht
  refine ⟨_, hr, ⟨t, rfl⟩, hsaved.filed, hsaved.stored, ?_, fun T hT => ?_⟩
  · rw [eventsOf_congr hsaved.events]; exact h.told
  · rw [eventsOf_congr hsaved.events, hsaved.others T hT]
    exact h.others T hT

theorem recordEvent_stored (t : Timestamp) (T : String) (e : EventType) (payload : Json) (taskId : String) :
    (s.recordEvent t T e payload).stored taskId = s.stored taskId := rfl

theorem Abreast.recordEvent (h : Abreast taskId cp a s) (t : Timestamp) (e : EventType) (payload : Json) :
    Abreast taskId cp (a.tell e payload) (s.recordEvent t taskId e payload) := by
  refine ⟨h.filed.recordEvent .., h.stored, ?_, fun T hT => ?_⟩
  · rw [eventsOf_recordEvent, if_pos rfl, h.told]
  · rw [eventsOf_recordEvent, if_neg (Ne.symm hT)]
    exact h.others T hT

theorem record_abreast (h : Abreast taskId cp a w.store) (e : EventType) (payload : Json) :
    wp (calls env 0) (record taskId e payload)
      (fun o w' => ∃ u, o = .ok u ∧ Abreast taskId cp (a.tell e payload) w'.store) w := by
  refine wp_perform.mpr fun r w' hs => ?_
  obtain ⟨t, s', -, -, he, rfl⟩ := hs
  obtain ⟨rfl, rfl⟩ := Prod.mk.inj he
  exact ⟨(), rfl, h.recordEvent t e payload⟩

/-- The last event of an operation on a task. -/
theorem record_level (h : Abreast taskId cp a w.store) {t : String} (ht : t = taskId) {e : EventType} {payload : Json}
    (ha : a.tell e payload = cp.audit) :
    wp (calls env 0) (record t e payload) (fun o w' => ∃ u, o = .ok u ∧ Level w'.store) w := by
  subst ht
  exact wp_mono (record_abreast h e payload) fun _ _ ⟨u, ho, h'⟩ => ⟨u, ho, h'.level ha⟩

end AgentResilience
