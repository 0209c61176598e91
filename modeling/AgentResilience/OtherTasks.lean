/-
  AgentResilience.OtherTasks — what the operations of one task leave of another. `about` is
  the script of a program that writes the checkpoint, the approvals and the ledger of one task
  only, and settles one delivery; `Alike`: another task's part of the store is as before.

  - `process_about`, `handleDelivery_about`, `createIncident_about`, `approve_about`: the
    programs, bottom up.
  - `about_alike`: such a program, at every call boundary.
-/
import AgentResilience.Standing
import AgentResilience.DeadLetters

namespace AgentResilience

open Interaction
open Interaction.Prog (attempt ofExcept throw makes_bind makes_perform)

variable {rt : WorkflowRuntime} {config : Settings} {env : Env} {w₀ w w' : World} {taskId T : String} {cp st : WorkflowState}
  {d : QueueDelivery} {o : Option QueueDelivery} {α β : Type}

/-! ## A task's part of the store -/

def QueueRow.unsettled (row : QueueRow) : Prop := row.status = .pending ∨ row.status = .processing

/-- The task's deliveries are the same, and each is as before or open before and after. -/
structure RowsAlike (taskId : String) (s s' : SQLiteStore) : Prop where
  kept : ∀ id row, s.queue.get id = some row → row.taskId = taskId → ∃ row', s'.queue.get id = some row' ∧ row'.taskId = taskId ∧
    (row' = row ∨ row.unsettled ∧ row'.unsettled)
  known : ∀ id row', s'.queue.get id = some row' → row'.taskId = taskId → ∃ row, s.queue.get id = some row ∧ row.taskId = taskId

/-- What the store holds of the task is as before, but for the leases of its deliveries. -/
structure Alike (taskId : String) (s s' : SQLiteStore) : Prop extends RowsAlike taskId s s' where
  stored : s'.stored taskId = s.stored taskId
  ledger : ∀ tool arguments, s'.toolResults.get (actionId taskId tool arguments) = s.toolResults.get (actionId taskId tool arguments)
  approvals : ∀ key, s'.approvals.get (taskId, key) = s.approvals.get (taskId, key)
  events : s'.eventsOf taskId = s.eventsOf taskId

theorem RowsAlike.refl (taskId : String) (s : SQLiteStore) : RowsAlike taskId s s :=
  ⟨fun _ row h ht => ⟨row, h, ht, .inl rfl⟩, fun _ row' h ht => ⟨row', h, ht⟩⟩

theorem RowsAlike.trans {s s' s'' : SQLiteStore} (h : RowsAlike taskId s s') (h' : RowsAlike taskId s' s'') : RowsAlike taskId s s'' := by
  refine ⟨fun id row hr ht => ?_, fun id row hr ht => ?_⟩
  · obtain ⟨row₁, hr₁, ht₁, h₁⟩ := h.kept id row hr ht
    obtain ⟨row₂, hr₂, ht₂, h₂⟩ := h'.kept id row₁ hr₁ ht₁
    refine ⟨row₂, hr₂, ht₂, ?_⟩
    rcases h₁ with rfl | h₁ <;> rcases h₂ with rfl | h₂
    · exact .inl rfl
    · exact .inr h₂
    · exact .inr h₁
    · exact .inr ⟨h₁.1, h₂.2⟩
  · obtain ⟨row₁, hr₁, ht₁⟩ := h'.known id row hr ht
    exact h.known id row₁ hr₁ ht₁

theorem RowsAlike.dead {s s' : SQLiteStore} (h : RowsAlike taskId s s') {id : Nat} (hd : rowStatus taskId s' id = some .dead) :
    rowStatus taskId s id = some .dead := by
  obtain ⟨row', hr, ht, hdead⟩ := rowStatus_some.mp hd
  obtain ⟨row, hrow, htask⟩ := h.known id row' hr ht
  obtain ⟨row₁, hr₁, -, hsame⟩ := h.kept id row hrow htask
  rw [hr] at hr₁
  cases hr₁
  rcases hsame with rfl | ⟨-, e | e⟩
  · exact rowStatus_some.mpr ⟨row', hrow, ht, hdead⟩
  all_goals
    rw [e] at hdead
    cases hdead

theorem RowsAlike.of_eq {s s' : SQLiteStore} (h : s'.queue = s.queue) : RowsAlike taskId s s' := by
  have hrefl := RowsAlike.refl taskId s
  refine ⟨?_, ?_⟩
  · rw [h]; exact hrefl.kept
  · rw [h]; exact hrefl.known

/-- Rows changed one by one: a row of the task is as it was, or was open and is. -/
theorem RowsAlike.mapped {s s' : SQLiteStore} {g : Nat → QueueRow → QueueRow} (hq : ∀ id, s'.queue.get id = (s.queue.get id).map (g id))
    (htask : ∀ id row, (g id row).taskId = row.taskId) (hown : ∀ id row, s.queue.get id = some row → row.taskId = taskId →
      g id row = row ∨ row.unsettled ∧ (g id row).unsettled) : RowsAlike taskId s s' := by
  refine ⟨fun id row hr ht => ?_, fun id row' hr ht => ?_⟩
  · exact ⟨g id row, by rw [hq, hr, Option.map_some], (htask id row).trans ht, hown id row hr ht⟩
  · rw [hq] at hr
    obtain ⟨row, hrow, rfl⟩ := Option.map_eq_some_iff.mp hr
    exact ⟨row, hrow, (htask id row).symm.trans ht⟩

/-- A delivery of another task is added. -/
theorem RowsAlike.inserted {s s' : SQLiteStore} {T : String} {t : Timestamp} {n : Nat} (hne : taskId ≠ T)
    (hq : s'.queue = (s.insertQueue t T n).queue) : RowsAlike taskId s s' := by
  refine ⟨fun id row hr ht => ⟨row, ?_, ht, .inl rfl⟩, fun id row' hr ht => ⟨row', ?_, ht⟩⟩
  · rw [hq, SQLiteStore.insertQueue_get, if_neg]
    · exact hr
    · intro e
      rw [e, SQLiteStore.nextQueueId_fresh] at hr
      cases hr
  · rw [hq, SQLiteStore.insertQueue_get] at hr
    split at hr
    · cases hr
      exact absurd ht.symm hne
    · exact hr

theorem Alike.refl (taskId : String) (s : SQLiteStore) : Alike taskId s s := ⟨.refl taskId s, rfl, fun _ _ => rfl, fun _ => rfl, rfl⟩

theorem Alike.trans {s s' s'' : SQLiteStore} (h : Alike taskId s s') (h' : Alike taskId s' s'') : Alike taskId s s'' :=
  ⟨h.toRowsAlike.trans h'.toRowsAlike, h'.stored.trans h.stored, fun tool arguments => (h'.ledger tool arguments).trans (h.ledger tool arguments),
    fun key => (h'.approvals key).trans (h.approvals key), h'.events.trans h.events⟩

theorem eventsOf_other {s s' : SQLiteStore} {T : String} {t : Timestamp} {e : EventType} {payload : Json} (hne : taskId ≠ T)
    (h : s'.events = (s.recordEvent t T e payload).events) : s'.eventsOf taskId = s.eventsOf taskId := by
  unfold SQLiteStore.eventsOf SQLiteStore.recordEvent at *
  rw [h, List.filter_append]
  simp [Ne.symm hne]

/-- Checkpoints are filed under their tasks and versions. -/
def Labelled (s : SQLiteStore) : Prop :=
  ∀ taskId row, s.workflows.get taskId = some row → row.stateJson.taskId = taskId ∧ row.version = row.stateJson.version

theorem Labelled.version {s : SQLiteStore} (h : Labelled s) (hst : s.stored taskId = some st) :
    ∃ row, s.workflows.get taskId = some row ∧ row.version = st.version ∧ st.taskId = taskId := by
  obtain ⟨row, hr, rfl⟩ := stored_some.mp hst
  exact ⟨row, hr, (h taskId row hr).2, (h taskId row hr).1⟩

theorem Labelled.task {s : SQLiteStore} (h : Labelled s) (hst : s.stored taskId = some st) : st.taskId = taskId := by
  obtain ⟨_, -, -, ht⟩ := h.version hst
  exact ht

theorem StoreOk.labelled {A : Set Arguments} {s : SQLiteStore} (h : StoreOk A s) : Labelled s :=
  fun taskId row hr => ⟨(h.state taskId row hr).task, h.version taskId row hr⟩

/-! ## Calls about a task -/

/-- The calls a program about the task makes, which settles the delivery `o` if any. -/
def Call.about (taskId : String) (o : Option QueueDelivery) : Call → Prop
  | .store (.createWorkflow st _) | .store (.saveWorkflow st _) => st.taskId = taskId
  | .store (.saveToolResult key ..) => ∃ tool arguments, key = actionId taskId tool arguments
  | .store (.createApproval task _) | .store (.resolveApproval task ..) | .store (.recordEvent task ..) | .store (.enqueue task _)
  | .store (.replayDeadLetter _ task ..) => task = taskId
  | .store (.retryOrDeadLetter d ..) => o = some d
  | .store (.acknowledge n) => ∃ d, o = some d ∧ d.id = n
  | .store (.claim ..) => False
  | _ => True

/-- A checkpoint answered is the task's that was asked for. -/
def Call.names : (c : Call) → Except PyError c.Ret → Prop
  | .store (.getWorkflow taskId), .ok (some st) => st.taskId = taskId
  | .store (.saveWorkflow st _), .ok st' => st'.taskId = st.taskId
  | _, _ => True

/-- Whatever a call raises. -/
def about (taskId : String) (o : Option QueueDelivery) : Script Call Call.Ret PyError Unit :=
  ⟨fun _ _ _ => (), fun _ c => c.about taskId o, Call.names⟩

/-- A call other than a retry kills no row. -/
theorem dead_before {s : SQLiteStore} {t : Timestamp} {c : StoreCall} {id : Nat}
    (hc : ∀ d e b, c = .retryOrDeadLetter d e b → rowStatus taskId s d.id = none) (hr : ∀ n T m a r, c ≠ .replayDeadLetter n T m a r)
    (h : rowStatus taskId (c.apply s t).2 id = some .dead) : rowStatus taskId s id = some .dead := by
  have hmap : ∀ {s' : SQLiteStore} {g : QueueRow → QueueRow}, s'.queue.get id = (s.queue.get id).map g →
      (∀ row, s.queue.get id = some row → (g row).taskId = row.taskId ∧ ((g row).taskId = taskId → (g row).status = .dead → row.status = .dead)) →
      rowStatus taskId s' id = some .dead → rowStatus taskId s id = some .dead := by
    intro s' g hq hg h
    obtain ⟨row', hrow', ht, hst⟩ := rowStatus_some.mp h
    rw [hq] at hrow'
    obtain ⟨row, hrow, rfl⟩ := Option.map_eq_some_iff.mp hrow'
    obtain ⟨htask, hdead⟩ := hg row hrow
    exact rowStatus_some.mpr ⟨row, hrow, htask.symm.trans ht, hdead ht hst⟩
  have hinsert : ∀ {task : String} {n : Nat}, rowStatus taskId (s.insertQueue t task n) id = some .dead → rowStatus taskId s id = some .dead := by
    intro task n h
    rw [insertQueue_rowStatus] at h
    split at h
    · split at h <;> cases h
    · exact h
  cases c with
  | createWorkflow st n =>
    rcases he : s.createWorkflow t st n with ⟨r, s''⟩
    have h' : rowStatus taskId (s.createWorkflow t st n).2 id = some .dead := h
    rw [he] at h'
    rcases SQLiteStore.createWorkflow_cases he with ⟨-, -, rfl⟩ | ⟨-, -, -, hq, -⟩
    · exact h'
    · have h' : rowStatus taskId s'' id = some .dead := h'
      rw [rowStatus_queue hq] at h'
      exact hinsert h'
  | enqueue task n =>
    rcases he : s.enqueue t task n with ⟨r, s''⟩
    have h' : rowStatus taskId (s.enqueue t task n).2 id = some .dead := h
    rw [he] at h'
    rcases SQLiteStore.enqueue_cases he with ⟨_, -, -, -, -, -, rfl⟩ | ⟨-, -, -, rfl⟩ | ⟨-, -, rfl⟩
    · exact h'
    · exact hinsert h'
    · exact h'
  | claim worker leaseSeconds =>
    rcases he : s.claim t worker leaseSeconds with ⟨r, s''⟩
    have h' : rowStatus taskId (s.claim t worker leaseSeconds).2 id = some .dead := h
    rw [he] at h'
    obtain ⟨x, hx, hxt, hxd⟩ := rowStatus_some.mp h'
    rcases SQLiteStore.claim_row he id with ⟨hn, -⟩ | ⟨row, row', hr₀, hr', ht, hst, -⟩
    · have hx : s''.queue.get id = some x := hx
      rw [hn] at hx
      cases hx
    · have hx : s''.queue.get id = some x := hx
      rw [hr'] at hx
      cases hx
      refine rowStatus_some.mpr ⟨row, hr₀, ht.symm.trans hxt, ?_⟩
      rw [hst] at hxd
      split at hxd
      · cases hxd
      · rw [SQLiteStore.swept_status] at hxd
        split at hxd
        · cases hxd
        · exact hxd
  | extendLease delivery leaseSeconds =>
    refine hmap (SQLiteStore.extendLease_get delivery leaseSeconds id) (fun row _ => ?_) h
    split <;> exact ⟨rfl, fun _ hd => hd⟩
  | acknowledge n =>
    refine hmap (SQLiteStore.acknowledge_get n id) (fun row _ => ?_) h
    split
    · exact ⟨rfl, fun _ hd => by cases hd⟩
    · exact ⟨rfl, fun _ hd => hd⟩
  | retryOrDeadLetter delivery error base =>
    have hnone := hc delivery error base rfl
    rcases he : s.retryOrDeadLetter t delivery error base with ⟨r, s''⟩
    have h' : rowStatus taskId (s.retryOrDeadLetter t delivery error base).2 id = some .dead := h
    rw [he] at h'
    rcases SQLiteStore.retryOrDeadLetter_cases he with ⟨-, rfl⟩ | ⟨_, -, -, hg, -⟩
    · exact h'
    · refine hmap (hg id) (fun row hrow => ?_) h'
      split
      · rename_i e
        subst e
        refine ⟨rfl, fun ht _ => ?_⟩
        have hsome := rowStatus_some.mpr ⟨row, hrow, ht, rfl⟩
        rw [hnone] at hsome
        cases hsome
      · exact ⟨rfl, fun _ hd => hd⟩
  | replayDeadLetter n T m a r => exact absurd rfl (hr n T m a r)
  | _ =>
    rw [rowStatus_queue (StoreCall.apply_queue rfl s t)] at h
    exact h

theorem saved_labelled {s s' : SQLiteStore} {t : Timestamp} {v : Nat} {r : Except PyError WorkflowState} (h : Labelled s)
    (he : s.saveWorkflow t st v = (r, s')) : Labelled s' := by
  intro task row hr
  rcases SQLiteStore.saveWorkflow_cases he with ⟨_, -, -, -, hw, -⟩ | ⟨-, rfl, -⟩
  · rw [hw] at hr
    split at hr
    · rename_i e
      cases hr
      exact ⟨e.symm, rfl⟩
    · exact h task row hr
  · exact h task row hr

theorem created_labelled {s s' : SQLiteStore} {t : Timestamp} {n : Nat} {r : Except PyError WorkflowState} (h : Labelled s)
    (he : s.createWorkflow t st n = (r, s')) : Labelled s' := by
  intro task row hr
  rcases SQLiteStore.createWorkflow_cases he with ⟨-, -, rfl⟩ | ⟨-, -, hw, -⟩
  · exact h task row hr
  · rw [hw] at hr
    split at hr
    · rename_i e
      cases hr
      exact ⟨e, rfl⟩
    · exact h task row hr

theorem replayed_labelled {s s' : SQLiteStore} {t : Timestamp} {id n : Nat} {task actor reason : String} {r : Option WorkflowState}
    (h : Labelled s) (he : s.replayDeadLetter t id task n actor reason = (r, s')) : Labelled s' := by
  rcases SQLiteStore.replayDeadLetter_cases he with ⟨-, rfl⟩ | ⟨q, w, state, -, -, -, hw, hst, -, hws, -⟩
  · exact h
  · obtain ⟨htask, hver⟩ := h _ w hw
    intro T row hr
    rw [replay_workflow htask hw hst hws] at hr
    split at hr
    · rename_i e
      cases hr
      subst e
      rw [hst]
      exact ⟨htask, rfl⟩
    · exact h T row hr

/-- A call about a task files checkpoints under their tasks. -/
theorem apply_labelled {s : SQLiteStore} {c : StoreCall} (hc : (Call.store c).about T o) (h : Labelled s) (t : Timestamp) :
    Labelled (c.apply s t).2 := by
  have hkeeps : c.writesWorkflows = false → Labelled (c.apply s t).2 := by
    intro hno
    unfold Labelled
    rw [StoreCall.apply_workflows hno]
    exact h
  cases c with
  | createWorkflow st n => exact created_labelled h (Eq.refl (s.createWorkflow t st n))
  | saveWorkflow st v => exact saved_labelled h (Eq.refl (s.saveWorkflow t st v))
  | replayDeadLetter id task n actor reason => exact replayed_labelled h (Eq.refl (s.replayDeadLetter t id task n actor reason))
  | claim => exact hc.elim
  | _ => exact hkeeps rfl

/-- A row is changed by its id, and is not the task's. -/
theorem RowsAlike.settling {s s' : SQLiteStore} {n : Nat} {g : QueueRow → QueueRow} (hne : taskId ≠ T) (hg : ∀ row, (g row).taskId = row.taskId)
    (hn : ∃ row, s.queue.get n = some row ∧ row.taskId = T) (hq : ∀ id, s'.queue.get id = (s.queue.get id).map fun row => if id = n then g row else row) :
    RowsAlike taskId s s' := by
  refine .mapped hq (fun id row => ?_) fun id row hr ht => ?_
  · split
    · exact hg row
    · rfl
  · refine .inl (if_neg ?_)
    rintro rfl
    obtain ⟨row', hr', ht'⟩ := hn
    rw [hr] at hr'
    cases hr'
    exact hne (ht.symm.trans ht')

/-- The deliveries of another task, in a call about a task. -/
theorem apply_rows (hne : taskId ≠ T) {s : SQLiteStore} {t : Timestamp} {c : StoreCall} (hc : (Call.store c).about T o)
    (ho : ∀ d, o = some d → ∃ row, s.queue.get d.id = some row ∧ row.taskId = T) : RowsAlike taskId s (c.apply s t).2 := by
  cases c with
  | createWorkflow st n =>
    rcases he : s.createWorkflow t st n with ⟨r, s''⟩
    show RowsAlike taskId s (s.createWorkflow t st n).2
    rw [he]
    rcases SQLiteStore.createWorkflow_cases he with ⟨-, -, rfl⟩ | ⟨-, -, -, hq, -⟩
    · exact .refl ..
    · have hc : st.taskId = T := hc
      exact .inserted (fun e => hne (e.trans hc)) hq
  | enqueue task n =>
    obtain rfl : task = T := hc
    rcases he : s.enqueue t task n with ⟨r, s''⟩
    show RowsAlike taskId s (s.enqueue t task n).2
    rw [he]
    rcases SQLiteStore.enqueue_cases he with ⟨_, -, -, -, -, -, rfl⟩ | ⟨-, -, -, rfl⟩ | ⟨-, -, rfl⟩
    · exact .refl ..
    · exact .inserted hne rfl
    · exact .refl ..
  | extendLease delivery leaseSeconds =>
    refine .mapped (SQLiteStore.extendLease_get delivery leaseSeconds) (fun id row => ?_) fun id row _ _ => ?_
    · split <;> rfl
    · split
      · rename_i h
        exact .inr ⟨.inr h.2, .inr h.2⟩
      · exact .inl rfl
  | acknowledge n =>
    obtain ⟨d, hd, rfl⟩ := hc
    exact .settling (g := fun r => { r with status := .completed, leaseUntil := none, updatedAt := t }) hne (fun _ => rfl) (ho d hd)
      (SQLiteStore.acknowledge_get d.id)
  | retryOrDeadLetter d error base =>
    rcases he : s.retryOrDeadLetter t d error base with ⟨r, s''⟩
    show RowsAlike taskId s (s.retryOrDeadLetter t d error base).2
    rw [he]
    rcases SQLiteStore.retryOrDeadLetter_cases he with ⟨-, rfl⟩ | ⟨_, -, -, hg, -⟩
    · exact .refl ..
    · exact .settling hne (fun _ => by rfl) (ho d hc) hg
  | replayDeadLetter n task m actor reason =>
    obtain rfl : task = T := hc
    rcases he : s.replayDeadLetter t n task m actor reason with ⟨r, s''⟩
    show RowsAlike taskId s (s.replayDeadLetter t n task m actor reason).2
    rw [he]
    rcases SQLiteStore.replayDeadLetter_cases he with ⟨-, rfl⟩ | ⟨q, w, state, hq, ht, -, -, -, -, -, hg, -⟩
    · exact .refl ..
    · refine .mapped hg (fun id row => ?_) fun id row hr ht' => ?_
      · split <;> rfl
      · refine .inl (if_neg fun h => ?_)
        rw [← h.1, Table.get_key hr, hr] at hq
        cases hq
        exact hne (ht'.symm.trans ht)
  | claim => exact hc.elim
  | _ => exact .of_eq (StoreCall.apply_queue rfl s t)

/-- A call about another task, in the store. -/
theorem apply_about (hne : taskId ≠ T) {s : SQLiteStore} {t : Timestamp} {c : StoreCall} (hl : Labelled s) (hc : (Call.store c).about T o)
    (ho : ∀ d, o = some d → ∃ row, s.queue.get d.id = some row ∧ row.taskId = T) : Alike taskId s (c.apply s t).2 := by
  have hrows := apply_rows (t := t) hne hc ho
  have hw : c.writesWorkflows = false → (c.apply s t).2.stored taskId = s.stored taskId :=
    fun hw => stored_congr (StoreCall.apply_workflows hw s t)
  have ha := fun ha : c.writesApprovals = false => StoreCall.apply_approvals ha s t
  have hledger := fun hl : c.writesLedger = false => StoreCall.apply_ledger hl s t
  have hmute := fun hm : (Call.store c).mute = true => eventsOf_congr (StoreCall.apply_events hm s t) taskId
  cases c with
  | createWorkflow st n =>
    have hc : st.taskId = T := hc
    refine ⟨hrows, ?_, fun _ _ => by rw [hledger rfl], fun _ => by rw [ha rfl], ?_⟩
    · rcases he : s.createWorkflow t st n with ⟨r, s''⟩
      show SQLiteStore.stored (s.createWorkflow t st n).2 taskId = _
      rw [he]
      rcases SQLiteStore.createWorkflow_cases he with ⟨-, -, rfl⟩ | ⟨-, -, hget, -⟩
      · rfl
      · unfold SQLiteStore.stored SQLiteStore.getWorkflow
        rw [hget, if_neg fun e => hne (e.symm.trans hc)]
    · show SQLiteStore.eventsOf (s.createWorkflow t st n).2 taskId = _
      unfold SQLiteStore.createWorkflow
      split
      · rfl
      · exact eventsOf_other (fun e => hne (e.trans hc)) rfl
  | saveWorkflow st v =>
    have hc : st.taskId = T := hc
    have hevents : (s.saveWorkflow t st v).2.events = s.events := by
      simp only [SQLiteStore.saveWorkflow]
      split <;> rfl
    refine ⟨hrows, ?_, fun _ _ => by rw [hledger rfl], fun _ => by rw [ha rfl], eventsOf_congr hevents taskId⟩
    rcases he : s.saveWorkflow t st v with ⟨r, s''⟩
    show SQLiteStore.stored (s.saveWorkflow t st v).2 taskId = _
    rw [he]
    rcases SQLiteStore.saveWorkflow_cases he with ⟨_, -, -, -, hget, -⟩ | ⟨-, rfl, -⟩
    · unfold SQLiteStore.stored SQLiteStore.getWorkflow
      rw [hget, if_neg fun e => hne (e.trans hc)]
    · rfl
  | saveToolResult key task tool arguments result =>
    refine ⟨hrows, hw rfl, fun tool' arguments' => ?_, fun _ => by rw [ha rfl], hmute rfl⟩
    obtain ⟨t', a', rfl⟩ := hc
    show (s.toolResults.insertOrIgnore _).get _ = _
    rw [Table.get_insertOrIgnore, if_neg]
    exact fun e => hne (actionId_task e).symm
  | createApproval task key =>
    refine ⟨hrows, hw rfl, fun _ _ => by rw [hledger rfl], fun key' => ?_, hmute rfl⟩
    obtain rfl : task = T := hc
    show (s.createApproval t task key).approvals.get _ = _
    rw [SQLiteStore.createApproval_get, if_neg fun e => hne (Prod.mk.inj e).1.symm]
  | resolveApproval task key approved actor reason =>
    refine ⟨hrows, hw rfl, fun _ _ => by rw [hledger rfl], fun key' => ?_, hmute rfl⟩
    obtain rfl : task = T := hc
    rcases he : s.resolveApproval t task key approved actor reason with ⟨r, s''⟩
    show (s.resolveApproval t task key approved actor reason).2.approvals.get _ = _
    rw [he]
    rcases SQLiteStore.resolveApproval_cases he with ⟨_, -, -, -, hget, -⟩ | ⟨-, rfl, -⟩
    · show s''.approvals.get _ = _
      rw [hget, if_neg fun e => hne (Prod.mk.inj e).1]
    · rfl
  | recordEvent task e payload =>
    obtain rfl : task = T := hc
    exact ⟨hrows, hw rfl, fun _ _ => by rw [hledger rfl], fun _ => by rw [ha rfl], eventsOf_other hne rfl⟩
  | replayDeadLetter n task m actor reason =>
    obtain rfl : task = T := hc
    refine ⟨hrows, ?_, fun _ _ => by rw [hledger rfl], fun _ => by rw [ha rfl], ?_⟩ <;>
      rcases he : s.replayDeadLetter t n task m actor reason with ⟨r, s''⟩
    · show SQLiteStore.stored (s.replayDeadLetter t n task m actor reason).2 taskId = _
      rw [he]
      rcases SQLiteStore.replayDeadLetter_cases he with ⟨-, rfl⟩ | ⟨q, w, state, -, -, -, hw, hst, -, hws, -⟩
      · rfl
      · unfold SQLiteStore.stored SQLiteStore.getWorkflow
        rw [replay_workflow (hl _ w hw).1 hw hst hws, if_neg hne]
    · show SQLiteStore.eventsOf (s.replayDeadLetter t n task m actor reason).2 taskId = _
      rw [he]
      rcases SQLiteStore.replayDeadLetter_cases he with ⟨-, rfl⟩ | ⟨q, w, state, -, -, -, hw, hst, rfl, hws, -⟩
      · rfl
      · obtain ⟨payload, hev⟩ := replayDeadLetter_events he
        refine eventsOf_other (fun e => hne (e.trans ?_)) hev
        rw [hst]
        exact (hl _ w hw).1
  | claim => exact hc.elim
  | _ => exact ⟨hrows, hw rfl, fun _ _ => by rw [hledger rfl], fun _ => by rw [ha rfl], hmute rfl⟩

/-- What a program about a task leaves alone, whatever the task. -/
structure Unhanded (w₀ w : World) : Prop where
  labelled : Labelled w.store
  claimed : w.memory.claimed = w₀.memory.claimed

theorem calls_unhanded {c : Call} {r : Except PyError c.Ret} (hc : c.about T o) (hs : calls env 0 c w r w') (h : Unhanded w₀ w) :
    Unhanded w₀ w' := by
  obtain ⟨t, s', -, -, he, rfl⟩ := hs
  have hclaimed : (Entry.did 0 c r).claimed = none := by
    cases c with
    | store c => cases c <;> first | rfl | exact hc.elim
    | _ => rfl
  refine ⟨?_, (List.filterMap_cons_none hclaimed).trans h.claimed⟩
  have hkeep : s' = w.store → Labelled s' := fun e => e ▸ h.labelled
  cases c with
  | store c =>
    obtain rfl := congrArg Prod.snd he
    exact apply_labelled hc h.labelled t
  | clock | awaitHeartbeat => exact hkeep he.2
  | _ => exact hkeep he

/-- Where a program about task `T` is, for another task. -/
structure Beside (taskId T : String) (o : Option QueueDelivery) (w₀ w : World) : Prop extends Unhanded w₀ w where
  own : ∀ d, o = some d → ∃ row, w.store.queue.get d.id = some row ∧ row.taskId = T
  alike : Alike taskId w₀.store w.store

theorem calls_about (hne : taskId ≠ T) {c : Call} {r : Except PyError c.Ret} (hc : c.about T o) (hs : calls env 0 c w r w')
    (h : Beside taskId T o w₀ w) : Beside taskId T o w₀ w' := by
  refine ⟨calls_unhanded hc hs h.toUnhanded, ?_, ?_⟩
  · obtain ⟨t, s', -, -, he, rfl⟩ := hs
    intro d hd
    obtain ⟨row, hr, ht⟩ := h.own d hd
    rcases effect_row he d.id with ⟨x, x', hx, hx', hxt, -⟩ | ⟨hnone, -⟩
    · rw [hr] at hx
      cases hx
      exact ⟨x', hx', hxt.trans ht⟩
    · rw [hr] at hnone
      cases hnone
  · obtain ⟨t, s', -, -, he, rfl⟩ := hs
    have hkeep : s' = w.store → Alike taskId w₀.store s' := fun e => e ▸ h.alike
    cases c with
    | store c =>
      obtain rfl := congrArg Prod.snd he
      exact h.alike.trans (apply_about hne h.labelled hc h.own)
    | clock | awaitHeartbeat => exact hkeep he.2
    | _ => exact hkeep he

theorem answers_about {i : ThreadId} {c : Call} {r : Except PyError c.Ret} (hs : calls env i c w r w') (h : Labelled w.store) :
    c.names r := by
  obtain ⟨t, s', -, -, he, -⟩ := hs
  unfold Call.names
  split
  · rename_i task st
    exact h.task (Except.ok.inj (congrArg Prod.fst he))
  · rcases SQLiteStore.saveWorkflow_cases he with ⟨_, -, -, e, -⟩ | ⟨⟨_, e⟩, -⟩
    · cases e
      rfl
    · cases e
  · trivial

/-- A program about one task leaves the others alike at every call boundary. -/
theorem about_alike (hne : taskId ≠ T) {p : Py α} {Q : Except PyError α → Unit → Prop} (hp : Follows (about T o) p Q ())
    (h : Beside taskId T o w₀ w) : wpc (calls env 0) (Beside taskId T o w₀) p (fun _ w' => Beside taskId T o w₀ w') w :=
  wpc_mono (Follows.wpc (I := fun _ w => Beside taskId T o w₀ w) (fun _ _ _ _ _ hc hs hI =>
    ⟨answers_about hs hI.labelled, calls_about hne hc hs hI⟩) (fun _ _ hI => hI) hp h) fun _ _ _ ⟨_, _, hI⟩ => hI

theorem about_unhanded {p : Py α} {Q : Except PyError α → Unit → Prop} (hp : Follows (about T o) p Q ()) (h : Unhanded w₀ w) :
    wpc (calls env 0) (Unhanded w₀) p (fun _ w' => Unhanded w₀ w') w :=
  wpc_mono (Follows.wpc (I := fun _ w => Unhanded w₀ w) (fun _ _ _ _ _ hc hs hI =>
    ⟨answers_about hs hI.labelled, calls_unhanded hc hs hI⟩) (fun _ _ hI => hI) hp h) fun _ _ _ ⟨_, _, hI⟩ => hI

/-! ## Programs about a task -/

/-- The program is about the task, and what it returns satisfies `R`. -/
def About (T : String) (o : Option QueueDelivery) (p : Py α) (R : α → Prop) : Prop :=
  Follows (about T o) p (fun x _ => ∀ a, x = .ok a → R a) ()

namespace About

theorem bind {p : Py α} {f : α → Py β} {R : α → Prop} {R' : β → Prop} (hp : About T o p R) (hf : ∀ a, R a → About T o (f a) R') :
    About T o (p.bind f) R' :=
  Follows.bind hp (fun a _ h => hf a (h a rfl)) fun _ _ _ _ e => by cases e

theorem attempt {p : Py α} {f : Except PyError α → Py β} {R : α → Prop} {R' : β → Prop} (hp : About T o p R)
    (hf : ∀ x, About T o (f x) R') : About T o (p.attempt.bind f) R' :=
  Follows.attempt hp fun x _ _ => hf x

theorem call {c : Call} (hc : c.about T o) : About T o (.perform c) (fun _ => True) :=
  Follows.perform hc fun _ _ _ _ => trivial

theorem seq {c : Call} {f : c.Ret → Py β} {R : β → Prop} (hc : c.about T o) (hf : ∀ a, About T o (f a) R) :
    About T o ((Prog.perform c).bind f) R :=
  (call hc).bind fun a _ => hf a

theorem ret {a : α} {R : α → Prop} (h : R a) : About T o (.ret a) R := by
  rintro _ e
  cases e
  exact h

theorem raise {e : PyError} {R : α → Prop} : About T o (.raise e : Py α) R := nofun

theorem done {a : α} : About T o (.ret a) (fun _ => True) := ret trivial

end About

theorem save_about (h : st.taskId = T) : About T o (save st) (fun st' => st'.taskId = T) := by
  refine Follows.perform h fun r hr => ?_
  intro st' e
  subst e
  exact Eq.trans hr h

theorem record_about {task : String} (h : task = T) (e : EventType) (payload : Json) : About T o (record task e payload) (fun _ => True) :=
  .call h

theorem getWorkflow_about (task : String) : About T o (onStore (.getWorkflow task)) (fun x => ∀ st, x = some st → st.taskId = task) := by
  refine Follows.perform trivial fun r hr => ?_
  intro x e st hst
  subst e hst
  exact hr

theorem failWorkflow_about (h : st.taskId = T) (reason category : String) :
    About T o (failWorkflow st reason category) (fun st => st.taskId = T) :=
  (save_about (by exact h)).bind fun _ h' => (record_about h' ..).bind fun _ _ => .ret h'

theorem gatewayExecute_about (h : st.taskId = T) (tool : ToolName) (arguments : Arguments) :
    About T o (gatewayExecute anyBackend st tool arguments) (fun _ => True) := by
  unfold gatewayExecute
  cases validateAndDecide tool arguments with
  | error e => exact .raise
  | ok x =>
    show About T o (if _ then _ else _) _
    split
    · exact .raise
    · refine .seq trivial fun found => ?_
      cases found with
      | some cached => exact .done
      | none =>
        refine .seq trivial fun result => ?_
        split
        · exact .raise
        · exact .seq ⟨tool, x.1, by rw [← h]⟩ fun _ => .done

theorem executeTool_about (hb : rt.backend = anyBackend) (h : st.taskId = T) (tool : ToolName) (arguments : Arguments) :
    About T o (rt.executeTool st tool arguments) (fun st => st.taskId = T) := by
  unfold WorkflowRuntime.executeTool
  rw [hb]
  refine (gatewayExecute_about h tool arguments).attempt fun x => ?_
  cases x with
  | error e =>
    show About T o (if _ then _ else _) _
    split
    · exact (save_about (by exact h)).bind fun _ h' => .seq h' fun _ => .raise
    · split
      · exact failWorkflow_about h _ _
      · exact .raise
  | ok r => exact (save_about (by exact h)).bind fun _ h' => .seq h' fun _ => .ret h'

theorem resumeApprovedAction_about (hb : rt.backend = anyBackend) (h : st.taskId = T) (pending : PendingAction) :
    About T o (rt.resumeApprovedAction st pending) (fun st => st.taskId = T) := by
  refine .seq trivial fun status => ?_
  split
  · exact .ret h
  · exact .seq h fun _ => executeTool_about hb h _ _

open WorkflowRuntime in
theorem useTool_about (hb : rt.backend = anyBackend) (h : st.taskId = T) (decision : AgentDecision) (tool : ToolName) :
    About T o (rt.useTool T st decision tool) (fun st => st.taskId = T) := by
  unfold useTool
  cases validateAndDecide tool decision.arguments.modelDump with
  | error e => exact .raise
  | ok x =>
    simp only [Prog.bind_def, Prog.ofExcept_ok, Prog.ret_bind]
    split
    · exact (save_about (by exact h)).bind fun _ h' => .seq rfl fun _ => .ret h'
    · refine (save_about (by exact h)).bind fun st' h' => ?_
      unfold runDecided
      split
      · exact .seq rfl fun _ => failWorkflow_about h' _ _
      · split
        · exact (save_about (by exact h')).bind fun _ h'' => .seq rfl fun _ => .seq rfl fun _ => .ret h''
        · split
          · exact .seq rfl fun _ => executeTool_about hb h' _ _
          · exact executeTool_about hb h' _ _

theorem applyDecision_about (he : rt.engine = anyEngine) (hb : rt.backend = anyBackend) (h : st.taskId = T) (decision : AgentDecision) :
    About T o (rt.applyDecision T st decision) (fun st => st.taskId = T) := by
  unfold WorkflowRuntime.applyDecision
  rw [he]
  refine .seq trivial fun usage => ?_
  refine (record_about rfl ..).bind fun _ _ => ?_
  simp only
  split
  · exact (save_about (by exact h)).bind fun _ h' => .seq rfl fun _ => .ret h'
  · exact failWorkflow_about (by exact h) _ _
  · split
    · exact .raise
    · exact useTool_about hb (by exact h) _ _

theorem decideNext_about (he : rt.engine = anyEngine) (hb : rt.backend = anyBackend) (h : st.taskId = T) :
    About T o (rt.decideNext T st) (fun st => st.taskId = T) := by
  unfold WorkflowRuntime.decideNext
  refine (save_about (by exact h)).bind fun st' h' => .seq rfl fun _ => ?_
  rw [he]
  refine About.attempt (.call trivial) fun x => ?_
  cases x with
  | error e =>
    show About T o (if _ then _ else _) _
    split
    · exact (save_about (by exact h')).bind fun _ _ => .seq rfl fun _ => .raise
    · exact .raise
  | ok decision => exact applyDecision_about he hb h' decision

theorem process_about (he : rt.engine = anyEngine) (hb : rt.backend = anyBackend) (T : String) :
    About T o (rt.process T) (fun st => st.taskId = T) := by
  have hrequired : About T o (requiredState T) (fun st => st.taskId = T) := by
    refine (getWorkflow_about T).bind fun found hfound => ?_
    cases found with
    | none => exact .raise
    | some st => exact .ret (hfound st rfl)
  refine hrequired.bind fun st h => ?_
  split
  · exact .ret h
  · split
    · exact resumeApprovedAction_about hb h _
    · exact decideNext_about he hb h

/-- The end of a workflow whose delivery failed. -/
theorem endedBy_about (h : st.taskId = T) (status : WorkflowStatus) (error : String) (e : EventType) (payload : Json) :
    About T o ((save { st with status, lastError := some error }).bind fun state => record state.taskId e payload) (fun _ => True) :=
  (save_about (by exact h)).bind fun _ h' => record_about h' ..

theorem handleDelivery_about (he : rt.engine = anyEngine) (hb : rt.backend = anyBackend) (d : QueueDelivery) :
    About d.taskId (some d) (handleDelivery rt config d) (fun _ => True) := by
  have hprocess : About d.taskId (some d) (processDelivery rt config d) (fun _ => True) := by
    refine (process_about he hb d.taskId).bind fun st h => .seq ⟨d, rfl, rfl⟩ fun _ => ?_
    split
    · exact .seq h fun _ => .done
    · exact .done
  refine hprocess.attempt fun x => ?_
  cases x with
  | ok u => exact .done
  | error e =>
    show About d.taskId (some d) (if _ then _ else if _ then _ else _) _
    split
    · refine .seq rfl fun dead => ?_
      split
      · refine (getWorkflow_about d.taskId).bind fun found hfound => ?_
        cases found with
        | none => exact .done
        | some st =>
          show About d.taskId (some d) (if _ then _ else _) _
          split
          · exact .done
          · exact endedBy_about (hfound st rfl) ..
      · exact .done
    · split
      · refine .seq ⟨d, rfl, rfl⟩ fun _ => (getWorkflow_about d.taskId).bind fun found hfound => ?_
        cases found with
        | none => exact .done
        | some st =>
          show About d.taskId (some d) (if _ then _ else _) _
          split
          · exact .done
          · exact endedBy_about (hfound st rfl) ..
      · exact .raise

theorem createIncident_about (T goal scenarioId : String) : About T none (createIncident config T goal scenarioId) (fun _ => True) :=
  .seq trivial fun _ => .call rfl

theorem approve_about (T actor : String) (reason : Option String) : About T none (approve config T actor reason) (fun _ => True) := by
  have hrequired : About T none (required T) (fun st => st.taskId = T) := by
    refine (getWorkflow_about T).bind fun found hfound => ?_
    cases found with
    | none => exact .raise
    | some st => exact .ret (hfound st rfl)
  refine hrequired.bind fun st h => ?_
  split
  · exact .seq rfl fun _ => (save_about (by exact h)).bind fun _ _ => .seq rfl fun _ => .seq rfl fun _ => .done
  · exact .raise

end AgentResilience
