/-
  AgentResilience.AwsReplay — dead-letter replay on the AWS store. The SQLite store looks for
  the dead row first; here the receipt is used last, after the checkpoint was rewritten and a
  message sent, and is never compared with the task.

  - `AwsFiled`: checkpoints as the store writes them; `awsOp_filed`: every method keeps it,
    with any failure of a call and wherever its process dies.
  - `replay_served`: what a replay of a stored workflow does, whatever the dead-letter queue has.
  - `aws_replay_iff`: when a replay validates its target.
-/
import AgentResilience.StoreAgreement

namespace AgentResilience

open Interaction
open Interaction.Prog (attempt throw makes_bind makes_attempt makes_perform)
open AWSDurableStore (workflowPk stateKey approvalKey resultKey eventKey messageBody)

/-! ## The items of checkpoints -/

/-- A checkpoint's item holds the state of its task, under the state's version. -/
def Item.files (taskId : String) (item : Item) : Prop :=
  ∃ st, item.stateJson = some st ∧ item.version = some st.version ∧ st.taskId = taskId

def AwsFiled (a : AwsState) : Prop := ∀ taskId item, a.table (stateKey taskId) = some item → item.files taskId

/-- The call writes no checkpoint's item, or writes one as it should be. -/
def DurableCall.files : DurableCall → Prop
  | putItem key item _ => ∀ taskId, key = stateKey taskId → item.files taskId
  | updateItem key (.checkpoint state next _) _ => ∀ taskId, key = stateKey taskId → state.taskId = taskId ∧ next = state.version
  | updateItem key (.resolution ..) _ => ∀ taskId, key ≠ stateKey taskId
  | _ => True

variable {a a' : AwsState} {taskId : String} {st : WorkflowState}

theorem awsFiled_empty : AwsFiled .empty := by
  intro taskId item h
  cases h

theorem AwsFiled.write (h : AwsFiled a) {key : ItemKey} {item : Item} {table : Items ItemKey Item}
    (hget : ∀ k, table k = if k = key then some item else a.table k) (hitem : ∀ taskId, key = stateKey taskId → item.files taskId) :
    AwsFiled { a with table } := by
  intro taskId x hx
  have hx : table (stateKey taskId) = some x := hx
  rw [hget] at hx
  split at hx
  · rename_i e
    cases hx
    exact hitem taskId e.symm
  · exact h taskId x hx

/-- A write that takes effect or not. -/
theorem filed_written (h : AwsFiled a) {key : ItemKey} {item : Item} {condition : Option Item → Bool}
    (hitem : ∀ taskId, key = stateKey taskId → item.files taskId) {r : Except PyError Unit}
    (hs : WriteEffect (a.table.put key item condition) a r a') : AwsFiled a' := by
  cases hp : a.table.put key item condition with
  | none =>
    rw [hp] at hs
    obtain ⟨-, rfl⟩ := hs
    exact h
  | some table =>
    rw [hp] at hs
    obtain ⟨-, rfl⟩ := hs
    exact h.write (Items.put_some hp).2 hitem

theorem call_filed (c : DurableCall) (a : AwsState) (r : Except PyError c.Ret) (a' : AwsState) (hc : c.files)
    (hs : aws anyFault c a r a') (h : AwsFiled a) : AwsFiled a' := by
  rcases hs with hs | ⟨e, -, -, rfl⟩
  · cases c with
    | getItem key => obtain ⟨-, rfl⟩ := hs; exact h
    | putItem key item condition => exact filed_written h hc hs
    | updateItem key update condition =>
      refine filed_written h (fun taskId e => ?_) hs
      cases update with
      | checkpoint state next updated =>
        obtain ⟨ht, rfl⟩ := hc taskId e
        exact ⟨state, rfl, rfl, ht⟩
      | resolution => exact absurd e (hc taskId)
    | sendMessage name body =>
      obtain ⟨-, -, messages, -, -, rfl⟩ := hs
      cases name <;> exact h
    | deleteMessage name receipt =>
      rcases hs with ⟨-, rfl⟩ | ⟨-, -, rfl⟩
      · cases name <;> exact h
      · exact h
    | utcNow | uuid4 => obtain ⟨-, rfl⟩ := hs; exact h
  · exact h

/-! ## The methods file checkpoints -/

theorem orAwsError_makes {α : Type} {operation : String} {p : AwsPy α} {φ : DurableCall → Prop} (hp : p.Makes φ) :
    (orAwsError operation p).Makes φ := by
  refine makes_bind (makes_attempt hp) fun r => ?_
  split <;> trivial

theorem recordEvent_files (taskId : String) (e : EventType) (payload : Json) :
    (AWSDurableStore.recordEvent taskId e payload).Makes DurableCall.files := by
  refine makes_bind (makes_perform trivial) fun created => ?_
  refine makes_bind (makes_perform trivial) fun hex => ?_
  exact orAwsError_makes (makes_perform fun t e => absurd e (eventKey_stateKey _ _ _))

theorem getWorkflow_files (taskId : String) : (AWSDurableStore.getWorkflow taskId).Makes DurableCall.files := by
  refine makes_bind (orAwsError_makes (makes_perform trivial)) fun item => ?_
  cases item with
  | none => trivial
  | some item =>
    simp only
    split <;> trivial

theorem saveWorkflow_files (state : WorkflowState) (v : Nat) :
    (AWSDurableStore.saveWorkflow state v).Makes DurableCall.files := by
  refine makes_bind (makes_perform trivial) fun updated => ?_
  refine makes_bind (makes_attempt (makes_perform fun t e => ⟨stateKey_inj.mp e, rfl⟩)) fun r => ?_
  split
  · split <;> trivial
  · trivial
  · trivial

theorem createWorkflow_files (state : WorkflowState) (n : Nat) :
    (AWSDurableStore.createWorkflow state n).Makes DurableCall.files := by
  refine makes_bind (makes_attempt (makes_perform fun t e => ⟨state, rfl, rfl, stateKey_inj.mp e⟩)) fun r => ?_
  split
  · split <;> trivial
  · trivial
  · refine makes_bind (recordEvent_files ..) fun _ => ?_
    exact makes_bind (orAwsError_makes (makes_perform trivial)) fun _ => trivial

theorem ledgerCall_files (c : LedgerCall) (held : Timestamp) : (c.onAWS held).Makes DurableCall.files := by
  cases c with
  | createWorkflow state n => exact createWorkflow_files state n
  | getWorkflow taskId => exact getWorkflow_files taskId
  | saveWorkflow state v => exact saveWorkflow_files _ v
  | createApproval taskId actionId =>
    refine makes_bind (makes_perform trivial) fun created => ?_
    refine makes_bind (makes_attempt (makes_perform fun t e => absurd e.symm (stateKey_approvalKey _ _ _))) fun r => ?_
    split
    · split <;> trivial
    · trivial
    · trivial
  | resolveApproval taskId actionId approved actor reason =>
    refine makes_bind (makes_perform trivial) fun resolved => ?_
    refine makes_bind (makes_attempt (makes_perform fun t e => absurd e.symm (stateKey_approvalKey _ _ _))) fun r => ?_
    split
    · split <;> trivial
    · trivial
    · trivial
  | approvalStatus taskId actionId =>
    refine makes_bind (orAwsError_makes (makes_perform trivial)) fun item => ?_
    split
    · trivial
    · split <;> trivial
  | saveToolResult key taskId tool arguments result =>
    refine makes_bind (makes_perform trivial) fun created => ?_
    refine makes_bind (makes_attempt (makes_perform fun t e => absurd e.symm (stateKey_resultKey _ _))) fun r => ?_
    split
    · split <;> trivial
    · trivial
    · trivial
  | getToolResult key arguments =>
    refine makes_bind (orAwsError_makes (makes_perform trivial)) fun item => ?_
    split
    · trivial
    · split
      · trivial
      · split
        · trivial
        · split <;> trivial

theorem replayDeadLetter_files (self : AWSDurableStore) (deliveryId taskId : String) (n : Nat) (actor reason : String) :
    (self.replayDeadLetter deliveryId taskId n actor reason).Makes DurableCall.files := by
  unfold AWSDurableStore.replayDeadLetter
  split
  · trivial
  · refine makes_bind (getWorkflow_files taskId) fun o => ?_
    split
    · trivial
    · refine makes_bind (saveWorkflow_files ..) fun st => ?_
      refine makes_bind (orAwsError_makes (makes_bind (makes_perform trivial) fun _ => makes_perform trivial)) fun _ => ?_
      exact makes_bind (recordEvent_files ..) fun _ => trivial

/-- The states of the AWS store: its methods run, fail and die anywhere, and deliveries come
    and go in its queues. -/
inductive AwsReach : AwsState → Prop
  | init : AwsReach .empty
  | ledger {a a' : AwsState} (h : AwsReach a) (c : LedgerCall) (held : Timestamp)
      (hr : Partial (aws anyFault) (c.onAWS held) a a') : AwsReach a'
  | record {a a' : AwsState} (h : AwsReach a) (taskId : String) (e : EventType) (payload : Json)
      (hr : Partial (aws anyFault) (AWSDurableStore.recordEvent taskId e payload) a a') : AwsReach a'
  | replay {a a' : AwsState} (h : AwsReach a) (self : AWSDurableStore) (deliveryId taskId : String) (n : Nat)
      (actor reason : String)
      (hr : Partial (aws anyFault) (self.replayDeadLetter deliveryId taskId n actor reason) a a') : AwsReach a'
  | queues {a : AwsState} (h : AwsReach a) (work dead : SqsQueue) : AwsReach { a with work, dead }

theorem awsReach_filed (h : AwsReach a) : AwsFiled a := by
  induction h with
  | init => exact awsFiled_empty
  | ledger _ c held hr ih => exact hr.keeps call_filed (ledgerCall_files c held) ih
  | record _ taskId e payload hr ih => exact hr.keeps call_filed (recordEvent_files ..) ih
  | replay _ self deliveryId taskId n actor reason hr ih => exact hr.keeps call_filed (replayDeadLetter_files ..) ih
  | queues _ work dead ih => exact ih

/-! ## What a replay does -/

def AwsState.checkpoint (a : AwsState) (taskId : String) : Option WorkflowState :=
  (a.table (stateKey taskId)).bind (·.stateJson)

/-- `body.get("payload", {})`. -/
def SqsMessage.payload (m : SqsMessage) : Json := (m.body.field "payload").getD (.obj [])

/-- The message is for the task. -/
def SqsMessage.isFor (m : SqsMessage) (taskId : String) : Prop := m.body.field "task_id" = some (.str taskId)

theorem AwsFiled.checkpoint_none (h : AwsFiled a) : a.checkpoint taskId = none ↔ a.table (stateKey taskId) = none := by
  unfold AwsState.checkpoint
  cases hi : a.table (stateKey taskId) with
  | none => simp
  | some item =>
    obtain ⟨st, hst, -⟩ := h taskId item hi
    simp [hst]

theorem AwsFiled.checkpoint_some (h : AwsFiled a) (hst : a.checkpoint taskId = some st) :
    ∃ item, a.table (stateKey taskId) = some item ∧ item.stateJson = some st ∧ item.version = some st.version ∧
      st.taskId = taskId := by
  unfold AwsState.checkpoint at hst
  obtain ⟨item, hi, hs⟩ := Option.bind_eq_some_iff.mp hst
  obtain ⟨st', hst', hv, ht⟩ := h taskId item hi
  rw [hs] at hst'
  cases hst'
  exact ⟨item, hi, hs, hv, ht⟩

/-- The checkpoint of a task, put into the table. -/
theorem checkpoint_written {key : ItemKey} {item : Item} {table : Items ItemKey Item}
    (hget : ∀ k, table k = if k = key then some item else a.table k) :
    ({ a with table } : AwsState).checkpoint taskId = if stateKey taskId = key then item.stateJson else a.checkpoint taskId := by
  show (table (stateKey taskId)).bind (·.stateJson) = _
  rw [hget]
  split <;> rfl

/-- A stored checkpoint, requeued under the next version. -/
def Requeued (taskId : String) (st : WorkflowState) (a : AwsState) : Prop :=
  ∃ st', a.checkpoint taskId = some st' ∧ st'.status = .queued ∧ st'.version = st.version + 1

theorem recordEvent_requeued (h : Requeued taskId st a) (t : String) (e : EventType) (payload : Json) :
    wp (aws noFaults) (AWSDurableStore.recordEvent t e payload)
      (fun o a' => ∃ u, o = .ok u ∧ Requeued taskId st a' ∧ a'.work = a.work ∧ a'.dead = a.dead) a := by
  refine wp_bind.mpr (wp_utcNow fun created => ?_)
  refine wp_bind.mpr (wp_served fun r a₁ hs => ?_)
  obtain ⟨⟨hex, rfl⟩, rfl⟩ := hs
  refine wp_orAwsError (wp_putItem (fun table _ hget => ⟨(), rfl, ?_, rfl, rfl⟩) fun hc => by cases hc)
  obtain ⟨st', hst', hq, hv⟩ := h
  exact ⟨st', by rw [checkpoint_written hget, if_neg (Ne.symm (eventKey_stateKey _ _ _))]; exact hst', hq, hv⟩

/-- The new message of a replay. -/
def Sent (taskId : String) (n : Nat) (a a' : AwsState) : Prop :=
  ∃ receipt, a'.work.rows = a.work.rows ++ [⟨receipt, messageBody taskId n⟩]

theorem getWorkflow_served (h : AwsFiled a) (taskId : String) : wp (aws noFaults) (AWSDurableStore.getWorkflow taskId)
    (fun o a' => ∃ x, o = .ok x ∧ x = a.checkpoint taskId ∧ a' = a) a := by
  refine wp_bind.mpr (wp_mono (wp_orAwsError (R := fun x a' => x = a.table (stateKey taskId) ∧ a' = a)
    (wp_getItem ⟨_, rfl, rfl, rfl⟩)) fun o a' hq => ?_)
  obtain ⟨x, rfl, rfl, rfl⟩ := hq
  unfold AwsState.checkpoint
  cases hi : a'.table (stateKey taskId) with
  | none => exact ⟨none, rfl, rfl, rfl⟩
  | some item =>
    obtain ⟨st, hst, -⟩ := h taskId item hi
    simp only [after, hst]
    exact ⟨some st, rfl, hst.symm, rfl⟩

theorem saveWorkflow_requeues (h : AwsFiled a) (hst : a.checkpoint taskId = some st) :
    wp (aws noFaults) (AWSDurableStore.saveWorkflow { st with status := .queued, lastError := none } st.version)
      (fun o a' => ∃ st', o = .ok st' ∧ Requeued taskId st a' ∧ a'.work = a.work ∧ a'.dead = a.dead) a := by
  obtain ⟨item, hi, -, hversion, htask⟩ := h.checkpoint_some hst
  subst htask
  refine wp_bind.mpr (wp_utcNow fun updated => ?_)
  refine wp_bind.mpr (wp_attempt.mpr (wp_updateItem (fun table _ hget => ?_) fun hc => ?_))
  · have hcheck := @checkpoint_written a st.taskId _ _ table hget
    rw [if_pos rfl] at hcheck
    exact ⟨_, rfl, ⟨_, hcheck, rfl, rfl⟩, rfl, rfl⟩
  · simp [Condition.holds, hi, hversion] at hc

/-- The message goes out, and the receipt is deleted if a message has it. -/
theorem sendAndDelete_served (h : Requeued taskId st a) (deliveryId : String) (n : Nat) :
    wp (aws noFaults) (orAwsError "replay dead letter" (do
        let _ ← onDynamo (.sendMessage .work (messageBody taskId n))
        onDynamo (.deleteMessage .dead deliveryId)))
      (fun o a' => Requeued taskId st a' ∧ Sent taskId n a a' ∧
        (o = .ok () ∧ a'.dead = a.dead.delete deliveryId ∨ (∃ e, o = .error e) ∧ a.dead.get deliveryId = none)) a := by
  refine wp_bind.mpr (wp_attempt.mpr (wp_bind.mpr (wp_served fun r a₁ hs => ?_)))
  obtain ⟨messageId, receipt, messages, hi, rfl, rfl⟩ := hs
  have hsent : Sent taskId n a (a.withQueue messages .work) := ⟨receipt, Table.insert_rows hi⟩
  refine wp_served fun r a₂ hs => ?_
  rcases hs with ⟨rfl, rfl⟩ | ⟨hnone, ⟨code, rfl⟩, rfl⟩
  · exact ⟨h, hsent, .inl ⟨rfl, rfl⟩⟩
  · exact ⟨h, hsent, .inr ⟨⟨_, rfl⟩, hnone⟩⟩

/-- A replay of a stored workflow requeues it and sends a new message, and then tries to delete
    the receipt from the dead-letter queue. -/
theorem replay_served (h : AwsFiled a) (self : AWSDurableStore) (hurl : self.dlqUrl ≠ none)
    (hst : a.checkpoint taskId = some st) (deliveryId : String) (n : Nat) (actor reason : String) :
    wp (aws noFaults) (self.replayDeadLetter deliveryId taskId n actor reason) (fun o a' =>
      Requeued taskId st a' ∧ Sent taskId n a a' ∧
        ((∃ st', o = .ok (some st')) ∧ a'.dead = a.dead.delete deliveryId ∨
          (∃ e, o = .error e) ∧ a.dead.get deliveryId = none)) a := by
  obtain ⟨url, hurl⟩ := Option.ne_none_iff_exists'.mp hurl
  unfold AWSDurableStore.replayDeadLetter
  rw [hurl]
  refine wp_seq (getWorkflow_served h taskId) fun o a₁ hq => ?_
  obtain ⟨rfl, rfl⟩ := hq
  rw [hst]
  refine wp_seq (saveWorkflow_requeues h hst) fun st₂ a₂ hq => ?_
  obtain ⟨hre, hwork, hdead⟩ := hq
  refine wp_bind.mpr (wp_mono (sendAndDelete_served hre deliveryId n) fun o a₃ hq => ?_)
  obtain ⟨hre₃, ⟨receipt, hsent⟩, hcase⟩ := hq
  have hsent₃ : Sent taskId n a₁ a₃ := ⟨receipt, by rw [hsent, hwork]⟩
  rcases hcase with ⟨rfl, hdel⟩ | ⟨⟨e, rfl⟩, hnone⟩
  · refine wp_seq (recordEvent_requeued hre₃ _ _ _) fun _ a₄ hq => ?_
    obtain ⟨hre₄, hwork₄, hdead₄⟩ := hq
    refine ⟨hre₄, ?_, .inl ⟨⟨st₂, rfl⟩, ?_⟩⟩
    · obtain ⟨receipt, hsent⟩ := hsent₃
      exact ⟨receipt, by rw [hwork₄, hsent]⟩
    · rw [hdead₄, hdel, hdead]
  · exact ⟨hre₃, hsent₃, .inr ⟨⟨e, rfl⟩, by rw [← hdead]; exact hnone⟩⟩

/-- Without a dead-letter queue, or without the workflow, a replay does nothing, whatever fails. -/
theorem replay_idle (h : AwsFiled a) {self : AWSDurableStore} (hno : self.dlqUrl = none ∨ a.checkpoint taskId = none)
    (deliveryId : String) (n : Nat) (actor reason : String) :
    wp (aws anyFault) (self.replayDeadLetter deliveryId taskId n actor reason)
      (fun o a' => (o = .ok none ∨ ∃ e, o = .error e) ∧ a' = a) a := by
  unfold AWSDurableStore.replayDeadLetter
  split
  · exact ⟨.inl rfl, rfl⟩
  · rename_i url hurl
    have hnone := h.checkpoint_none.mp (hno.resolve_left (by simp [hurl]))
    refine wp_bind.mpr (wp_bind.mpr (wp_bind.mpr (wp_attempt.mpr (wp_perform.mpr fun r a₁ hs => ?_))))
    rcases hs with ⟨rfl, rfl⟩ | ⟨e, -, rfl, rfl⟩
    · rw [hnone]
      exact ⟨.inl rfl, rfl⟩
    · simp only [after]
      split
      · rename_i heq; cases heq
      · exact ⟨.inr ⟨_, rfl⟩, rfl⟩
      · exact ⟨.inr ⟨_, rfl⟩, rfl⟩

/-! ## When a replay validates its target -/

/-- The dead-letter queue holds the message with this receipt for the task. -/
def HoldsDead (self : AWSDurableStore) (a : AwsState) (deliveryId taskId : String) (m : SqsMessage) : Prop :=
  self.dlqUrl ≠ none ∧ a.dead.get deliveryId = some m ∧ m.isFor taskId

/-- The checkpoint, both queues and the audit log are as they were. -/
structure Untouched (taskId : String) (a a' : AwsState) : Prop where
  checkpoint : a'.checkpoint taskId = a.checkpoint taskId
  work : a'.work = a.work
  dead : a'.dead = a.dead
  events : ∀ t e, a'.table (eventKey t e) = a.table (eventKey t e)

/-- The message is back in the work queue with its payload, and the workflow is queued. -/
structure MovedBack (taskId deliveryId : String) (m : SqsMessage) (a a' : AwsState) : Prop where
  queued : ∃ st, a'.checkpoint taskId = some st ∧ st.status = .queued
  gone : ∀ receipt, a'.dead.get receipt = if receipt = deliveryId then none else a.dead.get receipt
  back : ∃ m', a'.work.rows = a.work.rows ++ [m'] ∧ m'.isFor taskId ∧ m'.payload = m.payload

/-- A replay request changes nothing if the dead-letter queue holds no such message, whatever
    AWS answers; and moves the message back if it holds one and AWS serves every call. -/
def ValidatesTarget (self : AWSDurableStore) (a : AwsState) (deliveryId taskId : String) (n : Nat) (actor reason : String) :
    Prop :=
  ((∀ m, ¬ HoldsDead self a deliveryId taskId m) → ∀ o a',
    Runs (aws anyFault) (self.replayDeadLetter deliveryId taskId n actor reason) a o a' →
      (o = .ok none ∨ ∃ e, o = .error e) ∧ Untouched taskId a a') ∧
  ∀ m, HoldsDead self a deliveryId taskId m → ∀ o a',
    Runs (aws noFaults) (self.replayDeadLetter deliveryId taskId n actor reason) a o a' →
      (∃ st, o = .ok (some st)) ∧ MovedBack taskId deliveryId m a a'

/-- The new message is for the task and has no payload. -/
theorem messageBody_fields (taskId : String) (n : Nat) (receipt : String) :
    SqsMessage.isFor ⟨receipt, messageBody taskId n⟩ taskId ∧ SqsMessage.payload ⟨receipt, messageBody taskId n⟩ = .obj [] :=
  ⟨rfl, rfl⟩

theorem aws_serves (c : DurableCall) (a : AwsState) (r : Except PyError c.Ret) (a' : AwsState) (h : aws noFaults c a r a') :
    aws anyFault c a r a' := by
  rcases h with h | ⟨e, hf, -⟩
  · exact .inl h
  · exact hf.elim

/-- A replay validates its target exactly if there is no dead-letter queue, or the workflow is
    unknown and no message is for it, or the message is for a known one and has no payload. -/
theorem aws_replay_iff (h : AwsFiled a) (self : AWSDurableStore) (deliveryId taskId : String) (n : Nat) (actor reason : String) :
    ValidatesTarget self a deliveryId taskId n actor reason ↔
      (self.dlqUrl ≠ none →
        ((∀ m, ¬ HoldsDead self a deliveryId taskId m) → a.checkpoint taskId = none) ∧
        ∀ m, HoldsDead self a deliveryId taskId m → a.checkpoint taskId ≠ none ∧ m.payload = .obj []) := by
  have hrun := runs_exists aws_answers (self.replayDeadLetter deliveryId taskId n actor reason) a
  obtain ⟨o, a', hr⟩ := hrun
  constructor
  · intro hv hurl
    refine ⟨fun hno => ?_, fun m hm => ?_⟩
    · by_contra hne
      obtain ⟨st, hst⟩ := Option.ne_none_iff_exists'.mp hne
      obtain ⟨⟨st', hst', -, hver⟩, -⟩ := wp_sound (replay_served h self hurl hst deliveryId n actor reason) hr
      have hsame := (hv.1 hno o a' (hr.mono aws_serves)).2.checkpoint
      rw [hst', hst] at hsame
      cases hsame
      omega
    · obtain ⟨⟨st, ho⟩, hmoved⟩ := hv.2 m hm o a' hr
      have hne : a.checkpoint taskId ≠ none := by
        intro hnone
        obtain ⟨hres, -⟩ := wp_sound (replay_idle h (.inr hnone) deliveryId n actor reason) (hr.mono aws_serves)
        rw [ho] at hres
        rcases hres with hres | ⟨e, hres⟩ <;> cases hres
      obtain ⟨st', hst'⟩ := Option.ne_none_iff_exists'.mp hne
      obtain ⟨-, ⟨receipt, hsent⟩, -⟩ := wp_sound (replay_served h self hurl hst' deliveryId n actor reason) hr
      obtain ⟨m', hback, -, hpayload⟩ := hmoved.back
      rw [hsent] at hback
      obtain rfl : (⟨receipt, messageBody taskId n⟩ : SqsMessage) = m' := by simpa using hback
      exact ⟨hne, by rw [← hpayload]; exact (messageBody_fields taskId n receipt).2⟩
  · intro hcond
    refine ⟨fun hno o a' hr => ?_, fun m hm o a' hr => ?_⟩
    · have hidle : self.dlqUrl = none ∨ a.checkpoint taskId = none := by
        by_cases hurl : self.dlqUrl = none
        · exact .inl hurl
        · exact .inr ((hcond hurl).1 hno)
      obtain ⟨hres, rfl⟩ := wp_sound (replay_idle h hidle deliveryId n actor reason) hr
      exact ⟨hres, rfl, rfl, rfl, fun _ _ => rfl⟩
    · obtain ⟨hne, hpayload⟩ := (hcond hm.1).2 m hm
      obtain ⟨st, hst⟩ := Option.ne_none_iff_exists'.mp hne
      obtain ⟨⟨st', hst', hq, -⟩, ⟨receipt, hsent⟩, hcase⟩ := wp_sound (replay_served h self hm.1 hst deliveryId n actor reason) hr
      rcases hcase with ⟨hok, hdel⟩ | ⟨-, hnone⟩
      · refine ⟨hok, ⟨st', hst', hq⟩, fun r => ?_, ⟨_, hsent, ?_, ?_⟩⟩
        · rw [hdel]
          exact Table.get_delete ..
        · exact (messageBody_fields taskId n receipt).1
        · rw [hpayload]
          exact (messageBody_fields taskId n receipt).2
      · rw [hm.2.1] at hnone
        cases hnone

/-- A dead-lettered incident and its message. -/
def deadLetteredIncident : AwsState where
  table k := if k = stateKey "t" then
    some { version := some 0, stateJson := some { newIncident with status := .deadLettered } } else none
  work := .empty
  dead := ⟨[⟨"receipt", messageBody "t" 5⟩], by simp⟩

theorem deadLetteredIncident_filed : AwsFiled deadLetteredIncident := by
  intro taskId item h
  unfold deadLetteredIncident at h
  simp only at h
  split at h
  · rename_i e
    cases h
    exact ⟨_, rfl, rfl, (stateKey_inj.mp e).symm⟩
  · cases h

/-- Its replay moves the message back. -/
theorem aws_replay_moves :
    HoldsDead ⟨some "dlq"⟩ deadLetteredIncident "receipt" "t" ⟨"receipt", messageBody "t" 5⟩ ∧
      ValidatesTarget ⟨some "dlq"⟩ deadLetteredIncident "receipt" "t" 5 "operator" "recovered" := by
  have hm : HoldsDead ⟨some "dlq"⟩ deadLetteredIncident "receipt" "t" ⟨"receipt", messageBody "t" 5⟩ :=
    ⟨by simp, rfl, rfl⟩
  refine ⟨hm, (aws_replay_iff deadLetteredIncident_filed ⟨some "dlq"⟩ "receipt" "t" 5 "operator" "recovered").mpr fun _ => ⟨fun hno => ?_, fun m hm' => ?_⟩⟩
  · exact absurd hm (hno _)
  · have : m = ⟨"receipt", messageBody "t" 5⟩ := Option.some.inj (hm'.2.1.symm.trans hm.2.1)
    subst this
    refine ⟨?_, rfl⟩
    show some _ ≠ none
    simp

/-- An incident is created and completed, and nothing was ever dead-lettered: a replay request
    with a made-up receipt queues it again. -/
theorem completed_replayed : ∃ a, AwsReach a ∧ (∃ st, a.checkpoint "t" = some st ∧ st.status = .completed) ∧
    a.dead = .empty ∧ ¬ ValidatesTarget ⟨some "dlq"⟩ a "made-up" "t" 5 "operator" "again" := by
  obtain ⟨o₁, a₁, hr₁⟩ := runs_exists aws_answers ((LedgerCall.createWorkflow newIncident 5).onAWS 0) .empty
  obtain ⟨o₂, a₂, hr₂⟩ := runs_exists aws_answers
    ((LedgerCall.saveWorkflow { newIncident with status := .completed } 0).onAWS 0) a₁
  have hboth := (Both.start.step (.createWorkflow newIncident 5) 0 0 (by simp) hr₁).step
    (.saveWorkflow { newIncident with status := .completed } 0) 0 0 (by simp [LedgerCall.creates]) hr₂
  have hreach : AwsReach { a₂ with work := .empty, dead := .empty } :=
    ((AwsReach.init.ledger _ _ (hr₁.mono aws_serves).stops).ledger _ _ (hr₂.mono aws_serves).stops).queues .empty .empty
  have hrel := (both_agree hboth).1.workflows "t"
  generalize hg : a₂.table (stateKey "t") = found at hrel
  cases hrel with
  | some hrow =>
    obtain ⟨-, st, hst, hsame⟩ := hrow
    have hcheck : AwsState.checkpoint { a₂ with work := .empty, dead := .empty } "t" = some st := by
      show (a₂.table (stateKey "t")).bind (·.stateJson) = some st
      rw [hg]
      exact hst
    have hstatus : st.status = .completed := by
      have := congrArg WorkflowState.status hsame
      exact this
    refine ⟨_, hreach, ⟨st, hcheck, hstatus⟩, rfl, fun hv => ?_⟩
    obtain ⟨o, a', hr⟩ := runs_exists aws_answers
      ((⟨some "dlq"⟩ : AWSDurableStore).replayDeadLetter "made-up" "t" 5 "operator" "again")
      { a₂ with work := .empty, dead := .empty }
    have hno : ∀ m, ¬ HoldsDead ⟨some "dlq"⟩ { a₂ with work := .empty, dead := .empty } "made-up" "t" m := by
      rintro m ⟨-, hm, -⟩
      cases hm
    have hsame := (hv.1 hno o a' (hr.mono aws_serves)).2.checkpoint
    obtain ⟨⟨st', hst', hq, -⟩, -⟩ := wp_sound
      (replay_served (awsReach_filed hreach) ⟨some "dlq"⟩ (by simp) hcheck "made-up" 5 "operator" "again") hr
    rw [hst', hcheck] at hsame
    cases hsame
    rw [hq] at hstatus
    cases hstatus

end AgentResilience
