/-
  AgentResilience.AwsGrip — what a thread holds of the AWS store's queues, read off its
  journal, and the calls it may make with it. A worker deletes the message it was handed, to
  acknowledge it or once a copy went to the dead-letter queue; a replay deletes a dead letter
  once a new message went out; nobody else deletes.

  - `reachable_filed`: checkpoints are filed under their tasks.
  - `Grip`, `gripping`: the script; `call_grips`: every store method keeps to it.
  - `reachable_grips`: every call about to be made is one its thread may make.
-/
import AgentResilience.AwsBackend
import AgentResilience.Isolation

namespace AgentResilience

open Interaction
open Interaction.Prog (attempt ofExcept throw makes_bind makes_attempt makes_perform makes_rename makes_translate)
open AWSDurableStore (messageBody stateKey)
open Messages (Queue Handed HandsOut Grown)

variable {self : AWSDurableStore} {rt : WorkflowRuntime} {config : Settings} {w w' : AwsWorld} {α : Type}

/-! ## The table -/

/-- A call of the table is such a call, and SQS moves the messages received `limit` times. -/
def ClientCall.Within (φ : DurableCall → Prop) (limit : Nat) : ClientCall → Prop
  | .table c => φ c
  | .upkeep (.redrive n _) => n = limit
  | _ => True

theorem makes_orClientError {operation : String} {p : ClientPy α} {φ : ClientCall → Prop} (hp : p.Makes φ) :
    (orClientError operation p).Makes φ := by
  refine makes_bind (makes_attempt hp) fun r => ?_
  split <;> trivial

/-- The methods on the queues alone. -/
def StoreCall.queues : StoreCall → Bool
  | claim .. | extendLease .. | acknowledge _ | retryOrDeadLetter .. | queueCounts => true
  | _ => false

theorem queues_sqs {c : StoreCall} (hc : c.queues = true) : (c.onAws self).Makes fun c => ∃ s, c = .sqs s := by
  have hsqs : ∀ {operation : String} (s : SqsCall), (orClientError operation (onSqs s)).Makes fun c => ∃ s, c = .sqs s :=
    fun s => makes_orClientError (makes_perform ⟨s, rfl⟩)
  cases c with
  | claim worker leaseSeconds =>
    refine makes_bind (hsqs _) fun messages => ?_
    split
    · trivial
    · exact makes_bind (Prog.makes_ofExcept _) fun _ => trivial
  | extendLease d leaseSeconds => exact hsqs _
  | acknowledge id => exact hsqs _
  | retryOrDeadLetter d error base =>
    refine makes_orClientError ?_
    split
    · split
      · trivial
      · exact makes_bind (makes_perform ⟨_, rfl⟩) fun _ => makes_bind (makes_perform ⟨_, rfl⟩) fun _ => trivial
    · exact makes_bind (Prog.makes_ofExcept _) fun _ => makes_bind (makes_perform ⟨_, rfl⟩) fun _ => trivial
  | queueCounts =>
    refine makes_orClientError (makes_bind (makes_perform ⟨_, rfl⟩) fun main => ?_)
    split
    · trivial
    · exact makes_bind (makes_perform ⟨_, rfl⟩) fun _ => trivial
  | _ => cases hc

theorem listDeadLetters_sqs (limit : Nat) : (self.listDeadLetters limit).Makes fun c => ∃ s, c = .sqs s := by
  unfold AWSDurableStore.listDeadLetters
  split
  · trivial
  · exact makes_bind (makes_orClientError (makes_perform ⟨_, rfl⟩)) fun _ => Prog.makes_ofExcept _

section

variable {φ : DurableCall → Prop} {limit : Nat}

theorem onClients_within {p : AwsPy α} (hp : p.Makes φ) : (onClients p).Makes fun c => c.Within φ limit := by
  refine makes_rename (fun c hc => ?_) hp
  cases c <;> first | exact hc | trivial

theorem onClients_makes {p : AwsPy α} (hp : p.Makes φ) (method : Option Call) :
    (madeFor method (onClients p)).Makes fun c => c.call.Within φ limit := by
  have h : (onClients p).Makes fun c => c.Within φ limit := onClients_within hp
  exact makes_rename (f := MethodCall.mk method) (fun c hc => hc) h

/-- A method that makes no call of the table. -/
theorem sqs_makes {p : ClientPy α} (hp : p.Makes fun c => ∃ s, c = .sqs s) (method : Option Call) :
    (madeFor method p).Makes fun c => c.call.Within φ limit := by
  refine makes_rename (fun c hc => ?_) hp
  obtain ⟨s, rfl⟩ := hc
  trivial

/-- What the store's methods on the table keep to. -/
structure StoreMakes (store : AWSDurableStore) (φ : DurableCall → Prop) : Prop where
  enqueue : ∀ taskId n, (AWSDurableStore.enqueue taskId n).Makes φ
  save : ∀ state v, (AWSDurableStore.saveWorkflow state v).Makes φ
  record : ∀ taskId e payload, (AWSDurableStore.recordEvent taskId e payload).Makes φ
  ledger : ∀ (c : LedgerCall) held, (c.onAWS held).Makes φ
  replay : ∀ deliveryId taskId n actor reason, (store.replayDeadLetter deliveryId taskId n actor reason).Makes φ

theorem StoreMakes.call (h : StoreMakes self φ) (c : Call) : (c.onAws self).Makes fun c => c.call.Within φ limit := by
  cases c with
  | store c =>
    cases c with
    | createWorkflow state n => exact onClients_makes (h.ledger (.createWorkflow state n) 0) _
    | getWorkflow taskId => exact onClients_makes (h.ledger (.getWorkflow taskId) 0) _
    | saveWorkflow state v => exact onClients_makes (h.save state v) _
    | enqueue taskId n =>
      have hsend : ((onClients (AWSDurableStore.enqueue taskId n)).bind fun messageId => .ret messageId.length).Makes
          fun c => c.Within φ limit := makes_bind (onClients_within (h.enqueue taskId n)) fun _ => trivial
      exact makes_rename (f := MethodCall.mk _) (fun c hc => hc) hsend
    | claim | extendLease | acknowledge | retryOrDeadLetter | queueCounts => exact sqs_makes (queues_sqs rfl) _
    | recordEvent taskId e payload => exact onClients_makes (h.record taskId e payload) _
    | getToolResult key arguments => exact onClients_makes (h.ledger (.getToolResult key arguments) 0) _
    | saveToolResult key taskId tool arguments result =>
      exact onClients_makes (h.ledger (.saveToolResult key taskId tool arguments result) 0) _
    | createApproval taskId actionId => exact onClients_makes (h.ledger (.createApproval taskId actionId) 0) _
    | resolveApproval taskId actionId approved actor reason =>
      exact onClients_makes (h.ledger (.resolveApproval taskId actionId approved actor reason) 0) _
    | approvalStatus taskId actionId => exact onClients_makes (h.ledger (.approvalStatus taskId actionId) 0) _
    | replayDeadLetter id taskId n actor reason => exact onClients_makes (h.replay _ taskId n actor reason) _
  | _ => exact makes_perform trivial

theorem StoreMakes.operation (h : StoreMakes self φ) (op : AwsOperation) :
    (op.program self rt config).Makes fun c => c.call.Within φ config.maxQueueAttempts := by
  cases op with
  | runs op => exact makes_translate h.call _
  | listDeadLetters limit => exact makes_bind (sqs_makes (listDeadLetters_sqs limit) none) fun _ => trivial
  | redrives message => exact makes_bind (makes_perform rfl) fun _ => trivial
  | expires name message => exact makes_bind (makes_perform trivial) fun _ => trivial

/-- Every call about to be made is within these. -/
theorem StoreMakes.reachable (h : StoreMakes self φ) {cfg : AwsCfg} (hr : AwsReachable self rt config cfg) {i : ThreadId} {c : MethodCall}
    {k : Except PyError c.Ret → MethodPy Reply} (hp : cfg.pool i = some (.call c k)) : c.call.Within φ config.maxQueueAttempts := by
  have hfollows : Follows (⟨fun _ _ _ => (), fun _ c => c.call.Within φ config.maxQueueAttempts, fun _ _ => True⟩ :
      Script MethodCall MethodCall.Ret PyError Unit) (.call c k : MethodPy Reply) (fun _ _ => True) () := by
    refine reach_follows (fun _ _ => ()) ?_ (fun _ _ => ⟨trivial, rfl, fun _ _ => rfl⟩) (fun _ _ _ => rfl) (fun _ _ _ => rfl) hr hp
    intro i p w w' he
    obtain ⟨op, rfl, -⟩ := he
    exact ⟨(Follows.fixed (h.operation op) fun c hc => ⟨hc, fun _ => rfl⟩).mono fun _ _ _ => trivial, fun _ _ => rfl⟩
  exact hfollows.1

end

theorem store_files (self : AWSDurableStore) : StoreMakes self DurableCall.files where
  enqueue _ _ := orAwsError_makes (makes_perform trivial)
  save := saveWorkflow_files
  record := recordEvent_files
  ledger := ledgerCall_files
  replay := replayDeadLetter_files self

/-- A call served, or raising, on the table alone. -/
theorem table_filed {c : DurableCall} {table table' : Items ItemKey Item} {r : Except PyError c.Ret} (hc : c.files)
    (h : AwsEffect c ⟨table, .empty, .empty⟩ r ⟨table', .empty, .empty⟩) (hf : AwsFiled ⟨table, .empty, .empty⟩) :
    AwsFiled ⟨table', .empty, .empty⟩ :=
  call_filed c _ r _ hc (.inl h) hf

def AwsWorld.Filed (w : AwsWorld) : Prop := AwsFiled ⟨w.table, .empty, .empty⟩

theorem sqs_table {c : SqsCall} {a : c.Ret} (h : SqsEffect c w a w') : w'.table = w.table ∧ w'.journal = w.journal := by
  have hqueue : ∀ (q : Queue String String) (name : QueueName), (w.withQueue q name).table = w.table ∧ (w.withQueue q name).journal = w.journal := by
    intro q name
    cases name <;> exact ⟨rfl, rfl⟩
  cases c with
  | sendMessage name body => obtain rfl := h; exact hqueue _ _
  | receiveMessage name n t => obtain ⟨-, -, -, -, rfl⟩ := h; exact hqueue _ _
  | deleteMessage name receiptHandle =>
    rcases h with rfl | rfl
    · exact ⟨rfl, rfl⟩
    · exact hqueue _ _
  | changeMessageVisibility | getQueueAttributes => obtain rfl := h; exact ⟨rfl, rfl⟩

theorem upkeep_table {c : Upkeep} (h : UpkeepEffect c w w') : w'.table = w.table ∧ w'.journal = w.journal := by
  cases c with
  | redrive limit message => obtain ⟨-, -, -, rfl⟩ := h; exact ⟨rfl, rfl⟩
  | expire name message => obtain rfl := h; cases name <;> exact ⟨rfl, rfl⟩

theorem client_filed {i : ThreadId} {c : MethodCall} {limit : Nat} {r : Except PyError c.Ret} (hc : c.call.Within DurableCall.files limit) (h : awsCalls i c w r w') (hf : w.Filed) :
    w'.Filed := by
  obtain ⟨w₁, he, rfl⟩ := h
  obtain ⟨method, call⟩ := c
  show AwsFiled ⟨w₁.table, .empty, .empty⟩
  have hsame : w₁.table = w.table → AwsFiled ⟨w₁.table, .empty, .empty⟩ := fun e => e ▸ hf
  cases call with
  | table d =>
    obtain ⟨table', hd | ⟨-, rfl | ⟨r', hd⟩⟩, rfl⟩ := he
    · exact table_filed hc hd hf
    · exact hf
    · exact table_filed hc hd hf
  | sqs s =>
    rcases he with ⟨a, -, hs⟩ | ⟨-, rfl | ⟨a, hs⟩⟩
    · exact hsame (sqs_table hs).1
    · exact hsame rfl
    · exact hsame (sqs_table hs).1
  | outside d => exact hsame (congrArg AwsWorld.table he)
  | upkeep d => exact hsame (upkeep_table he.2).1

theorem reachable_filed {cfg : AwsCfg} (h : AwsReachable self rt config cfg) : cfg.state.Filed := by
  induction h with
  | init => exact awsFiled_empty
  | step hr hs ih =>
    cases hs with
    | enter _ he => obtain ⟨op, -, rfl⟩ := he; exact ih
    | call hp hc => exact client_filed ((store_files self).reachable hr hp) hc ih
    | leave _ _ hl => obtain rfl := hl; exact ih
    | crash _ hx => obtain rfl := hx; exact ih

/-! ## What a thread holds -/

def taskText (taskId : String) (maxAttempts : Nat) : String := Json.dumps Json.plain (messageBody taskId maxAttempts)

def copyText (delivery : QueueDelivery) (error : String) : String := Json.dumps Json.plain (deadLetterBody delivery error)

/-- The delivery claimed last, the copy of it sent to the dead-letter queue, the message sent for a replay. -/
structure Grip where
  delivery : Option QueueDelivery := none
  copied : Option String := none
  requeued : Option String := none

def Grip.after (g : Grip) : (c : MethodCall) → Except PyError c.Ret → Grip
  | ⟨some (.store (.claim ..)), .sqs (.receiveMessage ..)⟩, .ok [] => { g with delivery := none }
  | ⟨some (.store (.claim ..)), .sqs (.receiveMessage ..)⟩, .ok (message :: _) =>
    match message.delivery with
    | .ok delivery => { g with delivery := some delivery }
    | .error _ => g
  | ⟨some (.store (.retryOrDeadLetter ..)), .sqs (.sendMessage .dead body)⟩, .ok _ => { g with copied := some body }
  | ⟨some (.store (.replayDeadLetter ..)), .sqs (.sendMessage .work body)⟩, .ok _ => { g with requeued := some body }
  | _, _ => g

def grip (i : ThreadId) : List AwsEntry → Grip
  | [] => {}
  | .began j _ :: es => if j = i then {} else grip i es
  | .did j c r :: es => if j = i then (grip i es).after c r else grip i es
  | .ended _ _ :: es | .died _ :: es => grip i es

def Grip.may (g : Grip) (c : MethodCall) : Prop :=
  match c.call with
  | .sqs (.sendMessage .work body) => ∃ taskId n, body = taskText taskId n
  | .sqs (.sendMessage .dead body) => ∃ d e, g.delivery = some d ∧ d.maxAttempts ≤ d.attempts ∧ body = copyText d e
  | .sqs (.receiveMessage name ..) => c.method ≠ none → name = .work
  | .sqs (.deleteMessage .work receiptHandle) => ∃ d, g.delivery = some d ∧ receiptHandle = toString d.id ∧
      (c.method = some (.store (.acknowledge d.id)) ∨ ∃ e, d.maxAttempts ≤ d.attempts ∧ g.copied = some (copyText d e))
  | .sqs (.deleteMessage .dead receiptHandle) => ∃ id taskId n actor reason,
      c.method = some (.store (.replayDeadLetter id taskId n actor reason)) ∧ receiptHandle = toString id ∧
      g.requeued = some (taskText taskId n)
  | _ => True

/-- A checkpoint read is the task's it is filed under. -/
def MethodCall.answers (c : MethodCall) (r : Except PyError c.Ret) : Prop :=
  match c, r with
  | ⟨_, .table (.getItem key)⟩, .ok (some item) => ∀ taskId, key = stateKey taskId → item.files taskId
  | _, _ => True

def gripping : Script MethodCall MethodCall.Ret PyError Grip := ⟨Grip.after, Grip.may, MethodCall.answers⟩

/-- The script of one method. -/
def methodScript (method : Option Call) : Script ClientCall ClientCall.Ret PyError Grip :=
  ⟨fun g c r => g.after ⟨method, c⟩ r, fun g c => g.may ⟨method, c⟩, fun c r => MethodCall.answers ⟨method, c⟩ r⟩

theorem madeFor_follows {method : Option Call} {p : ClientPy α} {Q : Except PyError α → Grip → Prop} {g : Grip}
    (h : Follows (methodScript method) p Q g) : Follows gripping (madeFor method p) Q g := by
  unfold madeFor
  refine Follows.rename (A := methodScript method) (B := gripping) (f := MethodCall.mk method) (fun g c hc => ⟨hc, fun r hr => ?_⟩) h
  have hid : r.map (fun x => x) = r := by cases r <;> rfl
  exact ⟨hid.symm ▸ hr, congrArg _ hid.symm⟩

/-- The script of a method over the table's calls and the messages it sends. -/
def durableScript (method : Option Call) : Script DurableCall DurableCall.Ret PyError Grip where
  next g c r :=
    match method, c, r with
    | some (.store (.replayDeadLetter ..)), .sendMessage .work body, .ok _ => { g with requeued := some (Json.dumps Json.plain body) }
    | _, _, _ => g
  may g c :=
    match c with
    | .sendMessage .work body => ∃ taskId n, body = messageBody taskId n
    | .sendMessage .dead _ | .deleteMessage .work _ => False
    | .deleteMessage .dead receiptHandle => ∃ id taskId n actor reason,
        method = some (.store (.replayDeadLetter id taskId n actor reason)) ∧ receiptHandle = toString id ∧
        g.requeued = some (taskText taskId n)
    | _ => True
  answers c r :=
    match c, r with
    | .getItem key, .ok (some item) => ∀ taskId, key = stateKey taskId → item.files taskId
    | _, _ => True

theorem after_table (g : Grip) (method : Option Call) (c : DurableCall) (r : Except PyError c.Ret) :
    g.after ⟨method, .table c⟩ r = g := by
  unfold Grip.after
  split <;> first | rfl | simp_all

theorem after_error (g : Grip) (c : MethodCall) (e : PyError) : g.after c (.error e) = g := by
  unfold Grip.after
  split <;> first | rfl | simp_all

theorem after_delete (g : Grip) (method : Option Call) (name : QueueName) (receiptHandle : String) (r : Except PyError Unit) :
    g.after ⟨method, .sqs (.deleteMessage name receiptHandle)⟩ r = g := by
  unfold Grip.after
  split <;> first | rfl | simp_all

def DurableCall.sends : DurableCall → Bool
  | sendMessage .work _ => true
  | _ => false

theorem durable_next {g : Grip} {method : Option Call} {c : DurableCall} (hc : c.sends = false) (r : Except PyError c.Ret) :
    (durableScript method).next g c r = g := by
  simp only [durableScript]
  split
  · cases hc
  · rfl

theorem durable_error (g : Grip) (method : Option Call) (c : DurableCall) (e : PyError) : (durableScript method).next g c (.error e) = g := by
  simp only [durableScript]

/-- A message sent to the workers, by a replay and by any other method. -/
theorem sent_next (g : Grip) (method : Option Call) (body : Json) (messageId : Nat) :
    g.after ⟨method, .sqs (.sendMessage .work (Json.dumps Json.plain body))⟩ (.ok messageId) =
      (durableScript method).next g (.sendMessage .work body) (.ok (Nat.repr messageId)) := by
  by_cases h : ∃ id taskId n actor reason, method = some (.store (.replayDeadLetter id taskId n actor reason))
  · obtain ⟨id, taskId, n, actor, reason, rfl⟩ := h
    rfl
  · have hafter : g.after ⟨method, .sqs (.sendMessage .work (Json.dumps Json.plain body))⟩ (.ok messageId) = g := by
      unfold Grip.after
      split <;> first | rfl | simp_all
    rw [hafter]
    simp only [durableScript]
    split
    · exact absurd ⟨_, _, _, _, _, rfl⟩ h
    · rfl

theorem onClients_follows {method : Option Call} {p : AwsPy α} {Q : Except PyError α → Grip → Prop} {g : Grip}
    (h : Follows (durableScript method) p Q g) : Follows (methodScript method) (onClients p) Q g := by
  unfold onClients
  refine Follows.rename (A := durableScript method) (B := methodScript method) (f := DurableCall.onClient) (fun g c hc => ?_) h
  cases c with
  | getItem key =>
    refine ⟨trivial, fun r hr => ⟨?_, (after_table ..).trans (durable_next rfl _).symm⟩⟩
    match r with
    | .ok (some item) => exact hr
    | .ok none | .error _ => trivial
  | putItem | updateItem | utcNow | uuid4 =>
    exact ⟨trivial, fun r hr => ⟨trivial, (after_table ..).trans (durable_next rfl _).symm⟩⟩
  | sendMessage name body =>
    cases name with
    | work =>
      obtain ⟨taskId, n, rfl⟩ := hc
      refine ⟨⟨taskId, n, rfl⟩, fun r _ => ⟨trivial, ?_⟩⟩
      cases r with
      | error e => exact (after_error ..).trans (durable_error ..).symm
      | ok id => exact sent_next g method _ id
    | dead => exact hc.elim
  | deleteMessage name receiptHandle =>
    cases name with
    | work => exact hc.elim
    | dead => exact ⟨hc, fun r _ => ⟨trivial, (after_delete ..).trans (durable_next rfl _).symm⟩⟩

/-! ## The methods -/

theorem orAwsError_follows {Pos : Type} {A : Script DurableCall DurableCall.Ret PyError Pos} {operation : String} {p : AwsPy α}
    {R Q : Except PyError α → Pos → Prop} {g : Pos} (hp : Follows A p R g) (hok : ∀ a g', R (.ok a) g' → Q (.ok a) g')
    (herror : ∀ e e' g', R (.error e) g' → Q (.error e') g') : Follows A (orAwsError operation p) Q g := by
  refine Follows.attempt hp fun o g' h => ?_
  cases o with
  | ok a => exact hok a g' h
  | error e => cases e <;> exact herror _ _ g' h

theorem orClientError_follows {A : Script ClientCall ClientCall.Ret PyError Grip} {operation : String} {p : ClientPy α}
    {R Q : Except PyError α → Grip → Prop} {g : Grip} (hp : Follows A p R g) (hok : ∀ a g', R (.ok a) g' → Q (.ok a) g')
    (herror : ∀ e e' g', R (.error e) g' → Q (.error e') g') : Follows A (orClientError operation p) Q g := by
  refine Follows.attempt hp fun o g' h => ?_
  cases o with
  | ok a => exact hok a g' h
  | error e => cases e <;> exact herror _ _ g' h

/-- The call sends at most tasks, and deletes nothing. -/
def DurableCall.quiet : DurableCall → Prop
  | sendMessage .work body => ∃ taskId n, body = messageBody taskId n
  | sendMessage .dead _ | deleteMessage .. => False
  | _ => True

theorem durable_delivery (method : Option Call) (g : Grip) (c : DurableCall) (r : Except PyError c.Ret) :
    ((durableScript method).next g c r).delivery = g.delivery := by
  simp only [durableScript]
  split <;> rfl

theorem quiet_follows {method : Option Call} {p : AwsPy α} (hp : p.Makes DurableCall.quiet) (g : Grip) :
    Follows (durableScript method) p (fun _ g' => g'.delivery = g.delivery) g := by
  induction p generalizing g with
  | ret a => rfl
  | raise e => rfl
  | call c k ih =>
    refine ⟨?_, fun r _ => (ih r (hp.2 r) _).mono fun _ g' h => h.trans (durable_delivery method g c r)⟩
    have hc := hp.1
    unfold DurableCall.quiet at hc
    simp only [durableScript]
    split at hc
    · exact hc
    · exact hc.elim
    · exact hc.elim
    · split <;> first | trivial | simp_all

theorem recordEvent_quiet (taskId : String) (e : EventType) (payload : Json) :
    (AWSDurableStore.recordEvent taskId e payload).Makes DurableCall.quiet :=
  makes_bind (makes_perform trivial) fun _ => makes_bind (makes_perform trivial) fun _ => orAwsError_makes (makes_perform trivial)

theorem enqueue_quiet (taskId : String) (n : Nat) : (AWSDurableStore.enqueue taskId n).Makes DurableCall.quiet :=
  orAwsError_makes (makes_perform ⟨taskId, n, rfl⟩)

theorem createWorkflow_quiet (state : WorkflowState) (n : Nat) : (AWSDurableStore.createWorkflow state n).Makes DurableCall.quiet := by
  refine makes_bind (makes_attempt (makes_perform trivial)) fun r => ?_
  split
  · split <;> trivial
  · trivial
  · exact makes_bind (recordEvent_quiet ..) fun _ => makes_bind (enqueue_quiet ..) fun _ => trivial

/-- A write under a condition, and what follows it. -/
theorem conditional_quiet {c : DurableCall} (hc : c.quiet) {f : Except PyError c.Ret → AwsPy α} (hf : ∀ r, (f r).Makes DurableCall.quiet)
    : ((attempt (onDynamo c)).bind f).Makes DurableCall.quiet :=
  makes_bind (makes_attempt (makes_perform hc)) hf

theorem ledgerCall_quiet (c : LedgerCall) (held : Timestamp) : (c.onAWS held).Makes DurableCall.quiet := by
  cases c with
  | createWorkflow state n => exact createWorkflow_quiet state n
  | getWorkflow taskId =>
    refine makes_bind (orAwsError_makes (makes_perform trivial)) fun item => ?_
    split
    · trivial
    · split <;> trivial
  | saveWorkflow state v =>
    refine makes_bind (makes_perform trivial) fun updated => conditional_quiet (by trivial) fun r => ?_
    split
    · split <;> trivial
    all_goals trivial
  | createApproval | resolveApproval | saveToolResult =>
    refine makes_bind (makes_perform trivial) fun created => conditional_quiet (by trivial) fun r => ?_
    split
    · split <;> trivial
    all_goals trivial
  | approvalStatus taskId actionId =>
    refine makes_bind (orAwsError_makes (makes_perform trivial)) fun item => ?_
    split
    · trivial
    · split <;> trivial
  | getToolResult key arguments =>
    refine makes_bind (orAwsError_makes (makes_perform trivial)) fun item => ?_
    split
    · trivial
    · split
      · trivial
      · split
        · trivial
        · split <;> trivial

theorem getWorkflow_follows {method : Option Call} (taskId : String) (g : Grip) :
    Follows (durableScript method) (AWSDurableStore.getWorkflow taskId)
      (fun x g' => g' = g ∧ ∀ st, x = .ok (some st) → st.taskId = taskId) g := by
  have hread : Follows (durableScript method) (onDynamo (.getItem (stateKey taskId)))
      (fun x g' => g' = g ∧ ∀ item, x = .ok (some item) → item.files taskId) g := by
    refine .perform trivial fun r hr => ⟨durable_next rfl r, fun item e => ?_⟩
    subst e
    exact hr taskId rfl
  refine .bind (R := fun x g' => g' = g ∧ ∀ item, x = .ok (some item) → item.files taskId)
    (orAwsError_follows hread (fun _ _ h => h) fun _ _ _ h => ⟨h.1, fun _ h => by cases h⟩) (fun found g' h => ?_)
    fun e g' h => ⟨h.1, fun _ h => by cases h⟩
  cases found with
  | none => exact ⟨h.1, fun _ h => by cases h⟩
  | some item =>
    obtain ⟨st, hst, -, htask⟩ := h.2 item rfl
    simp only [hst]
    refine ⟨h.1, fun st' e => ?_⟩
    cases e
    exact htask

theorem saveWorkflow_follows {method : Option Call} (state : WorkflowState) (v : Nat) (g : Grip) :
    Follows (durableScript method) (AWSDurableStore.saveWorkflow state v)
      (fun x g' => g' = g ∧ ∀ st, x = .ok st → st.taskId = state.taskId) g := by
  refine .bind (R := fun _ g' => g' = g) (.perform trivial fun r _ => durable_next rfl r) (fun updated g' h => ?_)
    fun e g' h => ⟨h, fun _ h => by cases h⟩
  subst h
  have hwrite : ∀ key update condition, Follows (durableScript method) (onDynamo (.updateItem key update condition)) (fun _ g'' => g'' = g') g' :=
    fun _ _ _ => .perform trivial fun r _ => durable_next rfl r
  refine Follows.attempt (hwrite _ _ _) fun r g'' h => ?_
  subst h
  match r with
  | .ok () => exact ⟨rfl, fun st e => by cases e; rfl⟩
  | .error (.client code) =>
    show Follows _ (if _ then _ else _) _ _
    split <;> exact ⟨rfl, fun _ h => by cases h⟩
  | .error (.retryable _) | .error (.concurrentUpdate _) | .error (.permanent _) | .error (.value _) | .error (.http ..)
  | .error (.integrity _) | .error (.overflow _) | .error (.botocore _) | .error (.other _) => exact ⟨rfl, fun _ h => by cases h⟩

theorem replayDeadLetter_follows (self : AWSDurableStore) (id : Nat) (taskId : String) (n : Nat) (actor reason : String) (g : Grip) :
    Follows (durableScript (some (.store (.replayDeadLetter id taskId n actor reason))))
      (self.replayDeadLetter (toString id) taskId n actor reason) (fun _ g' => g'.delivery = g.delivery) g := by
  unfold AWSDurableStore.replayDeadLetter
  split
  · rfl
  refine (getWorkflow_follows taskId g).bind (fun found g' h => ?_) fun _ _ h => by rw [h.1]
  obtain ⟨rfl, -⟩ := h
  cases found with
  | none => rfl
  | some st =>
    refine (saveWorkflow_follows _ _ g').bind (fun st' g'' h => ?_) fun _ _ h => by rw [h.1]
    obtain ⟨rfl, -⟩ := h
    -- the deletion follows a message that went out
    have hrequeues : Follows (durableScript (some (.store (.replayDeadLetter id taskId n actor reason)))) (orAwsError "replay dead letter" (do
        let _ ← onDynamo (.sendMessage .work (messageBody taskId n))
        onDynamo (.deleteMessage .dead (toString id)))) (fun _ g' => g'.delivery = g''.delivery) g'' := by
      refine orAwsError_follows (R := fun _ g' => g'.delivery = g''.delivery) ?_ (fun _ _ h => h) fun _ _ _ h => h
      refine .bind (R := fun x g' => g'.delivery = g''.delivery ∧ ∀ a, x = .ok a → g'.requeued = some (taskText taskId n))
        (.perform ⟨taskId, n, rfl⟩ fun r _ => ⟨durable_delivery .., fun a e => ?_⟩) (fun a g' h => ?_) fun _ _ h => h.1
      · subst e
        rfl
      · exact .perform ⟨id, taskId, n, actor, reason, rfl, rfl, h.2 a rfl⟩ fun r _ => (durable_delivery ..).trans h.1
    refine hrequeues.bind (fun _ g₁ h₁ => ?_) fun _ _ h => h
    refine (quiet_follows (recordEvent_quiet ..) g₁).bind (fun _ g₂ h₂ => ?_) fun _ _ h => h.trans h₁
    exact h₂.trans h₁

/-- A call of the queues that changes nothing the thread holds. -/
theorem sqs_still {method : Option Call} {c : SqsCall} {g : Grip} (hmay : g.may ⟨method, .sqs c⟩)
    (hafter : ∀ r, g.after ⟨method, .sqs c⟩ r = g) : Follows (methodScript method) (onSqs c) (fun _ g' => g' = g) g :=
  .perform hmay fun r _ => hafter r

theorem claim_follows (worker : String) (leaseSeconds : Int) (q : Watch) (g : Grip) (h : g.delivery = q.delivery) :
    Follows (methodScript (some (.store (.claim worker leaseSeconds)))) (AWSDurableStore.claim leaseSeconds)
      (fun r g' => g'.delivery = (q.after (.store (.claim worker leaseSeconds)) r).delivery) g := by
  have hreceive : Follows (methodScript (some (.store (.claim worker leaseSeconds)))) (onSqs (.receiveMessage .work 1 leaseSeconds))
      (fun x g' => g' = g.after ⟨some (.store (.claim worker leaseSeconds)), .sqs (.receiveMessage .work 1 leaseSeconds)⟩ x) g :=
    .perform (fun _ => rfl) fun _ _ => rfl
  refine .bind (R := fun x g' => (∃ e, x = .error e ∧ g'.delivery = g.delivery) ∨ ∃ messages, x = .ok messages ∧
    g' = g.after ⟨some (.store (.claim worker leaseSeconds)), .sqs (.receiveMessage .work 1 leaseSeconds)⟩ (.ok messages)) ?_ ?_ ?_
  · refine orClientError_follows hreceive (fun a g' hg => .inr ⟨a, rfl, hg⟩) fun e e' g' hg => .inl ⟨e', rfl, ?_⟩
    rw [hg]
    rfl
  · intro messages g' hg
    rcases hg with ⟨e, he, -⟩ | ⟨messages', he, rfl⟩
    · cases he
    cases he
    cases messages with
    | nil => rfl
    | cons message rest =>
      refine .ofExcept (fun d hd => ?_) fun e he => ?_
      · show (Grip.after g _ _).delivery = some d
        simp only [Grip.after, hd]
      · show (Grip.after g _ _).delivery = q.delivery
        simp only [Grip.after, he]
        exact h
  · intro e g' hg
    rcases hg with ⟨e', he, hg⟩ | ⟨messages, he, -⟩
    · exact hg.trans h
    · cases he

theorem acknowledge_follows {d : QueueDelivery} {g : Grip} (h : g.delivery = some d) :
    Follows (methodScript (some (.store (.acknowledge d.id)))) (AWSDurableStore.acknowledge d.id) (fun _ g' => g' = g) g :=
  orClientError_follows (sqs_still ⟨d, h, rfl, .inl rfl⟩ fun _ => after_delete ..) (fun _ _ h => h) fun _ _ _ h => h

theorem retryOrDeadLetter_follows {d : QueueDelivery} {g : Grip} (h : g.delivery = some d) (error : String) (base : Seconds) :
    Follows (methodScript (some (.store (.retryOrDeadLetter d error base)))) (self.retryOrDeadLetter d error base)
      (fun _ g' => g'.delivery = some d) g := by
  refine orClientError_follows (R := fun _ g' => g'.delivery = some d) ?_ (fun _ _ h => h) fun _ _ _ h => h
  split
  · rename_i hspent
    split
    · exact h
    · -- the copy goes out before the message is deleted
      refine .bind (R := fun x g' => g'.delivery = some d ∧ ∀ a, x = .ok a → g'.copied = some (copyText d error))
        (.perform ⟨d, error, h, hspent, rfl⟩ fun r _ => ?_) (fun a g' hg => ?_) fun e g' hg => hg.1
      · match r with
        | .ok id => exact ⟨h, fun _ _ => rfl⟩
        | .error e => exact ⟨h, fun _ he => by cases he⟩
      · refine .bind (R := fun _ g'' => g'' = g') (sqs_still ⟨d, hg.1, rfl, .inr ⟨error, hspent, hg.2 a rfl⟩⟩ fun _ => after_delete ..)
          (fun _ g'' hg'' => ?_) fun e g'' hg'' => ?_
        · rw [hg'']
          exact hg.1
        · rw [hg'']
          exact hg.1
  · refine .ofExcept (fun delay _ => ?_) fun _ _ => h
    refine .bind (R := fun _ g' => g' = g) (.perform trivial fun r _ => rfl) (fun _ g' hg => ?_) fun e g' hg => ?_
    · rw [hg]
      exact h
    · rw [hg]
      exact h

theorem queueCounts_follows (g : Grip) :
    Follows (methodScript (some (.store .queueCounts))) self.queueCounts (fun _ g' => g' = g) g := by
  have hread : ∀ name, Follows (methodScript (some (.store .queueCounts))) (onSqs (.getQueueAttributes name)) (fun _ g' => g' = g) g :=
    fun name => sqs_still trivial fun _ => rfl
  refine orClientError_follows (R := fun _ g' => g' = g) ?_ (fun _ _ h => h) fun _ _ _ h => h
  refine (hread .work).bind (fun main g' hg => ?_) fun _ _ h => h
  subst hg
  split
  · rfl
  · exact (hread .dead).bind (fun _ _ h => h) fun _ _ h => h

/-- A thread makes a store call: the method's own calls, from what the thread holds. -/
theorem call_grips (q : Watch) (g : Grip) (c : Call) (hmay : q.may c) (h : g.delivery = q.delivery) :
    Follows gripping (c.onAws self) (fun r g' => c.names r ∧ g'.delivery = (q.after c r).delivery) g := by
  have hquiet : ∀ {α : Type} {method : Option Call} {p : AwsPy α}, p.Makes DurableCall.quiet →
      Follows gripping (madeFor method (onClients p)) (fun _ g' => g'.delivery = q.delivery) g :=
    fun hp => madeFor_follows (onClients_follows ((quiet_follows hp g).mono fun _ _ hg => hg.trans h))
  -- the delivery a call is about, if it must be the thread's
  have habout : (∀ worker leaseSeconds, c ≠ .store (.claim worker leaseSeconds)) → ∃ T, c.about T q.delivery := by
    intro hclaim
    rcases hmay with ⟨worker, leaseSeconds, rfl⟩ | hmay
    · exact absurd rfl (hclaim _ _)
    · cases ht : q.task with
      | none => exact ⟨"", hmay "" fun _ e => by rw [ht] at e; cases e⟩
      | some T => exact ⟨T, hmay T fun _ e => by rw [ht] at e; exact (Option.some.inj e).symm⟩
  cases c with
  | store c =>
    cases c with
    | createWorkflow state n => exact (hquiet (createWorkflow_quiet state n)).mono fun _ _ hg => ⟨trivial, hg⟩
    | getWorkflow taskId =>
      refine madeFor_follows (onClients_follows ((getWorkflow_follows taskId g).mono fun r g' hg => ⟨?_, ?_⟩))
      · match r with
        | .ok (some st) => exact hg.2 st rfl
        | .ok none | .error _ => trivial
      · rw [hg.1]
        exact h
    | saveWorkflow state v =>
      refine madeFor_follows (onClients_follows ((saveWorkflow_follows state v g).mono fun r g' hg => ⟨?_, ?_⟩))
      · match r with
        | .ok st => exact hg.2 st rfl
        | .error _ => trivial
      · rw [hg.1]
        exact h
    | enqueue taskId n =>
      have hsend : Follows (durableScript (some (.store (.enqueue taskId n)))) (AWSDurableStore.enqueue taskId n)
          (fun _ g' => g'.delivery = g.delivery) g := quiet_follows (enqueue_quiet taskId n) g
      exact madeFor_follows ((onClients_follows hsend).bind (fun _ _ hg => ⟨trivial, hg.trans h⟩) fun _ _ hg => ⟨trivial, hg.trans h⟩)
    | claim worker leaseSeconds => exact (madeFor_follows (claim_follows worker leaseSeconds q g h)).mono fun _ _ hg => ⟨trivial, hg⟩
    | extendLease d leaseSeconds =>
      refine madeFor_follows (orClientError_follows (R := fun _ g' => g' = g) (sqs_still trivial fun _ => rfl) (fun _ _ hg => ?_) fun _ _ _ hg => ?_)
      · rw [hg]
        exact ⟨trivial, h⟩
      · rw [hg]
        exact ⟨trivial, h⟩
    | acknowledge id =>
      obtain ⟨T, d, hd, rfl⟩ := habout nofun
      refine (madeFor_follows (acknowledge_follows (h.trans hd))).mono fun _ _ hg => ⟨trivial, ?_⟩
      rw [hg]
      exact h
    | retryOrDeadLetter d error base =>
      obtain ⟨T, hd⟩ := habout nofun
      exact (madeFor_follows (retryOrDeadLetter_follows (h.trans hd) error base)).mono fun _ _ hg => ⟨trivial, hg.trans hd.symm⟩
    | recordEvent taskId e payload => exact (hquiet (recordEvent_quiet taskId e payload)).mono fun _ _ hg => ⟨trivial, hg⟩
    | getToolResult key arguments =>
      exact (hquiet (ledgerCall_quiet (.getToolResult key arguments) 0)).mono fun _ _ hg => ⟨trivial, hg⟩
    | saveToolResult key taskId tool arguments result =>
      exact (hquiet (ledgerCall_quiet (.saveToolResult key taskId tool arguments result) 0)).mono fun _ _ hg => ⟨trivial, hg⟩
    | createApproval taskId actionId =>
      exact (hquiet (ledgerCall_quiet (.createApproval taskId actionId) 0)).mono fun _ _ hg => ⟨trivial, hg⟩
    | resolveApproval taskId actionId approved actor reason =>
      exact (hquiet (ledgerCall_quiet (.resolveApproval taskId actionId approved actor reason) 0)).mono fun _ _ hg => ⟨trivial, hg⟩
    | approvalStatus taskId actionId =>
      exact (hquiet (ledgerCall_quiet (.approvalStatus taskId actionId) 0)).mono fun _ _ hg => ⟨trivial, hg⟩
    | queueCounts =>
      refine (madeFor_follows (queueCounts_follows g)).mono fun _ _ hg => ⟨trivial, ?_⟩
      rw [hg]
      exact h
    | replayDeadLetter id taskId n actor reason =>
      exact (madeFor_follows (onClients_follows (replayDeadLetter_follows self id taskId n actor reason g))).mono
        fun _ _ hg => ⟨trivial, hg.trans h⟩
  | _ => exact .perform trivial fun r _ => ⟨trivial, h⟩

theorem listDeadLetters_follows (limit : Nat) (g : Grip) :
    Follows (methodScript none) (self.listDeadLetters limit) (fun _ _ => True) g := by
  unfold AWSDurableStore.listDeadLetters
  split
  · trivial
  · have hreceive : ∀ n, Follows (methodScript none) (onSqs (.receiveMessage .dead n 0)) (fun _ _ => True) g :=
      fun n => .perform (fun hno => absurd rfl hno) fun _ _ => trivial
    refine .bind (R := fun _ _ => True) (orClientError_follows (hreceive _) (fun _ _ _ => trivial) fun _ _ _ _ => trivial)
      (fun messages g' _ => ?_) fun _ _ _ => trivial
    cases messages.mapM Received.deadLetter <;> trivial

/-- Every operation keeps to what its thread holds. -/
theorem operation_grips (he : rt.engine = anyEngine) (hb : rt.backend = anyBackend) (op : AwsOperation) :
    Follows gripping (op.program self rt config) (fun _ _ => True) {} := by
  cases op with
  | runs op =>
    have hkept : Follows watching (op.program rt config) (fun _ _ => True) ⟨op.taskId, none⟩ := operation_kept he hb op
    have hgrip : ({} : Grip).delivery = (⟨op.taskId, none⟩ : Watch).delivery := rfl
    exact (Follows.translate (fun q g c hc hg => call_grips q g c hc hg) hkept hgrip).mono fun _ _ _ => trivial
  | listDeadLetters limit => exact (madeFor_follows (listDeadLetters_follows limit {})).bind (fun _ _ _ => trivial) fun _ _ _ => trivial
  | redrives | expires =>
    exact Follows.bind (R := fun _ _ => True) (.perform trivial fun _ _ => trivial) (fun _ _ _ => trivial) fun _ _ _ => trivial

theorem grip_call {i : ThreadId} {c : MethodCall} {r : Except PyError c.Ret} (h : awsCalls i c w r w') :
    w'.journal = .did i c r :: w.journal := by
  obtain ⟨w₁, -, rfl⟩ := h
  rfl

/-- A checkpoint answered is filed. -/
theorem call_answers {i : ThreadId} {c : MethodCall} {r : Except PyError c.Ret} (h : awsCalls i c w r w') (hf : w.Filed) : c.answers r := by
  obtain ⟨w₁, he, rfl⟩ := h
  unfold MethodCall.answers
  split
  · rename_i key item
    obtain ⟨table', hd, -⟩ := he
    intro taskId hkey
    subst hkey
    rcases hd with hd | ⟨⟨e, -, hr⟩, -⟩
    · exact hf taskId item (Except.ok.inj hd.1).symm
    · cases hr
  · trivial

/-- Every program in flight makes calls its thread may make. -/
theorem reachable_grips {cfg : AwsCfg} (h : AwsReachable self { rt with engine := anyEngine, backend := anyBackend } config cfg)
    {i : ThreadId} {p : MethodPy Reply} (hp : cfg.pool i = some p) :
    Follows gripping p (fun _ _ => True) (grip i cfg.state.journal) := by
  refine reach_follows (fun i (w : AwsWorld) => grip i w.journal) ?_ ?_ (fun hl j hj => ?_) (fun hx j hj => ?_) h hp
  · intro i p w w' he
    obtain ⟨op, rfl, rfl⟩ := he
    refine ⟨?_, fun j hj => if_neg (Ne.symm hj)⟩
    show Follows gripping _ _ (if i = i then {} else grip i w.journal)
    rw [if_pos rfl]
    exact operation_grips (by rfl) (by rfl) op
  · intro cfg i c r w' hr hs
    refine ⟨call_answers hs (reachable_filed hr), ?_, fun j hj => ?_⟩
    · rw [grip_call hs]
      exact if_pos rfl
    · rw [grip_call hs]
      exact if_neg (Ne.symm hj)
  · obtain rfl := hl
    rfl
  · obtain rfl := hx
    rfl

end AgentResilience
