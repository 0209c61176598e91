/-
  AgentResilience.AwsBackend — the whole system over the AWS store (aws_store.py): the same
  workers, heartbeats and requests, each store call replaced by the method's own calls of the
  DynamoDB table and of two SQS queues. Threads interleave between those calls.

  The queues hand a message out at least once: any message, at any time, under a new handle.
  SQS itself moves a message to the dead letters that was received too often, and drops one that
  is too old. A call that raises may have taken effect. A handle is the text of a number, the id
  of its delivery. A call carries the method it is made for, so that a journal shows both.
-/
import AgentResilience.AwsReplay
import AgentResilience.StoredTimes
import AgentResilience.System
import AgentResilience.Lib.JsonRoundTrip
import AgentResilience.Lib.Messages
import AgentResilience.Lib.Translate

namespace AgentResilience

open Interaction
open Interaction.Prog (attempt ofExcept throw)
open AWSDurableStore (messageBody)
open Messages (Queue Handed HandsOut Grown)

/-! ## The clients -/

/-- A message received: its body, its handle, `ApproximateReceiveCount` and `SentTimestamp`. -/
structure Received where
  body : String
  receiptHandle : Nat
  receiveCount : Nat
  sentTimestamp : Nat

inductive SqsCall where
  | sendMessage (queue : QueueName) (body : String)
  | receiveMessage (queue : QueueName) (maxNumberOfMessages : Nat) (visibilityTimeout : Int)
  | changeMessageVisibility (queue : QueueName) (receiptHandle : String) (visibilityTimeout : Int)
  | deleteMessage (queue : QueueName) (receiptHandle : String)
  /-- `ApproximateNumberOfMessages` and `ApproximateNumberOfMessagesNotVisible`. -/
  | getQueueAttributes (queue : QueueName)

abbrev SqsCall.Ret : SqsCall → Type
  | sendMessage .. => Nat
  | receiveMessage .. => List Received
  | changeMessageVisibility .. | deleteMessage .. => Unit
  | getQueueAttributes _ => Nat × Nat

/-- What SQS does of itself (main.tf). -/
inductive Upkeep where
  /-- The redrive policy of the work queue. -/
  | redrive (maxReceiveCount message : Nat)
  /-- `message_retention_seconds` of a queue. -/
  | expire (queue : QueueName) (message : Nat)

inductive ClientCall where
  | table (c : DurableCall)
  | sqs (c : SqsCall)
  /-- Engine, backend, heartbeat and clock. -/
  | outside (c : Call)
  /-- No call of a client, but SQS at work. -/
  | upkeep (c : Upkeep)

abbrev ClientCall.Ret : ClientCall → Type
  | table c => c.Ret
  | sqs c => c.Ret
  | outside c => c.Ret
  | upkeep _ => Unit

abbrev ClientPy (α : Type) : Type := Prog ClientCall ClientCall.Ret PyError α

/-- A body is sent as `json.dumps` of it. -/
def DurableCall.onClient : DurableCall → ClientCall
  | sendMessage queue body => .sqs (.sendMessage queue (Json.dumps Json.plain body))
  | deleteMessage queue receiptHandle => .sqs (.deleteMessage queue receiptHandle)
  | c => .table c

def DurableCall.readClient : (c : DurableCall) → c.onClient.Ret → c.Ret
  | sendMessage .., messageId => Nat.repr messageId
  | deleteMessage .., u => u
  | getItem _, x | putItem .., x | updateItem .., x | utcNow, x | uuid4, x => x

def onClients {α : Type} (p : AwsPy α) : ClientPy α := p.rename DurableCall.onClient DurableCall.readClient

def onSqs (c : SqsCall) : ClientPy c.Ret := .perform (ClientCall.sqs c)

/-- `except ClientError as error: raise self._aws_error(operation, error)`. -/
def orClientError {α : Type} (operation : String) (p : ClientPy α) : ClientPy α := do
  match ← attempt p with
  | .ok a => pure a
  | .error (.client code) => throw (awsError operation code)
  | .error e => throw e

/-! ## The queue's methods -/

/-- The delivery of a message, as `claim` reads it. -/
def Received.delivery (m : Received) : Except PyError QueueDelivery :=
  match Json.loads m.body with
  | none => .error (.value "JSONDecodeError")
  | some body =>
    match body.field "task_id" with
    | some (.str taskId) =>
      match (body.field "max_attempts").getD (.int 5) with
      | .int n => .ok ⟨m.receiptHandle, taskId, m.receiveCount, n.toNat, (body.field "payload").getD (.obj [])⟩
      | _ => .error (.value "invalid literal for int()")
    | some _ => .error (.value "task_id")
    | none => .error (.other "KeyError: 'task_id'")

/-- `datetime.fromtimestamp(milliseconds / 1000)`. -/
def Received.sentAt (m : Received) : DateTime := DateTime.ofMicroseconds (m.sentTimestamp * 1000)

/-- The record of a dead letter, as `list_dead_letters` reads it. -/
def Received.deadLetter (m : Received) : Except PyError DeadLetterRecord :=
  match Json.loads m.body with
  | none => .error (.value "JSONDecodeError")
  | some body =>
    match body.field "task_id", (body.field "attempts").getD (.int m.receiveCount), (body.field "max_attempts").getD (.int 5) with
    | some (.str taskId), .int attempts, .int maxAttempts =>
      let lastError := (body.field "error").bind fun
        | .str e => some e
        | _ => none
      .ok ⟨m.receiptHandle, taskId, attempts.toNat, maxAttempts.toNat, lastError, (body.field "payload").getD (.obj []), m.sentAt⟩
    | none, _, _ => .error (.other "KeyError: 'task_id'")
    | _, _, _ => .error (.value "DeadLetterRecord")

/-- The copy of a delivery that is given up on. -/
def deadLetterBody (delivery : QueueDelivery) (error : String) : Json :=
  .obj [("task_id", .str delivery.taskId), ("payload", delivery.payload), ("attempts", .int delivery.attempts),
    ("max_attempts", .int delivery.maxAttempts), ("error", .str (error.take 2000).toString)]

/-- `int(q)`. -/
def truncated (q : ℚ) : Int := if 0 ≤ q then q.floor else -(-q).floor

/-- `int(min(900, base * 2 ** k))`. -/
def visibilityDelay (base : Seconds) (k : Nat) : Except PyError Int :=
  if 1024 ≤ k then .error (.overflow "int too large to convert to float")
  else match base with
    | .finite q => .ok (truncated (min 900 (q * 2 ^ k)))
    | .infinite => .ok 900

namespace AWSDurableStore

def claim (leaseSeconds : Int) : ClientPy (Option QueueDelivery) := do
  match ← orClientError "claim task" (onSqs (.receiveMessage .work 1 leaseSeconds)) with
  | [] => pure none
  | message :: _ => do
    let delivery ← ofExcept message.delivery
    pure (some delivery)

def extendLease (delivery : QueueDelivery) (leaseSeconds : Int) : ClientPy Unit :=
  orClientError "extend queue visibility" (onSqs (.changeMessageVisibility .work (toString delivery.id) leaseSeconds))

def acknowledge (deliveryId : Nat) : ClientPy Unit :=
  orClientError "acknowledge task" (onSqs (.deleteMessage .work (toString deliveryId)))

variable (self : AWSDurableStore)

def retryOrDeadLetter (delivery : QueueDelivery) (error : String) (baseDelaySeconds : Seconds) : ClientPy Bool :=
  orClientError "retry or dead-letter task" (
    if delivery.maxAttempts ≤ delivery.attempts then
      match self.dlqUrl with
      | none => throw (.permanent "SQS_DLQ_URL is required to dead-letter tasks explicitly")
      | some _ => do
        let _ ← onSqs (.sendMessage .dead (Json.dumps Json.plain (deadLetterBody delivery error)))
        onSqs (.deleteMessage .work (toString delivery.id))
        pure true
    else do
      let delay ← ofExcept (visibilityDelay baseDelaySeconds (delivery.attempts - 1))
      onSqs (.changeMessageVisibility .work (toString delivery.id) delay)
      pure false)

def queueCounts : ClientPy (List (QueueStatus × Nat)) :=
  orClientError "read queue depth" (do
    let main ← onSqs (.getQueueAttributes .work)
    let counts := [(QueueStatus.pending, main.1), (QueueStatus.processing, main.2)]
    match self.dlqUrl with
    | none => pure counts
    | some _ => do
      let dead ← onSqs (.getQueueAttributes .dead)
      pure (counts ++ [(QueueStatus.dead, dead.1)]))

def listDeadLetters (limit : Nat) : ClientPy (List DeadLetterRecord) := do
  match self.dlqUrl with
  | none => pure []
  | some _ => do
    let messages ← orClientError "list dead letters" (onSqs (.receiveMessage .dead (max 1 (min limit 10)) 0))
    ofExcept (messages.mapM Received.deadLetter)

end AWSDurableStore

/-! ## The store's methods -/

/-- A store method on AWS. -/
def StoreCall.onAws (self : AWSDurableStore) : (c : StoreCall) → ClientPy c.Ret
  | createWorkflow state maxAttempts => onClients (AWSDurableStore.createWorkflow state maxAttempts)
  | getWorkflow taskId => onClients (AWSDurableStore.getWorkflow taskId)
  | saveWorkflow state expectedVersion => onClients (AWSDurableStore.saveWorkflow state expectedVersion)
  -- the message's id, which nobody reads
  | enqueue taskId maxAttempts => (onClients (AWSDurableStore.enqueue taskId maxAttempts)).bind fun messageId => .ret messageId.length
  | claim _ leaseSeconds => AWSDurableStore.claim leaseSeconds
  | extendLease delivery leaseSeconds => AWSDurableStore.extendLease delivery leaseSeconds
  | acknowledge deliveryId => AWSDurableStore.acknowledge deliveryId
  | retryOrDeadLetter delivery error base => self.retryOrDeadLetter delivery error base
  | recordEvent taskId eventType payload => onClients (AWSDurableStore.recordEvent taskId eventType payload)
  | getToolResult key arguments => onClients (AWSDurableStore.getToolResult key arguments)
  | saveToolResult key taskId tool arguments result => onClients (AWSDurableStore.saveToolResult key taskId tool arguments result)
  | createApproval taskId actionId => onClients (AWSDurableStore.createApproval taskId actionId)
  | resolveApproval taskId actionId approved actor reason =>
    onClients (AWSDurableStore.resolveApproval taskId actionId approved actor reason)
  | approvalStatus taskId actionId => onClients (AWSDurableStore.approvalStatus taskId actionId)
  | queueCounts => self.queueCounts
  | replayDeadLetter deliveryId taskId maxAttempts actor reason =>
    onClients (self.replayDeadLetter (toString deliveryId) taskId maxAttempts actor reason)

/-- A client's call, and the call of the program it is made for; a listing of dead letters is none. -/
structure MethodCall where
  method : Option Call
  call : ClientCall

abbrev MethodCall.Ret (c : MethodCall) : Type := c.call.Ret

abbrev MethodPy (α : Type) : Type := Prog MethodCall MethodCall.Ret PyError α

def madeFor {α : Type} (method : Option Call) (p : ClientPy α) : MethodPy α := p.rename (MethodCall.mk method) fun _ x => x

def Call.onAws (self : AWSDurableStore) : (c : Call) → MethodPy c.Ret
  | store c => madeFor (some (.store c)) (c.onAws self)
  | clock => .perform (⟨some clock, .outside clock⟩ : MethodCall)
  | awaitHeartbeat => .perform (⟨some awaitHeartbeat, .outside awaitHeartbeat⟩ : MethodCall)
  | decide state => .perform (⟨some (decide state), .outside (decide state)⟩ : MethodCall)
  | takeUsage => .perform (⟨some takeUsage, .outside takeUsage⟩ : MethodCall)
  | execute state tool arguments attempt =>
    .perform (⟨some (execute state tool arguments attempt), .outside (execute state tool arguments attempt)⟩ : MethodCall)
  | aws c => .perform (⟨some (aws c), .outside (aws c)⟩ : MethodCall)

/-- The operations a process can start, the dead letters being listed by receiving them, and what SQS starts. -/
inductive AwsOperation where
  | runs (op : Operation)
  | listDeadLetters (limit : Nat)
  | redrives (message : Nat)
  | expires (queue : QueueName) (message : Nat)

def AwsOperation.program (self : AWSDurableStore) (rt : WorkflowRuntime) (config : Settings) : AwsOperation → MethodPy Reply
  | runs op => (op.program rt config).translate (Call.onAws self)
  | listDeadLetters limit => (madeFor none (self.listDeadLetters limit)).bind fun _ => .ret .done
  -- main.tf and ecs.tf set `maxReceiveCount` and `MAX_QUEUE_ATTEMPTS` from one variable
  | redrives message =>
    (Prog.perform (⟨none, .upkeep (.redrive config.maxQueueAttempts message)⟩ : MethodCall)).bind fun _ => .ret .done
  | expires queue message => (Prog.perform (⟨none, .upkeep (.expire queue message)⟩ : MethodCall)).bind fun _ => .ret .done

/-! ## The system -/

inductive AwsEntry where
  | began (i : ThreadId) (op : AwsOperation)
  | did (i : ThreadId) (c : MethodCall) (r : Except PyError c.Ret)
  | ended (i : ThreadId) (o : Except PyError Reply)
  | died (i : ThreadId)

structure AwsWorld where
  table : Items ItemKey Item
  work : Queue String String
  dead : Queue String String
  journal : List AwsEntry

namespace AwsWorld

def init : AwsWorld := ⟨.empty, .empty, .empty, []⟩

variable (w : AwsWorld)

def queue : QueueName → Queue String String
  | .work => w.work
  | .dead => w.dead

def withQueue (messages : Queue String String) : QueueName → AwsWorld
  | .work => { w with work := messages }
  | .dead => { w with dead := messages }

end AwsWorld

/-- What is received of a message handed out. -/
structure Received.Of (m : Received) (x : Handed String String) : Prop where
  body : m.body = x.body
  handle : toString m.receiptHandle = x.handle
  count : m.receiveCount = x.count

/-- What a call answers and does when its client serves it. A deletion may fail to reach every copy. -/
def SqsEffect : (c : SqsCall) → AwsWorld → c.Ret → AwsWorld → Prop
  | .sendMessage name body, w, _, w' => w' = w.withQueue ((w.queue name).send body) name
  | .receiveMessage name _ _, w, messages, w' => ∃ xs q', HandsOut (w.queue name) xs q' ∧ List.Forall₂ Received.Of messages xs ∧
      w' = w.withQueue q' name
  | .deleteMessage name receiptHandle, w, _, w' => w' = w ∨ w' = w.withQueue ((w.queue name).delete receiptHandle) name
  | .changeMessageVisibility .., w, _, w' => w' = w
  | .getQueueAttributes _, w, _, w' => w' = w

/-- A message received `maxReceiveCount` times is moved as it was sent, and its receives are counted on. -/
def UpkeepEffect : Upkeep → AwsWorld → AwsWorld → Prop
  | .redrive maxReceiveCount message, w, w' => ∃ body, w.work.bodies[message]? = some body ∧ maxReceiveCount ≤ w.work.received message ∧
      w' = { w with work := w.work.move message, dead := w.dead.add body (w.work.received message) }
  | .expire name message, w, w' => w' = w.withQueue ((w.queue name).expire message) name

/-- A call of a client: served, or raising with or without effect. -/
def ClientEffect : (c : ClientCall) → AwsWorld → Except PyError c.Ret → AwsWorld → Prop
  | .table c, w, r, w' => ∃ table', (AwsEffect c ⟨w.table, .empty, .empty⟩ r ⟨table', .empty, .empty⟩ ∨
      (∃ e, anyFault c e ∧ r = .error e) ∧ (table' = w.table ∨ ∃ r', AwsEffect c ⟨w.table, .empty, .empty⟩ r' ⟨table', .empty, .empty⟩)) ∧
      w' = { w with table := table' }
  | .sqs c, w, r, w' => (∃ a, r = .ok a ∧ SqsEffect c w a w') ∨ (∃ e, r = .error e) ∧ (w' = w ∨ ∃ a, SqsEffect c w a w')
  | .outside _, w, _, w' => w' = w
  | .upkeep c, w, r, w' => r = .ok () ∧ UpkeepEffect c w w'

def awsCalls (i : ThreadId) : Service MethodCall MethodCall.Ret PyError AwsWorld := fun c w r w' =>
  ∃ w₁, ClientEffect c.call w r w₁ ∧ w' = { w₁ with journal := .did i c r :: w.journal }

def awsSystem (self : AWSDurableStore) (rt : WorkflowRuntime) (config : Settings) :
    System ThreadId MethodCall MethodCall.Ret PyError Reply AwsWorld where
  sem := awsCalls
  enter i p w w' := ∃ op : AwsOperation, p = op.program self rt config ∧ w' = { w with journal := .began i op :: w.journal }
  leave i o w w' := w' = { w with journal := .ended i o :: w.journal }
  crash i w w' := w' = { w with journal := .died i :: w.journal }

abbrev AwsCfg := Config ThreadId MethodCall MethodCall.Ret PyError Reply AwsWorld

/-- The configurations the system reaches from an empty table and empty queues. -/
abbrev AwsReachable (self : AWSDurableStore) (rt : WorkflowRuntime) (config : Settings) : AwsCfg → Prop :=
  Reach (awsSystem self rt config) AwsWorld.init

/-! ## Written schedules -/

/-- The outside's part of an answer: served, a message handed out under a handle, or what engine and backend answer. -/
inductive ClientAnswer where
  | served
  | handed (message receiptHandle : Nat)
  | outside (x : Answer)

def afterWrite (new : Option (Items ItemKey Item)) (table : Items ItemKey Item) : Except PyError Unit × Items ItemKey Item :=
  match new with
  | none => (.error (.client conditionalCheckFailed), table)
  | some table => (.ok (), table)

theorem afterWrite_sound {new : Option (Items ItemKey Item)} {table table' : Items ItemKey Item} {r : Except PyError Unit}
    (h : afterWrite new table = (r, table')) : WriteEffect new ⟨table, .empty, .empty⟩ r ⟨table', .empty, .empty⟩ := by
  cases new with
  | none => cases h; exact ⟨rfl, rfl⟩
  | some table => cases h; exact ⟨rfl, rfl⟩

def respondTable : (c : DurableCall) → Items ItemKey Item → Option (Except PyError c.Ret × Items ItemKey Item)
  | .getItem key, table => some (.ok (table key), table)
  | .putItem key item condition, table => some (afterWrite (table.put key item condition.holds) table)
  | .updateItem key update condition, table => some (afterWrite (table.update key update.apply condition.holds) table)
  | .utcNow, table => some (.ok 0, table)
  | .uuid4, table => some (.ok "", table)
  | .sendMessage .., _ | .deleteMessage .., _ => none

theorem respondTable_sound {c : DurableCall} {table table' : Items ItemKey Item} {r : Except PyError c.Ret}
    (h : respondTable c table = some (r, table')) : AwsEffect c ⟨table, .empty, .empty⟩ r ⟨table', .empty, .empty⟩ := by
  cases c with
  | getItem key => cases h; exact ⟨rfl, rfl⟩
  | putItem | updateItem => exact afterWrite_sound (Option.some.inj h)
  | utcNow => cases h; exact ⟨⟨0, rfl⟩, rfl⟩
  | uuid4 => cases h; exact ⟨⟨"", rfl⟩, rfl⟩
  | sendMessage | deleteMessage => cases h

def respondSqs : (c : SqsCall) → ClientAnswer → AwsWorld → Option (c.Ret × AwsWorld)
  | .sendMessage name body, _, w => some ((w.queue name).bodies.length, w.withQueue ((w.queue name).send body) name)
  | .receiveMessage name _ _, .handed message receiptHandle, w =>
    if hm : message < (w.queue name).bodies.length then
      if hfresh : toString receiptHandle ∉ (w.queue name).receipts.map (·.handle) then
        some ([⟨(w.queue name).bodies[message], receiptHandle, (w.queue name).received message + 1, 0⟩],
          w.withQueue ((w.queue name).receive message (toString receiptHandle) hm hfresh) name)
      else none
    else none
  | .receiveMessage name _ _, _, w => some ([], w.withQueue (w.queue name) name)
  | .changeMessageVisibility .., _, w => some ((), w)
  | .deleteMessage name receiptHandle, _, w => some ((), w.withQueue ((w.queue name).delete receiptHandle) name)
  | .getQueueAttributes _, _, w => some ((0, 0), w)

theorem respondSqs_sound {c : SqsCall} {x : ClientAnswer} {w w' : AwsWorld} {a : c.Ret} (h : respondSqs c x w = some (a, w')) :
    SqsEffect c w a w' := by
  cases c with
  | sendMessage name body => cases h; rfl
  | receiveMessage name n t =>
    cases x with
    | handed message receiptHandle =>
      simp only [respondSqs] at h
      split at h
      · rename_i hm
        split at h
        · rename_i hfresh
          cases h
          exact ⟨_, _, .next hm hfresh (.done _), .cons ⟨rfl, rfl, rfl⟩ .nil, rfl⟩
        · cases h
      · cases h
    | served | outside =>
      cases h
      exact ⟨[], _, .done _, .nil, rfl⟩
  | changeMessageVisibility | getQueueAttributes => cases h; rfl
  | deleteMessage name receiptHandle => cases h; exact .inr rfl

def respondUpkeep : Upkeep → AwsWorld → Option AwsWorld
  | .redrive maxReceiveCount message, w =>
    match w.work.bodies[message]? with
    | some body =>
      if maxReceiveCount ≤ w.work.received message then
        some { w with work := w.work.move message, dead := w.dead.add body (w.work.received message) }
      else none
    | none => none
  | .expire name message, w => some (w.withQueue ((w.queue name).expire message) name)

theorem respondUpkeep_sound {c : Upkeep} {w w' : AwsWorld} (h : respondUpkeep c w = some w') : UpkeepEffect c w w' := by
  cases c with
  | redrive maxReceiveCount message =>
    simp only [respondUpkeep] at h
    split at h
    · rename_i body hbody
      split at h
      · rename_i hcount
        exact ⟨body, hbody, hcount, (Option.some.inj h).symm⟩
      · cases h
    · cases h
  | expire name message => exact (Option.some.inj h).symm

def respondClient : (c : ClientCall) → ClientAnswer → AwsWorld → Option (Except PyError c.Ret × AwsWorld)
  | .table c, _, w => (respondTable c w.table).map fun x => (x.1, { w with table := x.2 })
  | .sqs c, x, w => (respondSqs c x w).map fun x => (.ok x.1, x.2)
  | .outside c, .outside x, w => (respond c x .empty).map fun x => (x.1, w)
  | .outside _, _, _ => none
  | .upkeep c, _, w => (respondUpkeep c w).map fun w' => (.ok (), w')

theorem respondClient_sound {c : ClientCall} {x : ClientAnswer} {w w' : AwsWorld} {r : Except PyError c.Ret}
    (h : respondClient c x w = some (r, w')) : ClientEffect c w r w' := by
  cases c with
  | table c =>
    obtain ⟨⟨r', table'⟩, hr, he⟩ := Option.map_eq_some_iff.mp h
    cases he
    exact ⟨table', .inl (respondTable_sound hr), rfl⟩
  | sqs c =>
    obtain ⟨⟨a, w₁⟩, ha, he⟩ := Option.map_eq_some_iff.mp h
    cases he
    exact .inl ⟨a, rfl, respondSqs_sound ha⟩
  | outside c =>
    cases x with
    | outside x =>
      obtain ⟨y, -, he⟩ := Option.map_eq_some_iff.mp h
      cases he
      rfl
    | served | handed => cases h
  | upkeep c =>
    obtain ⟨w₁, hw, he⟩ := Option.map_eq_some_iff.mp h
    cases he
    exact ⟨rfl, respondUpkeep_sound hw⟩

/-- The player of the system over AWS. -/
def awsPlayer (self : AWSDurableStore) (rt : WorkflowRuntime) (config : Settings) :
    Simulator (awsSystem self rt config) AwsOperation ClientAnswer where
  program op := op.program self rt config
  start i op w := some { w with journal := .began i op :: w.journal }
  answer i c x w := (respondClient c.call x w).map fun y => (y.1, { y.2 with journal := .did i c y.1 :: w.journal })
  finish i o w := some { w with journal := .ended i o :: w.journal }
  die i w := some { w with journal := .died i :: w.journal }
  start_sound := by
    intro i op w w' h
    cases h
    exact ⟨op, rfl, rfl⟩
  answer_sound := by
    intro i c x w r w' h
    obtain ⟨⟨r', w₁⟩, hr, he⟩ := Option.map_eq_some_iff.mp h
    cases he
    exact ⟨w₁, respondClient_sound hr, rfl⟩
  finish_sound := by
    intro i o w w' h
    cases h
    rfl
  die_sound := by
    intro i w w' h
    cases h
    rfl

end AgentResilience
