/-
  AgentResilience.AwsQueue — the deliveries of the AWS store, over any interleaving of the
  calls of workers, heartbeats, requests and listings, each failing with or without effect,
  each thread dying at any of them, the queues handing out any message again at any time, and
  SQS moving and dropping messages.

  - `Accounts`: the invariant of the queues and the journal. `Adds` says what a step must show of
    what it adds: `send_adds`, `receive_adds`, `delete_adds`, `upkeep_adds`. `reachable_accounts`:
    every run.
  - `aws_accounted`: no message is lost. It is deleted by its holder's acknowledgement, or after
    a copy of it reached the dead-letter queue, where SQS moves it if it was received too often;
    and a dead letter after a new message went out for it. Else its retention period ended.
  - `aws_delivered`: what a worker holds is what was sent, and a dead letter reads as a delivery
    handed out as often as its task allows, or as the task's message that SQS moved.
-/
import AgentResilience.AwsGrip

namespace AgentResilience

open Interaction
open AWSDurableStore (messageBody)
open Messages (Queue Handed HandsOut Grown DeletedFor Receipt deletedFor_empty)

variable {self : AWSDurableStore} {rt : WorkflowRuntime} {config : Settings} {w w' : AwsWorld} {limit : Nat}

/-! ## Texts read back -/

theorem loads_task (taskId : String) (n : Nat) : Json.loads (taskText taskId n) = some (messageBody taskId n) :=
  Json.loads_dumps Json.plain_spaced (by simp [messageBody, Json.WellFormed, Json.WellFormedFields, Dict.keys])

theorem loads_copy {d : QueueDelivery} (hd : d.payload = .obj []) (e : String) :
    Json.loads (copyText d e) = some (deadLetterBody d e) :=
  Json.loads_dumps Json.plain_spaced (by simp [deadLetterBody, hd, Json.WellFormed, Json.WellFormedFields, Dict.keys])

/-- A task's message is read as it was sent. -/
theorem delivery_task {m : Received} {taskId : String} {n : Nat} (h : m.body = taskText taskId n) :
    m.delivery = .ok ⟨m.receiptHandle, taskId, m.receiveCount, n, .obj []⟩ := by
  unfold Received.delivery
  rw [h, loads_task]
  rfl

/-- A copy reads as the delivery it is of. -/
theorem deadLetter_copy {m : Received} {d : QueueDelivery} {e : String} (h : m.body = copyText d e) (hd : d.payload = .obj []) :
    m.deadLetter = .ok ⟨m.receiptHandle, d.taskId, d.attempts, d.maxAttempts, some (e.take 2000).toString, d.payload, m.sentAt⟩ := by
  unfold Received.deadLetter
  rw [h, loads_copy hd]
  rfl

/-- A task's message that SQS moved has no error, and the attempts it was received. -/
theorem deadLetter_task {m : Received} {taskId : String} {n : Nat} (h : m.body = taskText taskId n) :
    m.deadLetter = .ok ⟨m.receiptHandle, taskId, m.receiveCount, n, none, .obj [], m.sentAt⟩ := by
  unfold Received.deadLetter
  rw [h, loads_task]
  rfl

/-! ## The invariant -/

/-- The queue handed the delivery out, as it says. -/
def Traced (work : Queue String String) (d : QueueDelivery) : Prop :=
  work.HandedOut ⟨taskText d.taskId d.maxAttempts, toString d.id, d.attempts⟩ ∧ d.payload = .obj []

/-- A thread acknowledged the delivery it held. -/
def Acknowledged (journal : List AwsEntry) (receiptHandle : String) : Prop :=
  ∃ i d r rest, .did i ⟨some (.store (.acknowledge d.id)), .sqs (.deleteMessage .work receiptHandle)⟩ r :: rest <:+ journal ∧
    (grip i rest).delivery = some d ∧ receiptHandle = toString d.id

/-- A thread that held a spent delivery sent a copy of it to the dead letters, and then deleted its message. -/
def Copied (journal : List AwsEntry) (dead : Queue String String) (receiptHandle : String) : Prop :=
  ∃ i method d e r rest, .did i ⟨method, .sqs (.deleteMessage .work receiptHandle)⟩ r :: rest <:+ journal ∧
    (grip i rest).delivery = some d ∧ receiptHandle = toString d.id ∧ d.maxAttempts ≤ d.attempts ∧
    (grip i rest).copied = some (copyText d e) ∧ copyText d e ∈ dead.bodies

/-- A replay of the dead letter sent a new message for the task, and then deleted the dead letter. -/
def Resent (journal : List AwsEntry) (work : Queue String String) (receiptHandle : String) : Prop :=
  ∃ i id taskId n actor reason r rest,
    .did i ⟨some (.store (.replayDeadLetter id taskId n actor reason)), .sqs (.deleteMessage .dead receiptHandle)⟩ r :: rest <:+ journal ∧
    receiptHandle = toString id ∧ (grip i rest).requeued = some (taskText taskId n) ∧ taskText taskId n ∈ work.bodies

/-- SQS moved the message, handed out `limit` times. -/
structure Redriven (limit : Nat) (work : Queue String String) (message : Nat) (body : String) : Prop where
  moved : message ∈ work.moved
  body : work.bodies[message]? = some body
  received : limit ≤ work.received message

theorem Redriven.grown {work work' : Queue String String} {message : Nat} {body : String} (h : Redriven limit work message body)
    (hg : Grown work work') : Redriven limit work' message body :=
  ⟨hg.moved.subset h.moved, hg.body h.body, h.received.trans (hg.received message)⟩

/-- The message's retention period ended. -/
def Expired (journal : List AwsEntry) (name : QueueName) (message : Nat) : Prop :=
  ∃ i method r rest, .did i ⟨method, .upkeep (.expire name message)⟩ r :: rest <:+ journal

/-- What a dead letter is: the copy of a spent delivery, or a message that SQS moved, with the number of times it was handed out. -/
def DeadLetter (limit : Nat) (work : Queue String String) (x : String × Nat) : Prop :=
  (∃ d e, x.1 = copyText d e ∧ Traced work d ∧ d.maxAttempts ≤ d.attempts) ∨ limit ≤ x.2 ∧ ∃ message, Redriven limit work message x.1

theorem DeadLetter.grown {work work' : Queue String String} {x : String × Nat} (h : DeadLetter limit work x) (hg : Grown work work') :
    DeadLetter limit work' x := by
  rcases h with ⟨d, e, he, hd, hspent⟩ | ⟨hx, message, hm⟩
  · exact .inl ⟨d, e, he, ⟨hg.handedOut hd.1, hd.2⟩, hspent⟩
  · exact .inr ⟨hx, message, hm.grown hg⟩

structure Accounts (limit : Nat) (w : AwsWorld) : Prop where
  tasks : ∀ body ∈ w.work.bodies, ∃ taskId n, body = taskText taskId n
  letters : ∀ x ∈ w.dead.arrivals, DeadLetter limit w.work x
  moved : ∀ message ∈ w.work.moved, ∃ body ∈ w.dead.bodies, Redriven limit w.work message body
  unmoved : w.dead.moved = []
  expired : ∀ name, ∀ message ∈ (w.queue name).expired, Expired w.journal name message
  held : ∀ i d, (grip i w.journal).delivery = some d → Traced w.work d
  copied : ∀ i body, (grip i w.journal).copied = some body → body ∈ w.dead.bodies
  requeued : ∀ i body, (grip i w.journal).requeued = some body → body ∈ w.work.bodies
  work : DeletedFor (fun receiptHandle => Acknowledged w.journal receiptHandle ∨ Copied w.journal w.dead receiptHandle) w.work
  dead : DeletedFor (Resent w.journal w.work) w.dead

theorem accounts_init : Accounts limit .init := by
  refine ⟨nofun, nofun, nofun, rfl, fun name message h => ?_, nofun, nofun, nofun, deletedFor_empty, deletedFor_empty⟩
  cases name <;> cases h

/-- What a step must show of what it adds. -/
structure Adds (limit : Nat) (w w' : AwsWorld) : Prop where
  journal : w.journal <:+ w'.journal
  workGrown : Grown w.work w'.work
  deadGrown : Grown w.dead w'.dead
  tasks : ∀ body ∈ w'.work.bodies, body ∈ w.work.bodies ∨ ∃ taskId n, body = taskText taskId n
  letters : ∀ x ∈ w'.dead.arrivals, x ∈ w.dead.arrivals ∨ DeadLetter limit w'.work x
  moved : ∀ message ∈ w'.work.moved, message ∈ w.work.moved ∨ ∃ body ∈ w'.dead.bodies, Redriven limit w'.work message body
  unmoved : w'.dead.moved = w.dead.moved
  expired : ∀ name, ∀ message ∈ (w'.queue name).expired, message ∈ (w.queue name).expired ∨ Expired w'.journal name message
  held : ∀ i d, (grip i w'.journal).delivery = some d → (grip i w.journal).delivery = some d ∨ Traced w'.work d
  copied : ∀ i body, (grip i w'.journal).copied = some body → (grip i w.journal).copied = some body ∨ body ∈ w'.dead.bodies
  requeued : ∀ i body, (grip i w'.journal).requeued = some body → (grip i w.journal).requeued = some body ∨ body ∈ w'.work.bodies
  work : w'.work.deleted = w.work.deleted ∨ ∃ receiptHandle, w'.work = w.work.delete receiptHandle ∧
    (Acknowledged w'.journal receiptHandle ∨ Copied w'.journal w'.dead receiptHandle)
  dead : w'.dead.deleted = w.dead.deleted ∨ ∃ receiptHandle, w'.dead = w.dead.delete receiptHandle ∧
    Resent w'.journal w'.work receiptHandle

theorem Accounts.step (h : Accounts limit w) (ha : Adds limit w w') : Accounts limit w' := by
  have htraced : ∀ {d}, Traced w.work d → Traced w'.work d := fun hd => ⟨ha.workGrown.handedOut hd.1, hd.2⟩
  have hwork : DeletedFor (fun receiptHandle => Acknowledged w'.journal receiptHandle ∨ Copied w'.journal w'.dead receiptHandle) w.work := by
    refine h.work.mono fun receiptHandle hs => ?_
    rcases hs with ⟨i, d, r, rest, hrest, hd⟩ | ⟨i, method, d, e, r, rest, hrest, hd, hid, hspent, hcopied, hmem⟩
    · exact .inl ⟨i, d, r, rest, hrest.trans ha.journal, hd⟩
    · exact .inr ⟨i, method, d, e, r, rest, hrest.trans ha.journal, hd, hid, hspent, hcopied, ha.deadGrown.mem hmem⟩
  have hdead : DeletedFor (Resent w'.journal w'.work) w.dead := by
    refine h.dead.mono fun receiptHandle hs => ?_
    obtain ⟨i, id, taskId, n, actor, reason, r, rest, hrest, hid, hrequeued, hsent⟩ := hs
    exact ⟨i, id, taskId, n, actor, reason, r, rest, hrest.trans ha.journal, hid, hrequeued, ha.workGrown.mem hsent⟩
  refine ⟨fun body hb => ?_, fun x hx => ?_, fun message hm => ?_, ha.unmoved.trans h.unmoved, fun name message hm => ?_, fun i d hd => ?_,
    fun i body hb => ?_, fun i body hb => ?_, ?_, ?_⟩
  · rcases ha.tasks body hb with hb | hb
    · exact h.tasks body hb
    · exact hb
  · rcases ha.letters x hx with hx | hx
    · exact (h.letters x hx).grown ha.workGrown
    · exact hx
  · rcases ha.moved message hm with hm | hm
    · obtain ⟨body, hb, hm⟩ := h.moved message hm
      exact ⟨body, ha.deadGrown.mem hb, hm.grown ha.workGrown⟩
    · exact hm
  · rcases ha.expired name message hm with hm | hm
    · obtain ⟨i, method, r, rest, hrest⟩ := h.expired name message hm
      exact ⟨i, method, r, rest, hrest.trans ha.journal⟩
    · exact hm
  · rcases ha.held i d hd with hd | hd
    · exact htraced (h.held i d hd)
    · exact hd
  · rcases ha.copied i body hb with hb | hb
    · exact ha.deadGrown.mem (h.copied i body hb)
    · exact hb
  · rcases ha.requeued i body hb with hb | hb
    · exact ha.workGrown.mem (h.requeued i body hb)
    · exact hb
  · rcases ha.work with hd | ⟨receiptHandle, hd, hs⟩
    · exact hwork.grown ha.workGrown hd
    · rw [hd]
      exact hwork.delete hs
  · rcases ha.dead with hd | ⟨receiptHandle, hd, hs⟩
    · exact hdead.grown ha.deadGrown hd
    · rw [hd]
      exact hdead.delete hs

/-! ## What a call does to what a thread holds -/

theorem after_kept {g : Grip} {method : Option Call} {c : ClientCall} (hsend : ∀ name body, c ≠ .sqs (.sendMessage name body))
    (hreceive : ∀ name n t, c ≠ .sqs (.receiveMessage name n t)) (r : Except PyError c.Ret) : g.after ⟨method, c⟩ r = g := by
  unfold Grip.after
  split <;> first | rfl | simp_all

theorem delivery_send (g : Grip) (method : Option Call) (name : QueueName) (body : String) (r : Except PyError Nat) :
    (g.after ⟨method, .sqs (.sendMessage name body)⟩ r).delivery = g.delivery := by
  unfold Grip.after
  split <;> first | rfl | simp_all

/-- The copy a thread sent is among the dead letters. -/
theorem copied_send {g : Grip} {method : Option Call} {name : QueueName} {body x : String} {r : Except PyError Nat}
    (h : (g.after ⟨method, .sqs (.sendMessage name body)⟩ r).copied = some x) : g.copied = some x ∨ name = .dead ∧ x = body := by
  unfold Grip.after at h
  split at h
  · rename_i he _
    cases he
  · rename_i he _
    cases he
  · rename_i he
    cases he
    exact .inr ⟨rfl, (Option.some.inj h).symm⟩
  · exact .inl h
  · exact .inl h

theorem requeued_send {g : Grip} {method : Option Call} {name : QueueName} {body x : String} {r : Except PyError Nat}
    (h : (g.after ⟨method, .sqs (.sendMessage name body)⟩ r).requeued = some x) : g.requeued = some x ∨ name = .work ∧ x = body := by
  unfold Grip.after at h
  split at h
  · rename_i he _
    cases he
  · rename_i he _
    cases he
  · exact .inl h
  · rename_i he
    cases he
    exact .inr ⟨rfl, (Option.some.inj h).symm⟩
  · exact .inl h

/-- A claim holds the first message it received; a listing holds none. -/
theorem delivery_receive {g : Grip} {method : Option Call} {name : QueueName} {n : Nat} {t : Int} {r : Except PyError (List Received)}
    {d : QueueDelivery} (h : (g.after ⟨method, .sqs (.receiveMessage name n t)⟩ r).delivery = some d) : g.delivery = some d ∨
      ∃ message rest, method ≠ none ∧ r = .ok (message :: rest) ∧ message.delivery = .ok d := by
  unfold Grip.after at h
  split at h
  · cases h
  · rename_i message rest he
    cases he
    split at h
    · rename_i d' hd
      cases h
      exact .inr ⟨message, rest, (fun e => by cases e), rfl, hd⟩
    · exact .inl h
  · rename_i he _
    cases he
  · rename_i he _
    cases he
  · exact .inl h

theorem after_receive (g : Grip) (method : Option Call) (name : QueueName) (n : Nat) (t : Int) (r : Except PyError (List Received)) :
    (g.after ⟨method, .sqs (.receiveMessage name n t)⟩ r).copied = g.copied ∧
      (g.after ⟨method, .sqs (.receiveMessage name n t)⟩ r).requeued = g.requeued := by
  unfold Grip.after
  split
  · exact ⟨rfl, rfl⟩
  · split <;> exact ⟨rfl, rfl⟩
  · rename_i he _
    cases he
  · rename_i he _
    cases he
  · exact ⟨rfl, rfl⟩

/-! ## Steps -/

theorem grip_did (i j : ThreadId) (c : MethodCall) (r : Except PyError c.Ret) (es : List AwsEntry) :
    grip j (.did i c r :: es) = if i = j then (grip j es).after c r else grip j es := by
  rfl

/-- What a thread holds after a call, of any thread, from what it holds after its own. -/
theorem grip_field {β : Type} {f : Grip → Option β} {B : β → Prop} {i : ThreadId} {c : MethodCall} {r : Except PyError c.Ret}
    {es : List AwsEntry} (h : ∀ x, f ((grip i es).after c r) = some x → f (grip i es) = some x ∨ B x) (j : ThreadId) (x : β)
    (hx : f (grip j (.did i c r :: es)) = some x) : f (grip j es) = some x ∨ B x := by
  rw [grip_did] at hx
  split at hx
  · rename_i e
    subst e
    exact h x hx
  · exact .inl hx

/-- A step that drops no message. -/
theorem expired_same (hwork : w'.work.expired = w.work.expired) (hdead : w'.dead.expired = w.dead.expired) (name : QueueName) (message : Nat)
    (hm : message ∈ (w'.queue name).expired) : message ∈ (w.queue name).expired ∨ Expired w'.journal name message := by
  cases name
  · exact .inl (hwork ▸ hm)
  · exact .inl (hdead ▸ hm)

/-- A step that leaves the queues alone. -/
theorem Adds.idle (hj : w.journal <:+ w'.journal) (hwork : w'.work = w.work) (hdead : w'.dead = w.dead)
    (hgrip : ∀ i, grip i w'.journal = grip i w.journal) : Adds limit w w' := by
  refine ⟨hj, hwork ▸ .refl _, hdead ▸ .refl _, fun body hb => .inl (hwork ▸ hb), fun x hx => .inl (hdead ▸ hx),
    fun message hm => .inl (hwork ▸ hm), by rw [hdead], expired_same (by rw [hwork]) (by rw [hdead]), fun i d hd => ?_, fun i body hb => ?_,
    fun i body hb => ?_, .inl (by rw [hwork]), .inl (by rw [hdead])⟩
  · rw [hgrip] at hd
    exact .inl hd
  · rw [hgrip] at hb
    exact .inl hb
  · rw [hgrip] at hb
    exact .inl hb

/-- The message received by a claim was handed out, and is a task's. -/
theorem received_traced (h : Accounts limit w) {q' : Queue String String} {xs : List (Handed String String)} (hands : HandsOut w.work xs q')
    {message : Received} {rest : List Received} (hof : List.Forall₂ Received.Of (message :: rest) xs) {d : QueueDelivery}
    (hd : message.delivery = .ok d) : Traced q' d := by
  cases hof with
  | @cons _ x _ xs' hx _ =>
    have hout := hands.handedOut x List.mem_cons_self
    obtain ⟨r, hr, hhandle, hcount, hbody⟩ := hout
    have hmem : x.body ∈ w.work.bodies := by
      rw [← hands.shown.bodies]
      exact List.mem_of_getElem? hbody
    obtain ⟨taskId, n, htext⟩ := h.tasks _ hmem
    rw [delivery_task (hx.body.trans htext)] at hd
    cases hd
    exact ⟨⟨r, hr, hhandle.trans hx.handle.symm, hcount.trans hx.count.symm, hbody.trans (congrArg some htext)⟩, rfl⟩

/-- A call that changes neither the queues nor what its thread holds. -/
theorem quiet_adds {i : ThreadId} {c : MethodCall} {r : Except PyError c.Ret} (hwork : w'.work = w.work) (hdead : w'.dead = w.dead)
    (hafter : (grip i w.journal).after c r = grip i w.journal) : Adds limit w { w' with journal := .did i c r :: w.journal } := by
  refine .idle (List.suffix_cons ..) hwork hdead fun j => ?_
  rw [grip_did]
  split
  · rename_i e
    subst e
    exact hafter
  · rfl

theorem send_adds (h : Accounts limit w) {i : ThreadId} {method : Option Call} {name : QueueName} {body : String} {r : Except PyError Nat}
    (hmay : (grip i w.journal).may ⟨method, .sqs (.sendMessage name body)⟩) :
    Adds limit w { w.withQueue ((w.queue name).send body) name with journal := .did i ⟨method, .sqs (.sendMessage name body)⟩ r :: w.journal } := by
  cases name with
  | work =>
    obtain ⟨taskId, n, htext⟩ := hmay
    refine ⟨List.suffix_cons .., .add _ _ _, .refl _, fun x hx => ?_, fun x hx => .inl hx, fun x hx => .inl hx, rfl, expired_same rfl rfl,
      grip_field fun d hd => ?_, grip_field fun x hx => ?_, grip_field fun x hx => ?_, .inl rfl, .inl rfl⟩
    · rcases Queue.mem_add.mp hx with hx | rfl
      · exact .inl hx
      · exact .inr ⟨taskId, n, htext⟩
    · rw [delivery_send] at hd
      exact .inl hd
    · rcases copied_send hx with hx | ⟨he, -⟩
      · exact .inl hx
      · cases he
    · rcases requeued_send hx with hx | ⟨-, rfl⟩
      · exact .inl hx
      · exact .inr (Queue.mem_add.mpr (.inr rfl))
  | dead =>
    obtain ⟨d, e, hd, hspent, htext⟩ := hmay
    refine ⟨List.suffix_cons .., .refl _, .add _ _ _, fun x hx => .inl hx, fun x hx => ?_, fun x hx => .inl hx, rfl, expired_same rfl rfl,
      grip_field fun d hd => ?_, grip_field fun x hx => ?_, grip_field fun x hx => ?_, .inl rfl, .inl rfl⟩
    · rcases Queue.mem_arrivals_add.mp hx with hx | rfl
      · exact .inl hx
      · exact .inr (.inl ⟨d, e, htext, h.held i d hd, hspent⟩)
    · rw [delivery_send] at hd
      exact .inl hd
    · rcases copied_send hx with hx | ⟨-, rfl⟩
      · exact .inl hx
      · exact .inr (Queue.mem_add.mpr (.inr rfl))
    · rcases requeued_send hx with hx | ⟨he, -⟩
      · exact .inl hx
      · cases he

theorem receive_adds (h : Accounts limit w) {i : ThreadId} {method : Option Call} {name : QueueName} {n : Nat} {t : Int}
    {r : Except PyError (List Received)} (hmay : (grip i w.journal).may ⟨method, .sqs (.receiveMessage name n t)⟩)
    {xs : List (Handed String String)} {q' : Queue String String} (hands : HandsOut (w.queue name) xs q')
    (hof : ∀ messages, r = .ok messages → List.Forall₂ Received.Of messages xs) :
    Adds limit w { w.withQueue q' name with journal := .did i ⟨method, .sqs (.receiveMessage name n t)⟩ r :: w.journal } := by
  obtain ⟨hgrown, hbodies, harrivals, hdeleted, hmoved, hexpired⟩ := hands.shown
  have hafter := after_receive (grip i w.journal) method name n t r
  cases name with
  | work =>
    refine ⟨List.suffix_cons .., hgrown, .refl _, fun x hx => .inl (hbodies ▸ hx), fun x hx => .inl hx, fun x hx => .inl (hmoved ▸ hx), rfl,
      expired_same hexpired rfl, grip_field fun d hd => ?_,
      grip_field fun x hx => .inl (hafter.1.symm.trans hx), grip_field fun x hx => .inl (hafter.2.symm.trans hx), .inl hdeleted, .inl rfl⟩
    rcases delivery_receive hd with hd | ⟨message, rest, -, hr, hd⟩
    · exact .inl hd
    · exact .inr (received_traced h hands (hof _ hr) hd)
  | dead =>
    -- a listing, which claims nothing
    refine ⟨List.suffix_cons .., .refl _, hgrown, fun x hx => .inl hx, fun x hx => .inl (harrivals ▸ hx), fun x hx => .inl hx, hmoved,
      expired_same rfl hexpired, grip_field fun d hd => ?_,
      grip_field fun x hx => .inl (hafter.1.symm.trans hx), grip_field fun x hx => .inl (hafter.2.symm.trans hx), .inl rfl, .inl hdeleted⟩
    rcases delivery_receive hd with hd | ⟨message, rest, hmethod, -⟩
    · exact .inl hd
    · cases hmay hmethod

theorem delete_adds (h : Accounts limit w) {i : ThreadId} {method : Option Call} {name : QueueName} {receiptHandle : String} {r : Except PyError Unit}
    (hmay : (grip i w.journal).may ⟨method, .sqs (.deleteMessage name receiptHandle)⟩) :
    Adds limit w { w.withQueue ((w.queue name).delete receiptHandle) name with
      journal := .did i ⟨method, .sqs (.deleteMessage name receiptHandle)⟩ r :: w.journal } := by
  have hgrip : ∀ j, grip j (.did i ⟨method, .sqs (.deleteMessage name receiptHandle)⟩ r :: w.journal) = grip j w.journal := by
    intro j
    rw [grip_did]
    split
    · exact after_delete ..
    · rfl
  cases name with
  | work =>
    obtain ⟨d, hd, hhandle, hreason⟩ := hmay
    refine ⟨List.suffix_cons .., .delete _ _, .refl _, fun x hx => .inl (Queue.mem_delete.mp hx), fun x hx => .inl hx, fun x hx => .inl ?_, rfl,
      expired_same (Queue.expired_delete _ _) rfl, fun j x hx => .inl (hgrip j ▸ hx), fun j x hx => .inl (hgrip j ▸ hx),
      fun j x hx => .inl (hgrip j ▸ hx), .inr ⟨receiptHandle, rfl, ?_⟩, .inl rfl⟩
    · exact (Queue.moved_delete w.work receiptHandle) ▸ hx
    · rcases hreason with hack | ⟨e, hspent, hcopied⟩
      · cases hack
        exact .inl ⟨i, d, r, w.journal, List.suffix_rfl, hd, hhandle⟩
      · exact .inr ⟨i, method, d, e, r, w.journal, List.suffix_rfl, hd, hhandle, hspent, hcopied, h.copied i _ hcopied⟩
  | dead =>
    obtain ⟨id, taskId, n, actor, reason, hmethod, hhandle, hrequeued⟩ := hmay
    cases hmethod
    refine ⟨List.suffix_cons .., .refl _, .delete _ _, fun x hx => .inl hx, fun x hx => .inl ?_, fun x hx => .inl hx, Queue.moved_delete _ _,
      expired_same rfl (Queue.expired_delete _ _), fun j x hx => .inl (hgrip j ▸ hx), fun j x hx => .inl (hgrip j ▸ hx),
      fun j x hx => .inl (hgrip j ▸ hx), .inl rfl, .inr ⟨receiptHandle, rfl, ?_⟩⟩
    · exact (Queue.arrivals_delete w.dead receiptHandle) ▸ hx
    · exact ⟨i, id, taskId, n, actor, reason, r, w.journal, List.suffix_rfl, hhandle, hrequeued, h.requeued i _ hrequeued⟩

theorem upkeep_adds {i : ThreadId} {method : Option Call} {c : Upkeep} {r : Except PyError Unit} {w₁ : AwsWorld} (h : UpkeepEffect c w w₁)
    (hc : ∀ n message, c = .redrive n message → n = limit) :
    Adds limit w { w₁ with journal := .did i ⟨method, .upkeep c⟩ r :: w.journal } := by
  have hgrip : ∀ j, grip j (.did i ⟨method, .upkeep c⟩ r :: w.journal) = grip j w.journal := by
    intro j
    rw [grip_did]
    split
    · exact after_kept (fun _ _ e => by cases e) (fun _ _ _ e => by cases e) _
    · rfl
  cases c with
  | redrive n message =>
    obtain rfl := hc n message rfl
    obtain ⟨body, hbody, hreceived, rfl⟩ := h
    have hredriven : Redriven n (w.work.move message) message body := ⟨List.mem_cons_self, hbody, hreceived⟩
    refine ⟨List.suffix_cons .., .move _ _, .add _ _ _, fun x hx => .inl hx, fun x hx => ?_, fun x hx => ?_, rfl, expired_same rfl rfl,
      fun j x hx => .inl (hgrip j ▸ hx), fun j x hx => .inl (hgrip j ▸ hx), fun j x hx => .inl (hgrip j ▸ hx), .inl rfl, .inl rfl⟩
    · rcases Queue.mem_arrivals_add.mp hx with hx | rfl
      · exact .inl hx
      · exact .inr (.inr ⟨hreceived, message, hredriven⟩)
    · rcases List.mem_cons.mp hx with rfl | hx
      · exact .inr ⟨body, Queue.mem_add.mpr (.inr rfl), hredriven⟩
      · exact .inl hx
  | expire name message =>
    obtain rfl := h
    have hgrown : Grown w.work (w.withQueue ((w.queue name).expire message) name).work ∧
        Grown w.dead (w.withQueue ((w.queue name).expire message) name).dead := by
      cases name
      · exact ⟨.expire _ _, .refl _⟩
      · exact ⟨.refl _, .expire _ _⟩
    refine ⟨List.suffix_cons .., hgrown.1, hgrown.2, fun x hx => .inl ?_, fun x hx => .inl ?_, fun x hx => .inl ?_, ?_,
      fun name' message' hm => ?_, fun j x hx => .inl (hgrip j ▸ hx), fun j x hx => .inl (hgrip j ▸ hx), fun j x hx => .inl (hgrip j ▸ hx),
      .inl ?_, .inl ?_⟩
    case refine_5 =>
      have hstep : Expired (.did i ⟨method, .upkeep (.expire name message)⟩ r :: w.journal) name message := ⟨i, method, r, w.journal, List.suffix_rfl⟩
      cases name <;> cases name'
      all_goals first
        | exact .inl hm
        | rcases List.mem_cons.mp hm with rfl | hm
          · exact .inr hstep
          · exact .inl hm
    all_goals cases name <;> first | exact hx | rfl

theorem call_accounts (h : Accounts limit w) {i : ThreadId} {c : MethodCall} {r : Except PyError c.Ret} (hmay : (grip i w.journal).may c)
    (hwithin : c.call.Within DurableCall.files limit) (hs : awsCalls i c w r w') : Accounts limit w' := by
  refine h.step ?_
  obtain ⟨w₁, he, rfl⟩ := hs
  obtain ⟨method, call⟩ := c
  cases call with
  | table d =>
    obtain ⟨table', -, rfl⟩ := he
    exact quiet_adds rfl rfl (after_table ..)
  | outside d =>
    obtain rfl := he
    exact quiet_adds rfl rfl (after_kept (fun _ _ e => by cases e) (fun _ _ _ e => by cases e) _)
  | upkeep d =>
    refine upkeep_adds he.2 fun n message e => ?_
    subst e
    exact hwithin
  | sqs s =>
    -- served, or raising without effect
    have hcase : (∃ a, SqsEffect s w a w₁ ∧ ∀ b, r = .ok b → b = a) ∨ w₁ = w ∧ ∃ e, r = .error e := by
      rcases he with ⟨a, rfl, hs⟩ | ⟨⟨e, rfl⟩, rfl | ⟨a, hs⟩⟩
      · exact .inl ⟨a, hs, fun b hb => (Except.ok.inj hb).symm⟩
      · exact .inr ⟨rfl, e, rfl⟩
      · exact .inl ⟨a, hs, fun b hb => by cases hb⟩
    rcases hcase with ⟨a, hs, hanswer⟩ | ⟨rfl, e, rfl⟩
    swap
    · exact quiet_adds rfl rfl (after_error ..)
    cases s with
    | sendMessage name body =>
      obtain rfl := hs
      exact send_adds h hmay
    | receiveMessage name n t =>
      obtain ⟨xs, q', hands, hof, rfl⟩ := hs
      exact receive_adds h hmay hands fun messages hr => hanswer _ hr ▸ hof
    | changeMessageVisibility name receiptHandle t =>
      obtain rfl := hs
      exact quiet_adds rfl rfl (after_kept (fun _ _ e => by cases e) (fun _ _ _ e => by cases e) _)
    | getQueueAttributes name =>
      obtain rfl := hs
      exact quiet_adds rfl rfl (after_kept (fun _ _ e => by cases e) (fun _ _ _ e => by cases e) _)
    | deleteMessage name receiptHandle =>
      rcases hs with rfl | rfl
      · exact quiet_adds rfl rfl (after_delete ..)
      · exact delete_adds h hmay

theorem reachable_accounts {cfg : AwsCfg} (h : AwsReachable self { rt with engine := anyEngine, backend := anyBackend } config cfg) :
    Accounts config.maxQueueAttempts cfg.state := by
  induction h with
  | init => exact accounts_init
  | @step cfg _ hr hs ih =>
    -- an entry of a thread's beginning or end
    have hbound : ∀ (e : AwsEntry), (∀ i, (grip i (e :: cfg.state.journal)).delivery = none ∧ (grip i (e :: cfg.state.journal)).copied = none ∧
        (grip i (e :: cfg.state.journal)).requeued = none ∨ grip i (e :: cfg.state.journal) = grip i cfg.state.journal) →
        Accounts config.maxQueueAttempts { cfg.state with journal := e :: cfg.state.journal } := by
      intro e hgrip
      refine ih.step ⟨List.suffix_cons .., .refl _, .refl _, fun x hx => .inl hx, fun x hx => .inl hx, fun x hx => .inl hx, rfl,
        expired_same rfl rfl, fun i d hd => ?_, fun i x hx => ?_, fun i x hx => ?_, .inl rfl, .inl rfl⟩
      · rcases hgrip i with ⟨hnone, -, -⟩ | hsame
        · cases hnone.symm.trans hd
        · exact .inl (hsame ▸ hd)
      · rcases hgrip i with ⟨-, hnone, -⟩ | hsame
        · cases hnone.symm.trans hx
        · exact .inl (hsame ▸ hx)
      · rcases hgrip i with ⟨-, -, hnone⟩ | hsame
        · cases hnone.symm.trans hx
        · exact .inl (hsame ▸ hx)
    cases hs with
    | @enter i p _ _ he =>
      obtain ⟨op, -, rfl⟩ := he
      refine hbound _ fun j => ?_
      by_cases e : i = j
      · exact .inl (by simp [grip, e])
      · exact .inr (if_neg e)
    | call hp hc => exact call_accounts ih (reachable_grips hr hp).1 ((store_files self).reachable hr hp) hc
    | leave _ _ hl =>
      obtain rfl := hl
      exact hbound _ fun j => .inr rfl
    | crash _ hx =>
      obtain rfl := hx
      exact hbound _ fun j => .inr rfl

/-- No delivery of the AWS store is lost: a message leaves the work queue by its holder's acknowledgement, once a copy is among the
    dead letters, or moved there by SQS, received as often as the redrive policy allows; a dead letter leaves once a replay has sent
    a new message; and either when its retention period ends. -/
theorem aws_accounted (self : AWSDurableStore) (rt : WorkflowRuntime) (config : Settings) {cfg : AwsCfg}
    (h : AwsReachable self { rt with engine := anyEngine, backend := anyBackend } config cfg) :
    (∀ message, cfg.state.work.Gone message →
      (∃ r ∈ cfg.state.work.receipts, r.message = message ∧
        (Acknowledged cfg.state.journal r.handle ∨ Copied cfg.state.journal cfg.state.dead r.handle)) ∨
      (∃ body ∈ cfg.state.dead.bodies, Redriven config.maxQueueAttempts cfg.state.work message body) ∨
      Expired cfg.state.journal .work message) ∧
    ∀ message, cfg.state.dead.Gone message →
      (∃ r ∈ cfg.state.dead.receipts, r.message = message ∧ Resent cfg.state.journal cfg.state.work r.handle) ∨
      Expired cfg.state.journal .dead message := by
  have haccounts := reachable_accounts h
  constructor
  · rintro message (hdeleted | hmoved | hexpired)
    · exact .inl (haccounts.work message hdeleted)
    · exact .inr (.inl (haccounts.moved message hmoved))
    · exact .inr (.inr (haccounts.expired .work message hexpired))
  · rintro message (hdeleted | hmoved | hexpired)
    · exact .inl (haccounts.dead message hdeleted)
    · rw [haccounts.unmoved] at hmoved
      cases hmoved
    · exact .inr (haccounts.expired .dead message hexpired)

/-- The calls of thread `i` that are served. -/
def served (i : ThreadId) (n : Nat) : List (Move ThreadId AwsOperation ClientAnswer) := List.replicate n (.call i .served)

/-- A workflow is created, and sent for. -/
def createsOnAws : List (Move ThreadId AwsOperation ClientAnswer) :=
  [.enter 0 (.runs (.createIncident "t" "restore checkout" "checkout-pool-exhaustion")), .call 0 (.outside (.ok 0))] ++ served 0 5 ++ [.leave 0]

/-- A workflow's only delivery fails, and its copy goes to the dead letters. The worker of another one dies, SQS moves its message,
    and the dead letters are listed. -/
def givesUp : List (Move ThreadId AwsOperation ClientAnswer) :=
  createsOnAws ++
  [.enter 0 (.runs (.createIncident "u" "restore checkout" "checkout-pool-exhaustion")), .call 0 (.outside (.ok 0))] ++ served 0 5 ++ [.leave 0] ++
  [.enter 1 (.runs (.runOnce "w1")), .call 1 (.handed 0 7)] ++ served 1 6 ++ [.call 1 (.outside (.decision 0 (.error (.retryable "timeout"))))] ++
  served 1 7 ++ [.enter 2 (.runs (.runOnce "w2")), .call 2 (.handed 1 8), .crash 2, .enter 3 (.redrives 1), .call 3 .served, .leave 3,
    .enter 4 (.listDeadLetters 10), .call 4 (.handed 1 9)]

def onSqsBackend : AWSDurableStore := ⟨some "dead-letters"⟩

def gaveUp (cfg : AwsCfg) : Bool :=
  decide (cfg.state.work.deleted = [0] ∧ cfg.state.work.moved = [1] ∧ cfg.state.dead.bodies.length = 2 ∧
    cfg.state.dead.receipts.map (fun r => (r.handle, r.message, r.count)) = [("9", 1, 2)]) && (grip 1 cfg.state.journal).delivery.isSome

theorem givesUp_plays : ((awsPlayer onSqsBackend {} oneAttempt).play ⟨AwsWorld.init, fun _ => none⟩ givesUp).any gaveUp = true := by
  decide +kernel

/-- Both messages are gone, one deleted and one moved. -/
theorem aws_accounted_dead : ∃ cfg, AwsReachable onSqsBackend {} oneAttempt cfg ∧ cfg.state.work.deleted = [0] ∧ cfg.state.work.moved = [1] ∧
    ∀ message ∈ [0, 1], (∃ r ∈ cfg.state.work.receipts, r.message = message ∧
        (Acknowledged cfg.state.journal r.handle ∨ Copied cfg.state.journal cfg.state.dead r.handle)) ∨
      (∃ body ∈ cfg.state.dead.bodies, Redriven 1 cfg.state.work message body) ∨ Expired cfg.state.journal .work message := by
  obtain ⟨cfg, h, hc⟩ := (awsPlayer onSqsBackend {} oneAttempt).play_exists givesUp_plays
  simp only [gaveUp, Bool.and_eq_true, decide_eq_true_eq] at hc
  obtain ⟨⟨hdeleted, hmoved, -⟩, -⟩ := hc
  refine ⟨cfg, h, hdeleted, hmoved, fun message hm => (aws_accounted onSqsBackend {} oneAttempt h).1 message ?_⟩
  rcases List.mem_pair.mp hm with rfl | rfl
  · exact .inl (hdeleted ▸ List.mem_cons_self)
  · exact .inr (.inl (hmoved ▸ List.mem_cons_self))

/-- What a worker holds is what was sent for the task, with the number of times it was handed out; and whatever dead letter is
    received reads as such a delivery, handed out as often as its task allows, or as the message of a task that SQS moved, with
    no error and the number of times it was received. -/
theorem aws_delivered (self : AWSDurableStore) (rt : WorkflowRuntime) (config : Settings) {cfg : AwsCfg}
    (h : AwsReachable self { rt with engine := anyEngine, backend := anyBackend } config cfg) :
    (∀ i d, (grip i cfg.state.journal).delivery = some d → Traced cfg.state.work d) ∧
      ∀ m x, cfg.state.dead.HandedOut x → Received.Of m x →
        (∃ (d : QueueDelivery) (e : String), Traced cfg.state.work d ∧ d.maxAttempts ≤ d.attempts ∧
          m.deadLetter = .ok ⟨m.receiptHandle, d.taskId, d.attempts, d.maxAttempts, some (e.take 2000).toString, .obj [], m.sentAt⟩) ∨
        ∃ message taskId n, Redriven config.maxQueueAttempts cfg.state.work message (taskText taskId n) ∧
          config.maxQueueAttempts < m.receiveCount ∧
          m.deadLetter = .ok ⟨m.receiptHandle, taskId, m.receiveCount, n, none, .obj [], m.sentAt⟩ := by
  have haccounts := reachable_accounts h
  refine ⟨haccounts.held, fun m x hx hm => ?_⟩
  obtain ⟨before, harrived, hcount⟩ := hx.arrived
  rcases haccounts.letters _ harrived with ⟨d, e, htext, hd, hspent⟩ | ⟨hlimit, message, hredriven⟩
  · refine .inl ⟨d, e, hd, hspent, ?_⟩
    rw [deadLetter_copy (hm.body.trans htext) hd.2, hd.2]
  · obtain ⟨taskId, n, htext⟩ := haccounts.tasks x.body (List.mem_of_getElem? hredriven.body)
    refine .inr ⟨message, taskId, n, htext ▸ hredriven, ?_, deadLetter_task (hm.body.trans htext)⟩
    rw [hm.count]
    exact lt_of_le_of_lt hlimit hcount

/-- The delivery given up on was sent for its task; the message that SQS moved is listed, received twice. -/
theorem aws_delivered_dead : ∃ (cfg : AwsCfg) (d : QueueDelivery) (m : Received) (letter : DeadLetterRecord),
    AwsReachable onSqsBackend {} oneAttempt cfg ∧ (grip 1 cfg.state.journal).delivery = some d ∧ Traced cfg.state.work d ∧
    cfg.state.dead.HandedOut ⟨m.body, toString m.receiptHandle, m.receiveCount⟩ ∧ m.receiveCount = 2 ∧ m.deadLetter = .ok letter := by
  obtain ⟨cfg, h, hc⟩ := (awsPlayer onSqsBackend {} oneAttempt).play_exists givesUp_plays
  simp only [gaveUp, Bool.and_eq_true, decide_eq_true_eq] at hc
  obtain ⟨⟨-, -, hlength, hreceipts⟩, hdelivery⟩ := hc
  obtain ⟨d, hd⟩ := Option.isSome_iff_exists.mp hdelivery
  obtain ⟨r, hr, he⟩ := List.mem_map.mp (hreceipts ▸ List.mem_cons_self : ("9", 1, 2) ∈ cfg.state.dead.receipts.map _)
  simp only [Prod.mk.injEq] at he
  let m : Received := ⟨cfg.state.dead.bodies[1], 9, 2, 0⟩
  have hnine : "9" = toString 9 := by decide
  have hout : cfg.state.dead.HandedOut ⟨m.body, toString m.receiptHandle, m.receiveCount⟩ := by
    refine ⟨r, hr, he.1.trans hnine, he.2.2, ?_⟩
    rw [he.2.1]
    exact List.getElem?_eq_getElem _
  obtain ⟨hheld, hletters⟩ := aws_delivered onSqsBackend {} oneAttempt h
  rcases hletters m _ hout ⟨rfl, rfl, rfl⟩ with ⟨d', e, -, -, hm⟩ | ⟨message, taskId, n, -, -, hm⟩
  · exact ⟨cfg, d, m, _, h, hd, hheld 1 d hd, hout, rfl, hm⟩
  · exact ⟨cfg, d, m, _, h, hd, hheld 1 d hd, hout, rfl, hm⟩

end AgentResilience
