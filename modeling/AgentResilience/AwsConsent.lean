/-
  AgentResilience.AwsConsent — approvals over the AWS store, in any interleaving of calls that
  fail with or without effect, with threads dying anywhere and deliveries handed out again.

  - `awsConsenting`: the script of a thread's calls; `call_consents`: every store method keeps to it.
  - `Consented`: the invariant. A checkpoint's pending action is a production restart under its
    own id, an approval stored as granted was written for a request that grants it, and what a
    thread read as granted is stored so. `reachable_consented`: it holds in every run.
  - `aws_invocations_permitted`: a production restart is invoked while its approval is stored as
    granted, and written for a request.
-/
import AgentResilience.AwsQueue
import AgentResilience.Consent

namespace AgentResilience

open Interaction
open Interaction.Prog (makes_bind makes_attempt makes_perform)
open AWSDurableStore (stateKey approvalKey)

variable {self : AWSDurableStore} {rt : WorkflowRuntime} {config : Settings} {w w' : AwsWorld} {α : Type} {q : Consent}

/-! ## The script -/

/-- The item holds a checkpoint of the task, its pending action in order. -/
def Item.Sound (taskId : String) (item : Item) : Prop := ∃ st, item.stateJson = some st ∧ StateOk Set.univ taskId st

/-- What a thread knows after a call of the table. -/
def Consent.read (q : Consent) (method : Option Call) : (c : DurableCall) → Except PyError c.Ret → Consent
  | .getItem _, .ok (some item) =>
    match method with
    | some (.store (.approvalStatus taskId actionId)) =>
      if item.status = some .approved then { q with approved := some (taskId, actionId) } else q
    | _ => q
  | _, _ => q

def Consent.touches (q : Consent) (method : Option Call) : DurableCall → Prop
  | .getItem key => ∀ taskId actionId, method = some (.store (.approvalStatus taskId actionId)) → key = approvalKey taskId actionId
  | .putItem key item condition => (∀ taskId, key = stateKey taskId → item.Sound taskId) ∧ item.status ≠ some .approved ∧
      ∀ taskId actionId, key = approvalKey taskId actionId → condition = .absent
  | .updateItem key (.checkpoint state _ _) _ => key = stateKey state.taskId ∧ StateOk Set.univ state.taskId state
  | .updateItem key (.resolution status actor reason _) condition => ∃ taskId actionId, key = approvalKey taskId actionId ∧
      condition = .status .pending ∧ (status = .approved → ∃ given : Option String, reason = given.getD "" ∧
        method = some (.store (.resolveApproval taskId actionId true actor given)) ∧ q.op = some (.approve taskId actor given))
  | _ => True

/-- A checkpoint's item that is found is in order. -/
def DurableCall.finds : (c : DurableCall) → Except PyError c.Ret → Prop
  | .getItem key, .ok (some item) => ∀ taskId, key = stateKey taskId → item.Sound taskId
  | _, _ => True

/-- The script of one method. -/
def tableScript (method : Option Call) : Script DurableCall DurableCall.Ret PyError Consent :=
  ⟨fun q c r => q.read method c r, fun q c => q.touches method c, DurableCall.finds⟩

def awsConsenting : Script MethodCall MethodCall.Ret PyError Consent where
  next q c r :=
    match c, r with
    | ⟨method, .table c⟩, r => q.read method c r
    | _, _ => q
  may q c :=
    match c.call with
    | .table d => q.touches c.method d
    | .outside (.execute st tool arguments _) => Validated tool arguments ∧ tool ≠ .deleteDatabase ∧
        (ProductionRestart tool arguments → q.approved = some (st.taskId, actionId st.taskId tool arguments))
    | _ => True
  answers c r :=
    match c, r with
    | ⟨_, .table c⟩, r => c.finds r
    | _, _ => True

/-- The script of one method's client calls. -/
def clientScript (method : Option Call) : Script ClientCall ClientCall.Ret PyError Consent :=
  ⟨fun q c r => awsConsenting.next q ⟨method, c⟩ r, fun q c => awsConsenting.may q ⟨method, c⟩, fun c r => awsConsenting.answers ⟨method, c⟩ r⟩

theorem madeFor_consents {method : Option Call} {p : ClientPy α} {Q : Except PyError α → Consent → Prop}
    (h : Follows (clientScript method) p Q q) : Follows awsConsenting (madeFor method p) Q q := by
  unfold madeFor
  refine Follows.rename (A := clientScript method) (B := awsConsenting) (f := MethodCall.mk method) (fun q c hc => ⟨hc, fun r hr => ?_⟩) h
  have hid : r.map (fun x => x) = r := by cases r <;> rfl
  exact ⟨hid.symm ▸ hr, congrArg _ hid.symm⟩

theorem onClients_consents {method : Option Call} {p : AwsPy α} {Q : Except PyError α → Consent → Prop}
    (h : Follows (tableScript method) p Q q) : Follows (clientScript method) (onClients p) Q q := by
  unfold onClients
  refine Follows.rename (A := tableScript method) (B := clientScript method) (f := DurableCall.onClient) (fun q c hc => ?_) h
  have hread : ∀ (c : DurableCall) (r : Except PyError c.Ret), q.read method c r = q.read method c (r.map fun x => x) := by
    intro c r
    cases r <;> rfl
  cases c with
  | getItem key =>
    refine ⟨hc, fun r hr => ⟨?_, hread (.getItem key) r⟩⟩
    match r with
    | .ok (some item) => exact hr
    | .ok none | .error _ => trivial
  | putItem key item condition => exact ⟨hc, fun r _ => ⟨trivial, hread (.putItem key item condition) r⟩⟩
  | updateItem key update condition => exact ⟨hc, fun r _ => ⟨trivial, hread (.updateItem key update condition) r⟩⟩
  | utcNow => exact ⟨trivial, fun r _ => ⟨trivial, hread .utcNow r⟩⟩
  | uuid4 => exact ⟨trivial, fun r _ => ⟨trivial, hread .uuid4 r⟩⟩
  | sendMessage | deleteMessage => exact ⟨trivial, fun r _ => ⟨trivial, rfl⟩⟩

theorem table_consents {method : Option Call} {p : AwsPy α} {Q : Except PyError α → Consent → Prop}
    (h : Follows (tableScript method) p Q q) : Follows awsConsenting (madeFor method (onClients p)) Q q :=
  madeFor_consents (onClients_consents h)

/-! ## The methods -/

def readsApproval : Option Call → Bool
  | some (.store (.approvalStatus ..)) => true
  | _ => false

theorem read_other {method : Option Call} (hmethod : readsApproval method = false)
    (q : Consent) (c : DurableCall) (r : Except PyError c.Ret) : q.read method c r = q := by
  unfold Consent.read
  split
  · split
    · cases hmethod
    · rfl
  · rfl

theorem next_other {method : Option Call} (hmethod : readsApproval method = false)
    (q : Consent) (c : DurableCall) (r : Except PyError c.Ret) : (tableScript method).next q c r = q :=
  read_other hmethod q c r

theorem read_error (q : Consent) (method : Option Call) (c : DurableCall) (e : PyError) : q.read method c (.error e) = q := by
  unfold Consent.read
  split
  · rename_i he
    cases he
  · rfl

/-- A method whose calls tell its thread nothing of approvals. -/
theorem untold_consents {method : Option Call} (hmethod : readsApproval method = false)
    {p : AwsPy α} (hp : p.Makes fun c => q.touches method c) : Follows (tableScript method) p (fun _ q' => q' = q) q :=
  Follows.fixed hp fun c hc => ⟨hc, fun r => next_other hmethod q c r⟩

/-- A method on the queues alone. -/
theorem sqs_consents {method : Option Call} {p : ClientPy α} (hp : p.Makes fun c => ∃ s, c = .sqs s) :
    Follows awsConsenting (madeFor method p) (fun _ q' => q' = q) q := by
  refine madeFor_consents (Follows.fixed hp fun c hc => ?_)
  obtain ⟨s, rfl⟩ := hc
  exact ⟨trivial, fun _ => rfl⟩

theorem recordEvent_touches (method : Option Call) (taskId : String) (e : EventType) (payload : Json) :
    (AWSDurableStore.recordEvent taskId e payload).Makes fun c => q.touches method c :=
  makes_bind (makes_perform trivial) fun _ => makes_bind (makes_perform trivial) fun _ =>
    orAwsError_makes (makes_perform ⟨fun _ e => absurd e (eventKey_stateKey _ _ _), nofun, fun _ _ e => absurd e (eventKey_approvalKey _ _ _ _)⟩)

theorem createWorkflow_touches {state : WorkflowState} (h : StateOk Set.univ state.taskId state) (method : Option Call) (n : Nat) :
    (AWSDurableStore.createWorkflow state n).Makes fun c => q.touches method c := by
  have hput : ∀ taskId, stateKey state.taskId = stateKey taskId → Item.Sound taskId
      { entityType := some "WORKFLOW", version := some state.version, stateJson := some state, updatedAt := some state.updatedAt } := by
    intro taskId e
    obtain rfl := stateKey_inj.mp e
    exact ⟨state, rfl, h⟩
  refine makes_bind (makes_attempt (makes_perform ⟨hput, nofun, fun _ _ _ => rfl⟩)) fun r => ?_
  split
  · split <;> trivial
  · trivial
  · exact makes_bind (recordEvent_touches ..) fun _ => makes_bind (orAwsError_makes (makes_perform trivial)) fun _ => trivial

theorem getToolResult_touches (key : String) (arguments : Arguments) (k : String) (a : Arguments) :
    (AWSDurableStore.getToolResult key arguments).Makes fun c => q.touches (some (.store (.getToolResult k a))) c := by
  refine makes_bind (orAwsError_makes (makes_perform fun _ _ e => by cases e)) fun item => ?_
  split
  · trivial
  · split
    · trivial
    · split
      · trivial
      · split <;> trivial

theorem saveToolResult_touches (method : Option Call) (key taskId tool : String) (arguments : Arguments) (result : Json) :
    (AWSDurableStore.saveToolResult key taskId tool arguments result).Makes fun c => q.touches method c := by
  refine makes_bind (makes_perform trivial) fun created => ?_
  refine makes_bind (makes_attempt (makes_perform ⟨fun _ e => absurd e.symm (stateKey_resultKey _ _), nofun, fun _ _ _ => rfl⟩)) fun r => ?_
  split
  · split <;> trivial
  all_goals trivial

theorem createApproval_touches (method : Option Call) (taskId actionId : String) :
    (AWSDurableStore.createApproval taskId actionId).Makes fun c => q.touches method c := by
  refine makes_bind (makes_perform trivial) fun created => ?_
  refine makes_bind (makes_attempt (makes_perform
    ⟨fun _ e => absurd e.symm (stateKey_approvalKey _ _ _), (fun e => by cases e), fun _ _ _ => rfl⟩)) fun r => ?_
  split
  · split <;> trivial
  all_goals trivial

/-- An approval is written for the request that asks for it. -/
theorem resolveApproval_touches {taskId actionId actor : String} {approved : Bool} {reason : Option String}
    (hop : approved = true → q.op = some (.approve taskId actor reason)) :
    (AWSDurableStore.resolveApproval taskId actionId approved actor reason).Makes
      fun c => q.touches (some (.store (.resolveApproval taskId actionId approved actor reason))) c := by
  refine makes_bind (makes_perform trivial) fun resolved => ?_
  refine makes_bind (makes_attempt (makes_perform ⟨taskId, actionId, rfl, rfl, fun hstatus => ?_⟩)) fun r => ?_
  · cases approved with
    | true => exact ⟨reason, rfl, rfl, hop rfl⟩
    | false => cases hstatus
  · split
    · split <;> trivial
    all_goals trivial

theorem getWorkflow_consents {method : Option Call}
    (hmethod : readsApproval method = false) (taskId : String) :
    Follows (tableScript method) (AWSDurableStore.getWorkflow taskId)
      (fun x q' => q' = q ∧ ∀ st, x = .ok (some st) → StateOk Set.univ taskId st) q := by
  have hread : Follows (tableScript method) (onDynamo (.getItem (stateKey taskId)))
      (fun x q' => q' = q ∧ ∀ item, x = .ok (some item) → item.Sound taskId) q := by
    refine Follows.perform (fun _ _ e => by subst e; cases hmethod) fun r hr => ⟨next_other hmethod .., fun item e => ?_⟩
    subst e
    exact hr taskId rfl
  refine Follows.bind (R := fun x q' => q' = q ∧ ∀ item, x = .ok (some item) → item.Sound taskId)
    (orAwsError_follows hread (fun _ _ h => h) fun _ _ _ h => ⟨h.1, fun _ h => by cases h⟩) (fun found q' h => ?_)
    fun e q' h => ⟨h.1, fun _ h => by cases h⟩
  cases found with
  | none => exact ⟨h.1, fun _ h => by cases h⟩
  | some item =>
    obtain ⟨st, hst, hok⟩ := h.2 item rfl
    simp only [hst]
    refine ⟨h.1, fun st' e => ?_⟩
    cases e
    exact hok

theorem saveWorkflow_consents {method : Option Call}
    (hmethod : readsApproval method = false) {state : WorkflowState}
    (h : StateOk Set.univ state.taskId state) (v : Nat) :
    Follows (tableScript method) (AWSDurableStore.saveWorkflow state v)
      (fun x q' => q' = q ∧ ∀ st, x = .ok st → ∃ t, st = { state with version := v + 1, updatedAt := t }) q := by
  refine Follows.bind (R := fun _ q' => q' = q) (Follows.perform trivial fun r _ => next_other hmethod ..) (fun updated q' h' => ?_)
    fun e q' h => ⟨h, fun _ h => by cases h⟩
  subst h'
  refine Follows.attempt (R := fun _ q'' => q'' = q') (Follows.perform ⟨rfl, h.task, h.pending⟩ fun r _ => next_other hmethod ..)
    fun r q'' h' => ?_
  subst h'
  match r with
  | .ok () => exact ⟨rfl, fun st e => ⟨updated, by cases e; rfl⟩⟩
  | .error (.client code) =>
    show Follows _ (if _ then _ else _) _ _
    split <;> exact ⟨rfl, fun _ h => by cases h⟩
  | .error (.retryable _) | .error (.concurrentUpdate _) | .error (.permanent _) | .error (.value _) | .error (.http ..)
  | .error (.integrity _) | .error (.overflow _) | .error (.botocore _) | .error (.other _) => exact ⟨rfl, fun _ h => by cases h⟩

/-- The thread knows of the approval what the method returns. -/
theorem approvalStatus_consents (taskId actionId : String) :
    Follows (tableScript (some (.store (.approvalStatus taskId actionId)))) (AWSDurableStore.approvalStatus taskId actionId)
      (fun x q' => q' = q.after (.store (.approvalStatus taskId actionId)) x) q := by
  have hread : Follows (tableScript (some (.store (.approvalStatus taskId actionId)))) (onDynamo (.getItem (approvalKey taskId actionId)))
      (fun x q' => q' = q.read (some (.store (.approvalStatus taskId actionId))) (.getItem (approvalKey taskId actionId)) x) q := by
    refine Follows.perform (fun _ _ e => ?_) fun r _ => rfl
    cases e
    rfl
  refine Follows.bind (R := fun x q' => q' = q.read (some (.store (.approvalStatus taskId actionId))) (.getItem (approvalKey taskId actionId)) x)
    (orAwsError_follows hread (fun _ _ h => h) fun _ _ _ h => h) (fun found q' h => ?_) fun _ _ h => h
  subst h
  cases found with
  | none => rfl
  | some item =>
    cases hstatus : item.status with
    | none => simp [hstatus, Consent.read, Consent.after, Follows]
    | some status => cases status <;> simp [hstatus, Consent.read, Consent.after, Follows]

theorem replayDeadLetter_consents (self : AWSDurableStore) (id : Nat) (taskId : String) (n : Nat) (actor reason : String) :
    Follows (tableScript (some (.store (.replayDeadLetter id taskId n actor reason))))
      (self.replayDeadLetter (toString id) taskId n actor reason) (fun _ q' => q' = q) q := by
  unfold AWSDurableStore.replayDeadLetter
  split
  · rfl
  refine Follows.bind (getWorkflow_consents rfl taskId) (fun found q' h => ?_) fun _ _ h => h.1
  obtain ⟨rfl, hfound⟩ := h
  cases found with
  | none => rfl
  | some st =>
    have hst := hfound st rfl
    have hqueued : StateOk Set.univ st.taskId { st with status := .queued, lastError := none } := ⟨rfl, hst.task ▸ hst.pending⟩
    refine Follows.bind (saveWorkflow_consents rfl hqueued _) (fun st' q' h => ?_) fun _ _ h => h.1
    obtain ⟨rfl, -⟩ := h
    refine untold_consents rfl (makes_bind (orAwsError_makes ?_) fun _ => makes_bind (recordEvent_touches ..) fun _ => trivial)
    exact makes_bind (makes_perform trivial) fun _ => makes_perform trivial

/-- A thread makes a store call: what it returns, and what the thread knows then. -/
theorem call_consents (q : Consent) (c : Call) (hmay : q.may c) :
    Follows awsConsenting (c.onAws self) (fun r q' => c.returns r ∧ q' = q.after c r) q := by
  cases c with
  | store c =>
    cases c with
    | createWorkflow state n =>
      exact (table_consents (untold_consents rfl (createWorkflow_touches hmay _ n))).mono fun _ _ h => ⟨trivial, h⟩
    | getWorkflow taskId =>
      refine (table_consents (getWorkflow_consents rfl taskId)).mono fun r q' h => ⟨?_, h.1⟩
      match r with
      | .ok (some st) => exact h.2 st rfl
      | .ok none | .error _ => trivial
    | saveWorkflow state v =>
      refine (table_consents (saveWorkflow_consents rfl hmay v)).mono fun r q' h => ⟨?_, h.1⟩
      match r with
      | .ok st => exact h.2 st rfl
      | .error _ => trivial
    | enqueue taskId n =>
      have hsend : Follows (tableScript (some (.store (.enqueue taskId n)))) (AWSDurableStore.enqueue taskId n) (fun _ q' => q' = q) q :=
        untold_consents rfl (orAwsError_makes (makes_perform trivial))
      exact madeFor_consents ((onClients_consents hsend).bind (fun _ _ h => ⟨trivial, h⟩) fun _ _ h => ⟨trivial, h⟩)
    | claim | extendLease | acknowledge | retryOrDeadLetter | queueCounts =>
      exact (sqs_consents (queues_sqs rfl)).mono fun _ _ h => ⟨trivial, h⟩
    | recordEvent taskId e payload =>
      exact (table_consents (untold_consents rfl (recordEvent_touches _ taskId e payload))).mono fun _ _ h => ⟨trivial, h⟩
    | getToolResult key arguments =>
      exact (table_consents (untold_consents rfl (getToolResult_touches key arguments _ _))).mono fun _ _ h => ⟨trivial, h⟩
    | saveToolResult key taskId tool arguments result =>
      exact (table_consents (untold_consents rfl (saveToolResult_touches _ key taskId tool arguments result))).mono
        fun _ _ h => ⟨trivial, h⟩
    | createApproval taskId actionId =>
      exact (table_consents (untold_consents rfl (createApproval_touches _ taskId actionId))).mono fun _ _ h => ⟨trivial, h⟩
    | resolveApproval taskId actionId approved actor reason =>
      exact (table_consents (untold_consents rfl (resolveApproval_touches hmay))).mono fun _ _ h => ⟨trivial, h⟩
    | approvalStatus taskId actionId => exact (table_consents (approvalStatus_consents taskId actionId)).mono fun _ _ h => ⟨trivial, h⟩
    | replayDeadLetter id taskId n actor reason =>
      exact (table_consents (replayDeadLetter_consents self id taskId n actor reason)).mono fun _ _ h => ⟨trivial, h⟩
  | execute st tool arguments n => exact Follows.perform hmay fun r _ => ⟨trivial, rfl⟩
  | _ => exact Follows.perform trivial fun r _ => ⟨trivial, rfl⟩

/-! ## The operations -/

/-- What a thread knows when it begins. -/
def AwsOperation.consent : AwsOperation → Consent
  | runs op => { op := some op }
  | listDeadLetters _ | redrives _ | expires .. => {}

theorem aws_operation_consents (he : rt.engine = anyEngine) (hb : rt.backend = anyBackend) (op : AwsOperation) :
    Follows awsConsenting (op.program self rt config) (fun _ _ => True) op.consent := by
  cases op with
  | runs op =>
    have hcalls : ∀ (q q' : Consent) (c : Call), q.may c → q' = q →
        Follows awsConsenting (c.onAws self) (fun r q'' => consenting.answers c r ∧ q'' = consenting.next q c r) q' := by
      intro q q' c hc e
      subst e
      exact call_consents q' c hc
    have hop : Follows consenting (op.program rt config) (fun _ _ => True) { op := some op } := operation_consents he hb op
    show Follows awsConsenting ((op.program rt config).translate (Call.onAws self)) _ { op := some op }
    exact (Follows.translate (A := consenting) (J := fun q q' => q' = q) hcalls hop rfl).mono fun _ _ _ => trivial
  | listDeadLetters limit => exact Follows.bind (sqs_consents (listDeadLetters_sqs limit)) (fun _ _ _ => trivial) fun _ _ _ => trivial
  | redrives | expires =>
    exact Follows.bind (R := fun _ _ => True) (.perform trivial fun _ _ => trivial) (fun _ _ _ => trivial) fun _ _ _ => trivial

/-! ## The invariant -/

/-- What thread `i` knows. -/
def consent (i : ThreadId) : List AwsEntry → Consent
  | [] => {}
  | .began j op :: es => if j = i then op.consent else consent i es
  | .did j c r :: es => if j = i then awsConsenting.next (consent i es) c r else consent i es
  | .ended _ _ :: es | .died _ :: es => consent i es

/-- A request to approve the task's action found it pending, and wrote the item. -/
def Granted (journal : List AwsEntry) (taskId actionId : String) (item : Item) : Prop :=
  ∃ i actor reason resolved asked r rest,
    .did i ⟨some (.store (.resolveApproval taskId actionId true actor reason)),
      .table (.updateItem (approvalKey taskId actionId) (.resolution .approved actor (reason.getD "") resolved) (.status .pending))⟩ r :: rest <:+ journal ∧
    (consent i rest).op = some (.approve taskId actor reason) ∧ asked.status = some .pending ∧
    item = (ItemUpdate.resolution .approved actor (reason.getD "") resolved).apply (some asked)

theorem Granted.mono {journal journal' : List AwsEntry} {taskId actionId : String} {item : Item} (h : Granted journal taskId actionId item)
    (hj : journal <:+ journal') : Granted journal' taskId actionId item := by
  obtain ⟨i, actor, reason, resolved, asked, r, rest, hrest, hop⟩ := h
  exact ⟨i, actor, reason, resolved, asked, r, rest, hrest.trans hj, hop⟩

/-- The approval is stored as granted. -/
def AwsApproved (table : Items ItemKey Item) (taskId actionId : String) : Prop :=
  ∃ item, table (approvalKey taskId actionId) = some item ∧ item.status = some .approved

/-- The backend may be invoked for the action. -/
structure Permitted (w : AwsWorld) (taskId : String) (tool : ToolName) (arguments : Arguments) : Prop where
  valid : Validated tool arguments
  possible : tool ≠ .deleteDatabase
  granted : ProductionRestart tool arguments → ∃ item, w.table (approvalKey taskId (actionId taskId tool arguments)) = some item ∧
    item.status = some .approved ∧ Granted w.journal taskId (actionId taskId tool arguments) item

structure Consented (w : AwsWorld) : Prop where
  sound : ∀ taskId item, w.table (stateKey taskId) = some item → item.Sound taskId
  stored : ∀ taskId actionId item, w.table (approvalKey taskId actionId) = some item → item.status = some .approved →
    Granted w.journal taskId actionId item
  read : ∀ i taskId actionId, (consent i w.journal).approved = some (taskId, actionId) → AwsApproved w.table taskId actionId

theorem consented_init : Consented .init := by
  refine ⟨fun _ _ h => ?_, fun _ _ _ h => ?_, fun _ _ _ h => ?_⟩
  · cases h
  · cases h
  · cases h

/-- What a served call leaves under a key: the old item, the item put, the item updated. -/
theorem table_written {c : DurableCall} {table table' : Items ItemKey Item} {r : Except PyError c.Ret}
    (h : AwsEffect c ⟨table, .empty, .empty⟩ r ⟨table', .empty, .empty⟩) (key : ItemKey) : table' key = table key ∨
      (∃ item condition, c = .putItem key item condition ∧ condition.holds (table key) = true ∧ table' key = some item) ∨
      ∃ update condition, c = .updateItem key update condition ∧ condition.holds (table key) = true ∧
        table' key = some (update.apply (table key)) := by
  have hwrite : ∀ {k : ItemKey} {item : Item} {condition : Option Item → Bool} {r : Except PyError Unit},
      WriteEffect (table.put k item condition) ⟨table, .empty, .empty⟩ r ⟨table', .empty, .empty⟩ →
      table' key = table key ∨ k = key ∧ condition (table k) = true ∧ table' key = some item := by
    intro k item condition r h
    cases hp : table.put k item condition with
    | none =>
      rw [hp] at h
      exact .inl (congrFun (congrArg AwsState.table h.2) key)
    | some t =>
      rw [hp] at h
      have ht : table' = t := congrArg AwsState.table h.2
      subst ht
      obtain ⟨hcondition, hget⟩ := Items.put_some hp
      have hget := hget key
      split at hget
      · rename_i e
        exact .inr ⟨e.symm, hcondition, hget⟩
      · exact .inl hget
  cases c with
  | getItem | utcNow | uuid4 => exact .inl (congrFun (congrArg AwsState.table h.2) key)
  | putItem k item condition =>
    rcases hwrite h with h | ⟨rfl, hc, h⟩
    · exact .inl h
    · exact .inr (.inl ⟨item, condition, rfl, hc, h⟩)
  | updateItem k update condition =>
    rcases hwrite h with h | ⟨rfl, hc, h⟩
    · exact .inl h
    · exact .inr (.inr ⟨update, condition, rfl, hc, h⟩)
  | sendMessage name body =>
    obtain ⟨-, -, messages, -, -, h⟩ := h
    cases name <;> exact .inl (congrFun (congrArg AwsState.table h) key)
  | deleteMessage name receiptHandle =>
    rcases h with ⟨-, h⟩ | ⟨-, -, h⟩
    · cases name <;> exact .inl (congrFun (congrArg AwsState.table h) key)
    · exact .inl (congrFun (congrArg AwsState.table h) key)

/-- A table's call, however it ends. -/
theorem client_written {c : DurableCall} {r : Except PyError c.Ret} {w₁ : AwsWorld} (h : ClientEffect (.table c) w r w₁) (key : ItemKey) :
    w₁.table key = w.table key ∨
      (∃ item condition, c = .putItem key item condition ∧ condition.holds (w.table key) = true ∧ w₁.table key = some item) ∨
      ∃ update condition, c = .updateItem key update condition ∧ condition.holds (w.table key) = true ∧
        w₁.table key = some (update.apply (w.table key)) := by
  obtain ⟨table', h | ⟨-, rfl | ⟨r', h⟩⟩, rfl⟩ := h
  · exact table_written h key
  · exact .inl rfl
  · exact table_written h key

/-- What a call leaves under an approval: the old item, one that is not granted, or one that it grants. -/
theorem approval_written {method : Option Call} {c : DurableCall} (hmay : q.touches method c) {r : Except PyError c.Ret} {w₁ : AwsWorld}
    (he : ClientEffect (.table c) w r w₁) (taskId actionId : String) :
    w₁.table (approvalKey taskId actionId) = w.table (approvalKey taskId actionId) ∨
      ∃ item, w₁.table (approvalKey taskId actionId) = some item ∧ ¬ AwsApproved w.table taskId actionId ∧
        (item.status = some .approved → ∃ actor reason resolved asked,
          c = .updateItem (approvalKey taskId actionId) (.resolution .approved actor (reason.getD "") resolved) (.status .pending) ∧
          method = some (.store (.resolveApproval taskId actionId true actor reason)) ∧ q.op = some (.approve taskId actor reason) ∧
          asked.status = some .pending ∧ item = (ItemUpdate.resolution .approved actor (reason.getD "") resolved).apply (some asked)) := by
  rcases client_written he (approvalKey taskId actionId) with hsame | ⟨item, condition, rfl, hc, hput⟩ | ⟨update, condition, rfl, hc, hupdate⟩
  · exact .inl hsame
  · obtain rfl := hmay.2.2 _ _ rfl
    refine .inr ⟨item, hput, fun ⟨old, hold, _⟩ => ?_, fun hstatus => absurd hstatus hmay.2.1⟩
    rw [hold] at hc
    cases hc
  · cases update with
    | checkpoint state next updated => exact absurd hmay.1.symm (stateKey_approvalKey _ _ _)
    | resolution status actor reason resolved =>
      obtain ⟨T, id, hkey, rfl, hgrant⟩ := hmay
      obtain ⟨rfl, rfl⟩ := approvalKey_inj.mp hkey
      obtain ⟨asked, hasked, hpending⟩ := Option.any_eq_true _ _ |>.mp hc
      have hpending : asked.status = some .pending := of_decide_eq_true hpending
      rw [hasked] at hupdate
      refine .inr ⟨_, hupdate, fun ⟨old, hold, happroved⟩ => ?_, fun hstatus => ?_⟩
      · cases hasked.symm.trans hold
        rw [hpending] at happroved
        cases happroved
      · obtain rfl : status = .approved := Option.some.inj hstatus
        obtain ⟨given, rfl, hmethod, hop⟩ := hgrant rfl
        exact ⟨actor, given, resolved, asked, rfl, hmethod, hop, hpending, rfl⟩

/-- A stored approval stays. -/
theorem approved_stays {method : Option Call} {c : DurableCall} (hmay : q.touches method c) {r : Except PyError c.Ret} {w₁ : AwsWorld}
    (he : ClientEffect (.table c) w r w₁) {taskId actionId : String} (h : AwsApproved w.table taskId actionId) :
    AwsApproved w₁.table taskId actionId := by
  rcases approval_written hmay he taskId actionId with hsame | ⟨-, -, hnot, -⟩
  · obtain ⟨item, hitem, hstatus⟩ := h
    exact ⟨item, hsame.trans hitem, hstatus⟩
  · exact absurd h hnot

/-- What a thread reads as granted is stored so. -/
theorem read_approved {method : Option Call} {c : DurableCall} (hmay : q.touches method c) {r : Except PyError c.Ret} {w₁ : AwsWorld}
    (he : ClientEffect (.table c) w r w₁) {taskId actionId : String} (hread : (q.read method c r).approved = some (taskId, actionId)) :
    q.approved = some (taskId, actionId) ∨ AwsApproved w.table taskId actionId := by
  obtain ⟨table', he | ⟨⟨e, -, rfl⟩, -⟩, -⟩ := he
  · unfold Consent.read at hread
    split at hread
    · rename_i key item
      split at hread
      · split at hread
        · rename_i hstatus
          cases hread
          obtain rfl := hmay _ _ rfl
          exact .inr ⟨item, (Except.ok.inj he.1).symm, hstatus⟩
        · exact .inl hread
      · exact .inl hread
    · exact .inl hread
  · rw [read_error] at hread
    exact .inl hread

theorem sound_written {method : Option Call} {c : DurableCall} (hmay : q.touches method c) {r : Except PyError c.Ret} {w₁ : AwsWorld}
    (he : ClientEffect (.table c) w r w₁) (h : ∀ taskId item, w.table (stateKey taskId) = some item → item.Sound taskId) {taskId : String}
    {item : Item} (hitem : w₁.table (stateKey taskId) = some item) : item.Sound taskId := by
  rcases client_written he (stateKey taskId) with hsame | ⟨item', condition, rfl, -, hput⟩ | ⟨update, condition, rfl, -, hupdate⟩
  · exact h taskId item (hsame ▸ hitem)
  · cases hput.symm.trans hitem
    exact hmay.1 taskId rfl
  · cases hupdate.symm.trans hitem
    cases update with
    | checkpoint state next updated =>
      obtain rfl := stateKey_inj.mp hmay.1
      exact ⟨state, rfl, hmay.2⟩
    | resolution status actor reason resolved =>
      obtain ⟨_, _, hkey, -⟩ := hmay
      exact absurd hkey (stateKey_approvalKey _ _ _)

/-- A table's call keeps the invariant. -/
theorem Consented.table (h : Consented w) {i : ThreadId} {method : Option Call} {c : DurableCall}
    (hmay : (consent i w.journal).touches method c) {r : Except PyError c.Ret} {w₁ : AwsWorld} (he : ClientEffect (.table c) w r w₁) :
    Consented { w₁ with journal := .did i ⟨method, .table c⟩ r :: w.journal } := by
  have hj : w.journal <:+ AwsEntry.did i ⟨method, .table c⟩ r :: w.journal := List.suffix_cons ..
  refine ⟨fun T item hitem => sound_written hmay he h.sound hitem, fun T id item hitem hstatus => ?_, fun j T id hknown => ?_⟩
  · rcases approval_written hmay he T id with hsame | ⟨item', hitem', -, hgrant⟩
    · exact (h.stored T id item (hsame.symm.trans hitem) hstatus).mono hj
    · cases hitem'.symm.trans hitem
      obtain ⟨actor, reason, resolved, asked, rfl, rfl, hop, hwritten⟩ := hgrant hstatus
      exact ⟨i, actor, reason, resolved, asked, r, w.journal, List.suffix_rfl, hop, hwritten⟩
  · refine approved_stays hmay he ?_
    have hknown : (if i = j then (consent j w.journal).read method c r else consent j w.journal).approved = some (T, id) := hknown
    split at hknown
    · rename_i e
      subst e
      rcases read_approved hmay he hknown with hold | hnew
      · exact h.read i T id hold
      · exact hnew
    · exact h.read j T id hknown

/-- An entry that is no call of the table tells nothing. -/
theorem Consented.quiet (h : Consented w) (htable : w'.table = w.table) (hj : w.journal <:+ w'.journal)
    (hread : ∀ i, (consent i w'.journal).approved = none ∨ consent i w'.journal = consent i w.journal) : Consented w' := by
  refine ⟨fun T item hitem => h.sound T item (htable ▸ hitem), fun T id item hitem hstatus => ?_, fun i T id hknown => ?_⟩
  · rw [htable] at hitem
    exact (h.stored T id item hitem hstatus).mono hj
  · rw [htable]
    rcases hread i with hnone | hsame
    · cases hnone.symm.trans hknown
    · exact h.read i T id (hsame ▸ hknown)

/-- A call its thread may make keeps the invariant. -/
theorem Consented.call (h : Consented w) {i : ThreadId} {c : MethodCall} {r : Except PyError c.Ret}
    (hmay : awsConsenting.may (consent i w.journal) c) (hs : awsCalls i c w r w') : Consented w' := by
  obtain ⟨w₁, he, rfl⟩ := hs
  obtain ⟨method, call⟩ := c
  cases call with
  | table d => exact h.table hmay he
  | outside d =>
    obtain rfl := he
    exact h.quiet rfl (List.suffix_cons ..) fun _ => .inr (ite_self _)
  | sqs s =>
    have hsame : w₁.table = w.table := by
      rcases he with ⟨a, -, hs⟩ | ⟨-, rfl | ⟨a, hs⟩⟩
      · exact (sqs_table hs).1
      · rfl
      · exact (sqs_table hs).1
    exact h.quiet hsame (List.suffix_cons ..) fun _ => .inr (ite_self _)
  | upkeep d => exact h.quiet (upkeep_table he.2).1 (List.suffix_cons ..) fun _ => .inr (ite_self _)

theorem Consented.answers (h : Consented w) {i : ThreadId} {c : MethodCall} {r : Except PyError c.Ret} (hs : awsCalls i c w r w') :
    awsConsenting.answers c r := by
  obtain ⟨w₁, he, rfl⟩ := hs
  obtain ⟨method, call⟩ := c
  cases call with
  | table d =>
    show d.finds r
    unfold DurableCall.finds
    split
    · rename_i key item
      obtain ⟨table', hd | ⟨⟨e, -, hr⟩, -⟩, -⟩ := he
      · intro taskId hkey
        subst hkey
        exact h.sound taskId item (Except.ok.inj hd.1).symm
      · cases hr
    · trivial
  | outside | sqs | upkeep => trivial

/-- Every run keeps the invariant, and every program in flight the script. -/
theorem reachable_consented {cfg : AwsCfg} (h : AwsReachable self { rt with engine := anyEngine, backend := anyBackend } config cfg) :
    Consented cfg.state ∧ ∀ i p, cfg.pool i = some p → Follows awsConsenting p (fun _ _ => True) (consent i cfg.state.journal) := by
  refine reach_keeps (A := awsConsenting) (Q := fun _ _ => True) (fun i (w : AwsWorld) => consent i w.journal) Consented consented_init ?_ ?_ ?_ ?_ h
  · intro i p w w' he hw
    obtain ⟨op, rfl, rfl⟩ := he
    refine ⟨hw.quiet rfl (List.suffix_cons ..) fun j => ?_, ?_, fun j hj => if_neg (Ne.symm hj)⟩
    · by_cases e : i = j
      · refine .inl ?_
        show (if i = j then op.consent else consent j w.journal).approved = none
        rw [if_pos e]
        cases op <;> rfl
      · exact .inr (if_neg e)
    · show Follows awsConsenting _ _ (if i = i then op.consent else consent i w.journal)
      rw [if_pos rfl]
      exact aws_operation_consents (by rfl) (by rfl) op
  · intro cfg i c r w' _ hw hmay hs
    refine ⟨hw.call hmay hs, hw.answers hs, ?_, fun j hj => ?_⟩
    · rw [grip_call hs]
      exact if_pos rfl
    · rw [grip_call hs]
      exact if_neg (Ne.symm hj)
  · intro i o w w' hl hw
    obtain rfl := hl
    exact ⟨hw.quiet rfl (List.suffix_cons ..) fun _ => .inr rfl, fun _ _ => rfl⟩
  · intro i w w' hx hw
    obtain rfl := hx
    exact ⟨hw.quiet rfl (List.suffix_cons ..) fun _ => .inr rfl, fun _ _ => rfl⟩

/-- Some thread is about to invoke the backend over AWS. -/
def AwsInvokes (cfg : AwsCfg) (st : WorkflowState) (tool : ToolName) (arguments : Arguments) : Prop :=
  ∃ i method n k, cfg.pool i = some (.call ⟨method, .outside (.execute st tool arguments n)⟩ k)

/-- Over the AWS store, whatever fails, dies or is delivered again, the backend is invoked with validated arguments only,
    never to delete a database, and to restart production only while the action's approval is stored as granted, which a
    request to approve it wrote over the pending one. -/
theorem aws_invocations_permitted (self : AWSDurableStore) (rt : WorkflowRuntime) (config : Settings) {cfg : AwsCfg}
    (h : AwsReachable self { rt with engine := anyEngine, backend := anyBackend } config cfg) {st : WorkflowState} {tool : ToolName}
    {arguments : Arguments} (hx : AwsInvokes cfg st tool arguments) : Permitted cfg.state st.taskId tool arguments := by
  obtain ⟨i, method, n, k, hp⟩ := hx
  obtain ⟨hw, hfollows⟩ := reachable_consented h
  obtain ⟨hvalid, hpossible, hgranted⟩ := (hfollows i _ hp).1
  refine ⟨hvalid, hpossible, fun hrestart => ?_⟩
  obtain ⟨item, hitem, hstatus⟩ := hw.read i _ _ (hgranted hrestart)
  exact ⟨item, hitem, hstatus, hw.stored _ _ item hitem hstatus⟩

/-- A production restart is asked for and approved while its worker is gone; the delivery is handed out again. -/
def approvedOnAws : List (Move ThreadId AwsOperation ClientAnswer) :=
  [.enter 0 (.runs (.createIncident "t" "restore checkout" "checkout-pool-exhaustion")), .call 0 (.outside (.ok 0))] ++ served 0 5 ++ [.leave 0] ++
  [.enter 1 (.runs (.runOnce "w1")), .call 1 (.handed 0 7)] ++ served 1 6 ++
  [.call 1 (.outside (.decision 0 (.ok productionRestart))), .call 1 (.outside (.usage 0 (10, 5)))] ++ served 1 9 ++ [.crash 1] ++
  [.enter 2 (.runs (.approve "t" "operator" none))] ++ served 2 5 ++
  [.enter 3 (.runs (.runOnce "w2")), .call 3 (.handed 0 8)] ++ served 3 6

/-- The worker is about to restart production. -/
def restartsOnAws (cfg : AwsCfg) : Bool :=
  match cfg.pool 3 with
  | some (.call ⟨_, .outside (.execute _ .restartService arguments _)⟩ _) => decide (argumentText arguments "environment" = "production")
  | _ => false

theorem approvedOnAws_plays :
    ((awsPlayer onSqsBackend {} {}).play ⟨AwsWorld.init, fun _ => none⟩ approvedOnAws).any restartsOnAws = true := by
  decide +kernel

/-- The restart about to be invoked was granted to the task. -/
theorem aws_invocations_permitted_restart : ∃ cfg st arguments item, AwsReachable onSqsBackend {} {} cfg ∧
    AwsInvokes cfg st .restartService arguments ∧
    cfg.state.table (approvalKey st.taskId (actionId st.taskId .restartService arguments)) = some item ∧ item.status = some .approved ∧
    Granted cfg.state.journal st.taskId (actionId st.taskId .restartService arguments) item := by
  obtain ⟨cfg, h, hc⟩ := (awsPlayer onSqsBackend {} {}).play_exists approvedOnAws_plays
  unfold restartsOnAws at hc
  split at hc
  · rename_i method st arguments n k hp
    have hx : AwsInvokes cfg st .restartService arguments := ⟨3, method, n, k, hp⟩
    have hpermitted := aws_invocations_permitted onSqsBackend {} {} h hx
    obtain ⟨item, hitem, hstatus, hgranted⟩ := hpermitted.granted ⟨rfl, hpermitted.valid, of_decide_eq_true hc⟩
    exact ⟨cfg, st, arguments, item, h, hx, hitem, hstatus, hgranted⟩
  · cases hc

end AgentResilience
