/-
  AgentResilience.Requests — approve and reject requests side by side. A request reads the
  workflow, resolves its approval, which only one request can, and saves the checkpoint it
  read. `Request` is how far a request got, read off its own calls; `Request.May` is what it
  may call there.

  - `Agreed`: every request that has loaded a waiting checkpoint still has what is stored, or
    another one has decided; the one that has decided holds what is stored until it saves.
  - `held_saves`: a worker that holds its delivery writes over no waiting checkpoint.
  - `decisions_agree`: in every run in which no handler of a failed delivery and no replay writes
    over a checkpoint that a request is to save, the requests agree. `decision_overwritten`: a
    handler may write over it, and the winner's save is stale.
-/
import AgentResilience.DeadLetters
import AgentResilience.WorkerCalls

namespace AgentResilience.Requests

open Interaction

/-! ## Requests -/

inductive Request where
  /-- Another operation. -/
  | other
  | asked (approved : Bool)
  | loaded (state : WorkflowState) (approved : Bool)
  /-- It resolved the approval of `state`'s pending action. -/
  | decided (state : WorkflowState) (approved : Bool)
  | saved (state new : WorkflowState) (approved : Bool)
  /-- It ended before it decided. -/
  | refused
  /-- It ended after it decided. -/
  | failed (state : WorkflowState) (approved : Bool)

def Request.start : Operation → Request
  | .approve .. => asked true
  | .reject .. => asked false
  | _ => other

/-- `state` waits for the approval of its pending action. -/
def Waits (state : WorkflowState) : Prop := state.status = .waitingForApproval ∧ state.pendingAction.isSome = true

instance (state : WorkflowState) : Decidable (Waits state) := inferInstanceAs (Decidable (_ ∧ _))

def Request.after : Request → (c : Call) → Except PyError c.Ret → Request
  | asked approved, .store (.getWorkflow _), .ok (some state) => if Waits state then loaded state approved else refused
  | asked _, .store (.getWorkflow _), _ => refused
  | loaded state approved, .store (.resolveApproval ..), .ok _ => decided state approved
  | loaded .., .store (.resolveApproval ..), .error _ => refused
  | decided state approved, .store (.saveWorkflow ..), .ok new => saved state new approved
  | decided state approved, .store (.saveWorkflow ..), .error _ => failed state approved
  | saved state _ approved, .store (.enqueue ..), .error _ => failed state approved
  | q, _, _ => q

@[simp] theorem Request.after_other (c : Call) (r : Except PyError c.Ret) : Request.other.after c r = .other := by
  unfold Request.after
  split <;> simp_all

/-- The request decided action `actionId` of `taskId`. -/
def Request.won (taskId actionId : String) : Request → Bool
  | decided state _ | saved state _ _ | failed state _ =>
    decide (state.taskId = taskId ∧ state.pendingAction.map (·.actionId) = some actionId)
  | _ => false

/-- Apply `f` to thread `i`'s newest request. -/
def touch (i : ThreadId) (f : Request → Request) : List (ThreadId × Request) → List (ThreadId × Request)
  | [] => []
  | (j, q) :: rs => if j = i then (j, f q) :: rs else (j, q) :: touch i f rs

/-- The operations of all threads, newest first. -/
def requests : List Entry → List (ThreadId × Request)
  | [] => []
  | .began i op :: es => (i, Request.start op) :: requests es
  | .did i c r :: es => touch i (·.after c r) (requests es)
  | .ended .. :: es | .died _ :: es => requests es

def newest (i : ThreadId) (rs : List (ThreadId × Request)) : Request := ((rs.find? fun x => x.1 == i).map (·.2)).getD .other

/-- The operation thread `i` runs or ran last. -/
def request (i : ThreadId) (journal : List Entry) : Request := newest i (requests journal)

/-- A list with thread `i`'s newest request, and after `touch`. -/
theorem touch_cases (i : ThreadId) (f : Request → Request) (rs : List (ThreadId × Request)) :
    (touch i f rs = rs ∧ newest i rs = .other) ∨
      ∃ pre q post, rs = pre ++ (i, q) :: post ∧ touch i f rs = pre ++ (i, f q) :: post ∧ newest i rs = q ∧ ∀ x ∈ pre, x.1 ≠ i := by
  induction rs with
  | nil => exact .inl ⟨rfl, rfl⟩
  | cons x rs ih =>
    obtain ⟨j, q⟩ := x
    by_cases hj : j = i
    · subst hj
      exact .inr ⟨[], q, rs, rfl, by simp [touch], by simp [newest], by simp⟩
    · have hn : newest i ((j, q) :: rs) = newest i rs := by
        unfold newest
        rw [List.find?_cons_of_neg (by simpa using hj)]
      rcases ih with ⟨ht, hi⟩ | ⟨pre, q', post, rfl, ht, hi, hpre⟩
      · exact .inl ⟨by simp [touch, hj, ht], hn.trans hi⟩
      · refine .inr ⟨(j, q) :: pre, q', post, rfl, by simp [touch, hj, ht], hn.trans hi, fun x hx => ?_⟩
        rcases List.mem_cons.mp hx with rfl | hx
        · exact hj
        · exact hpre x hx

theorem newest_append {i : ThreadId} {pre post : List (ThreadId × Request)} {q : Request} (h : ∀ x ∈ pre, x.1 ≠ i) :
    newest i (pre ++ (i, q) :: post) = q := by
  unfold newest
  have hnone : pre.find? (fun x => x.1 == i) = none := List.find?_eq_none.mpr fun x hx => by simpa using h x hx
  rw [List.find?_append, hnone]
  simp

theorem newest_touch (i : ThreadId) (f : Request → Request) (hf : f .other = .other) (rs : List (ThreadId × Request)) :
    newest i (touch i f rs) = f (newest i rs) := by
  rcases touch_cases i f rs with ⟨ht, hi⟩ | ⟨pre, q, post, -, ht, hi, hpre⟩
  · rw [ht, hi, hf]
  · rw [ht, hi, newest_append hpre]

theorem newest_touch_other {i j : ThreadId} (h : j ≠ i) (f : Request → Request) (rs : List (ThreadId × Request)) :
    newest j (touch i f rs) = newest j rs := by
  induction rs with
  | nil => rfl
  | cons x rs ih =>
    obtain ⟨k, q⟩ := x
    by_cases hk : k = i
    · subst hk
      unfold newest
      rw [touch, if_pos rfl, List.find?_cons_of_neg (by simpa using Ne.symm h), List.find?_cons_of_neg (by simpa using Ne.symm h)]
    · rw [touch, if_neg hk]
      unfold newest at ih ⊢
      rw [List.find?_cons, List.find?_cons]
      split
      · rfl
      · exact ih

@[simp] theorem request_did (i : ThreadId) (c : Call) (r : Except PyError c.Ret) (es : List Entry) :
    request i (.did i c r :: es) = (request i es).after c r :=
  newest_touch i _ (Request.after_other c r) _

theorem request_did_other {i j : ThreadId} (h : j ≠ i) (c : Call) (r : Except PyError c.Ret) (es : List Entry) :
    request j (.did i c r :: es) = request j es :=
  newest_touch_other h _ _

@[simp] theorem request_began (i : ThreadId) (op : Operation) (es : List Entry) :
    request i (.began i op :: es) = Request.start op := by
  simp [request, requests, newest]

theorem request_began_other {i j : ThreadId} (h : j ≠ i) (op : Operation) (es : List Entry) :
    request j (.began i op :: es) = request j es := by
  simp [request, requests, newest, Ne.symm h]

/-! ## The calls a request may make -/

/-- `new` is `state` as a decision leaves it. -/
def Moved (approved : Bool) (state new : WorkflowState) : Prop :=
  new.taskId = state.taskId ∧
    if approved then new.status = .queued ∧ new.pendingAction = state.pendingAction
    else new.status = .humanRejected ∧ new.pendingAction = none

def Request.May : Request → Call → Prop
  | other, .store (.resolveApproval ..) => False
  | other, _ => True
  | asked _, .store (.getWorkflow _) => True
  | loaded state approved, .store (.resolveApproval taskId actionId verdict ..) =>
    Waits state ∧ state.taskId = taskId ∧ verdict = approved ∧ state.pendingAction.map (·.actionId) = some actionId
  | decided state approved, .store (.saveWorkflow new v) => v = state.version ∧ Moved approved state new
  | saved .., .store (.recordEvent ..) => True
  | saved state .., .store (.enqueue taskId _) => state.taskId = taskId
  | _, _ => False

theorem may_asked {c : Call} {approved : Bool} (h : (Request.asked approved).May c) : ∃ taskId, c = .store (.getWorkflow taskId) := by
  cases c with
  | store c =>
    cases c with
    | getWorkflow taskId => exact ⟨taskId, rfl⟩
    | _ => exact h.elim
  | _ => exact h.elim

theorem may_loaded {c : Call} {state : WorkflowState} {approved : Bool} (h : (Request.loaded state approved).May c) : Waits state ∧
    ∃ actionId actor reason, c = .store (.resolveApproval state.taskId actionId approved actor reason) ∧
      state.pendingAction.map (·.actionId) = some actionId := by
  cases c with
  | store c =>
    cases c with
    | resolveApproval taskId actionId verdict actor reason =>
      obtain ⟨hw, rfl, rfl, ha⟩ := h
      exact ⟨hw, actionId, actor, reason, rfl, ha⟩
    | _ => exact h.elim
  | _ => exact h.elim

theorem may_decided {c : Call} {state : WorkflowState} {approved : Bool} (h : (Request.decided state approved).May c) :
    ∃ new, c = .store (.saveWorkflow new state.version) ∧ Moved approved state new := by
  cases c with
  | store c =>
    cases c with
    | saveWorkflow new v =>
      obtain ⟨rfl, hm⟩ := h
      exact ⟨new, rfl, hm⟩
    | _ => exact h.elim
  | _ => exact h.elim

theorem may_saved {c : Call} {state new : WorkflowState} {approved : Bool} (h : (Request.saved state new approved).May c) :
    (∃ taskId event payload, c = .store (.recordEvent taskId event payload)) ∨ ∃ n, c = .store (.enqueue state.taskId n) := by
  cases c with
  | store c =>
    cases c with
    | recordEvent taskId event payload => exact .inl ⟨taskId, event, payload, rfl⟩
    | enqueue taskId n =>
      obtain rfl : state.taskId = taskId := h
      exact .inr ⟨n, rfl⟩
    | _ => exact h.elim
  | _ => exact h.elim

/-- How an operation may end: a request returns once it has saved, and raises if it has not. -/
def Ends {α : Type} (o : Except PyError α) : Request → Prop
  | .other => True
  | .saved .. => o.toBool = true
  | .refused | .failed .. => o.toBool = false
  | _ => False

def requesting : Script Call Call.Ret PyError Request := ⟨Request.after, Request.May, Answers⟩

variable {α β : Type} {q : Request} {rt : WorkflowRuntime} {config : Settings} {env : Env} {taskId : String}
  {st : WorkflowState} {approved : Bool}

/-- A program that resolves no approval, run by no request. -/
theorem other_follows {p : Py α} (h : p.Makes fun c => ∀ T a b x y, c ≠ .store (.resolveApproval T a b x y)) :
    Follows requesting p (fun _ q' => q' = .other) .other := by
  refine .fixed h fun c hc => ⟨?_, Request.after_other c⟩
  show Request.May .other c
  unfold Request.May
  split
  · exact hc _ _ _ _ _ rfl
  all_goals trivial

/-- A request reads the workflow, and has loaded it if it waits. -/
theorem required_follows {f : WorkflowState → Py β} (hload : ∀ st, st.taskId = taskId → Waits st → Follows requesting (f st) Ends (.loaded st approved))
    (hrefuse : ∀ st, ¬ Waits st → Follows requesting (f st) Ends .refused) :
    Follows requesting ((required taskId).bind f) Ends (.asked approved) := by
  unfold required
  rw [Prog.bind_def, Prog.bind_assoc]
  refine .bind (R := fun o q' => ∃ found, o = .ok found ∧ (∀ st, found = some st → st.taskId = taskId) ∧
      q' = (Request.asked approved).after (.store (.getWorkflow taskId)) (.ok found)) (.perform trivial fun r hr => ?_) ?_ ?_
  · obtain ⟨found, rfl, hok⟩ := answers_getWorkflow hr
    exact ⟨found, rfl, fun st hst => (hok st hst).task, rfl⟩
  · rintro a q' ⟨found, e, htask, rfl⟩
    cases e
    cases a with
    | none => exact (rfl : (Except.toBool (Except.error (PyError.http 404 "workflow not found") : Except PyError β)) = false)
    | some st =>
      show Follows requesting (f st) Ends (if Waits st then .loaded st approved else .refused)
      split
      · exact hload st (htask st rfl) ‹_›
      · exact hrefuse st ‹_›
  · rintro e q' ⟨found, he, -⟩
    cases he

/-- What follows a resolved approval. -/
theorem resolve_follows {actionId actor : String} {reason : Option String} {f : Unit → Py β}
    (hw : Waits st) (ht : st.taskId = taskId) (ha : st.pendingAction.map (·.actionId) = some actionId)
    (hf : Follows requesting (f ()) Ends (.decided st approved)) :
    Follows requesting ((onStore (.resolveApproval taskId actionId approved actor reason)).bind f) Ends (.loaded st approved) := by
  refine .bind (R := fun o q' => q' = Request.after (.loaded st approved) (.store (.resolveApproval taskId actionId approved actor reason)) o)
    (.perform ⟨hw, ht, rfl, ha⟩ fun _ _ => rfl) ?_ ?_
  · rintro u q' rfl
    exact hf
  · rintro e q' rfl
    exact (rfl : (Except.toBool (Except.error e : Except PyError β)) = false)

/-- What follows its save. -/
theorem decided_follows {new : WorkflowState} {f : WorkflowState → Py β} (hv : new.version = st.version) (hm : Moved approved st new)
    (hf : ∀ new', Follows requesting (f new') Ends (.saved st new' approved)) :
    Follows requesting ((save new).bind f) Ends (.decided st approved) := by
  refine .bind (R := fun o q' => q' = Request.after (.decided st approved) (.store (.saveWorkflow new new.version)) o)
    (.perform ⟨hv, hm⟩ fun _ _ => rfl) ?_ ?_
  · rintro new' q' rfl
    exact hf new'
  · rintro e q' rfl
    exact (rfl : (Except.toBool (Except.error e : Except PyError β)) = false)

theorem saved_record {new : WorkflowState} {T : String} {event : EventType} {payload : Json} {f : Unit → Py β}
    (hf : Follows requesting (f ()) Ends (.saved st new approved)) :
    Follows requesting ((record T event payload).bind f) Ends (.saved st new approved) := by
  refine .bind (R := fun o q' => o = .ok () ∧ q' = .saved st new approved) (.perform trivial fun r hr => ?_) ?_ ?_
  · obtain ⟨s, t, s', -, heff⟩ := hr
    obtain ⟨rfl, -⟩ := Prod.mk.inj heff
    exact ⟨rfl, rfl⟩
  · rintro u q' ⟨-, rfl⟩
    exact hf
  · rintro e q' ⟨h, -⟩
    cases h

theorem approve_follows (taskId actor : String) (reason : Option String) :
    Follows requesting (approve config taskId actor reason) Ends (.asked true) := by
  refine required_follows (fun st ht hw => ?_) fun st hw => ?_
  · split
    · rename_i pending hst hp
      refine resolve_follows hw ht (by rw [hp]; rfl) ?_
      refine decided_follows rfl ⟨rfl, by exact ⟨rfl, hp ▸ rfl⟩⟩ fun new => saved_record ?_
      refine .bind (R := fun o q' => q' = Request.after (.saved st new true) (.store (.enqueue taskId config.maxQueueAttempts)) o)
        (.perform ht fun _ _ => rfl) ?_ ?_
      · rintro id q' rfl
        exact (rfl : (Except.toBool (Except.ok new : Except PyError WorkflowState)) = true)
      · rintro e q' rfl
        exact (rfl : (Except.toBool (Except.error e : Except PyError WorkflowState)) = false)
    · rename_i hno
      obtain ⟨pending, hp⟩ := Option.isSome_iff_exists.mp hw.2
      exact (hno pending hw.1 hp).elim
  · split
    · rename_i pending hst hp
      exact absurd ⟨hst, by rw [hp]; rfl⟩ hw
    · exact (rfl : (Except.toBool (Except.error (PyError.http 409 "workflow is not waiting for approval") :
        Except PyError WorkflowState)) = false)

theorem reject_follows (taskId actor : String) (reason : Option String) :
    Follows requesting (reject taskId actor reason) Ends (.asked false) := by
  refine required_follows (fun st ht hw => ?_) fun st hw => ?_
  · split
    · rename_i pending hst hp
      refine resolve_follows hw ht (by rw [hp]; rfl) ?_
      refine decided_follows rfl ⟨rfl, by exact ⟨rfl, rfl⟩⟩ fun new => saved_record ?_
      exact (rfl : (Except.toBool (Except.ok new : Except PyError WorkflowState)) = true)
    · rename_i hno
      obtain ⟨pending, hp⟩ := Option.isSome_iff_exists.mp hw.2
      exact (hno pending hw.1 hp).elim
  · split
    · rename_i pending hst hp
      exact absurd ⟨hst, by rw [hp]; rfl⟩ hw
    · exact (rfl : (Except.toBool (Except.error (PyError.http 409 "workflow is not waiting for approval") :
        Except PyError WorkflowState)) = false)

theorem operation_follows (he : rt.engine = anyEngine) (hb : rt.backend = anyBackend) (op : Operation) :
    Follows requesting (op.program rt config) Ends (Request.start op) := by
  have hreply : ∀ {p : Py WorkflowState} {approved : Bool}, Follows requesting p Ends (.asked approved) →
      Follows requesting (p.bind fun a => .ret (Reply.state a)) Ends (.asked approved) := by
    intro p approved h
    refine .bind h (fun a q hq => ?_) fun e q hq => ?_
    · cases q <;> exact hq
    · cases q <;> exact hq
  have hother : ∀ {γ : Type} {p : Py γ} {f : γ → Reply}, p.Makes (fun c => ∀ T a b x y, c ≠ .store (.resolveApproval T a b x y)) →
      Follows requesting (p.bind fun a => .ret (f a)) Ends .other := by
    intro γ p f h
    refine .bind (other_follows h) (fun a q hq => ?_) fun e q hq => ?_
    · subst hq; trivial
    · subst hq; trivial
  have hwork : ∀ c : Call, c.works = true → ∀ T a b x y, c ≠ .store (.resolveApproval T a b x y) := by
    rintro c hc T a b x y rfl
    cases hc
  cases op with
  | runOnce workerId => exact hother (runOnce_makes hwork he hb workerId)
  | heartbeatTick workerId delivery =>
    exact hother (Prog.makes_bind (Prog.makes_perform (by simp)) fun _ => Prog.makes_perform (by simp))
  | createIncident taskId goal scenarioId =>
    exact hother (Prog.makes_bind (Prog.makes_perform (by simp)) fun now => Prog.makes_perform (by simp))
  | approve taskId actor reason => exact hreply (approve_follows taskId actor reason)
  | reject taskId actor reason => exact hreply (reject_follows taskId actor reason)
  | replay deliveryId taskId actor reason =>
    refine hother (Prog.makes_bind (Prog.makes_perform (by simp)) fun o => ?_)
    cases o <;> trivial

/-- Every program in flight follows its request. -/
theorem reachable_requesting {cfg : Cfg} (h : Reachable { rt with engine := anyEngine, backend := anyBackend } config env cfg)
    {i : ThreadId} {p : Py Reply} (hp : cfg.pool i = some p) : Follows requesting p Ends (request i cfg.state.journal) := by
  refine reach_follows (fun i (w : World) => request i w.journal) ?_ ?_ ?_ ?_ h hp
  · rintro i p w w' ⟨op, rfl, -, rfl⟩
    refine ⟨?_, fun j hj => request_began_other hj op _⟩
    rw [request_began]
    exact operation_follows rfl rfl op
  · intro cfg i c r w' hr hs
    have ha := answers_call (reachable_storeOk lawful_univ hr) hs
    obtain ⟨t, s', -, -, -, rfl⟩ := hs
    exact ⟨ha, request_did i c r _, fun j hj => request_did_other hj c r _⟩
  · rintro i o w w' rfl j -
    rfl
  · rintro i w w' ⟨-, rfl⟩ j -
    rfl

/-! ## What the requests know of the store -/

/-- The status of the approval of `state`'s pending action. -/
def approvalOf (s : SQLiteStore) (state : WorkflowState) : Option ApprovalStatus :=
  state.pendingAction.bind fun pending => s.approvalStatus state.taskId pending.actionId

def verdict (approved : Bool) : ApprovalStatus := if approved then .approved else .rejected

theorem verdict_ne (approved : Bool) : verdict approved ≠ .pending := by
  cases approved <;> simp [verdict]

def Resolved (s : SQLiteStore) (state : WorkflowState) : Prop := ∃ approved, approvalOf s state = some (verdict approved)

/-- What a request knows of the store. -/
def Sound (s : SQLiteStore) : Request → Prop
  | .loaded state _ => Waits state ∧ (s.stored state.taskId = some state ∨ Resolved s state)
  | .decided state approved => Waits state ∧ s.stored state.taskId = some state ∧ approvalOf s state = some (verdict approved)
  | .saved state new approved => Waits state ∧ approvalOf s state = some (verdict approved) ∧ Moved approved state new ∧
      s.stored state.taskId ≠ none
  | .failed .. => False
  | _ => True

structure Agreed (w : World) : Prop where
  sound : ∀ x ∈ requests w.journal, Sound w.store x.2
  one : ∀ taskId actionId, (requests w.journal).countP (fun x => x.2.won taskId actionId) ≤ 1

/-! ## The environment -/

/-- `state` is what the request is to save: it resolved the approval, or the approval is open. -/
def Request.Due (s : SQLiteStore) : Request → WorkflowState → Prop
  | loaded state _, cp => cp = state ∧ ¬ Resolved s state
  | decided state _, cp => cp = state
  | _, _ => False

/-- The handler of a failed delivery, which has let go of it, or a replay writes over a checkpoint that a request is to save. -/
def WritesOver (i : ThreadId) (w : World) : Call → Prop
  | .store (.saveWorkflow st v) => request i w.journal = .other ∧ (stage i w.journal).held = none ∧
      ∃ x ∈ requests w.journal, ∃ cp, x.2.Due w.store cp ∧ cp.taskId = st.taskId ∧ cp.version = v ∧ w.store.stored st.taskId = some cp
  | .store (.replayDeadLetter id taskId ..) => ReplayHits w.store id taskId ∧
      ∃ x ∈ requests w.journal, ∃ cp, x.2.Due w.store cp ∧ cp.taskId = taskId ∧ w.store.stored taskId = some cp
  | _ => False

/-- No crash, and no handler and no replay writes over a checkpoint that a request is to save. -/
def undisturbed : Env where
  allows i w c _ := ¬ WritesOver i w c
  dies _ _ := False

/-! ## One call -/

variable {s s' : SQLiteStore} {t : Timestamp} {w : World} {i : ThreadId} {c : Call} {r : Except PyError c.Ret}

theorem approvalOf_later (h : Later s s') {b : Bool} (ha : approvalOf s st = some (verdict b)) :
    approvalOf s' st = some (verdict b) := by
  obtain ⟨pending, hp, ha⟩ := Option.bind_eq_some_iff.mp ha
  obtain ⟨row, hr, hst⟩ := SQLiteStore.approvalStatus_some ha
  have hr' := h.resolved _ row hr (by rw [hst]; exact verdict_ne b)
  simp [approvalOf, hp, SQLiteStore.approvalStatus, hr', hst]

theorem stored_later (h : Later s s') (hs : s.stored taskId ≠ none) : s'.stored taskId ≠ none := by
  obtain ⟨st, hst⟩ := Option.ne_none_iff_exists'.mp hs
  obtain ⟨row, hr, -⟩ := stored_some.mp hst
  obtain ⟨row', hr', -⟩ := h.workflow _ row hr
  rw [stored_some.mpr ⟨row', hr', rfl⟩]
  simp

/-- A request knows the same of a later store that still has the checkpoint it is to save. -/
theorem Sound.later (h : Sound s q) (hl : Later s s')
    (hq : ∀ cp, q.Due s cp → s.stored cp.taskId = some cp → s'.stored cp.taskId = some cp) : Sound s' q := by
  cases q with
  | loaded st b =>
    obtain ⟨hw, hst⟩ := h
    refine ⟨hw, ?_⟩
    by_cases hres : Resolved s st
    · obtain ⟨b', hb'⟩ := hres
      exact .inr ⟨b', approvalOf_later hl hb'⟩
    · exact .inl (hq st ⟨rfl, hres⟩ (hst.resolve_right hres))
  | decided st b =>
    obtain ⟨hw, hst, ha⟩ := h
    exact ⟨hw, hq st rfl hst, approvalOf_later hl ha⟩
  | saved st new b =>
    obtain ⟨hw, ha, hm, hst⟩ := h
    exact ⟨hw, approvalOf_later hl ha, hm, stored_later hl hst⟩
  | failed => exact h.elim
  | _ => trivial

/-- A worker that holds its delivery writes over an active checkpoint. -/
theorem held_saves {det : LoopDetector} {v : Nat} {row : WorkflowRow} (hmay : May det (stage i w.journal) (.store (.saveWorkflow st v)))
    (hcopy : ∀ cp, (stage i w.journal).seen = some cp → Copy cp w.store) (hheld : (stage i w.journal).held ≠ none)
    (hrow : w.store.workflows.get st.taskId = some row) (hv : row.version = v) : row.stateJson.status.active = true := by
  obtain ⟨cp, hsave⟩ := hmay
  have htask : st.taskId = cp.taskId := hsave.change.same.1
  rw [(hcopy cp hsave.seen).stored (htask ▸ hrow) (hv.trans hsave.version)]
  exact hsave.held (Option.isSome_iff_ne_none.mpr hheld)

theorem Sound.waits (h : Sound s q) {cp : WorkflowState} (hcp : q.Due s cp) : Waits cp := by
  cases q with
  | loaded st b => obtain ⟨rfl, -⟩ := hcp; exact h.1
  | decided st b => obtain rfl := hcp; exact h.1
  | _ => exact hcp.elim

/-- The call does not write over a checkpoint unless a request saves what it decided. -/
theorem due_kept {det : LoopDetector} (hi : Agreed w) (hok : StoreOk Set.univ w.store) (hmay : (request i w.journal).May c)
    (hstage : May det (stage i w.journal) c) (hcopy : ∀ cp, (stage i w.journal).seen = some cp → Copy cp w.store)
    (hal : ¬ WritesOver i w c) (hdec : ∀ st b, request i w.journal ≠ .decided st b) (he : Effect c w.store t r s') {x : ThreadId × Request}
    (hx : x ∈ requests w.journal) {cp : WorkflowState} (hcp : x.2.Due w.store cp) (hst : w.store.stored cp.taskId = some cp) :
    s'.stored cp.taskId = some cp := by
  obtain ⟨crow, hcrow, hce⟩ := stored_some.mp hst
  cases c with
  | clock | awaitHeartbeat =>
    obtain ⟨-, rfl⟩ := he
    exact hst
  | decide | takeUsage | execute | aws =>
    obtain rfl := he
    exact hst
  | store c =>
    have hframe : c.writesWorkflows = false → s'.stored cp.taskId = some cp := by
      intro hc
      obtain rfl := congrArg Prod.snd he
      exact (stored_congr (StoreCall.apply_workflows hc w.store t)).trans hst
    cases c with
    | createWorkflow st n =>
      rcases SQLiteStore.createWorkflow_cases he with ⟨-, -, rfl⟩ | ⟨hnone, -, hw, -⟩
      · exact hst
      · refine stored_some.mpr ⟨crow, ?_, hce⟩
        rw [hw, if_neg (fun e => by rw [e, hcrow] at hnone; cases hnone)]
        exact hcrow
    | saveWorkflow st v =>
      have hother : request i w.journal = .other := by
        cases hq : request i w.journal with
        | other => rfl
        | decided st b => exact (hdec st b hq).elim
        | _ => rw [hq] at hmay; exact hmay.elim
      rcases SQLiteStore.saveWorkflow_cases he with ⟨row, hrow, hv, -, hw, -⟩ | ⟨-, rfl, -⟩
      · by_cases htask : cp.taskId = st.taskId
        · rw [htask, hrow] at hcrow
          cases hcrow
          have hversion : cp.version = v := by rw [← hce, ← hok.version _ _ hrow, hv]
          by_cases hheld : (stage i w.journal).held = none
          · exact absurd ⟨hother, hheld, x, hx, cp, hcp, htask, hversion, htask ▸ hst⟩ hal
          · have hactive := held_saves hstage hcopy hheld hrow hv
            rw [hce, ((hi.sound x hx).waits hcp).1] at hactive
            cases hactive
        · refine stored_some.mpr ⟨crow, ?_, hce⟩
          rw [hw, if_neg htask]
          exact hcrow
      · exact hst
    | replayDeadLetter id T n actor reason =>
      have hs' : (w.store.replayDeadLetter t id T n actor reason).2 = s' := congrArg Prod.snd he
      have hrep : w.store.replayDeadLetter t id T n actor reason = (_, s') := Prod.ext rfl hs'
      rcases SQLiteStore.replayDeadLetter_cases hrep with
        ⟨-, rfl⟩ | ⟨q, row, state, hq, hqt, hqd, hrow, hstate, -, hw, -⟩
      · exact hst
      · by_cases htask : cp.taskId = T
        · exact absurd ⟨⟨q, hq, hqt, hqd⟩, x, hx, cp, hcp, htask, htask ▸ hst⟩ hal
        · refine stored_some.mpr ⟨crow, ?_, hce⟩
          rw [replay_workflow (hok.state _ _ hrow).task hrow hstate hw, if_neg htask]
          exact hcrow
    | _ => exact hframe rfl

theorem verdict_resolved {s s' : SQLiteStore} {actionId actor : String} {b : Bool} {reason : Option String}
    (ha : st.pendingAction.map (·.actionId) = some actionId)
    (h : s.resolveApproval t st.taskId actionId b actor reason = (.ok (), s')) : approvalOf s' st = some (verdict b) := by
  obtain ⟨pending, hp, rfl⟩ := Option.map_eq_some_iff.mp ha
  rcases SQLiteStore.resolveApproval_cases h with ⟨row, -, -, -, hg, -⟩ | ⟨⟨m, hm⟩, -⟩
  · rw [approvalOf, hp]
    simp [SQLiteStore.approvalStatus, hg, verdict]
  · cases hm

/-- A request knows of the store what its own calls told it. -/
theorem sound_after (hok : StoreOk Set.univ w.store) (hq : Sound w.store q) (hmay : q.May c) (he : Effect c w.store t r s') :
    Sound s' (q.after c r) := by
  cases q with
  | other =>
    rw [Request.after_other]
    trivial
  | asked b =>
    obtain ⟨taskId, rfl⟩ := may_asked hmay
    obtain ⟨rfl, rfl⟩ := Prod.mk.inj he
    cases hfound : w.store.getWorkflow taskId with
    | none => trivial
    | some st =>
      show Sound w.store (if Waits st then .loaded st b else .refused)
      split
      · rename_i hw
        obtain ⟨row, hrow, rfl⟩ := SQLiteStore.getWorkflow_some hfound
        refine ⟨hw, .inl ?_⟩
        rw [(hok.state _ _ hrow).task]
        exact hfound
      · trivial
  | loaded st b =>
    obtain ⟨hw, actionId, actor, reason, rfl, ha⟩ := may_loaded hmay
    rcases SQLiteStore.resolveApproval_cases he with ⟨row, hrow, hpending, rfl, -, hworkflows, -⟩ | ⟨⟨m, rfl⟩, -⟩
    · refine ⟨hw, ?_, verdict_resolved ha he⟩
      rw [stored_congr hworkflows]
      refine hq.2.resolve_right ?_
      rintro ⟨b', hb'⟩
      obtain ⟨pending, hp, rfl⟩ := Option.map_eq_some_iff.mp ha
      rw [approvalOf, hp] at hb'
      obtain ⟨row', hrow', hst'⟩ := SQLiteStore.approvalStatus_some hb'
      rw [hrow] at hrow'
      cases hrow'
      exact verdict_ne b' (hst'.symm.trans hpending)
    · trivial
  | decided st b =>
    obtain ⟨new, rfl, hm⟩ := may_decided hmay
    obtain ⟨hw, hst, ha⟩ := hq
    obtain ⟨row, hrow, hrst⟩ := stored_some.mp hst
    rcases SQLiteStore.saveWorkflow_cases he with ⟨row', -, -, rfl, hworkflows, -, happrovals, -⟩ | ⟨-, -, hstale⟩
    · refine ⟨hw, ?_, hm, ?_⟩
      · simpa [approvalOf, SQLiteStore.approvalStatus, happrovals] using ha
      · rw [SQLiteStore.stored, SQLiteStore.getWorkflow, hworkflows, if_pos hm.1.symm]
        simp
    · -- what it loaded is still stored, so the version is found
      rw [hm.1] at hstale
      exact absurd (by rw [hok.version _ _ hrow, hrst]) (hstale row hrow)
  | saved st new b =>
    obtain ⟨hw, ha, hm, hst⟩ := hq
    have hl := effect_later hok he
    have hsaved : Sound s' (.saved st new b) := ⟨hw, approvalOf_later hl ha, hm, stored_later hl hst⟩
    rcases may_saved hmay with ⟨taskId, event, payload, rfl⟩ | ⟨n, rfl⟩
    · exact hsaved
    · cases r with
      | ok id => exact hsaved
      | error e =>
        obtain ⟨found, hfound⟩ := Option.ne_none_iff_exists'.mp hst
        obtain ⟨row, hrow, -⟩ := stored_some.mp hfound
        have henqueue : (w.store.enqueue t st.taskId n).1 = .error e := congrArg Prod.fst he
        unfold SQLiteStore.enqueue at henqueue
        rw [hrow] at henqueue
        split at henqueue <;> cases henqueue
  | refused => exact hmay.elim
  | failed => exact hmay.elim

/-- A request that has won knows its approval resolved. -/
theorem won_resolved {taskId actionId : String} (hq : Sound s q) (hwon : q.won taskId actionId = true) :
    ∃ b, s.approvalStatus taskId actionId = some (verdict b) := by
  have hstatus : ∀ {st : WorkflowState} {b : Bool}, (st.taskId = taskId ∧ st.pendingAction.map (·.actionId) = some actionId) →
      approvalOf s st = some (verdict b) → s.approvalStatus taskId actionId = some (verdict b) := by
    rintro st b ⟨rfl, ha⟩ happ
    obtain ⟨pending, hp, rfl⟩ := Option.map_eq_some_iff.mp ha
    rwa [approvalOf, hp] at happ
  cases q with
  | decided st b => exact ⟨b, hstatus (of_decide_eq_true hwon) hq.2.2⟩
  | saved st new b => exact ⟨b, hstatus (of_decide_eq_true hwon) hq.2.1⟩
  | failed => exact hq.elim
  | _ => cases hwon

/-- Only a call that resolves an approval makes a request win. -/
theorem won_after {taskId actionId : String} (hmay : q.May c) (hwon : (q.after c r).won taskId actionId = true) :
    q.won taskId actionId = true ∨ ∃ b actor reason, c = .store (.resolveApproval taskId actionId b actor reason) ∧ r.toBool = true := by
  cases q with
  | other => rw [Request.after_other] at hwon; cases hwon
  | asked b =>
    obtain ⟨T, rfl⟩ := may_asked hmay
    have hcases : (∃ st, (Request.asked b).after (.store (.getWorkflow T)) r = .loaded st b) ∨
        (Request.asked b).after (.store (.getWorkflow T)) r = .refused := by
      match r with
      | .ok (some st) =>
        by_cases hw : Waits st
        · exact .inl ⟨st, if_pos hw⟩
        · exact .inr (if_neg hw)
      | .ok none => exact .inr rfl
      | .error e => exact .inr rfl
    rcases hcases with ⟨st, e⟩ | e <;> rw [e] at hwon <;> cases hwon
  | loaded st b =>
    obtain ⟨-, a, actor, reason, rfl, ha⟩ := may_loaded hmay
    cases r with
    | ok u =>
      obtain ⟨rfl, ha'⟩ := of_decide_eq_true hwon
      obtain rfl : a = actionId := Option.some.inj (ha.symm.trans ha')
      exact .inr ⟨b, actor, reason, rfl, rfl⟩
    | error e => cases hwon
  | decided st b =>
    obtain ⟨new, rfl, -⟩ := may_decided hmay
    cases r <;> exact .inl hwon
  | saved st new b =>
    rcases may_saved hmay with ⟨T, event, payload, rfl⟩ | ⟨n, rfl⟩ <;> cases r <;> exact .inl hwon
  | refused => exact hmay.elim
  | failed => exact hmay.elim

/-- The save of what was decided leaves what the other requests are to save. -/
theorem due_beside {st new cp : WorkflowState} {b : Bool} {r : Except PyError WorkflowState} {actionId : String}
    (hdec : Sound w.store (.decided st b)) (ha : st.pendingAction.map (·.actionId) = some actionId)
    (htask : new.taskId = st.taskId) (he : w.store.saveWorkflow t new st.version = (r, s'))
    (hnot : q.won st.taskId actionId = false) (hcp : q.Due w.store cp) (hst : w.store.stored cp.taskId = some cp) :
    s'.stored cp.taskId = some cp := by
  obtain ⟨-, hstored, hverdict⟩ := hdec
  by_cases hsame : cp.taskId = st.taskId
  · -- both are to save one checkpoint
    rw [hsame, hstored] at hst
    obtain rfl := Option.some.inj hst
    cases q with
    | loaded state b' =>
      obtain ⟨rfl, hopen⟩ := hcp
      exact absurd ⟨b, hverdict⟩ hopen
    | decided state b' =>
      obtain rfl : st = state := hcp
      exact absurd ⟨rfl, ha⟩ (of_decide_eq_false hnot)
    | _ => exact hcp.elim
  · obtain ⟨row, hrow, hrst⟩ := stored_some.mp hst
    rcases SQLiteStore.saveWorkflow_cases he with ⟨-, -, -, -, hw, -⟩ | ⟨-, rfl, -⟩
    · refine stored_some.mpr ⟨row, ?_, hrst⟩
      rw [hw, if_neg (by rw [htask]; exact hsame)]
      exact hrow
    · exact stored_some.mpr ⟨row, hrow, hrst⟩

/-- What a request is to save stays, whatever another request or a worker calls. -/
theorem due_kept_beside {det : LoopDetector} (hi : Agreed w) (hok : StoreOk Set.univ w.store) (hmay : (request i w.journal).May c)
    (hstage : May det (stage i w.journal) c) (hcopy : ∀ cp, (stage i w.journal).seen = some cp → Copy cp w.store)
    (hal : ¬ WritesOver i w c) (he : Effect c w.store t r s') {pre post : List (ThreadId × Request)}
    (hrs : requests w.journal = pre ++ (i, request i w.journal) :: post) {x : ThreadId × Request} (hx : x ∈ pre ++ post)
    {cp : WorkflowState} (hcp : x.2.Due w.store cp) (hst : w.store.stored cp.taskId = some cp) : s'.stored cp.taskId = some cp := by
  have hxs : x ∈ requests w.journal := by
    rw [hrs]
    rcases List.mem_append.mp hx with hx | hx
    · exact List.mem_append_left _ hx
    · exact List.mem_append_right _ (List.mem_cons_of_mem _ hx)
  by_cases hdec : ∃ st b, request i w.journal = .decided st b
  · obtain ⟨st, b, hq⟩ := hdec
    rw [hq] at hmay hrs
    obtain ⟨new, rfl, hm⟩ := may_decided hmay
    have hsound : Sound w.store (.decided st b) := hi.sound (i, _) (by rw [hrs]; simp)
    obtain ⟨pending, hp⟩ := Option.isSome_iff_exists.mp hsound.1.2
    have ha : st.pendingAction.map (·.actionId) = some pending.actionId := by rw [hp]; rfl
    refine due_beside hsound ha hm.1 he ?_ hcp hst
    -- another winner of the same action would be a second one
    by_contra hwon
    have hone := hi.one st.taskId pending.actionId
    have hself : (Request.decided st b).won st.taskId pending.actionId = true := decide_eq_true ⟨rfl, ha⟩
    have hpos : 0 < (pre ++ post).countP fun y => y.2.won st.taskId pending.actionId :=
      List.countP_pos_iff.mpr ⟨x, hx, by simpa using hwon⟩
    rw [hrs, List.countP_append, List.countP_cons_of_pos (by exact hself)] at hone
    rw [List.countP_append] at hpos
    omega
  · exact due_kept hi hok hmay hstage hcopy hal (fun st b h => hdec ⟨st, b, h⟩) he hxs hcp hst

/-- The approval of an action that a request resolves is open before: nobody has won it. -/
theorem unwon_of_resolves (hi : Agreed w) {taskId actionId actor : String} {b : Bool} {reason : Option String} {u : Unit}
    (he : w.store.resolveApproval t taskId actionId b actor reason = (.ok u, s')) :
    (requests w.journal).countP (fun x => x.2.won taskId actionId) = 0 := by
  refine List.countP_eq_zero.mpr fun x hx hwon => ?_
  obtain ⟨b', hb'⟩ := won_resolved (hi.sound x hx) hwon
  obtain ⟨row, hrow, hst⟩ := SQLiteStore.approvalStatus_some hb'
  rcases SQLiteStore.resolveApproval_cases he with ⟨row', hrow', hpending, -⟩ | ⟨⟨m, hm⟩, -⟩
  · rw [hrow] at hrow'
    cases hrow'
    exact verdict_ne b' (hst.symm.trans hpending)
  · cases hm

theorem call_agreed {det : LoopDetector} (hi : Agreed w) (hok : StoreOk Set.univ w.store) (hmay : (request i w.journal).May c)
    (hstage : May det (stage i w.journal) c) (hcopy : ∀ cp, (stage i w.journal).seen = some cp → Copy cp w.store)
    (hal : ¬ WritesOver i w c) (he : Effect c w.store t r s') : Agreed ⟨s', t, .did i c r :: w.journal⟩ := by
  have hl := effect_later hok he
  rcases touch_cases i (·.after c r) (requests w.journal) with ⟨ht, hn⟩ | ⟨pre, q, post, hrs, ht, hn, -⟩
  · have hother : request i w.journal = .other := hn
    refine ⟨fun x hx => ?_, fun taskId actionId => ?_⟩
    · have hx : x ∈ requests w.journal := ht ▸ hx
      refine (hi.sound x hx).later hl fun cp hcp hst => due_kept hi hok hmay hstage hcopy hal (fun st b e => ?_) he hx hcp hst
      rw [hother] at e
      cases e
    · show (touch i _ (requests w.journal)).countP _ ≤ 1
      rw [ht]
      exact hi.one taskId actionId
  · obtain rfl : request i w.journal = q := hn
    have hsound := hi.sound (i, request i w.journal) (by rw [hrs]; simp)
    refine ⟨fun x hx => ?_, fun taskId actionId => ?_⟩
    · have hx : x ∈ pre ++ (i, (request i w.journal).after c r) :: post := ht ▸ hx
      have hkept : ∀ y ∈ pre ++ post, Sound s' y.2 := by
        intro y hy
        refine (hi.sound y ?_).later hl fun cp hcp hst => due_kept_beside hi hok hmay hstage hcopy hal he hrs hy hcp hst
        rw [hrs]
        rcases List.mem_append.mp hy with hy | hy
        · exact List.mem_append_left _ hy
        · exact List.mem_append_right _ (List.mem_cons_of_mem _ hy)
      rcases List.mem_append.mp hx with hx | hx
      · exact hkept x (List.mem_append_left _ hx)
      · rcases List.mem_cons.mp hx with rfl | hx
        · exact sound_after hok hsound hmay he
        · exact hkept x (List.mem_append_right _ hx)
    · show (touch i _ (requests w.journal)).countP _ ≤ 1
      have hone := hi.one taskId actionId
      rw [ht]
      rw [hrs] at hone
      by_cases hwon : ((request i w.journal).after c r).won taskId actionId = true
      · rcases won_after hmay hwon with hbefore | ⟨b, actor, reason, rfl, hr⟩
        · rw [List.countP_append, List.countP_cons_of_pos (by exact hbefore)] at hone
          rw [List.countP_append, List.countP_cons_of_pos (by exact hwon)]
          exact hone
        · cases r with
          | error e => cases hr
          | ok u =>
            have hnone := unwon_of_resolves hi he
            rw [hrs, List.countP_append, List.countP_cons] at hnone
            rw [List.countP_append, List.countP_cons_of_pos (by exact hwon)]
            omega
      · rw [List.countP_append, List.countP_cons] at hone
        rw [List.countP_append, List.countP_cons_of_neg (by exact hwon)]
        omega

/-- The winner's save finds what it loaded, and moves the checkpoint. -/
theorem save_moves {st : WorkflowState} {b : Bool} (hok : StoreOk Set.univ w.store) (hq : Sound w.store (.decided st b))
    (hmay : (Request.decided st b).May c) (he : Effect c w.store t r s') :
    ∃ new, (Request.decided st b).after c r = .saved st new b ∧ s'.stored st.taskId = some new ∧ Moved b st new := by
  have hsound := sound_after hok hq hmay he
  obtain ⟨new, rfl, hm⟩ := may_decided hmay
  rcases SQLiteStore.saveWorkflow_cases he with ⟨row, -, -, rfl, hw, -⟩ | ⟨⟨m, rfl⟩, -⟩
  · refine ⟨_, rfl, ?_, hm⟩
    rw [SQLiteStore.stored, SQLiteStore.getWorkflow, hw, if_pos hm.1.symm]
    rfl
  · exact hsound.elim

/-- The request decided its action. -/
def Request.decides : Request → Bool
  | decided .. | saved .. | failed .. => true
  | _ => false

/-- A call by which a request does not decide changes nothing. -/
theorem unchanged_of_undecided (hq : q ≠ .other) (hmay : q.May c) (hno : (q.after c r).decides = false)
    (he : Effect c s t r s') : s' = s := by
  cases q with
  | other => exact absurd rfl hq
  | asked b =>
    obtain ⟨taskId, rfl⟩ := may_asked hmay
    exact (congrArg Prod.snd he).symm
  | loaded st b =>
    obtain ⟨-, actionId, actor, reason, rfl, -⟩ := may_loaded hmay
    rcases SQLiteStore.resolveApproval_cases he with ⟨row, -, -, rfl, -⟩ | ⟨-, hs, -⟩
    · cases hno
    · exact hs
  | decided st b =>
    obtain ⟨new, rfl, -⟩ := may_decided hmay
    cases r <;> cases hno
  | saved st new b =>
    rcases may_saved hmay with ⟨taskId, event, payload, rfl⟩ | ⟨n, rfl⟩ <;> cases r <;> cases hno
  | refused => exact hmay.elim
  | failed => exact hmay.elim

/-! ## Every run -/

theorem mem_requests {journal : List Entry} (h : request i journal ≠ .other) : (i, request i journal) ∈ requests journal := by
  unfold request newest at h ⊢
  cases hf : (requests journal).find? fun x => x.1 == i with
  | none => rw [hf] at h; exact absurd rfl h
  | some x =>
    have hi : x.1 = i := by simpa using List.find?_some hf
    have hx := List.mem_of_find?_eq_some hf
    subst hi
    exact hx

theorem reachable_agreed {cfg : Cfg}
    (h : Reachable { rt with engine := anyEngine, backend := anyBackend } config undisturbed cfg) : Agreed cfg.state := by
  refine reachable_world (P := Agreed) ⟨fun x hx => (by cases hx), fun _ _ => (by simp [World.init, requests])⟩
    (fun w e hi he => ?_) (fun cfg i c k r w' hr hi hp hx => ?_) h
  · cases e with
    | did => cases he
    | ended | died => exact ⟨hi.sound, hi.one⟩
    | began i op =>
      have hstart : ∀ s, Sound s (Request.start op) ∧ ∀ taskId actionId, (Request.start op).won taskId actionId = false := by
        intro s
        cases op <;> exact ⟨trivial, fun _ _ => rfl⟩
      refine ⟨fun x hx => ?_, fun taskId actionId => ?_⟩
      · rcases List.mem_cons.mp hx with rfl | hx
        · exact (hstart _).1
        · exact hi.sound x hx
      · show ((i, Request.start op) :: requests w.journal).countP _ ≤ 1
        rw [List.countP_cons_of_neg (by simp [(hstart w.store).2])]
        exact hi.one taskId actionId
  · have hmay := (reachable_requesting hr hp).1
    have hok := reachable_storeOk lawful_univ hr
    obtain ⟨t, s', -, hal, he, rfl⟩ := hx
    exact call_agreed hi hok hmay (conforms hr hp) (fun cp h => reachable_copy hr i cp h) hal he

/-- In every run in which nothing writes over a checkpoint that a request is to save: of the requests that decide an action
    there is one, the row holds what it decided, and its save moves the checkpoint it loaded; every other call of a request
    changes nothing; and a request ends well just if it saved, having been refused if it did not. -/
theorem decisions_agree (rt : WorkflowRuntime) (config : Settings) {cfg : Cfg}
    (h : Reachable { rt with engine := anyEngine, backend := anyBackend } config undisturbed cfg) :
    (∀ taskId actionId, (requests cfg.state.journal).countP (fun x => x.2.won taskId actionId) ≤ 1) ∧
    (∀ x ∈ requests cfg.state.journal, Sound cfg.state.store x.2) ∧
    ∀ cfg', Step (system { rt with engine := anyEngine, backend := anyBackend } config undisturbed) cfg cfg' → ∀ i,
      request i cfg.state.journal ≠ .other →
      (∀ c r, cfg'.state.journal = .did i c r :: cfg.state.journal →
        (∀ st approved, request i cfg.state.journal = .decided st approved → cfg.state.store.stored st.taskId = some st ∧
          ∃ new, request i cfg'.state.journal = .saved st new approved ∧ cfg'.state.store.stored st.taskId = some new ∧
            Moved approved st new) ∧
        ((request i cfg'.state.journal).decides = false → cfg'.state.store = cfg.state.store)) ∧
      ∀ o, cfg'.state.journal = .ended i o :: cfg.state.journal → cfg'.state.store = cfg.state.store ∧
        ((o.toBool = true ∧ ∃ st new approved, request i cfg.state.journal = .saved st new approved) ∨
          (o.toBool = false ∧ request i cfg.state.journal = .refused)) := by
  have hi := reachable_agreed h
  refine ⟨hi.one, hi.sound, fun cfg' hs i hq => ⟨fun c r hj => ?_, fun o hj => ?_⟩⟩
  · cases hs with
    | enter _ he => obtain ⟨op, -, -, rfl⟩ := he; cases hj
    | leave _ _ hl => obtain rfl := hl; cases hj
    | crash _ hx => obtain ⟨hdies, -⟩ := hx; exact hdies.elim
    | call hp hx =>
      have hmay := (reachable_requesting h hp).1
      obtain ⟨t, s', -, -, he, rfl⟩ := hx
      cases hj
      have hafter : request i (.did i c r :: cfg.state.journal) = (request i cfg.state.journal).after c r := request_did ..
      refine ⟨fun st approved hst => ?_, fun hno => ?_⟩
      · have hsound := hi.sound _ (mem_requests hq)
        rw [hst] at hsound hmay
        obtain ⟨new, hnew, hstored, hmoved⟩ := save_moves (reachable_storeOk lawful_univ h) hsound hmay he
        refine ⟨hsound.2.1, new, ?_, hstored, hmoved⟩
        show request i (.did i c r :: cfg.state.journal) = _
        rw [hafter, hst, hnew]
      · have hno : (request i (.did i c r :: cfg.state.journal)).decides = false := hno
        rw [hafter] at hno
        exact unchanged_of_undecided hq hmay hno he
  · cases hs with
    | enter _ he => obtain ⟨op, -, -, rfl⟩ := he; cases hj
    | call _ hx => obtain ⟨t, s', -, -, -, rfl⟩ := hx; cases hj
    | crash _ hx => obtain ⟨hdies, -⟩ := hx; exact hdies.elim
    | @leave i p o _ hp ho hl =>
      have hfollows := reachable_requesting h hp
      obtain rfl := hl
      cases hj
      have hends : Ends o (request i cfg.state.journal) := by
        cases p with
        | ret a => cases ho; exact hfollows
        | raise e => cases ho; exact hfollows
        | call c k => cases ho
      have hsound := hi.sound _ (mem_requests hq)
      refine ⟨rfl, ?_⟩
      cases hpos : request i cfg.state.journal with
      | other => exact absurd hpos hq
      | saved st new approved => rw [hpos] at hends; exact .inl ⟨hends, st, new, approved, rfl⟩
      | refused => rw [hpos] at hends; exact .inr ⟨hends, rfl⟩
      | failed => rw [hpos] at hsound; exact hsound.elim
      | _ => rw [hpos] at hends; exact hends.elim

/-! ## Two requests -/

/-- Nothing is to save. -/
def Request.free : Request → Bool
  | loaded .. | decided .. => false
  | _ => true

/-- No replay, and no handler's save while a request is to save. -/
def calm (i : ThreadId) (w : World) : Call → Bool
  | .store (.saveWorkflow ..) => !(request i w.journal).free || (stage i w.journal).held.isSome || (requests w.journal).all fun x => x.2.free
  | .store (.replayDeadLetter ..) => false
  | _ => true

theorem calm_undisturbed (i : ThreadId) (w : World) (c : Call) (r : Except PyError c.Ret) (h : calm i w c = true) :
    undisturbed.allows i w c r := by
  show ¬ WritesOver i w c
  cases c with
  | store c =>
    cases c with
    | saveWorkflow st v =>
      rintro ⟨hother, hheld, x, hx, cp, hdue, -⟩
      rw [calm, hother, hheld] at h
      have hfree : x.2.free = true := List.all_eq_true.mp h x hx
      cases hq : x.2 with
      | loaded | decided => rw [hq] at hfree; cases hfree
      | _ => rw [hq] at hdue; exact hdue
    | replayDeadLetter => cases h
    | _ => exact id
  | _ => exact id

def undisturbedPlayer : Simulator (system {} {} undisturbed) Operation Answer :=
  player {} {} undisturbed (fun i w c _ => calm i w c) (fun _ _ => false) calm_undisturbed (fun _ _ _ => trivial)
    (fun _ _ h => by cases h)

/-- Two operators load a waiting workflow; one approves, the other rejects after it. -/
def approvesAndRejects : List (Move ThreadId Operation Answer) :=
  pausedRestart 8 ++ [.leave 1] ++ begins 2 (.approve "t" "operator" none) 1 ++ begins 3 (.reject "t" "supervisor" none) 1 ++
    continues 2 1 ++ continues 3 1 ++ continues 2 3 ++ [.leave 2, .leave 3]

def Request.isSaved : Request → Bool
  | saved .. => true
  | _ => false

def Request.isRefused : Request → Bool
  | refused => true
  | _ => false

theorem approvesAndRejects_plays : (undisturbedPlayer.play ⟨World.init, fun _ => none⟩ approvesAndRejects).any
    (fun cfg => (request 2 cfg.state.journal).isSaved && (request 3 cfg.state.journal).isRefused) = true := by
  decide +kernel

theorem decisions_agree_two : ∃ cfg, Reachable {} {} undisturbed cfg ∧ (request 2 cfg.state.journal).isSaved = true ∧
    (request 3 cfg.state.journal).isRefused = true ∧
    ∀ taskId actionId, (requests cfg.state.journal).countP (fun x => x.2.won taskId actionId) ≤ 1 := by
  obtain ⟨cfg, h, hc⟩ := undisturbedPlayer.play_exists approvesAndRejects_plays
  rw [Bool.and_eq_true] at hc
  exact ⟨cfg, h, hc.1, hc.2, (decisions_agree {} {} h).1⟩

/-! ## A decision written over -/

/-- A worker's only attempt fails; before its handler reads the checkpoint the delivery is replayed, another worker pauses for
    an approval and an operator resolves it. Then the handler saves `DEAD_LETTERED`, and the approval's save comes last. -/
def savesBetween : List (Move ThreadId Operation Answer) :=
  lastAttempt ++ replaysIt ++ begins 3 (.runOnce "w3") 4 ++ decides 3 productionRestart ++ continues 3 8 ++ [.leave 3] ++
    begins 4 (.approve "t" "operator" none) 2 ++ continues 1 2 ++ continues 4 1

def overwrittenIn (cfg : Cfg) : Bool :=
  match request 4 cfg.state.journal with
  | .failed st true => decide (approvalOf cfg.state.store st = some .approved)
  | _ => false

theorem savesBetween_plays : (oneLeasedPlayer.play ⟨World.init, fun _ => none⟩ savesBetween).any
    (fun cfg => overwrittenIn cfg && hasStatus .deadLettered cfg) = true := by
  decide +kernel

/-- The request that won has a stale save: the row is `APPROVED`, the checkpoint `DEAD_LETTERED`. -/
theorem decision_overwritten : ∃ cfg, Reachable {} oneAttempt .leased cfg ∧ ∃ st, request 4 cfg.state.journal = .failed st true ∧
    approvalOf cfg.state.store st = some .approved ∧ cfg.state.store.statusOf "t" = some .deadLettered := by
  obtain ⟨cfg, h, hc⟩ := oneLeasedPlayer.play_exists savesBetween_plays
  rw [Bool.and_eq_true] at hc
  obtain ⟨hover, hstatus⟩ := hc
  refine ⟨cfg, h, ?_⟩
  unfold overwrittenIn at hover
  split at hover
  · rename_i st hreq
    exact ⟨st, hreq, of_decide_eq_true hover, of_decide_eq_true hstatus⟩
  · cases hover

end AgentResilience.Requests
