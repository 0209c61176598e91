/-
  AgentResilience.Episodes — what each operation has saved and recorded so far, read off
  the journal. An operation that makes its workflow terminal does so by two calls: it saves
  the checkpoint and records the event about it. `Episode.owing` is the time between them.

  - `Episode.MayTell`: the checkpoint that made the workflow terminal is an operation's last
    save, and the event after it its last event.
  - `process_tells`, …, `operation_tells`: the programs, bottom up; `tells`: every call about to
    be made is one its operation may make.
-/
import AgentResilience.AuditLog
import AgentResilience.StageWalk

namespace AgentResilience

open Interaction
open Interaction.Prog (attempt ofExcept throw)

/-! ## Episodes -/

/-- What is recorded of an event: the log adds its id and time. -/
structure Notice where
  taskId : String
  event : EventType
  payload : Json

def EventRecord.notice (e : EventRecord) : Notice := ⟨e.taskId, e.eventType, e.payload⟩

/-- One operation of a thread. -/
structure Episode where
  /-- The terminal checkpoint it saved. -/
  made : Option WorkflowState := none
  /-- It has recorded nothing since. -/
  owing : Bool := false
  notices : List Notice := []

/-- The events it recorded of a task. -/
def Episode.told (ep : Episode) (taskId : String) : List Notice := ep.notices.filter (·.taskId = taskId)

def Episode.after (ep : Episode) : (c : Call) → Except PyError c.Ret → Episode
  | .store (.saveWorkflow ..), .ok st => if st.terminal then { ep with made := some st, owing := true } else ep
  | .store (.recordEvent taskId e payload), .ok _ =>
    { ep with owing := false, notices := ep.notices ++ [⟨taskId, e, payload⟩] }
  | _, _ => ep

/-- The operations of thread `i`, newest first. -/
def episodes (i : ThreadId) : List Entry → List Episode
  | [] => []
  | .began j _ :: es => if j = i then {} :: episodes i es else episodes i es
  | .did j c r :: es => if j = i then ((episodes i es).headD {}).after c r :: (episodes i es).tail else episodes i es
  | .ended .. :: es | .died _ :: es => episodes i es

/-- The operation thread `i` runs or ran last. -/
def episode (i : ThreadId) (journal : List Entry) : Episode := (episodes i journal).headD {}

@[simp] theorem episodes_ended (i j : ThreadId) (o : Except PyError Reply) (es : List Entry) :
    episodes i (.ended j o :: es) = episodes i es := rfl

@[simp] theorem episodes_died (i j : ThreadId) (es : List Entry) : episodes i (.died j :: es) = episodes i es := rfl

@[simp] theorem episodes_began (i : ThreadId) (op : Operation) (es : List Entry) :
    episodes i (.began i op :: es) = {} :: episodes i es := by
  simp [episodes]

theorem episodes_began_other {i j : ThreadId} (h : j ≠ i) (op : Operation) (es : List Entry) :
    episodes i (.began j op :: es) = episodes i es := by
  simp [episodes, h]

@[simp] theorem episodes_did (i : ThreadId) (c : Call) (r : Except PyError c.Ret) (es : List Entry) :
    episodes i (.did i c r :: es) = (episode i es).after c r :: (episodes i es).tail := by
  simp [episodes, episode]

theorem episodes_did_other {i j : ThreadId} (h : j ≠ i) (c : Call) (r : Except PyError c.Ret) (es : List Entry) :
    episodes i (.did j c r :: es) = episodes i es := by
  simp [episodes, h]

/-- A call that is neither a save nor a record. -/
def Call.untold : Call → Bool
  | .store (.saveWorkflow ..) | .store (.recordEvent ..) => false
  | _ => true

theorem Episode.after_untold {c : Call} (h : c.untold = true) (ep : Episode) (r : Except PyError c.Ret) : ep.after c r = ep := by
  unfold after
  split
  · cases h
  · cases h
  · rfl

theorem Episode.after_error (ep : Episode) (c : Call) (e : PyError) : ep.after c (.error e) = ep := by
  unfold after
  split <;> first | rfl | simp_all

@[simp] theorem episode_did (i : ThreadId) (c : Call) (r : Except PyError c.Ret) (es : List Entry) :
    episode i (.did i c r :: es) = (episode i es).after c r := by
  simp [episode]

@[simp] theorem episode_began (i : ThreadId) (op : Operation) (es : List Entry) : episode i (.began i op :: es) = {} := by
  simp [episode]

theorem episode_mem (i : ThreadId) (es : List Entry) : episode i es ∈ episodes i es ∨ episode i es = {} := by
  unfold episode
  cases episodes i es with
  | nil => exact .inr rfl
  | cons ep eps => exact .inl List.mem_cons_self

/-- What holds of a new operation, and is kept by its own calls and by those of the others, holds
    of every operation. -/
theorem reachable_episodes {rt : WorkflowRuntime} {config : Settings} {env : Env} {P : SQLiteStore → Episode → Prop}
    (hnew : ∀ s, P s {})
    (hkept : ∀ cfg i c r w' ep, Reachable rt config env cfg → calls env i c cfg.state r w' → P cfg.state.store ep → P w'.store ep)
    (hcall : ∀ cfg i c r w' ep, Reachable rt config env cfg → calls env i c cfg.state r w' → P cfg.state.store ep →
      P w'.store (ep.after c r)) {cfg : Cfg} (h : Reachable rt config env cfg) {i : ThreadId} {ep : Episode}
    (hep : ep ∈ episodes i cfg.state.journal) : P cfg.state.store ep := by
  refine reachable_world (P := fun w => ∀ i, ∀ ep ∈ episodes i w.journal, P w.store ep) ?_ ?_ ?_ h i ep hep
  · intro i ep hep
    cases hep
  · intro w e ih hb i ep hep
    cases e with
    | did => cases hb
    | ended | died => exact ih i ep hep
    | began j op =>
      by_cases hj : j = i
      · subst hj
        rw [episodes_began] at hep
        rcases List.mem_cons.mp hep with rfl | hep
        · exact hnew _
        · exact ih j ep hep
      · rw [episodes_began_other hj] at hep
        exact ih i ep hep
  · intro cfg j c k r w' hr ih _ hs i ep hep
    have hjournal : w'.journal = .did j c r :: cfg.state.journal := by
      obtain ⟨t, s', -, -, -, rfl⟩ := hs
      rfl
    rw [hjournal] at hep
    by_cases hj : j = i
    · subst hj
      rw [episodes_did] at hep
      rcases List.mem_cons.mp hep with rfl | hep
      · refine hcall _ _ _ _ _ _ hr hs ?_
        rcases episode_mem j cfg.state.journal with hm | hm
        · exact ih j _ hm
        · rw [hm]; exact hnew _
      · exact hkept _ _ _ _ _ _ hr hs (ih j ep (List.mem_of_mem_tail hep))
    · rw [episodes_did_other hj] at hep
      exact hkept _ _ _ _ _ _ hr hs (ih i ep hep)

/-! ## The calls an operation may make -/

/-- Nothing is saved after the terminal checkpoint, and one event is recorded. -/
def Episode.MayTell (ep : Episode) : Call → Prop
  | .store (.saveWorkflow ..) => ep.made = none
  | .store (.recordEvent ..) => ep.made = none ∨ ep.owing = true
  | _ => True

def telling : Script Call Call.Ret PyError Episode := ⟨Episode.after, Episode.MayTell, Answers⟩

theorem mayTell_untold {c : Call} (h : c.untold = true) (ep : Episode) : ep.MayTell c := by
  unfold Episode.MayTell
  split
  · cases h
  · cases h
  · trivial

variable {α β : Type} {q : Episode} {rt : WorkflowRuntime} {config : Settings} {st : WorkflowState}

theorem tells_untold {p : Py α} (h : p.Makes fun c => c.untold = true) : Follows telling p (fun _ q' => q' = q) q :=
  .still (h.mono fun _ hc q => ⟨mayTell_untold hc q, q.after_untold hc⟩)

/-- An event; what was saved stays as it was. -/
theorem tells_record {taskId : String} {e : EventType} {payload : Json} {f : Unit → Py β}
    {Q : Except PyError β → Episode → Prop} (h : q.made = none ∨ q.owing = true)
    (hf : ∀ q', q'.made = q.made → Follows telling (f ()) Q q') :
    Follows telling ((record taskId e payload).bind f) Q q := by
  refine .bind (R := fun o q' => o = .ok () ∧ q'.made = q.made) (.perform h fun r hr => ?_) (fun _ q' h' => hf q' h'.2)
    fun _ _ h' => by cases h'.1
  obtain ⟨s, t, s', -, heff⟩ := hr
  obtain ⟨rfl, -⟩ := Prod.mk.inj heff
  exact ⟨rfl, rfl⟩

/-- A save that does not end the workflow. -/
theorem tells_save {f : WorkflowState → Py β} {Q : Except PyError β → Episode → Prop} (h : q.made = none)
    (hst : st.terminal = false) (hf : ∀ t, Follows telling (f (st.saved t)) Q q) (he : ∀ m, Q (.error (.concurrentUpdate m)) q) :
    Follows telling ((save st).bind f) Q q := by
  refine .bind (R := fun o q' => q' = q ∧ ((∃ t, o = .ok (st.saved t)) ∨ ∃ m, o = .error (.concurrentUpdate m)))
    (.perform h fun r hr => ?_) ?_ ?_
  · rcases answers_save hr with ⟨t, rfl⟩ | ⟨m, rfl⟩
    · refine ⟨?_, .inl ⟨t, rfl⟩⟩
      show (if (st.saved t).terminal = true then _ else q) = q
      exact if_neg (by rw [show (st.saved t).terminal = st.terminal from rfl, hst]; simp)
    · exact ⟨rfl, .inr ⟨m, rfl⟩⟩
  · rintro a q' ⟨rfl, ⟨t, e⟩ | ⟨m, e⟩⟩ <;> cases e
    exact hf t
  · rintro e q' ⟨rfl, ⟨t, e'⟩ | ⟨m, e'⟩⟩ <;> cases e'
    exact he m

/-- A save that ends it. -/
theorem tells_final {f : WorkflowState → Py β} {Q : Except PyError β → Episode → Prop} (h : q.made = none)
    (hst : st.terminal = true) (hf : ∀ t q', q'.owing = true → Follows telling (f (st.saved t)) Q q')
    (he : ∀ m, Q (.error (.concurrentUpdate m)) q) : Follows telling ((save st).bind f) Q q := by
  refine .bind (R := fun o q' => (∃ t, o = .ok (st.saved t) ∧ q'.owing = true) ∨ ∃ m, o = .error (.concurrentUpdate m) ∧ q' = q)
    (.perform h fun r hr => ?_) ?_ ?_
  · rcases answers_save hr with ⟨t, rfl⟩ | ⟨m, rfl⟩
    · refine .inl ⟨t, rfl, ?_⟩
      show Episode.owing (if (st.saved t).terminal = true then _ else q) = true
      rw [show (st.saved t).terminal = st.terminal from rfl, if_pos hst]
    · exact .inr ⟨m, rfl, rfl⟩
  · rintro a q' (⟨t, e, hq⟩ | ⟨m, e, -⟩) <;> cases e
    exact hf t q' hq
  · rintro e q' (⟨t, e', -⟩ | ⟨m, e', rfl⟩) <;> cases e'
    exact he m

/-- A call that is neither, and what follows it. -/
theorem tells_call {c : StoreCall} {f : c.Ret → Py β} {Q : Except PyError β → Episode → Prop}
    (hc : (Call.store c).untold = true) (hf : ∀ a, Follows telling (f a) Q q) (he : ∀ e, Q (.error e) q) :
    Follows telling ((onStore c).bind f) Q q := by
  refine .bind (tells_untold (Prog.makes_perform hc)) (fun a q' e => ?_) fun e q' e' => ?_
  · subst e; exact hf a
  · subst e'; exact he e

/-! ## Processing a delivery -/

/-- An operation that goes on after an exception has made nothing terminal. -/
def Clean {α : Type} (o : Except PyError α) (q : Episode) : Prop := ∀ e, o = .error e → q.made = none

theorem clean_ok {a : α} : Clean (.ok a) q := by
  intro e h
  cases h

theorem clean_made {o : Except PyError α} (h : q.made = none) : Clean o q := fun _ _ => h

theorem failWorkflow_tells {reason category : String} (h : q.made = none) :
    Follows telling (failWorkflow st reason category) Clean q :=
  tells_final h rfl (fun _ _ hq => tells_record (.inr hq) fun _ _ => clean_ok) fun _ => clean_made h

theorem executeTool_tells (hb : rt.backend = anyBackend) {tool : ToolName} {arguments : Arguments} (h : q.made = none) :
    Follows telling (rt.executeTool st tool arguments) Clean q := by
  unfold WorkflowRuntime.executeTool
  rw [hb]
  refine .attempt (tells_untold (gatewayExecute_makes (fun _ _ => rfl) (fun _ _ => rfl) fun _ _ _ _ _ => rfl)) fun o q' e => ?_
  subst e
  cases o with
  | error e =>
    simp only
    split
    · exact tells_save h rfl (fun _ => tells_record (.inl h) fun _ hq => clean_made (hq.trans h)) fun _ => clean_made h
    · split
      · exact failWorkflow_tells h
      · exact clean_made h
  | ok x => exact tells_save h rfl (fun _ => tells_record (.inl h) fun _ _ => clean_ok) fun _ => clean_made h

theorem resumeApprovedAction_tells (hb : rt.backend = anyBackend) {pending : PendingAction} (h : q.made = none) :
    Follows telling (rt.resumeApprovedAction st pending) Clean q := by
  refine tells_call rfl (fun a => ?_) fun _ => clean_made h
  split
  · exact clean_ok
  · exact tells_record (.inl h) fun _ hq => executeTool_tells hb (hq.trans h)

theorem pauseForApproval_tells {taskId : String} {pending : PendingAction} (h : q.made = none) :
    Follows telling (WorkflowRuntime.pauseForApproval taskId st pending) Clean q :=
  tells_save h rfl (fun _ => tells_call rfl (fun _ => tells_record (.inl h) fun _ _ => clean_ok) fun _ => clean_made h)
    fun _ => clean_made h

theorem runDecided_tells (hb : rt.backend = anyBackend) {taskId : String} {decision : AgentDecision} {tool : ToolName}
    {arguments : Arguments} {policy : PolicyDecision} (h : q.made = none) :
    Follows telling (rt.runDecided taskId st decision tool arguments policy) Clean q := by
  unfold WorkflowRuntime.runDecided
  split
  · exact tells_record (.inl h) fun _ hq => failWorkflow_tells (hq.trans h)
  · split
    · exact pauseForApproval_tells h
    · split
      · exact tells_record (.inl h) fun _ hq => executeTool_tells hb (hq.trans h)
      · exact executeTool_tells hb h

open WorkflowRuntime in
theorem useTool_tells (hb : rt.backend = anyBackend) {taskId : String} {decision : AgentDecision} {tool : ToolName}
    (h : q.made = none) (hst : st.terminal = false) : Follows telling (rt.useTool taskId st decision tool) Clean q := by
  unfold WorkflowRuntime.useTool
  refine .ofExcept (fun x _ => ?_) fun e _ => clean_made h
  obtain ⟨arguments, policy⟩ := x
  simp only
  split
  · exact tells_final h rfl (fun _ _ hq => tells_record (.inr hq) fun _ _ => clean_ok) fun _ => clean_made h
  · exact tells_save h hst (fun _ => runDecided_tells hb h) fun _ => clean_made h

theorem applyDecision_tells (he : rt.engine = anyEngine) (hb : rt.backend = anyBackend) {taskId : String}
    {decision : AgentDecision} (h : q.made = none) (hst : st.terminal = false) :
    Follows telling (rt.applyDecision taskId st decision) Clean q := by
  unfold WorkflowRuntime.applyDecision
  rw [he]
  refine .bind (tells_untold (Prog.makes_perform rfl)) (fun u q' e => ?_) fun e q' e' => clean_made (e' ▸ h)
  subst e
  refine tells_record (.inl h) fun q' hq => ?_
  have h' : q'.made = none := hq.trans h
  simp only
  split
  · exact tells_final h' rfl (fun _ _ ho => tells_record (.inr ho) fun _ _ => clean_ok) fun _ => clean_made h'
  · exact failWorkflow_tells h'
  · split
    · exact clean_made h'
    · exact useTool_tells hb h' hst

theorem decideNext_tells (he : rt.engine = anyEngine) (hb : rt.backend = anyBackend) {taskId : String} (h : q.made = none) :
    Follows telling (rt.decideNext taskId st) Clean q := by
  unfold WorkflowRuntime.decideNext
  rw [he]
  refine tells_save h rfl (fun t => tells_record (.inl h) fun q' hq => ?_) fun _ => clean_made h
  have h' : q'.made = none := hq.trans h
  refine .attempt (tells_untold (Prog.makes_perform rfl)) fun o q'' e => ?_
  subst e
  cases o with
  | error e =>
    simp only
    split
    · exact tells_save h' rfl (fun _ => tells_record (.inl h') fun _ hq => clean_made (hq.trans h')) fun _ => clean_made h'
    · exact clean_made h'
  | ok decision => exact applyDecision_tells he hb h' rfl

theorem process_tells (he : rt.engine = anyEngine) (hb : rt.backend = anyBackend) {taskId : String} (h : q.made = none) :
    Follows telling (rt.process taskId) Clean q := by
  unfold WorkflowRuntime.process requiredState
  rw [Prog.bind_def, Prog.bind_def, Prog.bind_assoc]
  refine tells_call rfl (fun o => ?_) fun _ => clean_made h
  cases o with
  | none => exact clean_made h
  | some st =>
    show Follows telling (if _ then _ else _) Clean q
    split
    · exact clean_ok
    · split
      · exact resumeApprovedAction_tells hb h
      · exact decideNext_tells he hb h

/-! ## The worker -/

/-- Whatever is left of the episode. -/
def Whatever {α : Type} (_ : Except PyError α) (_ : Episode) : Prop := True

/-- A delivery done. An exception that the worker handles left nothing terminal. -/
theorem processDelivery_tells (he : rt.engine = anyEngine) (hb : rt.backend = anyBackend) {d : QueueDelivery} (h : q.made = none) :
    Follows telling (processDelivery rt config d)
      (fun o q' => ∀ e, o = .error e → q'.made = none ∨ e.isRetryable = false ∧ e.isPermanent = false) q := by
  refine .bind (process_tells he hb h) (fun st q' _ => ?_) fun e _ hq _ _ => .inl (hq e rfl)
  refine .bind (R := fun o _ => o = .ok ()) (.perform trivial fun r hr => ?_) (fun _ q'' _ => ?_) fun _ _ h => by cases h
  · obtain ⟨s, t, s', -, heff⟩ := hr
    exact (Prod.mk.inj heff).1.symm
  · split
    · refine .bind (R := fun o _ => ∀ e, o = .error e → e.isRetryable = false ∧ e.isPermanent = false)
        (.perform trivial fun r hr e he => answers_enqueue (he ▸ hr)) (fun _ _ _ e h => by cases h) fun e _ he e' h => ?_
      cases h
      exact .inr (he e rfl)
    · intro e h
      cases h

theorem onRetryable_tells {d : QueueDelivery} {e : PyError} (h : q.made = none) :
    Follows telling (onRetryable config d e) Whatever q := by
  refine tells_call rfl (fun dead => ?_) fun _ => trivial
  split
  · refine tells_call rfl (fun o => ?_) fun _ => trivial
    split
    · trivial
    · split
      · trivial
      · refine tells_final h rfl (fun _ q' hq => ?_) fun _ => trivial
        exact .perform (.inr hq) fun _ _ => trivial
  · trivial

theorem onPermanent_tells {d : QueueDelivery} {e : PyError} (h : q.made = none) :
    Follows telling (onPermanent d e) Whatever q := by
  refine tells_call rfl (fun _ => tells_call rfl (fun o => ?_) fun _ => trivial) fun _ => trivial
  split
  · trivial
  · split
    · trivial
    · refine tells_final h rfl (fun _ q' hq => ?_) fun _ => trivial
      exact .perform (.inr hq) fun _ _ => trivial

theorem handleDelivery_tells (he : rt.engine = anyEngine) (hb : rt.backend = anyBackend) {d : QueueDelivery} (h : q.made = none) :
    Follows telling (handleDelivery rt config d) Whatever q := by
  unfold handleDelivery
  refine .attempt (processDelivery_tells he hb h) fun o q' hq => ?_
  cases o with
  | ok u => trivial
  | error e =>
    have hq := hq e rfl
    simp only
    split
    · rename_i hret
      exact onRetryable_tells (hq.resolve_right fun h => by rw [h.1] at hret; cases hret)
    · split
      · rename_i hperm
        exact onPermanent_tells (hq.resolve_right fun h => by rw [h.2] at hperm; cases hperm)
      · trivial

theorem runOnce_tells (he : rt.engine = anyEngine) (hb : rt.backend = anyBackend) (workerId : String) (h : q.made = none) :
    Follows telling (runOnce rt config workerId) Whatever q := by
  have hdepth : ∀ {b : Bool} {q : Episode}, Follows telling (updateDepth.bind fun _ => (.ret b : Py Bool)) Whatever q :=
    .bind (R := Whatever) (tells_call rfl (fun _ => trivial) fun _ => trivial) (fun _ _ _ => trivial) fun _ _ _ => trivial
  refine tells_call rfl (fun delivery => ?_) fun _ => trivial
  cases delivery with
  | none => exact hdepth
  | some d =>
    refine .attempt (handleDelivery_tells he hb h) fun outcome q' _ => ?_
    refine .bind (tells_untold (Prog.makes_perform rfl)) (fun _ q'' _ => ?_) fun _ _ _ => trivial
    split
    · trivial
    · exact hdepth

/-! ## The control plane -/

theorem required_tells {taskId : String} {f : WorkflowState → Py β} (hf : ∀ st, Follows telling (f st) Whatever q) :
    Follows telling ((required taskId).bind f) Whatever q := by
  unfold required
  rw [Prog.bind_def, Prog.bind_assoc]
  refine tells_call rfl (fun o => ?_) fun _ => trivial
  cases o with
  | none => trivial
  | some st => exact hf st

theorem approve_tells (h : q.made = none) (taskId actor : String) (reason : Option String) :
    Follows telling (approve config taskId actor reason) Whatever q := by
  refine required_tells fun st => ?_
  split
  · refine tells_call rfl (fun _ => tells_save h rfl (fun _ => tells_record (.inl h) fun q' _ => ?_) fun _ => trivial) fun _ => trivial
    exact tells_call rfl (fun _ => trivial) fun _ => trivial
  · trivial

theorem reject_tells (h : q.made = none) (taskId actor : String) (reason : Option String) :
    Follows telling (reject taskId actor reason) Whatever q := by
  refine required_tells fun st => ?_
  split
  · exact tells_call rfl (fun _ => tells_final h rfl (fun _ _ hq => tells_record (.inr hq) fun _ _ => trivial) fun _ => trivial)
      fun _ => trivial
  · trivial

theorem operation_tells (he : rt.engine = anyEngine) (hb : rt.backend = anyBackend) (h : q.made = none) (op : Operation) :
    Follows telling (op.program rt config) Whatever q := by
  have hreply : ∀ {γ : Type} {p : Py γ} {f : γ → Reply}, Follows telling p Whatever q →
      Follows telling (p.bind fun a => .ret (f a)) Whatever q :=
    fun h => .bind h (fun _ _ _ => trivial) fun _ _ _ => trivial
  cases op with
  | runOnce workerId => exact hreply (runOnce_tells he hb workerId h)
  | heartbeatTick workerId delivery =>
    exact hreply (tells_call rfl (fun _ => .perform (.inl h) fun _ _ => trivial) fun _ => trivial)
  | createIncident taskId goal scenarioId =>
    refine hreply (.bind (tells_untold (Prog.makes_perform rfl)) (fun _ q' _ => ?_) fun _ _ _ => trivial)
    exact .mono (tells_untold (Prog.makes_perform rfl)) fun _ _ _ => trivial
  | approve taskId actor reason => exact hreply (approve_tells h taskId actor reason)
  | reject taskId actor reason => exact hreply (reject_tells h taskId actor reason)
  | replay deliveryId taskId actor reason =>
    refine hreply (tells_call rfl (fun o => ?_) fun _ => trivial)
    cases o <;> trivial

/-! ## The system -/

/-- Every program in flight follows the script from its operation's episode. -/
theorem reachable_tells {env : Env} {cfg : Cfg}
    (h : Reachable { rt with engine := anyEngine, backend := anyBackend } config env cfg) {i : ThreadId} {p : Py Reply}
    (hp : cfg.pool i = some p) : Follows telling p Whatever (episode i cfg.state.journal) := by
  refine reach_follows (fun i (w : World) => episode i w.journal) ?_ ?_ ?_ ?_ h hp
  · intro i p w w' he
    obtain ⟨op, rfl, -, rfl⟩ := he
    refine ⟨?_, fun j hj => congrArg (·.headD {}) (episodes_began_other (Ne.symm hj) op _)⟩
    exact operation_tells rfl rfl (by simp) op
  · intro cfg i c r w' hr hs
    have ha := answers_call (reachable_storeOk lawful_univ hr) hs
    obtain ⟨t, s', -, -, -, rfl⟩ := hs
    exact ⟨ha, episode_did i c r _, fun j hj => congrArg (·.headD {}) (episodes_did_other (Ne.symm hj) c r _)⟩
  · rintro i o w w' rfl j -
    rfl
  · rintro i w w' ⟨-, rfl⟩ j -
    rfl

/-- Every call about to be made is one its operation may make. -/
theorem tells {env : Env} {cfg : Cfg} (h : Reachable { rt with engine := anyEngine, backend := anyBackend } config env cfg)
    {i : ThreadId} {c : Call} {k : Except PyError c.Ret → Py Reply} (hp : cfg.pool i = some (.call c k)) :
    (episode i cfg.state.journal).MayTell c :=
  (reachable_tells h hp).1

end AgentResilience
