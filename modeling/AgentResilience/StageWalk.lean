/-
  AgentResilience.StageWalk — the programs follow the script. `At d cp q`: a worker at stage
  `q` holds delivery `d` and has `cp` as the checkpoint it read or saved last. Processing a
  delivery keeps it held, so that the worker can settle it whatever happened.

  - `executeTool_follows`, …, `process_follows`, `operation_follows`: the programs, bottom up.
  - `conforms`: in every reachable configuration, every call about to be made is one the
    thread may make at its stage.
-/
import AgentResilience.Stage

namespace AgentResilience

open Interaction
open Interaction.Prog (attempt ofExcept throw)

variable {det : LoopDetector} {α β : Type} {q : Stage} {d : QueueDelivery} {cp st : WorkflowState} {rt : WorkflowRuntime}
  {config : Settings}

/-! ## Calls -/

theorem answers_save {v : Nat} {r : Except PyError WorkflowState} (h : Answers (.store (.saveWorkflow st v)) r) :
    (∃ t, r = .ok { st with version := v + 1, updatedAt := t }) ∨ ∃ m, r = .error (.concurrentUpdate m) := by
  obtain ⟨s, t, s', -, he⟩ := h
  rcases SQLiteStore.saveWorkflow_cases he with ⟨-, -, -, rfl, -⟩ | ⟨hm, -⟩
  · exact .inl ⟨t, rfl⟩
  · exact .inr hm

theorem answers_getWorkflow {taskId : String} {r : Except PyError (Option WorkflowState)}
    (h : Answers (.store (.getWorkflow taskId)) r) : ∃ o, r = .ok o ∧ ∀ st, o = some st → StateOk Set.univ taskId st := by
  obtain ⟨s, t, s', hok, he⟩ := h
  obtain ⟨rfl, -⟩ := Prod.mk.inj he
  refine ⟨_, rfl, fun st hst => ?_⟩
  obtain ⟨row, hr, rfl⟩ := SQLiteStore.getWorkflow_some hst
  exact hok.state taskId row hr

/-- Queueing a delivery raises nothing the worker handles. -/
theorem answers_enqueue {taskId : String} {n : Nat} {e : PyError} (h : Answers (.store (.enqueue taskId n)) (.error e)) :
    e.isRetryable = false ∧ e.isPermanent = false := by
  obtain ⟨s, t, s', -, heff⟩ := h
  rcases SQLiteStore.enqueue_cases heff with ⟨_, -, -, -, -, hok, -⟩ | ⟨-, -, hok, -⟩ | ⟨-, ⟨m, hm⟩, -⟩
  · cases hok
  · cases hok
  · cases hm; exact ⟨rfl, rfl⟩

/-- A call that leaves the stage alone. -/
theorem follows_still {c : Call} (hc : May det q c) (hq : ∀ r, Stage.after q c r = q) :
    Follows (script det) (.perform c) (fun _ q' => q' = q) q :=
  .perform hc fun r _ => hq r

theorem follows_record {taskId : String} {e : EventType} {payload : Json} {f : Unit → Py β}
    {Q : Except PyError β → Stage → Prop} (he : May det q (.store (.recordEvent taskId e payload)))
    (hf : Follows (script det) (f ()) Q q) : Follows (script det) ((AgentResilience.record taskId e payload).bind f) Q q := by
  refine .bind (R := fun o q' => o = .ok () ∧ q' = q) (.perform he fun r hr => ⟨?_, rfl⟩) (fun _ q' h => ?_) fun _ _ h => ?_
  · obtain ⟨s, t, s', -, heff⟩ := hr
    exact (Prod.mk.inj heff).1.symm
  · rw [h.2]; exact hf
  · cases h.1

/-- What follows a save: the checkpoint saved, or the exception. -/
theorem follows_save {f : WorkflowState → Py β} {Q : Except PyError β → Stage → Prop} (h : MaySave det q st st.version cp)
    (hf : ∀ t, Follows (script det) (f { st with version := st.version + 1, updatedAt := t }) Q
      { q with seen := some { st with version := st.version + 1, updatedAt := t }, granted := decides? (some cp) st })
    (he : ∀ m, Q (.error (.concurrentUpdate m)) q) : Follows (script det) ((AgentResilience.save st).bind f) Q q := by
  refine .bind (R := fun o q' => (∃ t, o = .ok { st with version := st.version + 1, updatedAt := t } ∧
      q' = { q with seen := some { st with version := st.version + 1, updatedAt := t }, granted := decides? (some cp) st }) ∨
      ∃ m, o = .error (.concurrentUpdate m) ∧ q' = q) (.perform ⟨cp, h⟩ fun r hr => ?_) ?_ ?_
  · rcases answers_save hr with ⟨t, rfl⟩ | ⟨m, rfl⟩
    · refine .inl ⟨t, rfl, ?_⟩
      show ({ q with seen := some _, granted := decides? q.seen _ } : Stage) = _
      rw [h.seen]; rfl
    · exact .inr ⟨m, rfl, rfl⟩
  · intro a q' hq
    rcases hq with ⟨t, e, rfl⟩ | ⟨m, e, -⟩ <;> cases e
    exact hf t
  · intro e q' hq
    rcases hq with ⟨t, e, -⟩ | ⟨m, e, rfl⟩ <;> cases e
    exact he m

/-- What follows a read. -/
theorem follows_read {taskId : String} {f : Option WorkflowState → Py β} {Q : Except PyError β → Stage → Prop}
    (hr : q.dying = none ∨ q.seen = none)
    (hf : ∀ o, (∀ st, o = some st → StateOk Set.univ taskId st) →
      Follows (script det) (f o) Q { q with seen := o, granted := false }) :
    Follows (script det) ((onStore (.getWorkflow taskId)).bind f) Q q := by
  refine .bind (R := fun o q' => ∃ o', o = .ok o' ∧ (∀ st, o' = some st → StateOk Set.univ taskId st) ∧
      q' = { q with seen := o', granted := false }) (.perform hr fun r hr => ?_) ?_ ?_
  · obtain ⟨o, rfl, hok⟩ := answers_getWorkflow hr
    exact ⟨o, rfl, hok, rfl⟩
  · intro a q' hq
    obtain ⟨o, e, hok, rfl⟩ := hq
    cases e
    exact hf _ hok
  · intro e q' hq
    obtain ⟨o, e, -⟩ := hq
    cases e

/-- A save that neither dead-letters the workflow nor adds a tool call. -/
theorem maySave (hs : q.seen = some cp) (hc : Change det Set.univ cp st) (hh : q.held.isSome = true → cp.status.active = true)
    (hst : st.status ≠ .deadLettered) (ht : st.toolCalls = cp.toolCalls) : MaySave det q st st.version cp :=
  ⟨hs, hc.same.2, hc, hh, fun h => absurd h hst, fun h => absurd ht h⟩

/-! ## A worker with its delivery -/

/-- No action is pending. -/
def Rests {α : Type} : Except PyError α → Stage → Prop := fun _ q => q.action.pending = none

/-- The worker holds its delivery, and no action is pending. -/
structure Busy (d : QueueDelivery) (q : Stage) : Prop where
  held : q.held = some d
  dying : q.dying = none
  rests : q.action.pending = none

structure At (d : QueueDelivery) (cp : WorkflowState) (q : Stage) : Prop extends Busy d q where
  seen : q.seen = some cp
  task : cp.taskId = d.taskId

/-- The worker still holds its delivery. -/
def Holds (d : QueueDelivery) {α : Type} : Except PyError α → Stage → Prop := fun _ q => Busy d q

/-- The stages of one action differ in it and in `granted`. -/
structure Stage.Beside (q q' : Stage) : Prop where
  held : q'.held = q.held
  dying : q'.dying = q.dying
  seen : q'.seen = q.seen

theorem At.beside (h : At d cp q) {q' : Stage} (hq : q.Beside q') (hr : q'.action.pending = none) : At d cp q' :=
  ⟨⟨hq.held.trans h.held, hq.dying.trans h.dying, hr⟩, hq.seen.trans h.seen, h.task⟩

theorem At.saved (h : At d cp q) (hc : Change det Set.univ cp st) (t : Timestamp) (b : Bool) :
    At d { st with version := st.version + 1, updatedAt := t }
      { q with seen := some { st with version := st.version + 1, updatedAt := t }, granted := b } :=
  ⟨⟨h.held, h.dying, h.rests⟩, rfl, hc.same.1.trans h.task⟩

/-- A save of a worker, and what follows it. -/
theorem At.save {f : WorkflowState → Py β} (h : At d cp q) (hc : Change det Set.univ cp st) (hact : cp.status.active = true)
    (hst : st.status ≠ .deadLettered) (ht : st.toolCalls = cp.toolCalls)
    (hf : ∀ t, Follows (script det) (f { st with version := st.version + 1, updatedAt := t }) (Holds d)
      { q with seen := some { st with version := st.version + 1, updatedAt := t }, granted := decides? (some cp) st }) :
    Follows (script det) ((AgentResilience.save st).bind f) (Holds d) q :=
  follows_save (maySave h.seen hc (fun _ => hact) hst ht) hf fun _ => h.toBusy

theorem failWorkflow_follows {reason category : String} (h : At d cp q)
    (hc : Change det Set.univ cp { cp with status := .failed, lastError := some reason, currentStep := none })
    (hact : cp.status.active = true) : Follows (script det) (failWorkflow cp reason category) (Holds d) q :=
  h.save hc hact (by simp) rfl fun _ => follows_record trivial ⟨h.held, h.dying, h.rests⟩

/-- Where a lookup of the ledger leaves a delivery. -/
def Looked (key : String) : Except PyError (Option Json) → Stage → Prop
  | .ok (some result), q => q.action = .settled key result
  | .ok none, q => q.action = .missed key
  | .error _, q => q.action = .none

/-- Where an invocation of the backend leaves a delivery. -/
def Invoked (key : String) : Except PyError Json → Stage → Prop
  | .ok result, q => if result.nonEmptyObj then q.action = .returned key result else q.action = .none
  | .error _, q => q.action = .none

/-- The gateway ends with the action settled, or raises. -/
theorem gatewayExecute_follows {tool : ToolName} {arguments : Arguments} (h : At d cp q)
    (hg : cp.pendingAction = none → q.granted = true) :
    Follows (script det) (gatewayExecute anyBackend cp tool arguments)
      (fun o q' => At d cp q' ∧ ∀ x, o = .ok x → Settled q' cp tool x.1) q := by
  unfold gatewayExecute
  refine .ofExcept (fun x _ => ?_) fun e _ => ⟨h, fun _ h => by cases h⟩
  obtain ⟨validated, policy⟩ := x
  simp only
  split
  · exact ⟨h, fun _ h => by cases h⟩
  · refine .bind (R := fun o q' => q.Beside q' ∧ q'.granted = q.granted ∧ Looked (actionId cp.taskId tool validated) o q')
      (.perform ⟨h.rests, cp, d, tool, validated, h.seen, h.held, h.task, rfl⟩ fun r _ => ?_) (fun o q' hq => ?_)
      fun e q' hq => ⟨h.beside hq.1 (by rw [hq.2.2]; rfl), fun _ h => by cases h⟩
    · match r with
      | .ok (some result) => exact ⟨⟨rfl, rfl, rfl⟩, rfl, rfl⟩
      | .ok none => exact ⟨⟨rfl, rfl, rfl⟩, rfl, rfl⟩
      | .error e => exact ⟨⟨rfl, rfl, rfl⟩, rfl, rfl⟩
    · obtain ⟨hb, hgr, hact⟩ := hq
      cases o with
      | some cached =>
        have hact : q'.action = .settled (actionId cp.taskId tool validated) cached := hact
        refine ⟨h.beside hb (by rw [hact]; rfl), fun x hx => ?_⟩
        cases hx; exact ⟨validated, hact⟩
      | none =>
        have hact : q'.action = .missed (actionId cp.taskId tool validated) := hact
        refine .bind (R := fun o q'' => q.Beside q'' ∧ Invoked (actionId cp.taskId tool validated) o q'')
          (.perform ⟨hb.seen.trans h.seen, fun hp => hgr.trans (hg hp), hact⟩ fun r _ => ⟨⟨hb.held, hb.dying, hb.seen⟩, ?_⟩)
          (fun result q'' hq => ?_) fun e q'' hq => ⟨h.beside hq.1 (by rw [hq.2]; rfl), fun _ h => by cases h⟩
        · have hafter : (q'.after (.execute cp tool validated (cp.toolHistory.count tool.value)) r).action =
              (Action.missed (actionId cp.taskId tool validated)).answered r := by rw [← hact]; rfl
          cases r with
          | error e => exact hafter
          | ok result =>
            show if result.nonEmptyObj = true then (Stage.after _ _ _).action = _ else (Stage.after _ _ _).action = _
            rw [hafter]
            cases hne : result.nonEmptyObj <;> simp [Action.answered, hne]
        · obtain ⟨hb, hret⟩ := hq
          simp only [Invoked] at hret
          split
          · rename_i hne
            rw [if_neg (by simpa using hne)] at hret
            exact ⟨h.beside hb (by rw [hret]; rfl), fun _ h => by cases h⟩
          · rename_i hne
            rw [if_pos (by simpa using hne)] at hret
            refine .bind (R := fun o q₃ => o = .ok () ∧ q.Beside q₃ ∧
                q₃.action = .settled (actionId cp.taskId tool validated) result)
              (.perform hret fun r hr => ?_) (fun u q₃ hq => ?_) fun e q₃ hq => by cases hq.1
            · obtain ⟨s, t, s', -, heff⟩ := hr
              obtain rfl := (Prod.mk.inj heff).1
              refine ⟨rfl, ⟨hb.held, hb.dying, hb.seen⟩, ?_⟩
              show q''.action.written = _
              rw [hret]; rfl
            · refine ⟨h.beside hq.2.1 (by rw [hq.2.2]; rfl), fun x hx => ?_⟩
              cases hx; exact ⟨validated, hq.2.2⟩

theorem executeTool_follows (hb : rt.backend = anyBackend) {tool : ToolName} {arguments : Arguments} (h : At d cp q)
    (hdue : ToolDue cp tool) (hg : cp.pendingAction = none → q.granted = true) :
    Follows (script det) (rt.executeTool cp tool arguments) (Holds d) q := by
  unfold WorkflowRuntime.executeTool
  rw [hb]
  refine .attempt (gatewayExecute_follows h hg) fun o q' hq => ?_
  obtain ⟨h', hset⟩ := hq
  cases o with
  | error e =>
    simp only
    split
    · exact h'.save (.toolRetry tool e.message hdue) hdue.1 (by simp) rfl fun _ => follows_record trivial ⟨h'.held, h'.dying, h'.rests⟩
    · split
      · exact failWorkflow_follows h' (.toolFailed tool e.message hdue) hdue.1
      · exact h'.toBusy
  | ok x =>
    obtain ⟨result, cached⟩ := x
    have hset := hset _ rfl
    have hc : Change det Set.univ cp (toolCompleted cp tool result) := .toolDone tool result hdue
    refine follows_save ⟨h'.seen, hc.same.2, hc, fun _ => hdue.1, fun h => (by cases h), fun _ => ⟨tool, result, hset, rfl⟩⟩ (fun t => ?_)
      fun _ => h'.toBusy
    obtain ⟨arguments', hact⟩ := hset
    exact follows_record ⟨tool, arguments', result, cached, hact, rfl⟩ ⟨h'.held, h'.dying, h'.rests⟩

/-! ## The runtime -/

theorem resumeApprovedAction_follows (hb : rt.backend = anyBackend) {pending : PendingAction} (h : At d cp q)
    (hact : cp.status.active = true) (hp : cp.pendingAction = some pending) :
    Follows (script det) (rt.resumeApprovedAction cp pending) (Holds d) q := by
  refine .bind (follows_still trivial fun _ => rfl) (fun a q' hq => ?_) fun e q' hq => hq ▸ h.toBusy
  subst hq
  split
  · exact h.toBusy
  · exact follows_record trivial (executeTool_follows hb h ⟨hact, .inr ⟨pending, hp, rfl⟩⟩ fun hn => by rw [hn] at hp; cases hp)

theorem pauseForApproval_follows {taskId : String} {pending : PendingAction} (h : At d cp q) (ht : cp.taskId = taskId)
    (hrun : cp.status = .running) (hp : cp.pendingAction = none) (hh : pending.tool.value ∈ cp.toolHistory)
    (hok : PendingOk Set.univ taskId pending) :
    Follows (script det) (WorkflowRuntime.pauseForApproval taskId cp pending) (Holds d) q := by
  subst ht
  refine h.save (.paused pending hrun hp hh hok) (active_running hrun) (by simp) rfl fun t => ?_
  refine .bind (follows_still trivial fun _ => rfl) (fun _ q' hq => ?_) fun e q' hq => hq ▸ ⟨h.held, h.dying, h.rests⟩
  subst hq
  exact follows_record trivial ⟨h.held, h.dying, h.rests⟩

theorem runDecided_follows (hb : rt.backend = anyBackend) {taskId : String} {decision : AgentDecision} {tool : ToolName}
    {arguments : Arguments} (h : At d cp q) (ht : cp.taskId = taskId) (hrun : cp.status = .running)
    (hp : cp.pendingAction = none) (hstep : cp.currentStep = some tool.value) (hh : tool.value ∈ cp.toolHistory)
    (hv : Validated tool arguments) (hg : q.granted = true) :
    Follows (script det) (rt.runDecided taskId cp decision tool arguments (evaluate tool arguments)) (Holds d) q := by
  subst ht
  have hdue : ToolDue cp tool := ⟨by rw [hrun]; rfl, .inl ⟨hp, hstep, hh⟩⟩
  unfold WorkflowRuntime.runDecided
  split
  · exact follows_record trivial (failWorkflow_follows h (.denied _ hrun hp) (active_running hrun))
  · split
    · rename_i happ
      exact pauseForApproval_follows h rfl hrun hp hh ⟨(approvalRequired_iff hv).mp happ, Set.mem_univ _, rfl⟩
    · split
      · exact follows_record trivial (executeTool_follows hb h hdue fun _ => hg)
      · exact executeTool_follows hb h hdue fun _ => hg

open WorkflowRuntime in
theorem useTool_follows (hb : rt.backend = anyBackend) (hd : rt.loopDetector = det) {taskId : String}
    {decision : AgentDecision} {u : Nat × Nat} {tool : ToolName} (h : At d cp q) (ht : cp.taskId = taskId)
    (hrun : cp.status = .running) (hp : cp.pendingAction = none) :
    Follows (script det) (rt.useTool taskId (absorb cp decision u) decision tool) (Holds d) q := by
  unfold WorkflowRuntime.useTool
  refine .ofExcept (fun x hx => ?_) fun e _ => h.toBusy
  obtain ⟨arguments, policy⟩ := x
  obtain ⟨hv, rfl⟩ := validateAndDecide_ok hx
  simp only [hd]
  split
  · rename_i reason hreason
    exact h.save (.loopStopped decision u tool reason hrun hp hreason) (active_running hrun) (by simp) rfl fun _ =>
      follows_record trivial ⟨h.held, h.dying, h.rests⟩
  · rename_i hreason
    have hc : Change det Set.univ cp (decided (absorb cp decision u) tool) := .decided decision u tool hrun hp hreason
    refine h.save hc (active_running hrun) (by simp [decided, absorb, hrun]) rfl fun t => ?_
    refine runDecided_follows hb (h.saved hc t _) ht hrun hp rfl ?_ hv ?_
    · simp [decided]
    · simp [decides?, decided, absorb, hrun]

theorem applyDecision_follows (he : rt.engine = anyEngine) (hb : rt.backend = anyBackend) (hd : rt.loopDetector = det)
    {taskId : String} {decision : AgentDecision} (h : At d cp q) (ht : cp.taskId = taskId) (hrun : cp.status = .running)
    (hp : cp.pendingAction = none) : Follows (script det) (rt.applyDecision taskId cp decision) (Holds d) q := by
  unfold WorkflowRuntime.applyDecision
  rw [he]
  refine .bind (follows_still trivial fun _ => rfl) (fun u q' hq => ?_) fun e q' hq => hq ▸ h.toBusy
  subst hq
  refine follows_record trivial ?_
  simp only
  split
  · rename_i haction
    exact h.save (.completed decision u hrun hp haction) (active_running hrun) (by simp) rfl fun _ => follows_record trivial ⟨h.held, h.dying, h.rests⟩
  · exact h.save (.declined decision u hrun hp) (active_running hrun) (by simp) rfl fun _ => follows_record trivial ⟨h.held, h.dying, h.rests⟩
  · split
    · exact h.toBusy
    · exact useTool_follows hb hd h ht hrun hp

theorem decideNext_follows (he : rt.engine = anyEngine) (hb : rt.backend = anyBackend) (hd : rt.loopDetector = det)
    {taskId : String} (h : At d cp q) (ht : cp.taskId = taskId) (hact : cp.status.active = true) (hp : cp.pendingAction = none) :
    Follows (script det) (rt.decideNext taskId cp) (Holds d) q := by
  unfold WorkflowRuntime.decideNext
  rw [he]
  have hc : Change det Set.univ cp { cp with status := .running, lastError := none } := .start hact hp
  refine h.save hc hact (by simp) rfl fun t => follows_record trivial ?_
  have h' := h.saved hc t (decides? (some cp) { cp with status := .running, lastError := none })
  refine .attempt (follows_still trivial fun _ => rfl) fun o q' hq => ?_
  subst hq
  cases o with
  | error e =>
    simp only
    split
    · exact h'.save (.modelRetry e.message rfl hp) rfl (by simp) rfl fun _ => follows_record trivial ⟨h'.held, h'.dying, h'.rests⟩
    · exact h'.toBusy
  | ok decision => exact applyDecision_follows he hb hd h' ht rfl hp

/-- Where reading the checkpoint leaves a delivery. -/
def Loaded (d : QueueDelivery) : Except PyError WorkflowState → Stage → Prop
  | .ok st, q => At d st q
  | .error _, q => Busy d q

theorem process_follows (he : rt.engine = anyEngine) (hb : rt.backend = anyBackend) (hd : rt.loopDetector = det)
    (h : Busy d q) : Follows (script det) (rt.process d.taskId) (Holds d) q := by
  refine .bind (R := Loaded d) (follows_read (.inl h.dying) fun o hok => ?_) (fun st q' h' => ?_) fun _ _ hq => hq
  · cases o with
    | none => exact ⟨h.held, h.dying, h.rests⟩
    | some st => exact ⟨⟨h.held, h.dying, h.rests⟩, rfl, (hok st rfl).task⟩
  · have h' : At d st q' := h'
    split
    · exact h'.toBusy
    · rename_i hrun
      split
      · rename_i pending hp
        exact resumeApprovedAction_follows hb h' (active_of_running hrun) hp
      · rename_i hp
        exact decideNext_follows he hb hd h' h'.task (active_of_running hrun) hp

/-! ## The worker -/

theorem follows_call {c : StoreCall} {f : c.Ret → Py β} {Q : Except PyError β → Stage → Prop} (hc : May det q (.store c))
    (hf : ∀ a, Follows (script det) (f a) Q (q.after (.store c) (.ok a)))
    (he : ∀ e, Q (.error e) (q.after (.store c) (.error e))) : Follows (script det) ((onStore c).bind f) Q q := by
  refine .bind (R := fun o q' => q' = q.after (.store c) o) (.perform hc fun _ _ => rfl) (fun a q' hq => ?_) fun e q' hq => ?_
  · subst hq; exact hf a
  · subst hq; exact he e

theorem onRetryable_follows {e : PyError} (h : Busy d q) : Follows (script det) (onRetryable config d e) Rests q := by
  refine follows_call ⟨h.rests, h.held⟩ (fun dead => ?_) fun _ => h.rests
  split
  · rename_i hdead
    refine follows_read (.inr rfl) fun o hok => ?_
    split
    · exact (rfl : Action.none.pending = none)
    · rename_i st
      split
      · exact (rfl : Action.none.pending = none)
      · rename_i hterm
        have hc : Change det Set.univ st { st with status := .deadLettered, lastError := some e.message } :=
          .deadLettered e.message (by simpa [WorkflowState.terminal] using hterm)
        refine follows_save ⟨rfl, hc.same.2, hc, fun h => (by cases h), fun _ => ⟨d, ?_, (hok st rfl).task.symm⟩, fun h => absurd rfl h⟩
          (fun _ => ?_) fun _ => (rfl : Action.none.pending = none)
        · show (if dead = true then some d else none) = some d
          exact if_pos hdead
        · exact .mono (follows_still trivial fun _ => rfl) fun _ _ hq => hq ▸ (rfl : Action.none.pending = none)
  · exact (rfl : Action.none.pending = none)

theorem onPermanent_follows {e : PyError} (h : Busy d q) : Follows (script det) (onPermanent d e) Rests q := by
  refine follows_call ⟨h.rests, d, h.held, rfl⟩ (fun _ => ?_) fun _ => h.rests
  refine follows_read (.inl h.dying) fun o hok => ?_
  split
  · exact h.rests
  · rename_i st
    split
    · exact h.rests
    · rename_i hterm
      refine follows_save (maySave rfl (.failed e.message (by simpa [WorkflowState.terminal] using hterm)) (fun h => by cases h) (by simp) rfl)
        (fun _ => ?_) fun _ => h.rests
      exact .mono (follows_still trivial fun _ => rfl) fun _ _ hq => hq ▸ h.rests

/-- Processing a delivery: an exception the worker handles leaves the delivery held. -/
theorem processDelivery_follows (he : rt.engine = anyEngine) (hb : rt.backend = anyBackend) (hd : rt.loopDetector = det)
    (h : Busy d q) : Follows (script det) (processDelivery rt config d) (fun o q' => q'.action.pending = none ∧ match o with
      | .ok _ => True
      | .error e => Busy d q' ∨ e.isRetryable = false ∧ e.isPermanent = false) q := by
  refine .bind (process_follows he hb hd h) (fun st q' hq => ?_) fun _ _ hq => ⟨hq.rests, .inl hq⟩
  have hq : Busy d q' := hq
  refine follows_call ⟨hq.rests, d, hq.held, rfl⟩ (fun _ => ?_) fun _ => ⟨hq.rests, .inl hq⟩
  split
  · refine .bind (R := fun o q'' => q''.action.pending = none ∧ ∀ e, o = .error e → e.isRetryable = false ∧ e.isPermanent = false)
      (.perform hq.rests fun r hr => ⟨?_, fun e he => answers_enqueue (he ▸ hr)⟩) (fun _ _ hq => ⟨hq.1, trivial⟩)
      fun e _ he => ⟨he.1, .inr (he.2 e rfl)⟩
    cases r <;> exact hq.rests
  · exact ⟨hq.rests, trivial⟩

theorem handleDelivery_follows (he : rt.engine = anyEngine) (hb : rt.backend = anyBackend) (hd : rt.loopDetector = det)
    (h : Busy d q) : Follows (script det) (handleDelivery rt config d) Rests q := by
  unfold handleDelivery
  refine .attempt (processDelivery_follows he hb hd h) fun o q' hq => ?_
  obtain ⟨hrests, hq⟩ := hq
  cases o with
  | ok u => exact hrests
  | error e =>
    simp only
    split
    · rename_i hret
      exact onRetryable_follows (hq.resolve_right fun h => by rw [h.1] at hret; cases hret)
    · split
      · rename_i hperm
        exact onPermanent_follows (hq.resolve_right fun h => by rw [h.2] at hperm; cases hperm)
      · exact hrests

theorem updateDepth_follows (h : q.action.pending = none) : Follows (script det) updateDepth Rests q :=
  follows_call trivial (fun _ => h) fun _ => h

theorem runOnce_follows (he : rt.engine = anyEngine) (hb : rt.backend = anyBackend) (hd : rt.loopDetector = det)
    (workerId : String) (h : q.action.pending = none) :
    Follows (script det) (runOnce rt config workerId) Rests q := by
  refine follows_call h (fun delivery => ?_) fun _ => h
  cases delivery with
  | none => exact .bind (updateDepth_follows h) (fun _ _ hq => hq) fun _ _ hq => hq
  | some d =>
    refine .attempt (handleDelivery_follows he hb hd ⟨rfl, rfl, rfl⟩) fun outcome q' hq => ?_
    refine .bind (follows_still trivial fun _ => rfl) (fun _ q'' e => ?_) fun _ _ e => e ▸ hq
    subst e
    split
    · exact hq
    · exact .bind (updateDepth_follows hq) (fun _ _ hq => hq) fun _ _ hq => hq

/-! ## The control plane -/

/-- A program that starts with no delivery and no action pending, and has dead-lettered nothing. -/
structure Begun (q : Stage) : Prop where
  held : q.held = none
  dying : q.dying = none
  rests : q.action.pending = none

theorem required_follows {taskId : String} {f : WorkflowState → Py β} (hr : Begun q)
    (hf : ∀ st, StateOk Set.univ taskId st → Follows (script det) (f st) Rests { q with seen := some st, granted := false }) :
    Follows (script det) ((required taskId).bind f) Rests q := by
  unfold required
  rw [Prog.bind_def, Prog.bind_assoc]
  refine follows_read (.inl hr.dying) fun o hok => ?_
  cases o with
  | none => exact hr.rests
  | some st => exact hf st (hok st rfl)

theorem approve_follows (hr : Begun q) (taskId actor : String) (reason : Option String) :
    Follows (script det) (approve config taskId actor reason) Rests q := by
  refine required_follows hr fun st _ => ?_
  split
  · rename_i pending hst hp
    refine follows_call trivial (fun _ => ?_) fun _ => hr.rests
    refine follows_save (maySave rfl (.approved pending hst hp) (fun h => by rw [hr.held] at h; cases h) (by simp) rfl) (fun _ => ?_) fun _ => hr.rests
    exact follows_record trivial (follows_call hr.rests (fun _ => hr.rests) fun _ => hr.rests)
  · exact hr.rests

theorem reject_follows (hr : Begun q) (taskId actor : String) (reason : Option String) :
    Follows (script det) (reject taskId actor reason) Rests q := by
  refine required_follows hr fun st _ => ?_
  split
  · rename_i pending hst hp
    refine follows_call trivial (fun _ => ?_) fun _ => hr.rests
    exact follows_save (maySave rfl (.rejected pending _ hst hp) (fun h => by rw [hr.held] at h; cases h) (by simp) rfl) (fun _ => follows_record trivial hr.rests) fun _ => hr.rests
  · exact hr.rests

theorem operation_follows (he : rt.engine = anyEngine) (hb : rt.backend = anyBackend) (hd : rt.loopDetector = det)
    (hr : Begun q) (op : Operation) : Follows (script det) (op.program rt config) Rests q := by
  have hreply : ∀ {γ : Type} {p : Py γ} {f : γ → Reply}, Follows (script det) p Rests q →
      Follows (script det) (p.bind fun a => .ret (f a)) Rests q :=
    fun h => .bind h (fun _ _ hq => hq) fun _ _ hq => hq
  have hstill : ∀ {γ : Type} {p : Py γ}, p.Makes (fun c => ∀ q, May det q c ∧ ∀ r, q.after c r = q) →
      Follows (script det) p Rests q := fun h => .mono (Follows.still h) fun _ _ e => e ▸ hr.rests
  cases op with
  | runOnce workerId => exact hreply (runOnce_follows he hb hd workerId hr.rests)
  | heartbeatTick workerId delivery =>
    refine hreply (hstill (Prog.makes_bind (Prog.makes_perform fun _ => ⟨trivial, fun r => ?_⟩) fun _ =>
      Prog.makes_perform fun _ => ⟨trivial, fun r => ?_⟩)) <;> cases r <;> rfl
  | createIncident taskId goal scenarioId =>
    refine hreply (hstill (Prog.makes_bind (Prog.makes_perform fun _ => ⟨trivial, fun r => ?_⟩) fun now =>
      Prog.makes_perform fun _ => ⟨⟨taskId, goal, scenarioId, now, rfl⟩, fun r => ?_⟩)) <;> cases r <;> rfl
  | approve taskId actor reason => exact hreply (approve_follows hr taskId actor reason)
  | reject taskId actor reason => exact hreply (reject_follows hr taskId actor reason)
  | replay deliveryId taskId actor reason =>
    refine hreply (hstill (Prog.makes_bind (Prog.makes_perform fun _ => ⟨trivial, fun r => ?_⟩) fun o => ?_))
    · cases r <;> rfl
    · cases o <;> trivial

/-! ## The system -/

variable {env : Env}

theorem stage_call {i : ThreadId} {c : Call} {r : Except PyError c.Ret} {w w' : World} (h : calls env i c w r w') :
    stage i w'.journal = (stage i w.journal).after c r ∧ ∀ j, j ≠ i → stage j w'.journal = stage j w.journal := by
  obtain ⟨t, s', -, -, -, rfl⟩ := h
  exact ⟨stage_did i c r _, fun j hj => stage_other (Ne.symm hj) c r _⟩

theorem answers_call {i : ThreadId} {c : Call} {r : Except PyError c.Ret} {w w' : World} (hok : StoreOk Set.univ w.store)
    (h : calls env i c w r w') : Answers c r := by
  obtain ⟨t, s', -, -, he, -⟩ := h
  exact ⟨w.store, t, s', hok, he⟩

/-- Every program in flight follows the script, and ends with no action pending. -/
theorem reachable_follows {cfg : Cfg} (h : Reachable { rt with engine := anyEngine, backend := anyBackend } config env cfg)
    {i : ThreadId} {p : Py Reply} (hp : cfg.pool i = some p) :
    Follows (script rt.loopDetector) p Rests (stage i cfg.state.journal) := by
  refine reach_follows (fun i (w : World) => stage i w.journal) ?_ ?_ ?_ ?_ h hp
  · intro i p w w' he
    obtain ⟨op, rfl, -, rfl⟩ := he
    refine ⟨?_, fun j hj => by simp [stage, Ne.symm hj]⟩
    refine operation_follows ?_ ?_ ?_ ⟨?_, ?_, ?_⟩ op
    · rfl
    · rfl
    · rfl
    · simp [stage]
    · simp [stage]
    · simp [stage, Action.pending]
  · intro cfg i c r w' hr hs
    exact ⟨answers_call (reachable_storeOk lawful_univ hr) hs, stage_call hs⟩
  · intro i o w w' hl j hj
    obtain rfl := hl
    simp [stage, Ne.symm hj]
  · intro i w w' hx j hj
    obtain ⟨-, rfl⟩ := hx
    simp [stage, Ne.symm hj]

/-- Every call about to be made is one its thread may make. -/
theorem conforms {cfg : Cfg} (h : Reachable { rt with engine := anyEngine, backend := anyBackend } config env cfg)
    {i : ThreadId} {c : Call} {k : Except PyError c.Ret → Py Reply} (hp : cfg.pool i = some (.call c k)) :
    May rt.loopDetector (stage i cfg.state.journal) c :=
  (reachable_follows h hp).1

end AgentResilience
