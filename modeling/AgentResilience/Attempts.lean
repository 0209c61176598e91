/-
  AgentResilience.Attempts — the attempt numbers the backend is called with: how often the
  tool occurs in the checkpoint's history. Decisions lengthen the history, executions do
  not.

  - `runOnce_tries`: a worker's run calls the backend at most once: for the pending action,
    with the count as it is, or for a new decision, with one more.
  - `attempts_advance`: the numbers of a task's calls of one tool grow, where no call for an
    approved action has to be made again. `approved_stuck`: an approved action that
    fails for another try is tried under the same number.
-/
import AgentResilience.Controls
import AgentResilience.HumanGate
import AgentResilience.Scenarios

namespace AgentResilience

open Interaction
open Interaction.Prog (attempt makes_bind makes_ofExcept makes_perform)
open WorkflowState (content)

/-! ## A run's attempt -/

variable {rt : WorkflowRuntime} {config : Settings} {env : Env} {w w₀ w' w'' : World} {taskId : String} {cp st : WorkflowState}
  {tool : ToolName} {arguments : Arguments} {α β : Type} {P : World → Prop}

def Call.toolless : Call → Bool
  | .execute .. => false
  | _ => true

theorem calls_toolless {c : Call} {r : Except PyError c.Ret} (hc : c.toolless = true) (hs : calls env 0 c w r w') :
    w'.attempts = w.attempts := by
  obtain ⟨t, s', -, -, -, rfl⟩ := hs
  refine attempts_did ?_ s' t r
  rintro st tool arguments n rfl
  cases hc

theorem wp_toolless {p : Py α} (hp : p.Makes fun c => c.toolless = true) (h : w.attempts = w₀.attempts) :
    wp (calls env 0) p (fun _ w' => w'.attempts = w₀.attempts) w :=
  wp_keeps (I := fun w' : World => w'.attempts = w₀.attempts) (fun _ _ _ _ hc hs h => (calls_toolless hc hs).trans h) hp h

/-- What follows a call that calls no tool. -/
theorem toolless_seq {c : Call} {f : c.Ret → Py α} (hc : c.toolless = true) (h : w.attempts = w₀.attempts)
    (hP : ∀ w', w'.attempts = w₀.attempts → P w')
    (hf : ∀ a w', w'.attempts = w₀.attempts → wp (calls env 0) (f a) (fun _ w' => P w') w') :
    wp (calls env 0) ((Prog.perform c).bind f) (fun _ w' => P w') w := by
  refine wp_bind.mpr (wp_perform.mpr fun r w₁ hs => ?_)
  have h₁ := (calls_toolless hc hs).trans h
  cases r with
  | error e => exact hP w₁ h₁
  | ok a => exact hf a w₁ h₁

theorem save_seq {f : WorkflowState → Py α} (h : w.attempts = w₀.attempts) (hP : ∀ w', w'.attempts = w₀.attempts → P w')
    (hf : ∀ st' w', st'.content = st.content → w'.attempts = w₀.attempts → wp (calls env 0) (f st') (fun _ w' => P w') w') :
    wp (calls env 0) ((save st).bind f) (fun _ w' => P w') w := by
  refine wp_bind.mpr (wp_perform.mpr fun r w₁ hs => ?_)
  have h₁ := (calls_toolless rfl hs).trans h
  obtain ⟨t, s, -, -, he, -⟩ := hs
  rcases SQLiteStore.saveWorkflow_cases he with ⟨-, -, -, rfl, -⟩ | ⟨⟨m, rfl⟩, -⟩
  · exact hf _ w₁ rfl h₁
  · exact hP w₁ h₁

/-- The tool was not called, or once, under the number of its occurrences in the history. -/
def Tried (w : World) (st : WorkflowState) (tool : ToolName) (w' : World) : Prop :=
  w'.attempts = w.attempts ∨ ∃ arguments r, w'.attempts = ⟨st, tool, arguments, st.toolHistory.count tool.value, r⟩ :: w.attempts

theorem gatewayExecute_tried (h : w.attempts = w₀.attempts) :
    wp (calls env 0) (gatewayExecute anyBackend st tool arguments) (fun _ w' => Tried w₀ st tool w') w := by
  unfold gatewayExecute
  cases hv : validateAndDecide tool arguments with
  | error e => exact .inl h
  | ok x =>
    obtain ⟨validated, policy⟩ := x
    show wp _ (if _ then _ else _) _ w
    split
    · exact .inl h
    · refine toolless_seq rfl h (fun _ h => .inl h) fun cached w₁ h₁ => ?_
      cases cached with
      | some cached => exact .inl h₁
      | none =>
        refine wp_bind.mpr (wp_perform.mpr fun r w₂ hs => ?_)
        obtain ⟨t, s, -, -, -, rfl⟩ := hs
        have h₂ : (World.mk s t (.did 0 (.execute st tool validated (st.toolHistory.count tool.value)) r :: w₁.journal)).attempts =
            ⟨st, tool, validated, st.toolHistory.count tool.value, r⟩ :: w₀.attempts := by
          rw [← h₁]
          rfl
        cases r with
        | error e => exact .inr ⟨_, _, h₂⟩
        | ok result =>
          show wp _ (if _ then _ else _) _ _
          split
          · exact .inr ⟨_, _, h₂⟩
          · exact wp_mono (wp_toolless (makes_bind (makes_perform rfl) fun _ => trivial) rfl) fun _ _ h => .inr ⟨_, _, h.trans h₂⟩

theorem Tried.toolless (h : Tried w st tool w') (h' : w''.attempts = w'.attempts) : Tried w st tool w'' := by
  unfold Tried
  rw [h']
  exact h

theorem failWorkflow_toolless (st : WorkflowState) (reason category : String) :
    (failWorkflow st reason category).Makes fun c => c.toolless = true :=
  makes_bind (makes_perform rfl) fun _ => makes_bind (makes_perform rfl) fun _ => trivial

theorem executeTool_tried (hb : rt.backend = anyBackend) (h : w.attempts = w₀.attempts) :
    wp (calls env 0) (rt.executeTool st tool arguments) (fun _ w' => Tried w₀ st tool w') w := by
  unfold WorkflowRuntime.executeTool
  rw [hb]
  refine wp_bind.mpr (wp_attempt.mpr (wp_mono (gatewayExecute_tried h) fun o w₁ h₁ => ?_))
  have hrest : ∀ {p : Py WorkflowState}, p.Makes (fun c => c.toolless = true) →
      wp (calls env 0) p (fun _ w' => Tried w₀ st tool w') w₁ := by
    intro p hp
    exact wp_mono (wp_toolless hp rfl) fun _ _ h => h₁.toolless h
  cases o with
  | ok x => exact hrest (makes_bind (makes_perform rfl) fun _ => makes_bind (makes_perform rfl) fun _ => trivial)
  | error e =>
    show wp _ (if _ then _ else _) _ _
    split
    · exact hrest (makes_bind (makes_perform rfl) fun _ => makes_bind (makes_perform rfl) fun _ => trivial)
    · split
      · exact hrest (failWorkflow_toolless ..)
      · exact hrest trivial

/-- A call of the backend for the checkpoint `cp`. -/
inductive Trial (cp : WorkflowState) (a : Attempt) : Prop
  | resumed (p : PendingAction) : cp.pendingAction = some p → a.tool = p.tool → a.number = cp.toolHistory.count p.tool.value → Trial cp a
  | decided : cp.pendingAction = none → a.number = cp.toolHistory.count a.tool.value + 1 → Trial cp a

/-- The backend was not called, or once, for `cp`. -/
def Tries (w : World) (cp : WorkflowState) (w' : World) : Prop :=
  w'.attempts = w.attempts ∨ ∃ a, w'.attempts = a :: w.attempts ∧ a.state.taskId = cp.taskId ∧ Trial cp a

theorem useTool_tries (hb : rt.backend = anyBackend) (h : w.attempts = w₀.attempts) (ht : st.taskId = cp.taskId)
    (hhist : st.toolHistory = cp.toolHistory) (hnone : cp.pendingAction = none) (d : AgentDecision) (tool : ToolName) :
    wp (calls env 0) (rt.useTool taskId st d tool) (fun _ w' => Tries w₀ cp w') w := by
  have hidle : ∀ w', w'.attempts = w₀.attempts → Tries w₀ cp w' := fun _ h => .inl h
  unfold WorkflowRuntime.useTool
  cases validateAndDecide tool d.arguments.modelDump with
  | error e => exact hidle w h
  | ok x =>
    obtain ⟨arguments, policy⟩ := x
    simp only [Prog.bind_def, Prog.ofExcept_ok, Prog.ret_bind]
    split
    · exact wp_mono (wp_toolless (makes_bind (makes_perform rfl) fun _ => makes_bind (makes_perform rfl) fun _ => trivial) h)
        fun _ _ h => hidle _ h
    · refine save_seq h hidle fun st' w₁ hst' h₁ => ?_
      have hran : ∀ {w₂}, w₂.attempts = w₀.attempts →
          wp (calls env 0) (rt.executeTool st' tool arguments) (fun _ w' => Tries w₀ cp w') w₂ := by
        intro w₂ h₂
        refine wp_mono (executeTool_tried hb h₂) fun _ w₃ h₃ => ?_
        rcases h₃ with h₃ | ⟨validated, r, h₃⟩
        · exact hidle w₃ h₃
        · refine .inr ⟨_, h₃, (congrArg (·.taskId) hst').trans ht, .decided hnone ?_⟩
          have hhist' : st'.toolHistory = st.toolHistory ++ [tool.value] := congrArg (·.toolHistory) hst'
          simp [hhist', hhist]
      unfold WorkflowRuntime.runDecided
      split
      · exact wp_mono (wp_toolless (makes_bind (makes_perform rfl) fun _ => failWorkflow_toolless ..) h₁) fun _ _ h => hidle _ h
      · split
        · exact wp_mono (wp_toolless (makes_bind (makes_perform rfl) fun _ => makes_bind (makes_perform rfl) fun _ =>
            makes_bind (makes_perform rfl) fun _ => trivial) h₁) fun _ _ h => hidle _ h
        · split
          · exact toolless_seq rfl h₁ hidle fun _ w₂ h₂ => hran h₂
          · exact hran h₁

theorem applyDecision_tries (he : rt.engine = anyEngine) (hb : rt.backend = anyBackend) (h : w.attempts = w₀.attempts)
    (ht : st.taskId = cp.taskId) (hhist : st.toolHistory = cp.toolHistory) (hnone : cp.pendingAction = none) (d : AgentDecision) :
    wp (calls env 0) (rt.applyDecision taskId st d) (fun _ w' => Tries w₀ cp w') w := by
  have hidle : ∀ w', w'.attempts = w₀.attempts → Tries w₀ cp w' := fun _ h => .inl h
  unfold WorkflowRuntime.applyDecision
  rw [he]
  refine toolless_seq rfl h hidle fun usage w₁ h₁ => toolless_seq rfl h₁ hidle fun _ w₂ h₂ => ?_
  simp only
  split
  · exact wp_mono (wp_toolless (makes_bind (makes_perform rfl) fun _ => makes_bind (makes_perform rfl) fun _ => trivial) h₂)
      fun _ _ h => hidle _ h
  · exact wp_mono (wp_toolless (failWorkflow_toolless ..) h₂) fun _ _ h => hidle _ h
  · split
    · exact hidle w₂ h₂
    · exact useTool_tries hb h₂ (by exact ht) (by exact hhist) hnone d _

theorem decideNext_tries (he : rt.engine = anyEngine) (hb : rt.backend = anyBackend) (h : w.attempts = w₀.attempts)
    (hnone : cp.pendingAction = none) : wp (calls env 0) (rt.decideNext taskId cp) (fun _ w' => Tries w₀ cp w') w := by
  have hidle : ∀ w', w'.attempts = w₀.attempts → Tries w₀ cp w' := fun _ h => .inl h
  unfold WorkflowRuntime.decideNext
  rw [he]
  refine save_seq h hidle fun st w₁ hst h₁ => toolless_seq rfl h₁ hidle fun _ w₂ h₂ => ?_
  refine wp_bind.mpr (wp_attempt.mpr (wp_perform.mpr fun r w₃ hs => ?_))
  have h₃ := (calls_toolless rfl hs).trans h₂
  cases r with
  | ok d => exact applyDecision_tries he hb h₃ (congrArg (·.taskId) hst) (congrArg (·.toolHistory) hst) hnone d
  | error e =>
    show wp _ (if _ then _ else _) _ _
    split
    · exact wp_mono (wp_toolless (makes_bind (makes_perform rfl) fun _ => makes_bind (makes_perform rfl) fun _ => trivial) h₃)
        fun _ _ h => hidle _ h
    · exact hidle w₃ h₃

theorem resumeApprovedAction_tries (hb : rt.backend = anyBackend) (h : w.attempts = w₀.attempts) {p : PendingAction}
    (hp : cp.pendingAction = some p) :
    wp (calls env 0) (rt.resumeApprovedAction cp p) (fun _ w' => Tries w₀ cp w') w := by
  have hidle : ∀ w', w'.attempts = w₀.attempts → Tries w₀ cp w' := fun _ h => .inl h
  refine toolless_seq rfl h hidle fun approval w₁ h₁ => ?_
  show wp _ (if _ then _ else _) _ _
  split
  · exact hidle w₁ h₁
  · refine toolless_seq rfl h₁ hidle fun _ w₂ h₂ => ?_
    refine wp_mono (executeTool_tried hb h₂) fun _ w₃ h₃ => ?_
    rcases h₃ with h₃ | ⟨arguments, r, h₃⟩
    · exact hidle w₃ h₃
    · exact .inr ⟨_, h₃, rfl, .resumed p hp rfl rfl⟩

/-- The stored checkpoint of some task is tried. -/
def TriesStored (w w' : World) : Prop :=
  w'.attempts = w.attempts ∨ ∃ T cp, w.store.stored T = some cp ∧ Tries w cp w'

theorem process_tries (he : rt.engine = anyEngine) (hb : rt.backend = anyBackend) :
    wp (calls env 0) (rt.process taskId) (fun _ w' => TriesStored w w') w := by
  refine wp_bind.mpr (wp_bind.mpr (wp_perform.mpr fun r w₁ hs => ?_))
  have h₁ := calls_toolless rfl hs
  obtain ⟨t, s', -, -, hget, rfl⟩ := hs
  obtain ⟨rfl, rfl⟩ := Prod.mk.inj hget
  cases hst : w.store.getWorkflow taskId with
  | none =>
    rw [hst] at h₁
    exact .inl h₁
  | some cp =>
    rw [hst] at h₁
    show wp _ (if _ then _ else _) _ _
    split
    · exact .inl h₁
    · split
      · rename_i p hp
        exact wp_mono (resumeApprovedAction_tries hb h₁ hp) fun _ _ h => .inr ⟨taskId, cp, hst, h⟩
      · rename_i hp
        exact wp_mono (decideNext_tries he hb h₁ hp) fun _ _ h => .inr ⟨taskId, cp, hst, h⟩

theorem TriesStored.toolless (h : TriesStored w w') (h' : w''.attempts = w'.attempts) : TriesStored w w'' := by
  unfold TriesStored Tries
  rw [h']
  exact h

theorem handleDelivery_tries (he : rt.engine = anyEngine) (hb : rt.backend = anyBackend) (d : QueueDelivery) :
    wp (calls env 0) (handleDelivery rt config d) (fun _ w' => TriesStored w w') w := by
  have hrest : ∀ {β : Type} {p : Py β} {w₁ : World}, TriesStored w w₁ → p.Makes (fun c => c.toolless = true) →
      wp (calls env 0) p (fun _ w' => TriesStored w w') w₁ := by
    intro β p w₁ h₁ hp
    exact wp_mono (wp_toolless hp rfl) fun _ w₂ h => h₁.toolless h
  have hfailed : ∀ {e : PyError} {w₁ : World}, TriesStored w w₁ → wp (calls env 0)
      (if e.isRetryable then onRetryable config d e else if e.isPermanent then onPermanent d e else Prog.throw e)
      (fun _ w' => TriesStored w w') w₁ := fun h => hrest h (onFailure_makes (fun _ _ => rfl) d _)
  refine wp_bind.mpr (wp_attempt.mpr (wp_bind.mpr (wp_mono (process_tries he hb) fun o w₁ h₁ => ?_)))
  cases o with
  | error e => exact hfailed h₁
  | ok st =>
    refine wp_bind.mpr (wp_mono (hrest h₁ (makes_perform rfl)) fun o w₂ h₂ => ?_)
    cases o with
    | error e => exact hfailed h₂
    | ok u =>
      show wp _ (if _ then _ else _) _ w₂
      split
      · refine wp_bind.mpr (wp_mono (hrest h₂ (makes_perform rfl)) fun o w₃ h₃ => ?_)
        cases o with
        | error e => exact hfailed h₃
        | ok n => exact h₃
      · exact h₂

/-- A worker's run calls the backend at most once, for a stored checkpoint. -/
theorem runOnce_tries (he : rt.engine = anyEngine) (hb : rt.backend = anyBackend) (workerId : String) :
    wp (calls env 0) (runOnce rt config workerId) (fun _ w' => TriesStored w w') w := by
  refine wp_bind.mpr (wp_perform.mpr fun r w₁ hs => ?_)
  have h₁ := calls_toolless rfl hs
  obtain ⟨t, s, -, -, hclaim, rfl⟩ := hs
  obtain ⟨rfl, hs⟩ := Prod.mk.inj hclaim
  have hstored : s.stored = w.store.stored := by
    obtain rfl := hs
    exact funext fun T => claim_stored (Eq.refl (w.store.claim t workerId config.queueLeaseSeconds)) T
  have hdepth : ∀ b : Bool, (updateDepth.bind fun _ => (.ret b : Py Bool)).Makes fun c => c.toolless = true :=
    fun _ => makes_bind (makes_bind (makes_perform rfl) fun _ => trivial) fun _ => trivial
  generalize (w.store.claim t workerId config.queueLeaseSeconds).1 = claimed at h₁
  have hback : ∀ w', TriesStored ⟨s, t, .did 0 (.store (.claim workerId config.queueLeaseSeconds)) (.ok claimed) :: w.journal⟩ w' →
      TriesStored w w' := by
    intro w' h
    unfold TriesStored Tries at h ⊢
    rw [h₁] at h
    simp only [hstored] at h
    exact h
  cases claimed with
  | none => exact wp_mono (wp_toolless (hdepth false) h₁) fun _ _ h => .inl h
  | some d =>
    refine wp_bind.mpr (wp_attempt.mpr (wp_mono (handleDelivery_tries he hb d) fun o w₂ h₂ => ?_))
    refine wp_mono (wp_toolless (makes_bind (makes_perform rfl) fun _ => ?_) rfl) fun _ _ h => hback _ (h₂.toolless h)
    cases o with
    | error e => trivial
    | ok u => exact hdepth true

/-! ## What a turn executes -/

/-- A call for an approved action is answered with a result, or with an error that ends the workflow. -/
def Finishes (c : Call) (r : Except PyError c.Ret) : Prop :=
  match c, r with
  | .execute st .., .ok result => st.pendingAction ≠ none → result.nonEmptyObj = true
  | .execute st .., .error e => st.pendingAction ≠ none → e.isRetryable = false ∧ e.isPermanent = true
  | _, _ => True

variable {D : WorkflowState → Except PyError AgentDecision → Prop} {U : Except PyError (Nat × Nat) → Prop}
  {m m' : Memory} {o : Except PyError WorkflowState} {st' : WorkflowState} {x : Option ToolName}

/-- The tool a turn called the backend with, if any. -/
inductive Did (m m' : Memory) (taskId : String) : Option ToolName → Prop
  | nothing : m'.executed = m.executed → Did m m' taskId none
  | tool (tool : ToolName) (r : Except PyError Json) : m'.executed = (taskId, tool, r) :: m.executed → Did m m' taskId (some tool)

theorem Gateway.did {g : Except PyError (Json × Bool)} (h : Gateway env m st tool arguments g m') :
    ∃ x, (x = none ∨ x = some tool) ∧ Did m m' st.taskId x := by
  cases h with
  | refused | fresh => exact ⟨_, .inr rfl, .tool tool _ rfl⟩
  | _ => exact ⟨_, .inl rfl, .nothing rfl⟩

/-- Running a tool keeps the history, and keeps or clears the pending action. -/
theorem Ran.did (h : Ran env m st tool arguments o st' m') :
    (∃ x, (x = none ∨ x = some tool) ∧ Did m m' st.taskId x) ∧ st'.toolHistory = st.toolHistory ∧
      (st'.pendingAction = st.pendingAction ∨ st'.pendingAction = none) := by
  cases h with
  | done h => exact ⟨h.did, rfl, .inr rfl⟩
  | retried h | failed h | raised h => exact ⟨h.did, rfl, .inl rfl⟩

/-- How a turn changes history and pending action, and the tool it calls. -/
inductive Moves (cp st : WorkflowState) (o : Except PyError WorkflowState) : Option ToolName → Prop
  | kept : st.toolHistory = cp.toolHistory → st.pendingAction = cp.pendingAction ∨ st.pendingAction = none → Moves cp st o none
  | asked (p : PendingAction) : cp.pendingAction = none → st.toolHistory = cp.toolHistory ++ [p.tool.value] →
      st.pendingAction = some p → Moves cp st o none
  | decided (tool : ToolName) (x : Option ToolName) : cp.pendingAction = none → st.toolHistory = cp.toolHistory ++ [tool.value] →
      st.pendingAction = none → x = none ∨ x = some tool → Moves cp st o x
  | resumed (p : PendingAction) : cp.pendingAction = some p → cp.status.active = true → st.toolHistory = cp.toolHistory →
      st.pendingAction = none ∨ st.pendingAction = some p ∧ st.terminal = true ∧ (∃ out, o = .ok out ∧ out.status ≠ .queued) →
    Moves cp st o (some p.tool)

/-- An approved action's run: what calls the backend ends the action, or the workflow. -/
theorem Ran.resumes (hfin : ∀ w c r, env.allows 0 w c r → Finishes c r) {p : PendingAction} (hp : cp.pendingAction = some p)
    (hact : cp.status.active = true) (h : Ran env m cp p.tool arguments o st m') :
    ∃ x, Did m m' cp.taskId x ∧ Moves cp st o x := by
  have hrefused : ∀ {validated : Arguments} {r : Except PyError Json} {e : PyError}, Executes env m cp p.tool validated r →
      accepts p.tool r = .error e → e.isRetryable = false ∧ e.isPermanent = true := by
    intro validated r e hx ha
    obtain ⟨w, st', n, hst', -, hallow⟩ := hx
    have hpend : st'.pendingAction ≠ none := by
      rw [show st'.pendingAction = some p from (congrArg (·.pendingAction) hst').trans hp]
      simp
    have hfin := hfin _ _ _ hallow
    cases r with
    | error e' => cases ha; exact hfin hpend
    | ok result =>
      have hfull : result.nonEmptyObj = true := hfin hpend
      simp [accepts, hfull] at ha
  have hkept : st.toolHistory = cp.toolHistory → st.pendingAction = cp.pendingAction → m'.executed = m.executed →
      ∃ x, Did m m' cp.taskId x ∧ Moves cp st o x := fun hh hp hx => ⟨_, .nothing hx, .kept hh (.inl hp)⟩
  cases h with
  | done hg =>
    cases hg with
    | cached => exact ⟨_, .nothing rfl, .kept rfl (.inr rfl)⟩
    | fresh => exact ⟨_, .tool _ _ rfl, .resumed p hp hact rfl (.inl rfl)⟩
  | retried hg hretry =>
    cases hg with
    | refused _ _ hx ha =>
      rw [(hrefused hx ha).1] at hretry
      cases hretry
    | _ => exact hkept rfl rfl rfl
  | failed hg _ _ =>
    cases hg with
    | refused _ _ hx ha =>
      exact ⟨_, .tool _ _ rfl, .resumed p hp hact rfl (.inr ⟨hp, rfl, _, rfl, by simp [WorkflowState.failedFor]⟩)⟩
    | _ => exact hkept rfl rfl rfl
  | raised hg _ hperm =>
    cases hg with
    | refused _ _ hx ha =>
      rw [(hrefused hx ha).2] at hperm
      cases hperm
    | _ => exact hkept rfl rfl rfl

open WorkflowRuntime in
theorem Acted.moves {d : AgentDecision} (hhist : st.toolHistory = cp.toolHistory) (ht : st.taskId = cp.taskId)
    (hnone : cp.pendingAction = none) (hnone' : st.pendingAction = none) (h : Acted rt env m st d o st' m') :
    ∃ x, Did m m' cp.taskId x ∧ Moves cp st' o x := by
  have hdecided : ∀ tool, (decided st tool).toolHistory = cp.toolHistory ++ [tool.value] := by
    intro tool
    rw [← hhist]
    rfl
  cases h with
  | completed _ e => subst e; exact ⟨_, .nothing rfl, .kept hhist (.inr hnone')⟩
  | declined => exact ⟨_, .nothing rfl, .kept hhist (.inr hnone')⟩
  | looped _ _ _ e => subst e; exact ⟨_, .nothing rfl, .decided _ none hnone (hdecided _) hnone' (.inl rfl)⟩
  | denied _ _ _ _ _ e => subst e; exact ⟨_, .nothing rfl, .decided _ none hnone (hdecided _) hnone' (.inl rfl)⟩
  | paused _ _ _ _ _ _ hp e => subst e; subst hp; exact ⟨_, .nothing rfl, .asked _ hnone (hdecided _) rfl⟩
  | ran _ _ _ _ _ _ hran =>
    obtain ⟨⟨x, hx, hdid⟩, hh, hp⟩ := hran.did
    refine ⟨x, ht ▸ hdid, .decided _ x hnone (hh.trans (hdecided _)) ?_ hx⟩
    rcases hp with hp | hp
    · exact hp.trans hnone'
    · exact hp

theorem Turn.moves (hfin : ∀ w c r, env.allows 0 w c r → Finishes c r) (h : Turn rt env D U m cp o st m') :
    ∃ x, Did m m' cp.taskId x ∧ Moves cp st o x := by
  cases h with
  | idle | unapproved => exact ⟨_, .nothing rfl, .kept rfl (.inl rfl)⟩
  | resumed hact hp _ hran => exact hran.resumes hfin hp hact
  | undecided _ hnone | unanswered _ hnone | unmetered _ hnone => exact ⟨_, .nothing rfl, .kept rfl (.inl rfl)⟩
  | acted _ hnone _ _ ha => exact ha.moves (by rfl) (by rfl) hnone (by exact hnone)

/-! ## The numbers grow -/

/-- A task's calls of one tool, newest first. -/
def World.attemptsOf (w : World) (taskId : String) (tool : ToolName) : List Attempt :=
  w.attempts.filter fun a => decide (a.state.taskId = taskId ∧ a.tool = tool)

/-- The calls of a pending action's tool so far are older than the action, or the workflow is over. -/
def Untried (w : World) (taskId : String) (cp : WorkflowState) (p : PendingAction) : Prop :=
  1 ≤ cp.toolHistory.count p.tool.value ∧
    ((∀ a ∈ w.attempts, a.state.taskId = taskId → a.tool = p.tool → a.number < cp.toolHistory.count p.tool.value) ∨
      Over taskId cp w.store)

structure Advancing (w : World) : Prop where
  sorted : ∀ taskId tool, (w.attemptsOf taskId tool).Pairwise fun a b => b.number < a.number
  positive : ∀ a ∈ w.attempts, 1 ≤ a.number
  bounded : ∀ a ∈ w.attempts, ∃ cp, w.store.stored a.state.taskId = some cp ∧ a.number ≤ cp.toolHistory.count a.tool.value
  due : ∀ taskId cp p, w.store.stored taskId = some cp → cp.pendingAction = some p → Untried w taskId cp p

theorem Steers.history (h : Steers cp st) : st.toolHistory = cp.toolHistory ∧ (st.pendingAction = cp.pendingAction ∨ st.pendingAction = none) := by
  cases h with
  | moved _ _ e => exact ⟨congrArg (·.toolHistory) e, .inl (congrArg (·.pendingAction) e)⟩
  | cleared _ _ e => exact ⟨congrArg (·.toolHistory) e, .inr (congrArg (·.pendingAction) e)⟩

theorem Advancing.steered (h : Advancing w) (hs : Steered w w') : Advancing w' := by
  refine ⟨fun T tool => ?_, fun a ha => h.positive a (hs.attempts ▸ ha), fun a ha => ?_, fun T st p hst hp => ?_⟩
  · unfold World.attemptsOf
    rw [hs.attempts]
    exact h.sorted T tool
  · rw [hs.attempts] at ha
    obtain ⟨cp, hcp, hle⟩ := h.bounded a ha
    rcases hs.stored a.state.taskId with e | ⟨hnone, -⟩ | ⟨cp', st, hcp', hst, hsteers⟩
    · exact ⟨cp, e.trans hcp, hle⟩
    · rw [hcp] at hnone
      cases hnone
    · rw [hcp] at hcp'
      cases hcp'
      exact ⟨st, hst, by rw [hsteers.history.1]; exact hle⟩
  · have hdue : ∀ cp, w.store.stored T = some cp → cp.pendingAction = some p → cp.toolHistory = st.toolHistory → Untried w' T st p := by
      intro cp hcp hp' hhist
      obtain ⟨hpos, hall | hover⟩ := h.due T cp p hcp hp'
      · exact ⟨hhist ▸ hpos, .inl fun a ha ht htool => hhist ▸ hall a (hs.attempts ▸ ha) ht htool⟩
      · have hover' := hs.finished T cp hover
        have hst' := hover'.stored
        rw [hst] at hst'
        cases hst'
        exact ⟨hhist ▸ hpos, .inr hover'⟩
    rcases hs.stored T with e | ⟨-, st', hst', hcreated⟩ | ⟨cp, st', hcp, hst', hsteers⟩
    · exact hdue st (e ▸ hst) hp rfl
    · rw [hst] at hst'
      cases hst'
      obtain ⟨-, -, -, -, -, hnone, -⟩ := hcreated
      rw [hnone] at hp
      cases hp
    · rw [hst] at hst'
      cases hst'
      obtain ⟨hhist, hp' | hp'⟩ := hsteers.history
      · exact hdue cp hcp (hp' ▸ hp) hhist.symm
      · rw [hp'] at hp
        cases hp

/-! ### A worker's run -/

variable {d : QueueDelivery}

theorem endedBy_kept (st : WorkflowState) (status : WorkflowStatus) (error : String) :
    (st.endedBy status error).toolHistory = st.toolHistory ∧ (st.endedBy status error).pendingAction = st.pendingAction := by
  unfold WorkflowState.endedBy
  split <;> exact ⟨rfl, rfl⟩

theorem unattempted (h : w'.memory.executed = w.memory.executed) (ht : TriesStored w w') : w'.attempts = w.attempts := by
  rcases ht with h' | ⟨-, -, -, h' | ⟨a, ha, -⟩⟩
  · exact h'
  · exact h'
  · rw [executed_attempts, executed_attempts, ha] at h
    have := congrArg List.length h
    simp at this

/-- The tool a turn called the backend with, and the call. -/
theorem TookTurn.tried (h : TookTurn rt env D U d cp o st w w') (hf : Filed w.store) (ht : TriesStored w w')
    (hdid : Did (w.memory.takes d) w'.memory d.taskId x) :
    (x = none ∧ w'.attempts = w.attempts) ∨
      ∃ a, x = some a.tool ∧ w'.attempts = a :: w.attempts ∧ a.state.taskId = d.taskId ∧ Trial cp a := by
  cases hdid with
  | nothing e => exact .inl ⟨rfl, unattempted e ht⟩
  | tool tool r e =>
    have e : w'.memory.executed = (d.taskId, tool, r) :: w.memory.executed := e
    rw [executed_attempts, executed_attempts] at e
    rcases ht with h' | ⟨T, cp', hcp', h' | ⟨a, ha, hat, htrial⟩⟩
    · rw [h'] at e
      simp at e
    · rw [h'] at e
      simp at e
    · rw [ha] at e
      have hhead := (List.cons.inj e).1
      simp only [Attempt.executed, Prod.mk.injEq] at hhead
      obtain ⟨htask, rfl, -⟩ := hhead
      obtain ⟨-, -, -, hT⟩ := hf.version hcp'
      obtain rfl : T = d.taskId := hT.symm.trans (hat.symm.trans htask)
      rw [h.stored] at hcp'
      cases hcp'
      exact .inr ⟨a, rfl, ha, htask, htrial⟩

theorem Moves.of_content (h : Moves cp.content st o x) : Moves cp st o x := by
  cases h with
  | kept hhist hp => exact .kept hhist hp
  | asked p hnone hhist hp => exact .asked p hnone hhist hp
  | decided tool _ hnone hhist hp hx => exact .decided tool x hnone hhist hp hx
  | resumed p hp hact hhist hpend => exact .resumed p hp hact hhist hpend

/-- The number of a new call is above those before, and counted in the checkpoint it leaves. -/
theorem Trial.above {a : Attempt} (h : Advancing w) (hcp : w.store.stored taskId = some cp) (hover : ¬ Over taskId cp w.store)
    (htrial : Trial cp a) (hmoves : Moves cp st o (some a.tool)) :
    1 ≤ a.number ∧ (∀ b ∈ w.attempts, b.state.taskId = taskId → b.tool = a.tool → b.number < a.number) ∧
      a.number ≤ st.toolHistory.count a.tool.value := by
  generalize hx : some a.tool = x at hmoves
  cases htrial with
  | resumed p hp htool hnumber =>
    obtain ⟨hpos, hall | hover'⟩ := h.due taskId cp p hcp hp
    · rw [hnumber, htool]
      refine ⟨hpos, hall, ?_⟩
      cases hmoves with
      | kept | asked => cases hx
      | decided _ _ hnone => rw [hp] at hnone; cases hnone
      | resumed _ _ _ hhist => rw [hhist]
    · exact absurd hover' hover
  | decided hnone hnumber =>
    refine ⟨by omega, fun b hb ht htool => ?_, ?_⟩
    · obtain ⟨cp', hcp', hle⟩ := h.bounded b hb
      rw [ht, hcp] at hcp'
      cases hcp'
      rw [htool] at hle
      omega
    · cases hmoves with
      | kept | asked => cases hx
      | decided tool _ _ hhist _ htool =>
        rcases htool with rfl | rfl
        · cases hx
        · cases hx
          rw [hhist, hnumber]
          simp
      | resumed p hp => rw [hnone] at hp; cases hp

/-- A turn keeps what the history counts. -/
theorem Moves.count_le (h : Moves cp st o x) (value : String) : cp.toolHistory.count value ≤ st.toolHistory.count value := by
  cases h with
  | kept hhist | resumed _ _ _ hhist => rw [hhist]
  | asked _ _ hhist | decided _ _ _ hhist =>
    rw [hhist, List.count_append]
    omega

theorem TookTurn.advancing (h : TookTurn rt env D U d cp o st w w') (hf : Filed w.store) (ht : TriesStored w w')
    (hfin : ∀ w c r, env.allows 0 w c r → Finishes c r) (ha : Advancing w) : Advancing w' := by
  obtain ⟨x, hdid, hmoves⟩ := h.turn.moves hfin
  have hmoves := hmoves.of_content
  have hdid : Did (w.memory.takes d) w'.memory d.taskId x := h.task ▸ hdid
  have hover : ¬ Over d.taskId cp w.store := fun ho => (h.finished _ _ ho).1 rfl
  obtain ⟨cp', hcp', hleft⟩ := h.left
  have hkept : cp'.toolHistory = st.toolHistory ∧ cp'.pendingAction = st.pendingAction := by
    rcases hleft with e | ⟨status, error, e⟩
    · exact ⟨congrArg (·.toolHistory) e, congrArg (·.pendingAction) e⟩
    · obtain ⟨hh, hp⟩ := endedBy_kept st status error
      exact ⟨(congrArg (·.toolHistory) e).trans hh, (congrArg (·.pendingAction) e).trans hp⟩
  have hended : st.terminal = true → cp'.terminal = true := by
    intro hterm
    have hst : cp'.content = st := by
      rcases hleft with e | ⟨status, error, e⟩
      · exact e
      · rwa [WorkflowState.endedBy, if_pos hterm] at e
    rw [← hst] at hterm
    exact hterm
  -- the calls made before
  have hbounded : ∀ b ∈ w.attempts, ∃ c, w'.store.stored b.state.taskId = some c ∧ b.number ≤ c.toolHistory.count b.tool.value := by
    intro b hb
    obtain ⟨c, hc, hle⟩ := ha.bounded b hb
    by_cases e : b.state.taskId = d.taskId
    · rw [e, h.stored] at hc
      cases hc
      refine ⟨cp', e ▸ hcp', hle.trans ?_⟩
      rw [hkept.1]
      exact hmoves.count_le b.tool.value
    · exact ⟨c, (h.others _ e).trans hc, hle⟩
  -- the pending actions of the other tasks
  have hdue : ∀ T c p, T ≠ d.taskId → w'.store.stored T = some c → c.pendingAction = some p →
      (∀ a ∈ w'.attempts, a.state.taskId ≠ d.taskId → a ∈ w.attempts) → Untried w' T c p := by
    intro T c p hne hc hp hold
    rw [h.others T hne] at hc
    obtain ⟨hpos, hall | ho⟩ := ha.due T c p hc hp
    · exact ⟨hpos, .inl fun a ha' hT => hall a (hold a ha' (by rw [hT]; exact hne)) hT⟩
    · exact ⟨hpos, .inr (h.finished T c ho).2⟩
  rcases h.tried hf ht hdid with ⟨rfl, hsame⟩ | ⟨a, rfl, hcons, hat, htrial⟩
  · refine ⟨fun T tool => ?_, fun a ha' => ha.positive a (hsame ▸ ha'), fun a ha' => hbounded a (hsame ▸ ha'), fun T c p hc hp => ?_⟩
    · unfold World.attemptsOf
      rw [hsame]
      exact ha.sorted T tool
    · by_cases e : T = d.taskId
      · subst e
        rw [hcp'] at hc
        cases hc
        rw [hkept.2] at hp
        generalize hx : (none : Option ToolName) = x at hmoves
        cases hmoves with
        | kept hhist hpend =>
          have hp' : cp.pendingAction = some p := by
            rcases hpend with e | e
            · exact e ▸ hp
            · rw [e] at hp
              cases hp
          obtain ⟨hpos, hall | ho⟩ := ha.due _ _ _ h.stored hp'
          · rw [Untried, hkept.1, hhist, hsame]
            exact ⟨hpos, .inl hall⟩
          · exact absurd ho hover
        | asked p' hnone hhist hp' =>
          rw [hp] at hp'
          cases hp'
          rw [Untried, hkept.1, hhist, hsame]
          refine ⟨by simp, .inl fun a ha' hT htool => ?_⟩
          obtain ⟨c, hc, hle⟩ := ha.bounded a ha'
          rw [hT, h.stored] at hc
          cases hc
          rw [htool] at hle
          simp
          omega
        | decided _ _ _ _ hnone => rw [hnone] at hp; cases hp
        | resumed => cases hx
      · exact hdue T c p e hc hp fun a ha' _ => hsame ▸ ha'
  · obtain ⟨hpos, habove, hle⟩ := htrial.above ha h.stored hover hmoves
    refine ⟨fun T tool => ?_, fun b hb => ?_, fun b hb => ?_, fun T c p hc hp => ?_⟩
    · unfold World.attemptsOf
      rw [hcons, List.filter_cons]
      split
      · rename_i hmatch
        obtain ⟨hT, htool⟩ := of_decide_eq_true hmatch
        refine List.pairwise_cons.mpr ⟨fun b hb => ?_, ha.sorted T tool⟩
        obtain ⟨hb, hmatch'⟩ := List.mem_filter.mp hb
        obtain ⟨hT', htool'⟩ := of_decide_eq_true hmatch'
        exact habove b hb (hT'.trans (hT.symm.trans hat)) (htool'.trans htool.symm)
      · exact ha.sorted T tool
    · rw [hcons] at hb
      rcases List.mem_cons.mp hb with rfl | hb
      · exact hpos
      · exact ha.positive b hb
    · rw [hcons] at hb
      rcases List.mem_cons.mp hb with rfl | hb
      · exact ⟨cp', hat ▸ hcp', by rw [hkept.1]; exact hle⟩
      · exact hbounded b hb
    · by_cases e : T = d.taskId
      · subst e
        rw [hcp'] at hc
        cases hc
        rw [hkept.2] at hp
        generalize hx : some a.tool = x at hmoves
        cases hmoves with
        | kept | asked => cases hx
        | decided _ _ _ _ hnone => rw [hnone] at hp; cases hp
        | resumed p' hp' hact hhist hpend =>
          rcases hpend with hnone | ⟨hpend, hterm, hout⟩
          · rw [hnone] at hp; cases hp
          · rw [hpend] at hp
            cases hp
            obtain ⟨hpos', -⟩ := ha.due _ _ _ h.stored hp'
            rw [Untried, hkept.1, hhist]
            exact ⟨hpos', .inr ⟨hcp', hended hterm, h.closed hout⟩⟩
      · refine hdue T c p e hc hp fun b hb hne => ?_
        rw [hcons] at hb
        rcases List.mem_cons.mp hb with rfl | hb
        · exact absurd hat hne
        · exact hb

theorem Unclaimed.advancing (h : Unclaimed w w') (ht : TriesStored w w') (ha : Advancing w) : Advancing w' := by
  have hsame : w'.attempts = w.attempts := unattempted (by rw [h.memory]) ht
  refine ⟨fun T tool => ?_, fun a ha' => ha.positive a (hsame ▸ ha'), fun a ha' => ?_, fun T cp p hcp hp => ?_⟩
  · unfold World.attemptsOf
    rw [hsame]
    exact ha.sorted T tool
  · obtain ⟨cp, hcp, hle⟩ := ha.bounded a (hsame ▸ ha')
    exact ⟨cp, (h.stored _).trans hcp, hle⟩
  · obtain ⟨hpos, hall | ho⟩ := ha.due T cp p ((h.stored T).symm.trans hcp) hp
    · exact ⟨hpos, .inl fun a ha' => hall a (hsame ▸ ha')⟩
    · exact ⟨hpos, .inr (h.finished T cp ho)⟩

/-- Every operation that is not cut off. -/
theorem Advancing.operation (he : rt.engine = anyEngine) (hb : rt.backend = anyBackend)
    (hfin : ∀ w c r, env.allows 0 w c r → Finishes c r) (hs : Standing w.store) (ha : Advancing w) {op : Operation}
    {o : Except PyError Reply} (hr : Runs (calls env 0) (op.program rt config) w o w') : Advancing w' := by
  by_cases hop : ∃ workerId, op = .runOnce workerId
  · obtain ⟨workerId, rfl⟩ := hop
    have htries : TriesStored w w' := wp_sound (wp_reply (runOnce_tries he hb workerId)) hr
    rcases (hs.served hb (by rw [he]; exact anyEngine_spec) hr).outcome hs with hun | ⟨d, cp, o, st, htook⟩
    · exact hun.advancing htries ha
    · exact htook.advancing hs.level.filed htries hfin ha
  · exact ha.steered (wp_sound (operation_steered hs.level.filed fun workerId e => hop ⟨workerId, e⟩) hr)

/-! ### Sequences -/

/-- Sequences without deaths, in which a call for an approved action finishes it. -/
def Env.finishing : Env where
  allows _ _ c r := Finishes c r
  dies _ _ := False

def AttemptsAdvance (w : World) : Prop :=
  ∀ taskId tool, (w.attemptsOf taskId tool).Pairwise fun a b => b.number < a.number

/-- The backend answered from the scenario file. -/
def Scripted (scenarios : Scenarios) (w : World) : Prop :=
  ∀ a ∈ w.attempts, a.answer = scenarioExecute scenarios a.state a.tool a.arguments a.number

/-- After as many calls as the scenario counts transient failures, no call fails for another try. -/
def FailuresEnd (scenarios : Scenarios) (w : World) : Prop :=
  ∀ taskId tool a before scenario k, a :: before <:+ w.attemptsOf taskId tool → scenarios.get? a.state.scenarioId = some scenario →
    transientCount scenario tool = .ok k → k ≤ before.length → ∀ e, a.answer = .error e → e.isRetryable = false

theorem Sequence.advancing (he : rt.engine = anyEngine) (hb : rt.backend = anyBackend) (hdies : ∀ w, ¬ env.dies 0 w)
    (hfin : ∀ w c r, env.allows 0 w c r → Finishes c r) (h : Sequence rt config env w) : Advancing w := by
  induction h with
  | init =>
    have hnone : ∀ a, a ∉ World.init.attempts := fun a ha => by cases ha
    exact ⟨fun _ _ => .nil, fun a ha => absurd ha (hnone a), fun a ha => absurd ha (hnone a), fun _ _ _ hcp => (by cases hcp)⟩
  | @ran w w' op o hseq _ hr ih =>
    have hstanding : Standing w.store := hseq.standing he hb hdies
    have hstart : Advancing (w.note (.began 0 op)) := ⟨ih.sorted, ih.positive, ih.bounded, ih.due⟩
    have h' := hstart.operation he hb hfin (by exact hstanding) hr
    exact ⟨h'.sorted, h'.positive, h'.bounded, h'.due⟩
  | died _ _ _ hd => exact absurd hd (hdies _)

/-- Numbers that grow from one are at least the number of calls. -/
theorem length_lt_number {before : List Attempt} {a : Attempt} (hs : (a :: before).Pairwise fun a b => b.number < a.number)
    (hpos : ∀ b ∈ a :: before, 1 ≤ b.number) : before.length < a.number := by
  induction before generalizing a with
  | nil => exact hpos a List.mem_cons_self
  | cons b before ih =>
    obtain ⟨habove, hs⟩ := List.pairwise_cons.mp hs
    have hlt := ih hs fun c hc => hpos c (List.mem_cons_of_mem a hc)
    have := habove b List.mem_cons_self
    rw [List.length_cons]
    omega

/-- The attempt numbers of a task's calls of one tool grow, in every run in which each call for
    an approved action finishes it; so the scenario's transient failures end. -/
theorem attempts_advance (rt : WorkflowRuntime) (config : Settings)
    (h : Sequence { rt with engine := anyEngine, backend := anyBackend } config .finishing w) :
    AttemptsAdvance w ∧ ∀ scenarios, Scripted scenarios w → FailuresEnd scenarios w := by
  have ha : Advancing w := h.advancing rfl rfl (fun _ hd => hd) fun _ _ _ hal => hal
  refine ⟨ha.sorted, fun scenarios hscripted taskId tool a before scenario k hsuffix hget hk hle e he => ?_⟩
  have hmem : ∀ b ∈ a :: before, b ∈ w.attempts ∧ b.tool = tool := by
    intro b hb
    obtain ⟨hb, htask⟩ := List.mem_filter.mp (hsuffix.subset hb)
    exact ⟨hb, (of_decide_eq_true htask).2⟩
  have hlt := length_lt_number ((ha.sorted taskId tool).sublist hsuffix.sublist) fun b hb => ha.positive b (hmem b hb).1
  obtain ⟨hin, rfl⟩ := hmem a List.mem_cons_self
  by_contra hretry
  rw [hscripted a hin] at he
  obtain ⟨scenario', k', hget', hk', -, hle'⟩ := scenarioExecute_retryable he (by simpa using hretry)
  rw [hget] at hget'
  cases hget'
  rw [hk] at hk'
  cases hk'
  omega

/-- The alert and the restart both time out once. -/
def flaky : Scenarios :=
  [("checkout-pool-exhaustion", [("alert", alertRead),
    ("transient_failures", .obj [("read_alert", .int 1), ("restart_service", .int 1)])])]

def timedOut (tool : ToolName) : Except PyError Json := .error (.retryable s!"{tool.value} downstream timed out")

def sameFields : List (String × Json) → List (String × Json) → Bool
  | [], [] => true
  | (k, .str v) :: d, (k', .str v') :: d' => decide (k = k' ∧ v = v') && sameFields d d'
  | (k, .bool v) :: d, (k', .bool v') :: d' => decide (k = k' ∧ v = v') && sameFields d d'
  | _, _ => false

/-- Errors, and objects of strings and truth values. -/
def sameAnswer : Except PyError Json → Except PyError Json → Bool
  | .error e, .error e' => e = e'
  | .ok (.obj d), .ok (.obj d') => sameFields d d'
  | _, _ => false

theorem sameFields_eq {d d' : List (String × Json)} (h : sameFields d d' = true) : d = d' := by
  fun_induction sameFields d d' with
  | case1 => rfl
  | case2 k v d k' v' d' ih | case3 k v d k' v' d' ih =>
    rw [Bool.and_eq_true, decide_eq_true_eq] at h
    obtain ⟨⟨rfl, rfl⟩, h⟩ := h
    rw [ih h]
  | case4 => cases h

theorem sameAnswer_eq {r r' : Except PyError Json} (h : sameAnswer r r' = true) : r = r' := by
  unfold sameAnswer at h
  split at h
  · rw [of_decide_eq_true h]
  · rw [sameFields_eq h]
  · cases h

def scripted (scenarios : Scenarios) (w : World) : Bool :=
  w.attempts.all fun a => sameAnswer a.answer (scenarioExecute scenarios a.state a.tool a.arguments a.number)

theorem scripted_sound {scenarios : Scenarios} (h : scripted scenarios w = true) : Scripted scenarios w := by
  intro a ha
  exact sameAnswer_eq (List.all_eq_true.mp h a ha)

/-- The alert is read twice: the first time it times out. -/
def readsTwice : List Act :=
  [createsAct,
   ⟨.runOnce "w1", deciding readAlertRequest ++ unasked 2 ++ [.result 0 (timedOut .readAlert)] ++ unasked 5, false⟩,
   ⟨.runOnce "w1", deciding readAlertRequest minuteLater ++ unasked 2 minuteLater ++ [.result minuteLater (.ok alertRead)] ++
     unasked 7 minuteLater, false⟩]

/-- No action is pending when the backend is called. -/
def unapproved : Call → Bool
  | .execute st .. => st.pendingAction.isNone
  | _ => true

theorem unapproved_finishes (c : Call) (r : Except PyError c.Ret) (h : unapproved c = true) : Finishes c r := by
  unfold Finishes
  split
  · exact fun hne => absurd (Option.isNone_iff_eq_none.mp h) hne
  · exact fun hne => absurd (Option.isNone_iff_eq_none.mp h) hne
  · trivial

theorem readsTwice_plays : (Sequence.play {} {} (fun _ c _ => unapproved c) (fun _ => false) readsTwice World.init).any
    (fun w => scripted flaky w && (w.attemptsOf "t" .readAlert).length = 2) = true := by
  decide +kernel

theorem attempts_advance_reads : ∃ w, Sequence {} {} .finishing w ∧ Scripted flaky w ∧ (w.attemptsOf "t" .readAlert).length = 2 ∧
    AttemptsAdvance w ∧ FailuresEnd flaky w := by
  obtain ⟨w, h, hw⟩ : ∃ w, Sequence {} {} .finishing w ∧ _ := Sequence.play_exists (fun _ _ _ => unapproved_finishes _ _)
    (fun _ h => by cases h) (fun _ _ _ => trivial) readsTwice_plays
  obtain ⟨hscripted, hlen⟩ := Bool.and_eq_true _ _ ▸ hw
  obtain ⟨ha, hend⟩ := attempts_advance {} {} h
  exact ⟨w, h, scripted_sound hscripted, of_decide_eq_true hlen, ha, hend flaky (scripted_sound hscripted)⟩

/-- An approved restart that times out, and is tried again. -/
def restartsTwice : List Act :=
  asksRestart ++
  [⟨.approve "t" "operator" none, unasked 5, false⟩,
   ⟨.runOnce "w1", unasked 5 ++ [.result 0 (timedOut .restartService)] ++ unasked 5, false⟩,
   ⟨.runOnce "w1", unasked 5 minuteLater ++ [.result minuteLater (timedOut .restartService)] ++ unasked 5 minuteLater, false⟩]

/-- The numbers and whether the call failed for another try. -/
def Attempt.failed (a : Attempt) : Nat × Bool := (a.number, match a.answer with | .error e => e.isRetryable | .ok _ => false)

def stuck (w : World) : Bool :=
  scripted flaky w && decide ((w.attemptsOf "t" .restartService).map Attempt.failed = [(1, true), (1, true)]) &&
    (w.attemptsOf "t" .restartService).all fun a => a.state.scenarioId = "checkout-pool-exhaustion"

theorem restartsTwice_plays : (Sequence.play {} {} (fun _ _ _ => true) (fun _ => false) restartsTwice World.init).any stuck = true := by
  decide +kernel

/-- An approved action is tried again under the same number, and times out again. -/
theorem approved_stuck : ∃ w, Sequence {} {} .crashFree w ∧ Scripted flaky w ∧ ¬ AttemptsAdvance w ∧ ¬ FailuresEnd flaky w := by
  obtain ⟨w, h, hw⟩ : ∃ w, Sequence {} {} .crashFree w ∧ _ := Sequence.play_exists (fun _ _ _ _ => trivial)
    (fun _ h => by cases h) (fun _ _ _ => trivial) restartsTwice_plays
  simp only [stuck, Bool.and_eq_true, decide_eq_true_eq] at hw
  obtain ⟨⟨hscripted, hnumbers⟩, hscenario⟩ := hw
  obtain ⟨a, before, hcons, ha, hbefore⟩ := List.map_eq_cons_iff.mp hnumbers
  obtain ⟨b, rest, rfl, hb, hrest⟩ := List.map_eq_cons_iff.mp hbefore
  obtain rfl := List.map_eq_nil_iff.mp hrest
  simp only [Attempt.failed, Prod.mk.injEq] at ha hb
  refine ⟨w, h, scripted_sound hscripted, fun hadv => ?_, fun hend => ?_⟩
  · have hlt := hadv "t" .restartService
    rw [hcons] at hlt
    have := List.rel_of_pairwise_cons hlt List.mem_cons_self
    omega
  · rw [hcons] at hscenario
    have hid : a.state.scenarioId = "checkout-pool-exhaustion" := by
      simpa using List.all_eq_true.mp hscenario a List.mem_cons_self
    obtain ⟨-, hfailed⟩ := ha
    split at hfailed
    · rename_i e he
      have := hend "t" .restartService a [b] _ 1 (hcons ▸ List.suffix_rfl) (by rw [hid]; rfl) rfl (by simp) e he
      rw [hfailed] at this
      cases this
    · cases hfailed

end AgentResilience
