/-
  AgentResilience.Lifecycle — what can happen to a checkpoint. `Change` lists every way a
  save moves a checkpoint, with what the program knows when it saves; a workflow's
  history is a chain of these and of replays. `StoreOk` is the invariant of the store
  (versions agree, a pending action is a production restart under its own id, approvals
  are for production restarts), and `Later` what never goes back: versions, resolved
  approvals, the ledger.

  - `apply_later`, `apply_storeOk`: every store call moves the store along `Later` and
    keeps `StoreOk`, given that a save is a `Change` of what is stored (`StoreObs`).
  - `Change.not_terminal`: a save never starts from a terminal checkpoint.
-/
import Mathlib.Data.Set.Operations
import AgentResilience.System

namespace AgentResilience

/-! ## Changes of a checkpoint -/

structure PendingOk (A : Set Arguments) (taskId : String) (p : PendingAction) : Prop where
  restart : ProductionRestart p.tool p.arguments
  asked : p.arguments ∈ A
  id : p.actionId = actionId taskId p.tool p.arguments

def WorkflowStatus.active : WorkflowStatus → Bool
  | queued | running => true
  | _ => false

/-- The checkpoint is about to run `tool`: as its decision, or as its pending action. -/
def ToolDue (s : WorkflowState) (tool : ToolName) : Prop :=
  s.status.active = true ∧
    ((s.pendingAction = none ∧ s.currentStep = some tool.value ∧ tool.value ∈ s.toolHistory) ∨
      ∃ p, s.pendingAction = some p ∧ p.tool = tool)

open WorkflowRuntime in
/-- A checkpoint `s` and what a save may put in its place. -/
inductive Change (d : LoopDetector) (A : Set Arguments) : WorkflowState → WorkflowState → Prop
  | start {s : WorkflowState} : s.status.active = true → s.pendingAction = none →
      Change d A s { s with status := .running, lastError := none }
  | modelRetry {s : WorkflowState} (m : String) : s.status = .running → s.pendingAction = none →
      Change d A s { s with retries := s.retries + 1, status := .queued, lastError := some m }
  | completed {s : WorkflowState} (dec : AgentDecision) (u : Nat × Nat) : s.status = .running → s.pendingAction = none →
      dec.action = .complete →
      Change d A s { absorb s dec u with status := .completed, finalAnswer := dec.finalAnswer, currentStep := none }
  | declined {s : WorkflowState} (dec : AgentDecision) (u : Nat × Nat) : s.status = .running → s.pendingAction = none →
      Change d A s { absorb s dec u with status := .failed, lastError := some dec.rationale, currentStep := none }
  | loopStopped {s : WorkflowState} (dec : AgentDecision) (u : Nat × Nat) (tool : ToolName) (reason : String) :
      s.status = .running → s.pendingAction = none →
      d.reason (decided (absorb s dec u) tool).toolHistory (decided (absorb s dec u) tool).progressHistory = some reason →
      Change d A s { decided (absorb s dec u) tool with status := .loopStopped, lastError := some reason }
  | decided {s : WorkflowState} (dec : AgentDecision) (u : Nat × Nat) (tool : ToolName) :
      s.status = .running → s.pendingAction = none →
      d.reason (decided (absorb s dec u) tool).toolHistory (decided (absorb s dec u) tool).progressHistory = none →
      Change d A s (decided (absorb s dec u) tool)
  | denied {s : WorkflowState} (reason : String) : s.status = .running → s.pendingAction = none →
      Change d A s { s with status := .failed, lastError := some reason, currentStep := none }
  | paused {s : WorkflowState} (p : PendingAction) : s.status = .running → s.pendingAction = none →
      p.tool.value ∈ s.toolHistory → PendingOk A s.taskId p →
      Change d A s { s with pendingAction := some p, status := .waitingForApproval }
  | toolRetry {s : WorkflowState} (tool : ToolName) (m : String) : ToolDue s tool →
      Change d A s { s with retries := s.retries + 1, lastError := some m, status := .queued }
  | toolFailed {s : WorkflowState} (tool : ToolName) (m : String) : ToolDue s tool →
      Change d A s { s with status := .failed, lastError := some m, currentStep := none }
  | toolDone {s : WorkflowState} (tool : ToolName) (result : Json) : ToolDue s tool →
      Change d A s (toolCompleted s tool result)
  | approved {s : WorkflowState} (p : PendingAction) : s.status = .waitingForApproval → s.pendingAction = some p →
      Change d A s { s with status := .queued }
  | rejected {s : WorkflowState} (p : PendingAction) (e : Option String) : s.status = .waitingForApproval →
      s.pendingAction = some p →
      Change d A s { s with status := .humanRejected, lastError := e, pendingAction := none }
  | deadLettered {s : WorkflowState} (m : String) : s.status.terminal = false →
      Change d A s { s with status := .deadLettered, lastError := some m }
  | failed {s : WorkflowState} (m : String) : s.status.terminal = false →
      Change d A s { s with status := .failed, lastError := some m }

structure StateOk (A : Set Arguments) (taskId : String) (state : WorkflowState) : Prop where
  task : state.taskId = taskId
  pending : ∀ p, state.pendingAction = some p → PendingOk A taskId p

variable {d : LoopDetector} {A : Set Arguments}

theorem active_not_terminal {st : WorkflowStatus} (h : st.active = true) : st.terminal = false := by
  cases st <;> first | rfl | cases h

/-- `process` stops at once just where the checkpoint is not active. -/
theorem stops_iff (st : WorkflowState) :
    (st.terminal || decide (st.status = .waitingForApproval)) = true ↔ st.status.active = false := by
  unfold WorkflowState.terminal
  cases st.status <;> simp [WorkflowStatus.active, WorkflowStatus.terminal]

theorem active_of_running {st : WorkflowState} (h : ¬ (st.terminal || decide (st.status = .waitingForApproval)) = true) :
    st.status.active = true := by
  rw [stops_iff] at h
  simpa using h

theorem stopped_iff {st : WorkflowState} : st.status.active = false ↔ st.terminal = true ∨ st.status = .waitingForApproval := by
  rw [← stops_iff, Bool.or_eq_true, decide_eq_true_eq]

theorem active_running {st : WorkflowState} (h : st.status = .running) : st.status.active = true := by
  rw [h]; rfl

theorem terminal_inactive {st : WorkflowState} (h : st.terminal = true) : st.status.active = false :=
  stopped_iff.mpr (.inl h)

theorem Change.same {s s' : WorkflowState} (h : Change d A s s') : s'.taskId = s.taskId ∧ s'.version = s.version := by
  cases h <;> exact ⟨rfl, rfl⟩

/-- A save never starts from a terminal checkpoint. -/
theorem Change.not_terminal {s s' : WorkflowState} (h : Change d A s s') : s.status.terminal = false := by
  cases h with
  | start h _ => exact active_not_terminal h
  | modelRetry _ h _ | completed _ _ h _ _ | declined _ _ h _ | loopStopped _ _ _ _ h _ _ | decided _ _ _ h _ _
  | denied _ h _ | paused _ h _ _ _ => rw [h]; rfl
  | toolRetry _ _ h | toolFailed _ _ h | toolDone _ _ h => exact active_not_terminal h.1
  | approved _ h _ | rejected _ _ h _ => rw [h]; rfl
  | deadLettered _ h | failed _ h => exact h

theorem Change.stateOk {s s' : WorkflowState} {taskId : String} (h : Change d A s s') (hs : StateOk A taskId s) :
    StateOk A taskId s' := by
  cases h with
  | paused p _ _ _ hp =>
    refine ⟨hs.task, fun q hq => ?_⟩
    cases hq; rw [← hs.task]; exact hp
  | toolDone => exact ⟨hs.task, fun q hq => by cases hq⟩
  | rejected => exact ⟨hs.task, fun q hq => by cases hq⟩
  | _ => exact ⟨hs.task, hs.pending⟩

/-- The pending action of a checkpoint that is not waiting was there before. -/
theorem Change.pending {s s' : WorkflowState} (h : Change d A s s')
    (hst : s'.status ≠ .waitingForApproval) {p : PendingAction}
    (hp : s'.pendingAction = some p) : s.pendingAction = some p := by
  cases h with
  | paused => exact absurd rfl hst
  | toolDone | rejected => cases hp
  | _ => exact hp

/-! ## The store's invariant -/

structure StoreOk (A : Set Arguments) (s : SQLiteStore) : Prop where
  version : ∀ taskId row, s.workflows.get taskId = some row → row.version = row.stateJson.version
  state : ∀ taskId row, s.workflows.get taskId = some row → StateOk A taskId row.stateJson
  approval : ∀ taskId a row, s.approvals.get (taskId, a) = some row →
    ∃ arguments, ProductionRestart .restartService arguments ∧ arguments ∈ A ∧ a = actionId taskId .restartService arguments

/-- What never goes back from one store to a later one. -/
structure Later (s s' : SQLiteStore) : Prop where
  workflow : ∀ taskId row, s.workflows.get taskId = some row → ∃ row', s'.workflows.get taskId = some row' ∧
    row.version ≤ row'.version ∧ (row'.version = row.version → row' = row)
  resolved : ∀ k row, s.approvals.get k = some row → row.status ≠ .pending → s'.approvals.get k = some row
  approval : ∀ k row, s.approvals.get k = some row → ∃ row', s'.approvals.get k = some row'
  ledger : ∀ k row, s.toolResults.get k = some row → s'.toolResults.get k = some row

theorem Later.refl (s : SQLiteStore) : Later s s :=
  ⟨fun _ row h => ⟨row, h, Nat.le_refl _, fun _ => rfl⟩, fun _ _ h _ => h, fun _ row h => ⟨row, h⟩, fun _ _ h => h⟩

theorem Later.trans {s s' s'' : SQLiteStore} (h : Later s s') (h' : Later s' s'') : Later s s'' := by
  refine ⟨fun t row hr => ?_, fun k row hr hp => h'.resolved k row (h.resolved k row hr hp) hp,
    fun k row hr => ?_, fun k row hr => h'.ledger k row (h.ledger k row hr)⟩
  · obtain ⟨r1, hr1, hle1, he1⟩ := h.workflow t row hr
    obtain ⟨r2, hr2, hle2, he2⟩ := h'.workflow t r1 hr1
    refine ⟨r2, hr2, by omega, fun e => ?_⟩
    have e1 : r1 = row := he1 (by omega)
    subst e1; exact he2 e
  · obtain ⟨r1, hr1⟩ := h.approval k row hr
    exact h'.approval k r1 hr1

/-- The tables a store shares with another settle `Later`. -/
theorem Later.of_eq {s s' : SQLiteStore} (hw : s'.workflows = s.workflows) (ha : s'.approvals = s.approvals)
    (hl : s'.toolResults = s.toolResults) : Later s s' := by
  have h := Later.refl s
  refine ⟨?_, ?_, ?_, ?_⟩
  · rw [hw]; exact h.workflow
  · rw [ha]; exact h.resolved
  · rw [ha]; exact h.approval
  · rw [hl]; exact h.ledger

theorem StoreOk.of_eq {s s' : SQLiteStore} (h : StoreOk A s) (hw : s'.workflows = s.workflows)
    (ha : s'.approvals = s.approvals) : StoreOk A s' := by
  refine ⟨?_, ?_, ?_⟩
  · rw [hw]; exact h.version
  · rw [hw]; exact h.state
  · rw [ha]; exact h.approval

/-! ## What is stored, and what is known of it -/

def Active (taskId : String) (s : SQLiteStore) : Prop :=
  ∃ w, s.workflows.get taskId = some w ∧ w.stateJson.status.active = true

/-- A copy of a checkpoint: what is stored is the copy or has a newer version. -/
def Copy (st : WorkflowState) (s : SQLiteStore) : Prop :=
  ∃ row, s.workflows.get st.taskId = some row ∧ st.version ≤ row.version ∧
    (row.version = st.version → row.stateJson = st)

theorem Copy.later {st : WorkflowState} {s s' : SQLiteStore} (h : Copy st s) (hl : Later s s') : Copy st s' := by
  obtain ⟨row, hr, hle, he⟩ := h
  obtain ⟨row', hr', hle', he'⟩ := hl.workflow _ row hr
  refine ⟨row', hr', by omega, fun e => ?_⟩
  have : row' = row := he' (by omega)
  subst this; exact he e

/-- A copy whose version is still the stored one is what is stored. -/
theorem Copy.stored {st : WorkflowState} {s : SQLiteStore} (h : Copy st s) {row : WorkflowRow}
    (hr : s.workflows.get st.taskId = some row) (hv : row.version = st.version) : row.stateJson = st := by
  obtain ⟨row', hr', -, he⟩ := h
  rw [hr'] at hr; cases hr; exact he hv

def Approved (taskId : String) (tool : ToolName) (arguments : Arguments) (s : SQLiteStore) : Prop :=
  s.approvalStatus taskId (actionId taskId tool arguments) = some .approved

theorem approved_later {taskId a : String} {s s' : SQLiteStore} (h : s.approvalStatus taskId a = some .approved)
    (hl : Later s s') : s'.approvalStatus taskId a = some .approved := by
  obtain ⟨row, hr, hs⟩ := SQLiteStore.approvalStatus_some h
  have := hl.resolved _ row hr (by rw [hs]; decide)
  simp [SQLiteStore.approvalStatus, this, hs]

theorem Approved.later {taskId : String} {tool : ToolName} {arguments : Arguments} {s s' : SQLiteStore}
    (h : Approved taskId tool arguments s) (hl : Later s s') : Approved taskId tool arguments s' := approved_later h hl

/-! ## Store calls -/

/-- What must hold when a store call is made. -/
def StoreObs (d : LoopDetector) (A : Set Arguments) : StoreCall → SQLiteStore → Prop
  | .saveWorkflow st v, s => ∀ row, s.workflows.get st.taskId = some row → row.version = v → Change d A row.stateJson st
  | .createWorkflow st _, _ => st.pendingAction = none ∧ st.status = .queued
  | .createApproval taskId a, _ =>
    ∃ arguments, ProductionRestart .restartService arguments ∧ arguments ∈ A ∧ a = actionId taskId .restartService arguments
  | _, _ => True

theorem save_later {s s' : SQLiteStore} {now : Timestamp} {st : WorkflowState} {v : Nat}
    {r : Except PyError WorkflowState} (h : s.saveWorkflow now st v = (r, s')) : Later s s' := by
  rcases SQLiteStore.saveWorkflow_cases h with ⟨row, hr, hv, -, hw, -, ha, hl⟩ | ⟨-, rfl, -⟩
  · refine ⟨fun t x hx => ?_, by rw [ha]; exact fun _ _ h _ => h, by rw [ha]; exact fun _ x h => ⟨x, h⟩,
      by rw [hl]; exact fun _ _ h => h⟩
    by_cases e : t = st.taskId
    · subst e
      rw [hr] at hx; cases hx
      exact ⟨_, by rw [hw, if_pos rfl], by simp; omega, fun h => by simp at h; omega⟩
    · exact ⟨x, by rw [hw, if_neg e]; exact hx, Nat.le_refl _, fun _ => rfl⟩
  · exact Later.refl _

theorem create_later {s s' : SQLiteStore} {now : Timestamp} {st : WorkflowState} {n : Nat}
    {r : Except PyError WorkflowState} (h : s.createWorkflow now st n = (r, s')) : Later s s' := by
  rcases SQLiteStore.createWorkflow_cases h with ⟨-, -, rfl⟩ | ⟨hn, -, hw, -, ha, hl⟩
  · exact Later.refl _
  · refine ⟨fun t x hx => ?_, by rw [ha]; exact fun _ _ h _ => h, by rw [ha]; exact fun _ x h => ⟨x, h⟩,
      by rw [hl]; exact fun _ _ h => h⟩
    have e : st.taskId ≠ t := by rintro rfl; rw [hn] at hx; cases hx
    exact ⟨x, by rw [hw, if_neg e]; exact hx, Nat.le_refl _, fun _ => rfl⟩

/-- The checkpoints after a successful replay: the task's own, one version on. -/
theorem replay_workflow {s s' : SQLiteStore} {taskId : String} {w : WorkflowRow} {now : Timestamp} {state : WorkflowState}
    (ht : w.stateJson.taskId = taskId) (hw : s.workflows.get taskId = some w)
    (hst : state = { w.stateJson with status := .queued, lastError := none, version := w.version + 1, updatedAt := now })
    (h : ∀ t, s'.workflows.get t = (s.workflows.get t).map fun x =>
      if x.taskId = state.taskId ∧ x.version = w.version
      then { x with stateJson := state, version := w.version + 1, updatedAt := now } else x) (t : String) :
    s'.workflows.get t = if t = taskId then some ⟨taskId, state, w.version + 1, now⟩ else s.workflows.get t := by
  have htask : state.taskId = taskId := by rw [hst]; exact ht
  rw [h]
  by_cases e : t = taskId
  · subst e
    have hk : w.taskId = t := Table.get_key hw
    rw [if_pos rfl, hw, Option.map_some, htask, if_pos ⟨hk, rfl⟩, hk]
  · rw [if_neg e]
    cases hx : s.workflows.get t with
    | none => rfl
    | some x =>
      have hk : x.taskId = t := Table.get_key hx
      rw [Option.map_some, if_neg (fun hc => e (by rw [← hk, hc.1, htask]))]

theorem replay_later {s s' : SQLiteStore} (hs : StoreOk A s) {now : Timestamp} {id n : Nat} {taskId actor reason : String}
    {r : Option WorkflowState} (h : s.replayDeadLetter now id taskId n actor reason = (r, s')) : Later s s' := by
  rcases SQLiteStore.replayDeadLetter_cases h with ⟨-, rfl⟩ | ⟨q, w, state, -, -, -, hw, hst, -, hws, -, ha, hl⟩
  · exact Later.refl _
  · refine ⟨fun t x hx => ?_, by rw [ha]; exact fun _ _ h _ => h, by rw [ha]; exact fun _ x h => ⟨x, h⟩,
      by rw [hl]; exact fun _ _ h => h⟩
    rw [replay_workflow (hs.state _ _ hw).task hw hst hws t]
    by_cases e : t = taskId
    · subst e
      rw [hw] at hx; cases hx
      exact ⟨_, if_pos rfl, Nat.le_succ _, fun h => by simp at h⟩
    · exact ⟨x, by rw [if_neg e]; exact hx, Nat.le_refl _, fun _ => rfl⟩

theorem createApproval_later (s : SQLiteStore) (now : Timestamp) (taskId a : String) :
    Later s (s.createApproval now taskId a) := by
  refine ⟨fun _ row h => ⟨row, h, Nat.le_refl _, fun _ => rfl⟩, fun k row h _ => ?_, fun k row h => ?_, fun _ _ h => h⟩
  · exact Table.get_insertOrIgnore_some h
  · exact ⟨row, Table.get_insertOrIgnore_some h⟩

theorem resolveApproval_later {s s' : SQLiteStore} {now : Timestamp} {taskId a actor : String} {b : Bool}
    {reason : Option String} {r : Except PyError Unit} (h : s.resolveApproval now taskId a b actor reason = (r, s')) :
    Later s s' := by
  rcases SQLiteStore.resolveApproval_cases h with ⟨row, hr, hp, -, hg, hw, -, hl⟩ | ⟨-, rfl, -⟩
  · refine ⟨by rw [hw]; exact (Later.refl s).workflow, fun k x hx hnp => ?_, fun k x hx => ?_,
      by rw [hl]; exact fun _ _ h => h⟩
    · have e : k ≠ (taskId, a) := by rintro rfl; rw [hr] at hx; cases hx; exact hnp hp
      rw [hg, if_neg e]; exact hx
    · rw [hg]
      by_cases e : k = (taskId, a)
      · exact ⟨_, if_pos e⟩
      · exact ⟨x, by rw [if_neg e]; exact hx⟩
  · exact Later.refl _

/-- Every store call moves the store forward. -/
theorem apply_later {s : SQLiteStore} (hs : StoreOk A s) (c : StoreCall) (now : Timestamp) :
    Later s (c.apply s now).2 := by
  have hw := fun h : c.writesWorkflows = false => StoreCall.apply_workflows h s now
  have ha := fun h : c.writesApprovals = false => StoreCall.apply_approvals h s now
  have hl := fun h : c.writesLedger = false => StoreCall.apply_ledger h s now
  cases c with
  | createWorkflow => exact create_later rfl
  | saveWorkflow => exact save_later rfl
  | replayDeadLetter => exact replay_later hs rfl
  | createApproval => exact createApproval_later ..
  | resolveApproval => exact resolveApproval_later rfl
  | saveToolResult key taskId tool arguments result =>
    exact ⟨(Later.refl s).workflow, fun _ _ h _ => h, fun _ row h => ⟨row, h⟩,
      fun _ _ h => Table.get_insertOrIgnore_some h⟩
  | _ => exact Later.of_eq (hw rfl) (ha rfl) (hl rfl)

theorem save_storeOk {s s' : SQLiteStore} (hs : StoreOk A s) {now : Timestamp} {st : WorkflowState} {v : Nat}
    {r : Except PyError WorkflowState} (h : s.saveWorkflow now st v = (r, s'))
    (ho : ∀ row, s.workflows.get st.taskId = some row → row.version = v → Change d A row.stateJson st) : StoreOk A s' := by
  rcases SQLiteStore.saveWorkflow_cases h with ⟨row, hr, hv, -, hw, -, ha, -⟩ | ⟨-, rfl, -⟩
  · have hst := (ho row hr hv).stateOk (hs.state _ row hr)
    refine ⟨fun t x hx => ?_, fun t x hx => ?_, by rw [ha]; exact hs.approval⟩
    · rw [hw] at hx
      split at hx
      · cases hx; rfl
      · exact hs.version t x hx
    · rw [hw] at hx
      split at hx
      · rename_i e
        cases hx; subst e; exact ⟨rfl, hst.pending⟩
      · exact hs.state t x hx
  · exact hs

theorem create_storeOk {s s' : SQLiteStore} (hs : StoreOk A s) {now : Timestamp} {st : WorkflowState} {n : Nat}
    {r : Except PyError WorkflowState} (h : s.createWorkflow now st n = (r, s')) (ho : st.pendingAction = none) :
    StoreOk A s' := by
  rcases SQLiteStore.createWorkflow_cases h with ⟨-, -, rfl⟩ | ⟨-, -, hw, -, ha, -⟩
  · exact hs
  · refine ⟨fun t x hx => ?_, fun t x hx => ?_, by rw [ha]; exact hs.approval⟩
    · rw [hw] at hx
      split at hx
      · cases hx; rfl
      · exact hs.version t x hx
    · rw [hw] at hx
      split at hx
      · rename_i e
        cases hx; exact ⟨e, fun p hp => by rw [ho] at hp; cases hp⟩
      · exact hs.state t x hx

theorem replay_storeOk {s s' : SQLiteStore} (hs : StoreOk A s) {now : Timestamp} {id n : Nat}
    {taskId actor reason : String} {r : Option WorkflowState}
    (h : s.replayDeadLetter now id taskId n actor reason = (r, s')) : StoreOk A s' := by
  rcases SQLiteStore.replayDeadLetter_cases h with ⟨-, rfl⟩ | ⟨q, w, state, -, -, -, hw, hst, -, hws, -, ha, -⟩
  · exact hs
  · have hget := replay_workflow (hs.state _ _ hw).task hw hst hws
    refine ⟨fun t x hx => ?_, fun t x hx => ?_, by rw [ha]; exact hs.approval⟩
    · rw [hget] at hx
      split at hx
      · cases hx; rw [hst]
      · exact hs.version t x hx
    · rw [hget] at hx
      split at hx
      · rename_i e
        cases hx
        have hold := hs.state taskId w hw
        rw [hst, e]; exact ⟨hold.task, hold.pending⟩
      · exact hs.state t x hx

theorem createApproval_storeOk {s : SQLiteStore} (hs : StoreOk A s) {now : Timestamp} {taskId a : String}
    (ho : ∃ arguments, ProductionRestart .restartService arguments ∧ arguments ∈ A ∧
      a = actionId taskId .restartService arguments) : StoreOk A (s.createApproval now taskId a) := by
  refine ⟨hs.version, hs.state, fun t b row hr => ?_⟩
  by_cases e : (taskId, a) = (t, b)
  · cases e; exact ho
  · rw [SQLiteStore.createApproval_get, if_neg e] at hr
    exact hs.approval t b row hr

theorem resolveApproval_storeOk {s s' : SQLiteStore} (hs : StoreOk A s) {now : Timestamp} {taskId a actor : String}
    {b : Bool} {reason : Option String} {r : Except PyError Unit}
    (h : s.resolveApproval now taskId a b actor reason = (r, s')) : StoreOk A s' := by
  rcases SQLiteStore.resolveApproval_cases h with ⟨row, hrow, -, -, hg, hw, -⟩ | ⟨-, rfl, -⟩
  · refine ⟨by rw [hw]; exact hs.version, by rw [hw]; exact hs.state, fun t x r hr => ?_⟩
    by_cases e : (t, x) = (taskId, a)
    · cases e; exact hs.approval taskId a row hrow
    · rw [hg, if_neg e] at hr
      exact hs.approval t x r hr
  · exact hs

/-- Every store call keeps the store's invariant, given what must hold when it is made. -/
theorem apply_storeOk {s : SQLiteStore} (hs : StoreOk A s) (c : StoreCall) (now : Timestamp) (ho : StoreObs d A c s) :
    StoreOk A (c.apply s now).2 := by
  have hw := fun h : c.writesWorkflows = false => StoreCall.apply_workflows h s now
  have ha := fun h : c.writesApprovals = false => StoreCall.apply_approvals h s now
  cases c with
  | createWorkflow => exact create_storeOk hs rfl ho.1
  | saveWorkflow => exact save_storeOk hs rfl ho
  | replayDeadLetter => exact replay_storeOk hs rfl
  | createApproval => exact createApproval_storeOk hs ho
  | resolveApproval => exact resolveApproval_storeOk hs rfl
  | _ => exact hs.of_eq (hw rfl) (ha rfl)

end AgentResilience
