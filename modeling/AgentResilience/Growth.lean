/-
  AgentResilience.Growth — what no operation takes back, whatever workers, operators and
  replays do to a store at the same time and wherever workers die.

  - `Grows`: what a checkpoint hands on to every later one of its workflow. `Change.grows`:
    each save's part of it.
  - `Archive`: the store's tables. `step_archive`: one step; `history_grows`: every run.
-/
import AgentResilience.Checkpoint
import AgentResilience.AuditLog
import AgentResilience.DrivenStep
import AgentResilience.Outcomes

namespace AgentResilience

open Interaction

variable {rt : WorkflowRuntime} {config : Settings} {env : Env} {det : LoopDetector} {A : Set Arguments} {cp st : WorkflowState}
  {s s' s'' : SQLiteStore} {t : Timestamp} {taskId : String}

/-! ## Checkpoints -/

/-- What a checkpoint hands on to a later one of its workflow. -/
structure Grows (old new : WorkflowState) : Prop where
  taskId : new.taskId = old.taskId
  goal : new.goal = old.goal
  scenarioId : new.scenarioId = old.scenarioId
  createdAt : new.createdAt = old.createdAt
  version : old.version ≤ new.version
  toolHistory : old.toolHistory <+: new.toolHistory
  progressHistory : old.progressHistory <+: new.progressHistory
  completedSteps : old.completedSteps <+: new.completedSteps
  evidence : old.evidence.keys <+: new.evidence.keys
  modelCalls : old.modelCalls ≤ new.modelCalls
  toolCalls : old.toolCalls ≤ new.toolCalls
  retries : old.retries ≤ new.retries
  inputTokens : old.inputTokens ≤ new.inputTokens
  outputTokens : old.outputTokens ≤ new.outputTokens
  diagnosis : truthy old.diagnosis = true → truthy new.diagnosis = true
  remediation : truthy old.remediation = true → truthy new.remediation = true
  finalAnswer : truthy old.finalAnswer = true → truthy new.finalAnswer = true
  /-- Only another decision replaces what was found. -/
  found : new.modelCalls = old.modelCalls →
    new.diagnosis = old.diagnosis ∧ new.remediation = old.remediation ∧ new.finalAnswer = old.finalAnswer

theorem Grows.refl (st : WorkflowState) : Grows st st :=
  ⟨rfl, rfl, rfl, rfl, le_rfl, List.prefix_rfl, List.prefix_rfl, List.prefix_rfl, List.prefix_rfl, le_rfl, le_rfl, le_rfl, le_rfl,
    le_rfl, id, id, id, fun _ => ⟨rfl, rfl, rfl⟩⟩

theorem Grows.trans {a b c : WorkflowState} (h : Grows a b) (h' : Grows b c) : Grows a c where
  taskId := h'.taskId.trans h.taskId
  goal := h'.goal.trans h.goal
  scenarioId := h'.scenarioId.trans h.scenarioId
  createdAt := h'.createdAt.trans h.createdAt
  version := h.version.trans h'.version
  toolHistory := h.toolHistory.trans h'.toolHistory
  progressHistory := h.progressHistory.trans h'.progressHistory
  completedSteps := h.completedSteps.trans h'.completedSteps
  evidence := h.evidence.trans h'.evidence
  modelCalls := h.modelCalls.trans h'.modelCalls
  toolCalls := h.toolCalls.trans h'.toolCalls
  retries := h.retries.trans h'.retries
  inputTokens := h.inputTokens.trans h'.inputTokens
  outputTokens := h.outputTokens.trans h'.outputTokens
  diagnosis := h'.diagnosis ∘ h.diagnosis
  remediation := h'.remediation ∘ h.remediation
  finalAnswer := h'.finalAnswer ∘ h.finalAnswer
  found e := by
    have hle := h.modelCalls
    have hle' := h'.modelCalls
    obtain ⟨hd, hr, ha⟩ := h.found (by omega)
    obtain ⟨hd', hr', ha'⟩ := h'.found (by omega)
    exact ⟨hd'.trans hd, hr'.trans hr, ha'.trans ha⟩

theorem Dict.keys_prefix_set {α : Type} (d : Dict α) (k : String) (v : α) : d.keys <+: (d.set k v).keys := by
  induction d with
  | nil => exact List.nil_prefix
  | cons x d ih =>
    by_cases e : x.1 = k
    · simp [Dict.set, Dict.keys, e]
    · simp only [Dict.set, e, if_false, Dict.keys, List.map_cons]
      exact List.cons_prefix_cons.mpr ⟨rfl, ih⟩

/-- A checkpoint with its status, error, step, pending action and retries changed. -/
theorem Grows.moved {status : WorkflowStatus} {lastError currentStep : Option String} {pendingAction : Option PendingAction}
    {retries : Nat} (h : Grows cp st) (hr : cp.retries ≤ retries) :
    Grows cp { st with status, lastError, currentStep, pendingAction, retries } :=
  ⟨h.taskId, h.goal, h.scenarioId, h.createdAt, h.version, h.toolHistory, h.progressHistory, h.completedSteps, h.evidence, h.modelCalls,
    h.toolCalls, hr, h.inputTokens, h.outputTokens, h.diagnosis, h.remediation, h.finalAnswer, h.found⟩

theorem Grows.stamped (h : Grows cp st) (t : Timestamp) : Grows cp { st with version := st.version + 1, updatedAt := t } :=
  ⟨h.taskId, h.goal, h.scenarioId, h.createdAt, h.version.trans (Nat.le_succ _), h.toolHistory, h.progressHistory, h.completedSteps,
    h.evidence, h.modelCalls, h.toolCalls, h.retries, h.inputTokens, h.outputTokens, h.diagnosis, h.remediation, h.finalAnswer, h.found⟩

open WorkflowRuntime in
/-- A decision's usage and findings. -/
theorem grows_absorb (cp : WorkflowState) (dec : AgentDecision) (u : Nat × Nat) : Grows cp (absorb cp dec u) where
  __ := Grows.refl cp
  modelCalls := Nat.le_succ _
  inputTokens := Nat.le_add_right ..
  outputTokens := Nat.le_add_right ..
  diagnosis h := by
    show truthy (if _ then _ else _) = true
    split <;> assumption
  remediation h := by
    show truthy (if _ then _ else _) = true
    split <;> assumption
  found e := absurd e (Nat.succ_ne_self _)

open WorkflowRuntime in
/-- A decision that completes the workflow answers. -/
theorem grows_completed (cp : WorkflowState) (dec : AgentDecision) (u : Nat × Nat) (h : dec.action = .complete) :
    Grows cp { absorb cp dec u with status := .completed, finalAnswer := dec.finalAnswer, currentStep := none } where
  __ := grows_absorb cp dec u
  finalAnswer _ := dec.answer_ok h
  found e := absurd e (Nat.succ_ne_self _)

open WorkflowRuntime in
theorem Grows.decided (h : Grows cp st) (tool : ToolName) : Grows cp (decided st tool) where
  __ := h
  toolHistory := h.toolHistory.trans (List.prefix_append ..)
  progressHistory := h.progressHistory.trans (List.prefix_append ..)

theorem grows_toolCompleted (cp : WorkflowState) (tool : ToolName) (result : Json) : Grows cp (toolCompleted cp tool result) where
  __ := Grows.refl cp
  progressHistory := List.prefix_append ..
  completedSteps := by
    show cp.completedSteps <+: if _ then _ else _
    split
    · exact List.prefix_rfl
    · exact List.prefix_append ..
  evidence := Dict.keys_prefix_set ..
  toolCalls := Nat.le_succ _

/-- Every save hands the checkpoint on. -/
theorem Change.grows (h : Change det A cp st) : Grows cp st := by
  cases h with
  | start | denied | paused | toolFailed | approved | rejected | deadLettered | failed => exact (Grows.refl cp).moved le_rfl
  | modelRetry | toolRetry => exact (Grows.refl cp).moved (Nat.le_succ _)
  | completed dec u _ _ hact => exact grows_completed cp dec u hact
  | declined dec u => exact (grows_absorb cp dec u).moved le_rfl
  | loopStopped dec u tool => exact ((grows_absorb cp dec u).decided tool).moved le_rfl
  | decided dec u tool => exact (grows_absorb cp dec u).decided tool
  | toolDone tool result => exact grows_toolCompleted cp tool result

theorem Written.grows (h : Written det (some cp) st) : Grows cp st := by
  cases h with
  | saved t hc => exact hc.grows.stamped t
  | replayed t => exact ((Grows.refl cp).stamped t).moved le_rfl

/-! ## The store -/

/-- What a store hands on to a later one. -/
structure Archive (s s' : SQLiteStore) : Prop where
  checkpoint : ∀ taskId st, s.stored taskId = some st → ∃ st', s'.stored taskId = some st' ∧ Grows st st'
  ledger : ∀ key row, s.toolResults.get key = some row → s'.toolResults.get key = some row
  approval : ∀ key row, s.approvals.get key = some row → ∃ row', s'.approvals.get key = some row' ∧ (row.status ≠ .pending → row' = row)
  log : s.events <+: s'.events
  delivery : ∀ id row, s.queue.get id = some row → ∃ row', s'.queue.get id = some row' ∧ row'.taskId = row.taskId

theorem Archive.refl (s : SQLiteStore) : Archive s s :=
  ⟨fun _ st h => ⟨st, h, .refl st⟩, fun _ _ h => h, fun _ row h => ⟨row, h, fun _ => rfl⟩, List.prefix_rfl, fun _ row h => ⟨row, h, rfl⟩⟩

theorem Archive.trans (h : Archive s s') (h' : Archive s' s'') : Archive s s'' := by
  refine ⟨fun taskId st hst => ?_, fun key row hr => h'.ledger key row (h.ledger key row hr), fun key row hr => ?_, h.log.trans h'.log,
    fun id row hr => ?_⟩
  · obtain ⟨st₁, hst₁, hg⟩ := h.checkpoint taskId st hst
    obtain ⟨st₂, hst₂, hg'⟩ := h'.checkpoint taskId st₁ hst₁
    exact ⟨st₂, hst₂, hg.trans hg'⟩
  · obtain ⟨row₁, hr₁, he₁⟩ := h.approval key row hr
    obtain ⟨row₂, hr₂, he₂⟩ := h'.approval key row₁ hr₁
    refine ⟨row₂, hr₂, fun hne => ?_⟩
    obtain rfl := he₁ hne
    exact he₂ hne
  · obtain ⟨row₁, hr₁, ht₁⟩ := h.delivery id row hr
    obtain ⟨row₂, hr₂, ht₂⟩ := h'.delivery id row₁ hr₁
    exact ⟨row₂, hr₂, ht₂.trans ht₁⟩

/-! ## The log -/

/-- The log's ids count on, and its times are in order and not ahead of the clock. -/
structure Chronicle (w : World) : Prop where
  ids : w.store.events.Pairwise fun a b => a.id < b.id
  times : w.store.events.Pairwise fun a b => a.createdAt ≤ b.createdAt
  past : ∀ e ∈ w.store.events, e.createdAt ≤ w.now

/-- A call adds one record at most. -/
theorem apply_records (c : StoreCall) (s : SQLiteStore) (now : Timestamp) : (c.apply s now).2.events = s.events ∨
    ∃ taskId e payload, (c.apply s now).2.events = (s.recordEvent now taskId e payload).events := by
  by_cases hm : (Call.store c).mute = true
  · exact .inl (StoreCall.apply_events hm s now)
  · cases c with
    | createWorkflow st n =>
      simp only [StoreCall.apply, SQLiteStore.createWorkflow]
      split
      · exact .inl rfl
      · exact .inr ⟨_, _, _, rfl⟩
    | saveWorkflow st v =>
      simp only [StoreCall.apply, SQLiteStore.saveWorkflow]
      split <;> exact .inl rfl
    | replayDeadLetter =>
      simp only [StoreCall.apply, SQLiteStore.replayDeadLetter]
      split
      · exact .inl rfl
      · split
        · exact .inl rfl
        · exact .inr ⟨_, _, _, rfl⟩
    | recordEvent => exact .inr ⟨_, _, _, rfl⟩
    | _ => exact absurd rfl hm

theorem Chronicle.later {w w' : World} (h : Chronicle w) (he : w'.store.events = w.store.events) (ht : w.now ≤ w'.now) : Chronicle w' :=
  ⟨he ▸ h.ids, he ▸ h.times, fun e hmem => (h.past e (he ▸ hmem)).trans ht⟩

/-- An event recorded now. -/
theorem Chronicle.record {w : World} (h : Chronicle w) {t : Timestamp} (ht : w.now ≤ t) (taskId : String) (e : EventType) (payload : Json)
    (s' : SQLiteStore) (hs : s'.events = (w.store.recordEvent t taskId e payload).events) (journal : List Entry) :
    Chronicle ⟨s', t, journal⟩ := by
  have hevents : s'.events = w.store.events ++ [⟨(w.store.events.getLast?.map (·.id)).getD 0 + 1, taskId, e, payload, t⟩] := hs
  refine ⟨?_, ?_, ?_⟩ <;> rw [hevents]
  · rw [List.pairwise_append]
    refine ⟨h.ids, List.pairwise_singleton .., fun a ha b hb => ?_⟩
    rw [List.mem_singleton.mp hb]
    cases hlast : w.store.events.getLast? with
    | none =>
      rw [List.getLast?_eq_none_iff.mp hlast] at ha
      cases ha
    | some last =>
      obtain ⟨front, hfront⟩ := List.getLast?_eq_some_iff.mp hlast
      have hle : a.id ≤ last.id := by
        have hids := h.ids
        rw [hfront] at hids ha
        rcases List.mem_append.mp ha with ha | ha
        · exact ((List.pairwise_append.mp hids).2.2 a ha last (List.mem_singleton_self _)).le
        · rw [List.mem_singleton.mp ha]
      exact Nat.lt_succ_of_le hle
  · rw [List.pairwise_append]
    refine ⟨h.times, List.pairwise_singleton .., fun a ha b hb => ?_⟩
    rw [List.mem_singleton.mp hb]
    exact (h.past a ha).trans ht
  · intro x hx
    rcases List.mem_append.mp hx with hx | hx
    · exact (h.past x hx).trans ht
    · rw [List.mem_singleton.mp hx]

theorem calls_chronicle {i : ThreadId} {c : Call} {r : Except PyError c.Ret} {w w' : World} (hs : calls env i c w r w') (h : Chronicle w) :
    Chronicle w' := by
  obtain ⟨t, s', ht, -, he, rfl⟩ := hs
  have hkeep : s' = w.store → Chronicle ⟨s', t, .did i c r :: w.journal⟩ := fun e => h.later (congrArg SQLiteStore.events e) ht
  cases c with
  | store c =>
    obtain rfl := congrArg Prod.snd he
    rcases apply_records c w.store t with hsame | ⟨taskId, e, payload, hnew⟩
    · exact h.later hsame ht
    · exact h.record ht taskId e payload _ hnew _
  | clock | awaitHeartbeat => exact hkeep he.2
  | _ => exact hkeep he

/-! ## Runs -/

theorem effect_row_kept {c : Call} {r : Except PyError c.Ret} {w : World} (h : Effect c w.store t r s') {id : Nat} {row : QueueRow}
    (hr : w.store.queue.get id = some row) : ∃ row', s'.queue.get id = some row' ∧ row'.taskId = row.taskId := by
  rcases effect_row h id with ⟨x, x', hx, hx', ht, -⟩ | ⟨hnone, -⟩
  · rw [hr] at hx
    cases hx
    exact ⟨x', hx', ht⟩
  · rw [hr] at hnone
    cases hnone

theorem effect_log {c : Call} {r : Except PyError c.Ret} {w : World} (h : Effect c w.store t r s') : w.store.events <+: s'.events := by
  cases c with
  | store c =>
    obtain rfl := congrArg Prod.snd h
    rcases apply_records c w.store t with hsame | ⟨taskId, e, payload, hnew⟩
    · exact hsame ▸ List.prefix_rfl
    · exact hnew ▸ List.prefix_append ..
  | clock | awaitHeartbeat =>
    obtain ⟨-, rfl⟩ := h
    exact List.prefix_rfl
  | _ =>
    obtain rfl := h
    exact List.prefix_rfl

theorem step_archive {cfg cfg' : Cfg} (h : Reachable { rt with engine := anyEngine, backend := anyBackend } config env cfg)
    (hs : Step (system { rt with engine := anyEngine, backend := anyBackend } config env) cfg cfg') :
    Archive cfg.state.store cfg'.state.store := by
  have hlater := step_later (reachable_storeOk lawful_univ h) hs
  refine ⟨fun taskId st hst => ?_, hlater.ledger, fun key row hr => ?_, ?_, ?_⟩
  · rcases step_written h hs taskId with hsame | ⟨st', hst', hw⟩
    · exact ⟨st, hsame.trans hst, .refl st⟩
    · rw [hst] at hw
      exact ⟨st', hst', hw.grows⟩
  · obtain ⟨row', hr'⟩ := hlater.approval key row hr
    refine ⟨row', hr', fun hne => ?_⟩
    rw [hlater.resolved key row hr hne] at hr'
    exact (Option.some.inj hr').symm
  · cases hs with
    | enter _ he => obtain ⟨op, -, -, rfl⟩ := he; exact List.prefix_rfl
    | leave _ _ hl => obtain rfl := hl; exact List.prefix_rfl
    | crash _ hx => obtain ⟨-, rfl⟩ := hx; exact List.prefix_rfl
    | call _ hx =>
      obtain ⟨t, s', -, -, he, rfl⟩ := hx
      exact effect_log he
  · intro id row hr
    cases hs with
    | enter _ he => obtain ⟨op, -, -, rfl⟩ := he; exact ⟨row, hr, rfl⟩
    | leave _ _ hl => obtain rfl := hl; exact ⟨row, hr, rfl⟩
    | crash _ hx => obtain ⟨-, rfl⟩ := hx; exact ⟨row, hr, rfl⟩
    | call _ hx =>
      obtain ⟨t, s', -, -, he, rfl⟩ := hx
      exact effect_row_kept he hr

theorem reachable_chronicle {cfg : Cfg} (h : Reachable rt config env cfg) : Chronicle cfg.state := by
  refine reachable_world ⟨.nil, .nil, nofun⟩ (fun w e hw _ => ⟨hw.ids, hw.times, hw.past⟩) (fun _ _ _ _ _ _ _ hw _ hs => ?_) h
  exact calls_chronicle hs hw

/-- Whatever workers, operators and replays do at the same time, and wherever workers die: no checkpoint loses
    what it had, no result, resolved approval or delivery goes, and the audit log is only added to, its
    ids and times in order. -/
theorem history_grows (rt : WorkflowRuntime) (config : Settings) {env : Env} {cfg cfg' : Cfg}
    (h : Reachable { rt with engine := anyEngine, backend := anyBackend } config env cfg)
    (hr : Run { rt with engine := anyEngine, backend := anyBackend } config env cfg cfg') :
    Archive cfg.state.store cfg'.state.store ∧ Chronicle cfg'.state := by
  refine ⟨?_, reachable_chronicle (h.run hr)⟩
  induction hr with
  | refl => exact .refl _
  | tail hr hs ih => exact ih.trans (step_archive (h.run hr) hs)

/-- A workflow completed by a worker whose lease had lapsed, and queued again by a replay. -/
theorem history_grows_replayed : ∃ cfg cfg' st st', Reachable {} oneAttempt .free cfg ∧ Run {} oneAttempt .free cfg cfg' ∧
    cfg.state.store.stored "t" = some st ∧ st.status = .completed ∧ cfg'.state.store.stored "t" = some st' ∧ st'.status = .queued ∧
    Grows st st' := by
  obtain ⟨cfg, h, hc⟩ := (freePlayer {} oneAttempt).play_exists lapsedRun_plays
  rw [Bool.and_eq_true] at hc
  obtain ⟨cfg', hrun, hc'⟩ := (freePlayer {} oneAttempt).play_continues hc.2
  obtain ⟨row, hrow, hcompleted⟩ := Option.map_eq_some_iff.mp (of_decide_eq_true hc.1)
  obtain ⟨row', hrow', hqueued⟩ := Option.map_eq_some_iff.mp (of_decide_eq_true hc')
  have hst : cfg.state.store.stored "t" = some row.stateJson := stored_some.mpr ⟨row, hrow, rfl⟩
  have hst' : cfg'.state.store.stored "t" = some row'.stateJson := stored_some.mpr ⟨row', hrow', rfl⟩
  obtain ⟨st₁, hst₁, hgrows⟩ := (history_grows {} oneAttempt h hrun).1.checkpoint "t" _ hst
  rw [hst'] at hst₁
  cases hst₁
  exact ⟨cfg, cfg', _, _, h, hrun, hst, hcompleted, hst', hqueued, hgrows⟩

end AgentResilience
