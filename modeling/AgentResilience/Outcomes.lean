/-
  AgentResilience.Outcomes — which outcomes are final. A save never starts from a
  terminal checkpoint, so the one operation that leaves a terminal status is a replay.
  `replayDeadLetter` looks at its delivery's row and not at the workflow: a worker whose
  lease lapsed can dead-letter the delivery of a workflow another worker finished, and a
  replay then queues the finished workflow again (`finished_replayed`).

  `outcomes_final`: a finished workflow keeps its status in every run that replays no
  delivery of a finished workflow, and that condition is exact, step by step.
-/
import AgentResilience.ApprovalSafety

namespace AgentResilience

open Interaction

def SQLiteStore.statusOf (s : SQLiteStore) (taskId : String) : Option WorkflowStatus :=
  (s.workflows.get taskId).map (·.stateJson.status)

/-- The terminal outcomes other than dead-lettering. -/
def WorkflowStatus.finished : WorkflowStatus → Bool
  | completed | failed | loopStopped | humanRejected => true
  | _ => false

theorem finished_terminal {st : WorkflowStatus} (h : st.finished = true) : st.terminal = true := by
  cases st <;> first | rfl | cases h

theorem eq_deadLettered {st : WorkflowStatus} (ht : st.terminal = true) (hf : st.finished = false) :
    st = .deadLettered := by
  cases st <;> simp_all [WorkflowStatus.terminal, WorkflowStatus.finished]

/-- A replay of delivery `id` finds its row. -/
def ReplayHits (s : SQLiteStore) (id : Nat) (taskId : String) : Prop :=
  ∃ q, s.queue.get id = some q ∧ q.taskId = taskId ∧ q.status = .dead

theorem statusOf_some {s : SQLiteStore} {taskId : String} {st : WorkflowStatus} (h : s.statusOf taskId = some st) :
    ∃ row, s.workflows.get taskId = some row ∧ row.stateJson.status = st := by
  simpa [SQLiteStore.statusOf] using h

/-! ## One call -/

variable {d : LoopDetector} {A : Set Arguments} {s s' : SQLiteStore} {now : Timestamp} {taskId : String}
  {st : WorkflowStatus}

theorem save_status {state : WorkflowState} {v : Nat} {r : Except PyError WorkflowState}
    (h : s.saveWorkflow now state v = (r, s')) (ho : StoreObs d A (.saveWorkflow state v) s)
    (hst : s.statusOf taskId = some st) (ht : st.terminal = true) : s'.statusOf taskId = some st := by
  rcases SQLiteStore.saveWorkflow_cases h with ⟨row, hr, hv, -, hw, -⟩ | ⟨-, rfl, -⟩
  · by_cases e : taskId = state.taskId
    · subst e
      obtain ⟨row', hr', hs'⟩ := statusOf_some hst
      rw [hr] at hr'; cases hr'
      have := (ho row hr hv).not_terminal
      rw [hs', ht] at this; cases this
    · unfold SQLiteStore.statusOf; rw [hw, if_neg e]; exact hst
  · exact hst

theorem create_status {state : WorkflowState} {n : Nat} {r : Except PyError WorkflowState}
    (h : s.createWorkflow now state n = (r, s')) (hst : s.statusOf taskId = some st) : s'.statusOf taskId = some st := by
  rcases SQLiteStore.createWorkflow_cases h with ⟨-, -, rfl⟩ | ⟨hn, -, hw, -⟩
  · exact hst
  · obtain ⟨row, hr, -⟩ := statusOf_some hst
    have e : state.taskId ≠ taskId := by rintro rfl; rw [hn] at hr; cases hr
    unfold SQLiteStore.statusOf; rw [hw, if_neg e]; exact hst

/-- A replay that finds its row queues the workflow; any other leaves it alone. -/
theorem replay_status {id n : Nat} {t actor reason : String} {r : Option WorkflowState} (hs : StoreOk A s)
    (h : s.replayDeadLetter now id t n actor reason = (r, s')) (hst : s.statusOf taskId = some st) :
    s'.statusOf taskId = some st ∨ (t = taskId ∧ ReplayHits s id taskId) := by
  rcases SQLiteStore.replayDeadLetter_cases h with ⟨-, rfl⟩ | ⟨q, w, state, hq, hqt, hqs, hw, hstate, -, hws, -⟩
  · exact .inl hst
  · by_cases e : taskId = t
    · subst e; exact .inr ⟨rfl, q, hq, hqt, hqs⟩
    · left
      unfold SQLiteStore.statusOf
      rw [replay_workflow (hs.state _ _ hw).task hw hstate hws, if_neg e]; exact hst

theorem replay_hit_status {id n : Nat} {actor reason : String} {r : Option WorkflowState} (hs : StoreOk A s)
    (h : s.replayDeadLetter now id taskId n actor reason = (r, s')) (hhit : ReplayHits s id taskId)
    (hst : s.statusOf taskId = some st) : s'.statusOf taskId = some .queued := by
  rcases SQLiteStore.replayDeadLetter_cases h with ⟨rfl, -⟩ | ⟨q, w, state, -, -, -, hw, hstate, -, hws, -⟩
  · exfalso
    obtain ⟨q, hq, hqt, hqs⟩ := hhit
    obtain ⟨row, hrow, -⟩ := statusOf_some hst
    unfold SQLiteStore.replayDeadLetter at h
    have hk : q.id = id := Table.get_key hq
    split at h
    · rename_i hnone
      have := List.find?_eq_none.mp hnone q (Table.get_mem hq)
      simp [hk, hqt, hqs] at this
    · rename_i q' hfind
      have hq' := List.find?_some hfind
      simp only [decide_eq_true_eq] at hq'
      rw [hq'.2.1, hrow] at h
      cases h
  · unfold SQLiteStore.statusOf
    rw [replay_workflow (hs.state _ _ hw).task hw hstate hws, if_pos rfl, hstate]; rfl

/-- A store call leaves a terminal status alone unless it is a replay that finds its row. -/
theorem apply_status (hs : StoreOk A s) (c : StoreCall) (ho : StoreObs d A c s) (hst : s.statusOf taskId = some st)
    (ht : st.terminal = true) : (c.apply s now).2.statusOf taskId = some st ∨
      ∃ id n actor reason, c = .replayDeadLetter id taskId n actor reason ∧ ReplayHits s id taskId := by
  have hw := fun h : c.writesWorkflows = false => StoreCall.apply_workflows h s now
  cases c with
  | saveWorkflow => exact .inl (save_status rfl ho hst ht)
  | createWorkflow => exact .inl (create_status rfl hst)
  | replayDeadLetter id t n actor reason =>
    rcases replay_status hs (Eq.refl (s.replayDeadLetter now id t n actor reason)) hst with h | ⟨rfl, h⟩
    · exact .inl h
    · exact .inr ⟨id, n, actor, reason, rfl, h⟩
  | _ => left; unfold SQLiteStore.statusOf; rw [hw rfl]; exact hst

/-! ## Steps and runs -/

/-- The step replays a dead delivery of `taskId`. -/
def Replays (cfg cfg' : Cfg) (taskId : String) : Prop :=
  ∃ i id n actor reason r, cfg'.state.journal =
    .did i (.store (.replayDeadLetter id taskId n actor reason)) r :: cfg.state.journal ∧
    ReplayHits cfg.state.store id taskId

variable {rt : WorkflowRuntime} {config : Settings} {env : Env}

/-- A step leaves a terminal status alone unless it replays a dead delivery. -/
theorem step_terminal {cfg cfg' : Cfg}
    (h : Reachable { rt with engine := anyEngine, backend := anyBackend } config env cfg)
    (hs : Step (system { rt with engine := anyEngine, backend := anyBackend } config env) cfg cfg')
    (hst : cfg.state.store.statusOf taskId = some st) (ht : st.terminal = true) :
    cfg'.state.store.statusOf taskId = some st ∨ Replays cfg cfg' taskId := by
  have hcover := reachable_cover lawful_univ h
  cases hs with
  | enter _ he => obtain ⟨op, -, -, rfl⟩ := he; exact .inl hst
  | leave _ _ hl => obtain rfl := hl; exact .inl hst
  | crash _ hx => obtain ⟨-, rfl⟩ := hx; exact .inl hst
  | @call i c k r w' hp hx =>
    have ho := hcover.obs hp
    obtain ⟨t, s', -, -, he, rfl⟩ := hx
    cases c with
    | store c =>
      obtain rfl := congrArg Prod.snd he
      rcases apply_status hcover.1 c ho hst ht with h | ⟨id, n, actor, reason, rfl, hhit⟩
      · exact .inl h
      · exact .inr ⟨i, id, n, actor, reason, r, rfl, hhit⟩
    | clock | awaitHeartbeat => obtain ⟨-, rfl⟩ := he; exact .inl hst
    | _ => obtain rfl := he; exact .inl hst

/-- A step that replays a dead delivery queues its workflow. -/
theorem step_replays {cfg cfg' : Cfg}
    (h : Reachable { rt with engine := anyEngine, backend := anyBackend } config env cfg)
    (hs : Step (system { rt with engine := anyEngine, backend := anyBackend } config env) cfg cfg')
    (hr : Replays cfg cfg' taskId) (hst : cfg.state.store.statusOf taskId = some st) :
    cfg'.state.store.statusOf taskId = some .queued := by
  have hok := reachable_storeOk lawful_univ h
  obtain ⟨i, id, n, actor, reason, r, hj, hhit⟩ := hr
  cases hs with
  | enter _ he => obtain ⟨op, -, -, rfl⟩ := he; cases hj
  | leave _ _ hl => obtain rfl := hl; cases hj
  | crash _ hx => obtain ⟨-, rfl⟩ := hx; cases hj
  | call hp hx =>
    obtain ⟨t, s', -, -, he, rfl⟩ := hx
    cases hj
    obtain rfl := congrArg Prod.snd he
    exact replay_hit_status hok rfl hhit hst

/-- No replay of a dead delivery whose workflow is finished. -/
def Env.sparesFinished : Env where
  allows _ w c _ :=
    match c with
    | .store (.replayDeadLetter id taskId ..) => ReplayHits w.store id taskId →
        ∀ st, w.store.statusOf taskId = some st → st.finished = false
    | _ => True

theorem sparesFinished_step {cfg cfg' : Cfg} (hs : Step (system rt config .sparesFinished) cfg cfg')
    (hr : Replays cfg cfg' taskId) (hst : cfg.state.store.statusOf taskId = some st) : st.finished = false := by
  obtain ⟨i, id, n, actor, reason, r, hj, hhit⟩ := hr
  cases hs with
  | enter _ he => obtain ⟨op, -, -, rfl⟩ := he; cases hj
  | leave _ _ hl => obtain rfl := hl; cases hj
  | crash _ hx => obtain ⟨-, rfl⟩ := hx; cases hj
  | call hp hx =>
    obtain ⟨t, s', -, hal, he, rfl⟩ := hx
    cases hj
    exact hal hhit st hst

theorem outcomes_final (rt : WorkflowRuntime) (config : Settings) :
    (∀ cfg cfg', Reachable { rt with engine := anyEngine, backend := anyBackend } config .sparesFinished cfg →
      Run { rt with engine := anyEngine, backend := anyBackend } config .sparesFinished cfg cfg' →
      ∀ taskId st, cfg.state.store.statusOf taskId = some st → st.finished = true →
        cfg'.state.store.statusOf taskId = some st) ∧
    (∀ cfg cfg', Reachable { rt with engine := anyEngine, backend := anyBackend } config .sparesFinished cfg →
      Step (system { rt with engine := anyEngine, backend := anyBackend } config .sparesFinished) cfg cfg' →
      ∀ taskId st, cfg.state.store.statusOf taskId = some st → st.terminal = true →
        cfg'.state.store.statusOf taskId ≠ some st → st = .deadLettered ∧ Replays cfg cfg' taskId) ∧
    (∀ cfg cfg', Reachable { rt with engine := anyEngine, backend := anyBackend } config .free cfg →
      Step (system { rt with engine := anyEngine, backend := anyBackend } config .free) cfg cfg' →
      ((∀ taskId st, cfg.state.store.statusOf taskId = some st → st.finished = true →
          cfg'.state.store.statusOf taskId = some st) ↔
        ∀ taskId st, Replays cfg cfg' taskId → cfg.state.store.statusOf taskId = some st → st.finished = false)) := by
  refine ⟨fun cfg cfg' h hrun taskId st hst hf => ?_, fun cfg cfg' h hs taskId st hst ht hne => ?_,
    fun cfg cfg' h hs => ⟨fun hkept taskId st hr hst => ?_, fun hspare taskId st hst hf => ?_⟩⟩
  · induction hrun with
    | refl => exact hst
    | tail hrun hs ih =>
      rcases step_terminal (h.run hrun) hs ih (finished_terminal hf) with h' | hr
      · exact h'
      · rw [sparesFinished_step hs hr ih] at hf; cases hf
  · rcases step_terminal h hs hst ht with h' | hr
    · exact absurd h' hne
    · exact ⟨eq_deadLettered ht (sparesFinished_step hs hr hst), hr⟩
  · cases hf : st.finished with
    | false => rfl
    | true =>
      have hq := step_replays h hs hr hst
      rw [hkept taskId st hst hf] at hq
      cases hq; cases hf
  · rcases step_terminal h hs hst (finished_terminal hf) with h' | hr
    · exact h'
    · rw [hspare taskId st hr hst] at hf; cases hf

/-! ## A finished workflow, replayed -/

/-- A worker reads the checkpoint; its lease lapses, and a second worker completes the workflow. -/
def lapsedRun : List (Move ThreadId Operation Answer) :=
  createsIncident ++ begins 1 (.runOnce "w1") 2 ++ begins 2 (.runOnce "w2") 4 minuteLater ++
  decides 2 completeDecision minuteLater ++ continues 2 6 minuteLater ++ [.leave 2]

/-- The first worker's save fails, and it dead-letters the delivery. -/
def lapsedEnd : List (Move ThreadId Operation Answer) := continues 1 5 minuteLater ++ [.leave 1]

/-- The operator replays it. -/
def lapsedReplay : List (Move ThreadId Operation Answer) :=
  lapsedEnd ++ begins 3 (.replay 1 "t" "operator" "dependency restored") 1 minuteLater

def oneAttempt : Settings := { maxQueueAttempts := 1 }

def hasStatus (st : WorkflowStatus) (cfg : Cfg) : Bool := decide (cfg.state.store.statusOf "t" = some st)

theorem lapsedRun_plays : ((freePlayer {} oneAttempt).play ⟨World.init, fun _ => none⟩ lapsedRun).any (fun cfg =>
    hasStatus .completed cfg && ((freePlayer {} oneAttempt).play cfg lapsedReplay).any (hasStatus .queued)) = true := by
  decide +kernel

/-- A completed workflow is queued again. -/
theorem finished_replayed : ∃ cfg cfg', Reachable {} oneAttempt .free cfg ∧ Run {} oneAttempt .free cfg cfg' ∧
    cfg.state.store.statusOf "t" = some .completed ∧ cfg'.state.store.statusOf "t" = some .queued := by
  obtain ⟨cfg, h, hc⟩ := (freePlayer {} oneAttempt).play_exists lapsedRun_plays
  rw [Bool.and_eq_true] at hc
  obtain ⟨cfg', hrun, hc'⟩ := (freePlayer {} oneAttempt).play_continues hc.2
  exact ⟨cfg, cfg', h, hrun, of_decide_eq_true hc.1, of_decide_eq_true hc'⟩

/-- Schedules without replays. -/
def noReplay : Call → Bool
  | .store (.replayDeadLetter ..) => false
  | _ => true

theorem noReplay_spares {i : ThreadId} {w : World} {c : Call} {r : Except PyError c.Ret} (h : noReplay c = true) :
    Env.sparesFinished.allows i w c r := by
  cases c with
  | store c => cases c with
    | replayDeadLetter => cases h
    | _ => trivial
  | _ => trivial

def sparingPlayer : Simulator (system {} oneAttempt .sparesFinished) Operation Answer :=
  player {} oneAttempt .sparesFinished (fun _ _ c _ => noReplay c) (fun _ _ => true)
    (fun _ _ _ _ h => noReplay_spares h) (fun _ _ _ => trivial) (fun _ _ _ => trivial)

theorem lapsedEnd_plays : (sparingPlayer.play ⟨World.init, fun _ => none⟩ lapsedRun).any (fun cfg =>
    hasStatus .completed cfg && (sparingPlayer.play cfg lapsedEnd).any fun _ => true) = true := by
  decide +kernel

/-- The lapsed worker's end leaves the completed workflow alone. -/
theorem outcomes_final_lapsed : ∃ cfg cfg', Reachable {} oneAttempt .sparesFinished cfg ∧
    Run {} oneAttempt .sparesFinished cfg cfg' ∧ cfg'.state.store.statusOf "t" = some .completed := by
  obtain ⟨cfg, h, hc⟩ := sparingPlayer.play_exists lapsedEnd_plays
  rw [Bool.and_eq_true] at hc
  obtain ⟨cfg', hrun, -⟩ := sparingPlayer.play_continues hc.2
  exact ⟨cfg, cfg', h, hrun, (outcomes_final {} oneAttempt).1 cfg cfg' h hrun "t" .completed (of_decide_eq_true hc.1) rfl⟩

end AgentResilience
