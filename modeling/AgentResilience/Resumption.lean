/-
  AgentResilience.Resumption — a replayed dead letter under the deterministic engine. The
  replay takes the queue's row and the status back; the histories of the failed attempts stay
  in the checkpoint, and the loop detector reads them at the next decision.

  - `Recorded`: a result in the ledger is in its workflow's evidence, when nobody dies.
  - `replay_resumes_iff`: the replayed workflow gets past the failed tool if and only if the
    detector stays silent about one more decision for it. `replay_stopped`: after three failed
    readings of the alert it does not.
-/
import AgentResilience.Attempts
import AgentResilience.ModelFailures

namespace AgentResilience

open Interaction
open WorkflowState (content)

variable {rt : WorkflowRuntime} {config : Settings} {env : Env} {w w' w₁ w₂ w₃ : World} {taskId : String} {cp st : WorkflowState}
  {tool : ToolName} {arguments : Arguments} {m m' : Memory} {o : Except PyError WorkflowState} {d : QueueDelivery}
  {D : WorkflowState → Except PyError AgentDecision → Prop} {U : Except PyError (Nat × Nat) → Prop}

/-! ## What the ledger has -/

/-- A turn from `cp` to `st` drops no evidence, and what it adds to the ledger is in the evidence. -/
structure Logs (m m' : Memory) (cp st : WorkflowState) : Prop where
  evidence : ∀ k, cp.evidence.contains k = true → st.evidence.contains k = true
  ledger : ∀ key row, m'.ledger.get key = some row → m.ledger.get key = some row ∨
    ∃ tool arguments, key = actionId cp.taskId tool arguments ∧ st.evidence.contains tool.value = true

theorem Logs.same (he : st.evidence = cp.evidence) (hl : m'.ledger = m.ledger) : Logs m m' cp st :=
  ⟨fun k hk => by rw [he]; exact hk, fun key row hr => .inl (by rw [← hl]; exact hr)⟩

/-- The ledger after a tool's run. -/
theorem Gateway.ledger {g : Except PyError (Json × Bool)} (h : Gateway env m st tool arguments g m') :
    m'.ledger = m.ledger ∨ (∃ x, g = .ok x) ∧ ∀ key row, m'.ledger.get key = some row → m.ledger.get key = some row ∨
      ∃ validated, key = actionId st.taskId tool validated := by
  cases h with
  | @fresh validated _ result t =>
    refine .inr ⟨⟨_, rfl⟩, fun key row hr => ?_⟩
    by_cases e : key = actionId st.taskId tool validated
    · exact .inr ⟨validated, e⟩
    · refine .inl ?_
      have hr : (m.ledger.insertOrIgnore ⟨actionId st.taskId tool validated, st.taskId, tool.value, argumentsHash validated, result, t⟩).get
          key = some row := hr
      rw [Table.get_insertOrIgnore, if_neg (Ne.symm e)] at hr
      exact hr
  | _ => exact .inl rfl

theorem Ran.logs (h : Ran env m cp tool arguments o st m') : Logs m m' cp st := by
  have hraised : ∀ {e : PyError} {st' : WorkflowState}, Gateway env m cp tool arguments (.error e) m' → st'.evidence = cp.evidence →
      Logs m m' cp st' := by
    intro e st' hg he
    rcases hg.ledger with hl | ⟨⟨x, hx⟩, -⟩
    · exact .same he hl
    · cases hx
  cases h with
  | @done result cached _ hg =>
    have hcontains : ∀ k, (toolCompleted cp tool result).evidence.contains k = (decide (k = tool.value) || cp.evidence.contains k) :=
      fun k => Dict.contains_set cp.evidence tool.value result k
    refine ⟨fun k hk => by rw [hcontains, hk, Bool.or_true], fun key row hr => ?_⟩
    rcases hg.ledger with hl | ⟨-, hl⟩
    · exact .inl (by rw [← hl]; exact hr)
    · rcases hl key row hr with h | ⟨validated, h⟩
      · exact .inl h
      · exact .inr ⟨tool, validated, h, by rw [hcontains]; simp⟩
  | retried hg => exact hraised hg rfl
  | failed hg => exact hraised hg rfl
  | raised hg => exact hraised hg rfl

theorem Acted.logs {dec : AgentDecision} (h : Acted rt env m cp dec o st m') : Logs m m' cp st := by
  cases h with
  | completed _ e | looped _ _ _ e | denied _ _ _ _ _ e | paused _ _ _ _ _ _ _ e => rw [e]; exact .same rfl rfl
  | declined => exact .same rfl rfl
  | ran _ _ _ _ _ _ hr => exact ⟨hr.logs.evidence, hr.logs.ledger⟩

theorem Turn.logs (h : Turn rt env D U m cp o st m') : Logs m m' cp st := by
  cases h with
  | idle | unapproved | undecided | unanswered | unmetered => exact .same rfl rfl
  | resumed _ _ _ hr => exact hr.logs
  | acted _ _ _ _ ha => exact ⟨ha.logs.evidence, ha.logs.ledger⟩

/-- What the ledger has of a task's tool is in the task's evidence. -/
def Recorded (w : World) : Prop :=
  ∀ T tool arguments row, w.store.toolResults.get (actionId T tool arguments) = some row →
    ∃ cp, w.store.stored T = some cp ∧ cp.evidence.contains tool.value = true

theorem Recorded.steered (h : Recorded w) (hs : Steered w w') : Recorded w' := by
  intro T tool arguments row hr
  rw [hs.ledger] at hr
  obtain ⟨cp, hcp, he⟩ := h T tool arguments row hr
  rcases hs.stored T with e | ⟨hnone, -⟩ | ⟨cp', st, hcp', hst, hsteers⟩
  · exact ⟨cp, e.trans hcp, he⟩
  · rw [hnone] at hcp
    cases hcp
  · rw [hcp] at hcp'
    cases hcp'
    refine ⟨st, hst, ?_⟩
    cases hsteers with
    | moved _ _ e | cleared _ _ e => rwa [show st.evidence = cp.evidence from congrArg (·.evidence) e]

/-- The ledger has nothing of a tool whose evidence is missing. -/
theorem Recorded.missing (h : Recorded w) (hcp : w.store.stored taskId = some cp) (hno : cp.evidence.contains tool.value = false)
    (arguments : Arguments) : w.store.toolResults.get (actionId taskId tool arguments) = none := by
  cases hrow : w.store.toolResults.get (actionId taskId tool arguments) with
  | none => rfl
  | some row =>
    obtain ⟨c, hc, hev⟩ := h taskId tool arguments row hrow
    rw [hcp] at hc
    cases hc
    rw [hno] at hev
    cases hev

theorem endedBy_evidence (st : WorkflowState) (status : WorkflowStatus) (error : String) :
    (st.endedBy status error).evidence = st.evidence ∧ (st.endedBy status error).completedSteps = st.completedSteps := by
  unfold WorkflowState.endedBy
  split <;> exact ⟨rfl, rfl⟩

theorem Recorded.tookTurn (h : Recorded w) (ht : TookTurn rt env D U d cp o st w w') : Recorded w' := by
  intro T tool arguments row hr
  obtain ⟨cp', hcp', hleft⟩ := ht.left
  have hevidence : cp'.evidence = st.evidence := by
    rcases hleft with e | ⟨status, error, e⟩
    · exact congrArg (·.evidence) e
    · exact (congrArg (·.evidence) e).trans (endedBy_evidence st status error).1
  obtain ⟨hkept, hledger⟩ := ht.turn.logs
  rcases hledger _ row hr with hr | ⟨tool', arguments', hkey, he⟩
  · obtain ⟨c, hc, hce⟩ := h T tool arguments row hr
    by_cases e : T = d.taskId
    · subst e
      rw [ht.stored] at hc
      cases hc
      exact ⟨cp', hcp', by rw [hevidence]; exact hkept _ hce⟩
    · exact ⟨c, (ht.others T e).trans hc, hce⟩
  · have hT : T = cp.taskId := actionId_task hkey
    subst hT
    obtain ⟨rfl, -⟩ := actionId_inj hkey
    exact ⟨cp', by rw [ht.task]; exact hcp', by rw [hevidence]; exact he⟩

theorem Recorded.operation (he : rt.engine = anyEngine) (hb : rt.backend = anyBackend) (hs : Standing w.store) (h : Recorded w)
    {op : Operation} {reply : Except PyError Reply} (hr : Runs (calls env 0) (op.program rt config) w reply w') : Recorded w' := by
  by_cases hop : ∃ workerId, op = .runOnce workerId
  · obtain ⟨workerId, rfl⟩ := hop
    rcases (hs.served hb (by rw [he]; exact anyEngine_spec) hr).outcome hs with hun | ⟨d, cp, o, st, htook⟩
    · intro T tool arguments row hrow
      rw [show w'.store.toolResults = w.store.toolResults from congrArg (·.ledger) hun.memory] at hrow
      obtain ⟨cp, hcp, he⟩ := h T tool arguments row hrow
      exact ⟨cp, (hun.stored T).trans hcp, he⟩
    · exact h.tookTurn htook
  · exact h.steered (wp_sound (operation_steered hs.level.filed fun workerId e => hop ⟨workerId, e⟩) hr)

theorem Sequence.recorded (he : rt.engine = anyEngine) (hb : rt.backend = anyBackend) (hdies : ∀ w, ¬ env.dies 0 w)
    (h : Sequence rt config env w) : Recorded w := by
  induction h with
  | init => exact fun _ _ _ _ hr => by cases hr
  | @ran w w' op o hseq _ hr ih =>
    have hstanding : Standing w.store := hseq.standing he hb hdies
    have h' : Recorded w' := Recorded.operation he hb (by exact hstanding) (by exact ih) hr
    exact h'
  | died _ _ _ hd => exact absurd hd (hdies _)

/-! ## The deterministic engine -/

/-- What the deterministic engine answers. -/
def Decides : (c : Call) → Except PyError c.Ret → Prop
  | .decide st, r => r = DeterministicDecisionEngine.decide st
  | .takeUsage, r => r = .ok (0, 0)
  | _, _ => True

/-- Sequences without deaths, under the deterministic engine. -/
def Env.deterministic : Env where
  allows _ _ c r := Decides c r
  dies _ _ := False

/-- Also, the backend answers every call of `tool` for the task with a result. -/
def Env.succeeding (taskId : String) (tool : ToolName) : Env where
  allows _ _ c r := Decides c r ∧
    match c, r with
    | .execute st tool' .., r => st.taskId = taskId → tool' = tool → ∃ result : Json, r = .ok result ∧ result.nonEmptyObj = true
    | _, _ => True
  dies _ _ := False

open DeterministicDecisionEngine in
/-- The engine asks only for evidence that is missing, and for the restart. -/
theorem decide_missing {dec : AgentDecision} (h : DeterministicDecisionEngine.decide st = .ok dec) (haction : dec.action = .useTool)
    (htool : dec.tool = some tool) :
    tool ≠ .deleteDatabase ∧ (tool ≠ .restartService → st.evidence.contains tool.value = false) := by
  unfold DeterministicDecisionEngine.decide at h
  split at h
  · rename_i x hx
    have hmissing : st.evidence.contains x.1.value = false := by simpa using List.find?_some hx
    have hmem := List.mem_of_find?_eq_some hx
    cases h
    simp only [DeterministicDecisionEngine.sequence, List.mem_cons, List.not_mem_nil, or_false] at hmem
    rcases hmem with rfl | rfl | rfl | rfl <;> cases htool <;> exact ⟨by decide, fun _ => hmissing⟩
  · split at h
    · cases h
      cases htool
      exact ⟨by decide, fun hne => absurd rfl hne⟩
    · split at h
      · rename_i hnone
        cases h
        cases htool
        exact ⟨by decide, fun _ => Option.isSome_eq_false_iff.mpr (Option.isNone_iff_eq_none.mpr hnone)⟩
      · rename_i verification hv
        cases hr : errorRate verification with
        | error e => rw [hr] at h; cases h
        | ok rate =>
          rw [hr] at h
          cases hrec : recovered rate with
          | error e => simp only [bind, Except.bind, hrec] at h; cases h
          | ok b =>
            simp only [bind, Except.bind, hrec] at h
            cases h
            cases b <;> cases haction

/-! ## Dead letters and their replay -/

/-- A worker's run called the task's tool, the call failed for another try, and the run left the
    workflow dead-lettered, with the checkpoint `cp`. -/
def DeadLetteredBy (rt : WorkflowRuntime) (config : Settings) (tool : ToolName) (taskId : String) (cp : WorkflowState) : Prop :=
  ∃ w w' workerId o e, Sequence rt config .deterministic w ∧
    Runs (calls .deterministic 0) ((Operation.runOnce workerId).program rt config) (w.note (.began 0 (.runOnce workerId))) o w' ∧
    w'.memory.executed = (taskId, tool, .error e) :: w.memory.executed ∧ e.isRetryable = true ∧
    w'.store.stored taskId = some cp ∧ cp.status = .deadLettered

/-- The workflow got past the tool: the backend was called for it and answered, and the answer is its evidence. -/
def Past (tool : ToolName) (taskId : String) (w w' : World) : Prop :=
  ∃ st result, w'.store.stored taskId = some st ∧ w'.memory.executed = (taskId, tool, .ok result) :: w.memory.executed ∧
    st.evidence.get? tool.value = some result ∧ tool.value ∈ st.completedSteps ∧ st.status = .queued

/-- What a dead-lettered decision leaves to decide again. -/
structure Undone (tool : ToolName) (cp : WorkflowState) : Prop where
  idle : cp.pendingAction = none
  decides : ∃ dec, DeterministicDecisionEngine.decide cp = .ok dec ∧ dec.action = .useTool ∧ dec.tool = some tool

theorem Undone.congr (h : Undone tool cp) (hp : st.pendingAction = cp.pendingAction) (he : st.evidence = cp.evidence)
    (hc : st.completedSteps = cp.completedSteps) : Undone tool st := by
  refine ⟨hp.trans h.idle, ?_⟩
  unfold DeterministicDecisionEngine.decide
  rw [he, hc]
  exact h.decides

/-- The tool of a run is the one called. -/
theorem Ran.called {tool' : ToolName} {T : String} {r : Except PyError Json} (h : Ran env m cp tool arguments o st m')
    (hx : m'.executed = (T, tool', r) :: m.executed) : T = cp.taskId ∧ tool' = tool := by
  obtain ⟨⟨x, hx', hdid⟩, -⟩ := h.did
  cases hdid with
  | nothing e => rw [e] at hx; simp at hx
  | tool tool'' r' e =>
    rw [e] at hx
    obtain ⟨rfl, rfl, -⟩ : cp.taskId = T ∧ tool'' = tool' ∧ r' = r := by simpa using hx
    rcases hx' with hx' | hx' <;> cases hx'
    exact ⟨rfl, rfl⟩

/-- A run whose call failed keeps the evidence. -/
theorem Ran.failed_evidence {tool' : ToolName} {T : String} {e : PyError} (h : Ran env m cp tool arguments o st m')
    (hx : m'.executed = (T, tool', .error e) :: m.executed) :
    st.evidence = cp.evidence ∧ st.completedSteps = cp.completedSteps ∧ st.pendingAction = cp.pendingAction := by
  cases h with
  | done hg =>
    cases hg with
    | cached => simp at hx
    | fresh => simp [Memory.ran, Memory.keeps] at hx
  | retried | failed | raised => exact ⟨rfl, rfl, rfl⟩

/-- A turn whose call of a tool without approval failed leaves the tool to be decided again. -/
theorem Turn.undone (hD : ∀ st r, D st r → r = DeterministicDecisionEngine.decide st) (htool : tool ≠ .restartService)
    (hpending : ∀ p, cp.pendingAction = some p → p.tool = .restartService) {T : String} {e : PyError}
    (h : Turn rt env D U m cp o st m') (hx : m'.executed = (T, tool, .error e) :: m.executed) : T = cp.taskId ∧ Undone tool st := by
  cases h with
  | idle | unapproved | undecided | unanswered | unmetered => simp at hx
  | resumed _ hp _ hr => exact absurd ((hr.called hx).2.trans (hpending _ hp)) htool
  | @acted dec u _ _ _ _ hnone hd _ ha =>
    cases ha with
    | completed | declined | looped | denied => simp at hx
    | paused => simp [Memory.asks] at hx
    | ran haction htool' _ _ _ _ hr =>
      obtain ⟨hT, rfl⟩ := hr.called hx
      obtain ⟨he, hc, hp⟩ := hr.failed_evidence hx
      have hdec : Undone tool cp := ⟨hnone, dec, (hD _ _ hd).symm, haction, htool'⟩
      exact ⟨hT, hdec.congr hp he hc⟩

theorem deterministic_decides {st : WorkflowState} {r : Except PyError AgentDecision}
    (h : ∃ w st', st'.content = st ∧ Env.deterministic.allows 0 w (.decide st') r) : r = DeterministicDecisionEngine.decide st := by
  obtain ⟨_, st', rfl, hr⟩ := h
  exact hr

/-- A dead-lettered workflow whose tool failed has the tool still to be decided. -/
theorem DeadLetteredBy.undone (he : rt.engine = anyEngine) (hb : rt.backend = anyBackend) (htool : tool ≠ .restartService)
    (h : DeadLetteredBy rt config tool taskId cp) : Undone tool cp := by
  obtain ⟨w, w', workerId, o, e, hseq, hr, hx, -, hcp, -⟩ := h
  have hstanding : Standing w.store := hseq.standing he hb fun _ hd => hd
  have hx : w'.memory.executed = (taskId, tool, .error e) :: (w.note (.began 0 (.runOnce workerId))).memory.executed := hx
  rcases (Standing.served hb (by rw [he]; exact anyEngine_spec) (by exact hstanding) hr).outcome (by exact hstanding) with
    hun | ⟨d, cp₀, out, st, htook⟩
  · rw [hun.memory] at hx
    simp at hx
  · have hpending : ∀ p, cp₀.content.pendingAction = some p → p.tool = .restartService := by
      intro p hp
      obtain ⟨row, hrow, rfl⟩ := stored_some.mp htook.stored
      exact ((hstanding.rest.store.state _ row hrow).pending p hp).restart.1
    obtain ⟨hT, hundone⟩ := htook.turn.undone (fun _ _ => deterministic_decides) htool hpending hx
    obtain rfl : taskId = d.taskId := hT.trans htook.task
    obtain ⟨cp', hcp', hleft⟩ := htook.left
    rw [hcp] at hcp'
    cases hcp'
    rcases hleft with e | ⟨status, error, e⟩
    · exact hundone.congr (congrArg (·.pendingAction) e) (congrArg (·.evidence) e) (congrArg (·.completedSteps) e)
    · obtain ⟨hev, hc⟩ := endedBy_evidence st status error
      exact hundone.congr ((congrArg (·.pendingAction) e).trans (endedBy_kept st status error).2)
        ((congrArg (·.evidence) e).trans hev) ((congrArg (·.completedSteps) e).trans hc)

/-- The histories with one more decision for the tool. -/
def oneMore (rt : WorkflowRuntime) (cp : WorkflowState) (tool : ToolName) : Option String :=
  rt.loopDetector.reason (cp.toolHistory ++ [tool.value]) (cp.progressHistory ++ [progressFingerprint cp.evidence])

/-- An allowed tool whose result the ledger does not have is called. -/
theorem Gateway.calls {validated : Arguments} {policy : PolicyDecision} {g : Except PyError (Json × Bool)}
    (htool : tool ≠ .deleteDatabase) (hval : validateAndDecide tool arguments = .ok (validated, policy))
    (hnone : ∀ arguments, m.ledger.get (actionId cp.taskId tool arguments) = none) (h : Gateway env m cp tool arguments g m') :
    ∃ r, Executes env m cp tool validated r ∧ m'.executed = (cp.taskId, tool, r) :: m.executed ∧ g = accepts tool r := by
  cases h with
  | invalid hv => rw [hval] at hv; cases hv
  | denied hv hp =>
    obtain ⟨-, rfl⟩ := validateAndDecide_ok hv
    rw [evaluate_allowed.mpr htool] at hp
    cases hp
  | reused _ hrow | cached _ hrow =>
    rw [hnone] at hrow
    cases hrow
  | refused hv _ hx ha =>
    rw [hval] at hv
    cases hv
    exact ⟨_, hx, rfl, ha.symm⟩
  | fresh hv _ hx hfull =>
    rw [hval] at hv
    cases hv
    exact ⟨_, hx, rfl, by simp [accepts, hfull]⟩

/-- A turn without a pending action acts on the engine's decision. -/
theorem Turn.acts (hD : ∀ st r, D st r → r = DeterministicDecisionEngine.decide st) (hU : ∀ r, U r → r = .ok (0, 0)) {dec : AgentDecision}
    (hidle : cp.pendingAction = none) (hdec : DeterministicDecisionEngine.decide cp = .ok dec) (hact : cp.status.active = true)
    (h : Turn rt env D U m cp o st m') : ∃ u, Acted rt env m (WorkflowRuntime.absorb cp.started dec u) dec o st m' := by
  have hdecided : ∀ {r : Except PyError AgentDecision}, D cp.started r → r = .ok dec := fun hd => (hD _ _ hd).trans hdec
  cases h with
  | idle hstop => rw [hact] at hstop; cases hstop
  | unapproved _ hp | resumed _ hp => rw [hidle] at hp; cases hp
  | undecided _ _ hd | unanswered _ _ hd => cases hdecided hd
  | unmetered _ _ _ hu => cases hU _ hu
  | acted _ _ hd _ ha =>
    cases hdecided hd
    exact ⟨_, ha⟩

/-- A decision for a tool without approval is stopped by the detector, or runs the tool. -/
theorem Acted.request {dec : AgentDecision} (haction : dec.action = .useTool) (htool : dec.tool = some tool) (hdelete : tool ≠ .deleteDatabase)
    (hrestart : tool ≠ .restartService) (h : Acted rt env m cp dec o st m') :
    (∃ reason, rt.loopDetector.reason (WorkflowRuntime.decided cp tool).toolHistory (WorkflowRuntime.decided cp tool).progressHistory = some reason ∧
      o = .ok st ∧ st.status = .loopStopped) ∨
    (rt.loopDetector.reason (WorkflowRuntime.decided cp tool).toolHistory (WorkflowRuntime.decided cp tool).progressHistory = none ∧
      ∃ validated policy, validateAndDecide tool validated = .ok (validated, policy) ∧
        Ran env m (WorkflowRuntime.decided cp tool) tool validated o st m') := by
  cases h with
  | completed hother | declined hother => rw [haction] at hother; cases hother
  | looped _ ht hreason e =>
    rw [htool] at ht
    cases ht
    exact .inl ⟨_, hreason, rfl, congrArg (·.status) e⟩
  | denied _ ht _ hv hp =>
    rw [htool] at ht
    cases ht
    obtain ⟨-, rfl⟩ := validateAndDecide_ok hv
    rw [evaluate_allowed.mpr hdelete] at hp
    cases hp
  | paused _ ht _ hv _ hp =>
    rw [htool] at ht
    cases ht
    obtain ⟨hvalid, rfl⟩ := validateAndDecide_ok hv
    exact absurd ((approvalRequired_iff hvalid).mp hp).1 hrestart
  | ran _ ht hreason hv _ _ hr =>
    rw [htool] at ht
    cases ht
    exact .inr ⟨hreason, _, _, validateAndDecide_idem (validateAndDecide_ok hv).1, hr⟩

/-- A turn over an undone tool that now succeeds: the detector stops it, or it is done. -/
theorem Turn.succeeds (hD : ∀ st r, D st r → r = DeterministicDecisionEngine.decide st) (hU : ∀ r, U r → r = .ok (0, 0))
    (htool : tool ≠ .restartService) (hundone : Undone tool cp) (hact : cp.status.active = true)
    (hnone : ∀ arguments, m.ledger.get (actionId cp.taskId tool arguments) = none)
    (h : Turn rt (.succeeding cp.taskId tool) D U m cp o st m') :
    (oneMore rt cp tool ≠ none ∧ o = .ok st ∧ st.status = .loopStopped) ∨
      (oneMore rt cp tool = none ∧ o = .ok st ∧ ∃ result, m'.executed = (cp.taskId, tool, .ok result) :: m.executed ∧
        st.evidence.get? tool.value = some result ∧ tool.value ∈ st.completedSteps ∧ st.status = .queued) := by
  obtain ⟨hidle, dec, hdec, haction, htool'⟩ := hundone
  obtain ⟨hdelete, -⟩ := decide_missing hdec haction htool'
  obtain ⟨u, ha⟩ := h.acts hD hU hidle hdec hact
  rcases ha.request haction htool' hdelete htool with ⟨reason, hreason, ho, hstatus⟩ | ⟨hreason, validated, policy, hv, hr⟩
  · have hreason : oneMore rt cp tool = some reason := hreason
    exact .inl ⟨by rw [hreason]; simp, ho, hstatus⟩
  have hcalls : ∀ {g : Except PyError (Json × Bool)},
      Gateway (.succeeding cp.taskId tool) m (WorkflowRuntime.decided (WorkflowRuntime.absorb cp.started dec u) tool) tool validated g m' →
      ∃ result, g = .ok (result, false) ∧ m'.executed = (cp.taskId, tool, .ok result) :: m.executed := by
    intro g hg
    obtain ⟨r, ⟨_, st', _, hst', -, -, hallow⟩, hx, rfl⟩ := hg.calls hdelete hv (by exact hnone)
    obtain ⟨result, rfl, hfull⟩ := hallow (congrArg (·.taskId) hst') rfl
    exact ⟨result, by simp [accepts, hfull], hx⟩
  refine .inr ⟨hreason, ?_⟩
  cases hr with
  | @done result _ _ hg =>
    obtain ⟨_, hres, hx⟩ := hcalls hg
    cases hres
    refine ⟨rfl, result, hx, ?_, ?_, rfl⟩
    · show ((WorkflowRuntime.decided (WorkflowRuntime.absorb cp.started dec u) tool).evidence.set tool.value result).get? tool.value = some result
      rw [Dict.get?_set, if_pos rfl]
    · show tool.value ∈ if tool.value ∈ cp.completedSteps then cp.completedSteps else cp.completedSteps ++ [tool.value]
      split
      · assumption
      · simp
  | retried hg | failed hg | raised hg =>
    obtain ⟨result, hres, -⟩ := hcalls hg
    cases hres

theorem succeeding_decides {T : String} {st : WorkflowState} {r : Except PyError AgentDecision}
    (h : ∃ w st', st'.content = st ∧ (Env.succeeding T tool).allows 0 w (.decide st') r) : r = DeterministicDecisionEngine.decide st := by
  obtain ⟨_, st', rfl, hr, -⟩ := h
  exact hr

theorem succeeding_usage {T : String} {r : Except PyError (Nat × Nat)} (h : ∃ w, (Env.succeeding T tool).allows 0 w .takeUsage r) :
    r = .ok (0, 0) := by
  obtain ⟨_, hr, -⟩ := h
  exact hr

/-- One delivery of a workflow with an undone tool that now succeeds. -/
theorem Undone.delivered (he : rt.engine = anyEngine) (hb : rt.backend = anyBackend) (htool : tool ≠ .restartService)
    (hundone : Undone tool cp) (hs : Standing w.store) (hrec : Recorded w) (hcp : w.store.stored taskId = some cp)
    (hact : cp.status.active = true) {workerId : String} {reply : Except PyError Reply}
    (hr : Runs (calls (.succeeding taskId tool) 0) ((Operation.runOnce workerId).program rt config) w reply w')
    (hclaim : claims taskId w'.memory = claims taskId w.memory + 1) : Past tool taskId w w' ↔ oneMore rt cp tool = none := by
  obtain ⟨t, -, -, ⟨s, -, -, -, -, hm, -⟩ | ⟨d, s, cp', -, hcp', o, st, m', cp'', s₂, t₂, hturn, hsettled, hserving⟩⟩ :=
    hs.served hb (he ▸ anyEngine_spec) hr
  · rw [hm] at hclaim
    omega
  have hd : d.taskId = taskId := by
    by_contra hne
    have hsame : claims taskId w'.memory = claims taskId w.memory := by
      rw [hserving.memory]
      unfold claims
      rw [hturn.claimed]
      exact List.countP_cons_of_neg (by simpa using hne)
    omega
  subst hd
  rw [hcp] at hcp'
  cases hcp'
  obtain ⟨-, -, -, htask⟩ := hs.level.filed.version hcp
  obtain ⟨dec, hdec, haction, htool'⟩ := hundone.decides
  have hnone : ∀ arguments, (w.memory.takes d).ledger.get (actionId d.taskId tool arguments) = none :=
    hrec.missing hcp ((decide_missing hdec haction htool').2 htool)
  have hcontent : cp.content.taskId = d.taskId := htask
  have hundone' : Undone tool cp.content := hundone.congr rfl rfl rfl
  rw [← hcontent] at hturn hnone
  have hturn := hturn.succeeds (fun _ _ => succeeding_decides) (fun _ => succeeding_usage) htool hundone' hact hnone
  rw [hcontent] at hturn
  have hleft : ∀ out, o = .ok out → cp''.content = st := by
    rintro out rfl
    cases hsettled with
    | acknowledged | requeued => rfl
  have hstored : w'.store.stored d.taskId = some cp'' := hserving.stored
  rcases hturn with ⟨hreason, ho, hstatus⟩ | ⟨hreason, ho, result, hx, hev, hdone, hstatus⟩
  · have hst := hleft st ho
    refine iff_of_false (fun hpast => ?_) hreason
    obtain ⟨st', _, hst', -, -, -, hqueued⟩ := hpast
    rw [hstored] at hst'
    cases hst'
    rw [← hst] at hstatus
    have hstatus : cp''.status = .loopStopped := hstatus
    rw [hqueued] at hstatus
    cases hstatus
  · have hst := hleft st ho
    rw [← hst] at hev hdone hstatus
    refine iff_of_true ⟨cp'', result, hstored, ?_, hev, hdone, hstatus⟩ hreason
    rw [hserving.memory]
    exact hx

/-- A dead-lettered workflow whose tool kept failing, replayed: the next delivery, in which the
    tool succeeds, gets past it if and only if the loop detector is silent about the histories of
    the failed attempts with one more decision for the tool. -/
theorem replay_resumes_iff (rt : WorkflowRuntime) (config : Settings) (htool : tool ≠ .restartService)
    (hdead : DeadLetteredBy { rt with engine := anyEngine, backend := anyBackend } config tool taskId cp)
    (h : Sequence { rt with engine := anyEngine, backend := anyBackend } config .deterministic w)
    (hcp : w.store.stored taskId = some cp) {deliveryId : Nat} {actor reason : String} {reply : Reply}
    (hreplay : Runs (calls .deterministic 0)
      ((Operation.replay deliveryId taskId actor reason).program { rt with engine := anyEngine, backend := anyBackend } config)
      (w.note (.began 0 (.replay deliveryId taskId actor reason))) (.ok reply) w₁)
    (h₂ : Sequence { rt with engine := anyEngine, backend := anyBackend } config .deterministic w₂)
    (hkept : w₂.store.stored taskId = w₁.store.stored taskId) {workerId : String} {out : Except PyError Reply}
    (hrun : Runs (calls (.succeeding taskId tool) 0)
      ((Operation.runOnce workerId).program { rt with engine := anyEngine, backend := anyBackend } config)
      (w₂.note (.began 0 (.runOnce workerId))) out w₃)
    (hclaim : claims taskId w₃.memory = claims taskId w₂.memory + 1) :
    Past tool taskId w₂ w₃ ↔
      rt.loopDetector.reason (cp.toolHistory ++ [tool.value]) (cp.progressHistory ++ [progressFingerprint cp.evidence]) = none := by
  have hstanding : Standing w.store := h.standing rfl rfl fun _ hd => hd
  have hstanding₂ : Standing w₂.store := h₂.standing rfl rfl fun _ hd => hd
  have hrecorded : Recorded w₂ := h₂.recorded rfl rfl fun _ hd => hd
  have hundone := hdead.undone rfl rfl htool
  obtain ⟨t, hst, -⟩ := replay_requeues (by exact hstanding) (by exact hcp) hreplay
  have hundone' : Undone tool { cp with status := .queued, lastError := none, version := cp.version + 1, updatedAt := t } :=
    hundone.congr rfl rfl rfl
  have hcp₂ := hkept.trans hst
  have hdelivered := hundone'.delivered rfl rfl htool (by exact hstanding₂) (by exact hrecorded) (by exact hcp₂) rfl hrun hclaim
  exact hdelivered

/-! ## The alert, read again after its dead letter -/

def sameDecision (dec dec' : AgentDecision) : Bool :=
  decide (dec.action = dec'.action ∧ dec.rationale = dec'.rationale ∧ dec.tool = dec'.tool ∧
    dec.arguments.service = dec'.arguments.service ∧ dec.arguments.environment = dec'.arguments.environment ∧
    dec.arguments.dependency = dec'.arguments.dependency ∧ dec.diagnosis = dec'.diagnosis ∧ dec.remediation = dec'.remediation ∧
    dec.finalAnswer = dec'.finalAnswer)

theorem sameDecision_eq {dec dec' : AgentDecision} (h : sameDecision dec dec' = true) : dec = dec' := by
  obtain ⟨action, rationale, tool, ⟨service, environment, dependency, _, _, _⟩, diagnosis, remediation, finalAnswer, _, _, _, _⟩ := dec
  obtain ⟨_, _, _, ⟨_, _, _, _, _, _⟩, _, _, _, _, _, _, _⟩ := dec'
  obtain ⟨rfl, rfl, rfl, rfl, rfl, rfl, rfl, rfl, rfl⟩ := of_decide_eq_true h
  rfl

/-- The engine's decision, no usage, and results where the backend is called with `calls`. -/
def asDecided (succeeds : Bool) (c : Call) (r : Except PyError c.Ret) : Bool :=
  match c, r with
  | .decide st, .ok dec => (DeterministicDecisionEngine.decide st).toOption.any (sameDecision dec)
  | .decide _, .error _ => false
  | .takeUsage, .ok u => decide (u = (0, 0))
  | .takeUsage, .error _ => false
  | .execute .., .ok result => !succeeds || result.nonEmptyObj
  | .execute .., .error _ => !succeeds
  | _, _ => true

theorem asDecided_sound {b : Bool} {c : Call} {r : Except PyError c.Ret} (h : asDecided b c r = true) : Decides c r := by
  cases c with
  | decide st =>
    cases r with
    | error e => cases h
    | ok dec =>
      show Except.ok dec = _
      have h : (DeterministicDecisionEngine.decide st).toOption.any (sameDecision dec) = true := h
      cases hd : DeterministicDecisionEngine.decide st with
      | error e => rw [hd] at h; cases h
      | ok dec' =>
        rw [hd] at h
        rw [sameDecision_eq h]
  | takeUsage =>
    cases r with
    | error e => cases h
    | ok u => exact congrArg Except.ok (of_decide_eq_true h)
  | _ => trivial

theorem asDecided_deterministic (w : World) (c : Call) (r : Except PyError c.Ret) (h : asDecided false c r = true) :
    Env.deterministic.allows 0 w c r := asDecided_sound h

theorem asDecided_succeeding (w : World) (c : Call) (r : Except PyError c.Ret) (h : asDecided true c r = true) :
    (Env.succeeding taskId tool).allows 0 w c r := by
  refine ⟨asDecided_sound h, ?_⟩
  cases c with
  | execute st tool' =>
    cases r with
    | error e => cases h
    | ok result => exact fun _ _ => ⟨result, rfl, h⟩
  | _ => trivial

def alertRequest : AgentDecision := DeterministicDecisionEngine.request .readAlert "collect read_alert evidence" none rfl

/-- A delivery that reads the alert: `n` calls follow the backend's answer. -/
def readsAlertAct (answer : Except PyError Json) (n : Nat) : Act :=
  ⟨.runOnce "w1", deciding alertRequest ++ unasked 2 ++ [.result 0 answer] ++ unasked n, false⟩

def replayAct : Act := ⟨.replay 1 "t" "operator" "the backend is back", unasked 1, false⟩

/-- Retries at once, at most `n` attempts. -/
def attempting (n : Nat) : Settings := { maxQueueAttempts := n, queueRetryBaseSeconds := .finite 0 }

/-- The worlds before and after the reading that dead-letters the incident, after its replay, and after
    the next delivery. -/
def replayed (n : Nat) (next : Act) : Option (World × World × World × World) := do
  let w ← Sequence.play {} (attempting n) (fun _ => asDecided false) (fun _ => false)
    (createsAct :: List.replicate (n - 1) (readsAlertAct (timedOut .readAlert) 5)) World.init
  let w' ← Sequence.act {} (attempting n) (fun _ => asDecided false) (fun _ => false) (readsAlertAct (timedOut .readAlert) 8) w
  let w₁ ← Sequence.act {} (attempting n) (fun _ => asDecided false) (fun _ => false) replayAct w'
  let w₃ ← Sequence.act {} (attempting n) (fun _ => asDecided true) (fun _ => false) next w₁
  return (w, w', w₁, w₃)

/-- The last call of the backend was for the task's alert, and failed for another try. -/
def failedLast (w w' : World) : Bool :=
  match w'.attempts with
  | a :: rest => rest.length = w.attempts.length && a.state.taskId = "t" && a.tool = .readAlert &&
      match a.answer with | .error e => e.isRetryable | .ok _ => false
  | [] => false

def answered (w : World) : Bool :=
  match w.journal with
  | .ended _ (.ok _) :: _ => true
  | _ => false

/-- The incident was dead-lettered and replayed, and its next delivery left it with the status. -/
def replayedTo (status : WorkflowStatus) : World × World × World × World → Bool
  | (w, w', w₁, w₃) => failedLast w w' && statusIs w' .deadLettered && answered w₁ &&
      claims "t" w₃.memory = claims "t" w₁.memory + 1 && statusIs w₃ status

theorem statusIs_stored {status : WorkflowStatus} (h : statusIs w status = true) :
    ∃ st, w.store.stored "t" = some st ∧ st.status = status := by
  obtain ⟨row, hrow, hstatus⟩ := Option.any_eq_true _ _ |>.mp h
  exact ⟨row.stateJson, stored_some.mpr ⟨row, hrow, rfl⟩, of_decide_eq_true hstatus⟩

/-- The call of a worker's run that fails last. -/
theorem failedLast_executed (h : failedLast w w' = true) (ht : TriesStored w w') :
    ∃ e, w'.memory.executed = ("t", .readAlert, .error e) :: w.memory.executed ∧ e.isRetryable = true := by
  unfold failedLast at h
  split at h
  · rename_i a rest hcons
    simp only [Bool.and_eq_true, decide_eq_true_eq] at h
    obtain ⟨⟨⟨hlen, htask⟩, htool⟩, hanswer⟩ := h
    have hrest : rest = w.attempts := by
      rcases ht with e | ⟨_, _, _, e | ⟨b, e, -⟩⟩
      · rw [hcons] at e
        have := congrArg List.length e
        rw [List.length_cons] at this
        omega
      · rw [hcons] at e
        have := congrArg List.length e
        rw [List.length_cons] at this
        omega
      · rw [hcons] at e
        exact (List.cons.inj e).2
    split at hanswer
    · rename_i e he
      refine ⟨e, ?_, hanswer⟩
      rw [executed_attempts, executed_attempts, hcons, hrest, List.map_cons, Attempt.executed, htask, htool, he]
    · cases hanswer
  · cases h

/-- What the written run goes through. -/
theorem replayed_runs {n : Nat} {workerId : String} {xs : List Answer} {status : WorkflowStatus} {x : World × World × World × World}
    (h : replayed n ⟨.runOnce workerId, xs, false⟩ = some x) (hto : replayedTo status x = true) :
    ∃ cp w w₁ reply out w₃, DeadLetteredBy {} (attempting n) .readAlert "t" cp ∧ Sequence {} (attempting n) .deterministic w ∧
      w.store.stored "t" = some cp ∧
      Runs (calls .deterministic 0) ((Operation.replay 1 "t" "operator" "the backend is back").program {} (attempting n))
        (w.note (.began 0 (.replay 1 "t" "operator" "the backend is back"))) (.ok reply) w₁ ∧
      Sequence {} (attempting n) .deterministic (w₁.note (.ended 0 (.ok reply))) ∧
      Runs (calls (.succeeding "t" .readAlert) 0) ((Operation.runOnce workerId).program {} (attempting n))
        ((w₁.note (.ended 0 (.ok reply))).note (.began 0 (.runOnce workerId))) out w₃ ∧
      claims "t" w₃.memory = claims "t" w₁.memory + 1 ∧ (∃ st, w₃.store.stored "t" = some st ∧ st.status = status) ∧
      x.2.1.store.stored "t" = some cp := by
  obtain ⟨w, hw, h⟩ := Option.bind_eq_some_iff.mp h
  obtain ⟨w', hw', h⟩ := Option.bind_eq_some_iff.mp h
  obtain ⟨w₁, hw₁, h⟩ := Option.bind_eq_some_iff.mp h
  obtain ⟨w₃, hw₃, h⟩ := Option.bind_eq_some_iff.mp h
  cases h
  simp only [replayedTo, Bool.and_eq_true, decide_eq_true_eq] at hto
  obtain ⟨⟨⟨⟨hfailed, hdead⟩, hanswered⟩, hclaim⟩, hstatus⟩ := hto
  have hseq : Sequence {} (attempting n) .deterministic w :=
    Sequence.play_sound asDecided_deterministic (fun _ h => by cases h) (fun _ _ _ => trivial) .init hw
  obtain ⟨out, v, hr, rfl⟩ := Sequence.act_runs asDecided_deterministic rfl hw'
  obtain ⟨out₁, v₁, hr₁, rfl⟩ := Sequence.act_runs asDecided_deterministic rfl hw₁
  obtain ⟨out₃, v₃, hr₃, rfl⟩ := Sequence.act_runs asDecided_succeeding rfl hw₃
  obtain ⟨reply, rfl⟩ : ∃ reply, out₁ = .ok reply := by
    cases out₁ with
    | error e => cases hanswered
    | ok reply => exact ⟨reply, rfl⟩
  have hr : Runs (calls .deterministic 0) ((Operation.runOnce "w1").program {} (attempting n)) (w.note (.began 0 (.runOnce "w1"))) out v := hr
  have htries : TriesStored (w.note (.began 0 (.runOnce "w1"))) v := wp_sound (wp_reply (runOnce_tries rfl rfl "w1")) hr
  obtain ⟨e, hx, hretry⟩ := failedLast_executed hfailed htries
  obtain ⟨cp, hcp, hcpdead⟩ := statusIs_stored hdead
  have hseq' := hseq.ran trivial hr
  exact ⟨cp, _, v₁, reply, out₃, v₃, ⟨w, v, "w1", out, e, hseq, hr, hx, hretry, hcp, hcpdead⟩, hseq', hcp, hr₁, hseq'.ran trivial hr₁,
    hr₃, hclaim, statusIs_stored hstatus, hcp⟩

/-- The detector is silent about the dead-lettered incident's next decision. -/
def silentNext : World × World × World × World → Bool
  | (_, w', _, _) => (w'.store.stored "t").any fun cp => (oneMore {} cp .readAlert).isNone

theorem replayed_past : (replayed 1 (readsAlertAct (.ok alertRead) 7)).any (fun x => replayedTo .queued x && silentNext x) = true := by
  decide +kernel

/-- The incident's only attempt to read the alert failed; replayed, it gets past it. -/
theorem replay_resumes_once : ∃ (cp : WorkflowState) (w w₂ w₃ : World), DeadLetteredBy {} (attempting 1) .readAlert "t" cp ∧ w.store.stored "t" = some cp ∧
    Sequence {} (attempting 1) .deterministic w₂ ∧ Past .readAlert "t" w₂ w₃ := by
  obtain ⟨x, hx, hto⟩ := Option.any_eq_true _ _ |>.mp replayed_past
  obtain ⟨hto, hsilent⟩ := Bool.and_eq_true _ _ ▸ hto
  obtain ⟨cp, w, w₁, reply, out, w₃, hdead, h, hcp, hreplay, h₂, hrun, hclaim, -, hx⟩ := replayed_runs hx hto
  have hsilent : (x.2.1.store.stored "t").any (fun cp => (oneMore {} cp .readAlert).isNone) = true := hsilent
  rw [hx] at hsilent
  exact ⟨cp, w, _, w₃, hdead, hcp, h₂, (replay_resumes_iff {} (attempting 1) (by decide) hdead h hcp hreplay h₂ rfl hrun hclaim).mpr
    (Option.isNone_iff_eq_none.mp hsilent)⟩

theorem replayed_stopped : (replayed 3 ⟨.runOnce "w1", deciding alertRequest ++ unasked 5, false⟩).any (replayedTo .loopStopped) = true := by
  decide +kernel

/-- After three readings of the alert that failed, the replayed workflow is stopped as a loop. -/
theorem replay_stopped : ∃ cp w w₁ reply out w₃, DeadLetteredBy {} (attempting 3) .readAlert "t" cp ∧
    Sequence {} (attempting 3) .deterministic w ∧ w.store.stored "t" = some cp ∧
    Runs (calls .deterministic 0) ((Operation.replay 1 "t" "operator" "the backend is back").program {} (attempting 3))
      (w.note (.began 0 (.replay 1 "t" "operator" "the backend is back"))) (.ok reply) w₁ ∧
    Runs (calls (.succeeding "t" .readAlert) 0) ((Operation.runOnce "w1").program {} (attempting 3))
      ((w₁.note (.ended 0 (.ok reply))).note (.began 0 (.runOnce "w1"))) out w₃ ∧
    claims "t" w₃.memory = claims "t" w₁.memory + 1 ∧ ¬ Past .readAlert "t" w₁ w₃ := by
  obtain ⟨x, hx, hto⟩ := Option.any_eq_true _ _ |>.mp replayed_stopped
  obtain ⟨cp, w, w₁, reply, out, w₃, hdead, h, hcp, hreplay, -, hrun, hclaim, ⟨st, hst, hstatus⟩, -⟩ :=
    replayed_runs hx hto
  refine ⟨cp, w, w₁, reply, out, w₃, hdead, h, hcp, hreplay, hrun, hclaim, fun hpast => ?_⟩
  obtain ⟨st', _, hst', -, -, -, hqueued⟩ := hpast
  rw [hst] at hst'
  cases hst'
  rw [hqueued] at hstatus
  cases hstatus

end AgentResilience
