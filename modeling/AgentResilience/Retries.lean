/-
  AgentResilience.Retries — an incident under the deterministic engine during an outage of one
  tool. `Outage.Follows`: where its workflow is, between operations.

  - `retries_not_loops`: while the loop detector is silent, the workflow gets past the tool,
    or is dead-lettered after as many deliveries of a row as it has attempts.
  - `retries_looped`: it is not silent about a fourth reading of the alert.
-/
import AgentResilience.Outages

namespace AgentResilience

open Interaction
open WorkflowState (content)

variable {rt : WorkflowRuntime} {config : Settings} {f : Outage} {N : Nat} {w w' : World} {taskId : String} {cp st : WorkflowState}
  {tool : ToolName} {done : List ToolName} {m m' : Memory} {o : Except PyError WorkflowState} {d : QueueDelivery}
  {D : WorkflowState → Except PyError AgentDecision → Prop} {U : Except PyError (Nat × Nat) → Prop}

/-! ## Where a workflow is -/

/-- The deliveries until the tools are done; the restart is asked for in one and runs in the next. -/
def Outage.before (f : Outage) (done : List ToolName) : Nat :=
  (done.map fun tool => if tool = .restartService then 2 else f.decisions tool).sum

/-- The tools are done, the task had `n` more deliveries, and the failing tool was called `called` times in them. -/
structure Outage.Came (f : Outage) (N : Nat) (taskId : String) (done : List ToolName) (n called : Nat) (w : World) : Prop where
  survived : f.tool ∈ done → f.failures < N
  claims : claims taskId w.memory = f.before done + n
  called : calledFor taskId f.tool w.memory = (if f.tool ∈ done then f.failures + 1 else 0) + called

/-- The tools before the restart. -/
def beforeRestart : List ToolName := [.readAlert, .inspectMetrics, .queryLogs, .dependencyHealth]

/-- Where the task's workflow is, between operations. -/
inductive Outage.Follows (f : Outage) (N : Nat) (taskId : String) (w : World) : Prop
  | unknown : w.store.stored taskId = none → claims taskId w.memory = 0 → calledFor taskId f.tool w.memory = 0 → f.Follows N taskId w
  | going {done : List ToolName} {tool : ToolName} {n : Nat} {cp : WorkflowState} : w.store.stored taskId = some cp → f.At done tool n cp →
      n < f.tries N tool → cp.status.active = true → cp.pendingAction = none → HasRow taskId .pending n N w.store →
      f.Came N taskId done n n w → f.Follows N taskId w
  | asked {cp : WorkflowState} : w.store.stored taskId = some cp → f.At beforeRestart .restartService 1 cp →
      cp.status = .waitingForApproval → Closed taskId w.store → f.Came N taskId beforeRestart 1 0 w → f.Follows N taskId w
  | approved {cp : WorkflowState} {p : PendingAction} : w.store.stored taskId = some cp → f.At beforeRestart .restartService 1 cp →
      cp.status.active = true → cp.pendingAction = some p → HasRow taskId .pending 0 N w.store →
      f.Came N taskId beforeRestart 1 0 w → f.Follows N taskId w
  | buried {done : List ToolName} {cp : WorkflowState} : w.store.stored taskId = some cp → (done, f.tool) ∈ stages → N ≤ f.failures →
      cp.status = .deadLettered → HasRow taskId .dead N N w.store → f.Came N taskId done N N w → f.Follows N taskId w
  | past {cp : WorkflowState} : w.store.stored taskId = some cp → f.failures < N → cp.trail = f.trail steps → cp.pendingAction = none →
      cp.status ≠ .loopStopped → cp.status ≠ .deadLettered → f.Follows N taskId w

namespace Outage

theorem Came.undisturbed {n called : Nat} (h : f.Came N taskId done n called w) (hu : Undisturbed taskId w w') :
    f.Came N taskId done n called w' :=
  ⟨h.survived, hu.claims.trans h.claims, (hu.called _).trans h.called⟩

theorem Follows.undisturbed (h : f.Follows N taskId w) (hu : Undisturbed taskId w w') : f.Follows N taskId w' := by
  have hrow : ∀ {status : QueueStatus} {n : Nat}, HasRow taskId status n N w.store → HasRow taskId status n N w'.store := by
    rintro status n ⟨id, row, hr, ht, h⟩
    exact ⟨id, row, (hu.rows id row ht).mpr hr, ht, h⟩
  cases h with
  | unknown hst hclaims hcalled => exact .unknown (hu.stored.trans hst) (hu.claims.trans hclaims) ((hu.called _).trans hcalled)
  | going hst hat hn hact hidle hr hcame => exact .going (hu.stored.trans hst) hat hn hact hidle (hrow hr) (hcame.undisturbed hu)
  | asked hst hat hwait hclosed hcame =>
    exact .asked (hu.stored.trans hst) hat hwait (fun id row hr ht => hclosed id row ((hu.rows id row ht).mp hr) ht) (hcame.undisturbed hu)
  | approved hst hat hact hp hr hcame => exact .approved (hu.stored.trans hst) hat hact hp (hrow hr) (hcame.undisturbed hu)
  | buried hst hstage hle hdead hr hcame => exact .buried (hu.stored.trans hst) hstage hle hdead (hrow hr) (hcame.undisturbed hu)
  | past hst hlt htrail hidle hloop hdead => exact .past (hu.stored.trans hst) hlt htrail hidle hloop hdead

end Outage

/-! ## Operators -/

namespace Outage

theorem Follows.created {env : Env} (hN : config.maxQueueAttempts = N) (hpos : 1 ≤ N) (hf : Filed w.store) (h : f.Follows N taskId w)
    (T goal scenarioId : String) :
    wp (calls env 0) (createIncident config T goal scenarioId) (fun _ w' => f.Follows N taskId w') w := by
  refine wp_mono (createIncident_serving hf T goal scenarioId) fun _ w' hcases => ?_
  rcases hcases with hi | ⟨st, t, hnone, hcreated, -, hserving⟩
  · exact h.undisturbed (hi.undisturbed taskId)
  rw [hN] at hserving
  by_cases e : taskId = T
  · subst e
    obtain ⟨hqueued, hsteps, hev, htools, hprogress, hp, -, -⟩ := hcreated
    have hqueued : st.status = .queued := hqueued
    cases h with
    | unknown _ hclaims hcalled =>
      have htrail : WorkflowState.trail st.content = {} := by
        unfold WorkflowState.trail
        rw [hev, hsteps, htools, hprogress]
      have hat : f.At [] .readAlert 0 st := ⟨by decide, htrail⟩
      refine .going hserving.stored hat ?_ (by rw [hqueued]; rfl) hp ((hasRow_inserted ..).congr hserving.queue) ⟨by simp, ?_, ?_⟩
      · unfold tries
        split <;> omega
      · rw [hserving.memory]
        exact hclaims
      · rw [hserving.memory]
        simpa using hcalled
    | going hst | asked hst | approved hst | buried hst | past hst => rw [hnone] at hst; cases hst
  · exact h.undisturbed (undisturbed_queued rfl e hserving rfl rfl)

theorem Follows.granted {env : Env} (hN : config.maxQueueAttempts = N) (hs : Standing w.store) (hpaused : Paused w) (h : f.Follows N taskId w)
    (T actor : String) (reason : Option String) : wp (calls env 0) (approve config T actor reason) (fun _ w' => f.Follows N taskId w') w := by
  refine wp_mono (approve_serving hs.level.filed T actor reason fun id row hr ht ⟨st, hst, hwait⟩ =>
    .inl (hpaused T st hst hwait id row hr ht)) fun _ w' hcases => ?_
  rcases hcases with ⟨hi, -⟩ | ⟨cp, p, st, t, t', hcp, hwait, hp, -, hst, -, hserving⟩
  · exact h.undisturbed (hi.undisturbed taskId)
  rw [hN] at hserving
  by_cases e : taskId = T
  · subst e
    have hact : st.status.active = true := by
      have : st.status = .queued := congrArg (·.status) hst
      rw [this]; rfl
    cases h with
    | asked hcp' hat _ _ hcame =>
      rw [hcp] at hcp'
      cases hcp'
      refine .approved hserving.stored ⟨hat.stage, ?_⟩ hact ((congrArg (·.pendingAction) hst).trans hp)
        ((hasRow_inserted ..).congr hserving.queue) ⟨hcame.survived, ?_, ?_⟩
      · have htrail := congrArg WorkflowState.trail hst
        exact htrail.trans hat.trail
      · rw [hserving.memory]
        exact hcame.claims
      · rw [hserving.memory]
        exact hcame.called
    | unknown hnone => rw [hcp] at hnone; cases hnone
    | going hst' _ _ hact' | approved hst' _ hact' =>
      rw [hcp] at hst'
      cases hst'
      rw [hwait] at hact'
      cases hact'
    | buried hst' _ _ hdead =>
      rw [hcp] at hst'
      cases hst'
      rw [hwait] at hdead
      cases hdead
    | past hst' _ _ hidle =>
      rw [hcp] at hst'
      cases hst'
      rw [hp] at hidle
      cases hidle
  · exact h.undisturbed (undisturbed_queued rfl e hserving rfl rfl)

/-! ## The worker -/

theorem stage_next (h : (done, tool) ∈ stages) : done ++ [tool] = steps ∨ ∃ next, (done ++ [tool], next) ∈ stages := by
  rw [stages_eq] at h
  simp only [List.mem_cons, Prod.mk.injEq, List.not_mem_nil, or_false] at h
  rcases h with ⟨rfl, rfl⟩ | ⟨rfl, rfl⟩ | ⟨rfl, rfl⟩ | ⟨rfl, rfl⟩ | ⟨rfl, rfl⟩ | ⟨rfl, rfl⟩
  · exact .inr ⟨.inspectMetrics, by decide⟩
  · exact .inr ⟨.queryLogs, by decide⟩
  · exact .inr ⟨.dependencyHealth, by decide⟩
  · exact .inr ⟨.restartService, by decide⟩
  · exact .inr ⟨.verifyRecovery, by decide⟩
  · exact .inl rfl

theorem before_append (done done' : List ToolName) : f.before (done ++ done') = f.before done + f.before done' := by
  simp [before]

theorem before_cons (tool : ToolName) (done : List ToolName) :
    f.before (tool :: done) = (if tool = .restartService then 2 else f.decisions tool) + f.before done := by
  simp [before]

@[simp] theorem before_nil : f.before [] = 0 := rfl

/-- One more tool is done, and the next delivery is queued. -/
theorem Follows.advanced (hpos : 1 ≤ N) (hstage : (done, tool) ∈ stages) (hst : w.store.stored taskId = some cp)
    (htrail : cp.trail = f.trail (done ++ [tool])) (hqueued : cp.status = .queued) (hidle : cp.pendingAction = none)
    (hrow : HasRow taskId .pending 0 N w.store) (hcame : f.Came N taskId (done ++ [tool]) 0 0 w) : f.Follows N taskId w := by
  rcases stage_next hstage with e | ⟨next, hnext⟩
  · rw [e] at htrail hcame
    exact .past hst (hcame.survived f.tool_ok.1) htrail hidle (by rw [hqueued]; decide) (by rw [hqueued]; decide)
  · refine .going (n := 0) hst ⟨hnext, htrail⟩ ?_ (by rw [hqueued]; rfl) hidle hrow hcame
    unfold tries
    split <;> omega

theorem Tries.called {tr : Trail} (h : f.Tries taskId tool tr m m' o st) :
    calledFor taskId f.tool m' = calledFor taskId f.tool m + if tool = f.tool then 1 else 0 := by
  obtain ⟨r, hx⟩ := h.executed
  unfold calledFor
  rw [hx, List.countP_cons]
  simp

/-- The detector bounds the decisions it is silent about. -/
theorem asked_short {n : Nat} {tr : Trail} (h : ({} : LoopDetector).reason ((Trail.ask tool)^[n] tr).toolHistory
    ((Trail.ask tool)^[n] tr).progressHistory = none) : n < 20 := by
  have hlen : ((Trail.ask tool)^[n] tr).toolHistory.length = tr.toolHistory.length + n := by
    clear h
    induction n with
    | zero => rfl
    | succ n ih =>
      rw [Function.iterate_succ_apply']
      show (_ ++ [_]).length = _
      rw [List.length_append, ih]
      rfl
  have hlt := ((LoopDetector.reason_none_iff _ _ _).mp h).1
  rw [hlen] at hlt
  have hlt : ((tr.toolHistory.length + n : Nat) : Int) < 20 := hlt
  omega

/-- A delivery in which a tool that needs no approval is asked for. -/
theorem Follows.tried (hdet : rt.loopDetector = {}) (hN : config.maxQueueAttempts = N) (hpos : 1 ≤ N) (hheard : f.Heard N)
    (hD : ∀ st r, D st r → r = DeterministicDecisionEngine.decide st) (hU : ∀ r, U r → r = .ok (0, 0)) (hs : Standing w.store)
    (hrec : Recorded w) {row : QueueRow} {s : SQLiteStore} {t : Timestamp} {n : Nat}
    (h : Hands rt config (.outage f taskId) D U taskId row cp w s t w') (hatt : row.attempts = n) (hmax : row.maxAttempts = N) (hat : f.At done tool n cp) (hrestart : tool ≠ .restartService)
    (hn : n < f.tries N tool) (hact : cp.status.active = true) (hidle : cp.pendingAction = none) (hcame : f.Came N taskId done n n w) :
    f.Follows N taskId w' := by
  obtain ⟨o, st, m', cp', s₂, t₂, hturn, hsettled, hserving⟩ := h.delivered
  obtain ⟨-, -, -, htask⟩ := hs.level.filed.version h.stored
  subst htask
  have hsilent := hheard done tool n hat.stage hcame.survived hn
  have hat' : f.At done tool n cp.content := ⟨hat.stage, hat.trail⟩
  have htries := hturn.tries hdet hD hU hat' hrestart hsilent hact hidle (hrec.missing h.stored hat.missing)
  obtain ⟨leased, hleased, hltask, hla, hlm⟩ := h.leased
  have hst : w'.store.stored cp.taskId = some cp' := hserving.stored
  have hcalled : calledFor cp.taskId f.tool w'.memory = calledFor cp.taskId f.tool w.memory + if tool = f.tool then 1 else 0 := by
    rw [hserving.memory]
    exact htries.called
  have hmissing := (stage_missing hat.stage).1
  have houtcome := htries.outcome
  split at houtcome
  · rename_i hfails
    obtain ⟨rfl, hlt'⟩ := hfails
    obtain ⟨⟨e, rfl, hretry⟩, hasked⟩ := houtcome
    have hnot : ¬ f.tool ∈ done := hmissing
    have hfew : n < f.failures := by
      have hc := hcame.called
      rw [if_neg hnot] at hc
      have hlt' : calledFor cp.taskId f.tool w.memory < f.failures := hlt'
      omega
    have hcame' : f.Came N cp.taskId done (n + 1) (n + 1) w' := by
      refine ⟨hcame.survived, ?_, ?_⟩
      · rw [h.counted, hcame.claims]
        omega
      · rw [hcalled, hcame.called, if_pos rfl]
        omega
    generalize hout : cp'.content = out at hsettled
    have hstatus : cp'.status = out.status := congrArg (·.status) hout
    have hpending : cp'.pendingAction = out.pendingAction := congrArg (·.pendingAction) hout
    have hqueued : st.status = .queued := htries.queued
    cases hsettled with
    | overflowed _ hover =>
      have hshort := asked_short hsilent
      obtain ⟨delay, hdelay⟩ := backoff_ok_iff.mpr (show row.attempts + 1 - 1 < 1024 by omega)
      rw [hdelay] at hover
      cases hover
    | returned _ _ hdelay hlt =>
      have hlt : row.attempts + 1 < row.maxAttempts := hlt
      have hrow := (hasRow_retried hdelay hleased e.message t₂).congr hserving.queue
      rw [if_neg (by exact Nat.not_le.mpr hlt), hltask, hla, hlm, hatt, hmax] at hrow
      refine .going hst ⟨hat.stage, (trail_of_content hout).trans hasked⟩ ?_ (by rw [hstatus, hqueued]; rfl) (hpending.trans htries.idle) hrow
        hcame'
      unfold tries
      rw [if_pos rfl]
      omega
    | buried _ _ hdelay hge =>
      have hge : row.maxAttempts ≤ row.attempts + 1 := hge
      have hrow := (hasRow_retried hdelay hleased e.message t₂).congr hserving.queue
      rw [if_pos (by exact hge), hltask, hla, hlm, hatt, hmax] at hrow
      have hle : n < min (f.failures + 1) N := by
        unfold tries at hn
        rwa [if_pos rfl] at hn
      obtain rfl : n + 1 = N := by omega
      have hdead : cp'.status = .deadLettered := by
        rw [hstatus, WorkflowState.endedBy, if_neg (by rw [WorkflowState.terminal, hqueued]; decide)]
      exact .buried hst hat.stage hfew hdead hrow hcame'
    | failed _ hno | raised hno =>
      rw [hno] at hretry
      cases hretry
  · rename_i hgood
    obtain ⟨rfl, hgained⟩ := houtcome
    have hlast : (tool = f.tool → f.failures = n) ∧ (tool ≠ f.tool → n = 0) ∧ n < N := by
      unfold tries at hn
      refine ⟨fun e => ?_, fun e => ?_, ?_⟩
      · have hc := hcame.called
        subst e
        rw [if_neg hmissing] at hc
        rw [if_pos rfl] at hn
        have hge : f.failures ≤ calledFor cp.taskId f.tool w.memory := by
          by_contra hlt
          exact hgood ⟨rfl, Nat.lt_of_not_le hlt⟩
        omega
      · rw [if_neg e] at hn
        omega
      · split at hn <;> omega
    obtain ⟨hown, hother, hnN⟩ := hlast
    have hdecisions : f.decisions tool = n + 1 := by
      unfold decisions
      split
      · rename_i e
        rw [hown e]
      · rename_i e
        rw [hother e]
    have hqueued : st.status = .queued := htries.queued
    generalize hout : cp'.content = out at hsettled
    have hstatus : cp'.status = out.status := congrArg (·.status) hout
    have hpending : cp'.pendingAction = out.pendingAction := congrArg (·.pendingAction) hout
    cases hsettled with
    | acknowledged _ hne => exact absurd hqueued hne
    | requeued =>
      have hrow := (hasRow_inserted (s.acknowledge _ row.id) t₂ cp.taskId config.maxQueueAttempts).congr hserving.queue
      rw [hN] at hrow
      refine Follows.advanced hpos hat.stage hst ?_ (hstatus.trans hqueued) (hpending.trans htries.idle) hrow ⟨?_, ?_, ?_⟩
      · rw [trail_of_content hout, hgained, trail_append, hdecisions]
      · intro hmem
        rcases List.mem_append.mp hmem with hmem | hmem
        · exact hcame.survived hmem
        · rw [hown (List.mem_singleton.mp hmem).symm]
          exact hnN
      · rw [h.counted, hcame.claims, before_append, before_cons, if_neg hrestart, hdecisions, before_nil]
        omega
      · rw [hcalled, hcame.called]
        by_cases e : tool = f.tool
        · subst e
          simp [hmissing, hown rfl]
        · simp [e, Ne.symm e, hother e]

/-- The delivery in which the restart is asked for. -/
theorem Follows.pauses (hdet : rt.loopDetector = {}) (hheard : f.Heard N) (hD : ∀ st r, D st r → r = DeterministicDecisionEngine.decide st)
    (hU : ∀ r, U r → r = .ok (0, 0)) (hs : Standing w.store) {row : QueueRow} {s : SQLiteStore} {t : Timestamp} {n : Nat}
    (h : Hands rt config (.outage f taskId) D U taskId row cp w s t w') (hat : f.At done .restartService n cp)
    (hn : n < f.tries N .restartService) (hact : cp.status.active = true) (hidle : cp.pendingAction = none)
    (hcame : f.Came N taskId done n n w) : f.Follows N taskId w' := by
  obtain ⟨o, st, m', cp', s₂, t₂, hturn, hsettled, hserving⟩ := h.delivered
  have hsilent := hheard done .restartService n hat.stage hcame.survived hn
  have hat' : f.At done .restartService n cp.content := ⟨hat.stage, hat.trail⟩
  obtain ⟨rfl, hwait, htrail, hx⟩ := hturn.pauses hdet hD hU hat' hsilent hact hidle
  have hn : n = 0 := by
    unfold tries at hn
    rw [if_neg fun e => f.tool_ok.2 e.symm] at hn
    omega
  subst hn
  obtain rfl : done = beforeRestart := by
    have hstage := hat.stage
    rw [stages_eq] at hstage
    simpa [beforeRestart] using hstage
  have hst : w'.store.stored taskId = some cp' := hserving.stored
  have hclosed : Closed taskId w'.store := by
    intro id x hx ht
    rw [hserving.queue] at hx
    exact hsettled.closes (by rw [hwait]; decide) (h.others_completed hs) hx ht
  have hout : cp'.content = st := by
    generalize cp'.content = out at hsettled
    cases hsettled with
    | acknowledged | requeued => rfl
  have hstatus : cp'.status = st.status := congrArg (·.status) hout
  refine .asked hst ⟨hat.stage, (trail_of_content hout).trans htrail⟩ (hstatus.trans hwait) hclosed ⟨hcame.survived, ?_, ?_⟩
  · rw [h.counted, hcame.claims]
  · rw [hserving.memory, ← hcame.called]
    unfold calledFor
    rw [hx]
    rfl

/-- The delivery in which the approved restart runs. -/
theorem Follows.restarts (hN : config.maxQueueAttempts = N) (hpos : 1 ≤ N) (hs : Standing w.store) (hrec : Recorded w) {row : QueueRow}
    {s : SQLiteStore} {t : Timestamp} (h : Hands rt config (.outage f taskId) D U taskId row cp w s t w')
    (hat : f.At beforeRestart .restartService 1 cp) (hact : cp.status.active = true) {p : PendingAction} (hp : cp.pendingAction = some p)
    (hcame : f.Came N taskId beforeRestart 1 0 w) : f.Follows N taskId w' := by
  obtain ⟨o, st, m', cp', s₂, t₂, hturn, hsettled, hserving⟩ := h.delivered
  obtain ⟨wrow, hwrow, rfl⟩ := stored_some.mp h.stored
  obtain ⟨-, -, -, htask⟩ := hs.level.filed.version h.stored
  subst htask
  have hne : wrow.stateJson.status ≠ .waitingForApproval := by
    intro e
    rw [e] at hact
    cases hact
  have hok := ((hs.rest.store.state _ wrow hwrow).pending p hp).restart
  have happ : w.memory.approved wrow.stateJson.taskId p.actionId := hs.rest.approved _ wrow p hwrow hne hp
  have hp' : wrow.stateJson.content.pendingAction = some p := hp
  have htries := hturn.restarts hp' hok (by exact happ) hact (hrec.missing h.stored hat.missing)
  have houtcome := htries.outcome
  rw [if_neg fun hfails => f.tool_ok.2 hfails.1.symm] at houtcome
  obtain ⟨rfl, hgained⟩ := houtcome
  have hqueued : st.status = .queued := htries.queued
  have hst : w'.store.stored wrow.stateJson.taskId = some cp' := hserving.stored
  have hcalled : calledFor wrow.stateJson.taskId f.tool w'.memory = calledFor wrow.stateJson.taskId f.tool w.memory := by
    have hcalled := htries.called
    rw [if_neg fun e => f.tool_ok.2 e.symm] at hcalled
    rw [hserving.memory]
    exact hcalled
  generalize hout : cp'.content = out at hsettled
  have hstatus : cp'.status = out.status := congrArg (·.status) hout
  have hpending : cp'.pendingAction = out.pendingAction := congrArg (·.pendingAction) hout
  cases hsettled with
  | acknowledged _ hne => exact absurd hqueued hne
  | requeued =>
    have hrow := (hasRow_inserted (s.acknowledge _ row.id) t₂ wrow.stateJson.taskId config.maxQueueAttempts).congr hserving.queue
    rw [hN] at hrow
    have hdecisions : f.decisions .restartService = 1 := if_neg fun e => f.tool_ok.2 e.symm
    refine Follows.advanced hpos hat.stage hst ?_ (hstatus.trans hqueued) (hpending.trans htries.idle) hrow ⟨?_, ?_, ?_⟩
    · rw [trail_of_content hout, hgained, trail_append, hdecisions, ← hat.trail]
      rfl
    · intro hmem
      exact hcame.survived ((List.mem_append.mp hmem).resolve_right fun e => f.tool_ok.2 (List.mem_singleton.mp e))
    · rw [h.counted, hcame.claims, before_append, before_cons, if_pos rfl, before_nil]
    · rw [hcalled, hcame.called]
      simp [f.tool_ok.2]

/-- A delivery after the last tool. -/
theorem Follows.ended (hD : ∀ st r, D st r → r = DeterministicDecisionEngine.decide st) (hU : ∀ r, U r → r = .ok (0, 0)) {workerId : String}
    (hst : w.store.stored taskId = some cp) (hlt : f.failures < N) (htrail : cp.trail = f.trail steps) (hidle : cp.pendingAction = none)
    (hloop : cp.status ≠ .loopStopped) (hdead : cp.status ≠ .deadLettered)
    (hserved : Served rt config (.outage f taskId) D U workerId w w') : f.Follows N taskId w' := by
  obtain ⟨t, -, -, ⟨s, -, -, -, hsame, -⟩ | ⟨d, s, cp₀, hclaim, hcp, o, st, m', cp', s₂, t₂, hturn, hsettled, hserving⟩⟩ := hserved
  · exact .past ((hsame taskId).trans hst) hlt htrail hidle hloop hdead
  by_cases e : taskId = d.taskId
  · subst e
    rw [hst] at hcp
    cases hcp
    obtain ⟨htrail', hidle', hloop', hdead', hraises⟩ := hturn.ends hD hU (by exact htrail) (by exact hidle) (by exact hloop) (by exact hdead)
    have hst' : w'.store.stored d.taskId = some cp' := hserving.stored
    have hover : ∀ {x : WorkflowState}, cp'.content = x → x.trail = st.trail → x.pendingAction = st.pendingAction →
        x.status ≠ .loopStopped → x.status ≠ .deadLettered → f.Follows N d.taskId w' := by
      rintro x rfl htr hp hl hd
      exact .past hst' hlt ((trail_of_content rfl).trans (htr.trans htrail')) (hp.trans hidle') hl hd
    generalize hout : cp'.content = out at hsettled
    cases hsettled with
    | acknowledged | requeued | raised => exact hover hout rfl rfl hloop' hdead'
    | overflowed hretry | returned _ hretry | buried _ hretry =>
      rw [hraises _ rfl] at hretry
      cases hretry
    | failed =>
      unfold WorkflowState.endedBy at hout
      split at hout
      · exact hover hout rfl rfl hloop' hdead'
      · exact hover hout rfl rfl nofun nofun
  · have hsame := (hserving.others _ e).trans ((hsettled.later.2 _).trans (claim_stored hclaim _))
    exact .past (hsame.trans hst) hlt htrail hidle hloop hdead

/-- A worker's run. -/
theorem Follows.worked (hdet : rt.loopDetector = {}) (hN : config.maxQueueAttempts = N) (hpos : 1 ≤ N) (hheard : f.Heard N)
    (hD : ∀ st r, D st r → r = DeterministicDecisionEngine.decide st) (hU : ∀ r, U r → r = .ok (0, 0)) (hs : Standing w.store)
    (hrec : Recorded w) (h : f.Follows N taskId w) {workerId : String} (hserved : Served rt config (.outage f taskId) D U workerId w w') :
    f.Follows N taskId w' := by
  have hsame := h
  cases h with
  | unknown hnone =>
    have hunknown : ∀ id row, w.store.queue.get id = some row → row.taskId = taskId → row.status ≠ .processing := by
      intro id row hr ht
      obtain ⟨wrow, hwrow⟩ := Option.ne_none_iff_exists'.mp (hs.rest.known id row hr)
      rw [ht] at hwrow
      rw [stored_some.mpr ⟨wrow, hwrow, rfl⟩] at hnone
      cases hnone
    rcases hserved.split hs hunknown with hu | ⟨row, cp, s, t, hh⟩
    · exact hsame.undisturbed hu
    · have hst := hh.stored
      rw [hnone] at hst
      cases hst
  | @going done tool n cp hst hat hn hact hidle hrow hcame =>
    rcases hrow.split hs (by decide) (by decide) hserved with hu | ⟨row, cp', s, t, hh, -, hatt, hmax⟩
    · exact hsame.undisturbed hu
    · have hst' := hh.stored
      rw [hst] at hst'
      cases hst'
      by_cases e : tool = .restartService
      · subst e
        exact .pauses hdet hheard hD hU hs hh hat hn hact hidle hcame
      · exact .tried hdet hN hpos hheard hD hU hs hrec hh hatt hmax hat e hn hact hidle hcame
  | asked hst hat hwait hclosed hcame =>
    rcases hserved.split hs fun id row hr ht => by rw [hclosed id row hr ht]; decide with hu | ⟨row, cp, s, t, hh⟩
    · exact hsame.undisturbed hu
    · have hpend := hh.pending
      rw [hclosed _ row hh.found hh.task] at hpend
      cases hpend
  | approved hst hat hact hp hrow hcame =>
    rcases hrow.split hs (by decide) (by decide) hserved with hu | ⟨row, cp', s, t, hh, -⟩
    · exact hsame.undisturbed hu
    · have hst' := hh.stored
      rw [hst] at hst'
      cases hst'
      exact .restarts hN hpos hs hrec hh hat hact hp hcame
  | buried hst hstage hle hdead hrow hcame =>
    rcases hrow.split hs (by decide) (by decide) hserved with hu | ⟨row, cp', s, t, hh, hpend, -⟩
    · exact hsame.undisturbed hu
    · cases hpend
  | past hst hlt htrail hidle hloop hdead => exact .ended hD hU hst hlt htrail hidle hloop hdead hserved

theorem Follows.operation (he : rt.engine = anyEngine) (hb : rt.backend = anyBackend) (hdet : rt.loopDetector = {})
    (hN : config.maxQueueAttempts = N) (hpos : 1 ≤ N) (hheard : f.Heard N) (hs : Standing w.store) (hrec : Recorded w) (hpaused : Paused w)
    (h : f.Follows N taskId w) {op : Operation} (hop : Env.operator.starts 0 w op) {reply : Except PyError Reply}
    (hr : Runs (calls (.outage f taskId) 0) (op.program rt config) w reply w') : f.Follows N taskId w' := by
  cases op with
  | runOnce workerId =>
    exact h.worked hdet hN hpos hheard (fun _ _ => outage_decides) (fun _ => outage_usage) hs hrec (hs.served hb (he ▸ anyEngine_spec) hr)
  | createIncident T goal scenarioId => exact wp_sound (wp_reply (h.created hN hpos hs.level.filed T goal scenarioId)) hr
  | approve T actor reason => exact wp_sound (wp_reply (h.granted hN hs hpaused T actor reason)) hr
  | _ => cases hop

end Outage

/-! ## Whole runs -/

/-- What holds between operations. -/
structure Outage.Kept (f : Outage) (N : Nat) (taskId : String) (w : World) : Prop where
  follows : f.Follows N taskId w
  counted : Counted w
  paused : Paused w

/-- An entry of the journal that is not a call. -/
theorem Outage.Kept.note {e : Entry} (hx : e.executed = none) (hc : e.claimed = none) (h : f.Kept N taskId w) : f.Kept N taskId (w.note e) := by
  have hmemory : (w.note e).memory = w.memory := by
    unfold World.memory World.note
    rw [List.filterMap_cons_none hx, List.filterMap_cons_none hc]
  refine ⟨h.follows.undisturbed ⟨rfl, fun _ _ _ => Iff.rfl, fun _ => by rw [hmemory], by rw [hmemory]⟩, fun id => ?_, h.paused⟩
  rw [hmemory]
  exact h.counted id

theorem Sequence.kept (he : rt.engine = anyEngine) (hb : rt.backend = anyBackend) (hdet : rt.loopDetector = {})
    (hN : config.maxQueueAttempts = N) (hpos : 1 ≤ N) (hheard : f.Heard N) (h : Sequence rt config (.outage f taskId) w) :
    f.Kept N taskId w := by
  induction h with
  | init =>
    refine ⟨.unknown rfl rfl rfl, fun id => rfl, fun T st hst => ?_⟩
    cases hst
  | @ran w w' op o hseq hop hr ih =>
    have hs : Standing w.store := hseq.standing he hb fun _ hd => hd
    have hrec : Recorded w := hseq.recorded he hb fun _ hd => hd
    have hstart : f.Kept N taskId (w.note (.began 0 op)) := ih.note rfl rfl
    have hfollows := hstart.follows.operation he hb hdet hN hpos hheard (by exact hs) (by exact hrec) hstart.paused hop hr
    refine Outage.Kept.note rfl rfl ?_
    rcases hstart.paused.starts he hb (by exact hs) hop hr with hq | ⟨workerId, hserved⟩
    · exact ⟨hfollows, hstart.counted.queues hq, hstart.paused.queues hq⟩
    · exact ⟨hfollows, hstart.counted.served hserved, hstart.paused.served (by exact hs) hserved⟩
  | died _ _ _ hd _ => exact hd.elim

/-- The workflow goes on: it waits for its approval or has a row to hand out, after fewer than `n` deliveries. -/
structure GoesOn (taskId : String) (n : Nat) (st : WorkflowState) (w : World) : Prop where
  live : st.terminal = false
  next : st.status = .waitingForApproval ∨ ∃ id row, w.store.queue.get id = some row ∧ row.taskId = taskId ∧ row.status = .pending
  few : claims taskId w.memory < n

/-- The workflow is dead-lettered, after `N` deliveries of a row. -/
def DeadAfter (taskId : String) (N : Nat) (st : WorkflowState) (w : World) : Prop :=
  st.status = .deadLettered ∧
    ∃ id row, w.store.queue.get id = some row ∧ row.taskId = taskId ∧ row.status = .dead ∧ handed id w.memory = N

namespace Outage

/-- The tools before the failing one. -/
def place (f : Outage) : List ToolName := steps.takeWhile fun tool => tool ≠ f.tool

theorem stage_split (h : (done, tool) ∈ stages) : ∃ rest, steps = done ++ tool :: rest := by
  rw [stages_eq] at h
  simp only [List.mem_cons, Prod.mk.injEq, List.not_mem_nil, or_false] at h
  rcases h with ⟨rfl, rfl⟩ | ⟨rfl, rfl⟩ | ⟨rfl, rfl⟩ | ⟨rfl, rfl⟩ | ⟨rfl, rfl⟩ | ⟨rfl, rfl⟩ <;> exact ⟨_, rfl⟩

/-- Until the failing tool is done, the deliveries are those before its place and those of its row. -/
theorem before_place (h : (done, tool) ∈ stages) (hmem : f.tool ∉ done) :
    if tool = f.tool then f.before f.place = f.before done
    else f.before done + (if tool = .restartService then 2 else 1) ≤ f.before f.place := by
  obtain ⟨rest, hrest⟩ := stage_split h
  have hplace : f.place = done ++ (tool :: rest).takeWhile fun tool => tool ≠ f.tool := by
    have hothers : ∀ x ∈ done, decide (x ≠ f.tool) = true := fun x hx => decide_eq_true fun e => hmem (e ▸ hx)
    unfold place
    rw [hrest, List.takeWhile_append_of_pos hothers]
  rw [hplace, List.takeWhile_cons]
  split
  · rename_i e
    simp [e]
  · rename_i e
    rw [if_pos (decide_eq_true e), before_append, before_cons]
    have hpos : 1 ≤ f.decisions tool := by
      unfold decisions
      split <;> omega
    split <;> omega

/-- The tool's row in the queue is not spent when its failures are fewer than its attempts. -/
theorem Came.few {n called : Nat} (h : f.Came N taskId done n called w) (hstage : (done, tool) ∈ stages) (hmem : f.tool ∉ done)
    (hn : n < if tool = f.tool then min (f.failures + 1) N else if tool = .restartService then 2 else 1) (hpos : 1 ≤ N) :
    AgentResilience.claims taskId w.memory < f.before f.place + min (f.failures + 1) N := by
  have hplace := before_place hstage hmem
  rw [h.claims]
  split at hplace
  · rename_i e
    rw [if_pos e] at hn
    omega
  · rename_i e
    rw [if_neg e] at hn
    omega

/-- What is claimed of the workflow. -/
def Retried (f : Outage) (N : Nat) (taskId : String) (st : WorkflowState) (w : World) : Prop :=
  st.status ≠ .loopStopped ∧
  (f.failures < N → st.status ≠ .deadLettered ∧
    (f.tool.value ∈ st.completedSteps ∨ GoesOn taskId (f.before f.place + f.failures + 1) st w)) ∧
  (N ≤ f.failures → DeadAfter taskId N st w ∨ GoesOn taskId (f.before f.place + N) st w)

theorem At.completed {n : Nat} (h : f.At done tool n cp) (hmem : f.tool ∈ done) : f.tool.value ∈ cp.completedSteps := by
  have hc : cp.completedSteps = (f.trail done).completedSteps := (congrArg (·.completedSteps) h.trail).trans (Trail.asks_completedSteps ..)
  rw [hc, f.trail_completedSteps]
  exact ⟨_, hmem, rfl⟩

/-- A workflow on its way. -/
theorem Came.retried {n called i : Nat} (h : f.Came N taskId done n called w) (hat : f.At done tool i st)
    (hn : f.tool ∉ done → n < if tool = f.tool then min (f.failures + 1) N else if tool = .restartService then 2 else 1) (hpos : 1 ≤ N)
    (hlive : st.terminal = false)
    (hnext : st.status = .waitingForApproval ∨ ∃ id row, w.store.queue.get id = some row ∧ row.taskId = taskId ∧ row.status = .pending) :
    f.Retried N taskId st w := by
  have hno : ∀ {status : WorkflowStatus}, status.terminal = true → st.status ≠ status := by
    rintro status ht rfl
    rw [WorkflowState.terminal, ht] at hlive
    cases hlive
  by_cases hmem : f.tool ∈ done
  · have hlt := h.survived hmem
    exact ⟨hno rfl, fun _ => ⟨hno rfl, .inl (hat.completed hmem)⟩, fun hge => absurd hlt (Nat.not_lt.mpr hge)⟩
  · have hfew := h.few hat.stage hmem (hn hmem) hpos
    exact ⟨hno rfl, fun hlt => ⟨hno rfl, .inr ⟨hlive, hnext, by omega⟩⟩, fun hge => .inr ⟨hlive, hnext, by omega⟩⟩

theorem Kept.retried (h : f.Kept N taskId w) (hpos : 1 ≤ N) (hst : w.store.stored taskId = some st) : f.Retried N taskId st w := by
  have hpending : ∀ {n : Nat}, HasRow taskId .pending n N w.store →
      ∃ id row, w.store.queue.get id = some row ∧ row.taskId = taskId ∧ row.status = .pending := by
    rintro n ⟨id, row, hr, ht, hstatus, -⟩
    exact ⟨id, row, hr, ht, hstatus⟩
  have hlive : ∀ {cp : WorkflowState}, cp.status.active = true → cp.terminal = false := by
    intro cp hact
    cases hterm : cp.terminal with
    | false => rfl
    | true =>
      rw [terminal_inactive hterm] at hact
      cases hact
  cases h.follows with
  | unknown hnone =>
    rw [hnone] at hst
    cases hst
  | @going done tool n cp hst' hat hn hact hidle hrow hcame =>
    rw [hst] at hst'
    cases hst'
    refine hcame.retried hat (fun _ => ?_) hpos (hlive hact) (.inr (hpending hrow))
    unfold tries at hn
    split
    · rename_i e
      rwa [if_pos e] at hn
    · rename_i e
      rw [if_neg e] at hn
      split <;> omega
  | asked hst' hat hwait hclosed hcame =>
    rw [hst] at hst'
    cases hst'
    refine hcame.retried hat (fun _ => ?_) hpos (by rw [WorkflowState.terminal, hwait]; rfl) (.inl hwait)
    rw [if_neg fun e => f.tool_ok.2 e.symm, if_pos rfl]
    decide
  | approved hst' hat hact hp hrow hcame =>
    rw [hst] at hst'
    cases hst'
    refine hcame.retried hat (fun _ => ?_) hpos (hlive hact) (.inr (hpending hrow))
    rw [if_neg fun e => f.tool_ok.2 e.symm, if_pos rfl]
    decide
  | buried hst' hstage hle hdead hrow hcame =>
    rw [hst] at hst'
    cases hst'
    obtain ⟨id, row, hr, ht, hstatus, hatt, -⟩ := hrow
    have hhanded : handed id w.memory = N := by
      rw [h.counted id, attemptsOf, hr, ← hatt]
      rfl
    exact ⟨by rw [hdead]; decide, fun hlt => absurd hlt (Nat.not_lt.mpr hle), fun _ => .inl ⟨hdead, id, row, hr, ht, hstatus, hhanded⟩⟩
  | past hst' hlt htrail hidle hloop hdead =>
    rw [hst] at hst'
    cases hst'
    have hc : f.tool.value ∈ st.completedSteps := by
      rw [show st.completedSteps = (f.trail steps).completedSteps from congrArg (·.completedSteps) htrail, f.trail_completedSteps]
      exact ⟨_, f.tool_ok.1, rfl⟩
    exact ⟨hloop, fun _ => ⟨hdead, .inl hc⟩, fun hge => absurd hlt (Nat.not_lt.mpr hge)⟩

end Outage

/-- An incident under the deterministic engine and the default loop detector, while a tool that needs
    no approval fails for the first `failures` calls. When the detector is silent about every decision on
    the way, the workflow is not stopped as a loop: with fewer failures than the row has attempts it
    gets past the tool, and otherwise it is dead-lettered after that many deliveries of the row. -/
theorem retries_not_loops (rt : WorkflowRuntime) (config : Settings) (f : Outage) (hpos : 1 ≤ config.maxQueueAttempts)
    (hheard : f.Heard config.maxQueueAttempts)
    (h : Sequence { rt with engine := anyEngine, backend := anyBackend, loopDetector := {} } config (.outage f taskId) w)
    (hst : w.store.stored taskId = some st) : f.Retried config.maxQueueAttempts taskId st w := by
  have hkept : f.Kept config.maxQueueAttempts taskId w := h.kept rfl rfl rfl rfl hpos hheard
  exact hkept.retried hpos hst

/-! ## The alert, failing twice and three times -/

/-- The alert's reading fails; every tool's answer is the alarm. -/
def alertOutage (failures : Nat) : Outage where
  tool := .readAlert
  failures := failures
  answers _ := alertRead
  tool_ok := by decide
  answers_ok _ := rfl

def followsOutage (f : Outage) (w : World) (c : Call) (r : Except PyError c.Ret) : Bool :=
  asDecided false c r && match c, r with
  | .execute _ tool .., r =>
    if tool = f.tool ∧ calledFor "t" f.tool w.memory < f.failures then
      match r with
      | .error e => e.isRetryable
      | .ok _ => false
    else sameAnswer r (.ok (f.answers tool))
  | _, _ => true

theorem followsOutage_allows (w : World) (c : Call) (r : Except PyError c.Ret) (h : followsOutage f w c r = true) :
    (Env.outage f "t").allows 0 w c r := by
  obtain ⟨hdecides, h⟩ := Bool.and_eq_true _ _ ▸ h
  refine ⟨asDecided_sound hdecides, ?_⟩
  cases c with
  | execute st tool arguments n =>
    intro _
    unfold Outage.Answers
    split
    · rename_i hfails
      simp only [if_pos hfails] at h
      cases r with
      | error e => exact ⟨e, rfl, h⟩
      | ok result => cases h
    · rename_i hgood
      simp only [if_neg hgood] at h
      exact sameAnswer_eq h
  | _ => trivial

/-- The alert's reading fails, is tried again and fails in the last delivery. -/
def readsFailing : List Act := [createsAct, readsAlertAct (timedOut .readAlert) 5, readsAlertAct (timedOut .readAlert) 8]

/-- Two deliveries in which the alert's reading fails, and one in which it is read. -/
def readsAtLast : List Act :=
  createsAct :: List.replicate 2 (readsAlertAct (timedOut .readAlert) 5) ++ [readsAlertAct (.ok alertRead) 7]

/-- Three deliveries in which the alert's reading fails, and another one. -/
def readsThrice : List Act :=
  createsAct :: List.replicate 3 (readsAlertAct (timedOut .readAlert) 5) ++ [⟨.runOnce "w1", deciding alertRequest ++ unasked 5, false⟩]

def operates (a : Act) : Bool :=
  match a.op with
  | .createIncident .. | .runOnce _ | .approve .. => true
  | _ => false

theorem operates_starts {as : List Act} (h : as.all operates = true) (a : Act) (ha : a ∈ as) (w : World) :
    (Env.outage f taskId).starts 0 w a.op := by
  have h := List.all_eq_true.mp h a ha
  obtain ⟨op, xs, dies⟩ := a
  cases op with
  | createIncident | runOnce | approve => trivial
  | _ => cases h

theorem readsFailing_plays : (Sequence.play {} (attempting 2) (followsOutage (alertOutage 2)) (fun _ => false) readsFailing World.init).any
    (fun w => statusIs w .deadLettered) = true := by
  decide +kernel

theorem readsAtLast_plays : (Sequence.play {} (attempting 3) (followsOutage (alertOutage 2)) (fun _ => false) readsAtLast World.init).any
    (fun w => (w.store.workflows.get "t").any fun row => decide ("read_alert" ∈ row.stateJson.completedSteps)) = true := by
  decide +kernel

theorem alertOutage_fresh : (alertOutage 2).Fresh := by
  intro done tool hstage
  rw [stages_eq] at hstage
  simp only [List.mem_cons, Prod.mk.injEq, List.not_mem_nil, or_false] at hstage
  rcases hstage with ⟨rfl, rfl⟩ | ⟨rfl, rfl⟩ | ⟨rfl, rfl⟩ | ⟨rfl, rfl⟩ | ⟨rfl, rfl⟩ | ⟨rfl, rfl⟩ <;> decide +kernel

/-- Two failures: with two attempts the workflow is dead-lettered, with three it gets past the alert. -/
theorem retries_not_loops_twice :
    (∃ w st, Sequence {} (attempting 2) (.outage (alertOutage 2) "t") w ∧ w.store.stored "t" = some st ∧
      st.status = .deadLettered ∧ (alertOutage 2).Retried 2 "t" st w) ∧
    ∃ w st, Sequence {} (attempting 3) (.outage (alertOutage 2) "t") w ∧ w.store.stored "t" = some st ∧
      "read_alert" ∈ st.completedSteps ∧ (alertOutage 2).Retried 3 "t" st w := by
  constructor
  · obtain ⟨w, h, hw⟩ : ∃ w, Sequence {} (attempting 2) (.outage (alertOutage 2) "t") w ∧ _ :=
      Sequence.play_exists followsOutage_allows (fun _ h => by cases h) (operates_starts rfl) readsFailing_plays
    obtain ⟨st, hst, hdead⟩ := statusIs_stored hw
    have hheard : (alertOutage 2).Heard 2 := (Outage.heard_iff alertOutage_fresh).mpr (by decide)
    exact ⟨w, st, h, hst, hdead, retries_not_loops {} (attempting 2) (alertOutage 2) (by decide) hheard h hst⟩
  · obtain ⟨w, h, hw⟩ : ∃ w, Sequence {} (attempting 3) (.outage (alertOutage 2) "t") w ∧ _ :=
      Sequence.play_exists followsOutage_allows (fun _ h => by cases h) (operates_starts rfl) readsAtLast_plays
    obtain ⟨row, hrow, hread⟩ := Option.any_eq_true _ _ |>.mp hw
    have hheard : (alertOutage 2).Heard 3 := (Outage.heard_iff alertOutage_fresh).mpr (by decide)
    have hst : w.store.stored "t" = some row.stateJson := stored_some.mpr ⟨row, hrow, rfl⟩
    exact ⟨w, row.stateJson, h, hst, of_decide_eq_true hread, retries_not_loops {} (attempting 3) (alertOutage 2) (by decide) hheard h hst⟩

theorem readsThrice_plays : (Sequence.play {} (attempting 5) (followsOutage (alertOutage 3)) (fun _ => false) readsThrice World.init).any
    (fun w => statusIs w .loopStopped) = true := by
  decide +kernel

/-- Three failures and five attempts: the fourth decision for the alert is taken for a loop. -/
theorem retries_looped : ∃ w st, Sequence {} (attempting 5) (.outage (alertOutage 3) "t") w ∧ w.store.stored "t" = some st ∧
    ¬ (alertOutage 3).Retried 5 "t" st w := by
  obtain ⟨w, h, hw⟩ : ∃ w, Sequence {} (attempting 5) (.outage (alertOutage 3) "t") w ∧ _ :=
    Sequence.play_exists followsOutage_allows (fun _ h => by cases h) (operates_starts rfl) readsThrice_plays
  obtain ⟨st, hst, hstatus⟩ := statusIs_stored hw
  exact ⟨w, st, h, hst, fun hretried => hretried.1 hstatus⟩

end AgentResilience
