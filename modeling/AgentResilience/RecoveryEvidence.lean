/-
  AgentResilience.RecoveryEvidence — `verify_recovery` after a restart. The ledger is keyed
  by task, tool and arguments, while the local backend answers from what is completed: before
  the restart with the alert, after it with the recovery data.

  - `sequential_exclusive`: operations one after another do not overlap.
  - `recovery_evidence_iff`: a completed verification records the recovery data if and only if
    the backend was asked under its action id after the restart (or the scenario has the same
    data for both). `verified_early`: one that was asked before it is answered from the ledger.
-/
import AgentResilience.Attempts
import AgentResilience.SideEffects

namespace AgentResilience

open Interaction

/-! ## Operations one after another -/

/-- Thread `i` has begun an operation that has not ended. -/
def inFlight (i : ThreadId) : List Entry → Bool
  | [] => false
  | .began j _ :: es => if j = i then true else inFlight i es
  | .did _ _ _ :: es => inFlight i es
  | .ended j _ :: es | .died j :: es => if j = i then false else inFlight i es

/-- A thread makes calls while no other operation is in flight, nobody dies, and the backend
    answers from the scenario file. -/
def Env.sequential (scenarios : Scenarios) : Env where
  allows i w c r := (∀ j, j ≠ i → inFlight j w.journal = false) ∧
    match c, r with
    | .execute st tool arguments n, r => r = scenarioExecute scenarios st tool arguments n
    | _, _ => True
  dies _ _ := False

variable {rt : WorkflowRuntime} {config : Settings} {env : Env} {scenarios : Scenarios} {cfg cfg' : Cfg} {i : ThreadId}

theorem reachable_inFlight (h : Reachable rt config env cfg) (hp : cfg.pool i ≠ none) : inFlight i cfg.state.journal = true := by
  have hput : ∀ {cfg : Cfg} {j : ThreadId} {x : Option (Py Reply)} {w : World}, i ≠ j → (cfg.put j x w).pool i = cfg.pool i :=
    fun hne => Function.update_of_ne hne ..
  induction h with
  | init => exact absurd rfl hp
  | @step cfg _ hr hs ih =>
    cases hs with
    | @enter j p w' hn he =>
      obtain ⟨op, -, -, rfl⟩ := he
      by_cases e : i = j
      · simp [Config.put, inFlight, e]
      · rw [hput e] at hp
        simp [Config.put, inFlight, Ne.symm e, ih hp]
    | @call j c k r w' hj hx =>
      obtain ⟨t, s', -, -, -, rfl⟩ := hx
      by_cases e : i = j
      · subst e
        exact ih (by rw [hj]; simp)
      · rw [hput e] at hp
        exact ih hp
    | @leave j p o w' hj ho hl =>
      obtain rfl := hl
      by_cases e : i = j
      · subst e
        exact absurd (Function.update_self ..) hp
      · rw [hput e] at hp
        simp [Config.put, inFlight, Ne.symm e, ih hp]
    | @crash j p w' hj hx =>
      obtain ⟨-, rfl⟩ := hx
      by_cases e : i = j
      · subst e
        exact absurd (Function.update_self ..) hp
      · rw [hput e] at hp
        simp [Config.put, inFlight, Ne.symm e, ih hp]

/-- While a thread makes a call, the others are where they begin. -/
theorem alone_stage (h : Reachable { rt with engine := anyEngine, backend := anyBackend } config .exclusive cfg)
    (halone : ∀ j, j ≠ i → inFlight j cfg.state.journal = false) {j : ThreadId} (hj : j ≠ i) : stage j cfg.state.journal = {} := by
  refine (reachable_effectsOk h).2 j ?_
  by_contra hp
  have hfly := reachable_inFlight h hp
  rw [halone j hj] at hfly
  cases hfly

theorem sequential_step (h : Reachable { rt with engine := anyEngine, backend := anyBackend } config .exclusive cfg)
    (hs : Step (system { rt with engine := anyEngine, backend := anyBackend } config (.sequential scenarios)) cfg cfg') :
    Step (system { rt with engine := anyEngine, backend := anyBackend } config .exclusive) cfg cfg' := by
  cases hs with
  | enter hn he =>
    obtain ⟨op, hop, -, hw⟩ := he
    exact .enter hn ⟨op, hop, trivial, hw⟩
  | @call i c k r w' hp hx =>
    obtain ⟨t, s', ht, ⟨halone, -⟩, he, rfl⟩ := hx
    refine .call hp ⟨t, s', ht, ?_, he, rfl⟩
    unfold Env.exclusive
    simp only
    split
    · intro j held hj hheld
      rw [alone_stage h halone hj] at hheld
      cases hheld
    · trivial
  | leave hp ho hl => exact .leave hp ho hl
  | crash _ hx => exact hx.1.elim

theorem sequential_exclusive
    (h : Reachable { rt with engine := anyEngine, backend := anyBackend } config (.sequential scenarios) cfg) :
    Reachable { rt with engine := anyEngine, backend := anyBackend } config .exclusive cfg := by
  induction h with
  | init => exact .init
  | step _ hs ih => exact .step ih (sequential_step ih hs)

/-! ## The scenario of a workflow -/

/-- The workflow is stored, with the same scenario. -/
def Named (cp : WorkflowState) (s : SQLiteStore) : Prop := ∃ st, s.stored cp.taskId = some st ∧ st.scenarioId = cp.scenarioId

theorem Change.scenario {det : LoopDetector} {A : Set Arguments} {cp st : WorkflowState} (h : Change det A cp st) :
    st.scenarioId = cp.scenarioId := by
  cases h <;> rfl

/-- A workflow keeps its scenario. -/
theorem Named.step (h : Reachable { rt with engine := anyEngine, backend := anyBackend } config env cfg)
    (hs : Step (system { rt with engine := anyEngine, backend := anyBackend } config env) cfg cfg') {cp : WorkflowState}
    (hn : Named cp cfg.state.store) : Named cp cfg'.state.store := by
  obtain ⟨st, hst, hname⟩ := hn
  rcases step_written h hs cp.taskId with he | ⟨st', hst', hw⟩
  · exact ⟨st, he.trans hst, hname⟩
  · rw [hst] at hw
    refine ⟨st', hst', ?_⟩
    generalize ho : some st = old at hw
    cases hw with
    | created => cases ho
    | saved t hc => cases ho; exact hc.scenario.trans hname
    | replayed t => cases ho; exact hname

/-- What threads have seen, and the backend was called for. -/
structure NamesKept (w : World) : Prop where
  seen : ∀ i cp, (stage i w.journal).seen = some cp → Named cp w.store
  called : ∀ a ∈ w.attempts, Named a.state w.store

theorem reachable_named (h : Reachable { rt with engine := anyEngine, backend := anyBackend } config env cfg) :
    NamesKept cfg.state := by
  refine reachable_world (P := NamesKept) ⟨fun _ _ h => (by cases h), fun a ha => (by cases ha)⟩ (fun w e ih he => ?_)
    (fun cfg j c k r w' hr ih hp hx => ?_) h
  · refine ⟨fun i cp hs => ?_, fun a ha => ih.called a ?_⟩
    · rcases stage_bound he i w.journal with hb | hb <;> rw [hb] at hs
      · cases hs
      · exact ih.seen i cp hs
    · cases e with
      | did => cases he
      | _ => exact ha
  · have hok := reachable_storeOk lawful_univ hr
    have hstep : ∀ cp, Named cp cfg.state.store → Named cp w'.store := fun cp hn => hn.step hr (.call hp hx)
    have hmay := conforms hr hp
    refine ⟨fun i cp hs => ?_, fun a ha => ?_⟩
    · by_cases e : i = j
      · subst e
        rw [(stage_call hx).1] at hs
        obtain ⟨t, s', -, -, he, rfl⟩ := hx
        rcases after_seen hs with hs | ⟨taskId, rfl, hr'⟩ | ⟨st, v, rfl, hr'⟩
        · exact hstep cp (ih.seen i cp hs)
        · cases hr'
          obtain ⟨e, rfl⟩ := Prod.mk.inj he
          obtain ⟨row, hrow, rfl⟩ := SQLiteStore.getWorkflow_some (Except.ok.inj e)
          exact ⟨row.stateJson, stored_some.mpr ⟨row, by rw [(hok.state _ row hrow).task]; exact hrow, rfl⟩, rfl⟩
        · cases hr'
          rcases SQLiteStore.saveWorkflow_cases he with ⟨-, -, -, e, hw, -⟩ | ⟨⟨m, hm⟩, -⟩
          · cases e
            exact ⟨_, stored_some.mpr ⟨_, (hw _).trans (if_pos rfl), rfl⟩, rfl⟩
          · cases hm
      · rw [(stage_call hx).2 i e] at hs
        exact hstep cp (ih.seen i cp hs)
    · have hnew : a ∈ cfg.state.attempts ∨ ∃ tool arguments n, c = .execute a.state tool arguments n := by
        obtain ⟨t, s', -, -, -, rfl⟩ := hx
        cases c with
        | execute st tool arguments n =>
          rcases List.mem_cons.mp (by exact ha : a ∈ Attempt.mk st tool arguments n r :: cfg.state.attempts) with rfl | ha
          · exact .inr ⟨tool, arguments, n, rfl⟩
          · exact .inl ha
        | _ => exact .inl ha
      rcases hnew with ha | ⟨tool, arguments, n, rfl⟩
      · exact hstep _ (ih.called a ha)
      · exact hstep _ (ih.seen j a.state hmay.1)

/-! ## The recorded evidence -/

/-- The backend answered every call from the scenario file. -/
theorem sequential_scripted (h : Reachable rt config (.sequential scenarios) cfg) : Scripted scenarios cfg.state := by
  refine reachable_world (P := Scripted scenarios) (fun a ha => by cases ha) (fun w e ih he a ha => ih a ?_)
    (fun cfg j c k r w' hr ih hp hx a ha => ?_) h
  · cases e with
    | did => cases he
    | _ => exact ha
  · obtain ⟨t, s', -, ⟨-, hal⟩, -, rfl⟩ := hx
    cases c with
    | execute st tool arguments n =>
      rcases List.mem_cons.mp (by exact ha : a ∈ Attempt.mk st tool arguments n r :: cfg.state.attempts) with rfl | ha
      · exact hal
      · exact ih a ha
    | _ => exact ih a ha

/-- The backend's results under an action id, as its calls. -/
theorem mem_results {w : World} {key : String} {result : Json} : result ∈ results key w.journal ↔
    ∃ a ∈ w.attempts, actionId a.state.taskId a.tool a.arguments = key ∧ a.answer = .ok result ∧ result.nonEmptyObj = true := by
  have hentry : ∀ e : Entry, (e.returns.bind fun x => if x.1 = key then some x.2 else none) = some result ↔
      ∃ a, e.attempt = some a ∧ actionId a.state.taskId a.tool a.arguments = key ∧ a.answer = .ok result ∧ result.nonEmptyObj = true := by
    intro e
    cases e with
    | did j c r =>
      cases c with
      | execute st tool arguments n =>
        cases r with
        | error e => simp [Entry.returns, Entry.attempt]
        | ok x =>
          by_cases hx : x.nonEmptyObj = true
          · simp [Entry.returns, Entry.attempt, hx]
            rintro - rfl
            exact hx
          · simp [Entry.returns, Entry.attempt, hx]
            rintro - rfl
            simpa using hx
      | _ => simp [Entry.returns, Entry.attempt]
    | _ => simp [Entry.returns, Entry.attempt]
  simp only [results, World.attempts, List.mem_filterMap, hentry]
  constructor
  · rintro ⟨e, he, a, ha, hrest⟩
    exact ⟨a, ⟨e, he, ha⟩, hrest⟩
  · rintro ⟨a, ⟨e, he, ha⟩, hrest⟩
    exact ⟨e, he, a, ha, hrest⟩

/-- The step stores a checkpoint with one more tool call, and the action id its thread settled is
    the tool's. -/
def Completes (cfg cfg' : Cfg) (taskId : String) (tool : ToolName) (arguments : Arguments) (cp st : WorkflowState) : Prop :=
  cfg.state.store.stored taskId = some cp ∧ cfg'.state.store.stored taskId = some st ∧ st.toolCalls ≠ cp.toolCalls ∧
    ∃ i result, (stage i cfg.state.journal).action = .settled (actionId taskId tool arguments) result

/-- The evidence under `verify_recovery` is what the workflow's scenario has for after the restart. -/
def AfterRestart (scenarios : Scenarios) (st : WorkflowState) : Prop :=
  ∃ scenario, scenarios.get? st.scenarioId = some scenario ∧ ∃ data, scenario.get? "after_restart" = some data ∧
    st.evidence.get? ToolName.verifyRecovery.value = some data

/-- The backend was asked under the action id after the restart, and answered. -/
def AskedRestarted (w : World) (key : String) : Prop :=
  ∃ a ∈ w.attempts, actionId a.state.taskId a.tool a.arguments = key ∧ (∃ result, a.answer = .ok result ∧ result.nonEmptyObj = true) ∧
    "restart_service" ∈ a.state.completedSteps

/-- The scenario has the same data for before and after the restart. -/
def SameData (scenarios : Scenarios) (st : WorkflowState) : Prop :=
  ∃ scenario, scenarios.get? st.scenarioId = some scenario ∧ scenario.get? "alert" = scenario.get? "after_restart"

theorem item_ok {d : Dict Json} {key : String} {value : Json} (h : item d key = .ok value) : d.get? key = some value := by
  unfold item at h
  split at h
  · rename_i value' hget
    cases h
    exact hget
  · cases h

/-- What a verification that the backend answers is answered with. -/
theorem verify_answer {state : WorkflowState} {arguments : Arguments} {attempt : Nat} {result : Json}
    (h : scenarioExecute scenarios state .verifyRecovery arguments attempt = .ok result) :
    ∃ scenario, scenarios.get? state.scenarioId = some scenario ∧
      scenario.get? (if "restart_service" ∈ state.completedSteps then "after_restart" else "alert") = some result := by
  unfold scenarioExecute at h
  split at h
  · cases h
  · cases h
  · rename_i scenario hget
    split at h
    · cases h
    · split at h
      · cases h
      · refine ⟨_, hget, item_ok ?_⟩
        rw [← h]
        unfold scenarioAnswer
        split <;> rfl

/-- A completed verification records the recovery data if and only if the backend was asked
    under its action id after the restart, or has the same data for both. -/
theorem recovery_evidence_iff (rt : WorkflowRuntime) (config : Settings) (scenarios : Scenarios)
    (h : Reachable { rt with engine := anyEngine, backend := anyBackend } config (.sequential scenarios) cfg)
    (hs : Step (system { rt with engine := anyEngine, backend := anyBackend } config (.sequential scenarios)) cfg cfg')
    {taskId : String} {arguments : Arguments} {cp st : WorkflowState} (hc : Completes cfg cfg' taskId .verifyRecovery arguments cp st) :
    AfterRestart scenarios st ↔
      AskedRestarted cfg.state (actionId taskId .verifyRecovery arguments) ∨ SameData scenarios st := by
  obtain ⟨hcp, hst, hcalls, i, result, hact⟩ := hc
  have hexclusive := sequential_exclusive h
  obtain ⟨i', tool, arguments', result', ⟨hact', hresults⟩, hevidence⟩ :=
    evidence_recordable hexclusive (sequential_step hexclusive hs) ⟨hcp, hst, .inr hcalls⟩
  -- one thread is in flight: the one that saves
  have hkept : cfg'.state.store ≠ cfg.state.store := by
    intro e
    rw [e, hcp] at hst
    cases hst
    exact hcalls rfl
  obtain ⟨i₀, halone⟩ : ∃ i₀, ∀ j, j ≠ i₀ → inFlight j cfg.state.journal = false := by
    cases hs with
    | enter _ he => obtain ⟨op, -, -, rfl⟩ := he; exact absurd rfl hkept
    | leave _ _ hl => obtain rfl := hl; exact absurd rfl hkept
    | crash _ hx => exact hx.1.elim
    | @call i c k r w' _ hx => obtain ⟨t, s', -, ⟨halone, -⟩, -, rfl⟩ := hx; exact ⟨i, halone⟩
  have hsaves : ∀ {j key result}, (stage j cfg.state.journal).action = .settled key result → j = i₀ := by
    intro j key result hact
    by_contra hne
    rw [alone_stage hexclusive halone hne] at hact
    cases hact
  obtain rfl := hsaves hact
  obtain rfl := hsaves hact'
  rw [hact] at hact'
  obtain ⟨hkey, rfl⟩ := Action.settled.inj hact'
  obtain rfl := (actionId_inj hkey).1
  rw [← hkey] at hresults
  have hrecorded : st.evidence.get? ToolName.verifyRecovery.value = some result := by
    rw [hevidence, Dict.get?_set, if_pos rfl]
  have hanswers : ∀ a ∈ cfg.state.attempts, actionId a.state.taskId a.tool a.arguments = actionId taskId .verifyRecovery arguments →
      a.answer = .ok result → ∃ scenario, scenarios.get? st.scenarioId = some scenario ∧
        scenario.get? (if "restart_service" ∈ a.state.completedSteps then "after_restart" else "alert") = some result := by
    intro a ha hkey' hanswer
    obtain rfl := actionId_task hkey'
    obtain ⟨htool, -⟩ := actionId_inj hkey'
    obtain ⟨st', hst', hname⟩ := ((reachable_named h).called a ha).step h hs
    rw [hst] at hst'
    cases hst'
    rw [hname]
    rw [sequential_scripted h a ha, htool] at hanswer
    exact verify_answer hanswer
  constructor
  · rintro ⟨scenario, hget, data, hdata, he⟩
    rw [hrecorded] at he
    cases he
    obtain ⟨a, ha, hkey', hanswer, hfull⟩ := mem_results.mp (by rw [hresults]; exact List.mem_singleton_self result)
    by_cases hrestarted : "restart_service" ∈ a.state.completedSteps
    · exact .inl ⟨a, ha, hkey', ⟨result, hanswer, hfull⟩, hrestarted⟩
    · obtain ⟨scenario', hget', halert⟩ := hanswers a ha hkey' hanswer
      rw [hget] at hget'
      cases hget'
      rw [if_neg hrestarted] at halert
      exact .inr ⟨scenario, hget, halert.trans hdata.symm⟩
  · rintro (⟨a, ha, hkey', ⟨x, hanswer, hfull⟩, hrestarted⟩ | ⟨scenario, hget, hsame⟩)
    · have hx : x ∈ results (actionId taskId .verifyRecovery arguments) cfg.state.journal := mem_results.mpr ⟨a, ha, hkey', hanswer, hfull⟩
      rw [hresults, List.mem_singleton] at hx
      subst hx
      obtain ⟨scenario, hget, hdata⟩ := hanswers a ha hkey' hanswer
      rw [if_pos hrestarted] at hdata
      exact ⟨scenario, hget, x, hdata, hrecorded⟩
    · obtain ⟨a, ha, hkey', hanswer, -⟩ := mem_results.mp (by rw [hresults]; exact List.mem_singleton_self result)
      obtain ⟨scenario', hget', hdata⟩ := hanswers a ha hkey' hanswer
      rw [hget] at hget'
      cases hget'
      refine ⟨scenario, hget, result, ?_, hrecorded⟩
      split at hdata
      · exact hdata
      · exact hsame.symm.trans hdata

/-! ## Verified early -/

/-- A scenario whose alert clears with the restart. -/
def clearing : Scenarios := [("checkout-pool-exhaustion", [("alert", alertRead), ("after_restart", .obj [("recovered", .bool true)])])]

def verifies : AgentDecision :=
  { stagingRestart with
    rationale := "verify the recovery"
    rationale_ok := rfl
    tool := some .verifyRecovery
    tool_ok := fun _ => rfl }

def verifyArguments : Arguments := argumentDump .verifyRecovery "checkout" "staging" none

/-- A worker's run up to the gateway's lookup. -/
def looksUp (decision : AgentDecision) : List (Move ThreadId Operation Answer) :=
  begins 0 (.runOnce "w1") 4 ++ decides 0 decision ++ continues 0 3

/-- A worker's run whose backend is asked. -/
def completesTool (decision : AgentDecision) (result : Json) : List (Move ThreadId Operation Answer) :=
  looksUp decision ++ [.call 0 (.result 0 (.ok result))] ++ continues 0 7 ++ [.leave 0]

def restartsStaging : List (Move ThreadId Operation Answer) :=
  completesTool stagingRestart (.obj [("service", .str "checkout"), ("restarted", .bool true), ("environment", .str "staging")])

def byThread (i : ThreadId) (w : World) : Bool := w.journal.all fun e => decide (e.thread = i)

theorem byThread_alone {es : List Entry} (h : es.all (fun e => decide (e.thread = i)) = true) {j : ThreadId} (hj : j ≠ i) :
    inFlight j es = false := by
  induction es with
  | nil => rfl
  | cons e es ih =>
    simp only [List.all_cons, Bool.and_eq_true, decide_eq_true_eq] at h
    obtain ⟨he, h⟩ := h
    have hne : e.thread ≠ j := by
      rw [he]
      exact Ne.symm hj
    cases e with
    | did => exact ih h
    | began k _ | ended k _ | died k =>
      have hk : k ≠ j := hne
      rw [inFlight, if_neg hk]
      exact ih h

/-- The backend answers from the scenario file. -/
def answersFrom (scenarios : Scenarios) : (c : Call) → Except PyError c.Ret → Bool
  | .execute st tool arguments n, r => sameAnswer r (scenarioExecute scenarios st tool arguments n)
  | _, _ => true

theorem answersFrom_allows {w : World} {c : Call} {r : Except PyError c.Ret} (hby : byThread i w = true)
    (h : answersFrom scenarios c r = true) : (Env.sequential scenarios).allows i w c r := by
  refine ⟨fun j hj => byThread_alone hby hj, ?_⟩
  cases c with
  | execute st tool arguments n => exact sameAnswer_eq h
  | _ => trivial

def sequentialPlayer : Simulator (system {} {} (.sequential clearing)) Operation Answer :=
  player {} {} (.sequential clearing) (fun i w c r => byThread i w && answersFrom clearing c r) (fun _ _ => false)
    (fun _ _ _ _ h => by rw [Bool.and_eq_true] at h; exact answersFrom_allows h.1 h.2) (fun _ _ _ => trivial) (fun _ _ h => by cases h)

/-- The next call stores a verification that completed, after the restart. -/
def verified (cfg cfg' : Cfg) : Bool :=
  (match (stage 0 cfg.state.journal).action with
    | .settled key _ => decide (key = actionId "t" .verifyRecovery verifyArguments)
    | _ => false) &&
  (cfg.state.store.stored "t").any fun cp => (cfg'.state.store.stored "t").any fun st =>
    decide (st.toolCalls ≠ cp.toolCalls ∧ "restart_service" ∈ cp.completedSteps)

theorem verified_completes {cfg cfg' : Cfg} (h : verified cfg cfg' = true) : ∃ cp st,
    Completes cfg cfg' "t" .verifyRecovery verifyArguments cp st ∧ "restart_service" ∈ cp.completedSteps := by
  rw [verified, Bool.and_eq_true] at h
  obtain ⟨hact, h⟩ := h
  obtain ⟨cp, hcp, h⟩ := Option.any_eq_true _ _ |>.mp h
  obtain ⟨st, hst, h⟩ := Option.any_eq_true _ _ |>.mp h
  obtain ⟨hcalls, hrestart⟩ := of_decide_eq_true h
  split at hact
  · rename_i key result ha
    exact ⟨cp, st, ⟨hcp, hst, hcalls, 0, result, of_decide_eq_true hact ▸ ha⟩, hrestart⟩
  · cases hact

/-- What the evidence has for the recovery. -/
def recoveredSaid (cfg : Cfg) : Option Bool :=
  (cfg.state.store.stored "t").bind fun st => (st.evidence.get? "verify_recovery").bind fun
    | .obj [("recovered", .bool b)] => some b
    | _ => none

def restartsFirst : List (Move ThreadId Operation Answer) :=
  createsIncident ++ restartsStaging ++ looksUp verifies ++ [.call 0 (.result 0 (.ok (.obj [("recovered", .bool true)])))] ++ continues 0 1

/-- A step of the thread in flight. -/
theorem verified_step {cfg : Cfg} {check : Cfg → Bool}
    (h : ((sequentialPlayer.move cfg (.call 0 (.ok 0))).any fun cfg' => verified cfg cfg' && check cfg') = true) :
    ∃ cfg' cp st, Step (system {} {} (.sequential clearing)) cfg cfg' ∧ Completes cfg cfg' "t" .verifyRecovery verifyArguments cp st ∧
      "restart_service" ∈ cp.completedSteps ∧ check cfg' = true := by
  obtain ⟨cfg', hmove, hc⟩ := Option.any_eq_true _ _ |>.mp h
  rw [Bool.and_eq_true] at hc
  obtain ⟨cp, st, hcompletes, hrestart⟩ := verified_completes hc.1
  exact ⟨cfg', cp, st, sequentialPlayer.move_step hmove, hcompletes, hrestart, hc.2⟩

/-- The backend was asked for the verification after the restart, and answered. -/
def askedRestarted (w : World) : Bool := w.attempts.any fun a =>
  decide (actionId a.state.taskId a.tool a.arguments = actionId "t" .verifyRecovery verifyArguments ∧
    "restart_service" ∈ a.state.completedSteps) &&
  match a.answer with
  | .ok result => result.nonEmptyObj
  | .error _ => false

theorem askedRestarted_sound {w : World} (h : askedRestarted w = true) : AskedRestarted w (actionId "t" .verifyRecovery verifyArguments) := by
  obtain ⟨a, ha, h⟩ := List.any_eq_true.mp h
  rw [Bool.and_eq_true] at h
  obtain ⟨hasked, hanswer⟩ := h
  obtain ⟨hkey, hrestart⟩ := of_decide_eq_true hasked
  split at hanswer
  · rename_i result he
    exact ⟨a, ha, hkey, ⟨result, he, hanswer⟩, hrestart⟩
  · cases hanswer

theorem restartsFirst_plays : (sequentialPlayer.play ⟨World.init, fun _ => none⟩ restartsFirst).any (fun cfg =>
    askedRestarted cfg.state && (sequentialPlayer.move cfg (.call 0 (.ok 0))).any fun cfg' => verified cfg cfg' && true) = true := by
  decide +kernel

theorem recovery_evidence_restarted : ∃ cfg cfg' cp st, Reachable {} {} (.sequential clearing) cfg ∧
    Completes cfg cfg' "t" .verifyRecovery verifyArguments cp st ∧ "restart_service" ∈ cp.completedSteps ∧ AfterRestart clearing st := by
  obtain ⟨cfg, h, hc⟩ := sequentialPlayer.play_exists restartsFirst_plays
  rw [Bool.and_eq_true] at hc
  obtain ⟨cfg', cp, st, hs, hcompletes, hrestart, -⟩ := verified_step hc.2
  exact ⟨cfg, cfg', cp, st, h, hcompletes, hrestart,
    (recovery_evidence_iff {} {} clearing h hs hcompletes).mpr (.inl (askedRestarted_sound hc.1))⟩

/-- The recovery is verified, the service restarted, and the recovery verified again. -/
def verifiesFirst : List (Move ThreadId Operation Answer) :=
  createsIncident ++ completesTool verifies alertRead ++ restartsStaging ++ looksUp verifies

theorem verifiesFirst_plays : (sequentialPlayer.play ⟨World.init, fun _ => none⟩ verifiesFirst).any (fun cfg =>
    (sequentialPlayer.move cfg (.call 0 (.ok 0))).any fun cfg' => verified cfg cfg' && decide (recoveredSaid cfg' = none)) = true := by
  decide +kernel

theorem clearing_after {scenarioId : String} {scenario : Dict Json} (h : clearing.get? scenarioId = some scenario) :
    scenario.get? "after_restart" = some (.obj [("recovered", .bool true)]) := by
  simp only [clearing, Dict.get?, List.lookup_cons, List.lookup_nil] at h
  split at h
  · cases h
    rfl
  · cases h

/-- The verification after the restart is answered with the alert from before it. -/
theorem verified_early : ∃ cfg cfg' cp st, Reachable {} {} (.sequential clearing) cfg ∧
    Step (system {} {} (.sequential clearing)) cfg cfg' ∧ Completes cfg cfg' "t" .verifyRecovery verifyArguments cp st ∧
    "restart_service" ∈ cp.completedSteps ∧ ¬ AfterRestart clearing st := by
  obtain ⟨cfg, h, hc⟩ := sequentialPlayer.play_exists verifiesFirst_plays
  obtain ⟨cfg', cp, st, hs, hcompletes, hrestart, hsaid⟩ := verified_step hc
  refine ⟨cfg, cfg', cp, st, h, hs, hcompletes, hrestart, ?_⟩
  rintro ⟨scenario, hget, data, hdata, he⟩
  rw [clearing_after hget] at hdata
  cases hdata
  obtain ⟨-, hst, -⟩ := hcompletes
  have he : st.evidence.get? "verify_recovery" = _ := he
  have hsaid := of_decide_eq_true hsaid
  simp [recoveredSaid, hst, he] at hsaid

end AgentResilience
