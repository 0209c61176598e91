/-
  AgentResilience.Scenarios — the local backend (`ScenarioBackend` of tools.py): it answers
  from a scenario file, and times out on a tool's first attempts, as many as the scenario
  counts transient failures of it.

  `execute_retryable`: it fails for another try on those attempts only.
-/
import Mathlib.Algebra.Group.Int.Defs
import AgentResilience.Policy

namespace AgentResilience

/-- A scenario file: the scenarios by their ids. -/
abbrev Scenarios : Type := Dict (Dict Json)

/-- `int(value)`, of a string with a sign and ASCII digits only. -/
def Json.toInt : Json → Except PyError Int
  | .int n => .ok n
  | .bool b => .ok (if b then 1 else 0)
  | .float d =>
    let n : Int := if 0 ≤ d.exp then d.digits * 10 ^ d.exp.toNat else d.digits / 10 ^ (-d.exp).toNat
    .ok (if d.neg then -n else n)
  | .str s => match s.toInt? with
    | some n => .ok n
    | none => .error (.value "invalid literal for int()")
  | _ => .error (.other "TypeError")

/-- `int(scenario.get("transient_failures", {}).get(tool.value, 0))`. -/
def transientCount (scenario : Dict Json) (tool : ToolName) : Except PyError Int :=
  match (scenario.get? "transient_failures").getD (.obj []) with
  | .obj counts => Json.toInt ((Dict.get? counts tool.value).getD (.int 0))
  | _ => .error (.other "AttributeError")

/-- `d[key]`. -/
def item (d : Dict Json) (key : String) : Except PyError Json :=
  match d.get? key with
  | some value => .ok value
  | none => .error (.other "KeyError")

/-- What the scenario has for a tool. -/
def scenarioAnswer (scenario : Dict Json) (state : WorkflowState) (arguments : Arguments) : ToolName → Except PyError Json
  | .readAlert => item scenario "alert"
  | .inspectMetrics => item scenario "metrics"
  | .queryLogs => item scenario "logs"
  | .dependencyHealth => item scenario "dependencies"
  | .restartService => do
    let service ← item arguments "service"
    let environment ← item arguments "environment"
    return .obj [("service", service), ("restarted", .bool true), ("environment", environment)]
  | .verifyRecovery =>
    if "restart_service" ∈ state.completedSteps then item scenario "after_restart" else item scenario "alert"
  | .deleteDatabase => .error (.permanent "blocked tool reached backend")

/-- `ScenarioBackend.execute`. -/
def scenarioExecute (scenarios : Scenarios) (state : WorkflowState) (tool : ToolName) (arguments : Arguments) (attempt : Nat) :
    Except PyError Json :=
  match scenarios.get? state.scenarioId with
  | none | some [] => .error (.permanent s!"unknown scenario: {state.scenarioId}")
  | some scenario =>
    match transientCount scenario tool with
    | .error e => .error e
    | .ok transientCount =>
      if 0 < attempt ∧ attempt ≤ transientCount then .error (.retryable s!"{tool.value} downstream timed out")
      else scenarioAnswer scenario state arguments tool

variable {scenarios : Scenarios} {scenario : Dict Json} {state : WorkflowState} {tool : ToolName} {arguments : Arguments}
  {attempt : Nat} {e : PyError}

theorem item_retryable {d : Dict Json} {key : String} (h : item d key = .error e) : e.isRetryable = false := by
  unfold item at h
  split at h <;> cases h
  rfl

theorem scenarioAnswer_retryable (h : scenarioAnswer scenario state arguments tool = .error e) : e.isRetryable = false := by
  cases tool with
  | readAlert | inspectMetrics | queryLogs | dependencyHealth => exact item_retryable h
  | restartService =>
    unfold scenarioAnswer at h
    cases hs : item arguments "service" with
    | error e' => rw [hs] at h; cases h; exact item_retryable hs
    | ok service =>
      cases he : item arguments "environment" with
      | error e' => rw [hs, he] at h; cases h; exact item_retryable he
      | ok environment => rw [hs, he] at h; cases h
  | verifyRecovery =>
    by_cases hr : "restart_service" ∈ state.completedSteps
    · simp only [scenarioAnswer, if_pos hr] at h
      exact item_retryable h
    · simp only [scenarioAnswer, if_neg hr] at h
      exact item_retryable h
  | deleteDatabase => cases h; rfl

theorem toInt_retryable {value : Json} (h : Json.toInt value = .error e) : e.isRetryable = false := by
  cases value with
  | str s =>
    simp only [Json.toInt] at h
    split at h <;> cases h
    rfl
  | null | arr | obj => cases h; rfl
  | _ => cases h

theorem transientCount_retryable (h : transientCount scenario tool = .error e) : e.isRetryable = false := by
  unfold transientCount at h
  split at h
  · exact toInt_retryable h
  · cases h; rfl

/-- The backend fails for another try on the attempts the scenario counts only. -/
theorem scenarioExecute_retryable (h : scenarioExecute scenarios state tool arguments attempt = .error e) (he : e.isRetryable = true) :
    ∃ scenario k, scenarios.get? state.scenarioId = some scenario ∧ transientCount scenario tool = .ok k ∧
      0 < attempt ∧ attempt ≤ k := by
  unfold scenarioExecute at h
  split at h
  · cases h; cases he
  · cases h; cases he
  · rename_i scenario hget
    split at h
    · rename_i hk
      cases h
      rw [transientCount_retryable hk] at he
      cases he
    · rename_i k hk
      split at h
      · rename_i hle
        exact ⟨_, k, hget, hk, hle⟩
      · rw [scenarioAnswer_retryable h] at he
        cases he

end AgentResilience
