/-
  AgentResilience.Decision — the deterministic decision engine (decision.py): a pure
  function of the checkpoint. It collects the four kinds of evidence in order, asks for
  the restart, verifies recovery, and completes or fails on the verified error rate.
-/
import AgentResilience.Contracts

namespace AgentResilience

/-! ## `float(x) < 1.0` -/

/-- A run of digits with single underscores between them: its value, its length, the rest. -/
def takeDigits : List Char → Nat → Nat → Nat × Nat × List Char
  | '_' :: c :: cs, v, n => if 0 < n ∧ c.isDigit then takeDigits (c :: cs) v n else (v, n, '_' :: c :: cs)
  | c :: cs, v, n => if c.isDigit then takeDigits cs (v * 10 + (c.toNat - 48)) (n + 1) else (v, n, c :: cs)
  | [], v, n => (v, n, [])

def takeSign : List Char → Bool × List Char
  | '-' :: cs => (true, cs)
  | '+' :: cs => (false, cs)
  | cs => (false, cs)

/-- The exponent of a float literal, which must end it. -/
def takeExponent : List Char → Option Int
  | [] => some 0
  | c :: cs =>
    if c = 'e' ∨ c = 'E' then
      let (neg, cs) := takeSign cs
      match takeDigits cs 0 0 with
      | (v, n, []) => if n = 0 then none else some (if neg then -v else v)
      | _ => none
    else none

/-- A float literal without its sign, as `digits · 10 ^ exp`. -/
def floatBody (cs : List Char) : Option (Nat × Int) :=
  let (v, n, cs) := takeDigits cs 0 0
  let (v, n, m, cs) :=
    match cs with
    | '.' :: cs => let (w, m, cs') := takeDigits cs 0 0; (v * 10 ^ m + w, n + m, m, cs')
    | cs => (v, n, 0, cs)
  if n = 0 then none else (takeExponent cs).map fun e => (v, e - m)

/-- The float nearest to `digits · 10 ^ exp` is below one: half a unit in the last place
    below one already rounds to it. -/
def belowOne (digits : Nat) (exp : Int) : Bool :=
  if 0 ≤ exp then digits = 0 else digits * 2 ^ 54 < (2 ^ 54 - 1) * 10 ^ (-exp).toNat

/-- `float(s) < 1.0` for text. Only ASCII digits and the blanks of `Char.isWhitespace` are read; Python takes other
    decimal digits and strips other blanks too. -/
def textBelowOne (s : String) : Except PyError Bool :=
  let cs := (s.toList.dropWhile Char.isWhitespace).reverse.dropWhile Char.isWhitespace |>.reverse
  let (neg, cs) := takeSign cs
  let word := (String.ofList cs).toLower
  if word = "inf" ∨ word = "infinity" then .ok neg
  else if word = "nan" then .ok false
  else match floatBody cs with
    | some (digits, exp) => .ok (neg || belowOne digits exp)
    | none => .error (.value s!"could not convert string to float: {s}")

/-- `float(x) < 1.0`. -/
def floatBelowOne : Json → Except PyError Bool
  | .int n =>
    if 2 ^ 1024 - 2 ^ 970 ≤ n.natAbs then .error (.overflow "int too large to convert to float")
    else .ok (n < 1)
  | .bool b => .ok !b
  | .float d => .ok (d.neg || belowOne d.digits d.exp)
  | .str s => textBelowOne s
  | .null | .arr _ | .obj _ => .error (.other "TypeError")

/-! ## The engine -/

namespace DeterministicDecisionEngine

def defaults : AgentToolArguments where
  service := some "checkout-service"
  environment := some "production"

/-- A request for `tool` with the default arguments. -/
def request (tool : ToolName) (rationale : String) (diagnosis : Option String := none)
    (h : (1 ≤ rationale.length && rationale.length ≤ 1000) = true := by decide) : AgentDecision where
  action := .useTool
  tool := some tool
  arguments := defaults
  rationale := rationale
  diagnosis := diagnosis
  rationale_ok := h
  tool_ok := fun _ => rfl

def sequence : List (ToolName × AgentDecision) :=
  [(.readAlert, request .readAlert "collect read_alert evidence"),
   (.inspectMetrics, request .inspectMetrics "collect inspect_metrics evidence"),
   (.queryLogs, request .queryLogs "collect query_logs evidence"),
   (.dependencyHealth, request .dependencyHealth "collect dependency_health evidence")]

def restart : AgentDecision :=
  request .restartService "evidence supports a bounded service restart" (some "database connection pool exhaustion")

def verify : AgentDecision := request .verifyRecovery "verify recovery"

def complete : AgentDecision where
  action := .complete
  rationale := "recovery evidence meets threshold"
  diagnosis := some "database connection pool exhaustion"
  remediation := some "checkout-service restarted after approval"
  finalAnswer := some "Checkout recovered: error rate is below 1% after the approved restart."

def escalate : AgentDecision where
  action := .fail
  rationale := "restart did not restore service health"
  diagnosis := some "upstream dependency failure"
  remediation := some "escalate to the dependency owner"

/-- `verification.get("metrics", verification).get("error_rate_percent")`. -/
def errorRate : Json → Except PyError (Option Json)
  | .obj verification =>
    match (Dict.get? verification "metrics").getD (.obj verification) with
    | .obj metrics => .ok (Dict.get? metrics "error_rate_percent")
    | _ => .error (.other "AttributeError")
  | _ => .error (.other "AttributeError")

/-- `rate is not None and float(rate) < 1.0`. -/
def recovered : Option Json → Except PyError Bool
  | none | some .null => .ok false
  | some rate => floatBelowOne rate

def decide (state : WorkflowState) : Except PyError AgentDecision :=
  match sequence.find? fun x => !state.evidence.contains x.1.value with
  | some x => .ok x.2
  | none =>
    if "restart_service" ∉ state.completedSteps then .ok restart
    else match state.evidence.get? "verify_recovery" with
      | none => .ok verify
      | some verification => do
        let rate ← errorRate verification
        let recovered ← recovered rate
        pure (if recovered then complete else escalate)

end DeterministicDecisionEngine

/-! ## Decisions for written runs -/

def readAlertRequest : AgentDecision where
  action := .useTool
  rationale := "collect the alert"
  tool := some .readAlert
  arguments := { service := some "checkout" }

def productionRestart : AgentDecision where
  action := .useTool
  rationale := "restart the service"
  tool := some .restartService
  arguments := { service := some "checkout", environment := some "production" }

def stagingRestart : AgentDecision where
  action := .useTool
  rationale := "restart the service"
  tool := some .restartService
  arguments := { service := some "checkout", environment := some "staging" }

def completeDecision : AgentDecision where
  action := .complete
  rationale := "recovered"
  finalAnswer := some "recovered"

end AgentResilience
