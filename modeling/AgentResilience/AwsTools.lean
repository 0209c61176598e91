/-
  AgentResilience.AwsTools — the AWS tool backend (aws_tools.py) over the AWS clients'
  calls. The environment argument selects the metric dimensions; the ECS cluster is
  configured and the ECS service is the configured prefix with the requested service.
-/
import AgentResilience.Contracts
import AgentResilience.Lib.DateTime

namespace AgentResilience

open Interaction.Prog (attempt throw ofExcept)

structure AwsConfig where
  ecsCluster : String := "agent-resilience-dev"
  ecsServicePrefix : String := ""
  cloudwatchLogGroupPrefix : String := "/ecs/"
  serviceMetricNamespace : String := "AgentResilience/Services"

namespace AWSOperationsBackend

variable (config : AwsConfig)

def now : Py Timestamp := .perform Call.clock

def minutes (n : Int) : Timestamp := n * 60000000

def isoformat (t : Timestamp) : Json := .str (DateTime.ofMicroseconds t).isoformat

def serviceName (requested : String) : String := config.ecsServicePrefix ++ requested

def readAlert (arguments : Arguments) : Py Json := do
  let service := argumentText arguments "service"
  let alarms ← onAws (.describeAlarms service 25)
  let rows ← alarms.mapM fun alarm => do
    let default ← now
    pure (Json.obj [("name", .str alarm.name), ("state", .str alarm.stateValue),
      ("reason", .str (alarm.stateReason.getD "")), ("updated_at", isoformat (alarm.stateUpdated.getD default))])
  pure (.obj [("service", .str service), ("alarms", .arr rows),
    ("in_alarm", .bool (alarms.any (·.stateValue = "ALARM")))])

/-- `float(x)` of a number of a response. -/
def toFloat : Json → Except PyError Decimal
  | .float d => .ok d
  | .int n => .ok ⟨n < 0, n.natAbs, 0⟩
  | _ => .error (.other "TypeError")

/-- The order `max` compares timestamps by. -/
instance : Preorder Timestamp := Int.instLinearOrder.toPreorder

/-- `float(latest.get(statistic, latest.get("Average", 0)))` of the latest datapoint. -/
def latestValue (statistic : String) (points : List Datapoint) : Except PyError (Option Decimal) :=
  match points.argmax (·.timestamp) with
  | none => .ok none
  | some latest =>
    (toFloat ((latest.fields.get? statistic).getD ((latest.fields.get? "Average").getD (.int 0)))).map some

structure Metrics where
  service : String
  environment : String
  errorRate : Option Decimal
  latency : Option Decimal

def optFloat : Option Decimal → Json
  | some d => .float d
  | none => .null

def Metrics.toJson (m : Metrics) : Json :=
  .obj [("service", .str m.service), ("environment", .str m.environment), ("window_minutes", .int 15),
    ("error_rate_percent", optFloat m.errorRate), ("p95_latency_ms", optFloat m.latency)]

/-- One metric of `_inspect_metrics`: a percentile is asked for as an extended statistic. -/
def metricValue (dimensions : List (String × String)) (start stop : Timestamp) (metric statistic : String) :
    Py (Option Decimal) := do
  let extended := statistic.startsWith "p"
  let points ← onAws (.getMetricStatistics config.serviceMetricNamespace metric dimensions start stop 60
    (if extended then [] else [statistic]) (if extended then [statistic] else []))
  ofExcept (latestValue statistic points)

def inspectMetrics (arguments : Arguments) : Py Metrics := do
  let service := argumentText arguments "service"
  let environment := argumentText arguments "environment"
  let stop ← now
  let start := stop - minutes 15
  let dimensions := [("ServiceName", service), ("Environment", environment)]
  let errorRate ← metricValue config dimensions start stop "ErrorRate" "Average"
  let latency ← metricValue config dimensions start stop "Latency" "p95"
  pure ⟨service, environment, errorRate, latency⟩

/-- `s.rstrip("/")`. -/
def rstripSlash (s : String) : String := String.ofList (s.toList.reverse.dropWhile (· = '/')).reverse

def queryLogs (arguments : Arguments) : Py Json := do
  let group := rstripSlash config.cloudwatchLogGroupPrefix ++ "/" ++ argumentText arguments "service"
  let t ← now
  let found ← onAws (.filterLogEvents group ((t - minutes 15) / 1000) "?ERROR ?Exception ?timeout ?503" 50)
  let events := found.map fun e =>
    Json.obj [("timestamp", .int e.timestamp), ("message", .str (e.message.take 2000).toString)]
  pure (.obj [("log_group", .str group), ("matches", .int events.length), ("events", .arr events)])

structure ServiceHealth where
  service : String
  status : Option String
  desiredCount : Nat
  runningCount : Nat
  pendingCount : Nat
  deployments : List Deployment

def ServiceHealth.toJson (h : ServiceHealth) : Json :=
  .obj [("cluster", .str config.ecsCluster), ("service", .str h.service), ("status", Json.optStr h.status),
    ("desired_count", .int h.desiredCount), ("running_count", .int h.runningCount),
    ("pending_count", .int h.pendingCount),
    ("deployments", .arr (h.deployments.map fun d => .obj [("id", Json.optStr d.id),
      ("status", Json.optStr d.status), ("rollout_state", Json.optStr d.rolloutState)]))]

def serviceHealth (arguments : Arguments) : Py ServiceHealth := do
  let service := serviceName config (argumentText arguments "service")
  let response ← onAws (.describeServices config.ecsCluster [service])
  match response.failures, response.services with
  | failure :: _, _ =>
    let reason := failure.getD "unknown"
    throw (.permanent s!"ECS service lookup failed: {reason}")
  | [], [] => throw (.permanent s!"ECS service not found: {service}")
  | [], item :: _ =>
    pure ⟨service, item.status, item.desiredCount.getD 0, item.runningCount.getD 0, item.pendingCount.getD 0,
      (item.deployments.getD []).take 5⟩

def restartService (arguments : Arguments) : Py Json := do
  let service := serviceName config (argumentText arguments "service")
  let response ← onAws (.updateService config.ecsCluster service true)
  match response.deployments.getD [⟨none, none, none⟩] with
  | [] => throw (.other "IndexError")
  | deployment :: _ =>
    pure (.obj [("cluster", .str config.ecsCluster), ("service", .str service),
      ("environment", .str (argumentText arguments "environment")), ("deployment_id", Json.optStr deployment.id),
      ("deployment_status", Json.optStr deployment.status), ("restarted", .bool true)])

def ServiceHealth.rolloutComplete (h : ServiceHealth) : Bool :=
  h.desiredCount ≤ h.runningCount && h.pendingCount == 0 &&
    match h.deployments with
    | [d] => d.rolloutState == none || d.rolloutState == some "COMPLETED"
    | _ => false

/-- `x >= 1.0`. -/
def atLeastOne (d : Decimal) : Bool :=
  !d.neg && (if 0 ≤ d.exp then d.digits ≠ 0 else 10 ^ (-d.exp).toNat ≤ d.digits)

def verifyRecovery (arguments : Arguments) : Py Json := do
  let health ← serviceHealth config arguments
  if !health.rolloutComplete then throw (.retryable "ECS replacement deployment is not stable yet")
  else do
    let metrics ← inspectMetrics config arguments
    if metrics.errorRate.all atLeastOne then
      throw (.retryable "healthy post-restart CloudWatch evidence is not available yet")
    else pure (.obj [("service", health.toJson config), ("metrics", metrics.toJson), ("recovered", .bool true)])

def dispatch (tool : ToolName) (arguments : Arguments) : Py Json :=
  match tool with
  | .readAlert => readAlert arguments
  | .inspectMetrics => do return (← inspectMetrics config arguments).toJson
  | .queryLogs => queryLogs config arguments
  | .dependencyHealth => do return (← serviceHealth config arguments).toJson config
  | .restartService => restartService config arguments
  | .verifyRecovery => verifyRecovery config arguments
  | .deleteDatabase => throw (.permanent s!"AWS backend does not implement {tool.value}")

/-- The retryable codes of `_classify`. -/
def retryableCode (code : String) : Bool :=
  code.startsWith "Throttl" || ["InternalError", "InternalFailure", "RequestLimitExceeded", "ServiceUnavailable",
    "ServiceUnavailableException"].contains code

/-- `execute` with its `except` clauses; an AWS client's error is classified. -/
def execute : ToolBackend := fun _ tool arguments _ => do
  match ← attempt (dispatch config tool arguments) with
  | .ok result => pure result
  | .error (.client code) =>
    let message := s!"AWS tool {tool.value} failed ({code})"
    throw (if retryableCode code then .retryable message else .permanent message)
  | .error (.botocore name) => throw (.retryable s!"AWS tool {tool.value} transport failure ({name})")
  | .error e => throw e

end AWSOperationsBackend

end AgentResilience
