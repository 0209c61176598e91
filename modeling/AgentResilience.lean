import AgentResilience.Lib.Concurrent
import AgentResilience.Lifecycle
import AgentResilience.Guarantee
import AgentResilience.ApprovalSafety
import AgentResilience.RestartGate
import AgentResilience.Outcomes
import AgentResilience.AtMostOnce
import AgentResilience.LeaseFencing
import AgentResilience.AtRest
import AgentResilience.HumanGate
import AgentResilience.AttemptBudget
import AgentResilience.LiveDelivery
import AgentResilience.LiveRows
import AgentResilience.DeadLetters
import AgentResilience.Autonomy
import AgentResilience.Checkpoint
import AgentResilience.Clients
import AgentResilience.SideEffects
import AgentResilience.AuditWalk
import AgentResilience.Termination
import AgentResilience.System
import AgentResilience.AwsTools
import AgentResilience.Worker
import AgentResilience.Decision
import AgentResilience.Lib.DateTime
import AgentResilience.Runtime
import AgentResilience.Store
import AgentResilience.Policy
import AgentResilience.ActionKeys
import AgentResilience.AwsEvents
import AgentResilience.Sse
import AgentResilience.StoredTimes
import AgentResilience.WorkerCalls
import AgentResilience.Requests
import AgentResilience.Episodes
import AgentResilience.LiveStream
import AgentResilience.Lib.Exchanges
import AgentResilience.HumanTrace
import AgentResilience.LoopDetector
import AgentResilience.Models
import AgentResilience.Lib.Sha256
import AgentResilience.Lib.Json
import AgentResilience.Lib.Table
import AgentResilience.QueueHistory
import AgentResilience.AwsReplay
import AgentResilience.Persisted
import AgentResilience.ModelFailures
import AgentResilience.Attempts
import AgentResilience.RecoveryEvidence
import AgentResilience.AwsCreation
import AgentResilience.Backoff
import AgentResilience.Cloudwatch
import AgentResilience.Dashboard
import AgentResilience.Retries
import AgentResilience.CrashTransparency
import AgentResilience.Growth
import AgentResilience.Isolation
import AgentResilience.AwsQueue
import AgentResilience.AwsConsent
import AgentResilience.AwsHistory
import AgentResilience.WorkerLoop
