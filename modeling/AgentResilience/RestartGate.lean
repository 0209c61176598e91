/-
  AgentResilience.RestartGate — the restart gate and the AWS backend. The policy gates a
  restart by the environment argument; `restartService` forces a deployment of the
  service the configured prefix and the service argument name, in the one configured
  cluster, whatever the environment says. So a restart asked for as `staging` or `test`
  forces a deployment nobody approved (`staging_restart_unapproved`).

  `restart_approved`: with an engine that asks for a non-production restart only where
  the workflow already has an approved restart of the service, every forced deployment
  is one of an approved restart.
-/
import AgentResilience.ApprovalSafety
import AgentResilience.AwsTools

namespace AgentResilience

open Interaction
open Interaction.Prog (makes_bind makes_attempt makes_perform makes_ofExcept)

/-! ## The backend's calls -/

/-- The calls the backend may make for a tool request. -/
def AwsCalls (config : AwsConfig) (tool : ToolName) (arguments : Arguments) : Call → Prop
  | .aws (.updateService cluster service _) => tool = .restartService ∧ cluster = config.ecsCluster ∧
      service = AWSOperationsBackend.serviceName config (argumentText arguments "service")
  | .aws _ | .clock => True
  | _ => False

namespace AWSOperationsBackend

variable {config : AwsConfig} {tool : ToolName} {arguments : Arguments}

theorem now_calls : now.Makes (AwsCalls config tool arguments) := makes_perform trivial

theorem mapM_calls {α β : Type} {f : α → Py β} (h : ∀ a, (f a).Makes (AwsCalls config tool arguments)) (xs : List α) :
    (xs.mapM f).Makes (AwsCalls config tool arguments) := by
  induction xs with
  | nil => trivial
  | cons x xs ih =>
    rw [List.mapM_cons]
    exact makes_bind (h x) fun _ => makes_bind ih fun _ => trivial

theorem metricValue_calls (dimensions : List (String × String)) (start stop : Timestamp) (metric statistic : String) :
    (metricValue config dimensions start stop metric statistic).Makes (AwsCalls config tool arguments) :=
  makes_bind (makes_perform trivial) fun _ => makes_ofExcept _

theorem inspectMetrics_calls : (inspectMetrics config arguments).Makes (AwsCalls config tool arguments) :=
  makes_bind now_calls fun _ => makes_bind (metricValue_calls _ _ _ _ _) fun _ =>
    makes_bind (metricValue_calls _ _ _ _ _) fun _ => trivial

theorem serviceHealth_calls : (serviceHealth config arguments).Makes (AwsCalls config tool arguments) := by
  refine makes_bind (makes_perform trivial) fun response => ?_
  split <;> trivial

theorem restartService_calls : (restartService config arguments).Makes (AwsCalls config .restartService arguments) := by
  refine makes_bind (makes_perform ⟨rfl, rfl, rfl⟩) fun response => ?_
  split <;> trivial

theorem dispatch_calls : (dispatch config tool arguments).Makes (AwsCalls config tool arguments) := by
  cases tool with
  | readAlert =>
    refine makes_bind (makes_perform trivial) fun alarms => makes_bind (mapM_calls (fun alarm => ?_) alarms) fun _ => trivial
    exact makes_bind now_calls fun _ => trivial
  | inspectMetrics => exact makes_bind inspectMetrics_calls fun _ => trivial
  | queryLogs => exact makes_bind now_calls fun _ => makes_bind (makes_perform trivial) fun _ => trivial
  | dependencyHealth => exact makes_bind serviceHealth_calls fun _ => trivial
  | restartService => exact restartService_calls
  | verifyRecovery =>
    refine makes_bind serviceHealth_calls fun health => ?_
    split
    · trivial
    · refine makes_bind inspectMetrics_calls fun metrics => ?_
      split <;> trivial
  | deleteDatabase => trivial

theorem execute_calls (st : WorkflowState) (n : Nat) :
    (execute config st tool arguments n).Makes (AwsCalls config tool arguments) := by
  refine makes_bind (makes_attempt dispatch_calls) fun o => ?_
  split <;> trivial

end AWSOperationsBackend

/-! ## Approved restarts -/

/-- The workflow has an approved restart of the service. -/
def RestartApproved (taskId service : String) (s : SQLiteStore) : Prop :=
  ∃ arguments, ProductionRestart .restartService arguments ∧ argumentText arguments "service" = service ∧
    Approved taskId .restartService arguments s

theorem RestartApproved.later {taskId service : String} {s s' : SQLiteStore} (h : RestartApproved taskId service s)
    (hl : Later s s') : RestartApproved taskId service s' := by
  obtain ⟨arguments, hr, hs, ha⟩ := h
  exact ⟨arguments, hr, hs, ha.later hl⟩

/-- Every forced deployment about to happen is one of an approved restart of the service,
    by the workflow whose delivery the thread works on. -/
def DeploymentsApproved (config : AwsConfig) (cfg : Cfg) : Prop :=
  ∀ i cluster service force k, cfg.pool i = some (.call (.aws (.updateService cluster service force)) k) →
    ∃ delivery requested, delivering i cfg.state.journal = some delivery ∧
      service = AWSOperationsBackend.serviceName config requested ∧
      RestartApproved delivery.taskId requested cfg.state.store

/-- The engine asks for a restart outside production only where the workflow has an
    approved restart of the service. -/
def Guard.restarts : Guard where
  asked := Set.univ
  admits s taskId tool arguments := tool = .restartService → argumentText arguments "environment" ≠ "production" →
    RestartApproved taskId (argumentText arguments "service") s
  admits_asked _ := Set.mem_univ _
  admits_later hl h ht he := (h ht he).later hl

/-- What the backend's deployments must satisfy. -/
def deployObs (config : AwsConfig) (i : ThreadId) (c : Call) (w : World) : Prop :=
  match c with
  | .aws (.updateService _ service _) => ∃ delivery requested, delivering i w.journal = some delivery ∧
      service = AWSOperationsBackend.serviceName config requested ∧ RestartApproved delivery.taskId requested w.store
  | _ => True

variable {rt : WorkflowRuntime} {config : Settings}

theorem awsBackend_ok (d : LoopDetector) (aws : AwsConfig) (env : Env) :
    BackendOk d .restarts (deployObs aws) env (AWSOperationsBackend.execute aws) := by
  intro i w st tool arguments n hw hm
  refine .of_makes ((AWSOperationsBackend.execute_calls st n).mono fun c hc => ⟨?_, fun w' hf _ => ?_⟩)
  · cases c <;> first | rfl | cases hc
  · cases c with
    | store c => cases hc
    | aws c =>
      intro _
      cases c with
      | updateService cluster service force =>
        obtain ⟨rfl, -, rfl⟩ := hc
        obtain ⟨delivery, hd, ht⟩ := hw.frame hf
        refine ⟨delivery, _, hd, rfl, ?_⟩
        rw [ht]
        have hm := hm.later hf.later
        by_cases he : argumentText arguments "environment" = "production"
        · have hr : ProductionRestart .restartService arguments := ⟨rfl, hm.validated, he⟩
          exact ⟨arguments, hr, rfl, hm.approved hr⟩
        · exact hm.admitted (fun hr => he hr.2.2) rfl he
      | _ => trivial
    | execute => cases hc
    | _ => exact fun h => by cases h

theorem restart_approved {aws : AwsConfig} {cfg : Cfg}
    (h : Reachable { rt with engine := anyEngine, backend := AWSOperationsBackend.execute aws } config
      (.guarded .restarts) cfg) : DeploymentsApproved aws cfg := by
  intro i cluster service force k hp
  have hl : Lawful rt.loopDetector .restarts (deployObs aws) (.guarded .restarts)
      { rt with engine := anyEngine, backend := AWSOperationsBackend.execute aws } :=
    ⟨rfl, rfl, awsBackend_ok _ aws _, fun _ _ _ _ h => h⟩
  exact (reachable_cover hl h).obs hp rfl

/-- The guard, on an answer that asks for no restart outside production. -/
def asksProduction : (c : Call) → Except PyError c.Ret → Bool
  | .decide _, .ok decision =>
    decision.asked.all fun tool => match validateAndDecide tool decision.arguments.modelDump with
      | .ok (validated, _) => decide (argumentText validated "environment" = "production")
      | .error _ => true
  | _, _ => true

theorem asksProduction_allows {s : SQLiteStore} {c : Call} {r : Except PyError c.Ret} (h : asksProduction c r = true) :
    Guard.restarts.allows s c r := by
  cases c with
  | decide state =>
    cases r with
    | error e => trivial
    | ok decision =>
      intro tool validated policy htool hv ht he
      simp [asksProduction, htool, hv] at h
      exact absurd h he
  | _ => trivial

def awsRuntime : WorkflowRuntime := { backend := AWSOperationsBackend.execute {} }

/-- Schedules of an engine that asks for production only. -/
def productionPlayer : Simulator (system awsRuntime {} (.guarded .restarts)) Operation Answer :=
  player awsRuntime {} (.guarded .restarts) (fun _ _ c r => asksProduction c r) (fun _ _ => true)
    (fun _ _ _ _ h => asksProduction_allows h) (fun _ _ _ => trivial) (fun _ _ _ => trivial)

/-- Thread `i` is about to force a deployment of `service`. -/
def forces (i : ThreadId) (service : String) (cfg : Cfg) : Bool :=
  match cfg.pool i with
  | some (.call (.aws (.updateService _ s _)) _) => decide (s = service)
  | _ => false

theorem forces_pool {i : ThreadId} {service : String} {cfg : Cfg} (h : forces i service cfg = true) :
    ∃ cluster force k, cfg.pool i = some (.call (.aws (.updateService cluster service force)) k) := by
  unfold forces at h
  split at h
  · rename_i cluster s force k hp
    obtain rfl := of_decide_eq_true h
    exact ⟨cluster, force, k, hp⟩
  · cases h

theorem approvedRestart_forces :
    (productionPlayer.play ⟨World.init, fun _ => none⟩ approvedRestart).any (forces 3 "checkout") = true := by
  decide +kernel

theorem restart_approved_checkout : ∃ cfg, Reachable awsRuntime {} (.guarded .restarts) cfg ∧
    forces 3 "checkout" cfg = true ∧ DeploymentsApproved {} cfg := by
  obtain ⟨cfg, h, hc⟩ := productionPlayer.play_exists approvedRestart_forces
  exact ⟨cfg, h, hc, @restart_approved awsRuntime {} {} cfg h⟩

/-! ## A restart nobody approved -/

/-- A staging restart asked for and carried out in one delivery. -/
def stagingRun : List (Move ThreadId Operation Answer) :=
  createsIncident ++ begins 1 (.runOnce "w1") 4 ++ decides 1 stagingRestart ++ continues 1 3

theorem stagingRun_forces : ((freePlayer awsRuntime {}).play ⟨World.init, fun _ => none⟩ stagingRun).any
    (fun cfg => forces 1 "checkout" cfg && cfg.state.store.approvals.rows.isEmpty) = true := by
  decide +kernel

/-- The production service's deployment is forced, and no approval was ever asked for. -/
theorem staging_restart_unapproved : ∃ cfg, Reachable awsRuntime {} .free cfg ∧ ¬ DeploymentsApproved {} cfg := by
  obtain ⟨cfg, h, hc⟩ := (freePlayer awsRuntime {}).play_exists stagingRun_forces
  simp only [Bool.and_eq_true, List.isEmpty_iff] at hc
  obtain ⟨cluster, force, k, hp⟩ := forces_pool hc.1
  refine ⟨cfg, h, fun hd => ?_⟩
  obtain ⟨delivery, requested, -, -, arguments, -, -, ha⟩ := hd _ _ _ _ _ hp
  simp [Approved, SQLiteStore.approvalStatus, Table.get, hc.2] at ha

end AgentResilience
