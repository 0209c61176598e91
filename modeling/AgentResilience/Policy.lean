/-
  AgentResilience.Policy — what a tool request must pass before it is anything else:
  argument validation (the models of tools.py) and the permission policy (policy.py).

  `validateArguments` fills in the defaults and drops what the tool's model does not
  name. `evaluate` is the fail-closed policy: deletion is prohibited, a production
  restart needs an approval, everything else is allowed. `validate_idem`: validated
  arguments validate to themselves, which is what lets the gateway recompute an action's
  key at any later time.
-/
import AgentResilience.Lib.Sha256
import AgentResilience.Models

namespace AgentResilience

/-! ## Argument models -/

/-- `service` of `ServiceArguments`. -/
def serviceField (arguments : Arguments) : Option String :=
  match arguments.get? "service" with
  | some (.str s) => if validService s then some s else none
  | _ => none

/-- `environment` of `ServiceArguments`, defaulting to production. -/
def environmentField (arguments : Arguments) : Option String :=
  match arguments.get? "environment" with
  | none => some "production"
  | some (.str e) => if environments.contains e then some e else none
  | _ => none

/-- `dependency` of `DependencyArguments`. -/
def dependencyField (arguments : Arguments) : Option (Option String) :=
  match arguments.get? "dependency" with
  | none | some .null => some none
  | some (.str d) => if d.length ≤ 100 then some (some d) else none
  | _ => none

/-- The tools whose model is `DependencyArguments`; the others use `ServiceArguments`. -/
def ToolName.takesDependency : ToolName → Bool
  | dependencyHealth => true
  | _ => false

/-- The validated dump of a tool's argument model. -/
def argumentDump (tool : ToolName) (service environment : String) (dependency : Option String) : Arguments :=
  [("service", .str service), ("environment", .str environment)] ++
    if tool.takesDependency then [("dependency", Json.optStr dependency)] else []

def invalidArguments (tool : ToolName) (field : String) : PyError :=
  .permanent s!"invalid arguments for {tool.value}: {field}"

/-- `ARGUMENT_MODELS[tool].model_validate(arguments).model_dump()`; the error names the
    first field that fails. -/
def validateArguments (tool : ToolName) (arguments : Arguments) : Except PyError Arguments :=
  match serviceField arguments with
  | none => .error (invalidArguments tool "service")
  | some service =>
    match environmentField arguments with
    | none => .error (invalidArguments tool "environment")
    | some environment =>
      if tool.takesDependency then
        match dependencyField arguments with
        | none => .error (invalidArguments tool "dependency")
        | some dependency => .ok (argumentDump tool service environment dependency)
      else .ok (argumentDump tool service environment none)

/-- `arguments[key]` of validated arguments, as text. -/
def argumentText (arguments : Arguments) (key : String) : String :=
  match arguments.get? key with
  | some (.str s) => s
  | _ => ""

/-! ## The policy -/

structure PolicyDecision where
  risk : RiskLevel
  allowed : Bool
  approvalRequired : Bool
  reason : String
  deriving DecidableEq, Repr

/-- `str(x)`; what a list or an object prints as is never an environment's name. -/
def pyStr : Json → String
  | .str s => s
  | .null => "None"
  | .bool b => if b then "True" else "False"
  | x => x.dumps Json.sorted

def evaluate (tool : ToolName) (arguments : Arguments) : PolicyDecision :=
  if tool = .deleteDatabase then ⟨.blocked, false, false, "database deletion is prohibited"⟩
  else if tool = .restartService then
    let environment := (pyStr ((arguments.get? "environment").getD (.str "production"))).toLower
    if environment = "production" then ⟨.high, true, true, "production restart requires human approval"⟩
    else ⟨.medium, true, false, "non-production restart is permitted"⟩
  else ⟨.low, true, false, "read-only or verification action"⟩

def validateAndDecide (tool : ToolName) (arguments : Arguments) : Except PyError (Arguments × PolicyDecision) := do
  let validated ← validateArguments tool arguments
  pure (validated, evaluate tool validated)

/-! ## Action ids -/

/-- `json.dumps(arguments, sort_keys=True, separators=(",", ":"))` through SHA-256. -/
def argumentsHash (arguments : Arguments) : String :=
  Sha256.hexdigest ((Json.obj arguments).dumps Json.canonical)

def digest16 (arguments : Arguments) : String := ((argumentsHash arguments).take 16).toString

def actionId (taskId : String) (tool : ToolName) (arguments : Arguments) : String :=
  taskId ++ ":" ++ tool.value ++ ":" ++ digest16 arguments

theorem split_colon {a b x y : List Char} (ha : ':' ∉ a) (hb : ':' ∉ b) (h : a ++ ':' :: x = b ++ ':' :: y) :
    a = b ∧ x = y := by
  induction a generalizing b with
  | nil =>
    cases b with
    | nil => exact ⟨rfl, by simpa using h⟩
    | cons c b => simp at h hb; exact absurd h.1 hb.1
  | cons c a ih =>
    cases b with
    | nil => simp at h ha; exact absurd h.1.symm ha.1
    | cons c' b =>
      simp only [List.cons_append, List.cons.injEq, List.mem_cons, not_or] at h ha hb
      obtain ⟨rfl, rfl⟩ := ih ha.2 hb.2 h.2
      exact ⟨by rw [h.1], rfl⟩

/-- A task's action id names its tool and the digest of its arguments. -/
theorem actionId_inj {taskId : String} {tool tool' : ToolName} {arguments arguments' : Arguments}
    (h : actionId taskId tool arguments = actionId taskId tool' arguments') :
    tool = tool' ∧ digest16 arguments = digest16 arguments' := by
  have hcolon : ∀ t : ToolName, ':' ∉ t.value.toList := by intro t; cases t <;> decide
  have hl := congrArg String.toList h
  simp only [actionId, String.toList_append, List.append_assoc, List.append_cancel_left_eq] at hl
  obtain ⟨hv, hd⟩ := split_colon (hcolon tool) (hcolon tool') (by simpa using hl)
  exact ⟨ToolName.value_inj (String.toList_inj.mp hv), String.toList_inj.mp hd⟩

theorem digest16_colon (arguments : Arguments) : ':' ∉ (digest16 arguments).toList := by
  intro h
  unfold digest16 at h
  have h : ':' ∈ ((argumentsHash arguments).take 16).copy.toList := h
  rw [String.toList_copy_take] at h
  exact absurd (Sha256.hexdigest_alphanum (List.mem_of_mem_take h)) (by decide)

/-- An action id names its task. -/
theorem actionId_task {taskId taskId' : String} {tool tool' : ToolName} {arguments arguments' : Arguments}
    (h : actionId taskId tool arguments = actionId taskId' tool' arguments') : taskId = taskId' := by
  have hcolon : ∀ t : ToolName, ':' ∉ t.value.toList := by intro t; cases t <;> decide
  -- read from its end, where neither the digest nor the tool has a colon
  have hshape : ∀ T (t : ToolName) a, (actionId T t a).toList.reverse =
      (digest16 a).toList.reverse ++ ':' :: (t.value.toList.reverse ++ ':' :: T.toList.reverse) := by
    intro T t a
    simp [actionId, String.toList_append]
  have hl := congrArg (fun s => s.toList.reverse) h
  simp only [hshape] at hl
  have hd : ∀ a, ':' ∉ (digest16 a).toList.reverse := fun a h => digest16_colon a (List.mem_reverse.mp h)
  have ht : ∀ t : ToolName, ':' ∉ t.value.toList.reverse := fun t h => hcolon t (List.mem_reverse.mp h)
  have hrest := (split_colon (hd arguments) (hd arguments') hl).2
  have htask := (split_colon (ht tool) (ht tool') hrest).2
  exact String.toList_inj.mp (List.reverse_inj.mp htask)
/-! ## What validation guarantees -/

/-- The arguments a validation can return: a valid service and environment, and for
    `dependency_health` a dependency of bounded length or null. -/
def Validated (tool : ToolName) (arguments : Arguments) : Prop :=
  ∃ service environment dependency, arguments = argumentDump tool service environment dependency ∧
    validService service = true ∧ environments.contains environment = true ∧
    ∀ d ∈ dependency, d.length ≤ 100

@[simp] theorem get?_service (tool : ToolName) (s e : String) (d : Option String) :
    (argumentDump tool s e d).get? "service" = some (.str s) := rfl

@[simp] theorem get?_environment (tool : ToolName) (s e : String) (d : Option String) :
    (argumentDump tool s e d).get? "environment" = some (.str e) := rfl

theorem get?_dependency (tool : ToolName) (s e : String) (d : Option String) (h : tool.takesDependency = true) :
    (argumentDump tool s e d).get? "dependency" = some (Json.optStr d) := by
  simp only [argumentDump, h, if_true]; rfl

theorem validate_ok {tool : ToolName} {arguments validated : Arguments}
    (h : validateArguments tool arguments = .ok validated) : Validated tool validated := by
  have hs : ∀ s, serviceField arguments = some s → validService s = true := by
    intro s hs
    simp only [serviceField] at hs
    split at hs
    · split at hs
      · cases hs; assumption
      · cases hs
    · cases hs
  have he : ∀ e, environmentField arguments = some e → environments.contains e = true := by
    intro e he
    simp only [environmentField] at he
    split at he
    · cases he; rfl
    · split at he
      · cases he; assumption
      · cases he
    · cases he
  have hd : ∀ d, dependencyField arguments = some d → ∀ x ∈ d, x.length ≤ 100 := by
    intro d hd x hx
    simp only [dependencyField] at hd
    split at hd
    · cases hd; cases hx
    · cases hd; cases hx
    · split at hd
      · cases hd; cases hx; assumption
      · cases hd
    · cases hd
  simp only [validateArguments] at h
  split at h
  · cases h
  · rename_i s hsf
    split at h
    · cases h
    · rename_i e hef
      split at h
      · split at h
        · cases h
        · rename_i d hdf
          cases h; exact ⟨s, e, d, rfl, hs s hsf, he e hef, hd d hdf⟩
      · cases h; exact ⟨s, e, none, rfl, hs s hsf, he e hef, by simp⟩

/-- Validated arguments validate to themselves. -/
theorem validate_idem {tool : ToolName} {arguments : Arguments} (h : Validated tool arguments) :
    validateArguments tool arguments = .ok arguments := by
  obtain ⟨s, e, d, rfl, hs, he, hd⟩ := h
  have h1 : serviceField (argumentDump tool s e d) = some s := by simp [serviceField, hs]
  have h2 : environmentField (argumentDump tool s e d) = some e := by
    simp only [environmentField, get?_environment, he, if_true]
  by_cases ht : tool.takesDependency = true
  · have h3 : dependencyField (argumentDump tool s e d) = some d := by
      simp only [dependencyField, get?_dependency _ _ _ _ ht]
      cases d with
      | none => rfl
      | some x => simp [Json.optStr, hd x rfl]
    simp only [validateArguments, h1, h2, h3, ht, if_true]
  · simp only [validateArguments, h1, h2, ht]
    simp [argumentDump, ht]

theorem validateAndDecide_ok {tool : ToolName} {arguments validated : Arguments} {policy : PolicyDecision}
    (h : validateAndDecide tool arguments = .ok (validated, policy)) :
    Validated tool validated ∧ policy = evaluate tool validated := by
  unfold validateAndDecide at h
  cases hv : validateArguments tool arguments with
  | error e => rw [hv] at h; cases h
  | ok v => rw [hv] at h; cases h; exact ⟨validate_ok hv, rfl⟩

theorem validateAndDecide_idem {tool : ToolName} {arguments : Arguments} (h : Validated tool arguments) :
    validateAndDecide tool arguments = .ok (arguments, evaluate tool arguments) := by
  unfold validateAndDecide
  rw [validate_idem h]; rfl

/-! ## What the policy says of validated arguments -/

/-- A production restart, as validated. -/
def ProductionRestart (tool : ToolName) (arguments : Arguments) : Prop :=
  tool = .restartService ∧ Validated tool arguments ∧ argumentText arguments "environment" = "production"

theorem environment_of_validated {tool : ToolName} {arguments : Arguments} (h : Validated tool arguments) :
    arguments.get? "environment" = some (.str (argumentText arguments "environment")) := by
  obtain ⟨s, e, d, rfl, -, -, -⟩ := h
  simp [argumentText]

theorem environment_mem {tool : ToolName} {arguments : Arguments} (h : Validated tool arguments) :
    argumentText arguments "environment" ∈ environments := by
  obtain ⟨s, e, d, rfl, -, he, -⟩ := h
  simpa [argumentText] using he

/-- The environments are their own lower case. -/
theorem toLower_environment {e : String} (h : e ∈ environments) : e.toLower = e := by
  simp only [environments, List.mem_cons, List.not_mem_nil, or_false] at h
  rcases h with rfl | rfl | rfl <;> decide +kernel

theorem evaluate_restart {arguments : Arguments} (h : Validated .restartService arguments) :
    evaluate .restartService arguments =
      if argumentText arguments "environment" = "production" then
        ⟨.high, true, true, "production restart requires human approval"⟩
      else ⟨.medium, true, false, "non-production restart is permitted"⟩ := by
  unfold evaluate
  rw [environment_of_validated h]
  simp [pyStr, toLower_environment (environment_mem h)]

theorem evaluate_allowed {tool : ToolName} {arguments : Arguments} :
    (evaluate tool arguments).allowed = true ↔ tool ≠ .deleteDatabase := by
  unfold evaluate
  cases tool <;> simp
  split <;> rfl

/-- An approval is required exactly for a production restart. -/
theorem approvalRequired_iff {tool : ToolName} {arguments : Arguments} (h : Validated tool arguments) :
    (evaluate tool arguments).approvalRequired = true ↔ ProductionRestart tool arguments := by
  by_cases ht : tool = .restartService
  · subst ht
    rw [evaluate_restart h]
    by_cases he : argumentText arguments "environment" = "production" <;> simp [he, ProductionRestart, h]
  · have : (evaluate tool arguments).approvalRequired = false := by
      unfold evaluate; cases tool <;> simp_all
    simp [this, ProductionRestart, ht]

end AgentResilience
