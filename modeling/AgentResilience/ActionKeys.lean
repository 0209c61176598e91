/-
  AgentResilience.ActionKeys — what an idempotency key identifies (tools.py, store.py).

  The key of a request is the task, the tool and the first sixteen hex digits of the
  SHA-256 of the canonical text of its validated arguments. On texts whose first sixteen
  digits differ whenever they do, `action_key` gives all that is asked of it: two keys are
  equal exactly when task, tool and validated arguments are; the order of the raw
  arguments and a default environment that is spelled out change nothing; and arguments
  that were validated, or validated and read back from a checkpoint's JSON text, have the
  key they had. The JSON text of the checkpoint is written by pydantic, so its style is a
  parameter: any in which a character and a float read back.
-/
import Mathlib.Data.Set.Function
import AgentResilience.Lib.JsonRoundTrip
import AgentResilience.Policy

namespace AgentResilience

/-- What the gateway makes of a request before it runs the tool: its key. -/
def requestKey (taskId : String) (tool : ToolName) (arguments : Arguments) : Except PyError String := do
  let (validated, _) ← validateAndDecide tool arguments
  pure (actionId taskId tool validated)

/-- The text that `arguments_hash` hashes. -/
def canonicalText (arguments : Arguments) : String := (Json.obj arguments).dumps Json.canonical

/-- The digest's part in a key. -/
def shortDigest (canonical : String) : String := ((Sha256.hexdigest canonical).take 16).toString

/-- `checkpoint["pending_action"]["arguments"]`. -/
def pendingArguments (checkpoint : Json) : Option Json :=
  (checkpoint.field "pending_action").bind fun action => action.field "arguments"

/-! ## The canonical text -/

/-- The validated arguments in the order of their keys. -/
def sortedDump (tool : ToolName) (service environment : String) (dependency : Option String) : Arguments :=
  (if tool.takesDependency then [("dependency", Json.optStr dependency)] else []) ++
    [("environment", .str environment), ("service", .str service)]

theorem canonicalText_dump (tool : ToolName) (service environment : String) (dependency : Option String) :
    canonicalText (argumentDump tool service environment dependency) =
      (Json.obj (sortedDump tool service environment dependency)).dumps Json.compact := by
  have hse : ¬"service" ≤ "environment" := by decide
  have hsd : ¬"service" ≤ "dependency" := by decide
  have hed : ¬"environment" ≤ "dependency" := by decide
  unfold canonicalText argumentDump sortedDump
  cases tool.takesDependency <;> cases dependency <;>
    simp [Json.dumps, Json.dumpsFields, Json.sortFields, Json.canonical, Json.compact, Json.optStr, List.insertionSort_cons,
      List.orderedInsert, hse, hsd, hed]

theorem sortedDump_wellFormed (tool : ToolName) (service environment : String) (dependency : Option String) :
    (Json.obj (sortedDump tool service environment dependency)).WellFormed := by
  unfold sortedDump
  cases tool.takesDependency <;> cases dependency <;>
    simp [Json.WellFormed, Json.WellFormedFields, Json.optStr, Dict.keys]

theorem optStr_inj {a b : Option String} (h : Json.optStr a = Json.optStr b) : a = b := by
  cases a <;> cases b <;> simp_all [Json.optStr]

/-- Validated arguments of one tool with the same canonical text are the same arguments. -/
theorem canonicalText_inj {tool : ToolName} {arguments arguments' : Arguments} (h : Validated tool arguments)
    (h' : Validated tool arguments') (e : canonicalText arguments = canonicalText arguments') : arguments = arguments' := by
  obtain ⟨s, env, d, rfl, -⟩ := h
  obtain ⟨s', env', d', rfl, -⟩ := h'
  rw [canonicalText_dump, canonicalText_dump] at e
  have hread := congrArg Json.loads e
  rw [Json.loads_dumps Json.compact_spaced (sortedDump_wellFormed tool s env d),
    Json.loads_dumps Json.compact_spaced (sortedDump_wellFormed tool s' env' d')] at hread
  unfold sortedDump at hread
  unfold argumentDump
  cases ht : tool.takesDependency with
  | true =>
    simp only [ht, if_true, List.cons_append, List.nil_append, Option.some.injEq, Json.obj.injEq, List.cons.injEq, Prod.mk.injEq,
      true_and, Json.str.injEq, and_true] at hread
    obtain ⟨hd, he, hs⟩ := hread
    rw [optStr_inj hd, he, hs]
  | false =>
    simp only [ht, Bool.false_eq_true, if_false, List.nil_append, Option.some.injEq, Json.obj.injEq, List.cons.injEq,
      Prod.mk.injEq, true_and, Json.str.injEq, and_true] at hread
    obtain ⟨he, hs⟩ := hread
    rw [he, hs, if_neg Bool.false_ne_true, if_neg Bool.false_ne_true]

/-! ## The key of a request -/

/-- The gateway looks its arguments up by name. -/
theorem validateArguments_congr {tool : ToolName} {arguments arguments' : Arguments}
    (hs : serviceField arguments = serviceField arguments') (he : environmentField arguments = environmentField arguments')
    (hd : dependencyField arguments = dependencyField arguments') :
    validateArguments tool arguments = validateArguments tool arguments' := by
  unfold validateArguments
  rw [hs, he, hd]

theorem requestKey_congr {tool : ToolName} {arguments arguments' : Arguments} (taskId : String)
    (h : validateArguments tool arguments = validateArguments tool arguments') :
    requestKey taskId tool arguments = requestKey taskId tool arguments' := by
  unfold requestKey validateAndDecide
  rw [h]

theorem requestKey_ok {tool : ToolName} {arguments validated : Arguments} (taskId : String)
    (h : validateArguments tool arguments = .ok validated) :
    requestKey taskId tool arguments = .ok (actionId taskId tool validated) := by
  unfold requestKey validateAndDecide
  rw [h]
  rfl

/-- A `dict` gives the same answers in any order. -/
theorem get?_perm {arguments arguments' : Arguments} (h : arguments.Perm arguments') (hnodup : (Dict.keys arguments).Nodup)
    (k : String) : arguments.get? k = arguments'.get? k := by
  induction h with
  | nil => rfl
  | cons f _ ih =>
    obtain ⟨x, v⟩ := f
    have htail := ih (List.nodup_cons.mp hnodup).2
    simp only [Dict.get?] at htail
    simp only [Dict.get?, List.lookup_cons, htail]
  | swap f g _ =>
    obtain ⟨x, v⟩ := f
    obtain ⟨y, w⟩ := g
    have hne : y ≠ x := by
      intro e
      simp [Dict.keys, e] at hnodup
    simp only [Dict.get?, List.lookup_cons]
    by_cases hx : k = x
    · subst hx
      simp [beq_eq_false_iff_ne.mpr (Ne.symm hne)]
    · simp [beq_eq_false_iff_ne.mpr hx]
  | trans h₁ _ ih₁ ih₂ => exact (ih₁ hnodup).trans (ih₂ ((h₁.map _).nodup_iff.mp hnodup))

theorem requestKey_perm {arguments arguments' : Arguments} (taskId : String) (tool : ToolName) (h : arguments.Perm arguments')
    (hnodup : (Dict.keys arguments).Nodup) : requestKey taskId tool arguments = requestKey taskId tool arguments' := by
  have hget := get?_perm h hnodup
  refine requestKey_congr taskId (validateArguments_congr ?_ ?_ ?_)
  · simp only [serviceField, hget]
  · simp only [environmentField, hget]
  · simp only [dependencyField, hget]

/-- Spelling the default environment out changes nothing. -/
theorem requestKey_default {arguments : Arguments} (taskId : String) (tool : ToolName) (h : arguments.get? "environment" = none) :
    requestKey taskId tool (arguments.set "environment" (.str "production")) = requestKey taskId tool arguments := by
  have hget := Dict.get?_set arguments "environment" (.str "production")
  refine requestKey_congr taskId (validateArguments_congr ?_ ?_ ?_)
  · simp [serviceField, hget]
  · simp [environmentField, hget, h, environments]
  · simp [dependencyField, hget]

/-- On texts whose short digests differ, a key names its task, tool and validated arguments. -/
theorem actionId_iff {occurring : Set String} (hinj : Set.InjOn shortDigest occurring) {taskId taskId' : String}
    {tool tool' : ToolName} {arguments arguments' : Arguments} (h : Validated tool arguments) (h' : Validated tool' arguments')
    (ho : canonicalText arguments ∈ occurring) (ho' : canonicalText arguments' ∈ occurring) :
    actionId taskId tool arguments = actionId taskId' tool' arguments' ↔
      taskId = taskId' ∧ tool = tool' ∧ arguments = arguments' := by
  constructor
  · intro e
    obtain rfl := actionId_task e
    obtain ⟨rfl, hdigest⟩ := actionId_inj e
    exact ⟨rfl, rfl, canonicalText_inj h h' (hinj ho ho' hdigest)⟩
  · rintro ⟨rfl, rfl, rfl⟩
    rfl

/-- What a checkpoint's text says of the arguments it holds. -/
theorem pendingArguments_read {sty : Json.Style} (hsty : sty.Lawful) {checkpoint : Json} (hwf : checkpoint.WellFormed) :
    (Json.read (Json.text sty checkpoint)).bind pendingArguments = pendingArguments checkpoint := by
  rw [Json.read_text hsty hwf]
  rfl

/-- Keys identify actions. -/
theorem action_key {occurring : Set String} (hinj : Set.InjOn shortDigest occurring) {taskId taskId' : String}
    {tool tool' : ToolName} {raw raw' validated validated' : Arguments} (h : validateArguments tool raw = .ok validated)
    (h' : validateArguments tool' raw' = .ok validated') (ho : canonicalText validated ∈ occurring)
    (ho' : canonicalText validated' ∈ occurring) {sty : Json.Style} (hsty : sty.Lawful) :
    (actionId taskId tool validated = actionId taskId' tool' validated' ↔
      taskId = taskId' ∧ tool = tool' ∧ validated = validated') ∧
    requestKey taskId tool raw = .ok (actionId taskId tool validated) ∧
    (∀ shuffled, raw.Perm shuffled → (Dict.keys raw).Nodup →
      requestKey taskId tool shuffled = .ok (actionId taskId tool validated)) ∧
    (raw.get? "environment" = none →
      requestKey taskId tool (raw.set "environment" (.str "production")) = .ok (actionId taskId tool validated)) ∧
    requestKey taskId tool validated = .ok (actionId taskId tool validated) ∧
    ∀ checkpoint : Json, checkpoint.WellFormed → pendingArguments checkpoint = some (.obj validated) →
      ∃ again, (Json.read (Json.text sty checkpoint)).bind pendingArguments = some (.obj again) ∧
        requestKey taskId tool again = .ok (actionId taskId tool validated) := by
  have hkey := requestKey_ok taskId h
  have hagain := requestKey_ok taskId (validate_idem (validate_ok h))
  refine ⟨actionId_iff hinj (validate_ok h) (validate_ok h') ho ho', hkey, ?_, ?_, hagain, ?_⟩
  · intro shuffled hperm hnodup
    rw [← requestKey_perm taskId tool hperm hnodup, hkey]
  · intro hnone
    rw [requestKey_default taskId tool hnone, hkey]
  · intro checkpoint hwf hpending
    exact ⟨validated, (pendingArguments_read hsty hwf).trans hpending, hagain⟩

def databaseCheck : Arguments := argumentDump .dependencyHealth "checkout" "production" (some "orders-db")

def defaultCheck : Arguments := argumentDump .dependencyHealth "checkout" "production" none

set_option maxRecDepth 20000 in
theorem checks_differ : shortDigest (canonicalText databaseCheck) ≠ shortDigest (canonicalText defaultCheck) := by decide +kernel

/-- Two requests for one task whose id has a colon. -/
theorem action_key_checks : actionId "team:7" .dependencyHealth databaseCheck ≠ actionId "team:7" .dependencyHealth defaultCheck ∧
    requestKey "team:7" .dependencyHealth [("dependency", .str "orders-db"), ("service", .str "checkout")] =
      .ok (actionId "team:7" .dependencyHealth databaseCheck) := by
  have hinj : Set.InjOn shortDigest {canonicalText databaseCheck, canonicalText defaultCheck} := by
    rintro a (rfl | rfl) b (rfl | rfl) e
    · rfl
    · exact absurd e checks_differ
    · exact absurd e.symm checks_differ
    · rfl
  obtain ⟨hiff, -, hshuffled, -⟩ := @action_key _ hinj "team:7" "team:7" .dependencyHealth .dependencyHealth
    [("service", .str "checkout"), ("dependency", .str "orders-db")] [("service", .str "checkout")] databaseCheck defaultCheck
    rfl rfl (.inl rfl) (.inr rfl) _ (Json.python_lawful 0 0)
  refine ⟨fun e => ?_, hshuffled _ (List.Perm.swap _ _ _) (by decide)⟩
  have := (hiff.mp e).2.2
  cases this

end AgentResilience
