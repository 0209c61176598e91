/-
  AgentResilience.Outages — the deterministic engine's sequence of tools while one of them
  fails for a number of tries, and what a delivery on the way does. The queue counts the
  tries; the loop detector sees a decision of each.

  - `Outage`: the tool, how often it fails, and what the tools answer. `Outage.trail`: the
    histories a workflow has when tools are done, for any number of failures.
  - `Outage.Heard`: the detector is silent about every decision on the way.
    `Outage.heard_iff`: with fresh fingerprints that is a bound on the tries.
-/
import AgentResilience.Handouts
import AgentResilience.Resumption

namespace AgentResilience

open Interaction
open WorkflowState (content)

/-! ## Trails -/

/-- What the engine and the loop detector read of a checkpoint. -/
structure Trail where
  evidence : Dict Json := []
  completedSteps : List String := []
  toolHistory : List String := []
  progressHistory : List String := []

namespace Trail

/-- One more decision for the tool. -/
def ask (tool : ToolName) (tr : Trail) : Trail :=
  { tr with toolHistory := tr.toolHistory ++ [tool.value], progressHistory := tr.progressHistory ++ [progressFingerprint tr.evidence] }

/-- The tool's result. -/
def gain (tool : ToolName) (result : Json) (tr : Trail) : Trail :=
  { tr with evidence := tr.evidence.set tool.value result
            completedSteps := if tool.value ∈ tr.completedSteps then tr.completedSteps else tr.completedSteps ++ [tool.value]
            progressHistory := tr.progressHistory ++ [progressFingerprint (tr.evidence.set tool.value result)] }

@[simp] theorem ask_evidence (tool : ToolName) (tr : Trail) : (tr.ask tool).evidence = tr.evidence := rfl
@[simp] theorem ask_completedSteps (tool : ToolName) (tr : Trail) : (tr.ask tool).completedSteps = tr.completedSteps := rfl

@[simp] theorem asks_evidence (tool : ToolName) (tr : Trail) (n : Nat) : ((ask tool)^[n] tr).evidence = tr.evidence := by
  induction n with
  | zero => rfl
  | succ n ih => rw [Function.iterate_succ_apply', ask_evidence, ih]

@[simp] theorem asks_completedSteps (tool : ToolName) (tr : Trail) (n : Nat) :
    ((ask tool)^[n] tr).completedSteps = tr.completedSteps := by
  induction n with
  | zero => rfl
  | succ n ih => rw [Function.iterate_succ_apply', ask_completedSteps, ih]

end Trail

def WorkflowState.trail (st : WorkflowState) : Trail := ⟨st.evidence, st.completedSteps, st.toolHistory, st.progressHistory⟩

theorem trail_of_content {cp st : WorkflowState} (h : cp.content = st) : cp.trail = st.trail := by
  subst h
  rfl

/-! ## The sequence -/

/-- The tools the deterministic engine asks for, in order. -/
def steps : List ToolName := [.readAlert, .inspectMetrics, .queryLogs, .dependencyHealth, .restartService, .verifyRecovery]

/-- The tools done and the next one, at every point of the sequence. -/
def stages : List (List ToolName × ToolName) := steps.inits.zip steps

theorem stages_eq : stages = [([], .readAlert), ([.readAlert], .inspectMetrics), ([.readAlert, .inspectMetrics], .queryLogs),
    ([.readAlert, .inspectMetrics, .queryLogs], .dependencyHealth),
    ([.readAlert, .inspectMetrics, .queryLogs, .dependencyHealth], .restartService),
    ([.readAlert, .inspectMetrics, .queryLogs, .dependencyHealth, .restartService], .verifyRecovery)] := rfl

/-- The tool asked for is not among those done. -/
theorem stage_missing {done : List ToolName} {tool : ToolName} (h : (done, tool) ∈ stages) : tool ∉ done ∧ tool ≠ .deleteDatabase := by
  rw [stages_eq] at h
  simp only [List.mem_cons, Prod.mk.injEq, List.not_mem_nil, or_false] at h
  rcases h with ⟨rfl, rfl⟩ | ⟨rfl, rfl⟩ | ⟨rfl, rfl⟩ | ⟨rfl, rfl⟩ | ⟨rfl, rfl⟩ | ⟨rfl, rfl⟩ <;> decide

/-- A tool of the sequence that needs no approval raises retryable errors for the first
    `failures` calls; afterwards, and for the other tools at once, there are results. -/
structure Outage where
  tool : ToolName
  failures : Nat
  answers : ToolName → Json
  tool_ok : tool ∈ steps ∧ tool ≠ .restartService
  answers_ok : ∀ tool, (answers tool).nonEmptyObj = true

namespace Outage

variable (f : Outage)

/-- The decisions for a tool until it is done. -/
def decisions (tool : ToolName) : Nat := if tool = f.tool then f.failures + 1 else 1

/-- The trail of a workflow when the tools are done. -/
def trail (done : List ToolName) : Trail :=
  done.foldl (fun tr tool => ((Trail.ask tool)^[f.decisions tool] tr).gain tool (f.answers tool)) {}

theorem trail_append (done : List ToolName) (tool : ToolName) :
    f.trail (done ++ [tool]) = ((Trail.ask tool)^[f.decisions tool] (f.trail done)).gain tool (f.answers tool) :=
  List.foldl_append ..

/-- The decisions for a tool that a row with `N` attempts has room for. -/
def tries (N : Nat) (tool : ToolName) : Nat := if tool = f.tool then min (f.failures + 1) N else 1

/-- The loop detector is silent about every decision on the way: until the row with `N` attempts is
    spent, or the sequence ends. -/
def Heard (N : Nat) : Prop :=
  ∀ done tool n, (done, tool) ∈ stages → (f.tool ∈ done → f.failures < N) → n < f.tries N tool →
    ({} : LoopDetector).reason ((Trail.ask tool)^[n + 1] (f.trail done)).toolHistory
      ((Trail.ask tool)^[n + 1] (f.trail done)).progressHistory = none

theorem trail_evidence (done : List ToolName) (key : String) :
    (f.trail done).evidence.contains key = decide (∃ tool ∈ done, tool.value = key) := by
  induction done using List.reverseRecOn with
  | nil => rfl
  | append_singleton done tool ih =>
    rw [trail_append]
    show (Dict.set _ _ _).contains key = _
    rw [Dict.contains_set, Trail.asks_evidence, ih]
    by_cases e : key = tool.value
    · simp [e]
    · simp [e, Ne.symm e]

theorem trail_completedSteps (done : List ToolName) (key : String) :
    key ∈ (f.trail done).completedSteps ↔ ∃ tool ∈ done, tool.value = key := by
  induction done using List.reverseRecOn with
  | nil => simp [trail]
  | append_singleton done tool ih =>
    have hgain : (f.trail (done ++ [tool])).completedSteps =
        if tool.value ∈ (f.trail done).completedSteps then (f.trail done).completedSteps
        else (f.trail done).completedSteps ++ [tool.value] := by
      rw [trail_append]
      show (if _ then _ else _) = _
      rw [Trail.asks_completedSteps]
    rw [hgain]
    split
    · rename_i hmem
      constructor
      · intro h
        obtain ⟨x, hx, e⟩ := ih.mp h
        exact ⟨x, by simp [hx], e⟩
      · rintro ⟨x, hx, rfl⟩
        rcases List.mem_append.mp hx with hx | hx
        · exact ih.mpr ⟨x, hx, rfl⟩
        · rw [List.mem_singleton.mp hx]
          exact hmem
    · simp [ih, or_and_right, exists_or, eq_comm]

end Outage

/-! ## When the detector is silent -/

namespace Trail

theorem asks_toolHistory (tool : ToolName) (tr : Trail) (n : Nat) :
    ((ask tool)^[n] tr).toolHistory = tr.toolHistory ++ List.replicate n tool.value := by
  induction n with
  | zero => exact (List.append_nil _).symm
  | succ n ih =>
    rw [Function.iterate_succ_apply']
    show _ ++ [_] = _
    rw [ih, List.append_assoc, ← List.replicate_succ']

theorem asks_progressHistory (tool : ToolName) (tr : Trail) (n : Nat) :
    ((ask tool)^[n] tr).progressHistory = tr.progressHistory ++ List.replicate n (progressFingerprint tr.evidence) := by
  induction n with
  | zero => exact (List.append_nil _).symm
  | succ n ih =>
    rw [Function.iterate_succ_apply']
    show _ ++ [progressFingerprint ((ask tool)^[n] tr).evidence] = _
    rw [ih, asks_evidence, List.append_assoc, ← List.replicate_succ']

end Trail

/-- Fewer than four decisions for a tool that was not asked for before repeat nothing. -/
theorem not_repeats {x : String} {front : List String} {n : Nat} (hx : x ∉ front) (hpos : 0 < n) (hn : n < 4) :
    ¬ LoopDetector.Repeats 4 (front ++ List.replicate n x) := by
  rintro ⟨p, before, hp, h⟩
  have hlast : p.getLast? = some x := by
    have hl := congrArg List.getLast? h
    have hsome : p.getLast? = some (p.getLast hp) := List.getLast?_eq_some_getLast hp
    simp [List.replicate, List.getLast?_append, List.getLast?_replicate, hsome, hpos.ne'] at hl
    rw [hsome, hl]
  have hmem : 1 ≤ p.count x := List.count_pos_iff.mpr (List.mem_of_getLast? hlast)
  have hcount := congrArg (List.count x) h
  have hfour : (List.replicate 4 p).flatten.count x = p.count x + (p.count x + (p.count x + p.count x)) := by
    simp [List.replicate]
  rw [List.count_append, List.count_append, hfour, List.count_eq_zero.mpr hx, List.count_replicate_self] at hcount
  omega

/-- Fewer than four fingerprints after another one are no stall. -/
theorem not_stalled {x y : String} {front : List String} {n : Nat} (hne : y ≠ x) (hpos : 0 < n) (hn : n < 4) :
    ¬ LoopDetector.Stalled 4 (front ++ [y] ++ List.replicate n x) := by
  rintro ⟨z, front', h⟩
  have hsplit : List.replicate 4 z = List.replicate (3 - n) z ++ ([z] ++ List.replicate n z) := by
    rw [← List.replicate_one, ← List.replicate_add, ← List.replicate_add]
    congr 1
    omega
  rw [hsplit, ← List.append_assoc, List.append_assoc front] at h
  obtain ⟨-, h⟩ := List.append_inj' h (by simp)
  obtain ⟨rfl, h⟩ := List.cons.inj h
  have hx : y ∈ List.replicate n x := by
    have h : List.replicate n x = List.replicate n y := h
    rw [h]
    exact List.mem_replicate.mpr ⟨hpos.ne', rfl⟩
  exact hne (List.eq_of_mem_replicate hx)
namespace Outage

variable (f : Outage)

/-- How many decisions for the failing tool the detector allows: the alert's follow no other progress. -/
def allowance (f : Outage) : Nat := if f.tool = .readAlert then 3 else 2

/-- The evidence that a tool adds changes the fingerprint. -/
def Fresh (f : Outage) : Prop := ∀ done tool, (done, tool) ∈ stages →
  progressFingerprint (f.trail (done ++ [tool])).evidence ≠ progressFingerprint (f.trail done).evidence

theorem decisions_pos (tool : ToolName) : 1 ≤ f.decisions tool := by
  unfold decisions
  split <;> omega

/-- The stages are the first one and those after another. -/
theorem stage_after {done : List ToolName} {tool : ToolName} (h : (done, tool) ∈ stages) :
    (done = [] ∧ tool = .readAlert) ∨ tool ≠ .readAlert ∧ ∃ done' tool', done = done' ++ [tool'] ∧ (done', tool') ∈ stages := by
  rw [stages_eq] at h
  simp only [List.mem_cons, Prod.mk.injEq, List.not_mem_nil, or_false] at h
  rcases h with ⟨rfl, rfl⟩ | ⟨rfl, rfl⟩ | ⟨rfl, rfl⟩ | ⟨rfl, rfl⟩ | ⟨rfl, rfl⟩ | ⟨rfl, rfl⟩
  · exact .inl ⟨rfl, rfl⟩
  · exact .inr ⟨by decide, [], .readAlert, rfl, by decide⟩
  · exact .inr ⟨by decide, [.readAlert], .inspectMetrics, rfl, by decide⟩
  · exact .inr ⟨by decide, [.readAlert, .inspectMetrics], .queryLogs, rfl, by decide⟩
  · exact .inr ⟨by decide, [.readAlert, .inspectMetrics, .queryLogs], .dependencyHealth, rfl, by decide⟩
  · exact .inr ⟨by decide, [.readAlert, .inspectMetrics, .queryLogs, .dependencyHealth], .restartService, rfl, by decide⟩

theorem trail_toolHistory (done : List ToolName) (x : String) (h : x ∈ (f.trail done).toolHistory) : ∃ tool ∈ done, tool.value = x := by
  induction done using List.reverseRecOn with
  | nil => cases h
  | append_singleton done tool ih =>
    rw [trail_append] at h
    have h : x ∈ ((Trail.ask tool)^[f.decisions tool] (f.trail done)).toolHistory := h
    rw [Trail.asks_toolHistory] at h
    rcases List.mem_append.mp h with h | h
    · obtain ⟨t, ht, e⟩ := ih h
      exact ⟨t, List.mem_append_left _ ht, e⟩
    · exact ⟨tool, by simp, (List.eq_of_mem_replicate h).symm⟩

theorem trail_length {n : Nat} {done : List ToolName} (h : ∀ tool ∈ done, f.decisions tool ≤ n) :
    (f.trail done).toolHistory.length ≤ n * done.length := by
  induction done using List.reverseRecOn with
  | nil => exact Nat.zero_le _
  | append_singleton done tool ih =>
    rw [trail_append]
    show ((Trail.ask tool)^[f.decisions tool] (f.trail done)).toolHistory.length ≤ _
    have hle := ih fun t ht => h t (List.mem_append_left _ ht)
    have hlast := h tool (by simp)
    rw [Trail.asks_toolHistory, List.length_append, List.length_replicate, List.length_append, List.length_singleton, Nat.mul_succ]
    omega

/-- The last two fingerprints of a trail. -/
theorem trail_progressHistory (done : List ToolName) (tool : ToolName) : ∃ front, (f.trail (done ++ [tool])).progressHistory =
    front ++ [progressFingerprint (f.trail done).evidence] ++ [progressFingerprint (f.trail (done ++ [tool])).evidence] := by
  obtain ⟨k, hk⟩ := Nat.exists_eq_add_of_le' (f.decisions_pos tool)
  refine ⟨(f.trail done).progressHistory ++ List.replicate k (progressFingerprint (f.trail done).evidence), ?_⟩
  rw [trail_append, hk]
  show ((Trail.ask tool)^[k + 1] (f.trail done)).progressHistory ++ [_] = _
  rw [Trail.asks_progressHistory, List.replicate_succ']
  simp only [List.append_assoc]
  rfl

theorem own_stage : ∃ done, (done, f.tool) ∈ stages := by
  have hmem := f.tool_ok.1
  rw [stages_eq]
  simp only [steps, List.mem_cons, List.not_mem_nil, or_false] at hmem
  rcases hmem with e | e | e | e | e | e <;> simp [e]

variable {f}

/-- The detector is silent about that many decisions at most. -/
theorem Heard.allowed {N : Nat} (h : f.Heard N) : min (f.failures + 1) N ≤ f.allowance := by
  by_contra hlt
  obtain ⟨done, hstage⟩ := f.own_stage
  have hsilent := h done f.tool f.allowance hstage (fun hmem => absurd hmem (stage_missing hstage).1) (by
    unfold tries
    rw [if_pos rfl]
    omega)
  obtain ⟨-, -, hstalled⟩ := (LoopDetector.reason_none_iff _ _ _).mp hsilent
  refine hstalled ?_
  rw [Trail.asks_progressHistory]
  unfold allowance
  rcases stage_after hstage with ⟨rfl, e⟩ | ⟨e, done', tool', rfl, -⟩
  · rw [if_pos e]
    exact ⟨_, [], rfl⟩
  · rw [if_neg e]
    obtain ⟨front, hfront⟩ := f.trail_progressHistory done' tool'
    rw [hfront, List.append_assoc]
    exact ⟨_, _, rfl⟩

/-- Where every result changes the fingerprint, the detector is silent on the way exactly when the decisions
    for the failing tool, of which a row with `N` attempts has at most `N`, are no more than it allows. -/
theorem heard_iff {N : Nat} (hfresh : f.Fresh) : f.Heard N ↔ min (f.failures + 1) N ≤ f.allowance := by
  refine ⟨Heard.allowed, fun hle done tool n hstage hsurvived hn => ?_⟩
  have hthree : f.allowance ≤ 3 := by
    unfold allowance
    split <;> decide
  have htries : n + 1 ≤ 3 ∧ (tool ≠ .readAlert → n + 1 ≤ 2) := by
    unfold tries at hn
    split at hn
    · rename_i e
      refine ⟨by omega, fun hne => ?_⟩
      rw [e] at hne
      unfold allowance at hle
      rw [if_neg hne] at hle
      omega
    · omega
  have hdone : ∀ x ∈ done, f.decisions x ≤ 3 := by
    intro x hx
    unfold decisions
    split
    · rename_i e
      have hlt := hsurvived (e ▸ hx)
      omega
    · decide
  have hmissing : tool.value ∉ (f.trail done).toolHistory := by
    intro hx
    obtain ⟨t, ht, e⟩ := f.trail_toolHistory done _ hx
    exact (stage_missing hstage).1 (ToolName.value_inj e ▸ ht)
  rw [LoopDetector.reason_none_iff, Trail.asks_toolHistory, Trail.asks_progressHistory]
  refine ⟨?_, not_repeats hmissing (by omega) (by omega), ?_⟩
  · have hlen := f.trail_length hdone
    have hfive : done.length ≤ 5 := by
      rw [stages_eq] at hstage
      simp only [List.mem_cons, Prod.mk.injEq, List.not_mem_nil, or_false] at hstage
      rcases hstage with ⟨rfl, -⟩ | ⟨rfl, -⟩ | ⟨rfl, -⟩ | ⟨rfl, -⟩ | ⟨rfl, -⟩ | ⟨rfl, -⟩ <;> decide
    show ((_ : Nat) : Int) < 20
    rw [List.length_append, List.length_replicate]
    omega
  · rcases stage_after hstage with ⟨rfl, -⟩ | ⟨hne, done', tool', rfl, hstage'⟩
    · rintro ⟨x, front, h⟩
      have hlen := congrArg List.length h
      simp [trail] at hlen
      omega
    · obtain ⟨front, hfront⟩ := f.trail_progressHistory done' tool'
      have htwo := htries.2 hne
      rw [hfront, List.append_assoc]
      exact not_stalled (n := n + 2) (hfresh done' tool' hstage').symm (by omega) (by omega)

end Outage

/-- The engine asks for the next tool. -/
theorem decide_stage {cp : WorkflowState} {done : List ToolName} {tool : ToolName} (h : (done, tool) ∈ stages)
    (he : ∀ key, cp.evidence.contains key = decide (∃ x ∈ done, x.value = key))
    (hc : ∀ key, key ∈ cp.completedSteps ↔ ∃ x ∈ done, x.value = key) :
    ∃ dec, DeterministicDecisionEngine.decide cp = .ok dec ∧ dec.action = .useTool ∧ dec.tool = some tool ∧
      dec.arguments = DeterministicDecisionEngine.defaults := by
  rw [stages_eq] at h
  simp only [List.mem_cons, Prod.mk.injEq, List.not_mem_nil, or_false] at h
  unfold DeterministicDecisionEngine.decide
  rcases h with ⟨rfl, rfl⟩ | ⟨rfl, rfl⟩ | ⟨rfl, rfl⟩ | ⟨rfl, rfl⟩ | ⟨rfl, rfl⟩ | ⟨rfl, rfl⟩
  all_goals simp only [DeterministicDecisionEngine.sequence, List.find?, he]
  · exact ⟨_, rfl, rfl, rfl, rfl⟩
  · exact ⟨_, rfl, rfl, rfl, rfl⟩
  · exact ⟨_, rfl, rfl, rfl, rfl⟩
  · exact ⟨_, rfl, rfl, rfl, rfl⟩
  · have hno : "restart_service" ∉ cp.completedSteps := by
      rw [hc]
      decide
    exact ⟨_, if_pos hno, rfl, rfl, rfl⟩
  · have hyes : ¬ "restart_service" ∉ cp.completedSteps := by
      rw [hc]
      decide
    have hnone : cp.evidence.get? "verify_recovery" = none := by
      have hcontains : cp.evidence.contains "verify_recovery" = false := (he "verify_recovery").trans (by decide)
      exact Option.isNone_iff_eq_none.mp (Option.isSome_eq_false_iff.mp hcontains)
    refine ⟨DeterministicDecisionEngine.verify, ?_, rfl, rfl, rfl⟩
    show (if _ then _ else _) = _
    rw [if_neg hyes, hnone]

/-! ## Deliveries -/

/-- What the backend answers after `n` calls of the failing tool. -/
def Outage.Answers (f : Outage) (n : Nat) (tool : ToolName) (r : Except PyError Json) : Prop :=
  if tool = f.tool ∧ n < f.failures then ∃ e, r = .error e ∧ e.isRetryable = true else r = .ok (f.answers tool)

/-- Operators who create and approve, the deterministic engine, and the outage for the task. -/
def Env.outage (f : Outage) (taskId : String) : Env where
  allows _ w c r := Decides c r ∧
    match c, r with
    | .execute st tool .., r => st.taskId = taskId → f.Answers (calledFor taskId f.tool w.memory) tool r
    | _, _ => True
  starts := Env.operator.starts
  dies _ _ := False

variable {rt : WorkflowRuntime} {config : Settings} {f : Outage} {N : Nat} {w w' : World} {taskId : String} {cp st : WorkflowState}
  {tool : ToolName} {done : List ToolName} {m m' : Memory} {o : Except PyError WorkflowState} {d : QueueDelivery}
  {D : WorkflowState → Except PyError AgentDecision → Prop} {U : Except PyError (Nat × Nat) → Prop}

theorem outage_decides {st : WorkflowState} {r : Except PyError AgentDecision}
    (h : ∃ w st', st'.content = st ∧ (Env.outage f taskId).allows 0 w (.decide st') r) : r = DeterministicDecisionEngine.decide st := by
  obtain ⟨_, st', rfl, hr, -⟩ := h
  exact hr

theorem outage_usage {r : Except PyError (Nat × Nat)} (h : ∃ w, (Env.outage f taskId).allows 0 w .takeUsage r) : r = .ok (0, 0) := by
  obtain ⟨_, hr, -⟩ := h
  exact hr

/-- What running a decided tool leaves: it fails and is to be asked for again, or it is done. -/
structure Outage.Tries (f : Outage) (taskId : String) (tool : ToolName) (tr : Trail) (m m' : Memory) (o : Except PyError WorkflowState)
    (st : WorkflowState) : Prop where
  queued : st.status = .queued
  idle : st.pendingAction = none
  executed : ∃ r, m'.executed = (taskId, tool, r) :: m.executed
  outcome : if tool = f.tool ∧ calledFor taskId f.tool m < f.failures then (∃ e, o = .error e ∧ e.isRetryable = true) ∧ st.trail = tr
    else o = .ok st ∧ st.trail = tr.gain tool (f.answers tool)

theorem Ran.tries (htask : cp.taskId = taskId) (hdelete : tool ≠ .deleteDatabase) (hidle : cp.pendingAction = none ∨ tool ≠ f.tool)
    {validated : Arguments} {policy : PolicyDecision} (hv : validateAndDecide tool validated = .ok (validated, policy))
    (hnone : ∀ arguments, m.ledger.get (actionId taskId tool arguments) = none)
    (h : Ran (.outage f taskId) m cp tool validated o st m') : f.Tries taskId tool cp.trail m m' o st := by
  subst htask
  have hcalls : ∀ {g : Except PyError (Json × Bool)}, Gateway (.outage f cp.taskId) m cp tool validated g m' →
      ∃ r, f.Answers (calledFor cp.taskId f.tool m) tool r ∧ m'.executed = (cp.taskId, tool, r) :: m.executed ∧ g = accepts tool r := by
    intro g hg
    obtain ⟨r, ⟨_, st', _, hst', rfl, -, hallow⟩, hx, hg⟩ := hg.calls hdelete hv hnone
    exact ⟨r, hallow (congrArg (·.taskId) hst'), hx, hg⟩
  have hraises : ∀ {e : PyError}, Gateway (.outage f cp.taskId) m cp tool validated (.error e) m' →
      (tool = f.tool ∧ calledFor cp.taskId f.tool m < f.failures) ∧ e.isRetryable = true ∧
        ∃ r, m'.executed = (cp.taskId, tool, r) :: m.executed := by
    intro e hg
    obtain ⟨r, hr, hx, hacc⟩ := hcalls hg
    unfold Outage.Answers at hr
    split at hr
    · rename_i hfails
      obtain ⟨e', rfl, hretry⟩ := hr
      cases hacc
      exact ⟨hfails, hretry, _, hx⟩
    · subst hr
      simp [accepts, f.answers_ok] at hacc
  cases h with
  | @done result cached _ hg =>
    obtain ⟨r, hr, hx, hacc⟩ := hcalls hg
    unfold Outage.Answers at hr
    split at hr
    · obtain ⟨e, rfl, -⟩ := hr
      cases hacc
    · rename_i hgood
      subst hr
      have hres : result = f.answers tool := by
        simp [accepts, f.answers_ok] at hacc
        exact hacc.1
      subst hres
      exact ⟨rfl, rfl, ⟨_, hx⟩, by rw [if_neg hgood]; exact ⟨rfl, rfl⟩⟩
  | retried hg =>
    obtain ⟨hfails, hretry, hx⟩ := hraises hg
    refine ⟨rfl, hidle.resolve_right fun hne => hne hfails.1, hx, ?_⟩
    rw [if_pos hfails]
    exact ⟨⟨_, rfl, hretry⟩, rfl⟩
  | failed hg hno | raised hg hno =>
    obtain ⟨-, hretry, -⟩ := hraises hg
    rw [hno] at hretry
    cases hretry

/-- The checkpoint of a workflow when the tools are done and the next one was asked for `n` times. -/
structure Outage.At (f : Outage) (done : List ToolName) (tool : ToolName) (n : Nat) (cp : WorkflowState) : Prop where
  stage : (done, tool) ∈ stages
  trail : cp.trail = (Trail.ask tool)^[n] (f.trail done)

theorem Outage.At.missing {n : Nat} (h : f.At done tool n cp) : cp.evidence.contains tool.value = false := by
  have he : cp.evidence = (f.trail done).evidence := by
    have := congrArg (·.evidence) h.trail
    exact this.trans (Trail.asks_evidence ..)
  rw [he, f.trail_evidence, decide_eq_false_iff_not]
  rintro ⟨x, hx, e⟩
  exact (stage_missing h.stage).1 (ToolName.value_inj e ▸ hx)

theorem Outage.At.decides {n : Nat} (h : f.At done tool n cp) :
    ∃ dec, DeterministicDecisionEngine.decide cp = .ok dec ∧ dec.action = .useTool ∧ dec.tool = some tool ∧
      dec.arguments = DeterministicDecisionEngine.defaults := by
  have he : cp.evidence = (f.trail done).evidence := (congrArg (·.evidence) h.trail).trans (Trail.asks_evidence ..)
  have hc : cp.completedSteps = (f.trail done).completedSteps := (congrArg (·.completedSteps) h.trail).trans (Trail.asks_completedSteps ..)
  exact decide_stage h.stage (fun key => by rw [he, f.trail_evidence]) fun key => by rw [hc, f.trail_completedSteps]

/-- A delivery whose next tool needs no approval. -/
theorem Turn.tries (hdet : rt.loopDetector = {}) (hD : ∀ st r, D st r → r = DeterministicDecisionEngine.decide st)
    (hU : ∀ r, U r → r = .ok (0, 0)) {n : Nat} (hcp : f.At done tool n cp) (hrestart : tool ≠ .restartService)
    (hsilent : ({} : LoopDetector).reason ((Trail.ask tool)^[n + 1] (f.trail done)).toolHistory
      ((Trail.ask tool)^[n + 1] (f.trail done)).progressHistory = none)
    (hact : cp.status.active = true) (hidle : cp.pendingAction = none)
    (hnone : ∀ arguments, m.ledger.get (actionId cp.taskId tool arguments) = none)
    (h : Turn rt (.outage f cp.taskId) D U m cp o st m') :
    f.Tries cp.taskId tool ((Trail.ask tool)^[n + 1] (f.trail done)) m m' o st := by
  obtain ⟨dec, hdec, haction, htool, -⟩ := hcp.decides
  have hdelete := (stage_missing hcp.stage).2
  obtain ⟨u, ha⟩ := h.acts hD hU hidle hdec hact
  have htrail : (WorkflowRuntime.decided (WorkflowRuntime.absorb cp.started dec u) tool).trail = (Trail.ask tool)^[n + 1] (f.trail done) := by
    rw [Function.iterate_succ_apply', ← hcp.trail]
    rfl
  have htask : (WorkflowRuntime.decided (WorkflowRuntime.absorb cp.started dec u) tool).taskId = cp.taskId := rfl
  rcases ha.request haction htool hdelete hrestart with ⟨reason, hreason, -⟩ | ⟨-, validated, policy, hv, hr⟩
  · rw [hdet] at hreason
    have hreason : ({} : LoopDetector).reason
        (WorkflowRuntime.decided (WorkflowRuntime.absorb cp.started dec u) tool).trail.toolHistory
        (WorkflowRuntime.decided (WorkflowRuntime.absorb cp.started dec u) tool).trail.progressHistory = some reason := hreason
    rw [htrail, hsilent] at hreason
    cases hreason
  · have htries := hr.tries htask hdelete (.inl hidle) hv hnone
    rwa [htrail] at htries

/-- The engine's restart is a production restart, so it waits for its approval. -/
theorem restart_approval {validated : Arguments} {policy : PolicyDecision}
    (h : validateAndDecide .restartService DeterministicDecisionEngine.defaults.modelDump = .ok (validated, policy)) :
    policy.approvalRequired = true := by
  obtain ⟨hvalid, rfl⟩ := validateAndDecide_ok h
  have hproduction : ∃ arguments p, validateAndDecide .restartService DeterministicDecisionEngine.defaults.modelDump = .ok (arguments, p) ∧
      argumentText arguments "environment" = "production" := ⟨_, _, rfl, rfl⟩
  obtain ⟨arguments, p, hv, henv⟩ := hproduction
  rw [h] at hv
  cases hv
  exact (approvalRequired_iff hvalid).mpr ⟨rfl, hvalid, henv⟩

/-- A delivery whose next tool is the restart. -/
theorem Turn.pauses (hdet : rt.loopDetector = {}) (hD : ∀ st r, D st r → r = DeterministicDecisionEngine.decide st)
    (hU : ∀ r, U r → r = .ok (0, 0)) {n : Nat} (hcp : f.At done .restartService n cp)
    (hsilent : ({} : LoopDetector).reason ((Trail.ask .restartService)^[n + 1] (f.trail done)).toolHistory
      ((Trail.ask .restartService)^[n + 1] (f.trail done)).progressHistory = none)
    (hact : cp.status.active = true) (hidle : cp.pendingAction = none) (h : Turn rt env D U m cp o st m') :
    o = .ok st ∧ st.status = .waitingForApproval ∧ st.trail = (Trail.ask .restartService)^[n + 1] (f.trail done) ∧
      m'.executed = m.executed := by
  obtain ⟨dec, hdec, haction, htool, hargs⟩ := hcp.decides
  obtain ⟨u, ha⟩ := h.acts hD hU hidle hdec hact
  have htrail : (WorkflowRuntime.decided (WorkflowRuntime.absorb cp.started dec u) .restartService).trail =
      (Trail.ask .restartService)^[n + 1] (f.trail done) := by
    rw [Function.iterate_succ_apply', ← hcp.trail]
    rfl
  cases ha with
  | completed hother | declined hother => rw [haction] at hother; cases hother
  | looped _ ht hreason =>
    rw [htool] at ht
    cases ht
    rw [hdet] at hreason
    have hreason : ({} : LoopDetector).reason
        (WorkflowRuntime.decided (WorkflowRuntime.absorb cp.started dec u) .restartService).trail.toolHistory
        (WorkflowRuntime.decided (WorkflowRuntime.absorb cp.started dec u) .restartService).trail.progressHistory = some _ := hreason
    rw [htrail, hsilent] at hreason
    cases hreason
  | denied _ ht _ hv hp =>
    rw [htool] at ht
    cases ht
    obtain ⟨-, rfl⟩ := validateAndDecide_ok hv
    rw [evaluate_allowed.mpr (by decide)] at hp
    cases hp
  | paused _ ht _ _ _ _ _ e =>
    rw [htool] at ht
    cases ht
    exact ⟨rfl, congrArg (·.status) e, (congrArg WorkflowState.trail e).trans htrail, rfl⟩
  | ran _ ht _ hv _ hp =>
    rw [htool] at ht
    cases ht
    rw [hargs] at hv
    rw [restart_approval hv] at hp
    cases hp

theorem textBelowOne_raises {s : String} {e : PyError} (h : textBelowOne s = .error e) : e.isRetryable = false ∧ e.isPermanent = false := by
  unfold textBelowOne at h
  simp only at h
  split at h
  · cases h
  · split at h
    · cases h
    · split at h
      · cases h
      · cases h
        exact ⟨rfl, rfl⟩

open DeterministicDecisionEngine in
/-- Reading the verification raises no exception of the runtime's. -/
theorem errorRate_raises {verification : Json} {e : PyError} (h : errorRate verification = .error e) : e.isRetryable = false ∧ e.isPermanent = false := by
  unfold errorRate at h
  split at h
  · split at h
    · cases h
    · cases h
      exact ⟨rfl, rfl⟩
  · cases h
    exact ⟨rfl, rfl⟩

open DeterministicDecisionEngine in
theorem recovered_raises {rate : Option Json} {e : PyError} (h : recovered rate = .error e) : e.isRetryable = false ∧ e.isPermanent = false := by
  unfold recovered at h
  split at h
  · cases h
  · cases h
  · unfold floatBelowOne at h
    split at h
    · split at h
      · cases h
        exact ⟨rfl, rfl⟩
      · cases h
    · cases h
    · cases h
    · exact textBelowOne_raises h
    all_goals
      cases h
      exact ⟨rfl, rfl⟩

/-- When every tool is done the engine completes or fails the workflow, or raises an exception that nobody retries. -/
theorem decide_steps (he : ∀ tool ∈ steps, cp.evidence.contains tool.value = true) (hc : ToolName.restartService.value ∈ cp.completedSteps) :
    (∃ dec, DeterministicDecisionEngine.decide cp = .ok dec ∧ (dec.action = .complete ∨ dec.action = .fail)) ∨
      ∃ e, DeterministicDecisionEngine.decide cp = .error e ∧ e.isRetryable = false := by
  have hnone : DeterministicDecisionEngine.sequence.find? (fun x => !cp.evidence.contains x.1.value) = none := by
    rw [List.find?_eq_none]
    intro x hx
    have hmem : x.1 ∈ steps := by
      simp only [DeterministicDecisionEngine.sequence, List.mem_cons, List.not_mem_nil, or_false] at hx
      rcases hx with rfl | rfl | rfl | rfl <;> decide
    simp [he x.1 hmem]
  obtain ⟨verification, hv⟩ := Option.isSome_iff_exists.mp (he .verifyRecovery (by decide))
  have hyes : ¬ "restart_service" ∉ cp.completedSteps := not_not.mpr hc
  have hv : cp.evidence.get? "verify_recovery" = some verification := hv
  unfold DeterministicDecisionEngine.decide
  rw [hnone]
  simp only [if_neg hyes, hv]
  cases hrate : DeterministicDecisionEngine.errorRate verification with
  | error e => exact .inr ⟨e, rfl, (errorRate_raises hrate).1⟩
  | ok rate =>
    cases hrec : DeterministicDecisionEngine.recovered rate with
    | error e => exact .inr ⟨e, by simp only [bind, Except.bind, hrec], (recovered_raises hrec).1⟩
    | ok b =>
      refine .inl ⟨_, by simp only [bind, Except.bind, hrec]; rfl, ?_⟩
      cases b
      · exact .inr rfl
      · exact .inl rfl

/-- A delivery whose restart was approved. -/
theorem Turn.restarts {p : PendingAction} (hp : cp.pendingAction = some p) (hok : ProductionRestart p.tool p.arguments)
    (happ : m.approved cp.taskId p.actionId) (hact : cp.status.active = true)
    (hnone : ∀ arguments, m.ledger.get (actionId cp.taskId .restartService arguments) = none)
    (h : Turn rt (.outage f cp.taskId) D U m cp o st m') : f.Tries cp.taskId .restartService cp.trail m m' o st := by
  obtain ⟨htool, hvalid, -⟩ := hok
  have hne : ToolName.restartService ≠ f.tool := fun e => f.tool_ok.2 e.symm
  cases h with
  | idle hstop => rw [hact] at hstop; cases hstop
  | unapproved _ hp' hno =>
    rw [hp] at hp'
    cases hp'
    exact absurd happ hno
  | resumed _ hp' _ hr =>
    rw [hp] at hp'
    cases hp'
    rw [htool] at hr hvalid
    exact hr.tries rfl (by decide) (.inr hne) (validateAndDecide_idem hvalid) hnone
  | undecided _ hnone' | unanswered _ hnone' | unmetered _ hnone' | acted _ hnone' => rw [hp] at hnone'; cases hnone'

/-- A delivery of a workflow whose tools are done. -/
theorem Turn.ends (hD : ∀ st r, D st r → r = DeterministicDecisionEngine.decide st) (hU : ∀ r, U r → r = .ok (0, 0))
    (htrail : cp.trail = f.trail steps) (hidle : cp.pendingAction = none) (hloop : cp.status ≠ .loopStopped)
    (hdead : cp.status ≠ .deadLettered) (h : Turn rt env D U m cp o st m') :
    st.trail = f.trail steps ∧ st.pendingAction = none ∧ st.status ≠ .loopStopped ∧ st.status ≠ .deadLettered ∧
      ∀ e, o = .error e → e.isRetryable = false := by
  have he : ∀ tool ∈ steps, cp.evidence.contains tool.value = true := by
    intro tool hmem
    rw [show cp.evidence = (f.trail steps).evidence from congrArg (·.evidence) htrail, f.trail_evidence]
    exact decide_eq_true ⟨tool, hmem, rfl⟩
  have hc : ToolName.restartService.value ∈ cp.completedSteps := by
    rw [show cp.completedSteps = (f.trail steps).completedSteps from congrArg (·.completedSteps) htrail, f.trail_completedSteps]
    exact ⟨_, by decide, rfl⟩
  have hdec := decide_steps he hc
  have hdecided : ∀ {r : Except PyError AgentDecision}, D cp.started r → r = DeterministicDecisionEngine.decide cp := by
    intro r hd
    exact (hD _ _ hd).trans rfl
  cases h with
  | idle => exact ⟨htrail, hidle, hloop, hdead, nofun⟩
  | unapproved _ hp | resumed _ hp =>
    rw [hidle] at hp
    cases hp
  | undecided _ _ hd hretry =>
    rcases hdec with ⟨dec, hdec, -⟩ | ⟨e, hdec, hno⟩
    · cases (hdecided hd).trans hdec
    · cases (hdecided hd).trans hdec
      rw [hno] at hretry
      cases hretry
  | unanswered _ _ hd hno => exact ⟨htrail, hidle, nofun, nofun, fun _ h => by cases h; exact hno⟩
  | unmetered _ _ _ hu => cases hU _ hu
  | acted _ _ hd _ ha =>
    rcases hdec with ⟨dec, hdec, haction⟩ | ⟨e, hdec, -⟩
    · cases (hdecided hd).trans hdec
      cases ha with
      | completed _ e =>
        subst e
        exact ⟨htrail, hidle, nofun, nofun, nofun⟩
      | declined => exact ⟨htrail, hidle, nofun, nofun, nofun⟩
      | looped hother | denied hother | paused hother | ran hother =>
        rw [hother] at haction
        rcases haction with h | h <;> cases h
    · cases (hdecided hd).trans hdec

end AgentResilience
