/-
  AgentResilience.Steady — the deterministic engine's sequence of tools under a backend whose
  answers are a function of the tool, its arguments and the completed steps, for a task whose
  deliveries may be cut off and made again.

  - `Reached`: what a checkpoint says when tools are done and the next one was asked for a
    number of times. `Reached.silent`: the detector is silent about a second decision.
  - `Place`: where the task's workflow is, as the store has it, for a number of crashes.
  - `outcome`, `remaining`: what is compared at the end, and how far it is.
-/
import AgentResilience.Retries
import AgentResilience.OtherTasks

namespace AgentResilience

open Interaction

/-! ## The backend -/

/-- The arguments the deterministic engine asks with, validated. -/
def asked (tool : ToolName) : Arguments := argumentDump tool "checkout-service" "production" none

theorem asked_valid (tool : ToolName) :
    validateAndDecide tool DeterministicDecisionEngine.defaults.modelDump = .ok (asked tool, evaluate tool (asked tool)) := by
  cases tool <;> rfl

theorem asked_again (tool : ToolName) : validateAndDecide tool (asked tool) = .ok (asked tool, evaluate tool (asked tool)) :=
  validateAndDecide_idem (validateAndDecide_ok (asked_valid tool)).1

/-- A backend that is a function of tool, arguments and completed steps, and answers with objects
    that are not empty. -/
structure PureBackend where
  result : ToolName → Arguments → List String → Json
  nonEmpty : ∀ tool arguments completed, (result tool arguments completed).nonEmptyObj = true

namespace PureBackend

variable (b : PureBackend)

/-- The answer to the engine's call of the tool when the others are done. -/
def answer (done : List ToolName) (tool : ToolName) : Json := b.result tool (asked tool) (done.map ToolName.value)

/-- The evidence when the tools are done, and those tools. -/
def found (done : List ToolName) : Dict Json × List ToolName :=
  done.foldl (fun x tool => (x.1.set tool.value (b.answer x.2 tool), x.2 ++ [tool])) ([], [])

def evidence (done : List ToolName) : Dict Json := (b.found done).1

theorem found_append (done : List ToolName) (tool : ToolName) :
    b.found (done ++ [tool]) = ((b.found done).1.set tool.value (b.answer (b.found done).2 tool), (b.found done).2 ++ [tool]) :=
  List.foldl_append ..

theorem found_done (done : List ToolName) : (b.found done).2 = done := by
  induction done using List.reverseRecOn with
  | nil => rfl
  | append_singleton done tool ih => rw [found_append, ih]

theorem evidence_append (done : List ToolName) (tool : ToolName) :
    b.evidence (done ++ [tool]) = (b.evidence done).set tool.value (b.answer done tool) := by
  unfold evidence
  rw [found_append, found_done]

theorem evidence_contains (done : List ToolName) (key : String) :
    (b.evidence done).contains key = decide (∃ tool ∈ done, tool.value = key) := by
  induction done using List.reverseRecOn with
  | nil => rfl
  | append_singleton done tool ih =>
    rw [evidence_append, Dict.contains_set, ih]
    by_cases e : key = tool.value
    · simp [e]
    · simp [e, Ne.symm e]

/-- The evidence that a tool adds changes the fingerprint. -/
def Fresh : Prop := ∀ done tool, (done, tool) ∈ stages →
  progressFingerprint (b.evidence (done ++ [tool])) ≠ progressFingerprint (b.evidence done)

/-- What the engine makes of the verification. -/
def recovered : Except PyError Bool := do
  let rate ← DeterministicDecisionEngine.errorRate (b.answer (beforeRestart ++ [.restartService]) .verifyRecovery)
  DeterministicDecisionEngine.recovered rate

/-- The engine can read the verification's error rate. -/
def Readable : Prop := ∃ x, b.recovered = .ok x

end PureBackend

/-- The deterministic engine and the backend for the task; operators who create and approve; workers that die
    anywhere but where they strand their workflow. -/
def Env.steady (b : PureBackend) (taskId : String) : Env where
  allows _ _ c r := Decides c r ∧
    match c, r with
    | .execute st tool arguments _, r => st.taskId = taskId → r = .ok (b.result tool arguments st.completedSteps)
    | _, _ => True
  starts := Env.operator.starts
  dies _ w := ¬ Stranding w

/-! ## Checkpoints on the way -/

variable {b : PureBackend} {taskId : String} {done : List ToolName} {tool : ToolName} {n : Nat} {cp st : WorkflowState}

/-- The last two fingerprints when tools are done: that of the last decision, and that of its result. -/
def Ends (b : PureBackend) (done : List ToolName) (progress : List String) : Prop :=
  (done = [] → progress = []) ∧ ∀ before last, done = before ++ [last] →
    ∃ front, progress = front ++ [progressFingerprint (b.evidence before), progressFingerprint (b.evidence done)]

/-- The tools `done` are done, and `tool` was asked for `n` times since. -/
structure Reached (b : PureBackend) (done : List ToolName) (tool : ToolName) (n : Nat) (cp : WorkflowState) : Prop where
  evidence : cp.evidence = b.evidence done
  completedSteps : cp.completedSteps = done.map ToolName.value
  toolCalls : cp.toolCalls = done.length
  finalAnswer : cp.finalAnswer = none
  tools : ∃ front, cp.toolHistory = front ++ List.replicate n tool.value ∧ front.length ≤ 2 * done.length ∧
    ∀ x ∈ front, ∃ t ∈ done, t.value = x
  progress : ∃ front, cp.progressHistory = front ++ List.replicate n (progressFingerprint (b.evidence done)) ∧ Ends b done front

namespace Reached

/-- What `Reached` reads of a checkpoint. -/
theorem congr (h : Reached b done tool n cp) (he : st.evidence = cp.evidence) (hc : st.completedSteps = cp.completedSteps)
    (ht : st.toolCalls = cp.toolCalls) (hf : st.finalAnswer = cp.finalAnswer) (hh : st.toolHistory = cp.toolHistory)
    (hp : st.progressHistory = cp.progressHistory) : Reached b done tool n st :=
  ⟨he.trans h.evidence, hc.trans h.completedSteps, ht.trans h.toolCalls, hf.trans h.finalAnswer, hh ▸ h.tools, hp ▸ h.progress⟩

/-- The checkpoint of a new incident. -/
theorem start (he : cp.evidence = []) (hc : cp.completedSteps = []) (ht : cp.toolCalls = 0) (hf : cp.finalAnswer = none)
    (hh : cp.toolHistory = []) (hp : cp.progressHistory = []) : Reached b [] tool 0 cp :=
  ⟨he, hc, ht, hf, ⟨[], hh, Nat.zero_le _, nofun⟩, [], hp, fun _ => rfl, fun before last e => absurd e (by simp)⟩

/-- One more decision for the tool. -/
theorem ask (h : Reached b done tool n cp) (he : st.evidence = cp.evidence) (hc : st.completedSteps = cp.completedSteps)
    (ht : st.toolCalls = cp.toolCalls) (hf : st.finalAnswer = cp.finalAnswer) (hh : st.toolHistory = cp.toolHistory ++ [tool.value])
    (hp : st.progressHistory = cp.progressHistory ++ [progressFingerprint cp.evidence]) : Reached b done tool (n + 1) st := by
  obtain ⟨front, hfront, hlen, hmem⟩ := h.tools
  obtain ⟨front', hfront', hends⟩ := h.progress
  refine ⟨he.trans h.evidence, hc.trans h.completedSteps, ht.trans h.toolCalls, hf.trans h.finalAnswer, ⟨front, ?_, hlen, hmem⟩,
    front', ?_, hends⟩
  · rw [hh, hfront, List.append_assoc, ← List.replicate_succ']
  · rw [hp, hfront', h.evidence, List.append_assoc, ← List.replicate_succ']

/-- The tool's result. -/
theorem gain (h : Reached b done tool n cp) (hmissing : tool ∉ done) (hpos : 1 ≤ n) (hn : n ≤ 2) (next : ToolName) :
    Reached b (done ++ [tool]) next 0 (toolCompleted cp tool (b.answer done tool)) := by
  obtain ⟨front, hfront, hlen, hmem⟩ := h.tools
  obtain ⟨front', hfront', hends⟩ := h.progress
  have hev : (toolCompleted cp tool (b.answer done tool)).evidence = b.evidence (done ++ [tool]) := by
    rw [b.evidence_append, ← h.evidence]
    rfl
  have hnew : tool.value ∉ cp.completedSteps := by
    rw [h.completedSteps]
    intro hx
    obtain ⟨t, ht, e⟩ := List.mem_map.mp hx
    exact hmissing (ToolName.value_inj e ▸ ht)
  refine ⟨hev, ?_, ?_, h.finalAnswer, ⟨cp.toolHistory, (List.append_nil _).symm, ?_, ?_⟩, cp.progressHistory ++
    [progressFingerprint (b.evidence (done ++ [tool]))], ?_, fun e => absurd e (by simp), ?_⟩
  · show (if _ then _ else _) = _
    rw [if_neg hnew, h.completedSteps, List.map_append]
    rfl
  · show cp.toolCalls + 1 = _
    rw [h.toolCalls, List.length_append, List.length_singleton]
  · rw [hfront, List.length_append, List.length_replicate, List.length_append, List.length_singleton]
    omega
  · intro x hx
    rw [hfront] at hx
    rcases List.mem_append.mp hx with hx | hx
    · obtain ⟨t, ht, e⟩ := hmem x hx
      exact ⟨t, List.mem_append_left _ ht, e⟩
    · exact ⟨tool, by simp, (List.eq_of_mem_replicate hx).symm⟩
  · show cp.progressHistory ++ [progressFingerprint (toolCompleted cp tool (b.answer done tool)).evidence] = _
    rw [hev]
    exact (List.append_nil _).symm
  · intro before last e
    obtain ⟨rfl, -⟩ := List.append_inj' e rfl
    obtain ⟨k, rfl⟩ := Nat.exists_eq_add_of_le' hpos
    refine ⟨front' ++ List.replicate k (progressFingerprint (b.evidence done)), ?_⟩
    rw [hfront', List.replicate_succ']
    simp

/-- The default detector is silent about the first two decisions for a tool. -/
theorem silent (hfresh : b.Fresh) (hstage : (done, tool) ∈ stages) (hpos : 1 ≤ n) (hn : n ≤ 2) (h : Reached b done tool n cp) :
    ({} : LoopDetector).reason cp.toolHistory cp.progressHistory = none := by
  obtain ⟨front, hfront, hlen, hmem⟩ := h.tools
  obtain ⟨front', hfront', hempty, hends⟩ := h.progress
  have hmissing : tool.value ∉ front := by
    intro hx
    obtain ⟨t, ht, e⟩ := hmem _ hx
    exact (stage_missing hstage).1 (ToolName.value_inj e ▸ ht)
  rw [LoopDetector.reason_none_iff, hfront, hfront']
  refine ⟨?_, not_repeats hmissing (by omega) (by omega), ?_⟩
  · have hfive : done.length ≤ 5 := by
      rw [stages_eq] at hstage
      simp only [List.mem_cons, Prod.mk.injEq, List.not_mem_nil, or_false] at hstage
      rcases hstage with ⟨rfl, -⟩ | ⟨rfl, -⟩ | ⟨rfl, -⟩ | ⟨rfl, -⟩ | ⟨rfl, -⟩ | ⟨rfl, -⟩ <;> decide
    show ((_ : Nat) : Int) < 20
    rw [List.length_append, List.length_replicate]
    omega
  · rcases Outage.stage_after hstage with ⟨rfl, -⟩ | ⟨-, done', tool', rfl, hstage'⟩
    · rw [hempty rfl]
      rintro ⟨x, rest, hstalled⟩
      have hlen := congrArg List.length hstalled
      simp at hlen
      omega
    · obtain ⟨rest, hrest⟩ := hends done' tool' rfl
      rw [hrest, List.append_cons rest, List.append_assoc, List.singleton_append, ← List.replicate_succ]
      exact not_stalled (hfresh done' tool' hstage').symm (by omega) (by omega)

/-- The engine asks for the next tool. -/
theorem decides (hstage : (done, tool) ∈ stages) (h : Reached b done tool n cp) :
    ∃ dec, DeterministicDecisionEngine.decide cp = .ok dec ∧ dec.action = .useTool ∧ dec.tool = some tool ∧
      dec.arguments = DeterministicDecisionEngine.defaults :=
  decide_stage hstage (fun key => by rw [h.evidence, b.evidence_contains]) fun key => by
    rw [h.completedSteps, List.mem_map]

end Reached

/-! ## The end -/

/-- What a run is compared by. -/
structure Outcome where
  status : WorkflowStatus
  evidence : Dict Json
  completedSteps : List String
  diagnosis : Option String
  finalAnswer : Option String

def WorkflowState.outcome (st : WorkflowState) : Outcome :=
  ⟨st.status, st.evidence, st.completedSteps, st.diagnosis, st.finalAnswer⟩

/-- Every tool is done. -/
structure Gathered (b : PureBackend) (cp : WorkflowState) : Prop where
  evidence : cp.evidence = b.evidence steps
  completedSteps : cp.completedSteps = steps.map ToolName.value
  toolCalls : cp.toolCalls = 6
  finalAnswer : cp.finalAnswer = none

theorem Gathered.congr (h : Gathered b cp) (he : st.evidence = cp.evidence) (hc : st.completedSteps = cp.completedSteps)
    (ht : st.toolCalls = cp.toolCalls) (hf : st.finalAnswer = cp.finalAnswer) : Gathered b st :=
  ⟨he.trans h.evidence, hc.trans h.completedSteps, ht.trans h.toolCalls, hf.trans h.finalAnswer⟩

theorem Reached.gathered (h : Reached b steps tool n cp) : Gathered b cp :=
  ⟨h.evidence, h.completedSteps, h.toolCalls, h.finalAnswer⟩

namespace PureBackend

variable (b : PureBackend)

/-- The engine's last decision. -/
def verdict (recovered : Bool) : AgentDecision :=
  if recovered then DeterministicDecisionEngine.complete else DeterministicDecisionEngine.escalate

/-- The outcome, by what the engine makes of the verification. -/
def conclusion (recovered : Bool) : Outcome where
  status := if recovered then .completed else .failed
  evidence := b.evidence steps
  completedSteps := steps.map ToolName.value
  diagnosis := (verdict recovered).diagnosis
  finalAnswer := (verdict recovered).finalAnswer

end PureBackend

/-- When every tool is done the engine concludes from the verification, or raises an exception that nobody handles. -/
theorem Gathered.decides (h : Gathered b cp) :
    (∃ r, b.recovered = .ok r ∧ DeterministicDecisionEngine.decide cp = .ok (PureBackend.verdict r)) ∨
      ∃ e, b.recovered = .error e ∧ DeterministicDecisionEngine.decide cp = .error e ∧ e.isRetryable = false ∧ e.isPermanent = false := by
  have hnone : DeterministicDecisionEngine.sequence.find? (fun x => !cp.evidence.contains x.1.value) = none := by
    rw [List.find?_eq_none]
    intro x hx
    have hmem : ∃ tool ∈ steps, tool.value = x.1.value := by
      simp only [DeterministicDecisionEngine.sequence, List.mem_cons, List.not_mem_nil, or_false] at hx
      rcases hx with rfl | rfl | rfl | rfl <;> exact ⟨_, by decide, rfl⟩
    rw [h.evidence, b.evidence_contains, decide_eq_true hmem]
    simp
  have hdone : ¬ "restart_service" ∉ cp.completedSteps := by
    rw [h.completedSteps]
    decide
  have hverified : cp.evidence.get? "verify_recovery" = some (b.answer (beforeRestart ++ [.restartService]) .verifyRecovery) := by
    have hlast : b.evidence steps = (b.evidence (beforeRestart ++ [.restartService])).set ToolName.verifyRecovery.value
        (b.answer (beforeRestart ++ [.restartService]) .verifyRecovery) :=
      b.evidence_append (beforeRestart ++ [ToolName.restartService]) ToolName.verifyRecovery
    rw [h.evidence, hlast, Dict.get?_set]
    exact if_pos rfl
  unfold DeterministicDecisionEngine.decide PureBackend.recovered
  rw [hnone]
  simp only [if_neg hdone, hverified]
  cases hrate : DeterministicDecisionEngine.errorRate (b.answer (beforeRestart ++ [.restartService]) .verifyRecovery) with
  | error e => exact .inr ⟨e, rfl, rfl, errorRate_raises hrate⟩
  | ok rate =>
    cases hrec : DeterministicDecisionEngine.recovered rate with
    | error e => exact .inr ⟨e, by simp only [bind, Except.bind, hrec], by simp only [bind, Except.bind, hrec], recovered_raises hrec⟩
    | ok r => exact .inl ⟨r, by simp only [bind, Except.bind, hrec], by simp only [bind, Except.bind, hrec]; rfl⟩

/-- How many more deliveries the workflow needs. -/
def remaining : Option WorkflowState → Nat
  | none => 8
  | some cp => if cp.terminal then 0 else 6 - cp.toolCalls + 1 + if cp.toolCalls ≤ 4 ∧ cp.pendingAction = none then 1 else 0

/-! ## The task's part of the store -/

/-- What the store holds of the task under the engine's requests. -/
structure Docket where
  checkpoint : Option WorkflowState
  ledger : ToolName → Option ToolResultRow
  approval : Option ApprovalRow

/-- The id of the restart's action. -/
def restartId (taskId : String) : String := actionId taskId .restartService (asked .restartService)

def SQLiteStore.docket (s : SQLiteStore) (taskId : String) : Docket where
  checkpoint := s.stored taskId
  ledger tool := s.toolResults.get (actionId taskId tool (asked tool))
  approval := s.approvals.get (taskId, restartId taskId)

theorem Alike.docket {s s' : SQLiteStore} (h : Alike taskId s s') : s'.docket taskId = s.docket taskId := by
  unfold SQLiteStore.docket
  rw [h.stored, h.approvals, funext fun tool => h.ledger tool (asked tool)]

/-- Of the tools that are not done, the ledger has the next one's result at most, as the backend answers. -/
def Noted (b : PureBackend) (done : List ToolName) (next : ToolName) (ledger : ToolName → Option ToolResultRow) : Prop :=
  ∀ tool row, tool ∉ done → ledger tool = some row →
    tool = next ∧ row.argumentsHash = argumentsHash (asked tool) ∧ row.resultJson = b.answer done tool

/-- The action that waits for its approval is the restart. -/
structure Restarting (taskId : String) (p : PendingAction) : Prop where
  tool : p.tool = .restartService
  arguments : p.arguments = asked .restartService
  actionId : p.actionId = restartId taskId

/-- Where the task's workflow is, when its deliveries were cut off `crashes i` times with `i` tools done. -/
inductive Place (b : PureBackend) (taskId : String) (crashes : Nat → Nat) (k : Docket) : Prop
  | unknown : k.checkpoint = none → (∀ tool, k.ledger tool = none) → k.approval = none → Place b taskId crashes k
  | going {done : List ToolName} {tool : ToolName} {n : Nat} {cp : WorkflowState} : k.checkpoint = some cp → (done, tool) ∈ stages →
      Reached b done tool n cp → n ≤ crashes done.length → cp.status.active = true → cp.pendingAction = none →
      Noted b done tool k.ledger → (.restartService ∉ done → k.approval = none) → Place b taskId crashes k
  | gated {n : Nat} {cp : WorkflowState} {p : PendingAction} {row : ApprovalRow} : k.checkpoint = some cp →
      Reached b beforeRestart .restartService n cp → 1 ≤ n → n ≤ crashes beforeRestart.length + 1 → cp.pendingAction = some p →
      Restarting taskId p → Noted b beforeRestart .restartService k.ledger → k.approval = some row →
      (cp.status = .waitingForApproval ∧ row.status = .pending ∨ cp.status.active = true ∧ row.status = .approved) →
      Place b taskId crashes k
  | finished {cp : WorkflowState} : k.checkpoint = some cp → Gathered b cp → cp.status.active = true → cp.pendingAction = none →
      Place b taskId crashes k
  | ended {cp : WorkflowState} {r : Bool} : k.checkpoint = some cp → b.recovered = .ok r → cp.outcome = b.conclusion r →
      Place b taskId crashes k

/-- A place allows for crashes at its own count of tools. -/
theorem Place.allow {crashes crashes' : Nat → Nat} {k : Docket} (h : Place b taskId crashes k)
    (hle : ∀ cp, k.checkpoint = some cp → crashes cp.toolCalls ≤ crashes' cp.toolCalls) : Place b taskId crashes' k := by
  cases h with
  | unknown hnone hledger happroval => exact .unknown hnone hledger happroval
  | going hcp hstage hreached hn hact hidle hnoted happroval =>
    have := hle _ hcp
    rw [hreached.toolCalls] at this
    exact .going hcp hstage hreached (hn.trans this) hact hidle hnoted happroval
  | gated hcp hreached hpos hn hp hrestart hnoted happroval hstatus =>
    have := hle _ hcp
    rw [hreached.toolCalls] at this
    exact .gated hcp hreached hpos (by omega) hp hrestart hnoted happroval hstatus
  | finished hcp hgathered hact hidle => exact .finished hcp hgathered hact hidle
  | ended hcp hr ho => exact .ended hcp hr ho

theorem Place.mono {crashes crashes' : Nat → Nat} {k : Docket} (h : Place b taskId crashes k) (hle : ∀ i, crashes i ≤ crashes' i) :
    Place b taskId crashes' k :=
  h.allow fun _ _ => hle _

end AgentResilience
