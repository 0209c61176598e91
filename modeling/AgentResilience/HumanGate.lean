/-
  AgentResilience.HumanGate — whether a workflow that waits for a human can be decided.
  The action id is a function of task, tool and arguments, `create_approval` inserts or
  ignores, and a row is resolved once. An engine that asks for a production restart again,
  after an earlier request of it was approved and carried out, pauses the workflow on the
  row that is approved already: neither `approve` nor `reject` can resolve it
  (`repeated_undecidable`).

  `gates_decidable`: where the engine asks for no action that has a resolved row, every
  waiting workflow has a pending approval, and `approve` and `reject` both succeed.
-/
import AgentResilience.CrashRecovery
import AgentResilience.ApprovalSafety

namespace AgentResilience

open Interaction

/-- Workers' runs, approvals and rejections, one after another and without crashes. -/
def Env.gated : Env where
  starts _ _ op :=
    match op with
    | .createIncident .. | .runOnce _ | .approve .. | .reject .. => True
    | _ => False
  dies _ _ := False

/-- The same, with an engine that asks for no production restart whose approval is resolved. -/
def Env.unrepeated : Env where
  allows _ w c r :=
    match c, r with
    | .decide state, .ok decision => ∀ tool validated policy, decision.asked = some tool →
        validateAndDecide tool decision.arguments.modelDump = .ok (validated, policy) → ProductionRestart tool validated →
        ∀ row, w.store.approvals.get (state.taskId, actionId state.taskId tool validated) = some row → row.status = .pending
    | _, _ => True
  starts := Env.gated.starts
  dies _ _ := False

theorem unrepeated_asks {w : World} {c : Call} {r : Except PyError c.Ret} (h : Env.unrepeated.allows 0 w c r) :
    Asks (· = some .pending) w.store c r := by
  unfold Asks
  split
  · intro tool validated policy htool hv hp
    have := h tool validated policy htool hv hp
    unfold Opens SQLiteStore.approvalStatus
    cases hx : w.store.approvals.get _ with
    | none => rfl
    | some row => simp [this row hx]
  · trivial

/-- Every waiting workflow has a pending approval, and approving and rejecting it both succeed. -/
theorem gates_decidable (rt : WorkflowRuntime) (config : Settings) {w : World}
    (h : Sequence { rt with engine := anyEngine, backend := anyBackend } config .unrepeated w) {taskId : String}
    {row : WorkflowRow} (hr : w.store.workflows.get taskId = some row) (hst : row.stateJson.status = .waitingForApproval) :
    ∃ p arow, row.stateJson.pendingAction = some p ∧ w.store.approvals.get (taskId, p.actionId) = some arow ∧
      arow.status = .pending ∧
      (∀ env actor reason o w', Runs (calls env 0) (approve config taskId actor reason) w o w' → ∃ st, o = .ok st) ∧
      (∀ env actor reason o w', Runs (calls env 0) (reject taskId actor reason) w o w' → ∃ st, o = .ok st) := by
  have hrest : Rest (· = some .pending) none w.store :=
    sequence_rest rfl rfl (fun _ _ _ hal => unrepeated_asks hal) (fun _ hd => hd.elim) h
  obtain ⟨p, hp, ha⟩ := hrest.gate taskId row hr hst
  obtain ⟨arow, harow, hpend⟩ := SQLiteStore.approvalStatus_some ha
  have hgated : Gated taskId w.store := ⟨row, p, hr, hst, hp, ha⟩
  refine ⟨p, arow, hp, harow, hpend, fun env actor reason o w' hx => ?_, fun env actor reason o w' hx => ?_⟩
  · exact (wp_sound (approve_rest hrest taskId actor reason) hx).2 hgated
  · exact (wp_sound (reject_rest hrest taskId actor reason) hx).2 hgated

/-- An incident whose worker asks for a production restart. -/
def asksRestart : List Act := [createsAct, ⟨.runOnce "w1", deciding productionRestart ++ unasked 7, false⟩]

/-- No approval has been asked for yet when the engine answers. -/
def asksFirst (w : World) : Call → Bool
  | .decide _ => w.store.approvals.rows.isEmpty
  | _ => true

theorem asksFirst_allows (w : World) (c : Call) (r : Except PyError c.Ret) (h : asksFirst w c = true) :
    Env.unrepeated.allows 0 w c r := by
  unfold Env.unrepeated
  simp only
  split
  · intro tool validated policy _ _ _ row hrow
    rw [asksFirst, List.isEmpty_iff] at h
    have := Table.get_mem hrow
    rw [h] at this; cases this
  · trivial

theorem asksRestart_plays : (Sequence.play {} {} (fun w c _ => asksFirst w c) (fun _ => false) asksRestart World.init).any
    (fun w => statusIs w .waitingForApproval) = true := by
  decide +kernel

theorem gates_decidable_restart : ∃ w row p arow, Sequence {} {} .unrepeated w ∧ w.store.workflows.get "t" = some row ∧
    row.stateJson.pendingAction = some p ∧ w.store.approvals.get ("t", p.actionId) = some arow ∧ arow.status = .pending := by
  obtain ⟨w, h, hw⟩ := Sequence.play_exists asksFirst_allows (fun _ h => by cases h)
    (fun a ha _ => by simp [asksRestart, createsAct] at ha; rcases ha with rfl | rfl <;> trivial) asksRestart_plays
  obtain ⟨row, hrow, hst⟩ := Option.any_eq_true _ _ |>.mp hw
  obtain ⟨p, arow, hp, harow, hpend, -, -⟩ := gates_decidable {} {} h hrow (of_decide_eq_true hst)
  exact ⟨w, row, p, arow, h, hrow, hp, harow, hpend⟩

/-! ## Asked for again -/

/-- The restart is approved and carried out, and asked for again. -/
def asksTwice : List Act :=
  asksRestart ++
  [⟨.approve "t" "operator" none, unasked 5, false⟩,
   ⟨.runOnce "w1", unasked 5 ++ [.result 0 (.ok (.obj [("restarted", .bool true)]))] ++ unasked 7, false⟩,
   ⟨.runOnce "w1", deciding productionRestart ++ unasked 7, false⟩]

/-- The workflow waits on an approval that is approved, and neither operation decides it. -/
def undecidable (w : World) : Bool :=
  (w.store.workflows.get "t").any fun row => row.stateJson.status = .waitingForApproval &&
    row.stateJson.pendingAction.any fun p => w.store.approvalStatus "t" p.actionId = some .approved &&
      raises (approve {} "t" "operator" none) w && raises (reject "t" "operator" none) w
where
  /-- The second call raises. -/
  raises (p : Py WorkflowState) (w : World) : Bool :=
    (World.playFor (fun _ _ _ => true) (unasked 2) p w).any fun q => q.1.outcome? matches some (.error (.value _))

theorem asksTwice_plays : (Sequence.play {} {} (fun _ _ _ => true) (fun _ => false) asksTwice World.init).any undecidable =
    true := by
  decide +kernel

theorem raises_runs {p : Py WorkflowState} {w : World} (h : undecidable.raises p w = true) :
    ∃ m w', Runs (calls .gated 0) p w (.error (.value m)) w' := by
  obtain ⟨⟨q, w'⟩, hq, ho⟩ := Option.any_eq_true _ _ |>.mp h
  simp only at ho
  split at ho
  · rename_i m he; exact ⟨m, w', playFor_runs (fun _ _ _ _ => trivial) hq he⟩
  · cases ho

/-- The restart asked for again waits on the row that is approved already. -/
theorem repeated_undecidable : ∃ w row p, Sequence {} {} .gated w ∧ w.store.workflows.get "t" = some row ∧
    row.stateJson.status = .waitingForApproval ∧ row.stateJson.pendingAction = some p ∧
    w.store.approvalStatus "t" p.actionId = some .approved ∧
    (∃ m w', Runs (calls .gated 0) (approve {} "t" "operator" none) w (.error (.value m)) w') ∧
    ∃ m w', Runs (calls .gated 0) (reject "t" "operator" none) w (.error (.value m)) w' := by
  obtain ⟨w, h, hw⟩ : ∃ w, Sequence {} {} .gated w ∧ _ := Sequence.play_exists (fun _ _ _ _ => trivial)
    (fun _ h => by cases h)
    (fun a ha _ => by
      simp [asksTwice, asksRestart, createsAct] at ha
      rcases ha with rfl | rfl | rfl | rfl | rfl <;> trivial) asksTwice_plays
  obtain ⟨row, hrow, hst⟩ := Option.any_eq_true _ _ |>.mp hw
  simp only [Bool.and_eq_true, decide_eq_true_eq] at hst
  obtain ⟨p, hp, ha⟩ := Option.any_eq_true _ _ |>.mp hst.2
  simp only [Bool.and_eq_true, decide_eq_true_eq] at ha
  exact ⟨w, row, p, h, hrow, hst.1, hp, ha.1.1, raises_runs ha.1.2, raises_runs ha.2⟩

end AgentResilience
