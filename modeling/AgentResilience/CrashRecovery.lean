/-
  AgentResilience.CrashRecovery — what a worker's death leaves of a workflow. A run of a
  worker is a dozen separately committed store calls; a death between two of them leaves
  the claimed row to the sweep, and the next worker goes on from the checkpoint. Three
  pairs of calls leave a gap: the acknowledgement and the queueing of the next delivery,
  the acknowledgement and the save of a permanent failure, and the checkpoint
  `WAITING_FOR_APPROVAL` and its approval row (`Stranding`).

  `crash_recoverable`: workers that die anywhere else leave every workflow recoverable.
  `acknowledged_stranded`: a death right after the acknowledgement.
-/
import AgentResilience.ControlPlane
import AgentResilience.Decision

namespace AgentResilience

open Interaction

/-- Every active workflow has a delivery that is not completed, every waiting one the
    approval row of its pending action. -/
structure Recoverable (s : SQLiteStore) : Prop where
  active : ∀ taskId w, s.workflows.get taskId = some w → w.stateJson.status = .queued ∨ w.stateJson.status = .running →
    ∃ id row, s.queue.get id = some row ∧ row.taskId = taskId ∧
      (row.status = .pending ∨ row.status = .processing ∨ row.status = .dead)
  waiting : ∀ taskId w, s.workflows.get taskId = some w → w.stateJson.status = .waitingForApproval →
    ∃ p row, w.stateJson.pendingAction = some p ∧ s.approvals.get (taskId, p.actionId) = some row

/-- Workers die anywhere but where they strand their workflow. -/
def Env.unstranded : Env where
  dies _ w := ¬ Stranding w

theorem Rest.recoverable {s : SQLiteStore} (h : Rest (· ≠ none) none s) : Recoverable s where
  active taskId w hw hst := by
    have hact : w.stateJson.status.active = true := by rcases hst with e | e <;> rw [e] <;> rfl
    obtain ⟨id, row, hr, ht, hc⟩ := h.live taskId w (by simp) hw hact
    exact ⟨id, row, hr, ht, by cases hs : row.status <;> simp_all⟩
  waiting taskId w hw hst := by
    obtain ⟨p, hp, hne⟩ := h.gate taskId w hw hst
    obtain ⟨st, ha⟩ := Option.ne_none_iff_exists'.mp hne
    obtain ⟨row, hr, -⟩ := SQLiteStore.approvalStatus_some ha
    exact ⟨p, row, hp, hr⟩

theorem asks_any (s : SQLiteStore) (c : Call) (r : Except PyError c.Ret) : Asks (· ≠ none) s c r := by
  unfold Asks
  split
  · intro tool validated policy _ _ _; simp [Opens]
  · trivial

/-- Where no worker dies at a stranding boundary, every state reached is recoverable. -/
theorem crash_recoverable (rt : WorkflowRuntime) (config : Settings) {w : World}
    (h : Sequence { rt with engine := anyEngine, backend := anyBackend } config .unstranded w) : Recoverable w.store :=
  (sequence_rest rfl rfl (fun w c r _ => asks_any w.store c r) (fun _ hd => hd) h).recoverable

def createsAct : Act := ⟨.createIncident "t" "restore checkout" "checkout-pool-exhaustion", unasked 2, false⟩

def alertRead : Json := .obj [("alarm", .str "checkout-5xx")]

/-- The worker's process dies after `n` more calls than the lookup, the backend's answer among them. -/
def diesReading (n : Nat) : List Act :=
  [createsAct, ⟨.runOnce "w1", deciding readAlertRequest ++ unasked 2 ++ [.result 0 (.ok alertRead)] ++ unasked n, true⟩]

/-- The backend has answered last. -/
def executedLast (w : World) : Bool :=
  match w.journal with
  | .did _ (.execute ..) _ :: _ => true
  | _ => false

theorem executedLast_unstranded (w : World) (h : executedLast w = true) : Env.unstranded.dies 0 w := by
  unfold executedLast at h
  split at h
  · rename_i hj; simp [Env.unstranded, Stranding, hj]
  · cases h

def statusIs (w : World) (status : WorkflowStatus) : Bool :=
  (w.store.workflows.get "t").any fun row => row.stateJson.status = status

theorem diesReading_plays : (Sequence.play {} {} (fun _ _ _ => true) executedLast (diesReading 0) World.init).any
    (fun w => statusIs w .running) = true := by
  decide +kernel

theorem crash_recoverable_executed : ∃ w, Sequence {} {} .unstranded w ∧ statusIs w .running = true ∧ Recoverable w.store := by
  obtain ⟨w, h, hw⟩ := Sequence.play_exists (fun _ _ _ _ => trivial) executedLast_unstranded (fun _ _ _ => trivial)
    diesReading_plays
  exact ⟨w, h, hw, crash_recoverable {} {} h⟩

/-! ## Stranded -/

theorem acknowledges_plays : (Sequence.play {} {} (fun _ _ _ => true) (fun _ => true) (diesReading 4) World.init).any
    (fun w => statusIs w .queued && w.store.queue.rows.all fun r => r.status = .completed) = true := by
  decide +kernel

/-- A worker that dies between its acknowledgement and the queueing of the next delivery. -/
theorem acknowledged_stranded : ∃ w, Sequence {} {} .free w ∧ ¬ Recoverable w.store := by
  obtain ⟨w, h, hw⟩ : ∃ w, Sequence {} {} .free w ∧ _ := Sequence.play_exists (fun _ _ _ _ => trivial)
    (fun _ _ => trivial) (fun _ _ _ => trivial) acknowledges_plays
  simp only [Bool.and_eq_true, List.all_eq_true, decide_eq_true_eq] at hw
  refine ⟨w, h, fun hr => ?_⟩
  obtain ⟨row, hrow, hst⟩ := Option.any_eq_true _ _ |>.mp hw.1
  obtain ⟨id, q, hq, -, hne⟩ := hr.active "t" row hrow (.inl (of_decide_eq_true hst))
  rw [hw.2 q (Table.get_mem hq)] at hne
  simp at hne

end AgentResilience
