/-
  AgentResilience.LiveDelivery — a queued or running workflow that nobody works for has a
  delivery that is not completed. Every worker acts only while it holds its lease, and
  nobody dies.

  A worker that pauses a workflow for approval saves `WAITING_FOR_APPROVAL`, creates the
  approval and then acknowledges its delivery. An approval in between saves `QUEUED` and
  finds the worker's row still `PROCESSING`, so `enqueue` adds none; the acknowledgement
  then leaves the workflow with completed rows only (`approved_stranded`).

  `live_delivery`: where no `enqueue` takes a spent delivery for an active one, every
  reachable configuration has the delivery.
-/
import AgentResilience.DrivenWalk
import AgentResilience.ApprovalSafety

namespace AgentResilience

open Interaction

/-- A workflow whose stored status is `QUEUED` or `RUNNING` and for which no operation is in
    flight has a queue row that is not `COMPLETED`. -/
theorem live_delivery (rt : WorkflowRuntime) (config : Settings) {cfg : Cfg}
    (h : Reachable { rt with engine := anyEngine, backend := anyBackend } config .unspent cfg) {taskId : String}
    (hidle : ∀ i, cfg.pool i ≠ none → concerning i cfg.state.journal ≠ some taskId) (hact : Active taskId cfg.state.store) :
    ∃ id row, cfg.state.store.queue.get id = some row ∧ row.taskId = taskId ∧ row.status ≠ .completed := by
  have hinit : (driven rt.loopDetector).Inv World.init () := driven_init
  have hsound : Sound (system { rt with engine := anyEngine, backend := anyBackend } config .unspent) (driven rt.loopDetector) :=
    driven_sound rfl rfl
  obtain ⟨_, hi, hthreads⟩ := reach_cover hsound hinit (fun _ => rfl) h
  have hbusy : ∀ i, phase i cfg.state.journal ≠ .free → cfg.pool i ≠ none := by
    intro i hp hn
    have := hthreads i
    rw [hn] at this
    exact hp this
  rcases hi.good taskId with ⟨k, d, st, hp, -, ht, -⟩ | hg
  · refine absurd ?_ (hidle k (hbusy k (by rw [hp]; simp)))
    rw [holding_concerning hp, ht]
  · obtain ⟨x, hx, -⟩ := hg.driven hact
    cases x with
    | row id =>
      obtain ⟨st, hst, hne, -⟩ := hx
      obtain ⟨row, hr, ht, rfl⟩ := rowStatus_some.mp hst
      exact ⟨id, row, hr, ht, hne⟩
    | thread k =>
      refine absurd hx.1 (hidle k (hbusy k ?_))
      intro e
      have := hx.2
      rw [e] at this; cases this

/-! ## Under leases -/

/-- Thread `i` holds its lease. -/
def leaseHeld (i : ThreadId) (w : World) : Bool :=
  match phase i w.journal with
  | .holding d _ => decide (claimant d.id w.journal = some i) && (w.store.queue.get d.id).any fun row =>
      decide (row.status = .processing) && row.leaseUntil.any fun until_ => decide (w.now ≤ until_)
  | _ => true

theorem leaseHeld_holds {i : ThreadId} {w : World} (h : leaseHeld i w = true) : HoldsLease i w := by
  intro d seen hp
  simp only [leaseHeld, hp, Bool.and_eq_true, decide_eq_true_eq] at h
  obtain ⟨row, hrow, hr⟩ := Option.any_eq_true _ _ |>.mp h.2
  simp only [Bool.and_eq_true, decide_eq_true_eq] at hr
  obtain ⟨u, hu, hle⟩ := Option.any_eq_true _ _ |>.mp hr.2
  exact ⟨h.1, row, u, hrow, hr.1, hu, of_decide_eq_true hle⟩

/-- The call is no `enqueue` that finds a row in processing. -/
def enqueuesAfresh (w : World) : Call → Bool
  | .store (.enqueue taskId _) => (w.store.queue.rows.find? (SQLiteStore.isActive taskId)).all fun row => decide (row.status ≠ .processing)
  | _ => true

theorem enqueuesAfresh_unspent {i : ThreadId} {w : World} {c : Call} {r : Except PyError c.Ret}
    (h : (leaseHeld i w && enqueuesAfresh w c) = true) : Env.unspent.allows i w c r := by
  rw [Bool.and_eq_true] at h
  refine ⟨leaseHeld_holds h.1, ?_⟩
  cases c with
  | store c =>
    cases c with
    | enqueue taskId n =>
      intro row hrow hp
      have := h.2
      simp [enqueuesAfresh, hrow, hp] at this
    | _ => trivial
  | _ => trivial

def unspentPlayer : Simulator (system {} {} .unspent) Operation Answer :=
  player {} {} .unspent (fun i w c _ => leaseHeld i w && enqueuesAfresh w c) (fun _ _ => false)
    (fun _ _ _ _ h => enqueuesAfresh_unspent h) (fun _ _ _ => trivial) (fun _ _ h => by cases h)

theorem leaseHeld_leased (i : ThreadId) (w : World) (c : Call) (r : Except PyError c.Ret) (h : leaseHeld i w = true) :
    Env.leased.allows i w c r := leaseHeld_holds h

theorem leased_dies (i : ThreadId) (w : World) (h : false = true) : Env.leased.dies i w := by cases h

def leasedPlayer : Simulator (system {} {} .leased) Operation Answer :=
  player {} {} .leased (fun i w _ _ => leaseHeld i w) (fun _ _ => false) leaseHeld_leased (fun _ _ _ => trivial) leased_dies

def activeIs (taskId : String) (s : SQLiteStore) : Bool :=
  (s.workflows.get taskId).any fun row => row.stateJson.status.active

theorem activeIs_active {taskId : String} {s : SQLiteStore} (h : activeIs taskId s = true) : Active taskId s := by
  obtain ⟨row, hr, hst⟩ := Option.any_eq_true _ _ |>.mp h
  exact ⟨row, hr, hst⟩

/-- A worker asks for a production restart, and makes `n` calls after the decision. -/
def pausedRestart (n : Nat) : List (Move ThreadId Operation Answer) :=
  createsIncident ++ begins 1 (.runOnce "w1") 4 ++ decides 1 productionRestart ++ continues 1 n

theorem approvedAfterwards_plays : (unspentPlayer.play ⟨World.init, fun _ => none⟩
    (pausedRestart 8 ++ [.leave 1] ++ begins 2 (.approve "t" "operator" none) 5 ++ [.leave 2])).any
    (fun cfg => (List.range 3).all (fun i => (cfg.pool i).isNone) && activeIs "t" cfg.state.store) = true := by
  decide +kernel

theorem live_delivery_approved : ∃ cfg, Reachable {} {} .unspent cfg ∧ (∀ i, cfg.pool i = none) ∧ Active "t" cfg.state.store ∧
    ∃ id row, cfg.state.store.queue.get id = some row ∧ row.taskId = "t" ∧ row.status ≠ .completed := by
  obtain ⟨cfg, h, hidle, hc⟩ := play_settled unspentPlayer approvedAfterwards_plays (by decide)
  have hact := activeIs_active hc
  exact ⟨cfg, h, hidle, hact, live_delivery {} {} h (fun i hi => absurd (hidle i) hi) hact⟩

theorem approvedBetween_plays : (leasedPlayer.play ⟨World.init, fun _ => none⟩
    (pausedRestart 4 ++ begins 2 (.approve "t" "operator" none) 5 ++ [.leave 2] ++ continues 1 4 ++ [.leave 1])).any
    (fun cfg => (List.range 3).all (fun i => (cfg.pool i).isNone) && (activeIs "t" cfg.state.store &&
      cfg.state.store.queue.rows.all fun row => decide (row.status = .completed))) = true := by
  decide +kernel

/-- An approval between the creation of the approval row and the acknowledgement. -/
theorem approved_stranded : ∃ cfg, Reachable {} {} .leased cfg ∧ (∀ i, cfg.pool i = none) ∧ Active "t" cfg.state.store ∧
    ∀ id row, cfg.state.store.queue.get id = some row → row.status = .completed := by
  obtain ⟨cfg, h, hidle, hc⟩ := play_settled leasedPlayer approvedBetween_plays (by decide)
  simp only [Bool.and_eq_true, List.all_eq_true, decide_eq_true_eq] at hc
  exact ⟨cfg, h, hidle, activeIs_active hc.1, fun id row hr => hc.2 row (Table.get_mem hr)⟩

end AgentResilience
