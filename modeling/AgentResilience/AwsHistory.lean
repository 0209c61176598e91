/-
  AgentResilience.AwsHistory — what the AWS store keeps over a run, in any interleaving of calls
  that fail with or without effect, with threads dying anywhere. Its writes are conditional: a
  checkpoint is written under the version before it, an approval is resolved while it is
  pending, and results are put where nothing is.

  - `DurableCall.orderly`: such a call; `store_orderly`: the store's methods make no other.
  - `Retained`: the table has what it had; `call_retained` for a call, `aws_history_grows` for runs.
-/
import AgentResilience.AwsQueue

namespace AgentResilience

open Interaction
open Interaction.Prog (makes_bind makes_attempt makes_perform)
open AWSDurableStore (stateKey approvalKey resultKey eventKey)

variable {self : AWSDurableStore} {rt : WorkflowRuntime} {config : Settings} {w w' : AwsWorld} {table table' : Items ItemKey Item}

/-! ## The calls -/

def DurableCall.orderly : DurableCall → Prop
  | putItem key _ condition => condition = .absent ∨ ∃ taskId eventId, key = eventKey taskId eventId
  | updateItem key (.checkpoint _ next _) condition => ∃ taskId v, key = stateKey taskId ∧ condition = .version v ∧ next = v + 1
  | updateItem key (.resolution ..) condition => ∃ taskId actionId, key = approvalKey taskId actionId ∧ condition = .status .pending
  | _ => True

theorem recordEvent_orderly (taskId : String) (e : EventType) (payload : Json) :
    (AWSDurableStore.recordEvent taskId e payload).Makes DurableCall.orderly :=
  makes_bind (makes_perform trivial) fun _ => makes_bind (makes_perform trivial) fun _ =>
    orAwsError_makes (makes_perform (.inr ⟨taskId, _, rfl⟩))

theorem enqueue_orderly (taskId : String) (n : Nat) : (AWSDurableStore.enqueue taskId n).Makes DurableCall.orderly :=
  orAwsError_makes (makes_perform trivial)

theorem getWorkflow_orderly (taskId : String) : (AWSDurableStore.getWorkflow taskId).Makes DurableCall.orderly := by
  refine makes_bind (orAwsError_makes (makes_perform trivial)) fun item => ?_
  split
  · trivial
  · split <;> trivial

theorem saveWorkflow_orderly (state : WorkflowState) (v : Nat) : (AWSDurableStore.saveWorkflow state v).Makes DurableCall.orderly := by
  refine makes_bind (makes_perform trivial) fun updated => ?_
  refine makes_bind (makes_attempt (makes_perform ⟨state.taskId, v, rfl, rfl, rfl⟩)) fun r => ?_
  split
  · split <;> trivial
  all_goals trivial

/-- A put where nothing is, and what follows it. -/
theorem put_orderly {α : Type} {key : ItemKey} {item : Item} {f : Except PyError Unit → AwsPy α}
    (hf : ∀ r, (f r).Makes DurableCall.orderly) :
    ((Prog.attempt (onDynamo (.putItem key item .absent))).bind f).Makes DurableCall.orderly :=
  makes_bind (makes_attempt (makes_perform (.inl rfl))) hf

theorem ledgerCall_orderly (c : LedgerCall) (held : Timestamp) : (c.onAWS held).Makes DurableCall.orderly := by
  cases c with
  | createWorkflow state n =>
    refine put_orderly fun r => ?_
    split
    · split <;> trivial
    · trivial
    · exact makes_bind (recordEvent_orderly ..) fun _ => makes_bind (enqueue_orderly ..) fun _ => trivial
  | getWorkflow taskId => exact getWorkflow_orderly taskId
  | saveWorkflow state v => exact saveWorkflow_orderly _ v
  | createApproval | saveToolResult =>
    refine makes_bind (makes_perform trivial) fun created => put_orderly fun r => ?_
    split
    · split <;> trivial
    all_goals trivial
  | resolveApproval taskId actionId approved actor reason =>
    refine makes_bind (makes_perform trivial) fun resolved => ?_
    refine makes_bind (makes_attempt (makes_perform ⟨taskId, actionId, rfl, rfl⟩)) fun r => ?_
    split
    · split <;> trivial
    all_goals trivial
  | approvalStatus taskId actionId =>
    refine makes_bind (orAwsError_makes (makes_perform trivial)) fun item => ?_
    split
    · trivial
    · split <;> trivial
  | getToolResult key arguments =>
    refine makes_bind (orAwsError_makes (makes_perform trivial)) fun item => ?_
    split
    · trivial
    · split
      · trivial
      · split
        · trivial
        · split <;> trivial

theorem replayDeadLetter_orderly (self : AWSDurableStore) (deliveryId taskId : String) (n : Nat) (actor reason : String) :
    (self.replayDeadLetter deliveryId taskId n actor reason).Makes DurableCall.orderly := by
  unfold AWSDurableStore.replayDeadLetter
  split
  · trivial
  · refine makes_bind (getWorkflow_orderly taskId) fun found => ?_
    split
    · trivial
    · refine makes_bind (saveWorkflow_orderly ..) fun st => ?_
      refine makes_bind (orAwsError_makes (makes_bind (makes_perform trivial) fun _ => makes_perform trivial)) fun _ => ?_
      exact makes_bind (recordEvent_orderly ..) fun _ => trivial

theorem store_orderly (self : AWSDurableStore) : StoreMakes self DurableCall.orderly where
  enqueue := enqueue_orderly
  save := saveWorkflow_orderly
  record := recordEvent_orderly
  ledger := ledgerCall_orderly
  replay := replayDeadLetter_orderly self

/-! ## The table -/

/-- The item is the same, or has a later version. -/
def Item.Later (item item' : Item) : Prop := item' = item ∨ ∃ v v', item.version = some v ∧ item'.version = some v' ∧ v < v'

theorem Item.Later.trans {item item' item'' : Item} (h : item.Later item') (h' : item'.Later item'') : item.Later item'' := by
  rcases h with rfl | ⟨v, v', hv, hv', hlt⟩
  · exact h'
  · rcases h' with rfl | ⟨u, u', hu, hu', hlt'⟩
    · exact .inr ⟨v, v', hv, hv', hlt⟩
    · cases hv'.symm.trans hu
      exact .inr ⟨v, u', hv, hu', hlt.trans hlt'⟩

/-- A version has one checkpoint. -/
theorem Item.Later.same {item item' : Item} (h : item.Later item') (hv : item'.version = item.version) : item' = item := by
  rcases h with h | ⟨v, v', hold, hnew, hlt⟩
  · exact h
  · cases hold.symm.trans (hv.symm.trans hnew)
    exact absurd hlt (lt_irrefl _)

structure Retained (table table' : Items ItemKey Item) : Prop where
  checkpoint : ∀ taskId item, table (stateKey taskId) = some item → ∃ item', table' (stateKey taskId) = some item' ∧ item.Later item'
  approval : ∀ taskId actionId item, table (approvalKey taskId actionId) = some item →
    table' (approvalKey taskId actionId) = some item ∨ item.status = some .pending ∧ ∃ item', table' (approvalKey taskId actionId) = some item'
  result : ∀ key item, table (resultKey key) = some item → table' (resultKey key) = some item

namespace Retained

theorem refl (table : Items ItemKey Item) : Retained table table :=
  ⟨fun _ item h => ⟨item, h, .inl rfl⟩, fun _ _ _ h => .inl h, fun _ _ h => h⟩

theorem trans {table'' : Items ItemKey Item} (h : Retained table table') (h' : Retained table' table'') : Retained table table'' := by
  refine ⟨fun taskId item hitem => ?_, fun taskId actionId item hitem => ?_, fun key item hitem => h'.result key item (h.result key item hitem)⟩
  · obtain ⟨item', hitem', hlater⟩ := h.checkpoint taskId item hitem
    obtain ⟨item'', hitem'', hlater'⟩ := h'.checkpoint taskId item' hitem'
    exact ⟨item'', hitem'', hlater.trans hlater'⟩
  · rcases h.approval taskId actionId item hitem with hsame | ⟨hpending, item', hitem'⟩
    · exact h'.approval taskId actionId item hsame
    · rcases h'.approval taskId actionId item' hitem' with hsame | ⟨-, hnew⟩
      · exact .inr ⟨hpending, item', hsame⟩
      · exact .inr ⟨hpending, hnew⟩

end Retained

/-- An orderly write that takes effect. -/
theorem write_retained {key : ItemKey} {new : Item} {condition : Option Item → Bool} {r : Except PyError Unit}
    (h : WriteEffect (table.put key new condition) ⟨table, .empty, .empty⟩ r ⟨table', .empty, .empty⟩)
    (hkept : ∀ item, table key = some item → condition (some item) = true →
      (∀ taskId, key = stateKey taskId → item.Later new) ∧ (∀ taskId actionId, key = approvalKey taskId actionId → item.status = some .pending) ∧
        ∀ k, key ≠ resultKey k) : Retained table table' := by
  cases hp : table.put key new condition with
  | none =>
    rw [hp] at h
    obtain rfl : table' = table := congrArg AwsState.table h.2
    exact .refl _
  | some t =>
    rw [hp] at h
    obtain rfl : table' = t := congrArg AwsState.table h.2
    obtain ⟨hcondition, hget⟩ := Items.put_some hp
    have hkeep : ∀ item, table key = some item → condition (some item) = true := fun item e => e ▸ hcondition
    refine ⟨fun taskId item hitem => ?_, fun taskId actionId item hitem => ?_, fun k item hitem => ?_⟩
    · rw [hget]
      split
      · rename_i e
        subst e
        exact ⟨new, rfl, (hkept item hitem (hkeep item hitem)).1 taskId rfl⟩
      · exact ⟨item, hitem, .inl rfl⟩
    · rw [hget]
      split
      · rename_i e
        subst e
        exact .inr ⟨(hkept item hitem (hkeep item hitem)).2.1 taskId actionId rfl, new, rfl⟩
      · exact .inl hitem
    · rw [hget]
      split
      · rename_i e
        subst e
        exact absurd rfl ((hkept item hitem (hkeep item hitem)).2.2 k)
      · exact hitem

theorem effect_retained {c : DurableCall} (hc : c.orderly) {r : Except PyError c.Ret}
    (h : AwsEffect c ⟨table, .empty, .empty⟩ r ⟨table', .empty, .empty⟩) : Retained table table' := by
  have hsame : ∀ {s : AwsState}, (⟨table', .empty, .empty⟩ : AwsState) = s → s.table = table → Retained table table' := by
    intro s hs ht
    obtain rfl : table' = table := (congrArg AwsState.table hs).trans ht
    exact .refl _
  cases c with
  | getItem | utcNow | uuid4 => exact hsame h.2 rfl
  | putItem key item condition =>
    refine write_retained h fun old hold hcondition => ?_
    rcases hc with rfl | ⟨taskId, eventId, rfl⟩
    · cases hcondition
    · exact ⟨fun _ e => absurd e (eventKey_stateKey _ _ _), fun _ _ e => absurd e (eventKey_approvalKey _ _ _ _),
        fun _ e => eventKey_resultKey _ _ _ e⟩
  | updateItem key update condition =>
    refine write_retained h fun old hold hcondition => ?_
    cases update with
    | checkpoint state next updated =>
      obtain ⟨taskId, v, rfl, rfl, rfl⟩ := hc
      have hversion : old.version = some v := of_decide_eq_true hcondition
      exact ⟨fun _ _ => .inr ⟨v, v + 1, hversion, rfl, Nat.lt_succ_self v⟩, fun _ _ e => absurd e (stateKey_approvalKey _ _ _),
        fun _ e => stateKey_resultKey _ _ e⟩
    | resolution status actor reason resolved =>
      obtain ⟨taskId, actionId, rfl, rfl⟩ := hc
      exact ⟨fun _ e => absurd e.symm (stateKey_approvalKey _ _ _), fun _ _ _ => of_decide_eq_true hcondition,
        fun _ e => approvalKey_resultKey _ _ _ e⟩
  | sendMessage name body =>
    obtain ⟨-, -, messages, -, -, h⟩ := h
    exact hsame h (by cases name <;> rfl)
  | deleteMessage name receiptHandle =>
    rcases h with ⟨-, h⟩ | ⟨-, -, h⟩
    · exact hsame h (by cases name <;> rfl)
    · exact hsame h rfl

/-! ## Runs -/

theorem call_retained {i : ThreadId} {c : MethodCall} {limit : Nat} {r : Except PyError c.Ret} (hc : c.call.Within DurableCall.orderly limit)
    (h : awsCalls i c w r w') : Retained w.table w'.table := by
  obtain ⟨w₁, he, rfl⟩ := h
  obtain ⟨method, call⟩ := c
  cases call with
  | table d =>
    obtain ⟨table', he | ⟨-, rfl | ⟨r', he⟩⟩, rfl⟩ := he
    · exact effect_retained hc he
    · exact .refl _
    · exact effect_retained hc he
  | outside d =>
    obtain rfl := he
    exact .refl _
  | sqs s =>
    have hsame : w₁.table = w.table := by
      rcases he with ⟨a, -, hs⟩ | ⟨-, rfl | ⟨a, hs⟩⟩
      · exact (sqs_table hs).1
      · rfl
      · exact (sqs_table hs).1
    show Retained w.table w₁.table
    rw [hsame]
    exact .refl _
  | upkeep d =>
    show Retained w.table w₁.table
    rw [(upkeep_table he.2).1]
    exact .refl _

theorem step_retained {cfg cfg' : AwsCfg} (h : AwsReachable self rt config cfg) (hs : Step (awsSystem self rt config) cfg cfg') :
    Retained cfg.state.table cfg'.state.table := by
  cases hs with
  | enter _ he =>
    obtain ⟨op, -, rfl⟩ := he
    exact .refl _
  | call hp hc => exact call_retained ((store_orderly self).reachable h hp) hc
  | leave _ _ hl =>
    obtain rfl := hl
    exact .refl _
  | crash _ hx =>
    obtain rfl := hx
    exact .refl _

theorem run_retained {cfg cfg' : AwsCfg} (h : AwsReachable self rt config cfg)
    (hrun : Relation.ReflTransGen (Step (awsSystem self rt config)) cfg cfg') : Retained cfg.state.table cfg'.state.table := by
  induction hrun with
  | refl => exact .refl _
  | tail hr hs ih => exact ih.trans (step_retained (h.run hr) hs)

/-- Whatever fails or dies, the AWS store forgets nothing: a checkpoint stays until one of a later version is in its place, so
    that a version has one checkpoint; a resolved approval and a tool's result stay as they are. -/
theorem aws_history_grows (self : AWSDurableStore) (rt : WorkflowRuntime) (config : Settings) {cfg cfg' : AwsCfg}
    (h : AwsReachable self rt config cfg) (hrun : Relation.ReflTransGen (Step (awsSystem self rt config)) cfg cfg') :
    Retained cfg.state.table cfg'.state.table ∧
    ∀ taskId item item', cfg.state.table (stateKey taskId) = some item → cfg'.state.table (stateKey taskId) = some item' →
      item'.version = item.version → item' = item := by
  have hretained := run_retained h hrun
  refine ⟨hretained, fun taskId item item' hitem hitem' hversion => ?_⟩
  obtain ⟨kept, hkept, hlater⟩ := hretained.checkpoint taskId item hitem
  cases hitem'.symm.trans hkept
  exact hlater.same hversion

/-- The worker's first decision fails, which is saved. -/
def failsOnAws : List (Move ThreadId AwsOperation ClientAnswer) :=
  [.enter 1 (.runs (.runOnce "w1")), .call 1 (.handed 0 7)] ++ served 1 6 ++
  [.call 1 (.outside (.decision 0 (.error (.retryable "timeout"))))] ++ served 1 2

def versionIs (v : Nat) (cfg : AwsCfg) : Bool := (cfg.state.table (stateKey "t")).any fun item => decide (item.version = some v)

theorem failsOnAws_plays : ((awsPlayer onSqsBackend {} oneAttempt).play ⟨AwsWorld.init, fun _ => none⟩ createsOnAws).any
    (fun cfg => versionIs 0 cfg && ((awsPlayer onSqsBackend {} oneAttempt).play cfg failsOnAws).any (versionIs 2)) = true := by
  decide +kernel

/-- The checkpoint of the new workflow is followed by the one saved twice. -/
theorem aws_history_grows_retried : ∃ (cfg cfg' : AwsCfg) (item item' : Item), AwsReachable onSqsBackend {} oneAttempt cfg ∧
    Relation.ReflTransGen (Step (awsSystem onSqsBackend {} oneAttempt)) cfg cfg' ∧
    cfg.state.table (stateKey "t") = some item ∧ item.version = some 0 ∧
    cfg'.state.table (stateKey "t") = some item' ∧ item'.version = some 2 ∧ item.Later item' := by
  obtain ⟨cfg, h, hc⟩ := (awsPlayer onSqsBackend {} oneAttempt).play_exists failsOnAws_plays
  rw [Bool.and_eq_true] at hc
  obtain ⟨cfg', hrun, hc'⟩ := (awsPlayer onSqsBackend {} oneAttempt).play_continues hc.2
  obtain ⟨item, hitem, hv⟩ := Option.any_eq_true _ _ |>.mp hc.1
  obtain ⟨item', hitem', hv'⟩ := Option.any_eq_true _ _ |>.mp hc'
  obtain ⟨item'', hitem'', hlater⟩ := (aws_history_grows onSqsBackend {} oneAttempt h hrun).1.checkpoint "t" item hitem
  cases hitem'.symm.trans hitem''
  exact ⟨cfg, cfg', item, item', h, hrun, hitem, of_decide_eq_true hv, hitem', of_decide_eq_true hv', hlater⟩

end AgentResilience
