/-
  AgentResilience.HumanTrace — approve and reject call by call (api.py), with any other
  writer between two calls, any store call raising, and a crash at any call boundary. Each
  call commits on its own: the ledger first, then the checkpoint, the event and the queue.

  - `decision_atomic_iff`: an approve or reject is all or nothing exactly when, once it has
    resolved the approval, it is not cut off, no later call of it raises, and the checkpoint
    still has the version it read when it is saved. `decision_halved`: cut off after the
    ledger, it is neither.
-/
import AgentResilience.Lib.Exchanges
import AgentResilience.LiveDelivery

namespace AgentResilience.HumanTrace

open Interaction

/-! ## Traces of a decision -/

abbrev StoreExchange := Exchange Call Call.Ret PyError SQLiteStore

/-- Every row has a checkpoint of its task. -/
def Keyed (s : SQLiteStore) : Prop := ∀ taskId row, s.workflows.get taskId = some row → row.stateJson.taskId = taskId

/-- A call takes effect at some time, or raises and leaves the store as it is. -/
def faulty : Service Call Call.Ret PyError SQLiteStore := fun c s r s' =>
  Keyed s ∧ ((∃ t, Effect c s t r s') ∨ (∃ e, r = .error e) ∧ s' = s)

/-- An approve or a reject request. -/
def decisionRequest (config : Settings) (approved : Bool) (taskId actor : String) (reason : Option String) : Py WorkflowState :=
  if approved then approve config taskId actor reason else reject taskId actor reason

/-- The call changed neither the approval ledger nor a checkpoint. -/
def Untouched (x : StoreExchange) : Prop := x.after.approvals = x.before.approvals ∧ x.after.workflows = x.before.workflows

/-- What a request that completes with `state` has done. -/
structure Carried (approved : Bool) (taskId : String) (xs : List StoreExchange) (state : WorkflowState) : Prop where
  resolved : ∃ x ∈ xs, ∃ actionId row, x.before.approvalStatus taskId actionId = some .pending ∧
    x.after.approvals.get (taskId, actionId) = some row ∧ row.status = if approved then .approved else .rejected
  saved : ∃ x ∈ xs, x.after.getWorkflow taskId = some state
  moved : if approved then state.status = .queued else state.status = .humanRejected ∧ state.pendingAction = none
  active : approved = true → ∃ x ∈ xs, ∃ id row, x.after.queue.get id = some row ∧ row.taskId = taskId ∧
    (row.status = .pending ∨ row.status = .processing)

/-- A request that completes has done all of it, and one that does not has changed neither
    the ledger nor a checkpoint. -/
def AllOrNothing (approved : Bool) (taskId : String) (xs : List StoreExchange) : Option (Except PyError WorkflowState) → Prop
  | some (.ok state) => Carried approved taskId xs state
  | _ => ∀ x ∈ xs, Untouched x

/-! ## When nothing disturbs it -/

/-- The store can serve the call: a save finds the version it expects, and a task to be queued its
    workflow or its active row. -/
def Ready : Call → SQLiteStore → Prop
  | .store (.saveWorkflow state v), s => ∃ row, s.workflows.get state.taskId = some row ∧ row.version = v
  | .store (.enqueue taskId _), s => s.workflows.get taskId ≠ none ∨ (s.queue.rows.find? (SQLiteStore.isActive taskId)).isSome
  | _, _ => True

/-- The store can serve the call, and the call does not fail. -/
structure Honoured (x : StoreExchange) : Prop where
  ready : Ready x.call x.before
  effect : ∃ t, Effect x.call x.before t x.answer x.after

/-- A request that resolved its approval is not cut off, and its calls are honoured. -/
def Undisturbed (xs : List StoreExchange) (o : Option (Except PyError WorkflowState)) : Prop :=
  (∃ x ∈ xs, x.after.approvals ≠ x.before.approvals) → o ≠ none ∧ ∀ x ∈ xs, Honoured x

variable {config : Settings} {approved : Bool} {taskId actor : String} {reason : Option String} {xs : List StoreExchange}
  {o : Option (Except PyError WorkflowState)}

/-- A request that ended before it changed anything. -/
theorem atomic_untouched (hx : ∀ x ∈ xs, Untouched x) (ho : ∀ st, o ≠ some (.ok st)) :
    AllOrNothing approved taskId xs o ↔ Undisturbed xs o := by
  refine iff_of_true ?_ ?_
  · unfold AllOrNothing
    split
    · exact absurd rfl (ho _)
    · exact hx
  · rintro ⟨x, hmem, hne⟩
    exact absurd (hx x hmem).1 hne

/-- A request that changed the ledger and did not complete. -/
theorem atomic_half {x : StoreExchange} (hx : x ∈ xs) (hne : x.after.approvals ≠ x.before.approvals)
    (ho : ∀ st, o ≠ some (.ok st)) {ys : List StoreExchange} (hys : ys ⊆ xs) (hd : o = none ∨ ∃ y ∈ ys, ¬ Honoured y) :
    AllOrNothing approved taskId xs o ↔ Undisturbed xs o := by
  refine iff_of_false (fun h => ?_) fun h => ?_
  · unfold AllOrNothing at h
    split at h
    · exact absurd rfl (ho _)
    · exact hne (h x hx).1
  · obtain ⟨hcut, hhonoured⟩ := h ⟨x, hx, hne⟩
    rcases hd with hd | ⟨y, hy, hd⟩
    · exact hcut hd
    · exact hd (hhonoured y (hys hy))

/-- A request that completed. -/
theorem atomic_whole {st : WorkflowState} (hc : Carried approved taskId xs st) (hx : ∀ x ∈ xs, Honoured x) :
    AllOrNothing approved taskId xs (some (.ok st)) ↔ Undisturbed xs (some (.ok st)) :=
  iff_of_true hc fun _ => ⟨by simp, hx⟩

/-! ## The calls -/

variable {s s' : SQLiteStore}

/-- A call that answers has taken effect. -/
theorem faulty_ok {c : Call} {a : c.Ret} (h : faulty c s (.ok a) s') : ∃ t, Effect c s t (.ok a) s' := by
  rcases h.2 with h | ⟨⟨e, h⟩, -⟩
  · exact h
  · cases h

theorem faulty_getWorkflow {r : Except PyError (Option WorkflowState)} (h : faulty (.store (.getWorkflow taskId)) s r s') :
    s' = s ∧ ∀ a, r = .ok a → a = s.getWorkflow taskId := by
  rcases h.2 with ⟨t, he⟩ | ⟨⟨e, rfl⟩, rfl⟩
  · obtain ⟨rfl, rfl⟩ := Prod.mk.inj he
    exact ⟨rfl, fun a ha => by cases ha; rfl⟩
  · exact ⟨rfl, fun a ha => by cases ha⟩

theorem faulty_resolve_error {actionId : String} {e : PyError}
    (h : faulty (.store (.resolveApproval taskId actionId approved actor reason)) s (.error e) s') : s' = s := by
  rcases h.2 with ⟨t, he⟩ | ⟨-, rfl⟩
  · rcases SQLiteStore.resolveApproval_cases he with ⟨-, -, -, hok, -⟩ | ⟨-, rfl, -⟩
    · cases hok
    · rfl
  · rfl

theorem faulty_resolve_ok {actionId : String} {u : Unit}
    (h : faulty (.store (.resolveApproval taskId actionId approved actor reason)) s (.ok u) s') :
    s.approvalStatus taskId actionId = some .pending ∧ s'.approvals ≠ s.approvals ∧
      ∃ row, s'.approvals.get (taskId, actionId) = some row ∧ row.status = if approved then .approved else .rejected := by
  obtain ⟨t, he⟩ := faulty_ok h
  rcases SQLiteStore.resolveApproval_cases he with ⟨row, hr, hp, -, hg, -⟩ | ⟨⟨m, hm⟩, -⟩
  · have hget := hg (taskId, actionId)
    rw [if_pos rfl] at hget
    refine ⟨by simp [SQLiteStore.approvalStatus, hr, hp], fun he => ?_, _, hget, rfl⟩
    rw [he, hr] at hget
    have hstatus := congrArg ApprovalRow.status (Option.some.inj hget)
    rw [hp] at hstatus
    cases approved <;> cases hstatus
  · cases hm

theorem honoured_ok {c : Call} {a : c.Ret} (h : faulty c s (.ok a) s') (hr : Ready c s) : Honoured ⟨c, .ok a, s, s'⟩ :=
  ⟨hr, faulty_ok h⟩

/-- A save that raises was not honoured. -/
theorem save_unhonoured {st : WorkflowState} {v : Nat} {e : PyError} : ¬ Honoured ⟨.store (.saveWorkflow st v), .error e, s, s'⟩ := by
  rintro ⟨⟨row, hr, hv⟩, t, he⟩
  rcases SQLiteStore.saveWorkflow_cases he with ⟨-, -, -, hok, -⟩ | ⟨-, -, hne⟩
  · cases hok
  · exact hne row hr hv

theorem record_unhonoured {event : EventType} {payload : Json} {e : PyError} :
    ¬ Honoured ⟨.store (.recordEvent taskId event payload), .error e, s, s'⟩ := by
  rintro ⟨-, t, he⟩
  cases (Prod.mk.inj he).1

theorem enqueue_unhonoured {n : Nat} {e : PyError} : ¬ Honoured ⟨.store (.enqueue taskId n), .error e, s, s'⟩ := by
  rintro ⟨hready, t, he⟩
  have he : s.enqueue t taskId n = (.error e, s') := he
  unfold SQLiteStore.enqueue at he
  split at he
  · cases (Prod.mk.inj he).1
  · rename_i hfind
    split at he
    · cases (Prod.mk.inj he).1
    · rename_i hnone
      rcases hready with hw | hrow
      · exact hw (by simpa using hnone)
      · simp [hfind] at hrow

theorem save_honoured {st a : WorkflowState} {v : Nat} (h : faulty (.store (.saveWorkflow st v)) s (.ok a) s') :
    Honoured ⟨.store (.saveWorkflow st v), .ok a, s, s'⟩ ∧ s'.getWorkflow st.taskId = some a ∧
      ∃ t, a = { st with version := v + 1, updatedAt := t } := by
  obtain ⟨t, he⟩ := faulty_ok h
  rcases SQLiteStore.saveWorkflow_cases he with ⟨row, hr, hv, hok, hw, -⟩ | ⟨⟨m, hm⟩, -⟩
  · cases hok
    refine ⟨⟨⟨row, hr, hv⟩, t, he⟩, ?_, t, rfl⟩
    simp [SQLiteStore.getWorkflow, hw]
  · cases hm

theorem enqueue_honoured {n id : Nat} (h : faulty (.store (.enqueue taskId n)) s (.ok id) s') :
    Honoured ⟨.store (.enqueue taskId n), .ok id, s, s'⟩ ∧ ∃ id row, s'.queue.get id = some row ∧ row.taskId = taskId ∧
      (row.status = .pending ∨ row.status = .processing) := by
  obtain ⟨t, he⟩ := faulty_ok h
  rcases SQLiteStore.enqueue_cases he with ⟨row, hfind, hr, rfl, hst, -, rfl⟩ | ⟨-, hw, -, rfl⟩ | ⟨-, ⟨m, hm⟩, -⟩
  · exact ⟨⟨.inr (by rw [hfind]; rfl), t, he⟩, row.id, row, hr, rfl, hst⟩
  · exact ⟨⟨.inl hw, t, he⟩, s.nextQueueId, _, (SQLiteStore.insertQueue_get ..).trans (if_pos rfl), rfl, .inl rfl⟩
  · cases hm

/-! ## The requests -/

/-- A call of a request that has resolved its approval: the request ends there, or goes on. -/
theorem goes_on {β : Type} {c : Call} {f : c.Ret → Py β} {ys : List StoreExchange} {o : Option (Except PyError β)}
    (h : Trace faulty ((Interaction.Prog.perform c).bind f) ys o) (hun : ∀ e s s', ¬ Honoured ⟨c, .error e, s, s'⟩) :
    ((∀ b, o ≠ some (.ok b)) ∧ (o = none ∨ ∃ y ∈ ys, ¬ Honoured y)) ∨
      ∃ a s s' zs, faulty c s (.ok a) s' ∧ ys = ⟨c, .ok a, s, s'⟩ :: zs ∧ Trace faulty (f a) zs o := by
  rcases h.perform_bind with ⟨-, rfl⟩ | ⟨e, s, s', -, rfl, ho⟩ | h
  · exact .inl ⟨by simp, .inl rfl⟩
  · exact .inl ⟨ho, .inr ⟨_, List.mem_cons_self, hun e s s'⟩⟩
  · exact .inr h

/-- A request reads the workflow first, and ends if there is none. -/
theorem required_trace {β : Type} {f : WorkflowState → Py β} {o : Option (Except PyError β)}
    (h : Trace faulty ((required taskId).bind f) xs o) :
    ((∀ x ∈ xs, Untouched x) ∧ ∀ b, o ≠ some (.ok b)) ∨
      ∃ s st ys, st.taskId = taskId ∧ faulty (.store (.getWorkflow taskId)) s (.ok (some st)) s ∧
        xs = ⟨.store (.getWorkflow taskId), .ok (some st), s, s⟩ :: ys ∧ Trace faulty (f st) ys o := by
  unfold required at h
  rw [Prog.bind_def, Prog.bind_assoc] at h
  rcases h.perform_bind with ⟨rfl, rfl⟩ | ⟨e, s, s', hs, rfl, ho⟩ | ⟨a, s, s', ys, hs, rfl, ht⟩
  · exact .inl ⟨by simp, by simp⟩
  · obtain ⟨rfl, -⟩ := faulty_getWorkflow hs
    refine .inl ⟨fun x hx => ?_, ho⟩
    obtain rfl := List.mem_singleton.mp hx
    exact ⟨rfl, rfl⟩
  · obtain ⟨rfl, ha⟩ := faulty_getWorkflow hs
    cases a with
    | none =>
      obtain ⟨rfl, ho⟩ := Trace.raise_cases ht
      refine .inl ⟨fun x hx => ?_, ho⟩
      obtain rfl := List.mem_singleton.mp hx
      exact ⟨rfl, rfl⟩
    | some st =>
      obtain ⟨row, hr, rfl⟩ := SQLiteStore.getWorkflow_some (ha _ rfl).symm
      exact .inr ⟨s', row.stateJson, ys, hs.1 _ row hr, hs, rfl, ht⟩

/-- It resolves the approval next, and ends if that fails. -/
theorem resolve_trace {β : Type} {actionId : String} {f : Unit → Py β} {o : Option (Except PyError β)} {ys : List StoreExchange}
    (h : Trace faulty ((onStore (.resolveApproval taskId actionId approved actor reason)).bind f) ys o) :
    ((∀ x ∈ ys, Untouched x) ∧ ∀ b, o ≠ some (.ok b)) ∨
      ∃ s s' zs, faulty (.store (.resolveApproval taskId actionId approved actor reason)) s (.ok ()) s' ∧
        ys = ⟨.store (.resolveApproval taskId actionId approved actor reason), .ok (), s, s'⟩ :: zs ∧ Trace faulty (f ()) zs o := by
  rcases h.perform_bind with ⟨rfl, rfl⟩ | ⟨e, s, s', hs, rfl, ho⟩ | ⟨a, s, s', zs, hs, rfl, ht⟩
  · exact .inl ⟨by simp, by simp⟩
  · obtain rfl := faulty_resolve_error hs
    refine .inl ⟨fun x hx => ?_, ho⟩
    obtain rfl := List.mem_singleton.mp hx
    exact ⟨rfl, rfl⟩
  · exact .inr ⟨s, s', zs, hs, rfl, ht⟩

theorem untouched_read {ys : List StoreExchange} {r : Except PyError (Option WorkflowState)} (h : ∀ x ∈ ys, Untouched x) :
    ∀ x ∈ (⟨.store (.getWorkflow taskId), r, s, s⟩ : StoreExchange) :: ys, Untouched x := by
  intro x hx
  rcases List.mem_cons.mp hx with rfl | hx
  · exact ⟨rfl, rfl⟩
  · exact h x hx

theorem approve_atomic (h : Trace faulty (approve config taskId actor reason) xs o) :
    AllOrNothing true taskId xs o ↔ Undisturbed xs o := by
  rcases required_trace h with ⟨hx, ho⟩ | ⟨s, st, ys, htask, hread, rfl, ht⟩
  · exact atomic_untouched hx ho
  subst htask
  split at ht
  · rename_i pending hst hp
    rcases resolve_trace ht with ⟨hx, ho⟩ | ⟨s₁, s₁', zs, hres, rfl, ht₁⟩
    · exact atomic_untouched (untouched_read hx) ho
    obtain ⟨hpending, hne, row, hrow, hstatus⟩ := faulty_resolve_ok hres
    rcases goes_on ht₁ (fun _ _ _ => save_unhonoured) with ⟨ho, hd⟩ | ⟨a, s₂, s₂', us, hsave, rfl, ht₂⟩
    · exact atomic_half (List.mem_cons_of_mem _ List.mem_cons_self) hne ho (fun _ hy => by simp [hy]) hd
    rcases goes_on ht₂ (fun _ _ _ => record_unhonoured) with ⟨ho, hd⟩ | ⟨u, s₃, s₃', us, hrec, rfl, ht₃⟩
    · exact atomic_half (List.mem_cons_of_mem _ List.mem_cons_self) hne ho (fun _ hy => by simp [hy]) hd
    rcases goes_on ht₃ (fun _ _ _ => enqueue_unhonoured) with ⟨ho, hd⟩ | ⟨id, s₄, s₄', us, henq, rfl, ht₄⟩
    · exact atomic_half (List.mem_cons_of_mem _ List.mem_cons_self) hne ho (fun _ hy => by simp [hy]) hd
    obtain ⟨rfl, rfl | rfl⟩ := ht₄.ret_cases
    · exact atomic_half (List.mem_cons_of_mem _ List.mem_cons_self) hne (by simp) (List.Subset.refl _) (.inl rfl)
    · obtain ⟨hs, hstored, t, rfl⟩ := save_honoured hsave
      obtain ⟨he, hactive⟩ := enqueue_honoured henq
      refine atomic_whole ⟨?_, ?_, rfl, fun _ => ?_⟩ ?_
      · exact ⟨_, List.mem_cons_of_mem _ List.mem_cons_self, _, row, hpending, hrow, hstatus⟩
      · exact ⟨_, (.tail _ (.tail _ (.head _))), hstored⟩
      · exact ⟨_, .tail _ (.tail _ (.tail _ (.tail _ (.head _)))), hactive⟩
      · simp only [List.forall_mem_cons]
        exact ⟨honoured_ok hread trivial, honoured_ok hres trivial, hs, honoured_ok hrec trivial, he, by simp⟩
  · obtain ⟨rfl, ho⟩ := ht.raise_cases
    exact atomic_untouched (untouched_read (by simp)) ho

theorem reject_atomic (h : Trace faulty (reject taskId actor reason) xs o) :
    AllOrNothing false taskId xs o ↔ Undisturbed xs o := by
  rcases required_trace h with ⟨hx, ho⟩ | ⟨s, st, ys, htask, hread, rfl, ht⟩
  · exact atomic_untouched hx ho
  subst htask
  split at ht
  · rename_i pending hst hp
    rcases resolve_trace ht with ⟨hx, ho⟩ | ⟨s₁, s₁', zs, hres, rfl, ht₁⟩
    · exact atomic_untouched (untouched_read hx) ho
    obtain ⟨hpending, hne, row, hrow, hstatus⟩ := faulty_resolve_ok hres
    rcases goes_on ht₁ (fun _ _ _ => save_unhonoured) with ⟨ho, hd⟩ | ⟨a, s₂, s₂', us, hsave, rfl, ht₂⟩
    · exact atomic_half (List.mem_cons_of_mem _ List.mem_cons_self) hne ho (fun _ hy => by simp [hy]) hd
    rcases goes_on ht₂ (fun _ _ _ => record_unhonoured) with ⟨ho, hd⟩ | ⟨u, s₃, s₃', us, hrec, rfl, ht₃⟩
    · exact atomic_half (List.mem_cons_of_mem _ List.mem_cons_self) hne ho (fun _ hy => by simp [hy]) hd
    obtain ⟨rfl, rfl | rfl⟩ := ht₃.ret_cases
    · exact atomic_half (List.mem_cons_of_mem _ List.mem_cons_self) hne (by simp) (List.Subset.refl _) (.inl rfl)
    · obtain ⟨hs, hstored, t, rfl⟩ := save_honoured hsave
      refine atomic_whole ⟨?_, ?_, ⟨rfl, rfl⟩, fun h => (by cases h)⟩ ?_
      · exact ⟨_, List.mem_cons_of_mem _ List.mem_cons_self, _, row, hpending, hrow, hstatus⟩
      · exact ⟨_, (.tail _ (.tail _ (.head _))), hstored⟩
      · simp only [List.forall_mem_cons]
        exact ⟨honoured_ok hread trivial, honoured_ok hres trivial, hs, honoured_ok hrec trivial, by simp⟩
  · obtain ⟨rfl, ho⟩ := ht.raise_cases
    exact atomic_untouched (untouched_read (by simp)) ho

/-- A human decision is all or nothing exactly when nothing disturbs the request once it has
    resolved the approval. -/
theorem decision_atomic_iff (config : Settings) (approved : Bool) (taskId actor : String) (reason : Option String)
    {xs : List StoreExchange} {o : Option (Except PyError WorkflowState)}
    (h : Trace faulty (decisionRequest config approved taskId actor reason) xs o) :
    AllOrNothing approved taskId xs o ↔ Undisturbed xs o := by
  cases approved with
  | true => exact approve_atomic h
  | false => exact reject_atomic h

/-! ## A request nobody else disturbs -/

theorem apply_keyed (c : StoreCall) {t : Timestamp} (h : Keyed s) : Keyed (c.apply s t).2 := by
  intro T row hr
  cases c with
  | createWorkflow st n =>
    simp only [StoreCall.apply] at hr
    generalize hx : s.createWorkflow t st n = x at hr
    obtain ⟨r, s'⟩ := x
    rcases SQLiteStore.createWorkflow_cases hx with ⟨-, -, rfl⟩ | ⟨-, -, hw, -⟩
    · exact h T row hr
    · rw [hw] at hr
      split at hr
      · cases hr; assumption
      · exact h T row hr
  | saveWorkflow st v =>
    simp only [StoreCall.apply] at hr
    generalize hx : s.saveWorkflow t st v = x at hr
    obtain ⟨r, s'⟩ := x
    rcases SQLiteStore.saveWorkflow_cases hx with ⟨-, -, -, -, hw, -⟩ | ⟨-, rfl, -⟩
    · rw [hw] at hr
      split at hr
      · cases hr; exact Eq.symm ‹_›
      · exact h T row hr
    · exact h T row hr
  | replayDeadLetter id task n actor reason =>
    simp only [StoreCall.apply] at hr
    generalize hx : s.replayDeadLetter t id task n actor reason = x at hr
    obtain ⟨r, s'⟩ := x
    rcases SQLiteStore.replayDeadLetter_cases hx with ⟨-, rfl⟩ | ⟨q, w, state, -, -, -, hw, hst, -, hws, -⟩
    · exact h T row hr
    · rw [replay_workflow (h _ _ hw) hw hst hws] at hr
      split at hr
      · cases hr
        rw [hst]
        exact (h _ _ hw).trans (Eq.symm ‹_›)
      · exact h T row hr
  | _ => exact h T row ((congrArg (fun ws => Table.get ws T) (StoreCall.apply_workflows rfl s t)).symm.trans hr)

/-- The first `n` store calls of a program, one after the other at time `t`. -/
def alone {α : Type} (t : Timestamp) : Nat → Py α → SQLiteStore → List StoreExchange × Option (Except PyError α)
  | _, .ret a, _ => ([], some (.ok a))
  | _, .raise e, _ => ([], some (.error e))
  | n + 1, .call (.store c) k, s =>
    let r := c.apply s t
    let rest := alone t n (k r.1) r.2
    (⟨.store c, r.1, s, r.2⟩ :: rest.1, rest.2)
  | _, _, _ => ([], none)

theorem alone_trace {α : Type} (t : Timestamp) (n : Nat) (p : Py α) (h : Keyed s) :
    Trace faulty p (alone t n p s).1 (alone t n p s).2 := by
  induction n generalizing p s with
  | zero =>
    cases p with
    | ret a => exact .ret a
    | raise e => exact .raise e
    | call c k => cases c <;> exact .cut _
  | succ n ih =>
    cases p with
    | ret a => exact .ret a
    | raise e => exact .raise e
    | call c k =>
      cases c with
      | store c => exact .call ⟨h, .inl ⟨t, rfl⟩⟩ (ih _ (apply_keyed c h))
      | _ => exact .cut _

/-- The status of the approval of the pending action. -/
def pendingStatus (s : SQLiteStore) : Option ApprovalStatus :=
  ((s.getWorkflow "t").bind (·.pendingAction)).bind fun pending => s.approvalStatus "t" pending.actionId

/-- An approve request of the store of `cfg`, cut off after `n` calls. -/
def approvesAlone (n : Nat) (cfg : Cfg) : List StoreExchange × Option (Except PyError WorkflowState) :=
  alone 0 n (decisionRequest {} true "t" "operator" none) cfg.state.store

/-- A worker has paused the workflow for a production restart. -/
def pausesWorkflow : List (Move ThreadId Operation Answer) := pausedRestart 8 ++ [.leave 1]

/-- An approve request completes, and one that is cut off after its second call has resolved the approval. -/
def decidesAlone (cfg : Cfg) : Bool :=
  ((approvesAlone 5 cfg).2.any fun o => o.toBool) && (approvesAlone 2 cfg).2.isNone &&
    (approvesAlone 2 cfg).1.any fun x => decide (pendingStatus x.before ≠ pendingStatus x.after)

theorem pausesWorkflow_plays : ((freePlayer {} {}).play ⟨World.init, fun _ => none⟩ pausesWorkflow).any
    (fun cfg => (List.range 2).all (fun i => (cfg.pool i).isNone) && decidesAlone cfg) = true := by
  decide +kernel

theorem reachable_keyed (rt : WorkflowRuntime) (config : Settings) {env : Env} {cfg : Cfg}
    (h : Reachable { rt with engine := anyEngine, backend := anyBackend } config env cfg) : Keyed cfg.state.store :=
  fun T row hr => ((reachable_storeOk lawful_univ h).state T row hr).task

theorem decision_atomic_iff_approved : ∃ cfg xs st, Reachable {} {} .free cfg ∧ xs.head?.map (·.before) = some cfg.state.store ∧
    Trace faulty (decisionRequest {} true "t" "operator" none) xs (some (.ok st)) ∧
    (AllOrNothing true "t" xs (some (.ok st)) ↔ Undisturbed xs (some (.ok st))) := by
  obtain ⟨cfg, h, -, hc⟩ := play_settled _ pausesWorkflow_plays (by decide)
  simp only [decidesAlone, Bool.and_eq_true] at hc
  obtain ⟨o, ho, hok⟩ := Option.any_eq_true _ _ |>.mp hc.1.1
  cases o with
  | error e => cases hok
  | ok st =>
    have ht : Trace faulty (decisionRequest {} true "t" "operator" none) (approvesAlone 5 cfg).1 (some (.ok st)) :=
      ho ▸ alone_trace 0 5 _ (reachable_keyed {} {} h)
    exact ⟨cfg, _, st, h, rfl, ht, decision_atomic_iff {} true "t" "operator" none ht⟩

/-- An approve request that stops after it resolved the approval has changed the ledger and
    nothing else: it is not all, and not nothing. -/
theorem decision_halved : ∃ cfg xs, Reachable {} {} .free cfg ∧ xs.head?.map (·.before) = some cfg.state.store ∧
    Trace faulty (decisionRequest {} true "t" "operator" none) xs none ∧ ¬ AllOrNothing true "t" xs none := by
  obtain ⟨cfg, h, -, hc⟩ := play_settled _ pausesWorkflow_plays (by decide)
  simp only [decidesAlone, Bool.and_eq_true] at hc
  have ht := alone_trace 0 2 (decisionRequest {} true "t" "operator" none) (reachable_keyed {} {} h)
  refine ⟨cfg, _, h, rfl, Option.isNone_iff_eq_none.mp hc.1.2 ▸ ht, fun hall => ?_⟩
  obtain ⟨x, hx, hne⟩ := List.any_eq_true.mp hc.2
  obtain ⟨ha, hw⟩ := hall x hx
  refine of_decide_eq_true hne ?_
  simp [pendingStatus, SQLiteStore.getWorkflow, SQLiteStore.approvalStatus, ha, hw]

end AgentResilience.HumanTrace
