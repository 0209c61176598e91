/-
  AgentResilience.WorkerLoop — whether `run_once` lets an error out to `serve`, and what it
  leaves of the workflow it claimed. Only the body of its `try` is guarded: a call that fails
  before it, in an `except` clause, in the heartbeat or after it ends the worker's loop.

  - `settle`: what `run_once` does when the body has ended (`runOnce_eq`).
  - `Guarded`: the runs in which no call fails but in the body.
  - `run_once_survives`: these are the runs that let no error of the runtime out, and they leave
    the workflow attended to.
  - `conflict_escapes`: the save that marks a workflow `DEAD_LETTERED` conflicts.
-/
import AgentResilience.WorkerFaults

namespace AgentResilience

open Interaction
open Interaction.Prog (attempt throw attempt_bind_attempt direct_bind direct_perform)

variable {α : Type} {rt : WorkflowRuntime} {config : Settings} {taskId : String} {d : QueueDelivery} {cp st : WorkflowState} {w w' : World}
  {ok : QueueStatus → Prop}

/-! ## Settling -/

/-- The `except` clauses. -/
def settleDelivery (config : Settings) (d : QueueDelivery) : Except PyError Unit → Py Unit
  | .ok () => pure ()
  | .error e => if e.isRetryable then onRetryable config d e else if e.isPermanent then onPermanent d e else throw e

/-- The `finally` clause, and what follows it. -/
def finish (o : Except PyError Unit) : Py Bool := do
  awaitHeartbeat
  match o with
  | .error e => throw e
  | .ok () => do
    updateDepth
    pure true

/-- What `run_once` does when the body of its `try` has ended. -/
def settle (config : Settings) (d : QueueDelivery) (o : Except PyError Unit) : Py Bool := do
  finish (← attempt (settleDelivery config d o))

theorem runOnce_eq (rt : WorkflowRuntime) (config : Settings) (workerId : String) :
    runOnce rt config workerId = (onStore (.claim workerId config.queueLeaseSeconds)).bind fun
      | none => updateDepth.bind fun _ => .ret false
      | some d => (attempt (processDelivery rt config d)).bind (settle config d) := by
  refine congrArg _ (funext fun claimed => ?_)
  cases claimed with
  | none => rfl
  | some d =>
    show (attempt ((attempt (processDelivery rt config d)).bind _)).bind _ = _
    rw [attempt_bind_attempt, Prog.bind_assoc]
    refine congrArg _ (funext fun o => ?_)
    cases o <;> rfl

/-- A save of the checkpoint that is stored goes through. -/
theorem save_goes (h : Held taskId cp w) (ht : st.taskId = taskId) (hv : st.version = cp.version) {r : Except PyError WorkflowState}
    (hs : beating (.store (.saveWorkflow st st.version)) w r w') : ∃ st', r = .ok st' ∧ st'.status = st.status ∧ Held taskId st' w' := by
  subst ht
  obtain ⟨w₁, t, hw, he⟩ := beating_effect hs
  rcases SQLiteStore.saveWorkflow_cases he with ⟨-, -, -, rfl, -⟩ | ⟨-, -, hne⟩
  · have h' := effect_saved (j := []) he
    exact ⟨_, rfl, h'.1, h'.2.row, h'.2.task⟩
  · obtain ⟨row, hr, -, hver⟩ := (h.same hw.workflows).row
    exact absurd (hver.trans hv.symm) (hne row hr)

/-- How both `except` clauses mark a workflow that has not ended. -/
def markEnded (taskId : String) (status : WorkflowStatus) (error : String) (event : EventType) (payload : Json) : Py Unit := do
  match ← onStore (.getWorkflow taskId) with
  | none => pure ()
  | some state =>
    if state.terminal then pure ()
    else do
      let state ← save { state with status, lastError := some error }
      record state.taskId event payload

theorem onRetryable_eq (config : Settings) (d : QueueDelivery) (e : PyError) :
    onRetryable config d e = (onStore (.retryOrDeadLetter d e.message config.queueRetryBaseSeconds)).bind fun dead =>
      if dead then markEnded d.taskId .deadLettered e.message .deadLettered (.obj [("error", .str e.message)]) else .ret () := by
  refine congrArg _ (funext fun dead => ?_)
  cases dead with
  | false => rfl
  | true => exact congrArg (Prog.bind _) (funext fun found => by cases found <;> rfl)

theorem onPermanent_eq (d : QueueDelivery) (e : PyError) :
    onPermanent d e = (onStore (.acknowledge d.id)).bind fun _ =>
      markEnded d.taskId .failed e.message .workflowFailed (.obj [("category", .str "permanent"), ("reason", .str e.message)]) := by
  exact congrArg (Prog.bind _) (funext fun _ => congrArg (Prog.bind _) (funext fun found => by cases found <;> rfl))

theorem markEnded_attended {status : WorkflowStatus} (hends : status.terminal = true) (h : Held taskId cp w) (error : String)
    (event : EventType) (payload : Json) :
    wp beating (markEnded taskId status error event payload) (fun o w' => o = .ok () ∧ Attended taskId w'.store) w := by
  refine wp_bind.mpr (wp_perform.mpr fun r w₁ hs => ?_)
  obtain ⟨w₀, t, hw, he⟩ := beating_effect hs
  have hread : r = .ok (some cp) := by
    rw [← (h.same hw.workflows).stored]
    exact (congrArg Prod.fst he).symm
  have h₁ : Held taskId cp w₁ := h.same ((effect_spares (by rfl) he).trans hw.workflows)
  subst hread
  show wp _ (if _ then _ else _) _ w₁
  split
  · rename_i hterm
    exact ⟨rfl, .inl ⟨cp, h₁.stored, .inl hterm⟩⟩
  · refine wp_bind.mpr (wp_perform.mpr fun r w₂ hs => ?_)
    obtain ⟨st, rfl, hstatus, h₂⟩ := save_goes h₁ (by exact h₁.task) (by exact rfl) hs
    refine wp_perform.mpr fun r w₃ hs => ?_
    obtain ⟨w₀, t, hw, he⟩ := beating_effect hs
    have h₃ : Held taskId st w₃ := h₂.same ((effect_spares (by rfl) he).trans hw.workflows)
    refine ⟨(congrArg Prod.fst he).symm, .inl ⟨st, h₃.stored, .inl ?_⟩⟩
    rw [WorkflowState.terminal, hstatus]
    exact hends

/-- What the `except` clauses leave, where nothing but the body fails. -/
def Survives (d : QueueDelivery) (P : Prop) (o : Except PyError α) (w : World) : Prop :=
  (∀ e, o = .error e → e.ofRuntime = false) ∧ (P ∧ d.attempts ≤ 1024 → Attended d.taskId w.store)

theorem survives_ok {P : Prop} {a : α} (h : P ∧ d.attempts ≤ 1024 → Attended d.taskId w.store) : Survives d P (.ok a) w :=
  ⟨fun _ h => (by cases h), h⟩

theorem Survives.still {P : Prop} {o : Except PyError α} (h : Survives d P o w) (hs : Still w w') : Survives d P o w' :=
  ⟨h.1, fun hp => (h.2 hp).still hs⟩

theorem onRetryable_survives {P : Prop} (h : InHand d ok w) (e : PyError) : wp beating (onRetryable config d e) (Survives d P) w := by
  obtain ⟨cp, hcp⟩ := h.filed
  rw [onRetryable_eq]
  refine wp_bind.mpr (wp_perform.mpr fun r w₁ hs => ?_)
  obtain ⟨w₀, t, hw, he⟩ := beating_effect hs
  obtain ⟨q', hq', -⟩ := (h.still hw).row
  obtain ⟨row, hr, ht, -⟩ := rowStatus_some.mp hq'
  have hcp₁ : Held d.taskId cp w₁ := hcp.same ((effect_spares (by rfl) he).trans hw.workflows)
  rcases SQLiteStore.retryOrDeadLetter_cases he with ⟨⟨m, rfl⟩, -⟩ | ⟨delay, hdelay, rfl, hget, -⟩
  · refine ⟨fun _ e => by cases e; rfl, fun hp => ?_⟩
    -- the delay is a number up to the 1024th attempt
    obtain ⟨delay, hdelay⟩ : ∃ delay, backoff config.queueRetryBaseSeconds (d.attempts - 1) = .ok delay := backoff_ok_iff.mpr (by omega)
    have hr := congrArg Prod.fst he
    simp [StoreCall.apply, SQLiteStore.retryOrDeadLetter, hdelay] at hr
  · show wp _ (if _ then markEnded d.taskId _ _ _ _ else .ret ()) _ w₁
    split
    · refine wp_mono (markEnded_attended (by rfl) hcp₁ _ _ _) fun o w' hq => ?_
      obtain ⟨rfl, hatt⟩ := hq
      exact survives_ok fun _ => hatt
    · rename_i hlive
      have hrow := hget d.id
      rw [hr, Option.map_some, if_pos rfl] at hrow
      exact survives_ok fun _ => .inr ⟨d.id, .pending, rowStatus_some.mpr ⟨_, hrow, ht, if_neg (by simpa using hlive)⟩, .inl rfl⟩

theorem onPermanent_survives {P : Prop} (h : InHand d ok w) (e : PyError) : wp beating (onPermanent d e) (Survives d P) w := by
  obtain ⟨cp, hcp⟩ := h.filed
  rw [onPermanent_eq]
  refine wp_bind.mpr (wp_perform.mpr fun r w₁ hs => ?_)
  obtain ⟨w₀, t, hw, he⟩ := beating_effect hs
  have hcp₁ : Held d.taskId cp w₁ := hcp.same ((effect_spares (by rfl) he).trans hw.workflows)
  obtain rfl : r = .ok () := (congrArg Prod.fst he).symm
  refine wp_mono (markEnded_attended (by rfl) hcp₁ _ _ _) fun o w' hq => ?_
  obtain ⟨rfl, hatt⟩ := hq
  exact survives_ok fun _ => hatt

theorem settleDelivery_survives {P : Prop} {o : Except PyError Unit} (h : Left d P o w) :
    wp beating (settleDelivery config d o) (Survives d P) w := by
  cases o with
  | ok u => exact survives_ok fun hp => h hp.1
  | error e =>
    show wp _ (if _ then _ else _) _ w
    split
    · exact onRetryable_survives h e
    · split
      · exact onPermanent_survives h e
      · rename_i hretry hperm
        have hrun : e.ofRuntime = false := by
          cases e <;> first | rfl | exact absurd rfl hretry | exact absurd rfl hperm
        refine ⟨fun _ e' => by cases e'; exact hrun, fun _ => ?_⟩
        obtain ⟨q, hq, hproc⟩ := h.row
        exact .inr ⟨d.id, q, hq, .inr (hproc.resolve_left (by rw [hrun]; simp))⟩

/-- A call that reads goes through. -/
theorem reads_still {c : Call} {r : Except PyError c.Ret} (hs : beating c w r w') (f : SQLiteStore → c.Ret)
    (hread : ∀ {s t r s'}, Effect c s t r s' → r = .ok (f s) ∧ s' = s) :
    Still w w' ∧ ∃ w₁, Still w w₁ ∧ r = .ok (f w₁.store) := by
  obtain ⟨w₁, t, hw, he⟩ := beating_effect hs
  obtain ⟨rfl, hsame⟩ := hread he
  exact ⟨hw.trans (.of_store hsame), w₁, hw, rfl⟩

theorem awaitHeartbeat_still {r : Except PyError Unit} (hs : beating .awaitHeartbeat w r w') : Still w w' ∧ r = .ok () := by
  obtain ⟨hstill, w₁, -, hr⟩ := reads_still hs (fun _ => ()) fun he => he
  exact ⟨hstill, hr⟩

theorem updateDepth_still (b : Bool) : wp beating (updateDepth.bind fun _ => .ret b) (fun o w' => o = .ok b ∧ Still w w') w := by
  refine wp_bind.mpr (wp_bind.mpr (wp_perform.mpr fun r w₁ hs => ?_))
  obtain ⟨hstill, w₂, -, rfl⟩ := reads_still hs SQLiteStore.queueCounts fun he => Prod.mk.inj (Eq.symm he)
  exact ⟨rfl, hstill⟩

theorem settle_survives {P : Prop} {o : Except PyError Unit} (h : Left d P o w) : wp beating (settle config d o) (Survives d P) w := by
  refine wp_bind.mpr (wp_attempt.mpr (wp_mono (settleDelivery_survives h) fun o w₁ h₁ => ?_))
  refine wp_bind.mpr (wp_perform.mpr fun r w₂ hs => ?_)
  obtain ⟨hstill, rfl⟩ := awaitHeartbeat_still hs
  have h₂ := h₁.still hstill
  cases o with
  | error e => exact ⟨fun e' he => h₂.1 e' (by cases he; rfl), h₂.2⟩
  | ok u =>
    refine wp_mono (updateDepth_still true) fun o w₃ hq => ?_
    obtain ⟨rfl, hstill⟩ := hq
    exact survives_ok fun hp => (h₂.2 hp).still hstill

/-! ## The run -/

theorem claimed_effect {workerId : String} {n : Int} (hs : beating (.store (.claim workerId n)) w (.ok (some d)) w') :
    ∃ w₁ t, Still w w₁ ∧ w₁.store.claim t workerId n = (some d, w'.store) := by
  obtain ⟨w₁, t, hw, he⟩ := beating_effect hs
  obtain ⟨hd, hstore⟩ : Except.ok (w₁.store.claim t workerId n).1 = Except.ok (some d) ∧ _ := Prod.mk.inj he
  exact ⟨w₁, t, hw, Prod.ext (Except.ok.inj hd) hstore⟩

/-- What a claim hands out is in hand, and the claim leaves what approvals and checkpoints there are. -/
theorem claimed_inHand (taskId : String) {workerId : String} {n : Int} (hi : StoreOk Set.univ w.store) (hk : RowsKnown w.store)
    (hs : beating (.store (.claim workerId n)) w (.ok (some d)) w') :
    InHand d (· = .processing) w' ∧ StoreOk Set.univ w'.store ∧ (Unapproved taskId w'.store ↔ Unapproved taskId w.store) := by
  obtain ⟨w₁, t, hw, hc⟩ := claimed_effect hs
  have hworkflows : w'.store.workflows = w.store.workflows := by
    have h := (claim_frame w₁.store t workerId n).1
    rw [hc] at h
    exact h.trans hw.workflows
  have happrovals : w'.store.approvals = w.store.approvals := by
    have h := (claim_frame w₁.store t workerId n).2.1
    rw [hc] at h
    exact h.trans hw.approvals
  have hi' : StoreOk Set.univ w'.store :=
    ⟨by rw [hworkflows]; exact hi.version, by rw [hworkflows]; exact hi.state, by rw [happrovals]; exact hi.approval⟩
  refine ⟨?_, hi', ?_⟩
  · rcases SQLiteStore.claim_cases hc with ⟨e, -⟩ | ⟨row, -, -, -, e, hget, -⟩
    · cases e
    · cases e
      have hget := hget row.id
      rw [if_pos rfl] at hget
      refine ⟨⟨.processing, rowStatus_some.mpr ⟨_, hget, rfl, rfl⟩, rfl⟩, ?_⟩
      rcases SQLiteStore.claim_row hc row.id with ⟨hn, -⟩ | ⟨old, new, hold, hnew, htask, -⟩
      · cases hn.symm.trans hget
      · obtain rfl := Option.some.inj (hnew.symm.trans hget)
        have hbefore : rowStatus row.taskId w.store row.id = some old.status := by
          rw [← hw.rows]
          exact rowStatus_some.mpr ⟨old, hold, htask.symm, rfl⟩
        obtain ⟨x, hx, hxt, -⟩ := rowStatus_some.mp hbefore
        obtain ⟨r, hr⟩ := Option.ne_none_iff_exists'.mp (hk _ x hx)
        rw [hxt] at hr
        exact ⟨r.stateJson, ⟨r, hworkflows ▸ hr, rfl, hi.version _ r hr⟩, (hi.state _ r hr).task⟩
  · unfold Unapproved SQLiteStore.getWorkflow SQLiteStore.approvalStatus
    rw [hworkflows, happrovals]

/-- A run of `run_once` in which no call fails but in the body of its `try`, where `sem` serves the calls: it claims a delivery
    or none, and what follows the body goes through. -/
def Guarded (sem : Service Call Call.Ret PyError World) (rt : WorkflowRuntime) (config : Settings) (workerId : String) (w : World)
    (claimed : Option QueueDelivery) (o : Except PyError Bool) (w' : World) : Prop :=
  ∃ w₁, beating (.store (.claim workerId config.queueLeaseSeconds)) w (.ok claimed) w₁ ∧
    match claimed with
    | none => Runs beating (updateDepth.bind fun _ => .ret false) w₁ o w'
    | some d => ∃ done w₂, Runs sem (processDelivery rt config d) w₁ done w₂ ∧ Runs beating (settle config d done) w₂ o w'

theorem unreliable_narrow (c : Call) (w : World) (r : Except PyError c.Ret) (w' : World) (h : unreliable c w r w') :
    beating c w r w' ∨ ∃ e, r = .error e ∧ e.ofRuntime = true := by
  rcases h with h | ⟨w₁, -, -, e, -, -, hr, hrun, -⟩
  · exact .inl h
  · exact .inr ⟨e, hr, hrun⟩

theorem markEnded_direct (taskId : String) (status : WorkflowStatus) (error : String) (event : EventType) (payload : Json) :
    (markEnded taskId status error event payload).Direct := by
  refine direct_bind (direct_perform _) fun found => ?_
  split
  · trivial
  · split
    · trivial
    · exact direct_bind (direct_perform _) fun _ => direct_perform _

theorem settleDelivery_direct (o : Except PyError Unit) : (settleDelivery config d o).Direct := by
  cases o with
  | ok u => trivial
  | error e =>
    show Prog.Direct (if _ then _ else _)
    rw [onRetryable_eq, onPermanent_eq]
    split
    · refine direct_bind (direct_perform _) fun dead => ?_
      split
      · exact markEnded_direct ..
      · trivial
    · split
      · exact direct_bind (direct_perform _) fun _ => markEnded_direct ..
      · trivial

theorem updateDepth_direct (b : Bool) : (updateDepth.bind fun _ => .ret b).Direct :=
  direct_bind (direct_bind (direct_perform _) fun _ => trivial) fun _ => trivial

theorem finish_direct (o : Except PyError Unit) : (finish o).Direct := by
  refine direct_bind (direct_perform _) fun _ => ?_
  cases o with
  | ok u => exact updateDepth_direct true
  | error e => trivial

/-- An error of the runtime that an `except` clause raised is raised in the end, or another one. -/
theorem finish_raises {e : PyError} {o : Except PyError Bool} (he : e.ofRuntime = true) (hr : Runs unreliable (finish (.error e)) w o w') :
    ∃ e', o = .error e' ∧ e'.ofRuntime = true := by
  rcases runs_bind.mp hr with ⟨u, w₁, -, hend⟩ | ⟨e', rfl, hwait⟩
  · cases hend
    exact ⟨e, rfl, he⟩
  · rcases unreliable_narrow _ _ _ _ (runs_perform.mp hwait) with hs | ⟨e'', h, hrun⟩
    · cases (awaitHeartbeat_still hs).2
    · cases h
      exact ⟨e', rfl, hrun⟩

/-- Where `run_once` raises none of the runtime's errors, no call failed after the body of the `try`. -/
theorem settle_narrow {done : Except PyError Unit} {o : Except PyError Bool} (hr : Runs unreliable (settle config d done) w o w')
    (ho : ∀ e, o = .error e → ¬ e.ofRuntime = true) : Runs beating (settle config d done) w o w' := by
  rcases runs_bind.mp hr with ⟨o₁, w₁, hp, hf⟩ | ⟨e, rfl, hp⟩
  · obtain ⟨_, h, hp⟩ := runs_attempt.mp hp
    obtain rfl := Except.ok.inj h
    refine runs_bind.mpr (.inl ⟨o₁, w₁, runs_attempt.mpr ⟨o₁, rfl, ?_⟩, hf.narrow unreliable_narrow (finish_direct o₁) ho⟩)
    refine hp.narrow unreliable_narrow (settleDelivery_direct done) fun e h hrun => ?_
    subst h
    obtain ⟨e', he', hrun'⟩ := finish_raises hrun hf
    exact ho e' he' hrun'
  · obtain ⟨_, h, -⟩ := runs_attempt.mp hp
    cases h

/-- Where `run_once` raises none of the runtime's errors, no call failed outside the body of the `try`. -/
theorem guarded_of_runs {workerId : String} {o : Except PyError Bool} (hr : Runs unreliable (runOnce rt config workerId) w o w')
    (ho : ∀ e, o = .error e → ¬ e.ofRuntime = true) : ∃ claimed, Guarded unreliable rt config workerId w claimed o w' := by
  rw [runOnce_eq] at hr
  rcases runs_bind.mp hr with ⟨claimed, w₁, hclaim, hrest⟩ | ⟨e, rfl, hclaim⟩
  · rcases unreliable_narrow _ _ _ _ (runs_perform.mp hclaim) with hs | ⟨e, h, -⟩
    · refine ⟨claimed, w₁, hs, ?_⟩
      cases claimed with
      | none => exact hrest.narrow unreliable_narrow (updateDepth_direct false) ho
      | some d =>
        rcases runs_bind.mp hrest with ⟨done, w₂, hbody, hrest⟩ | ⟨e, rfl, hbody⟩
        · obtain ⟨_, h, hbody⟩ := runs_attempt.mp hbody
          obtain rfl := Except.ok.inj h
          exact ⟨_, w₂, hbody, settle_narrow hrest ho⟩
        · obtain ⟨_, h, -⟩ := runs_attempt.mp hbody
          cases h
    · cases h
  · rcases unreliable_narrow _ _ _ _ (runs_perform.mp hclaim) with hs | ⟨e', h, hrun⟩
    · obtain ⟨_, _, -, he⟩ := beating_effect hs
      cases (Prod.mk.inj he).1
    · cases h
      exact absurd hrun (ho e rfl)

/-- No other delivery of the workflow is pending or with a worker. -/
def OnlyDelivery (d : QueueDelivery) (w : World) : Prop :=
  ∀ id q, rowStatus d.taskId w.store id = some q → q = .pending ∨ q = .processing → id = d.id

theorem OnlyDelivery.still (h : OnlyDelivery d w) (hs : Still w w') : OnlyDelivery d w' :=
  fun id q hq => h id q ((hs.rows _ _).symm.trans hq)

theorem claimed_only {workerId : String} {n : Int} (h : OnlyDelivery d w) (hs : beating (.store (.claim workerId n)) w (.ok (some d)) w') :
    OnlyDelivery d w' := by
  obtain ⟨w₁, t, hw, hc⟩ := claimed_effect hs
  have h := h.still hw
  intro id q hq hlive
  by_contra hne
  obtain ⟨row, hrow, ht, rfl⟩ := rowStatus_some.mp hq
  rcases SQLiteStore.claim_row hc id with ⟨hn, -⟩ | ⟨old, new, hold, hnew, htask, hstatus, -⟩
  · cases hn.symm.trans hrow
  · obtain rfl := Option.some.inj (hnew.symm.trans hrow)
    have hother : (some d).any (fun d => d.id = id) = false := by simpa using fun e => hne e.symm
    rw [hother, if_neg (by simp), SQLiteStore.swept_status] at hstatus
    refine hne (h id old.status (rowStatus_some.mpr ⟨old, hold, htask.symm.trans ht, rfl⟩) ?_)
    split at hstatus
    · rename_i hexpired
      exact .inr (by simp only [SQLiteStore.isExpired, Bool.and_eq_true, decide_eq_true_eq] at hexpired; exact hexpired.1)
    · rw [← hstatus]; exact hlive

/-- Such a workflow's body returns, saves nothing, and acknowledges the delivery. -/
theorem processDelivery_forgets (hi : StoreOk Set.univ w.store) (h : Unapproved d.taskId w.store) :
    wp beating (processDelivery rt config d) (fun o w' => o = .ok () ∧ w'.store.workflows = w.store.workflows ∧
      ∀ id, rowStatus d.taskId w'.store id = if id = d.id then (rowStatus d.taskId w.store id).map (fun _ => .completed)
        else rowStatus d.taskId w.store id) w := by
  obtain ⟨st, pending, hst, hact, hp, hne⟩ := h
  have htask := (held_of_stored hi hst).task
  refine wp_bind.mpr (wp_bind.mpr (wp_bind.mpr (wp_perform.mpr fun r w₁ hs => ?_)))
  obtain ⟨h₁, w₀, hw, rfl⟩ := reads_still hs (fun s => s.getWorkflow d.taskId) fun he => Prod.mk.inj (Eq.symm he)
  have hread : w₀.store.getWorkflow d.taskId = some st := by
    rw [← hst]
    unfold SQLiteStore.getWorkflow
    rw [hw.workflows]
  rw [hread]
  show wp _ (if _ then _ else _) _ w₁
  rw [if_neg (by rw [stops_iff, hact]; simp), hp]
  refine wp_bind.mpr (wp_perform.mpr fun r w₂ hs => ?_)
  obtain ⟨h₂, w₀, hw, rfl⟩ := reads_still hs (fun s => s.approvalStatus st.taskId pending.actionId) fun he => Prod.mk.inj (Eq.symm he)
  have hstatus : w₀.store.approvalStatus st.taskId pending.actionId ≠ some .approved := by
    rw [SQLiteStore.approvalStatus, hw.approvals, h₁.approvals, htask]
    exact hne
  show wp _ (if _ then _ else _) _ w₂
  rw [if_pos hstatus]
  refine wp_bind.mpr (wp_perform.mpr fun r w₃ hs => ?_)
  obtain ⟨w₀, t, hw, he⟩ := beating_effect hs
  obtain ⟨hr, hsame⟩ := Prod.mk.inj he
  subst hr
  refine ⟨rfl, ?_, fun id => ?_⟩
  · rw [← h₁.workflows, ← h₂.workflows, ← hw.workflows]
    exact effect_spares (by rfl) he
  · rw [← h₁.rows, ← h₂.rows, ← hw.rows, ← hsame]
    unfold rowStatus
    show ((w₀.store.acknowledge t d.id).queue.get id).bind _ = _
    rw [SQLiteStore.acknowledge_get]
    cases w₀.store.queue.get id with
    | none => simp
    | some row => by_cases hid : id = d.id <;> by_cases ht : row.taskId = d.taskId <;> simp [hid, ht]

theorem settle_ok_still : wp beating (settle config d (.ok ())) (fun _ w' => Still w w') w := by
  show wp beating (finish (.ok ())) _ w
  refine wp_bind.mpr (wp_perform.mpr fun r w₁ hs => ?_)
  obtain ⟨h₁, rfl⟩ := awaitHeartbeat_still hs
  exact wp_mono (updateDepth_still true) fun o w₂ hq => h₁.trans hq.2

/-- Where no call fails and the delivery is the only one, such a workflow is left without one. -/
theorem unapproved_forgotten {workerId : String} {o : Except PyError Bool} (hi : StoreOk Set.univ w.store) (hk : RowsKnown w.store)
    (hg : Guarded beating rt config workerId w (some d) o w') (hun : Unapproved d.taskId w.store) (honly : OnlyDelivery d w) :
    ¬ Attended d.taskId w'.store := by
  obtain ⟨w₁, hs, done, w₂, hbody, hrest⟩ := hg
  obtain ⟨-, hi₁, hun₁⟩ := claimed_inHand d.taskId hi hk hs
  have hun := hun₁.mpr hun
  obtain ⟨rfl, hworkflows, hrows⟩ := wp_sound (processDelivery_forgets hi₁ hun) hbody
  have hstill := wp_sound settle_ok_still hrest
  rintro (⟨st, hst, hends⟩ | ⟨id, q, hq, hlive⟩)
  · obtain ⟨st', -, hst', hact, -⟩ := hun
    have hsame : w'.store.getWorkflow d.taskId = w₁.store.getWorkflow d.taskId := by
      unfold SQLiteStore.getWorkflow
      rw [hstill.workflows, hworkflows]
    obtain rfl : st = st' := Option.some.inj (hst.symm.trans (hsame.trans hst'))
    rw [stopped_iff.mpr hends] at hact
    cases hact
  · rw [hstill.rows, hrows] at hq
    split at hq
    · obtain ⟨_, -, rfl⟩ := Option.map_eq_some_iff.mp hq
      simp at hlive
    · rename_i hne
      exact hne (claimed_only honly hs id q hq hlive)

/-- `run_once` over a store any of whose calls may fail. It lets one of the runtime's errors out exactly if a call failed outside
    the body of its `try`: the claim, one of an `except` clause, the heartbeat, or the count of the queue. Where none did, the
    workflow it claimed is attended to, unless its pending action was not approved, or the delivery had more attempts than a
    delay can be computed for. -/
theorem run_once_survives (rt : WorkflowRuntime) (config : Settings) {cfg : Cfg}
    (h : Reachable { rt with engine := anyEngine, backend := anyBackend } config .free cfg) (workerId : String)
    {o : Except PyError Bool} {w' : World}
    (hr : Runs unreliable (runOnce { rt with engine := anyEngine, backend := anyBackend } config workerId) cfg.state o w') :
    ((∀ e, o = .error e → e.ofRuntime = false) ↔
      ∃ claimed, Guarded unreliable { rt with engine := anyEngine, backend := anyBackend } config workerId cfg.state claimed o w') ∧
    ∀ d, Guarded unreliable { rt with engine := anyEngine, backend := anyBackend } config workerId cfg.state (some d) o w' →
      (d.attempts ≤ 1024 → ¬ Unapproved d.taskId cfg.state.store → Attended d.taskId w'.store) ∧
      (Guarded beating { rt with engine := anyEngine, backend := anyBackend } config workerId cfg.state (some d) o w' →
        OnlyDelivery d cfg.state → Unapproved d.taskId cfg.state.store → ¬ Attended d.taskId w'.store) := by
  have hi := reachable_storeOk lawful_univ h
  have hspec : ∀ d, Guarded unreliable { rt with engine := anyEngine, backend := anyBackend } config workerId cfg.state (some d) o w' →
      Survives d (¬ Unapproved d.taskId cfg.state.store) o w' := by
    rintro d ⟨w₁, hs, done, w₂, hbody, hrest⟩
    obtain ⟨hin, hi₁, hun⟩ := claimed_inHand d.taskId hi (reachable_known h) hs
    have hleft := wp_sound (processDelivery_left rfl rfl hi₁ hin) hbody
    rw [hun] at hleft
    exact wp_sound (settle_survives hleft) hrest
  refine ⟨⟨fun ho => ?_, ?_⟩, fun d hg => ⟨fun hle hun => (hspec d hg).2 ⟨hun, hle⟩,
    fun hg honly hun => unapproved_forgotten hi (reachable_known h) hg hun honly⟩⟩
  · exact guarded_of_runs hr fun e he hrun => by rw [ho e he] at hrun; cases hrun
  · rintro ⟨claimed, hg⟩
    cases claimed with
    | some d => exact (hspec d hg).1
    | none =>
      obtain ⟨w₁, -, hrest⟩ := hg
      obtain ⟨rfl, -⟩ := wp_sound (updateDepth_still false) hrest
      intro e h
      cases h

/-! ## Runs -/

theorem Guarded.runs {workerId : String} {claimed : Option QueueDelivery} {o : Except PyError Bool}
    (h : Guarded unreliable rt config workerId w claimed o w') : Runs unreliable (runOnce rt config workerId) w o w' := by
  obtain ⟨w₁, hs, hrest⟩ := h
  have hmono : ∀ c w r w', beating c w r w' → unreliable c w r w' := fun _ _ _ _ => .inl
  rw [runOnce_eq]
  refine runs_bind.mpr (.inl ⟨claimed, w₁, runs_perform.mpr (.inl hs), ?_⟩)
  cases claimed with
  | none => exact hrest.mono hmono
  | some d =>
    obtain ⟨done, w₂, hbody, hrest⟩ := hrest
    exact runs_bind.mpr (.inl ⟨done, w₂, runs_attempt.mpr ⟨done, rfl, hbody⟩, hrest.mono hmono⟩)

/-- A program, each of whose calls goes through or raises the error the script has for it. -/
def World.suffer : List (Option PyError) → Py α → World → Option (Except PyError α × World)
  | none :: script, .call c k, w =>
    (respond c (.ok w.now) w.store).bind fun x => suffer script (k x.1) ⟨x.2, w.now, .did 0 c x.1 :: w.journal⟩
  | some e :: script, .call c k, w =>
    if c.fails && e.ofRuntime then suffer script (k (.error e)) ⟨w.store, w.now, .did 0 c (.error e) :: w.journal⟩ else none
  | _, .ret a, w => some (.ok a, w)
  | _, .raise e, w => some (.error e, w)
  | [], .call .., _ => none

theorem suffer_runs {script : List (Option PyError)} {p : Py α} {q : Except PyError α × World}
    (h : World.suffer script p w = some q) : Runs unreliable p w q.1 q.2 := by
  induction script generalizing p w with
  | nil =>
    cases p with
    | ret a => cases h; exact .ret a w
    | raise e => cases h; exact .raise e w
    | call c k => cases h
  | cons x script ih =>
    cases p with
    | ret a => cases x <;> cases h <;> exact .ret a w
    | raise e => cases x <;> cases h <;> exact .raise e w
    | call c k =>
      cases x with
      | none =>
        obtain ⟨⟨r, s'⟩, hx, h⟩ := Option.bind_eq_some_iff.mp h
        exact .call (.inl ⟨w, .refl, w.now, s', le_rfl, trivial, respond_sound hx, rfl⟩) (ih h)
      | some e =>
        unfold World.suffer at h
        split at h
        · rename_i hfails
          obtain ⟨hc, he⟩ := Bool.and_eq_true _ _ ▸ hfails
          exact .call (.inr ⟨w, .refl, hc, e, w.now, w.store, rfl, he, le_rfl, .inl rfl, rfl⟩) (ih h)
        · cases h

/-- Where the script has no error, no call fails. -/
theorem suffer_beating {n : Nat} {p : Py α} {q : Except PyError α × World}
    (h : World.suffer (List.replicate n none) p w = some q) : Runs beating p w q.1 q.2 := by
  induction n generalizing p w with
  | zero =>
    cases p with
    | ret a => cases h; exact .ret a w
    | raise e => cases h; exact .raise e w
    | call c k => cases h
  | succ n ih =>
    cases p with
    | ret a => cases h; exact .ret a w
    | raise e => cases h; exact .raise e w
    | call c k =>
      obtain ⟨⟨r, s'⟩, hx, h⟩ := Option.bind_eq_some_iff.mp h
      exact .call ⟨w, .refl, w.now, s', le_rfl, trivial, respond_sound hx, rfl⟩ (ih h)

def unavailable : PyError := .retryable "unavailable"

/-- The body of the `try` cannot read the workflow, and the delivery is tried again. -/
def retriesOnce (w : World) : Bool :=
  match World.suffer [none] (onStore (.claim "w1" ({} : Settings).queueLeaseSeconds)) w with
  | some (.ok (some d), w₁) =>
    decide (d.taskId = "t") && decide (d.attempts ≤ 1024) &&
      (World.suffer [some unavailable] (processDelivery {} {} d) w₁).any fun x =>
        (World.suffer (List.replicate 3 none) (settle {} d x.1) x.2).isSome
  | _ => false

theorem retriesOnce_plays : ((freePlayer {} {}).play ⟨World.init, fun _ => none⟩ createsIncident).any
    (fun cfg => queuedClear cfg.state && retriesOnce cfg.state) = true := by
  decide +kernel

/-- The read of the workflow failed; the delivery is back in the queue. -/
theorem run_once_survives_retried : ∃ cfg o w', ∃ d : QueueDelivery, Reachable {} {} .free cfg ∧ Runs unreliable (runOnce {} {} "w1") cfg.state o w' ∧
    (∀ e, o = .error e → e.ofRuntime = false) ∧ Attended d.taskId w'.store := by
  obtain ⟨cfg, h, hc⟩ := (freePlayer {} {}).play_exists retriesOnce_plays
  obtain ⟨hclear, hplays⟩ := Bool.and_eq_true _ _ ▸ hc
  unfold retriesOnce at hplays
  split at hplays
  · rename_i d w₁ hclaim
    simp only [Bool.and_eq_true, decide_eq_true_eq, Option.any_eq_true, Option.isSome_iff_exists] at hplays
    obtain ⟨⟨htask, hle⟩, ⟨done, w₂⟩, hbody, ⟨o, w'⟩, hsettle⟩ := hplays
    have hg : Guarded unreliable {} {} "w1" cfg.state (some d) o w' :=
      ⟨w₁, runs_perform.mp (suffer_beating (n := 1) hclaim), done, w₂, suffer_runs hbody, suffer_beating hsettle⟩
    obtain ⟨hout, hatt⟩ := run_once_survives {} {} h "w1" hg.runs
    refine ⟨cfg, o, w', d, h, hg.runs, hout.mpr ⟨some d, hg⟩, (hatt d hg).1 hle ?_⟩
    rintro ⟨st, pending, hst, -, hp, -⟩
    obtain ⟨row, hrow, hclear⟩ := Option.any_eq_true _ _ |>.mp hclear
    obtain ⟨row', hrow', rfl⟩ := SQLiteStore.getWorkflow_some hst
    rw [htask] at hrow'
    obtain rfl : row = row' := Option.some.inj (hrow.symm.trans hrow')
    simp [hp] at hclear
  · cases hplays

/-- The read of the workflow fails in the body of the `try`, and its save in the `except` clause. -/
def failsTwice : List (Option PyError) :=
  [none, some unavailable, none, none, some (.concurrentUpdate "workflow t changed during execution"), none]

/-- The workflow is active, and no delivery is pending or with a worker. -/
def abandoned (w : World) : Bool :=
  (w.store.workflows.get "t").any (fun row => row.stateJson.status.active) &&
    w.store.queue.rows.all fun row => decide (row.status = .completed) || decide (row.status = .dead)

theorem abandoned_unattended (h : abandoned w = true) : ¬ Attended "t" w.store := by
  obtain ⟨hactive, hrows⟩ := Bool.and_eq_true _ _ ▸ h
  rintro (⟨st, hst, hends⟩ | ⟨id, q, hq, hlive⟩)
  · obtain ⟨row, hrow, hact⟩ := Option.any_eq_true _ _ |>.mp hactive
    obtain ⟨row', hrow', rfl⟩ := SQLiteStore.getWorkflow_some hst
    obtain rfl : row = row' := Option.some.inj (hrow.symm.trans hrow')
    rw [stopped_iff.mpr hends] at hact
    cases hact
  · obtain ⟨row, hrow, -, rfl⟩ := rowStatus_some.mp hq
    have h := List.all_eq_true.mp hrows row (Table.mem_iff_get.mpr ((Table.get_key hrow).symm ▸ hrow))
    simp only [Bool.or_eq_true, decide_eq_true_eq] at h
    rcases h with h | h <;> simp [h] at hlive

theorem failsTwice_plays : ((freePlayer {} oneAttempt).play ⟨World.init, fun _ => none⟩ createsIncident).any
    (fun cfg => (World.suffer failsTwice (runOnce {} oneAttempt "w1") cfg.state).any fun x =>
      (match x.1 with
        | .error e => e.ofRuntime
        | .ok _ => false) && abandoned x.2) = true := by
  decide +kernel

/-- The error of the save that marks the workflow `DEAD_LETTERED` ends the worker's loop; the workflow stays `QUEUED`, without a
    delivery. -/
theorem conflict_escapes : ∃ cfg e w', Reachable {} oneAttempt .free cfg ∧
    Runs unreliable (runOnce {} oneAttempt "w1") cfg.state (.error e) w' ∧ e.ofRuntime = true ∧ ¬ Attended "t" w'.store := by
  obtain ⟨cfg, h, hc⟩ := (freePlayer {} oneAttempt).play_exists failsTwice_plays
  obtain ⟨⟨o, w'⟩, hx, hc⟩ := Option.any_eq_true _ _ |>.mp hc
  obtain ⟨herror, habandoned⟩ := Bool.and_eq_true _ _ ▸ hc
  cases o with
  | ok b => cases herror
  | error e => exact ⟨cfg, e, w', h, suffer_runs hx, herror, abandoned_unattended habandoned⟩

end AgentResilience
