/-
  AgentResilience.TurnWalk — `process` takes a turn. `Serving`: a delivery of a task is
  being processed, its checkpoint is `cp`, and what it remembers is `m`; queue and other
  tasks are as when it began. `EngineSpec` is what is assumed of the engine.
-/
import AgentResilience.Turn
import AgentResilience.AuditWalk

namespace AgentResilience

open Interaction
open Interaction.Prog (attempt ofExcept throw makes_bind makes_perform)
open WorkflowState (content)

variable {rt : WorkflowRuntime} {env : Env} {D : WorkflowState → Except PyError AgentDecision → Prop}
  {U : Except PyError (Nat × Nat) → Prop} {taskId : String} {cp st : WorkflowState} {m m' : Memory} {w₀ w w' : World}

structure Serving (taskId : String) (w₀ : World) (cp : WorkflowState) (m : Memory) (w : World) : Prop where
  filed : Filed w.store
  stored : w.store.stored taskId = some cp
  others : ∀ t, t ≠ taskId → w.store.stored t = w₀.store.stored t
  queue : w.store.queue = w₀.store.queue
  memory : w.memory = m
  now : w₀.now ≤ w.now

theorem Serving.task (h : Serving taskId w₀ cp m w) : cp.taskId = taskId := by
  obtain ⟨-, -, -, ht⟩ := h.filed.version h.stored
  exact ht

/-! ## Calls -/

/-- The calls that leave checkpoints, queue and memory alone. -/
def Call.idle : Call → Bool
  | .store (.getWorkflow _) | .store (.recordEvent ..) | .store (.getToolResult ..) | .store (.approvalStatus ..)
  | .store .queueCounts => true
  | .store _ | .execute .. => false
  | _ => true

theorem memory_did {s : SQLiteStore} {t : Timestamp} {c : Call} {r : Except PyError c.Ret} {journal : List Entry}
    (hx : (Entry.did 0 c r).executed = none) (hc : (Entry.did 0 c r).claimed = none) :
    (World.mk s t (.did 0 c r :: journal)).memory =
      ⟨s.approvals, s.toolResults, journal.filterMap Entry.executed, journal.filterMap Entry.claimed⟩ := by
  unfold World.memory
  rw [List.filterMap_cons_none hx, List.filterMap_cons_none hc]

/-- Nothing but the audit log has changed. -/
structure Idle (w w' : World) : Prop where
  filed : Filed w'.store
  stored : ∀ t, w'.store.stored t = w.store.stored t
  queue : w'.store.queue = w.store.queue
  memory : w'.memory = w.memory
  now : w.now ≤ w'.now

theorem Idle.trans {w'' : World} (h : Idle w w') (h' : Idle w' w'') : Idle w w'' :=
  ⟨h'.filed, fun t => (h'.stored t).trans (h.stored t), h'.queue.trans h.queue, h'.memory.trans h.memory, h.now.trans h'.now⟩

theorem calls_idle (hf : Filed w.store) {c : Call} (hc : c.idle = true) {r : Except PyError c.Ret}
    (hs : calls env 0 c w r w') : Idle w w' := by
  obtain ⟨t, s', ht, -, he, rfl⟩ := hs
  have hmem : (World.mk w.store t (.did 0 c r :: w.journal)).memory = w.memory := by
    have hx : (Entry.did 0 c r).executed = none := by cases c <;> first | rfl | cases hc
    have hclaim : (Entry.did 0 c r).claimed = none := by
      cases c with
      | store c => cases c <;> first | rfl | cases hc
      | _ => rfl
    rw [memory_did hx hclaim]
    rfl
  have hkeep : s' = w.store → Idle w ⟨s', t, .did 0 c r :: w.journal⟩ := by
    intro e
    subst e
    exact ⟨hf, fun _ => rfl, rfl, hmem, ht⟩
  cases c with
  | store c =>
    obtain rfl := congrArg Prod.snd he
    cases c with
    | recordEvent T e payload => exact ⟨hf.recordEvent .., fun _ => rfl, rfl, hmem, ht⟩
    | getWorkflow | getToolResult | approvalStatus | queueCounts => exact hkeep rfl
    | _ => cases hc
  | clock | awaitHeartbeat => exact hkeep he.2
  | execute => cases hc
  | _ => exact hkeep he

/-- A program of idle calls. -/
theorem wp_idle {α : Type} {p : Py α} (hp : p.Makes fun c => c.idle = true) (hf : Filed w.store) :
    wp (calls env 0) p (fun _ w' => Idle w w') w :=
  wp_keeps (fun _ _ _ _ hc hs h => h.trans (calls_idle h.filed hc hs)) hp ⟨hf, fun _ => rfl, rfl, rfl, le_rfl⟩

theorem Serving.idle (h : Serving taskId w₀ cp m w) (hi : Idle w w') : Serving taskId w₀ cp m w' :=
  ⟨hi.filed, (hi.stored taskId).trans h.stored, fun t ht => (hi.stored t).trans (h.others t ht), hi.queue.trans h.queue,
    hi.memory.trans h.memory, h.now.trans hi.now⟩

theorem Serving.steady (h : Serving taskId w₀ cp m w) {c : Call} (hc : c.idle = true) {r : Except PyError c.Ret}
    (hs : calls env 0 c w r w') : Serving taskId w₀ cp m w' :=
  h.idle (calls_idle h.filed hc hs)

theorem save_serving (h : Serving taskId w₀ cp m w) (ht : st.taskId = taskId) (hv : st.version = cp.version) :
    wp (calls env 0) (save st) (fun o w' => ∃ st', o = .ok st' ∧ (∃ t, st' = st.saved t) ∧ Serving taskId w₀ st' m w') w := by
  refine wp_perform.mpr fun r w' hs => ?_
  obtain ⟨t, hr, hsaved⟩ := save_filed h.filed h.stored ht hv hs
  obtain ⟨t', s', hnow, -, -, rfl⟩ := hs
  subst ht
  refine ⟨_, hr, ⟨t, rfl⟩, hsaved.filed, hsaved.stored, fun T hT => ?_, hsaved.queue.trans h.queue, ?_, h.now.trans hnow⟩
  · rw [hsaved.others T hT]; exact h.others T hT
  · rw [memory_did rfl rfl, hsaved.approvals, hsaved.toolResults]
    exact h.memory

theorem record_serving (h : Serving taskId w₀ cp m w) (t : String) (e : EventType) (payload : Json) :
    wp (calls env 0) (record t e payload) (fun o w' => ∃ u, o = .ok u ∧ Serving taskId w₀ cp m w') w := by
  refine wp_perform.mpr fun r w' hs => ?_
  have h' := h.steady rfl hs
  obtain ⟨_, _, -, -, he, rfl⟩ := hs
  exact ⟨(), (congrArg Prod.fst he).symm, h'⟩

/-! ## The gateway -/

theorem Serving.execute (h : Serving taskId w₀ cp m w) {tool : ToolName} {arguments : Arguments} {n : Nat}
    {r : Except PyError Json} (hs : calls env 0 (.execute st tool arguments n) w r w') :
    Executes env m st.content tool arguments r ∧ Serving taskId w₀ cp (m.ran st.taskId tool r) w' := by
  obtain ⟨t, s', hnow, hallow, rfl, rfl⟩ := hs
  refine ⟨⟨_, st, _, rfl, (by exact h.memory), hallow⟩, h.filed, h.stored, h.others, h.queue, ?_, h.now.trans hnow⟩
  rw [← h.memory]; rfl

theorem gatewayExecute_serving (h : Serving taskId w₀ cp m w) (tool : ToolName) (arguments : Arguments) :
    wp (calls env 0) (gatewayExecute anyBackend cp tool arguments)
      (fun o w' => ∃ m', Gateway env m cp.content tool arguments o m' ∧ Serving taskId w₀ cp m' w') w := by
  unfold gatewayExecute
  cases hv : validateAndDecide tool arguments with
  | error e => exact ⟨m, .invalid hv, h⟩
  | ok x =>
    obtain ⟨validated, policy⟩ := x
    show wp _ (if _ then _ else _) _ w
    split
    · rename_i hpol
      exact ⟨m, .denied hv (by simpa using hpol), h⟩
    · refine wp_bind.mpr (wp_perform.mpr fun r w₁ hs => ?_)
      have h₁ := h.steady rfl hs
      obtain ⟨t, s', -, hallow, he, rfl⟩ := hs
      obtain ⟨hr, rfl⟩ := Prod.mk.inj he
      have hreads : Reads env m (actionId cp.taskId tool validated) validated r := ⟨_, (by exact h.memory), hallow⟩
      have hledger : w.store.toolResults = m.ledger := by rw [← h.memory]; rfl
      unfold SQLiteStore.getToolResult at hr
      rw [hledger] at hr
      split at hr
      · rename_i hnone
        subst hr
        refine wp_bind.mpr (wp_perform.mpr fun r w₂ hs => ?_)
        obtain ⟨hx, h₂⟩ := h₁.execute hs
        cases r with
        | error e => exact ⟨_, .refused hv hnone hx rfl, h₂⟩
        | ok result =>
          show wp _ (if _ then _ else _) _ _
          split
          · rename_i hempty
            exact ⟨_, .refused hv hnone hx (by simp only [accepts]; rw [if_pos hempty]), h₂⟩
          · rename_i hfull
            refine wp_bind.mpr (wp_perform.mpr fun r w₃ hs => ?_)
            obtain ⟨t₃, s₃, hnow₃, -, he, rfl⟩ := hs
            obtain ⟨rfl, rfl⟩ := Prod.mk.inj he
            refine ⟨_, .fresh (t := t₃) hv hnone hx (by simpa using hfull), ?_⟩
            refine ⟨h₂.filed.congr rfl rfl, h₂.stored, h₂.others, h₂.queue, ?_, h₂.now.trans hnow₃⟩
            rw [memory_did rfl rfl]
            show _ = (m.ran cp.taskId tool (.ok result)).keeps _
            rw [← h₂.memory]
            rfl
      · rename_i row hrow
        split at hr
        · rename_i hne
          subst hr
          exact ⟨m, .reused hv hrow hne hreads, h₁⟩
        · rename_i heq
          subst hr
          exact ⟨m, .cached hv hrow (not_not.mp heq), h₁⟩

/-! ## The runtime -/

theorem failWorkflow_serving (h : Serving taskId w₀ cp m w) (ht : st.taskId = taskId) (hv : st.version = cp.version)
    (reason category : String) :
    wp (calls env 0) (failWorkflow st reason category) (fun o w' => ∃ st', o = .ok st' ∧
      st'.content = st.content.failedFor reason ∧ Serving taskId w₀ st' m w') w := by
  refine wp_seq (save_serving h (by exact ht) (by exact hv)) fun st' w₁ hq => ?_
  obtain ⟨⟨t, e⟩, h₁⟩ := hq
  refine wp_seq (record_serving h₁ _ _ _) fun _ w₂ h₂ => ?_
  exact ⟨st', rfl, by rw [e]; rfl, h₂⟩

theorem executeTool_ran (hb : rt.backend = anyBackend) (h : Serving taskId w₀ cp m w) (tool : ToolName) (arguments : Arguments) :
    wp (calls env 0) (rt.executeTool cp tool arguments) (fun o w' => ∃ st m',
      Ran env m cp.content tool arguments (o.map content) st.content m' ∧ Serving taskId w₀ st m' w') w := by
  have ht := h.task
  unfold WorkflowRuntime.executeTool
  rw [hb]
  refine wp_bind.mpr (wp_attempt.mpr (wp_mono (gatewayExecute_serving h tool arguments) fun o w₁ hq => ?_))
  obtain ⟨m', hg, h₁⟩ := hq
  cases o with
  | error e =>
    show wp _ (if _ then _ else _) _ w₁
    split
    · rename_i hretry
      refine wp_seq (save_serving h₁ (by exact ht) rfl) fun st w₂ hq => ?_
      obtain ⟨⟨t, e'⟩, h₂⟩ := hq
      refine wp_seq (record_serving h₂ _ _ _) fun _ w₃ h₃ => ?_
      exact ⟨st, m', by rw [e']; exact .retried hg hretry, h₃⟩
    · rename_i hretry
      split
      · rename_i hperm
        refine wp_mono (failWorkflow_serving h₁ ht rfl _ _) fun o w₂ hq => ?_
        obtain ⟨st', ho, hst, h₂⟩ := hq
        exact ⟨st', m', by rw [ho, Except.map, hst]; exact .failed hg (by simpa using hretry) hperm, h₂⟩
      · rename_i hperm
        exact ⟨cp, m', .raised hg (by simpa using hretry) (by simpa using hperm), h₁⟩
  | ok x =>
    refine wp_seq (save_serving h₁ (by exact ht) rfl) fun st w₂ hq => ?_
    obtain ⟨⟨t, e'⟩, h₂⟩ := hq
    refine wp_seq (record_serving h₂ _ _ _) fun _ w₃ h₃ => ?_
    exact ⟨st, m', by rw [e']; exact .done hg, h₃⟩

theorem resumeApprovedAction_turn (hb : rt.backend = anyBackend) (h : Serving taskId w₀ cp m w) (hact : cp.status.active = true)
    {pending : PendingAction} (hp : cp.pendingAction = some pending) :
    wp (calls env 0) (rt.resumeApprovedAction cp pending) (fun o w' => ∃ st m',
      Turn rt env D U m cp.content (o.map content) st.content m' ∧ Serving taskId w₀ st m' w') w := by
  refine wp_bind.mpr (wp_perform.mpr fun r w₁ hs => ?_)
  have h₁ := h.steady rfl hs
  obtain ⟨t, s', -, -, he, rfl⟩ := hs
  obtain ⟨rfl, rfl⟩ := Prod.mk.inj he
  have happ : w.store.approvalStatus cp.taskId pending.actionId = some .approved ↔ m.approved cp.taskId pending.actionId := by
    rw [← h.memory]; exact Iff.rfl
  show wp _ (if _ then _ else _) _ _
  split
  · rename_i hno
    exact ⟨cp, m, .unapproved hact hp fun ha => hno (happ.mpr ha), h₁⟩
  · rename_i hyes
    refine wp_seq (record_serving h₁ _ _ _) fun _ w₂ h₂ => ?_
    refine wp_mono (executeTool_ran hb h₂ _ _) fun o w₃ hq => ?_
    obtain ⟨st, m', hran, h₃⟩ := hq
    exact ⟨st, m', .resumed hact hp (happ.mp (not_not.mp hyes)) hran, h₃⟩

theorem pauseForApproval_serving (h : Serving taskId w₀ cp m w) (pending : PendingAction) :
    wp (calls env 0) (WorkflowRuntime.pauseForApproval taskId cp pending) (fun o w' => ∃ st t, o = .ok st ∧
      st.content = { cp.content with pendingAction := some pending, status := .waitingForApproval } ∧
      Serving taskId w₀ st (m.asks taskId pending.actionId t) w') w := by
  refine wp_seq (save_serving h (by exact h.task) rfl) fun st w₁ hq => ?_
  obtain ⟨⟨t, e⟩, h₁⟩ := hq
  refine wp_bind.mpr (wp_perform.mpr fun r w₂ hs => ?_)
  obtain ⟨t₂, s₂, hnow, -, he, rfl⟩ := hs
  obtain ⟨rfl, rfl⟩ := Prod.mk.inj he
  have h₂ : Serving taskId w₀ st (m.asks taskId pending.actionId t₂)
      ⟨w₁.store.createApproval t₂ taskId pending.actionId, t₂,
        .did 0 (.store (.createApproval taskId pending.actionId)) (.ok ()) :: w₁.journal⟩ := by
    refine ⟨h₁.filed.congr rfl rfl, h₁.stored, h₁.others, h₁.queue, ?_, h₁.now.trans hnow⟩
    rw [memory_did rfl rfl, ← h₁.memory]
    rfl
  refine wp_seq (record_serving h₂ _ _ _) fun _ w₃ h₃ => ?_
  exact ⟨st, t₂, rfl, by rw [e]; rfl, h₃⟩

/-- What is assumed of an engine: what it may decide and report, leaving the store alone. -/
structure EngineSpec (env : Env) (engine : DecisionEngine) (D : WorkflowState → Except PyError AgentDecision → Prop)
    (U : Except PyError (Nat × Nat) → Prop) : Prop where
  decide : ∀ {taskId w₀ st cp m w}, Serving taskId w₀ cp m w → wp (calls env 0) (engine.decide st)
    (fun o w' => D st.content o ∧ Serving taskId w₀ cp m w') w
  usage : ∀ {taskId w₀ cp m w}, Serving taskId w₀ cp m w → wp (calls env 0) engine.takeUsage
    (fun o w' => U o ∧ Serving taskId w₀ cp m w') w

open WorkflowRuntime in
theorem useTool_acted (hb : rt.backend = anyBackend) (h : Serving taskId w₀ cp m w) (ht : st.taskId = taskId)
    (hv : st.version = cp.version) {d : AgentDecision} (haction : d.action = .useTool) {tool : ToolName} (htool : d.tool = some tool) :
    wp (calls env 0) (rt.useTool taskId st d tool) (fun o w' => ∃ st' m',
      Acted rt env m st.content d (o.map content) st'.content m' ∧ Serving taskId w₀ st' m' w') w := by
  obtain ⟨arguments, policy, hval⟩ := decision_validates d haction tool
  unfold WorkflowRuntime.useTool
  simp only [hval, Prog.bind_def, Prog.ofExcept_ok, Prog.ret_bind]
  split
  · rename_i reason hreason
    refine wp_seq (save_serving h (by exact ht) (by exact hv)) fun st' w₁ hq => ?_
    obtain ⟨⟨t, e⟩, h₁⟩ := hq
    refine wp_seq (record_serving h₁ _ _ _) fun _ w₂ h₂ => ?_
    exact ⟨st', m, .looped haction htool hreason (by rw [e]; rfl), h₂⟩
  · rename_i hreason
    have ht' : (decided st tool).taskId = taskId := ht
    refine wp_seq (save_serving h ht' (by exact hv)) fun st' w₁ hq => ?_
    obtain ⟨⟨t, e⟩, h₁⟩ := hq
    have hcontent : st'.content = decided st.content tool := by rw [e]; rfl
    have htask : st'.taskId = st.taskId := by rw [e]; rfl
    unfold WorkflowRuntime.runDecided
    split
    · rename_i hpol
      refine wp_seq (record_serving h₁ _ _ _) fun _ w₂ h₂ => ?_
      refine wp_mono (failWorkflow_serving h₂ h₂.task rfl _ _) fun o w₃ hq => ?_
      obtain ⟨st₃, ho, hst₃, h₃⟩ := hq
      refine ⟨st₃, m, ?_, h₃⟩
      rw [ho, Except.map]
      exact .denied haction htool hreason hval (by simpa using hpol) (by rw [hst₃, hcontent])
    · rename_i hpol
      have hallowed : policy.allowed = true := by simpa using hpol
      have hran : ∀ w₂, Serving taskId w₀ st' m w₂ → policy.approvalRequired = false →
          wp (calls env 0) (rt.executeTool st' tool arguments) (fun o w' => ∃ st'' m',
            Acted rt env m st.content d (o.map content) st''.content m' ∧ Serving taskId w₀ st'' m' w') w₂ := by
        intro w₂ h₂ happ
        refine wp_mono (executeTool_ran hb h₂ _ _) fun o w₃ hq => ?_
        obtain ⟨st₃, m', hr, h₃⟩ := hq
        exact ⟨st₃, m', .ran haction htool hreason hval hallowed happ (hcontent ▸ hr), h₃⟩
      split
      · rename_i happ
        refine wp_mono (pauseForApproval_serving h₁ _) fun o w₂ hq => ?_
        obtain ⟨st₂, t₂, ho, hst₂, h₂⟩ := hq
        refine ⟨st₂, _, ?_, h₂⟩
        rw [ho, Except.map, ← ht]
        exact .paused haction htool hreason hval hallowed happ (by rw [htask]; rfl) (by rw [hst₂, hcontent])
      · rename_i happ
        have happ : policy.approvalRequired = false := by simpa using happ
        split
        · exact wp_seq (record_serving h₁ _ _ _) fun _ w₂ h₂ => hran w₂ h₂ happ
        · exact hran w₁ h₁ happ

theorem applyDecision_acted (hans : EngineSpec env rt.engine D U) (hb : rt.backend = anyBackend) (h : Serving taskId w₀ cp m w)
    (d : AgentDecision) :
    wp (calls env 0) (rt.applyDecision taskId cp d) (fun o w' => ∃ st m', Serving taskId w₀ st m' w' ∧
      ((∃ e, o = .error e ∧ U (.error e) ∧ st = cp ∧ m' = m) ∨
        ∃ u, U (.ok u) ∧ Acted rt env m (WorkflowRuntime.absorb cp.content d u) d (o.map content) st.content m')) w := by
  have ht := h.task
  unfold WorkflowRuntime.applyDecision
  refine wp_bind.mpr (wp_mono (hans.usage h) fun o w₁ hq => ?_)
  obtain ⟨hu, h₁⟩ := hq
  cases o with
  | error e => exact ⟨cp, m, h₁, .inl ⟨e, rfl, hu, rfl, rfl⟩⟩
  | ok u =>
    refine wp_seq (record_serving h₁ _ _ _) fun _ w₂ h₂ => ?_
    simp only
    split
    · rename_i haction
      refine wp_seq (save_serving h₂ (by exact ht) rfl) fun st w₃ hq => ?_
      obtain ⟨⟨t, e⟩, h₃⟩ := hq
      refine wp_seq (record_serving h₃ _ _ _) fun _ w₄ h₄ => ?_
      exact ⟨st, m, h₄, .inr ⟨u, hu, .completed haction (by rw [e]; rfl)⟩⟩
    · rename_i haction
      refine wp_mono (failWorkflow_serving h₂ (by exact ht) (by exact rfl) _ _) fun o w₃ hq => ?_
      obtain ⟨st, ho, hst, h₃⟩ := hq
      refine ⟨st, m, h₃, .inr ⟨u, hu, ?_⟩⟩
      rw [ho, Except.map, hst]
      exact .declined haction
    · rename_i haction
      split
      · rename_i hnone
        have := d.tool_ok haction
        rw [hnone] at this; cases this
      · rename_i tool htool
        refine wp_mono (useTool_acted hb h₂ (by exact ht) (by exact rfl) haction htool) fun o w₃ hq => ?_
        obtain ⟨st, m', hacted, h₃⟩ := hq
        exact ⟨st, m', h₃, .inr ⟨u, hu, hacted⟩⟩

theorem decideNext_turn (hans : EngineSpec env rt.engine D U) (hb : rt.backend = anyBackend) (h : Serving taskId w₀ cp m w)
    (hact : cp.status.active = true) (hnone : cp.pendingAction = none) :
    wp (calls env 0) (rt.decideNext taskId cp) (fun o w' => ∃ st m',
      Turn rt env D U m cp.content (o.map content) st.content m' ∧ Serving taskId w₀ st m' w') w := by
  have ht := h.task
  unfold WorkflowRuntime.decideNext
  refine wp_seq (save_serving h (by exact ht) rfl) fun st w₁ hq => ?_
  obtain ⟨⟨t, e⟩, h₁⟩ := hq
  refine wp_seq (record_serving h₁ _ _ _) fun _ w₂ h₂ => ?_
  have hst : st.content = cp.content.started := by rw [e]; rfl
  refine wp_bind.mpr (wp_attempt.mpr (wp_mono (hans.decide h₂) fun o w₃ hq => ?_))
  obtain ⟨hd, h₃⟩ := hq
  rw [hst] at hd
  cases o with
  | error e =>
    show wp _ (if _ then _ else _) _ w₃
    split
    · rename_i hretry
      refine wp_seq (save_serving h₃ (by exact h₃.task) rfl) fun st' w₄ hq => ?_
      obtain ⟨⟨t, e'⟩, h₄⟩ := hq
      refine wp_seq (record_serving h₄ _ _ _) fun _ w₅ h₅ => ?_
      refine ⟨st', m, ?_, h₅⟩
      have hst' : st'.content = cp.content.started.retrying e.message := by rw [e', ← hst]; rfl
      rw [hst']
      exact .undecided hact hnone hd hretry
    · rename_i hretry
      refine ⟨st, m, ?_, h₃⟩
      rw [hst]
      exact .unanswered hact hnone hd (by simpa using hretry)
  | ok d =>
    refine wp_mono (applyDecision_acted hans hb h₃ d) fun o w₄ ⟨st', m', h₄, hres⟩ => ⟨st', m', ?_, h₄⟩
    rcases hres with ⟨e, rfl, hu, rfl, rfl⟩ | ⟨u, hu, hacted⟩
    · rw [hst]
      exact .unmetered hact hnone hd hu
    · rw [hst] at hacted
      exact .acted hact hnone hd hu hacted

/-- Processing a delivery takes a turn. -/
theorem process_turn (hans : EngineSpec env rt.engine D U) (hb : rt.backend = anyBackend) (hf : Filed w.store)
    (hst : w.store.stored taskId = some cp) :
    wp (calls env 0) (rt.process taskId) (fun o w' => ∃ st m',
      Turn rt env D U w.memory cp.content (o.map content) st.content m' ∧ Serving taskId w st m' w') w := by
  have h : Serving taskId w cp w.memory w := ⟨hf, hst, fun _ _ => rfl, rfl, rfl, le_rfl⟩
  refine wp_bind.mpr (wp_bind.mpr (wp_perform.mpr fun r w₁ hs => ?_))
  have h₁ := h.steady rfl hs
  obtain ⟨t, s', -, -, he, rfl⟩ := hs
  obtain ⟨rfl, rfl⟩ := Prod.mk.inj he
  have hget : w.store.getWorkflow taskId = some cp := hst
  rw [hget] at h₁ ⊢
  show wp _ (if _ then _ else _) _ _
  split
  · rename_i hstop
    refine ⟨cp, w.memory, .idle ?_, h₁⟩
    exact (stops_iff cp).mp hstop
  · rename_i hgo
    have hact : cp.status.active = true := active_of_running hgo
    split
    · rename_i p hp
      exact resumeApprovedAction_turn hb h₁ hact hp
    · rename_i hp
      exact decideNext_turn hans hb h₁ hact hp

end AgentResilience
