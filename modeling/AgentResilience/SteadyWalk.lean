/-
  AgentResilience.SteadyWalk — a delivery of the steady task, which may be cut off at any call
  boundary. `Lands`: where a worker that dies leaves the workflow, and how far it is from its
  end at most. `Docketed`: the store has the task's `k`.

  - `save_lands`, `aloof_lands`: the calls. `executeTool_lands`, `decideNext_lands`, …,
    `process_lands`: the programs, bottom up.
  - `Processed`: what a delivery that is not cut off comes to.
-/
import AgentResilience.Steady

namespace AgentResilience

open Interaction
open Interaction.Prog (attempt ofExcept throw)

variable {rt : WorkflowRuntime} {config : Settings} {env : Env} {b : PureBackend} {taskId : String} {crashes : Nat → Nat} {r : Nat}
  {k : Docket} {cp st : WorkflowState} {done : List ToolName} {tool : ToolName} {n : Nat} {w w' : World} {α : Type}

/-! ## Boundaries -/

/-- None of the task's deliveries is dead. -/
def Undead (taskId : String) (s : SQLiteStore) : Prop := ∀ id, rowStatus taskId s id ≠ some .dead

/-- Where a worker leaves the task's workflow if it dies here. -/
structure Lands (b : PureBackend) (taskId : String) (crashes : Nat → Nat) (r : Nat) (w : World) : Prop where
  labelled : Labelled w.store
  undead : Undead taskId w.store
  near : remaining (w.store.docket taskId).checkpoint ≤ r
  place : ¬ Stranding w → Place b taskId (fun i => crashes i + 1) (w.store.docket taskId)

/-- The docket lands. -/
structure Docket.Fits (k : Docket) (b : PureBackend) (taskId : String) (crashes : Nat → Nat) (r : Nat) : Prop where
  near : remaining k.checkpoint ≤ r
  place : Place b taskId (fun i => crashes i + 1) k

structure Docketed (taskId : String) (k : Docket) (w : World) : Prop where
  labelled : Labelled w.store
  undead : Undead taskId w.store
  docket : w.store.docket taskId = k

theorem Docketed.lands (h : Docketed taskId k w) (hf : k.Fits b taskId crashes r) : Lands b taskId crashes r w := by
  refine ⟨h.labelled, h.undead, ?_, fun _ => ?_⟩ <;> rw [h.docket]
  · exact hf.near
  · exact hf.place

theorem Docketed.stored (h : Docketed taskId k w) : w.store.stored taskId = k.checkpoint := congrArg Docket.checkpoint h.docket

theorem Docketed.task (h : Docketed taskId k w) (hk : k.checkpoint = some cp) : cp.taskId = taskId :=
  h.labelled.task (h.stored.trans hk)

/-! ## Calls -/

/-- A call that kills no delivery. -/
def StoreCall.spares : StoreCall → Bool
  | .retryOrDeadLetter .. | .replayDeadLetter .. => false
  | _ => true

theorem Undead.apply {s : SQLiteStore} (h : Undead taskId s) {c : StoreCall} (hc : c.spares = true) (t : Timestamp) :
    Undead taskId (c.apply s t).2 := by
  intro id hdead
  refine h id (dead_before (fun d e b hr => ?_) (fun n T m a r hr => ?_) hdead) <;> (subst hr; cases hc)

/-- The calls that leave checkpoints, approvals and the ledger alone, and kill no delivery. -/
def Call.aloof : Call → Bool
  | .store c => !c.writesWorkflows && !c.writesApprovals && !c.writesLedger && c.spares
  | _ => true

theorem docket_congr {s s' : SQLiteStore} (hw : s'.workflows = s.workflows) (ha : s'.approvals = s.approvals)
    (hl : s'.toolResults = s.toolResults) : s'.docket taskId = s.docket taskId := by
  unfold SQLiteStore.docket
  rw [stored_congr hw, ha, hl]

theorem calls_aloof {c : Call} (hc : c.aloof = true) {o : Except PyError c.Ret} (hs : calls env 0 c w o w') (h : Docketed taskId k w) :
    Docketed taskId k w' := by
  obtain ⟨t, s', -, -, he, rfl⟩ := hs
  have hkeep : s' = w.store → Docketed taskId k ⟨s', t, .did 0 c o :: w.journal⟩ := by
    rintro rfl
    exact ⟨h.labelled, h.undead, h.docket⟩
  cases c with
  | store c =>
    obtain rfl := congrArg Prod.snd he
    simp only [Call.aloof, Bool.and_eq_true, Bool.not_eq_true'] at hc
    obtain ⟨⟨⟨hw, ha⟩, hl⟩, hspares⟩ := hc
    have hw := StoreCall.apply_workflows hw w.store t
    refine ⟨?_, h.undead.apply hspares t, ?_⟩
    · show Labelled (c.apply w.store t).2
      unfold Labelled
      rw [hw]
      exact h.labelled
    · exact (docket_congr hw (StoreCall.apply_approvals ha ..) (StoreCall.apply_ledger hl ..)).trans h.docket
  | clock | awaitHeartbeat => exact hkeep he.2
  | _ => exact hkeep he

theorem aloof_lands {c : Call} (hc : c.aloof = true) (hf : k.Fits b taskId crashes r) (h : Docketed taskId k w) :
    wpc (calls env 0) (Lands b taskId crashes r) (.perform c) (fun o w' => Docketed taskId k w' ∧
      ∃ t, env.allows 0 { w with now := t } c o ∧ Effect c w.store t o w'.store) w := by
  refine wpc_perform (h.lands hf) fun o w' hs => ?_
  have h' := calls_aloof hc hs h
  obtain ⟨t, s', -, hal, he, rfl⟩ := hs
  exact ⟨h'.lands hf, h', t, hal, he⟩

theorem record_lands (hf : k.Fits b taskId crashes r) (h : Docketed taskId k w) (task : String) (e : EventType) (payload : Json) :
    wpc (calls env 0) (Lands b taskId crashes r) (record task e payload) (fun o w' => ∃ u, o = .ok u ∧ Docketed taskId k w') w := by
  refine wpc_mono (aloof_lands rfl hf h) fun o w' _ hq => ?_
  obtain ⟨h', t, -, he⟩ := hq
  exact ⟨(), (congrArg Prod.fst he).symm, h'⟩

/-- A save of the stored checkpoint's version. -/
theorem calls_saved (h : Docketed taskId k w) (hk : k.checkpoint = some cp) (ht : st.taskId = taskId) (hv : st.version = cp.version)
    {o : Except PyError WorkflowState} (hs : calls env 0 (.store (.saveWorkflow st st.version)) w o w') :
    ∃ t, o = .ok (st.saved t) ∧ Docketed taskId { k with checkpoint := some (st.saved t) } w' ∧
      w'.journal = .did 0 (.store (.saveWorkflow st st.version)) o :: w.journal := by
  obtain ⟨row, hr, hver, -⟩ := h.labelled.version (h.stored.trans hk)
  obtain ⟨t, s', -, -, he, rfl⟩ := hs
  have hlabelled := saved_labelled h.labelled he
  have hundead : Undead taskId s' := by
    obtain rfl := congrArg Prod.snd he
    exact h.undead.apply rfl t
  rcases SQLiteStore.saveWorkflow_cases he with ⟨_, -, -, ho, hw, -, ha, hl⟩ | ⟨-, -, hne⟩
  · refine ⟨t, ho, ⟨hlabelled, hundead, ?_⟩, rfl⟩
    have hstored : s'.stored taskId = some (st.saved t) := stored_some.mpr ⟨_, (hw taskId).trans (if_pos ht.symm), rfl⟩
    rw [← h.docket]
    show SQLiteStore.docket s' taskId = _
    unfold SQLiteStore.docket
    rw [hstored, ha, hl]
  · exact absurd (hver.trans hv.symm) (hne row (ht ▸ hr))

theorem save_lands (h : Docketed taskId k w) (hf : k.Fits b taskId crashes r) (hk : k.checkpoint = some cp) (ht : st.taskId = taskId)
    (hv : st.version = cp.version) (hf' : ∀ t, Docket.Fits { k with checkpoint := some (st.saved t) } b taskId crashes r) :
    wpc (calls env 0) (Lands b taskId crashes r) (save st) (fun o w' => ∃ st', o = .ok st' ∧ (∃ t, st' = st.saved t) ∧
      Docketed taskId { k with checkpoint := some st' } w') w := by
  refine wpc_perform (h.lands hf) fun o w' hs => ?_
  obtain ⟨t, ho, h', -⟩ := calls_saved h hk ht hv hs
  exact ⟨h'.lands (hf' t), _, ho, ⟨t, rfl⟩, h'⟩

/-- The ledger after a result of the tool is written. -/
def Docket.keeps (k : Docket) (taskId : String) (tool : ToolName) (result : Json) (t : Timestamp) (x : ToolName) : Option ToolResultRow :=
  if x = tool then some ⟨actionId taskId tool (asked tool), taskId, tool.value, argumentsHash (asked tool), result, t⟩ else k.ledger x

theorem Docketed.keeps (h : Docketed taskId k w) (hnone : k.ledger tool = none) (result : Json) (t : Timestamp) (journal : List Entry) :
    Docketed taskId { k with ledger := k.keeps taskId tool result t }
      ⟨w.store.saveToolResult t (actionId taskId tool (asked tool)) taskId tool.value (asked tool) result, t, journal⟩ := by
  have hledger : ∀ x, w.store.toolResults.get (actionId taskId x (asked x)) = k.ledger x := congrFun (congrArg Docket.ledger h.docket)
  refine ⟨h.labelled, h.undead, ?_⟩
  rw [← h.docket]
  show Docket.mk _ (fun x => (w.store.toolResults.insertOrIgnore _).get (actionId taskId x (asked x))) _ = _
  refine congrArg (Docket.mk _ · _) (funext fun x => ?_)
  unfold Docket.keeps
  rw [Table.get_insertOrIgnore]
  by_cases e : x = tool
  · subst e
    rw [if_pos rfl, if_pos rfl, hledger, hnone]
    rfl
  · rw [if_neg e, if_neg fun e' => e (actionId_inj e').1.symm]
    rfl

theorem Noted.keeps (h : Noted b done tool k.ledger) (t : Timestamp) :
    Noted b done tool (k.keeps taskId tool (b.answer done tool) t) := by
  intro x row hx hrow
  unfold Docket.keeps at hrow
  split at hrow
  · rename_i e
    subst e
    cases hrow
    exact ⟨rfl, rfl, rfl⟩
  · exact h x row hx hrow

/-! ## Tools -/

/-- What a delivery comes to: the workflow is nearer to its end, or the verification cannot be read. -/
structure Processed (b : PureBackend) (taskId : String) (crashes : Nat → Nat) (r : Nat) (o : Except PyError α) (w : World) : Prop where
  labelled : Labelled w.store
  undead : Undead taskId w.store
  place : Place b taskId crashes (w.store.docket taskId)
  result : (∃ a, o = .ok a) ∧ remaining (w.store.docket taskId).checkpoint + 1 ≤ r ∨
    (∃ e, o = .error e ∧ e.isRetryable = false ∧ e.isPermanent = false) ∧ ¬ b.Readable ∧ remaining (w.store.docket taskId).checkpoint ≤ r

theorem Docketed.processed (h : Docketed taskId k w) (hp : Place b taskId crashes k) {a : α} (hr : remaining k.checkpoint + 1 ≤ r) :
    Processed b taskId crashes r (.ok a : Except PyError α) w := by
  refine ⟨h.labelled, h.undead, ?_, .inl ⟨⟨a, rfl⟩, ?_⟩⟩ <;> rw [h.docket]
  · exact hp
  · exact hr

/-- The gateway answers as the backend does. -/
theorem gatewayExecute_lands (h : Docketed taskId k w) (hk : k.checkpoint = some cp) (hstage : (done, tool) ∈ stages)
    (hreached : Reached b done tool n cp) (hnoted : Noted b done tool k.ledger)
    (hfits : ∀ ledger, Noted b done tool ledger → Docket.Fits { k with ledger } b taskId crashes r) :
    wpc (calls (.steady b taskId) 0) (Lands b taskId crashes r) (gatewayExecute anyBackend cp tool (asked tool))
      (fun o w' => (∃ cached, o = .ok (b.answer done tool, cached)) ∧ ∃ ledger, Noted b done tool ledger ∧
        Docketed taskId { k with ledger } w') w := by
  have htask := h.task hk
  obtain ⟨hmissing, hpossible⟩ := stage_missing hstage
  have hf := hfits _ hnoted
  have hanswer : b.result tool (asked tool) cp.completedSteps = b.answer done tool := by rw [hreached.completedSteps]; rfl
  unfold gatewayExecute
  rw [asked_again, htask]
  show wpc _ _ (if _ then _ else _) _ w
  rw [if_neg (by simpa using evaluate_allowed.mpr hpossible)]
  refine wpc_bind (wpc_mono (aloof_lands rfl hf h) fun o w₁ _ hq => ?_)
  obtain ⟨h₁, t, -, he⟩ := hq
  have hread : w.store.getToolResult (actionId taskId tool (asked tool)) (asked tool) = o := congrArg Prod.fst he
  have hrow : w.store.toolResults.get (actionId taskId tool (asked tool)) = k.ledger tool := congrFun (congrArg Docket.ledger h.docket) tool
  unfold SQLiteStore.getToolResult at hread
  rw [hrow] at hread
  cases hl : k.ledger tool with
  | some row =>
    obtain ⟨-, hhash, hresult⟩ := hnoted tool row hmissing hl
    rw [hl] at hread
    simp only [ne_eq, hhash, not_true, if_false] at hread
    subst hread
    exact ⟨h₁.lands hf, ⟨true, by rw [hresult]⟩, k.ledger, hnoted, h₁⟩
  | none =>
    rw [hl] at hread
    subst hread
    refine wpc_bind (wpc_mono (aloof_lands rfl hf h₁) fun o w₂ _ hq => ?_)
    obtain ⟨h₂, t₂, ⟨-, hexecute⟩, -⟩ := hq
    obtain rfl : o = .ok (b.answer done tool) := hanswer ▸ hexecute htask
    show wpc _ _ (if _ then _ else _) _ _
    rw [if_neg (by simpa using hanswer ▸ b.nonEmpty ..)]
    refine wpc_bind (wpc_perform (h₂.lands hf) fun o w₃ hs => ?_)
    obtain ⟨t₃, s₃, -, -, he, rfl⟩ := hs
    obtain ⟨rfl, rfl⟩ := Prod.mk.inj he
    have hnoted' : Noted b done tool (k.keeps taskId tool (b.answer done tool) t₃) := hnoted.keeps t₃
    have h₃ := h₂.keeps hl (b.answer done tool) t₃ (.did 0 (.store (.saveToolResult (actionId taskId tool (asked tool)) taskId tool.value
      (asked tool) (b.answer done tool))) (.ok ()) :: w₂.journal)
    exact ⟨h₃.lands (hfits _ hnoted'), h₃.lands (hfits _ hnoted'), ⟨false, rfl⟩, _, hnoted', h₃⟩

/-- The place after a tool's result. -/
theorem Reached.advanced (h : Reached b done tool n cp) (hstage : (done, tool) ∈ stages) (hpos : 1 ≤ n) (hn : n ≤ 2)
    (hnoted : Noted b done tool k.ledger) (happroval : ToolName.restartService ∉ done ++ [tool] → k.approval = none)
    (taskId : String) (crashes : Nat → Nat) (t : Timestamp) :
    Place b taskId crashes { k with checkpoint := some ((toolCompleted cp tool (b.answer done tool)).saved t) } := by
  have hgain := fun next => h.gain (stage_missing hstage).1 hpos hn next
  rcases Outage.stage_next hstage with e | ⟨next, hnext⟩
  · rw [e] at hgain
    exact .finished rfl ((hgain tool).gathered.congr rfl rfl rfl rfl) rfl rfl
  · refine .going rfl hnext ((hgain next).congr rfl rfl rfl rfl rfl rfl) (Nat.zero_le _) rfl rfl (fun x row hx hrow => ?_) happroval
    have hold := hnoted x row (fun hmem => hx (List.mem_append_left _ hmem)) hrow
    exact absurd (List.mem_append_right _ (List.mem_singleton.mpr hold.1)) hx

theorem executeTool_lands (hb : rt.backend = anyBackend) (h : Docketed taskId k w) (hk : k.checkpoint = some cp)
    (hstage : (done, tool) ∈ stages) (hreached : Reached b done tool n cp) (hpos : 1 ≤ n) (hn : n ≤ 2)
    (hnoted : Noted b done tool k.ledger) (happroval : ToolName.restartService ∉ done ++ [tool] → k.approval = none)
    (hfits : ∀ ledger, Noted b done tool ledger → Docket.Fits { k with ledger } b taskId crashes r)
    (hr : remaining (some (toolCompleted cp tool (b.answer done tool))) + 1 ≤ r) :
    wpc (calls (.steady b taskId) 0) (Lands b taskId crashes r) (rt.executeTool cp tool (asked tool))
      (fun o w' => Processed b taskId crashes r o w') w := by
  have htask := h.task hk
  unfold WorkflowRuntime.executeTool
  rw [hb]
  refine wpc_bind (wpc_attempt (wpc_mono (gatewayExecute_lands h hk hstage hreached hnoted hfits) fun o w₁ _ hq => ?_))
  obtain ⟨⟨cached, rfl⟩, ledger, hnoted', h₁⟩ := hq
  have hplace := fun t crashes => hreached.advanced (k := { k with ledger }) hstage hpos hn hnoted' happroval taskId crashes t
  have hfits' : ∀ t, Docket.Fits { k with ledger, checkpoint := some ((toolCompleted cp tool (b.answer done tool)).saved t) } b taskId crashes r :=
    fun t => ⟨(Nat.le_succ _).trans hr, hplace t _⟩
  refine wpc_seq (save_lands h₁ (hfits _ hnoted') hk (by exact htask) rfl hfits') fun st w₂ hq => ?_
  obtain ⟨⟨t, rfl⟩, h₂⟩ := hq
  refine wpc_seq (record_lands (hfits' t) h₂ _ _ _) fun _ w₃ h₃ => ?_
  exact ⟨h₃.lands (hfits' t), h₃.processed (hplace t _) hr⟩

/-! ## The restart -/

theorem remaining_gated {p : PendingAction} (hcalls : cp.toolCalls = 4) (hlive : cp.terminal = false) (hp : cp.pendingAction = some p) :
    remaining (some cp) = 3 := by
  simp [remaining, hcalls, hlive, hp]

theorem Docketed.approval (h : Docketed taskId k w) {p : PendingAction} (hp : Restarting taskId p) :
    w.store.approvalStatus taskId p.actionId = k.approval.map (·.status) := by
  unfold SQLiteStore.approvalStatus
  rw [hp.actionId]
  exact congrArg (Option.map (·.status)) (congrArg Docket.approval h.docket)

theorem pauseForApproval_lands {p : PendingAction} (h : Docketed taskId k w) (hk : k.checkpoint = some cp)
    (hreached : Reached b beforeRestart .restartService n cp) (hpos : 1 ≤ n) (hn : n ≤ crashes beforeRestart.length + 1)
    (hnoted : Noted b beforeRestart .restartService k.ledger) (hnone : k.approval = none) (hp : Restarting taskId p)
    (hf : k.Fits b taskId crashes r) (hr : 4 ≤ r) :
    wpc (calls env 0) (Lands b taskId crashes r) (WorkflowRuntime.pauseForApproval taskId cp p)
      (fun o w' => Processed b taskId crashes r o w') w := by
  obtain ⟨st, hpaused⟩ : ∃ st, st = { cp with pendingAction := some p, status := .waitingForApproval } := ⟨_, rfl⟩
  have hwait : st.status = .waitingForApproval := by rw [hpaused]
  have hpend : st.pendingAction = some p := by rw [hpaused]
  have htask : st.taskId = taskId := (congrArg (·.taskId) hpaused).trans (h.task hk)
  have hreached' : Reached b beforeRestart .restartService n st := by rw [hpaused]; exact hreached.congr rfl rfl rfl rfl rfl rfl
  have hnear : ∀ t, remaining (some (st.saved t)) = 3 := fun t =>
    remaining_gated hreached'.toolCalls (by show st.status.terminal = false; rw [hwait]; rfl) hpend
  unfold WorkflowRuntime.pauseForApproval
  rw [← hpaused]
  refine wpc_bind (wpc_perform (h.lands hf) fun o w₁ hs => ?_)
  obtain ⟨t, rfl, h₁, hj⟩ := calls_saved h hk htask (by rw [hpaused]) hs
  -- the approval's row is missing here, which strands the workflow
  have hlands : Lands b taskId crashes r w₁ := by
    refine ⟨h₁.labelled, h₁.undead, ?_, fun hno => (hno ?_).elim⟩
    · rw [h₁.docket, hnear t]
      omega
    · unfold Stranding
      rw [hj]
      refine ⟨hwait, p, hpend, ?_⟩
      rw [htask, h₁.approval hp, hnone]
      rfl
  refine ⟨hlands, wpc_bind (wpc_perform hlands fun o w₂ hs => ?_)⟩
  obtain ⟨t₂, s₂, -, -, he, rfl⟩ := hs
  obtain ⟨rfl, rfl⟩ := Prod.mk.inj he
  have h₂ : Docketed taskId { k with checkpoint := some (st.saved t), approval := some { taskId, actionId := restartId taskId, createdAt := t₂ } }
      ⟨w₁.store.createApproval t₂ taskId p.actionId, t₂, .did 0 (.store (.createApproval taskId p.actionId)) (.ok ()) :: w₁.journal⟩ := by
    refine ⟨h₁.labelled, h₁.undead, ?_⟩
    have happroval : w₁.store.approvals.get (taskId, restartId taskId) = none := (congrArg Docket.approval h₁.docket).trans hnone
    have hget : (w₁.store.createApproval t₂ taskId p.actionId).approvals.get (taskId, restartId taskId) =
        some { taskId, actionId := restartId taskId, createdAt := t₂ } := by
      rw [hp.actionId, SQLiteStore.createApproval_get, if_pos rfl, happroval]
      rfl
    show Docket.mk (w₁.store.stored taskId) (fun x => w₁.store.toolResults.get _) _ = _
    rw [hget, h₁.stored]
    exact congrArg (Docket.mk _ · _) (congrArg Docket.ledger h₁.docket)
  have hplace : ∀ crashes', (∀ i, crashes i ≤ crashes' i) → Place b taskId crashes'
      { k with checkpoint := some (st.saved t), approval := some { taskId, actionId := restartId taskId, createdAt := t₂ } } := fun crashes' hle =>
    .gated rfl (hreached'.congr rfl rfl rfl rfl rfl rfl) hpos (hn.trans (Nat.succ_le_succ (hle _))) hpend hp hnoted rfl (.inl ⟨hwait, rfl⟩)
  have hf₂ : Docket.Fits { k with checkpoint := some (st.saved t), approval := some { taskId, actionId := restartId taskId, createdAt := t₂ } }
      b taskId crashes r := ⟨by rw [hnear t]; omega, hplace _ fun i => Nat.le_succ _⟩
  refine ⟨h₂.lands hf₂, wpc_seq (record_lands hf₂ h₂ _ _ _) fun _ w₃ h₃ => ?_⟩
  exact ⟨h₃.lands hf₂, h₃.processed (hplace _ fun _ => le_rfl) (by rw [hnear t]; exact hr)⟩

theorem resumeApprovedAction_lands (hb : rt.backend = anyBackend) {p : PendingAction} {row : ApprovalRow} (h : Docketed taskId k w)
    (hk : k.checkpoint = some cp) (hreached : Reached b beforeRestart .restartService n cp) (hpos : 1 ≤ n)
    (hn : n ≤ crashes beforeRestart.length + 1) (hfew : n ≤ 2) (hpend : cp.pendingAction = some p) (hp : Restarting taskId p)
    (hnoted : Noted b beforeRestart .restartService k.ledger) (happroval : k.approval = some row) (hact : cp.status.active = true)
    (hrow : row.status = .approved) :
    wpc (calls (.steady b taskId) 0) (Lands b taskId crashes (remaining (some cp))) (rt.resumeApprovedAction cp p)
      (fun o w' => Processed b taskId crashes (remaining (some cp)) o w') w := by
  have hlive : cp.terminal = false := active_not_terminal hact
  have hnear := remaining_gated (by exact hreached.toolCalls) hlive hpend
  have hfits : ∀ ledger, Noted b beforeRestart .restartService ledger → Docket.Fits { k with ledger } b taskId crashes (remaining (some cp)) :=
    fun ledger hnoted => ⟨by rw [hk], .gated hk hreached hpos (hn.trans (Nat.le_succ _)) hpend hp hnoted happroval (.inr ⟨hact, hrow⟩)⟩
  have hf := hfits _ hnoted
  unfold WorkflowRuntime.resumeApprovedAction
  refine wpc_bind (wpc_mono (aloof_lands rfl hf h) fun o w₁ _ hq => ?_)
  obtain ⟨h₁, t, -, he⟩ := hq
  have hstatus : w.store.approvalStatus taskId p.actionId = some .approved := by
    rw [h.approval hp, happroval, Option.map_some, hrow]
  obtain rfl : .ok (w.store.approvalStatus cp.taskId p.actionId) = o := congrArg Prod.fst he
  show wpc _ _ (if _ then _ else _) _ _
  rw [h.task hk, hstatus, if_neg (by simp)]
  refine wpc_seq (record_lands hf h₁ _ _ _) fun _ w₂ h₂ => ?_
  rw [hp.tool, hp.arguments]
  refine executeTool_lands hb h₂ hk (by decide) hreached hpos hfew hnoted (fun hno => absurd (by decide) hno) hfits ?_
  have hcalls : cp.toolCalls = 4 := hreached.toolCalls
  rw [hnear]
  simp [remaining, toolCompleted, hcalls, WorkflowState.terminal, WorkflowStatus.terminal]

/-! ## The engine's sequence -/

theorem remaining_active (hact : cp.status.active = true) (hidle : cp.pendingAction = none) :
    remaining (some cp) = 6 - cp.toolCalls + 1 + if cp.toolCalls ≤ 4 then 1 else 0 := by
  simp [remaining, active_not_terminal hact, hidle, WorkflowState.terminal]

theorem remaining_started (hact : cp.status.active = true) (hidle : cp.pendingAction = none) (t : Timestamp) :
    remaining (some (cp.started.saved t)) = remaining (some cp) := by
  have hidle' : (cp.started.saved t).pendingAction = none := hidle
  rw [remaining_active hact hidle, remaining_active rfl hidle']
  rfl

/-- The approval that the engine's requests need. -/
theorem asked_approval (tool : ToolName) : (evaluate tool (asked tool)).approvalRequired = decide (tool = .restartService) := by
  cases tool with
  | restartService => exact restart_approval (asked_valid .restartService)
  | _ => rfl

theorem restart_stage (h : (done, ToolName.restartService) ∈ stages) : done = beforeRestart := by
  rw [stages_eq] at h
  simpa [beforeRestart] using h

open WorkflowRuntime in
theorem useTool_lands (hb : rt.backend = anyBackend) (hdet : rt.loopDetector = {}) (hfresh : b.Fresh) {dec : AgentDecision}
    (hargs : dec.arguments = DeterministicDecisionEngine.defaults) (h : Docketed taskId k w) (hk : k.checkpoint = some cp)
    (ht : st.taskId = taskId) (hv : st.version = cp.version) (hstage : (done, tool) ∈ stages) (hreached : Reached b done tool n st)
    (hn : n ≤ crashes done.length) (hfew : n ≤ 1) (hrun : st.status = .running) (hidle : st.pendingAction = none)
    (hnoted : Noted b done tool k.ledger) (happroval : ToolName.restartService ∉ done → k.approval = none)
    (hf : k.Fits b taskId crashes (remaining (some st))) :
    wpc (calls (.steady b taskId) 0) (Lands b taskId crashes (remaining (some st))) (rt.useTool taskId st dec tool)
      (fun o w' => Processed b taskId crashes (remaining (some st)) o w') w := by
  obtain ⟨hmissing, hpossible⟩ := stage_missing hstage
  have hdecided : Reached b done tool (n + 1) (decided st tool) := hreached.ask rfl rfl rfl rfl rfl rfl
  have hasked : ∀ t, Reached b done tool (n + 1) ((decided st tool).saved t) := fun t => hdecided.congr rfl rfl rfl rfl rfl rfl
  have hsilent : ({} : LoopDetector).reason (decided st tool).toolHistory (decided st tool).progressHistory = none :=
    hdecided.silent hfresh hstage (Nat.le_add_left ..) (Nat.succ_le_succ hfew)
  have hnear : remaining (some st) = 6 - done.length + 1 + if done.length ≤ 4 then 1 else 0 := by
    rw [remaining_active (by rw [hrun]; rfl) hidle, hreached.toolCalls]
  have hfits : ∀ t ledger, Noted b done tool ledger →
      Docket.Fits { k with checkpoint := some ((decided st tool).saved t), ledger } b taskId crashes (remaining (some st)) := by
    intro t ledger hnoted
    refine ⟨?_, .going rfl hstage (hasked t) (Nat.succ_le_succ hn) (by show st.status.active = true; rw [hrun]; rfl) hidle hnoted happroval⟩
    show remaining (some ((decided st tool).saved t)) ≤ _
    rw [hnear, remaining_active (by show st.status.active = true; rw [hrun]; rfl) (by exact hidle), (hasked t).toolCalls]
  unfold useTool
  rw [hargs, asked_valid]
  simp only [Prog.bind_def, Prog.ofExcept_ok, Prog.ret_bind]
  rw [hdet, hsilent]
  refine wpc_seq (save_lands h hf hk (by exact ht) (by exact hv) fun t => hfits t _ hnoted) fun st' w₁ hq => ?_
  obtain ⟨⟨t, rfl⟩, h₁⟩ := hq
  unfold runDecided
  rw [if_neg (by simpa using evaluate_allowed.mpr hpossible), asked_approval]
  by_cases e : tool = .restartService
  · subst e
    obtain rfl := restart_stage hstage
    rw [if_pos (by decide)]
    refine pauseForApproval_lands h₁ rfl (hasked t) (Nat.le_add_left ..) (Nat.succ_le_succ hn) hnoted (happroval (by decide))
      ⟨rfl, rfl, by rw [show ((decided st .restartService).saved t).taskId = taskId from ht]; rfl⟩ (hfits t _ hnoted) ?_
    rw [hnear]
    decide
  · rw [if_neg (by simpa using e)]
    have hrest : (done ++ [tool]).length ≤ 4 ∨ done.length = 5 := by
      rw [stages_eq] at hstage
      simp only [List.mem_cons, Prod.mk.injEq, List.not_mem_nil, or_false] at hstage
      rcases hstage with ⟨rfl, rfl⟩ | ⟨rfl, rfl⟩ | ⟨rfl, rfl⟩ | ⟨rfl, rfl⟩ | ⟨rfl, rfl⟩ | ⟨rfl, rfl⟩ <;> simp at e ⊢
    have hrun : ∀ w₂, Docketed taskId { k with checkpoint := some ((decided st tool).saved t) } w₂ →
        wpc (calls (.steady b taskId) 0) (Lands b taskId crashes (remaining (some st))) (rt.executeTool ((decided st tool).saved t) tool (asked tool))
          (fun o w' => Processed b taskId crashes (remaining (some st)) o w') w₂ := by
      intro w₂ h₂
      refine executeTool_lands hb h₂ rfl hstage (hasked t) (Nat.le_add_left ..) (Nat.succ_le_succ hfew) hnoted (fun hno => ?_)
        (fun ledger hnoted => hfits t ledger hnoted) ?_
      · exact happroval fun hmem => hno (List.mem_append_left _ hmem)
      · have hcalls : (toolCompleted ((decided st tool).saved t) tool (b.answer done tool)).toolCalls = done.length + 1 := by
          show st.toolCalls + 1 = _
          rw [hreached.toolCalls]
        rw [remaining_active rfl rfl, hcalls, hnear]
        rw [List.length_append, List.length_singleton] at hrest
        split <;> split <;> omega
    split
    · exact wpc_seq (record_lands (hfits t _ hnoted) h₁ _ _ _) fun _ w₂ h₂ => hrun w₂ h₂
    · exact hrun w₁ h₁

open WorkflowRuntime in
/-- A decision's usage is none, and it is recorded. -/
theorem applyDecision_lands {Q : Except PyError WorkflowState → World → Prop} (he : rt.engine = anyEngine) (h : Docketed taskId k w)
    (hf : k.Fits b taskId crashes r) {dec : AgentDecision}
    (hcomplete : dec.action = .complete → ∀ w', Docketed taskId k w' → wpc (calls (.steady b taskId) 0) (Lands b taskId crashes r)
      ((save { absorb cp dec (0, 0) with status := .completed, finalAnswer := dec.finalAnswer, currentStep := none }).bind fun state =>
        (record taskId .workflowCompleted (.obj [("answer", Json.optStr state.finalAnswer)])).bind fun _ => .ret state) Q w')
    (hfail : dec.action = .fail → ∀ w', Docketed taskId k w' → wpc (calls (.steady b taskId) 0) (Lands b taskId crashes r)
      (failWorkflow (absorb cp dec (0, 0)) dec.rationale "agent_decision") Q w')
    (huse : ∀ tool, dec.action = .useTool → dec.tool = some tool → ∀ w', Docketed taskId k w' → wpc (calls (.steady b taskId) 0)
      (Lands b taskId crashes r) (rt.useTool taskId (absorb cp dec (0, 0)) dec tool) Q w') :
    wpc (calls (.steady b taskId) 0) (Lands b taskId crashes r) (rt.applyDecision taskId cp dec) Q w := by
  unfold applyDecision
  rw [he]
  refine wpc_bind (wpc_mono (aloof_lands rfl hf h) fun o w₁ _ hq => ?_)
  obtain ⟨h₁, t, ⟨husage, -⟩, -⟩ := hq
  obtain rfl : o = .ok (0, 0) := husage
  refine wpc_seq (record_lands hf h₁ _ _ _) fun _ w₂ h₂ => ?_
  simp only
  split
  · rename_i haction
    exact hcomplete haction w₂ h₂
  · rename_i haction
    exact hfail haction w₂ h₂
  · rename_i haction
    split
    · rename_i hnone
      have htool := dec.tool_ok haction
      rw [hnone] at htool
      cases htool
    · rename_i tool htool
      exact huse tool haction htool w₂ h₂

/-- The engine's last decision, applied. -/
theorem applyDecision_concludes (he : rt.engine = anyEngine) (h : Docketed taskId k w) (hk : k.checkpoint = some cp) (hgathered : Gathered b cp)
    {recovered : Bool} (hrec : b.recovered = .ok recovered) (hf : k.Fits b taskId crashes r) (hr : 1 ≤ r) :
    wpc (calls (.steady b taskId) 0) (Lands b taskId crashes r) (rt.applyDecision taskId cp (PureBackend.verdict recovered))
      (fun o w' => Processed b taskId crashes r o w') w := by
  have htask := h.task hk
  have hends : ∀ (st : WorkflowState) (t : Timestamp) crashes', st.outcome = b.conclusion recovered →
      Place b taskId crashes' { k with checkpoint := some (st.saved t) } := fun st t crashes' ho => .ended rfl hrec ho
  have hover : ∀ (st : WorkflowState) (t : Timestamp), st.outcome = b.conclusion recovered → remaining (some (st.saved t)) = 0 := by
    intro st t ho
    have hterm : (st.saved t).terminal = true := by
      have hstatus : st.status = (b.conclusion recovered).status := congrArg Outcome.status ho
      show st.status.terminal = true
      rw [hstatus]
      cases recovered <;> rfl
    simp [remaining, hterm]
  have hfits : ∀ (st : WorkflowState) t, st.outcome = b.conclusion recovered →
      Docket.Fits { k with checkpoint := some (st.saved t) } b taskId crashes r :=
    fun st t ho => ⟨by rw [hover st t ho]; omega, hends st t _ ho⟩
  refine applyDecision_lands he h hf (fun haction w₁ h₁ => ?_) (fun haction w₁ h₁ => ?_) fun tool haction => ?_
  · have ho : WorkflowState.outcome { WorkflowRuntime.absorb cp (PureBackend.verdict recovered) (0, 0) with
        status := .completed, finalAnswer := (PureBackend.verdict recovered).finalAnswer, currentStep := none } = b.conclusion recovered := by
      cases recovered with
      | false => cases haction
      | true => exact congr (congrArg (Outcome.mk _ · · _ _) hgathered.evidence) hgathered.completedSteps
    refine wpc_seq (save_lands h₁ hf hk (by exact htask) rfl fun t => hfits _ t ho) fun st w₂ hq => ?_
    obtain ⟨⟨t, rfl⟩, h₂⟩ := hq
    refine wpc_seq (record_lands (hfits _ t ho) h₂ _ _ _) fun _ w₃ h₃ => ?_
    exact ⟨h₃.lands (hfits _ t ho), h₃.processed (hends _ t _ ho) (by rw [hover _ t ho]; exact hr)⟩
  · have ho : WorkflowState.outcome { WorkflowRuntime.absorb cp (PureBackend.verdict recovered) (0, 0) with
        status := .failed, lastError := some (PureBackend.verdict recovered).rationale, currentStep := none } = b.conclusion recovered := by
      cases recovered with
      | false =>
        have hanswer : cp.finalAnswer = none := hgathered.finalAnswer
        unfold WorkflowState.outcome PureBackend.conclusion
        rw [← hgathered.evidence, ← hgathered.completedSteps]
        exact congrArg (Outcome.mk _ _ _ _) hanswer
      | true => cases haction
    refine wpc_seq (save_lands h₁ hf hk (by exact htask) rfl fun t => hfits _ t ho) fun st w₂ hq => ?_
    obtain ⟨⟨t, rfl⟩, h₂⟩ := hq
    refine wpc_seq (record_lands (hfits _ t ho) h₂ _ _ _) fun _ w₃ h₃ => ?_
    exact ⟨h₃.lands (hfits _ t ho), h₃.processed (hends _ t _ ho) (by rw [hover _ t ho]; exact hr)⟩
  · cases recovered <;> cases haction

/-- The checkpoint is started, and the engine asked. -/
theorem decideNext_lands {Q : Except PyError WorkflowState → World → Prop} (he : rt.engine = anyEngine) (h : Docketed taskId k w)
    (hk : k.checkpoint = some cp) (hf : k.Fits b taskId crashes r)
    (hf' : ∀ t, Docket.Fits { k with checkpoint := some (cp.started.saved t) } b taskId crashes r)
    (hok : ∀ t w' dec, Docketed taskId { k with checkpoint := some (cp.started.saved t) } w' →
      DeterministicDecisionEngine.decide (cp.started.saved t) = .ok dec → wpc (calls (.steady b taskId) 0) (Lands b taskId crashes r)
        (rt.applyDecision taskId (cp.started.saved t) dec) Q w')
    (herr : ∀ t w' e, Docketed taskId { k with checkpoint := some (cp.started.saved t) } w' →
      DeterministicDecisionEngine.decide (cp.started.saved t) = .error e → e.isRetryable = false ∧ Q (.error e) w') :
    wpc (calls (.steady b taskId) 0) (Lands b taskId crashes r) (rt.decideNext taskId cp) Q w := by
  have htask := h.task hk
  unfold WorkflowRuntime.decideNext
  rw [he]
  refine wpc_seq (save_lands h hf hk (by exact htask) rfl hf') fun st w₁ hq => ?_
  obtain ⟨⟨t, rfl⟩, h₁⟩ := hq
  refine wpc_seq (record_lands (hf' t) h₁ _ _ _) fun _ w₂ h₂ => ?_
  refine wpc_bind (wpc_attempt (wpc_mono (aloof_lands rfl (hf' t) h₂) fun o w₃ _ hq => ?_))
  obtain ⟨h₃, t₃, ⟨hdecide, -⟩, -⟩ := hq
  obtain rfl : o = DeterministicDecisionEngine.decide (cp.started.saved t) := hdecide
  cases hd : DeterministicDecisionEngine.decide (cp.started.saved t) with
  | ok dec => exact hok t w₃ dec h₃ hd
  | error e =>
    obtain ⟨hretry, hq⟩ := herr t w₃ e h₃ hd
    show wpc _ _ (if _ then _ else _) _ _
    rw [hretry, if_neg Bool.false_ne_true]
    exact ⟨h₃.lands (hf' t), hq⟩

/-- A delivery whose next tool has been asked for at most once. -/
theorem decideNext_going (he : rt.engine = anyEngine) (hb : rt.backend = anyBackend) (hdet : rt.loopDetector = {}) (hfresh : b.Fresh)
    (h : Docketed taskId k w) (hk : k.checkpoint = some cp) (hstage : (done, tool) ∈ stages) (hreached : Reached b done tool n cp)
    (hn : n ≤ crashes done.length) (hfew : n ≤ 1) (hact : cp.status.active = true) (hidle : cp.pendingAction = none)
    (hnoted : Noted b done tool k.ledger) (happroval : ToolName.restartService ∉ done → k.approval = none) :
    wpc (calls (.steady b taskId) 0) (Lands b taskId crashes (remaining (some cp))) (rt.decideNext taskId cp)
      (fun o w' => Processed b taskId crashes (remaining (some cp)) o w') w := by
  have htask := h.task hk
  have hstarted : ∀ t, Reached b done tool n (cp.started.saved t) := fun t => hreached.congr rfl rfl rfl rfl rfl rfl
  have hnear := remaining_started hact hidle
  have hf : k.Fits b taskId crashes (remaining (some cp)) :=
    ⟨by rw [hk], .going hk hstage hreached (hn.trans (Nat.le_succ _)) hact hidle hnoted happroval⟩
  have hf' : ∀ t, Docket.Fits { k with checkpoint := some (cp.started.saved t) } b taskId crashes (remaining (some cp)) := fun t =>
    ⟨(hnear t).le, .going rfl hstage (hstarted t) (hn.trans (Nat.le_succ _)) rfl hidle hnoted happroval⟩
  refine decideNext_lands he h hk hf hf' (fun t w₁ dec h₁ hdec => ?_) fun t w₁ e h₁ hdec => ?_
  · obtain ⟨dec', hdec', haction, htool, hargs⟩ := (hstarted t).decides hstage
    obtain rfl : dec = dec' := Except.ok.inj (hdec.symm.trans hdec')
    refine applyDecision_lands he h₁ (hf' t) (fun hcomplete => ?_) (fun hfail => ?_) fun tool' _ htool' w₂ h₂ => ?_
    · rw [haction] at hcomplete
      cases hcomplete
    · rw [haction] at hfail
      cases hfail
    · rw [htool] at htool'
      cases htool'
      have habsorbed : remaining (some (WorkflowRuntime.absorb (cp.started.saved t) dec (0, 0))) = remaining (some cp) := by
        rw [← hnear t]
        rfl
      rw [← habsorbed]
      refine useTool_lands hb hdet hfresh hargs h₂ rfl (by exact htask) rfl hstage ((hstarted t).congr rfl rfl rfl rfl rfl rfl) hn hfew rfl hidle
        hnoted happroval ?_
      rw [habsorbed]
      exact hf' t
  · obtain ⟨dec, hdec', -⟩ := (hstarted t).decides hstage
    rw [hdec] at hdec'
    cases hdec'

/-- A delivery when every tool is done. -/
theorem decideNext_finished (he : rt.engine = anyEngine) (h : Docketed taskId k w) (hk : k.checkpoint = some cp) (hgathered : Gathered b cp)
    (hact : cp.status.active = true) (hidle : cp.pendingAction = none) :
    wpc (calls (.steady b taskId) 0) (Lands b taskId crashes (remaining (some cp))) (rt.decideNext taskId cp)
      (fun o w' => Processed b taskId crashes (remaining (some cp)) o w') w := by
  have hstarted : ∀ t, Gathered b (cp.started.saved t) := fun t => hgathered.congr rfl rfl rfl rfl
  have hnear := remaining_started hact hidle
  have hplace : ∀ t crashes', Place b taskId crashes' { k with checkpoint := some (cp.started.saved t) } := fun t crashes' =>
    .finished rfl (hstarted t) rfl hidle
  have hf' : ∀ t, Docket.Fits { k with checkpoint := some (cp.started.saved t) } b taskId crashes (remaining (some cp)) := fun t =>
    ⟨(hnear t).le, hplace t _⟩
  refine decideNext_lands he h hk ⟨by rw [hk], .finished hk hgathered hact hidle⟩ hf' (fun t w₁ dec h₁ hdec => ?_) fun t w₁ e h₁ hdec => ?_
  · rcases (hstarted t).decides with ⟨r, hr, hdec'⟩ | ⟨e, -, hdec', -⟩
    · obtain rfl : dec = PureBackend.verdict r := Except.ok.inj (hdec.symm.trans hdec')
      refine applyDecision_concludes he h₁ rfl (hstarted t) hr (hf' t) ?_
      rw [remaining_active hact hidle, hgathered.toolCalls]
      decide
    · rw [hdec] at hdec'
      cases hdec'
  · rcases (hstarted t).decides with ⟨r, hr, hdec'⟩ | ⟨e', hr, hdec', hretry, hperm⟩
    · rw [hdec] at hdec'
      cases hdec'
    · obtain rfl : e = e' := Except.error.inj (hdec.symm.trans hdec')
      refine ⟨hretry, h₁.labelled, h₁.undead, ?_, .inr ⟨⟨e, rfl, hretry, hperm⟩, ?_, ?_⟩⟩
      · rw [h₁.docket]
        exact hplace t _
      · rintro ⟨x, hx⟩
        rw [hr] at hx
        cases hx
      · rw [h₁.docket]
        exact (hnear t).le

/-- What a delivery comes to: an active workflow is nearer to its end. -/
structure Advances (b : PureBackend) (taskId : String) (crashes : Nat → Nat) (k : Docket) (w : World) : Prop where
  labelled : Labelled w.store
  undead : Undead taskId w.store
  place : Place b taskId crashes (w.store.docket taskId)
  near : remaining (w.store.docket taskId).checkpoint ≤ remaining k.checkpoint
  nearer : b.Readable → (∃ cp, k.checkpoint = some cp ∧ cp.status.active = true) →
    remaining (w.store.docket taskId).checkpoint + 1 ≤ remaining k.checkpoint

/-- The program returns, or raises what nobody handles. -/
def Unhandled (o : Except PyError α) : Prop := ∀ e, o = .error e → e.isRetryable = false ∧ e.isPermanent = false

theorem Processed.advances {o : Except PyError α} (h : Processed b taskId crashes r o w) (hr : r = remaining k.checkpoint) :
    Unhandled o ∧ Advances b taskId crashes k w := by
  subst hr
  rcases h.result with ⟨⟨a, rfl⟩, hr⟩ | ⟨⟨e, rfl, he⟩, hno, hr⟩
  · exact ⟨nofun, h.labelled, h.undead, h.place, (Nat.le_succ _).trans hr, fun _ _ => hr⟩
  · refine ⟨?_, h.labelled, h.undead, h.place, hr, fun hyes => absurd hyes hno⟩
    rintro _ ⟨⟩
    exact he

/-- The docket is as the delivery left it. -/
theorem Advances.docketed (h : Advances b taskId crashes k w) : Docketed taskId (w.store.docket taskId) w := ⟨h.labelled, h.undead, rfl⟩

theorem Advances.congr (h : Advances b taskId crashes k w) (h' : Docketed taskId (w.store.docket taskId) w') :
    Advances b taskId crashes k w' := by
  refine ⟨h'.labelled, h'.undead, ?_, ?_, ?_⟩ <;> rw [h'.docket]
  · exact h.place
  · exact h.near
  · exact h.nearer

theorem Advances.fits (h : Advances b taskId crashes k w) : (w.store.docket taskId).Fits b taskId crashes (remaining k.checkpoint) :=
  ⟨h.near, h.place.mono fun _ => Nat.le_succ _⟩

/-- Processing a delivery of the task, from its place. -/
theorem process_lands (he : rt.engine = anyEngine) (hb : rt.backend = anyBackend) (hdet : rt.loopDetector = {}) (hfresh : b.Fresh)
    (hfew : ∀ i < steps.length, crashes i ≤ 1) (h : Docketed taskId k w) (hplace : Place b taskId crashes k) (hknown : k.checkpoint ≠ none) :
    wpc (calls (.steady b taskId) 0) (Lands b taskId crashes (remaining k.checkpoint)) (rt.process taskId)
      (fun o w' => Unhandled o ∧ Advances b taskId crashes k w') w := by
  have hf : k.Fits b taskId crashes (remaining k.checkpoint) := ⟨le_rfl, hplace.mono fun i => Nat.le_succ _⟩
  refine wpc_seq (R := fun st w' => k.checkpoint = some st ∧ Docketed taskId k w') (wpc_bind (wpc_mono (aloof_lands rfl hf h) fun o w₁ _ hq => ?_))
    fun cp w₁ hq => ?_
  · obtain ⟨h₁, t, -, hread⟩ := hq
    obtain rfl : .ok (w.store.getWorkflow taskId) = o := congrArg Prod.fst hread
    obtain ⟨cp, hcp⟩ := Option.ne_none_iff_exists'.mp hknown
    have hget : w.store.getWorkflow taskId = some cp := h.stored.trans hcp
    rw [hget]
    exact ⟨h₁.lands hf, cp, rfl, hcp, h₁⟩
  · obtain ⟨hk, h₁⟩ := hq
    have hnear : remaining k.checkpoint = remaining (some cp) := by rw [hk]
    have hstopped : cp.status.active = false → wpc (calls (.steady b taskId) 0) (Lands b taskId crashes (remaining k.checkpoint))
        (.ret cp) (fun o w' => Unhandled o ∧ Advances b taskId crashes k w') w₁ := by
      intro hinactive
      refine ⟨h₁.lands hf, nofun, h₁.labelled, h₁.undead, by rw [h₁.docket]; exact hplace, by rw [h₁.docket], fun _ hactive => ?_⟩
      obtain ⟨cp', hcp', hact⟩ := hactive
      rw [hk] at hcp'
      cases hcp'
      rw [hinactive] at hact
      cases hact
    split
    · rename_i hstop
      exact hstopped ((stops_iff cp).mp hstop)
    · rename_i hgo
      have hact : cp.status.active = true := active_of_running hgo
      rw [hnear]
      have hgoing : ∀ {n : Nat} {cp' : WorkflowState}, k.checkpoint = some cp' → cp = cp' := by
        intro n cp' hcp'
        rw [hk] at hcp'
        exact Option.some.inj hcp'
      cases hplace with
      | unknown hnone => exact absurd hnone hknown
      | @going done tool n cp' hcp hstage hreached hn _ hidle hnoted happroval =>
        obtain rfl : cp = cp' := Option.some.inj (hk.symm.trans hcp)
        have hlen : done.length < steps.length := by
          obtain ⟨rest, hrest⟩ := Outage.stage_split hstage
          rw [hrest, List.length_append, List.length_cons]
          omega
        rw [hidle]
        exact wpc_mono (decideNext_going he hb hdet hfresh h₁ hk hstage hreached hn (hn.trans (hfew _ hlen)) hact hidle hnoted happroval)
          fun o w₂ _ hq => hq.advances hnear.symm
      | @gated n cp' p row hcp hreached hpos hn hpend hp hnoted happroval hstatus =>
        obtain rfl : cp = cp' := Option.some.inj (hk.symm.trans hcp)
        rcases hstatus with ⟨hwait, -⟩ | ⟨-, hrow⟩
        · rw [hwait] at hact
          cases hact
        · rw [hpend]
          have hfour := hfew beforeRestart.length (by decide)
          exact wpc_mono (resumeApprovedAction_lands hb h₁ hk hreached hpos hn (by omega) hpend hp hnoted happroval hact hrow)
            fun o w₂ _ hq => hq.advances hnear.symm
      | @finished cp' hcp hgathered _ hidle =>
        obtain rfl : cp = cp' := Option.some.inj (hk.symm.trans hcp)
        rw [hidle]
        exact wpc_mono (decideNext_finished he h₁ hk hgathered hact hidle) fun o w₂ _ hq => hq.advances hnear.symm
      | @ended cp' r hcp hr ho =>
        obtain rfl : cp = cp' := Option.some.inj (hk.symm.trans hcp)
        have hstatus : cp.status = (b.conclusion r).status := congrArg Outcome.status ho
        rw [hstatus] at hact
        cases r <;> cases hact

/-! ## The worker -/

/-- A call that leaves the docket alone, after the delivery advanced the workflow. -/
theorem Advances.call {c : Call} (hc : c.aloof = true) (h : Advances b taskId crashes k w) :
    wpc (calls env 0) (Lands b taskId crashes (remaining k.checkpoint)) (.perform c) (fun o w' => Advances b taskId crashes k w' ∧
      ∃ t, Effect c w.store t o w'.store) w := by
  refine wpc_mono (aloof_lands hc h.fits h.docketed) fun o w' _ hq => ?_
  obtain ⟨h', t, -, he⟩ := hq
  exact ⟨h.congr h', t, he⟩

theorem Advances.lands (h : Advances b taskId crashes k w) : Lands b taskId crashes (remaining k.checkpoint) w :=
  h.docketed.lands h.fits

theorem handleDelivery_lands {d : QueueDelivery} (he : rt.engine = anyEngine) (hb : rt.backend = anyBackend) (hdet : rt.loopDetector = {})
    (hfresh : b.Fresh) (hfew : ∀ i < steps.length, crashes i ≤ 1) (h : Docketed d.taskId k w) (hplace : Place b d.taskId crashes k)
    (hknown : k.checkpoint ≠ none) :
    wpc (calls (.steady b d.taskId) 0) (Lands b d.taskId crashes (remaining k.checkpoint)) (handleDelivery rt config d)
      (fun _ w' => Advances b d.taskId crashes k w') w := by
  have hprocess : wpc (calls (.steady b d.taskId) 0) (Lands b d.taskId crashes (remaining k.checkpoint)) (processDelivery rt config d)
      (fun o w' => Unhandled o ∧ Advances b d.taskId crashes k w') w := by
    refine wpc_bind (wpc_mono (process_lands he hb hdet hfresh hfew h hplace hknown) fun o w₁ hK hq => ?_)
    obtain ⟨ho, h₁⟩ := hq
    cases o with
    | error e =>
      refine ⟨?_, h₁⟩
      rintro _ ⟨⟩
      exact ho e rfl
    | ok st =>
      refine wpc_bind (wpc_mono (h₁.call rfl) fun o w₂ hK hq => ?_)
      obtain ⟨h₂, t, heffect⟩ := hq
      obtain rfl : o = .ok () := (congrArg Prod.fst heffect).symm
      show wpc _ _ (if _ then _ else _) _ w₂
      split
      · refine wpc_bind (wpc_mono (h₂.call rfl) fun o w₃ hK hq => ?_)
        obtain ⟨h₃, t, heffect⟩ := hq
        cases o with
        | ok id => exact ⟨hK, nofun, h₃⟩
        | error e =>
          refine ⟨?_, h₃⟩
          rintro _ ⟨⟩
          rcases SQLiteStore.enqueue_cases heffect with ⟨_, -, -, -, -, hok, -⟩ | ⟨-, -, hok, -⟩ | ⟨-, ⟨m, hm⟩, -⟩
          · cases hok
          · cases hok
          · cases hm
            exact ⟨rfl, rfl⟩
      · exact ⟨hK, nofun, h₂⟩
  refine wpc_bind (wpc_attempt (wpc_mono hprocess fun o w₁ hK hq => ?_))
  obtain ⟨ho, h₁⟩ := hq
  cases o with
  | ok u => exact ⟨hK, h₁⟩
  | error e =>
    obtain ⟨hretry, hperm⟩ := ho e rfl
    show wpc _ _ (if _ then _ else if _ then _ else _) _ w₁
    rw [if_neg (by simp [hretry]), if_neg (by simp [hperm])]
    exact ⟨hK, h₁⟩

end AgentResilience
