/-
  AgentResilience.DrivenWalk — the programs keep the drivers under every interleaving. The
  protocol `driven`: the invariant is `DrivenInv`; a thread may rely on its phase, on what
  it works for, on the store moving `Later` and on stuck workflows staying stuck; it must
  make each call as `DrivenObs` asks.

  - `Walks det i p Q w`: thread `i` runs `p` so, and ends in `Q`.
  - `Worked`: how `process` leaves its delivery; `Leavable`: where a thread may stop.
  - `process_walks`, `runOnce_walks`, `operation_walks`: the programs, bottom up.
  - `driven_sound`: the system keeps the protocol.
-/
import AgentResilience.DrivenStep

namespace AgentResilience

open Interaction
open Interaction.Prog (attempt ofExcept throw)

/-! ## The protocol -/

/-- From one world to a later one, thread `i` making no call. -/
structure Onward (i : ThreadId) (w w' : World) : Prop where
  later : Later w.store w'.store
  phase : phase i w'.journal = phase i w.journal
  concerning : concerning i w'.journal = concerning i w.journal
  stuck : ∀ taskId, Stuck w taskId → Stuck w' taskId

theorem Onward.refl (i : ThreadId) (w : World) : Onward i w w := ⟨.refl _, rfl, rfl, fun _ h => h⟩

theorem Onward.trans {i : ThreadId} {w w' w'' : World} (h : Onward i w w') (h' : Onward i w' w'') : Onward i w w'' :=
  ⟨h.later.trans h'.later, h'.phase.trans h.phase, h'.concerning.trans h.concerning, fun t hs => h'.stuck t (h.stuck t hs)⟩

def driven (det : LoopDetector) : Protocol ThreadId Call World Unit where
  Inv w _ := DrivenInv w
  Rely i w _ w' _ := Onward i w w'
  Idle i w _ := phase i w.journal = .free
  Obs i c w _ := DrivenObs det i w c
  rely_refl i w _ := .refl i w
  rely_trans h h' := h.trans h'
  idle_stable h hi := h.phase.trans hi

variable {det : LoopDetector} {i : ThreadId} {w w' : World} {c : Call} {r : Except PyError c.Ret}

/-- A call of thread `i`, and what others did afterwards. -/
structure Moved (i : ThreadId) (c : Call) (r : Except PyError c.Ret) (w w' : World) : Prop where
  later : Later w.store w'.store
  phase : phase i w'.journal = (phase i w.journal).after c r
  concerning : c.claimed r = none → concerning i w'.journal = concerning i w.journal
  stuck : ∀ taskId, Stuck w taskId → Stuck w' taskId
  lease : HoldsLease i w
  effect : ∃ t s', Effect c w.store t r s' ∧ Later s' w'.store

theorem calls_stuck (hi : DrivenInv w) (h : calls .unspent i c w r w') {taskId : String} (hs : Stuck w taskId) :
    Stuck w' taskId := by
  obtain ⟨t, s', hle, hal, he, rfl⟩ := h
  exact hs.kept hi (holdsLease_earlier hle hal.1) he

theorem calls_keeps_driven (hi : DrivenInv w) (ho : DrivenObs det i w c) (h : calls .unspent i c w r w') :
    (driven det).Keeps i w () w' () := by
  refine ⟨driven_calls hi ho h, fun j hj => ⟨calls_later hi.store h, ?_, ?_, fun taskId hs => calls_stuck hi h hs⟩⟩
  · obtain ⟨t, s', -, -, -, rfl⟩ := h
    exact phase_other (Ne.symm hj) c r w.journal
  · obtain ⟨t, s', -, -, -, rfl⟩ := h
    exact concerning_other (Ne.symm hj) c r w.journal

theorem calls_moved (hi : DrivenInv w) {w₁ : World} (h : calls .unspent i c w r w₁) (hw : Onward i w₁ w') : Moved i c r w w' := by
  have hlater := calls_later hi.store h
  have hstuck := fun taskId (hs : Stuck w taskId) => calls_stuck hi h hs
  obtain ⟨t, s', hle, hal, he, rfl⟩ := h
  exact ⟨hlater.trans hw.later, hw.phase.trans (phase_did ..), fun hc => hw.concerning.trans (concerning_did hc _),
    fun taskId hs => hw.stuck taskId (hstuck taskId hs), holdsLease_earlier hle hal.1, t, s', he, hw.later⟩

theorem Moved.onward (h : Moved i c r w w') (hc : c.steady = true) : Onward i w w' :=
  ⟨h.later, h.phase.trans (steady_after hc _ r).1, h.concerning (steady_after hc .free r).2, h.stuck⟩

/-! ## Walks -/

section
variable (det)

/-- Thread `i` runs `p` as the protocol asks, and ends in `Q`. -/
def Walks {α : Type} (i : ThreadId) (p : Py α) (Q : Except PyError α → World → Prop) (w : World) : Prop :=
  Safe (calls .unspent) (driven det) i p (fun o w' _ => Q o w') w ()

end

variable {α β : Type}

theorem Walks.mono {p : Py α} {Q Q' : Except PyError α → World → Prop} (h : Walks det i p Q w)
    (hQ : ∀ o w', DrivenInv w' → Q o w' → Q' o w') : Walks det i p Q' w :=
  Safe.mono h fun o w' _ hi hq => hQ o w' hi hq

theorem Walks.ret {a : α} {Q : Except PyError α → World → Prop} (h : ∀ w', Onward i w w' → Q (.ok a) w') :
    Walks det i (.ret a) Q w := fun w' _ hr _ => h w' hr

theorem Walks.raise {e : PyError} {Q : Except PyError α → World → Prop} (h : ∀ w', Onward i w w' → Q (.error e) w') :
    Walks det i (.raise e) Q w := fun w' _ hr _ => h w' hr

theorem Walks.bind {p : Py α} {f : α → Py β} {R : Except PyError α → World → Prop} {Q : Except PyError β → World → Prop}
    (hp : Walks det i p R w) (hf : ∀ a w', DrivenInv w' → R (.ok a) w' → Walks det i (f a) Q w')
    (he : ∀ e w', R (.error e) w' → Q (.error e) w') : Walks det i (p.bind f) Q w := by
  refine Safe.bind (Safe.mono hp fun o w' _ hi hq => ?_)
  cases o with
  | ok a => exact hf a w' hi hq
  | error e => exact he e w' hq

/-- What follows a `try`. -/
theorem Walks.attempt {p : Py α} {f : Except PyError α → Py β} {R : Except PyError α → World → Prop}
    {Q : Except PyError β → World → Prop} (hp : Walks det i p R w)
    (hf : ∀ o w', DrivenInv w' → R o w' → Walks det i (f o) Q w') : Walks det i (p.attempt.bind f) Q w :=
  .bind (R := fun o w' => ∃ o', o = .ok o' ∧ R o' w')
    (Safe.attempt (Safe.mono hp fun o _ _ _ hq => ⟨o, rfl, hq⟩))
    (fun a w' hi h => by obtain ⟨o, e, hq⟩ := h; cases e; exact hf _ w' hi hq)
    (fun e w' h => by obtain ⟨o, e, -⟩ := h; cases e)

theorem Walks.ofExcept {x : Except PyError α} {f : α → Py β} {Q : Except PyError β → World → Prop}
    (hf : ∀ a, x = .ok a → Walks det i (f a) Q w) (he : ∀ e w', x = .error e → Onward i w w' → Q (.error e) w') :
    Walks det i ((Prog.ofExcept x).bind f) Q w := by
  cases x with
  | ok a => exact hf a rfl
  | error e => exact .raise fun w' hr => he e w' rfl hr

/-- One call: what the protocol asks must hold, and what it does is known. -/
theorem Walks.perform {Q : Except PyError c.Ret → World → Prop}
    (ho : ∀ w₁, Onward i w w₁ → DrivenInv w₁ → DrivenObs det i w₁ c)
    (hQ : ∀ w₁ r w', Onward i w w₁ → DrivenInv w₁ → Moved i c r w₁ w' → DrivenInv w' → Q r w') :
    Walks det i (.perform c) Q w := by
  refine Safe.perform fun w₁ _ hr hi => ⟨ho w₁ hr hi, fun r w₂ hs => ⟨(), calls_keeps_driven hi (ho w₁ hr hi) hs, ?_⟩⟩
  intro w₃ _ hr₃ hi₃
  exact hQ w₁ r w₃ hr hi (calls_moved hi hs hr₃) hi₃

/-- A steady call. -/
theorem Walks.steady {Q : Except PyError c.Ret → World → Prop} (hc : c.steady = true)
    (ho : ∀ w₁, Onward i w w₁ → DrivenInv w₁ → DrivenObs det i w₁ c)
    (hQ : ∀ r w', (∃ s t s', Effect c s t r s') → Onward i w w' → Q r w') : Walks det i (.perform c) Q w := by
  refine .perform ho fun w₁ r w' hr _ hm _ => hQ r w' ?_ (hr.trans (hm.onward hc))
  obtain ⟨t, s', he, -⟩ := hm.effect
  exact ⟨_, t, s', he⟩

/-- A program of steady calls that ask for nothing. -/
theorem Walks.of_makes {p : Py α} (h : p.Makes fun c => c.steady = true ∧ ∀ w', DrivenObs det i w' c) :
    Walks det i p (fun _ w' => Onward i w w') w := by
  suffices hs : ∀ w₁, Onward i w w₁ → Walks det i p (fun _ w' => Onward i w w') w₁ from hs w (.refl i w)
  induction p with
  | ret a => exact fun w₁ hr => .ret fun w' h' => hr.trans h'
  | raise e => exact fun w₁ hr => .raise fun w' h' => hr.trans h'
  | call c k ih =>
    intro w₁ hr w₂ _ hr₂ hi
    refine ⟨h.1.2 w₂, fun r w₃ hs => ⟨(), calls_keeps_driven hi (h.1.2 w₂) hs, ?_⟩⟩
    exact ih r (h.2 r) w₃ ((hr.trans hr₂).trans ((calls_moved hi hs (.refl i w₃)).onward h.1.1))

theorem record_walks (taskId : String) (e : EventType) (payload : Json) :
    Walks det i (record taskId e payload) (fun o w' => o = .ok () ∧ Onward i w w') w := by
  refine .steady rfl (fun _ _ _ => ⟨trivial, trivial⟩) fun r w' he hr => ⟨?_, hr⟩
  obtain ⟨s, t, s', he⟩ := he
  exact (Prod.mk.inj he).1.symm

/-- What follows a record. -/
theorem Walks.record {taskId : String} {e : EventType} {payload : Json} {f : Unit → Py β} {Q : Except PyError β → World → Prop}
    (hf : ∀ w', DrivenInv w' → Onward i w w' → Walks det i (f ()) Q w') :
    Walks det i ((AgentResilience.record taskId e payload).bind f) Q w := by
  refine .bind (record_walks taskId e payload) (fun _ w' hi h => hf w' hi h.2) fun e w' h => ?_
  cases h.1

/-! ## A worker with its delivery -/

variable {d : QueueDelivery} {cp st : WorkflowState} {rt : WorkflowRuntime} {config : Settings}

/-- Thread `i` holds delivery `d`, and `cp` is the checkpoint it read or saved last. -/
structure Carrying (i : ThreadId) (d : QueueDelivery) (cp : WorkflowState) (w : World) : Prop where
  phase : phase i w.journal = .holding d (some cp)
  copy : Copy cp w.store
  task : cp.taskId = d.taskId

theorem Carrying.onward (h : Carrying i d cp w) (hr : Onward i w w') : Carrying i d cp w' :=
  ⟨hr.phase.trans h.phase, h.copy.later hr.later, h.task⟩

/-- How processing a delivery ends: what is returned is what was saved last and is not running,
    or the delivery's pending action turned out not to be approved; on an error the workflow
    is still active, and running if the error is permanent. -/
def Worked (i : ThreadId) (d : QueueDelivery) : Except PyError WorkflowState → World → Prop
  | .ok st, w => (Carrying i d st w ∧ st.status ≠ .running) ∨
      st.status ≠ .queued ∧ (∃ cp, Carrying i d cp w) ∧ Stuck w d.taskId
  | .error e, w => ∃ cp, Carrying i d cp w ∧ cp.status.active = true ∧ (e.isPermanent = true → cp.status = .running)

theorem Carrying.worked (h : Carrying i d st w) (hst : st.status ≠ .running) : Walks det i (.ret st) (Worked i d) w :=
  .ret fun _ hr => .inl ⟨h.onward hr, hst⟩

theorem Carrying.raised {e : PyError} (h : Carrying i d cp w) (hcp : cp.status.active = true)
    (he : e.isPermanent = true → cp.status = .running) : Walks det i (.raise e) (Worked i d) w :=
  .raise fun _ hr => ⟨cp, h.onward hr, hcp, he⟩

theorem not_permanent_of_retryable {e : PyError} (h : e.isRetryable = true) : e.isPermanent = false := by
  cases e <;> first | rfl | cases h

/-- What the protocol asks of a save, for a copy of the checkpoint it replaces. -/
theorem save_obs (hc : Copy cp w.store) (hs : SaveObs det i w st st.version cp)
    (hfail : ∀ r, phase i w.journal = .failing r → concerning i w.journal = some st.taskId ∧ r = some st.version) :
    DrivenObs det i w (.store (.saveWorkflow st st.version)) := by
  obtain ⟨htask, hver⟩ := hs.1.same
  have hstored : ∀ row, w.store.workflows.get st.taskId = some row → row.version = st.version → row.stateJson = cp :=
    fun row hrow hv => hc.stored (htask ▸ hrow) (hv.trans hver)
  refine ⟨fun row hrow hv => ?_, hfail, fun row hrow hv => ?_⟩
  · rw [hstored row hrow hv]; exact hs.1
  · rw [hstored row hrow hv]; exact hs

/-- A save that fails leaves what was carried. -/
theorem save_walks (h : Carrying i d cp w) (hcp : cp.status.active = true) (hch : Change det Set.univ cp st) :
    Walks det i (save st) (fun o w' => match o with
      | .ok st' => (∃ t, st' = { st with version := st.version + 1, updatedAt := t }) ∧ Carrying i d st' w'
      | .error e => e.isRetryable = true ∧ Carrying i d cp w') w := by
  have htask := hch.same.1
  refine .perform (fun w₁ hr _ => ?_) fun w₁ r w' hr _ hm _ => ?_
  · have h₁ := h.onward hr
    refine save_obs h₁.copy ⟨hch, ?_⟩ fun r hp => by rw [h₁.phase] at hp; cases hp
    rw [h₁.phase]
    exact ⟨htask.trans h.task, hcp, cp, rfl, hcp⟩
  · have h₁ := h.onward hr
    obtain ⟨t, s', he, hl⟩ := hm.effect
    rcases SQLiteStore.saveWorkflow_cases he with ⟨row, hrow, hv, rfl, hw, -⟩ | ⟨⟨m, rfl⟩, -⟩
    · refine ⟨⟨t, rfl⟩, ?_, ?_, htask.trans h.task⟩
      · rw [hm.phase, h₁.phase]; rfl
      · exact Copy.later ⟨_, (hw _).trans (if_pos rfl), Nat.le_refl _, fun _ => rfl⟩ hl
    · exact ⟨rfl, by rw [hm.phase, h₁.phase]; rfl, h₁.copy.later hm.later, h.task⟩

/-- A save and what follows it: a save that fails ends the processing. -/
theorem Walks.save {f : WorkflowState → Py WorkflowState} (h : Carrying i d cp w) (hcp : cp.status.active = true)
    (hch : Change det Set.univ cp st)
    (hf : ∀ t w', DrivenInv w' → Carrying i d { st with version := st.version + 1, updatedAt := t } w' →
      Walks det i (f { st with version := st.version + 1, updatedAt := t }) (Worked i d) w') :
    Walks det i ((AgentResilience.save st).bind f) (Worked i d) w := by
  refine .bind (save_walks h hcp hch) (fun st' w' hi hq => ?_) fun e w' hq => ?_
  · obtain ⟨⟨t, rfl⟩, hc⟩ := hq
    exact hf t w' hi hc
  · refine ⟨cp, hq.2, hcp, fun hp => ?_⟩
    rw [not_permanent_of_retryable hq.1] at hp; cases hp

theorem failWorkflow_walks {reason category : String} (h : Carrying i d cp w) (hcp : cp.status.active = true)
    (hch : Change det Set.univ cp { cp with status := .failed, lastError := some reason, currentStep := none }) :
    Walks det i (failWorkflow cp reason category) (Worked i d) w := by
  refine .save h hcp hch fun t w₁ _ h₁ => .record fun w₂ _ hr => ?_
  exact (h₁.onward hr).worked (by simp)

theorem executeTool_walks (hb : rt.backend = anyBackend) {tool : ToolName} {arguments : Arguments}
    (h : Carrying i d cp w) (hdue : ToolDue cp tool) : Walks det i (rt.executeTool cp tool arguments) (Worked i d) w := by
  unfold WorkflowRuntime.executeTool
  rw [hb]
  refine .attempt (.of_makes (gatewayExecute_makes (fun _ _ => ⟨rfl, fun _ => ⟨trivial, trivial⟩⟩)
    (fun _ _ => ⟨rfl, fun _ => trivial⟩) fun _ _ _ _ _ => ⟨rfl, fun _ => ⟨trivial, trivial⟩⟩)) fun o w₁ _ hr => ?_
  have h₁ := h.onward hr
  cases o with
  | error e =>
    simp only
    split
    · rename_i hret
      refine .save h₁ hdue.1 (.toolRetry tool e.message hdue) fun t w₂ _ h₂ => .record fun w₃ _ hr => ?_
      exact (h₂.onward hr).raised rfl fun hp => by rw [not_permanent_of_retryable hret] at hp; cases hp
    · split
      · exact failWorkflow_walks h₁ hdue.1 (.toolFailed tool e.message hdue)
      · rename_i hperm
        exact h₁.raised hdue.1 fun hp => absurd hp hperm
  | ok x =>
    refine .save h₁ hdue.1 (.toolDone tool x.1 hdue) fun t w₂ _ h₂ => .record fun w₃ _ hr => ?_
    exact (h₂.onward hr).worked (by simp [toolCompleted])

/-- The delivery's workflow is stuck, or the pending action of the checkpoint is approved. -/
def Cleared (d : QueueDelivery) (cp : WorkflowState) (w : World) : Prop :=
  Stuck w d.taskId ∨ ∀ p, cp.pendingAction = some p → w.store.approvalStatus cp.taskId p.actionId = some .approved

theorem Cleared.onward (h : Cleared d cp w) (hr : Onward i w w') : Cleared d cp w' :=
  h.imp (hr.stuck _) fun h p hp => approved_later (h p hp) hr.later

/-- A worker reads the checkpoint of the delivery it has claimed. -/
theorem read_walks (h : phase i w.journal = .holding d none) :
    Walks det i (onStore (.getWorkflow d.taskId)) (fun o w' => ∃ st, o = .ok (some st) ∧ Carrying i d st w' ∧
      StateOk Set.univ d.taskId st ∧ Cleared d st w') w := by
  refine .perform (fun w₁ hr _ => ⟨trivial, ?_⟩) fun w₁ r w' hr hi hm _ => ?_
  · rw [hr.phase, h]; exact ⟨rfl, rfl⟩
  · have hp := hr.phase.trans h
    obtain ⟨t, s', he, -⟩ := hm.effect
    obtain ⟨rfl, rfl⟩ := Prod.mk.inj he
    obtain ⟨q, hq, ht⟩ := hi.held i d none hp
    obtain ⟨row, hrow⟩ := Option.ne_none_iff_exists'.mp (ht ▸ hi.known d.id q hq)
    have hget : w₁.store.getWorkflow d.taskId = some row.stateJson := by simp [SQLiteStore.getWorkflow, hrow]
    have hok := hi.store.state _ row hrow
    refine ⟨row.stateJson, by rw [hget], ⟨?_, ?_, hok.task⟩, hok, ?_⟩
    · rw [hm.phase, hp, hget]; rfl
    · exact Copy.later ⟨row, by rw [hok.task]; exact hrow, (hi.store.version _ row hrow).ge, fun _ => rfl⟩ hm.later
    · rcases hi.good d.taskId with hs | hg
      · exact .inl (hm.stuck _ hs)
      · refine .inr fun p hpend => approved_later ?_ hm.later
        rw [hok.task]
        exact pending_approved hrow (hg.not_halted (held_drives hi hm.lease hp (by intro st e; cases e))) hpend

theorem resumeApprovedAction_walks (hb : rt.backend = anyBackend) {pending : PendingAction} (h : Carrying i d cp w)
    (hcp : cp.status.active = true) (hp : cp.pendingAction = some pending) (hclear : Cleared d cp w) :
    Walks det i (rt.resumeApprovedAction cp pending) (Worked i d) w := by
  refine .bind (R := fun o w' => ∃ a, o = .ok a ∧ Onward i w w' ∧ (a = some .approved ∨ Stuck w' d.taskId)) ?_ ?_ ?_
  · refine .perform (fun _ _ _ => ⟨trivial, trivial⟩) fun w₁ r w' hr _ hm _ => ?_
    obtain ⟨t, s', he, -⟩ := hm.effect
    obtain ⟨rfl, rfl⟩ := Prod.mk.inj he
    refine ⟨_, rfl, hr.trans (hm.onward rfl), ?_⟩
    rcases hclear.onward hr with hs | ha
    · exact .inr (hm.stuck _ hs)
    · exact .inl (ha pending hp)
  · intro a w₁ _ hq
    obtain ⟨_, e, hr, ha⟩ := hq
    cases e
    have h₁ := h.onward hr
    split
    · rename_i hne
      have hs := ha.resolve_left hne
      exact .ret fun w' hr' => .inr ⟨by simp, ⟨cp, h₁.onward hr'⟩, hr'.stuck _ hs⟩
    · exact .record fun w₂ _ hr₂ => executeTool_walks hb (h₁.onward hr₂) ⟨hcp, .inr ⟨pending, hp, rfl⟩⟩
  · intro e w₁ hq
    obtain ⟨_, e, -⟩ := hq
    cases e

theorem pauseForApproval_walks {taskId : String} {pending : PendingAction} (h : Carrying i d cp w) (ht : cp.taskId = taskId)
    (hrun : cp.status = .running) (hp : cp.pendingAction = none) (hh : pending.tool.value ∈ cp.toolHistory)
    (hok : PendingOk Set.univ taskId pending) :
    Walks det i (WorkflowRuntime.pauseForApproval taskId cp pending) (Worked i d) w := by
  subst ht
  refine .save h (by rw [hrun]; rfl) (.paused pending hrun hp hh hok) fun t w₁ _ h₁ => ?_
  have hr := hok.restart
  refine .bind (R := fun o w' => o = .ok () ∧ Onward i w₁ w') ?_ (fun _ w₂ _ hq => .record fun w₃ _ hr₃ => ?_) ?_
  · refine .steady rfl (fun _ _ _ => ⟨⟨pending.arguments, by rw [← hr.1]; exact hr, hok.asked, ?_⟩, trivial⟩) fun r w' he hr => ⟨?_, hr⟩
    · rw [← hr.1]; exact hok.id
    · obtain ⟨s, t, s', he⟩ := he
      exact (Prod.mk.inj he).1.symm
  · exact ((h₁.onward hq.2).onward hr₃).worked (by simp)
  · intro e w' hq; cases hq.1

theorem runDecided_walks (hb : rt.backend = anyBackend) {taskId : String} {decision : AgentDecision} {tool : ToolName}
    {arguments : Arguments} (h : Carrying i d cp w) (ht : cp.taskId = taskId) (hrun : cp.status = .running)
    (hp : cp.pendingAction = none) (hstep : cp.currentStep = some tool.value) (hh : tool.value ∈ cp.toolHistory)
    (hv : Validated tool arguments) :
    Walks det i (rt.runDecided taskId cp decision tool arguments (evaluate tool arguments)) (Worked i d) w := by
  subst ht
  have hact : cp.status.active = true := by rw [hrun]; rfl
  have hdue : ToolDue cp tool := ⟨hact, .inl ⟨hp, hstep, hh⟩⟩
  unfold WorkflowRuntime.runDecided
  split
  · exact .record fun w₁ _ hr => failWorkflow_walks (h.onward hr) hact (.denied _ hrun hp)
  · split
    · rename_i happ
      exact pauseForApproval_walks h rfl hrun hp hh ⟨(approvalRequired_iff hv).mp happ, trivial, rfl⟩
    · split
      · exact .record fun w₁ _ hr => executeTool_walks hb (h.onward hr) hdue
      · exact executeTool_walks hb h hdue

open WorkflowRuntime in
theorem useTool_walks (hb : rt.backend = anyBackend) {taskId : String} {decision : AgentDecision} {u : Nat × Nat}
    {tool : ToolName} (h : Carrying i d cp w) (ht : cp.taskId = taskId) (hrun : cp.status = .running)
    (hp : cp.pendingAction = none) :
    Walks rt.loopDetector i (rt.useTool taskId (absorb cp decision u) decision tool) (Worked i d) w := by
  have hact : cp.status.active = true := by rw [hrun]; rfl
  refine .ofExcept (fun x hx => ?_) fun e w' _ hr => ⟨cp, h.onward hr, hact, fun _ => hrun⟩
  obtain ⟨arguments, policy⟩ := x
  obtain ⟨hv, rfl⟩ := validateAndDecide_ok hx
  simp only
  split
  · rename_i reason hreason
    refine .save h hact (.loopStopped decision u tool reason hrun hp hreason) fun t w₁ _ h₁ => .record fun w₂ _ hr => ?_
    exact (h₁.onward hr).worked (by simp)
  · rename_i hreason
    refine .save h hact (.decided decision u tool hrun hp hreason) fun t w₁ _ h₁ => ?_
    exact runDecided_walks hb h₁ ht hrun hp rfl (by simp [decided]) hv

theorem applyDecision_walks (he : rt.engine = anyEngine) (hb : rt.backend = anyBackend) {taskId : String}
    {decision : AgentDecision} (h : Carrying i d cp w) (ht : cp.taskId = taskId) (hrun : cp.status = .running)
    (hp : cp.pendingAction = none) :
    Walks rt.loopDetector i (rt.applyDecision taskId cp decision) (Worked i d) w := by
  have hact : cp.status.active = true := by rw [hrun]; rfl
  unfold WorkflowRuntime.applyDecision
  rw [he]
  refine .bind (.steady (Q := fun _ w' => Onward i w w') rfl (fun _ _ _ => trivial) fun _ _ _ hr => hr) (fun usage w₁ _ hr₁ => ?_)
    fun e w' hr => ⟨cp, h.onward hr, hact, fun _ => hrun⟩
  refine .record fun w₂ _ hr₂ => ?_
  have h₂ := (h.onward hr₁).onward hr₂
  simp only
  split
  · rename_i haction
    refine .save h₂ hact (.completed decision usage hrun hp haction) fun t w₃ _ h₃ => .record fun w₄ _ hr => ?_
    exact (h₃.onward hr).worked (by simp)
  · refine .save h₂ hact (.declined decision usage hrun hp) fun t w₃ _ h₃ => .record fun w₄ _ hr => ?_
    exact (h₃.onward hr).worked (by simp)
  · split
    · exact h₂.raised hact fun _ => hrun
    · exact useTool_walks hb h₂ ht hrun hp

theorem decideNext_walks (he : rt.engine = anyEngine) (hb : rt.backend = anyBackend) {taskId : String}
    (h : Carrying i d cp w) (ht : cp.taskId = taskId) (hact : cp.status.active = true) (hp : cp.pendingAction = none) :
    Walks rt.loopDetector i (rt.decideNext taskId cp) (Worked i d) w := by
  unfold WorkflowRuntime.decideNext
  rw [he]
  refine .save h hact (.start hact hp) fun t w₁ _ h₁ => .record fun w₂ _ hr₂ => ?_
  have h₂ := h₁.onward hr₂
  refine .attempt (.steady (Q := fun _ w' => Onward i w₂ w') rfl (fun _ _ _ => trivial) fun _ _ _ hr => hr) fun o w₃ _ hr₃ => ?_
  have h₃ := h₂.onward hr₃
  cases o with
  | error e =>
    simp only
    split
    · rename_i hret
      refine .save h₃ rfl (.modelRetry e.message rfl hp) fun t w₄ _ h₄ => .record fun w₅ _ hr => ?_
      exact (h₄.onward hr).raised rfl fun hperm => by rw [not_permanent_of_retryable hret] at hperm; cases hperm
    · exact h₃.raised rfl fun _ => rfl
  | ok decision => exact applyDecision_walks he hb h₃ ht rfl hp

theorem process_walks (he : rt.engine = anyEngine) (hb : rt.backend = anyBackend) (h : phase i w.journal = .holding d none) :
    Walks rt.loopDetector i (rt.process d.taskId) (Worked i d) w := by
  refine .bind (R := fun o w' => ∃ st, o = .ok st ∧ Carrying i d st w' ∧ StateOk Set.univ d.taskId st ∧ Cleared d st w')
    (.bind (read_walks h) (fun o w₁ _ hq => ?_) fun e w₁ hq => ?_) (fun cp w₁ _ hq => ?_) fun e w₁ hq => ?_
  · obtain ⟨st, e, hc, hok, hclear⟩ := hq
    cases e
    exact .ret fun w' hr => ⟨st, rfl, hc.onward hr, hok, hclear.onward hr⟩
  · obtain ⟨st, e, -⟩ := hq
    cases e
  · obtain ⟨st, e, hc, hok, hclear⟩ := hq
    cases e
    split
    · rename_i hstop
      refine hc.worked fun hrun => ?_
      simp [WorkflowState.terminal, hrun, WorkflowStatus.terminal] at hstop
    · rename_i hrun
      have hact : cp.status.active = true := active_of_running hrun
      split
      · rename_i pending hp
        exact resumeApprovedAction_walks hb hc hact hp hclear
      · rename_i hp
        exact decideNext_walks he hb hc hok.task hact hp
  · obtain ⟨st, e, -⟩ := hq
    cases e

/-! ## The worker -/

/-- Where a thread may stop: it owes nothing, or only to a workflow that is stuck, and a
    delivery it still holds is not spent. -/
def Leavable (i : ThreadId) (w : World) : Prop :=
  phase i w.journal = .free ∨
  (∃ d seen, phase i w.journal = .holding d seen ∧ ∀ st, seen = some st → st.status.active = true) ∨
  (phase i w.journal).owes = true ∧ ∃ taskId, concerning i w.journal = some taskId ∧ Stuck w taskId

theorem Leavable.onward (h : Leavable i w) (hr : Onward i w w') : Leavable i w' := by
  unfold Leavable
  rw [hr.phase, hr.concerning]
  refine h.imp_right (Or.imp_right fun h => ⟨h.1, ?_⟩)
  obtain ⟨taskId, ht, hs⟩ := h.2
  exact ⟨taskId, ht, hr.stuck taskId hs⟩

/-- A program of steady calls between two points where a thread may stop. -/
theorem Walks.leavable {p : Py α} (hp : p.Makes fun c => c.steady = true ∧ ∀ w', DrivenObs det i w' c) (h : Leavable i w) :
    Walks det i p (fun _ w' => Leavable i w') w := (of_makes hp).mono fun _ _ _ hr => h.onward hr

theorem free_walks {p : Py α} (hp : p.Makes fun c => c.steady = true ∧ ∀ w', DrivenObs det i w' c)
    (h : phase i w.journal = .free) : Walks det i p (fun _ w' => Leavable i w') w := .leavable hp (.inl h)

/-- The next delivery is queued by the thread that owes it. -/
theorem enqueue_walks {taskId : String} {n : Nat} (h : phase i w.journal = .owing) (ht : concerning i w.journal = some taskId) :
    Walks det i (onStore (.enqueue taskId n)) (fun o w' => (∃ m, o = .ok m) ∧ phase i w'.journal = .free) w := by
  refine .perform (fun w₁ hr _ => ⟨trivial, hr.phase.trans h, hr.concerning.trans ht⟩) fun w₁ r w' hr hi hm _ => ?_
  have hp := hr.phase.trans h
  have hknown := hi.owed i taskId (hr.concerning.trans ht) (by rw [hp]; rfl)
  obtain ⟨t, s', he, -⟩ := hm.effect
  rcases SQLiteStore.enqueue_cases he with ⟨row, -, -, -, -, rfl, -⟩ | ⟨-, -, rfl, -⟩ | ⟨hn, -⟩
  · exact ⟨⟨_, rfl⟩, hm.phase⟩
  · exact ⟨⟨_, rfl⟩, hm.phase⟩
  · exact absurd hn hknown

/-- A worker acknowledges its delivery. -/
theorem acknowledge_walks (h : Carrying i d cp w) : Walks det i (onStore (.acknowledge d.id))
    (fun o w' => o = .ok () ∧ phase i w'.journal = (if cp.status = .queued then .owing else if cp.status = .running then .failing none else .free) ∧
      concerning i w'.journal = some d.taskId ∧ ∀ taskId, Stuck w taskId → Stuck w' taskId) w := by
  refine .perform (fun w₁ hr _ => ⟨trivial, d, cp, hr.phase.trans h.phase, rfl⟩) fun w₁ r w' hr hi hm _ => ?_
  have hp := hr.phase.trans h.phase
  obtain ⟨t, s', he, -⟩ := hm.effect
  obtain ⟨rfl, rfl⟩ := Prod.mk.inj he
  refine ⟨rfl, ?_, (hm.concerning rfl).trans (holding_concerning hp), fun taskId hs => hm.stuck _ (hr.stuck _ hs)⟩
  rw [hm.phase, hp]; rfl

/-- How the body of the `try` ends. -/
def Handled (i : ThreadId) (d : QueueDelivery) : Except PyError Unit → World → Prop
  | .ok (), w => Leavable i w
  | .error e, w => ∃ cp, Carrying i d cp w ∧ cp.status.active = true ∧ (e.isPermanent = true → cp.status = .running)

theorem processDelivery_walks (he : rt.engine = anyEngine) (hb : rt.backend = anyBackend)
    (h : phase i w.journal = .holding d none) :
    Walks rt.loopDetector i (processDelivery rt config d) (Handled i d) w := by
  refine .bind (process_walks he hb h) (fun st w₁ _ hq => ?_) fun e w₁ hq => hq
  rcases hq with ⟨hc, hrun⟩ | ⟨hne, ⟨cp, hc⟩, hs⟩
  · refine .bind (acknowledge_walks hc) (fun _ w₂ _ hq => ?_) (fun e w₂ hq => by cases hq.1)
    obtain ⟨-, hp, ht, -⟩ := hq
    split
    · rename_i hst
      refine .bind (enqueue_walks (by rw [hp, if_pos hst]) (by rw [hc.task]; exact ht)) (fun _ w₃ _ hq => ?_) fun e w₃ hq => ?_
      · exact .ret fun w' hr => Leavable.onward (.inl hq.2) hr
      · obtain ⟨⟨m, e⟩, -⟩ := hq; cases e
    · rename_i hst
      refine .ret fun w' hr => Leavable.onward (.inl ?_) hr
      rw [hp, if_neg hst, if_neg hrun]
  · refine .bind (acknowledge_walks hc) (fun _ w₂ _ hq => ?_) (fun e w₂ hq => by cases hq.1)
    obtain ⟨-, hp, ht, hkept⟩ := hq
    rw [if_neg hne]
    refine .ret fun w' hr => Leavable.onward ?_ hr
    -- the action was not approved: the thread owes only a workflow that is stuck
    by_cases hst : cp.status = .queued
    · exact .inr (.inr ⟨by rw [hp, if_pos hst]; rfl, d.taskId, ht, hkept _ hs⟩)
    · by_cases hrun : cp.status = .running
      · exact .inr (.inr ⟨by rw [hp, if_neg hst, if_pos hrun]; rfl, d.taskId, ht, hkept _ hs⟩)
      · exact .inl (by rw [hp, if_neg hst, if_neg hrun])

/-- What a read of a checkpoint says. -/
theorem Moved.read {taskId : String} {r : Except PyError (Option WorkflowState)} (hi : DrivenInv w)
    (h : Moved i (.store (.getWorkflow taskId)) r w w') : ∃ o, r = .ok o ∧
      ∀ st, o = some st → Copy st w'.store ∧ StateOk Set.univ taskId st := by
  have hl := h.later
  obtain ⟨t, s', he, -⟩ := h.effect
  obtain ⟨rfl, rfl⟩ := Prod.mk.inj he
  refine ⟨_, rfl, fun st hst => ?_⟩
  obtain ⟨row, hr, rfl⟩ := SQLiteStore.getWorkflow_some hst
  have hok := hi.store.state taskId row hr
  exact ⟨Copy.later ⟨row, by rw [hok.task]; exact hr, (hi.store.version taskId row hr).ge, fun _ => rfl⟩ hl, hok⟩

/-- A thread that holds and owes nothing reads a checkpoint. -/
theorem lookup_walks {taskId : String} (h : phase i w.journal = .free) :
    Walks det i (onStore (.getWorkflow taskId)) (fun o w' => phase i w'.journal = .free ∧
      concerning i w'.journal = concerning i w.journal ∧
      ∃ x, o = .ok x ∧ ∀ st, x = some st → Copy st w'.store ∧ StateOk Set.univ taskId st) w := by
  refine .perform (fun w₁ hr _ => ⟨trivial, by rw [hr.phase, h]; trivial⟩) fun w₁ r w' hr hi hm _ => ?_
  obtain ⟨o, rfl, hread⟩ := hm.read hi
  exact ⟨by rw [hm.phase, hr.phase, h]; rfl, (hm.concerning rfl).trans hr.concerning, o, rfl, hread⟩

/-- A thread that holds and owes nothing saves a checkpoint as ended. -/
theorem endSave_walks (h : phase i w.journal = .free) (hc : Copy cp w.store) (hch : Change det Set.univ cp st)
    (hwait : st.status ≠ .waitingForApproval) (hend : st.status.active = false) :
    Walks det i (save st) (fun _ w' => phase i w'.journal = .free) w := by
  refine .perform (fun w₁ hr _ => ?_) fun w₁ r w' hr _ hm _ => ?_
  · have hp := hr.phase.trans h
    refine save_obs (hc.later hr.later) ⟨hch, ?_⟩ fun r hp' => by rw [hp] at hp'; cases hp'
    rw [hp]
    exact ⟨hwait, fun hact => by rw [hend] at hact; cases hact⟩
  · obtain ⟨t, s', he, -⟩ := hm.effect
    rw [hm.phase, hr.phase, h]
    rcases SQLiteStore.saveWorkflow_cases he with ⟨row, -, -, rfl, -⟩ | ⟨⟨m, rfl⟩, -⟩
    · have : st.status ≠ .queued := by intro e; rw [e] at hend; cases hend
      simp [Phase.after, this]
    · rfl

/-- A thread saves the workflow it has to fail. -/
theorem failSave_walks (h : phase i w.journal = .failing (some cp.version)) (ht : concerning i w.journal = some cp.taskId)
    (hc : Copy cp w.store) (hch : Change det Set.univ cp st) (hst : st.status = .failed) :
    Walks det i (save st) (fun _ w' => phase i w'.journal = .free) w := by
  obtain ⟨htask, hver⟩ := hch.same
  refine .perform (fun w₁ hr _ => ?_) fun w₁ r w' hr _ hm _ => ?_
  · have hp := hr.phase.trans h
    have ht₁ : concerning i w₁.journal = some st.taskId := by rw [hr.concerning, ht, htask]
    refine save_obs (hc.later hr.later) ⟨hch, ?_⟩ fun r hp' => ?_
    · rw [hp]; exact ⟨ht₁, by rw [hver], hst⟩
    · rw [hp] at hp'; cases hp'; exact ⟨ht₁, by rw [hver]⟩
  · rw [hm.phase, hr.phase, h]
    cases r <;> rfl

theorem onRetryable_walks {e : PyError} (h : Carrying i d cp w) (hcp : cp.status.active = true) :
    Walks det i (onRetryable config d e) (fun _ w' => Leavable i w') w := by
  refine .bind (R := fun o w' => (∃ b, o = .ok b) ∧ phase i w'.journal = .free ∨ (∃ e, o = .error e) ∧ Leavable i w') ?_ ?_ ?_
  · refine .perform (fun w₁ hr _ => ⟨trivial, cp, hr.phase.trans h.phase, hcp⟩) fun w₁ r w' hr _ hm _ => ?_
    have hp := hm.phase
    rw [hr.phase, h.phase] at hp
    cases r with
    | ok b => exact .inl ⟨⟨b, rfl⟩, hp⟩
    | error e =>
      refine .inr ⟨⟨e, rfl⟩, .inr (.inl ⟨d, some cp, hp, fun st e => ?_⟩)⟩
      cases e; exact hcp
  · intro dead w₁ _ hq
    have hp : phase i w₁.journal = .free := by
      rcases hq with ⟨-, hp⟩ | ⟨⟨e, he⟩, -⟩
      · exact hp
      · cases he
    split
    · refine .bind (lookup_walks hp) (fun o w₂ _ hq => ?_) fun e w₂ hq => .inl hq.1
      obtain ⟨hp₂, -, o', e', hread⟩ := hq
      cases e'
      cases o with
      | none => exact .ret fun _ hr => Leavable.onward (.inl hp₂) hr
      | some st =>
        simp only
        split
        · exact .ret fun _ hr => Leavable.onward (.inl hp₂) hr
        · rename_i hterm
          refine .bind (endSave_walks hp₂ (hread st rfl).1 (.deadLettered e.message (by simpa [WorkflowState.terminal] using hterm))
            (by simp) rfl) (fun st' w₃ _ hp₃ => ?_) fun e w₃ hp₃ => .inl hp₃
          exact free_walks (Prog.makes_perform ⟨rfl, fun _ => ⟨trivial, trivial⟩⟩) hp₃
    · exact .ret fun _ hr => Leavable.onward (.inl hp) hr
  · intro e w₁ hq
    rcases hq with ⟨⟨b, hb⟩, -⟩ | ⟨-, hl⟩
    · cases hb
    · exact hl

theorem onPermanent_walks {e : PyError} (h : Carrying i d cp w) (hcp : cp.status = .running) :
    Walks det i (onPermanent d e) (fun _ w' => Leavable i w') w := by
  refine .bind (acknowledge_walks h) (fun _ w₁ _ hq => ?_) fun e w₁ hq => by cases hq.1
  obtain ⟨-, hp, ht, -⟩ := hq
  rw [hcp] at hp
  refine .bind (R := fun o w' => ∃ x, o = .ok x ∧ concerning i w'.journal = some d.taskId ∧
      phase i w'.journal = x.elim .free (fun st => if st.terminal then .free else .failing (some st.version)) ∧
      ∀ st, x = some st → Copy st w'.store ∧ StateOk Set.univ d.taskId st) ?_ (fun o w₂ _ hq => ?_) fun e w₂ hq => ?_
  · refine .perform (fun w₂ hr _ => ⟨trivial, by rw [hr.phase, hp]; exact ⟨hr.concerning.trans ht, rfl⟩⟩) fun w₂ r w' hr hi hm _ => ?_
    obtain ⟨o, rfl, hread⟩ := hm.read hi
    refine ⟨o, rfl, ((hm.concerning rfl).trans hr.concerning).trans ht, ?_, hread⟩
    rw [hm.phase, hr.phase, hp]; rfl
  · obtain ⟨x, e', ht₂, hp₂, hread⟩ := hq
    cases e'
    cases o with
    | none => exact .ret fun _ hr => Leavable.onward (.inl hp₂) hr
    | some st =>
      simp only [Option.elim_some] at hp₂ ⊢
      split
      · rename_i hterm
        rw [if_pos hterm] at hp₂
        exact .ret fun _ hr => Leavable.onward (.inl hp₂) hr
      · rename_i hterm
        rw [if_neg hterm] at hp₂
        refine .bind (failSave_walks hp₂ (by rw [(hread st rfl).2.task]; exact ht₂) (hread st rfl).1
          (.failed e.message (by simpa [WorkflowState.terminal] using hterm)) rfl) (fun st' w₃ _ hp₃ => ?_) fun e w₃ hp₃ => .inl hp₃
        exact free_walks (Prog.makes_perform ⟨rfl, fun _ => ⟨trivial, trivial⟩⟩) hp₃
  · obtain ⟨x, e', -⟩ := hq
    cases e'

theorem handleDelivery_walks (he : rt.engine = anyEngine) (hb : rt.backend = anyBackend)
    (h : phase i w.journal = .holding d none) :
    Walks rt.loopDetector i (handleDelivery rt config d) (fun _ w' => Leavable i w') w := by
  refine .attempt (processDelivery_walks he hb h) fun o w₁ _ hq => ?_
  cases o with
  | ok u => exact .ret fun _ hr => Leavable.onward hq hr
  | error e =>
    obtain ⟨cp, hc, hact, hperm⟩ := hq
    simp only
    split
    · exact onRetryable_walks hc hact
    · split
      · rename_i hp
        exact onPermanent_walks hc (hperm hp)
      · refine .raise fun _ hr => Leavable.onward (.inr (.inl ⟨d, some cp, hc.phase, fun st e => ?_⟩)) hr
        cases e; exact hact

theorem updateDepth_walks (h : Leavable i w) : Walks det i updateDepth (fun _ w' => Leavable i w') w :=
  .leavable (Prog.makes_bind (Prog.makes_perform ⟨rfl, fun _ => ⟨trivial, trivial⟩⟩) fun _ => trivial) h

theorem runOnce_walks (he : rt.engine = anyEngine) (hb : rt.backend = anyBackend) (workerId : String)
    (h : phase i w.journal = .free) :
    Walks rt.loopDetector i (runOnce rt config workerId) (fun _ w' => Leavable i w') w := by
  refine .bind (R := fun o w' => ∃ x, o = .ok x ∧ phase i w'.journal = x.elim .free (Phase.holding · none)) ?_
    (fun o w₁ _ hq => ?_) fun e w₁ hq => ?_
  · refine .perform (fun w₁ hr _ => ⟨trivial, hr.phase.trans h⟩) fun w₁ r w' hr hi hm _ => ?_
    obtain ⟨t, s', he, -⟩ := hm.effect
    obtain ⟨rfl, -⟩ := Prod.mk.inj he
    refine ⟨_, rfl, ?_⟩
    rw [hm.phase, hr.phase, h]
    cases (w₁.store.claim t workerId config.queueLeaseSeconds).1 <;> rfl
  · obtain ⟨x, e, hp⟩ := hq
    cases e
    cases o with
    | none =>
      refine .bind (updateDepth_walks (.inl hp)) (fun _ w₂ _ hq => ?_) fun e w₂ hq => hq
      exact .ret fun _ hr => Leavable.onward hq hr
    | some d =>
      refine .attempt (handleDelivery_walks he hb hp) fun o w₂ _ hq => ?_
      refine .bind (Walks.leavable (Prog.makes_perform ⟨rfl, fun _ => trivial⟩) hq) (fun _ w₃ _ hq => ?_) fun e w₃ hq => hq
      split
      · exact .raise fun _ hr => Leavable.onward hq hr
      · refine .bind (updateDepth_walks hq) (fun _ w₄ _ hq => ?_) fun e w₄ hq => hq
        exact .ret fun _ hr => Leavable.onward hq hr
  · obtain ⟨x, e, -⟩ := hq
    cases e

/-! ## The control plane -/

/-- A call that a thread with nothing to settle makes, and that leaves its phase alone. -/
theorem Walks.free {Q : Except PyError c.Ret → World → Prop} (h : phase i w.journal = .free)
    (hc : ∀ r : Except PyError c.Ret, Phase.free.after c r = .free)
    (ho : ∀ w₁, Onward i w w₁ → DrivenInv w₁ → phase i w₁.journal = .free → DrivenObs det i w₁ c)
    (hQ : ∀ r w', phase i w'.journal = .free → Q r w') : Walks det i (.perform c) Q w :=
  .perform (fun w₁ hr hi => ho w₁ hr hi (hr.phase.trans h)) fun w₁ r w' hr _ hm _ => hQ r w' (by rw [hm.phase, hr.phase, h]; exact hc r)

theorem createIncident_walks (taskId goal scenarioId : String) (h : phase i w.journal = .free) :
    Walks det i (createIncident config taskId goal scenarioId) (fun _ w' => Leavable i w') w := by
  refine .bind (.free (Q := fun _ w' => phase i w'.journal = .free) h (fun _ => rfl) (fun _ _ _ _ => trivial)
    fun _ _ hp => hp) (fun now w₁ _ hp => ?_) fun e w₁ hp => .inl hp
  exact .free hp (fun _ => rfl) (fun w₁ _ _ hp => ⟨⟨rfl, rfl⟩, hp⟩) fun _ _ hp => .inl hp

theorem replay_walks (deliveryId : Nat) (taskId actor reason : String) (h : phase i w.journal = .free) :
    Walks det i (replay config deliveryId taskId actor reason) (fun _ w' => Leavable i w') w := by
  refine .bind (.free (Q := fun _ w' => phase i w'.journal = .free) h (fun _ => rfl) (fun _ _ _ hp => ⟨trivial, hp⟩)
    fun _ _ hp => hp) (fun o w₁ _ hp => ?_) fun e w₁ hp => .inl hp
  cases o with
  | none => exact .raise fun _ hr => Leavable.onward (.inl hp) hr
  | some st => exact .ret fun _ hr => Leavable.onward (.inl hp) hr

theorem heartbeatTick_walks (workerId : String) (delivery : QueueDelivery) (h : phase i w.journal = .free) :
    Walks det i (heartbeatTick config workerId delivery) (fun _ w' => Leavable i w') w :=
  free_walks (Prog.makes_bind (Prog.makes_perform ⟨rfl, fun _ => ⟨trivial, trivial⟩⟩)
    fun _ => Prog.makes_perform ⟨rfl, fun _ => ⟨trivial, trivial⟩⟩) h

/-- What the control plane knows of the checkpoint it works on. -/
structure Operating (i : ThreadId) (taskId : String) (cp : WorkflowState) (w : World) : Prop where
  phase : phase i w.journal = .free
  concerning : concerning i w.journal = some taskId
  copy : Copy cp w.store
  state : StateOk Set.univ taskId cp

theorem required_walks {taskId : String} (h : phase i w.journal = .free) (ht : concerning i w.journal = some taskId) :
    Walks det i (required taskId) (fun o w' => match o with
      | .ok st => Operating i taskId st w'
      | .error _ => Leavable i w') w := by
  refine .bind (lookup_walks h) (fun o w₁ _ hq => ?_) fun e w₁ hq => .inl hq.1
  obtain ⟨hp, ht₁, x, e, hread⟩ := hq
  cases e
  cases o with
  | none => exact .raise fun _ hr => Leavable.onward (.inl hp) hr
  | some st =>
    refine .ret fun w' hr => ?_
    exact ⟨hr.phase.trans hp, hr.concerning.trans (ht₁.trans ht), (hread st rfl).1.later hr.later, (hread st rfl).2⟩

/-- The resolution of an approval. -/
theorem resolve_walks {taskId a actor : String} {b : Bool} {reason : Option String} (h : Operating i taskId cp w) :
    Walks det i (onStore (.resolveApproval taskId a b actor reason)) (fun o w' => Operating i taskId cp w' ∧
      (o = .ok () → w'.store.approvalStatus taskId a = some (if b then .approved else .rejected))) w := by
  refine .perform (fun _ _ _ => ⟨trivial, trivial⟩) fun w₁ r w' hr hi hm _ => ?_
  have hon := hr.trans (hm.onward rfl)
  refine ⟨⟨hon.phase.trans h.phase, hon.concerning.trans h.concerning, h.copy.later hon.later, h.state⟩, fun e => ?_⟩
  subst e
  obtain ⟨t, s', he, hl⟩ := hm.effect
  rcases SQLiteStore.resolveApproval_cases he with ⟨row, hrow, -, -, hg, -⟩ | ⟨⟨m, e⟩, -⟩
  · have := hl.resolved (taskId, a) _ ((hg _).trans (if_pos rfl)) (by simp only; split <;> decide)
    simp [SQLiteStore.approvalStatus, this]
  · cases e

/-- An approving thread saves the workflow as queued, and owes its delivery. -/
theorem approveSave_walks {taskId : String} {pending : PendingAction} (h : Operating i taskId cp w)
    (hst : cp.status = .waitingForApproval) (hp : cp.pendingAction = some pending)
    (happ : w.store.approvalStatus taskId pending.actionId = some .approved) :
    Walks det i (save { cp with status := .queued }) (fun o w' => match o with
      | .ok _ => phase i w'.journal = .owing ∧ concerning i w'.journal = some taskId
      | .error _ => phase i w'.journal = .free) w := by
  have htask := h.state.task
  refine .perform (fun w₁ hr _ => ?_) fun w₁ r w' hr _ hm _ => ?_
  · have hfree := hr.phase.trans h.phase
    refine save_obs (h.copy.later hr.later) ⟨.approved pending hst hp, ?_⟩ fun r hp' => by rw [hfree] at hp'; cases hp'
    rw [hfree]
    refine ⟨by simp, fun _ => ⟨rfl, hst, ?_, fun p hp' => ?_⟩⟩
    · rw [hr.concerning, h.concerning]; exact congrArg some htask.symm
    · obtain rfl : pending = p := Option.some.inj (hp.symm.trans hp')
      show w₁.store.approvalStatus cp.taskId _ = _
      rw [htask]; exact approved_later happ hr.later
  · obtain ⟨t, s', he, -⟩ := hm.effect
    have hphase := hm.phase
    rw [hr.phase, h.phase] at hphase
    rcases SQLiteStore.saveWorkflow_cases he with ⟨row, -, -, rfl, -⟩ | ⟨⟨m, rfl⟩, -⟩
    · exact ⟨hphase, (hm.concerning rfl).trans (hr.concerning.trans h.concerning)⟩
    · exact hphase

theorem approve_walks {taskId actor : String} {reason : Option String} (h : phase i w.journal = .free)
    (ht : concerning i w.journal = some taskId) :
    Walks det i (approve config taskId actor reason) (fun _ w' => Leavable i w') w := by
  refine .bind (required_walks h ht) (fun cp w₁ _ hq => ?_) fun e w₁ hq => hq
  split
  · rename_i pending hst hp
    refine .bind (resolve_walks (a := pending.actionId) hq) (fun _ w₂ _ hq => ?_) fun e w₂ hq => .inl hq.1.phase
    obtain ⟨hw, happ⟩ := hq
    refine .bind (approveSave_walks hw hst hp (happ rfl)) (fun st w₃ _ hq => ?_) fun e w₃ hq => .inl hq
    refine .record fun w₄ _ hr => ?_
    refine .bind (enqueue_walks (hr.phase.trans hq.1) (hr.concerning.trans hq.2)) (fun n w₅ _ hq => ?_) fun e w₅ hq => .inl hq.2
    exact .ret fun _ hr => Leavable.onward (.inl hq.2) hr
  · exact .raise fun _ hr => Leavable.onward (.inl hq.phase) hr

theorem reject_walks {taskId actor : String} {reason : Option String} (h : phase i w.journal = .free)
    (ht : concerning i w.journal = some taskId) :
    Walks det i (reject taskId actor reason) (fun _ w' => Leavable i w') w := by
  refine .bind (required_walks h ht) (fun cp w₁ _ hq => ?_) fun e w₁ hq => hq
  split
  · rename_i pending hst hp
    refine .bind (resolve_walks hq) (fun _ w₂ _ hq => ?_) fun e w₂ hq => .inl hq.1.phase
    refine .bind (endSave_walks hq.1.phase hq.1.copy (.rejected pending _ hst hp) (by simp) rfl) (fun st w₃ _ hq => ?_)
      fun e w₃ hq => .inl hq
    refine .record fun w₄ _ hr => ?_
    exact .ret fun _ hr' => Leavable.onward (.inl hq) (hr.trans hr')
  · exact .raise fun _ hr => Leavable.onward (.inl hq.phase) hr

/-- A program followed by a reply. -/
theorem Walks.reply {p : Py α} {f : α → Reply} (h : Walks det i p (fun _ w' => Leavable i w') w) :
    Walks det i (p.bind fun a => .ret (f a)) (fun _ w' => Leavable i w') w :=
  .bind h (fun _ _ _ hq => .ret fun _ hr => Leavable.onward hq hr) fun _ _ hq => hq

theorem operation_walks (he : rt.engine = anyEngine) (hb : rt.backend = anyBackend) (op : Operation)
    (h : phase i w.journal = .free) (ht : concerning i w.journal = op.taskId) :
    Walks rt.loopDetector i (op.program rt config) (fun _ w' => Leavable i w') w := by
  cases op with
  | runOnce workerId => exact (runOnce_walks he hb workerId h).reply
  | heartbeatTick workerId delivery => exact (heartbeatTick_walks workerId delivery h).reply
  | createIncident taskId goal scenarioId => exact (createIncident_walks taskId goal scenarioId h).reply
  | approve taskId actor reason => exact (approve_walks h ht).reply
  | reject taskId actor reason => exact (reject_walks h ht).reply
  | replay deliveryId taskId actor reason => exact (replay_walks deliveryId taskId actor reason h).reply

/-! ## The system -/

/-- An entry that starts or ends an operation of thread `i`. -/
structure Entry.Resets (i : ThreadId) (e : Entry) : Prop where
  own : ∀ es, phase i (e :: es) = .free
  other : ∀ j, j ≠ i → ∀ es, phase j (e :: es) = phase j es ∧ concerning j (e :: es) = concerning j es
  claimant : ∀ id es, claimant id (e :: es) = claimant id es

theorem began_resets (i : ThreadId) (op : Operation) : (Entry.began i op).Resets i where
  own es := by simp [phase]
  other j hj es := by simp [phase, concerning_cons, Entry.concerns, Ne.symm hj]
  claimant id es := rfl

theorem ended_resets (i : ThreadId) (o : Except PyError Reply) : (Entry.ended i o).Resets i where
  own es := by simp [phase]
  other j hj es := by simp [phase, concerning_cons, Entry.concerns, Ne.symm hj]
  claimant id es := rfl

theorem Leavable.not_spent (h : Leavable i w) {d : QueueDelivery} {st : WorkflowState}
    (hp : phase i w.journal = .holding d (some st)) (hst : st.status.active = false) : False := by
  rcases h with hf | ⟨d', seen, hh, hact⟩ | ⟨ho, -⟩
  · rw [hp] at hf; cases hf
  · rw [hp] at hh; cases hh
    rw [hact st rfl] at hst; cases hst
  · rw [hp] at ho; cases ho

variable {e : Entry}

theorem Stuck.reset (he : e.Resets i) (hl : Leavable i w) {taskId : String} (h : Stuck w taskId) :
    Stuck { w with journal := e :: w.journal } taskId := by
  obtain ⟨k, d, st, hp, hst, ht, hlost⟩ := h
  have hk : k ≠ i := by intro e; subst e; exact hl.not_spent hp hst
  exact ⟨k, d, st, by rw [(he.other k hk _).1]; exact hp, hst, ht, by rw [he.claimant]; exact hlost⟩

theorem spent_reset (he : e.Resets i) (hl : Leavable i w) {id : Nat} :
    Spent { w with journal := e :: w.journal } id ↔ Spent w id := by
  constructor
  · intro h
    obtain ⟨k, d, st, hp, hst, hd, hcl⟩ := h
    have hk : k ≠ i := by intro e; subst e; rw [he.own] at hp; cases hp
    exact ⟨k, d, st, by rw [← (he.other k hk _).1]; exact hp, hst, hd, by rw [← he.claimant id w.journal]; exact hcl⟩
  · intro h
    obtain ⟨k, d, st, hp, hst, hd, hcl⟩ := h
    have hk : k ≠ i := by intro e; subst e; exact hl.not_spent hp hst
    exact ⟨k, d, st, by rw [(he.other k hk _).1]; exact hp, hst, hd, by rw [he.claimant]; exact hcl⟩

/-- The drivers of a workflow that is not stuck are what they were. -/
theorem drives_reset (he : e.Resets i) (hl : Leavable i w) {taskId : String} (hs : ¬ Stuck w taskId) (x : Driver) :
    Drives { w with journal := e :: w.journal } taskId x ↔ Drives w taskId x := by
  cases x with
  | row id => simp only [Drives, spent_reset he hl]
  | thread k =>
    by_cases hk : k = i
    · subst hk
      have hnew : ¬ Drives { w with journal := e :: w.journal } taskId (.thread k) := by
        intro h
        have := h.2
        rw [he.own] at this; cases this
      refine iff_of_false hnew fun h => ?_
      obtain ⟨ht, ho⟩ := h
      rcases hl with hf | ⟨d, seen, hh, -⟩ | ⟨-, task, htask, hstuck⟩
      · rw [hf] at ho; cases ho
      · rw [hh] at ho; cases ho
      · rw [ht] at htask; cases htask
        exact hs hstuck
    · simp only [Drives, (he.other k hk _).1, (he.other k hk _).2]

theorem Good.reset (he : e.Resets i) (hl : Leavable i w) {taskId : String} (hs : ¬ Stuck w taskId) (h : Good w taskId) :
    Good { w with journal := e :: w.journal } taskId := by
  have hd := fun x => drives_reset (e := e) he hl hs x
  refine h.shrink (fun id st hr hst => ⟨st, hr, hst⟩) (fun x => (hd x).mp) ?_ (fun hh x hx => h.halted hh x ((hd x).mp hx))
  intro hact
  refine ⟨hact, fun x hx hx' => ⟨(hd x).mpr hx, ?_⟩⟩
  cases x with
  | row id => trivial
  | thread k =>
    intro v hv row hrow
    have hk : k ≠ i := by intro e; subst e; rw [he.own] at hv; cases hv
    rw [(he.other k hk _).1] at hv
    exact hx' v hv row hrow

theorem DrivenInv.reset (he : e.Resets i) (hl : Leavable i w) (hi : DrivenInv w) :
    DrivenInv { w with journal := e :: w.journal } where
  store := hi.store
  held k d seen hp := by
    have hk : k ≠ i := by intro e; subst e; rw [he.own] at hp; cases hp
    rw [(he.other k hk _).1] at hp
    exact hi.held k d seen hp
  known := hi.known
  owed k taskId ht ho := by
    have hk : k ≠ i := by intro e; subst e; rw [he.own] at ho; cases ho
    rw [(he.other k hk _).1] at ho
    rw [(he.other k hk _).2] at ht
    exact hi.owed k taskId ht ho
  good taskId := by
    by_cases hs : Stuck w taskId
    · exact .inl (hs.reset he hl)
    · exact .inr (((hi.good taskId).resolve_left hs).reset he hl hs)

theorem reset_keeps (he : e.Resets i) (hl : Leavable i w) (hi : DrivenInv w) :
    (driven det).Keeps i w () { w with journal := e :: w.journal } () :=
  ⟨hi.reset he hl, fun j hj => ⟨.refl _, (he.other j hj _).1, (he.other j hj _).2, fun _ hs => hs.reset he hl⟩⟩

theorem driven_sound (he : rt.engine = anyEngine) (hb : rt.backend = anyBackend) :
    Sound (system rt config .unspent) (driven rt.loopDetector) where
  enter := by
    intro i p w w' g henter hi hidle
    obtain ⟨op, rfl, -, rfl⟩ := henter
    refine ⟨(), reset_keeps (began_resets i op) (.inl hidle) hi, ?_⟩
    refine Safe.mono (operation_walks he hb op ((began_resets i op).own _) (by simp [concerning_cons, Entry.concerns])) ?_
    intro o w₁ _ hi₁ hl w₂ hw₂
    obtain rfl := hw₂
    exact ⟨(), reset_keeps (ended_resets i o) hl hi₁, (ended_resets i o).own _⟩
  crash := by
    intro i w w' g hx _
    exact hx.1.elim

theorem driven_init : DrivenInv World.init where
  store := storeOk_init
  held _ _ _ h := by cases h
  known _ _ h := by cases h
  owed _ _ h := by cases h
  good taskId := by
    have hrow : ∀ id st, rowStatus taskId World.init.store id ≠ some st := by
      intro id st h; cases h
    refine .inr ⟨fun id _ st _ h => absurd h (hrow id st), fun x y hx => ?_, fun h => ?_, fun h => ?_⟩
    · cases x with
      | row id => obtain ⟨st, h, -⟩ := hx; exact absurd h (hrow id st)
      | thread k => cases hx.1
    · obtain ⟨row, h, -⟩ := h; cases h
    · obtain ⟨row, h, -⟩ := h; cases h

end AgentResilience
