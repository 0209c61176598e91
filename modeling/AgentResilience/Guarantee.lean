/-
  AgentResilience.Guarantee — the programs keep the store's invariant under every
  interleaving. The protocol `lifecycle`: the invariant is `StoreOk`; a thread may rely
  on the store only moving `Later` and on nobody else changing its delivery; a store call
  must satisfy `StoreObs`, and a call of the backend whatever the parameter `backendObs`
  asks for.

  A `Guard` restricts what the engine may ask for. `MayExecute` is what the gateway knows
  when it invokes the backend: the arguments are validated, the tool is not
  `delete_database`, a production restart is approved.

  - `Framed i p R w`: thread `i` runs `p` safely, whatever the others do, moves the store
    forward only, and returns values that satisfy `R`.
  - `process_framed`, `runOnce_safe`, `operation_safe`: the programs, bottom up.
  - `lifecycle_sound`: the system keeps the protocol, for every backend that does.
-/
import AgentResilience.Lifecycle

namespace AgentResilience

open Interaction
open Interaction.Prog (attempt ofExcept throw)

/-! ## What the engine may ask for -/

structure Guard where
  asked : Set Arguments
  admits : SQLiteStore → String → ToolName → Arguments → Prop
  admits_asked : ∀ {s taskId tool arguments}, admits s taskId tool arguments → arguments ∈ asked
  admits_later : ∀ {s s' taskId tool arguments}, Later s s' → admits s taskId tool arguments →
    admits s' taskId tool arguments

/-- The answers of the engine the guard admits. -/
def Guard.allows (g : Guard) (s : SQLiteStore) : (c : Call) → Except PyError c.Ret → Prop
  | .decide state, .ok decision => ∀ tool validated policy, decision.asked = some tool →
      validateAndDecide tool decision.arguments.modelDump = .ok (validated, policy) →
      g.admits s state.taskId tool validated
  | _, _ => True

/-- The unrestricted system with an engine within the guard. -/
def Env.guarded (g : Guard) : Env where
  allows _ w c r := g.allows w.store c r

/-- What is known when the backend is invoked. -/
structure MayExecute (g : Guard) (s : SQLiteStore) (taskId : String) (tool : ToolName) (arguments : Arguments) : Prop where
  validated : Validated tool arguments
  possible : tool ≠ .deleteDatabase
  asked : arguments ∈ g.asked
  approved : ProductionRestart tool arguments → Approved taskId tool arguments s
  admitted : ¬ ProductionRestart tool arguments → g.admits s taskId tool arguments

theorem MayExecute.later {g : Guard} {s s' : SQLiteStore} {taskId : String} {tool : ToolName} {arguments : Arguments}
    (h : MayExecute g s taskId tool arguments) (hl : Later s s') : MayExecute g s' taskId tool arguments :=
  ⟨h.validated, h.possible, h.asked, fun hp => (h.approved hp).later hl, fun hn => g.admits_later hl (h.admitted hn)⟩

/-! ## The protocol -/

/-- From one world to a later one, thread `i` keeping its delivery. -/
structure Frame (i : ThreadId) (w w' : World) : Prop where
  later : Later w.store w'.store
  delivery : delivering i w'.journal = delivering i w.journal

theorem Frame.refl (i : ThreadId) (w : World) : Frame i w w := ⟨.refl _, rfl⟩

theorem Frame.trans {i : ThreadId} {w w' w'' : World} (h : Frame i w w') (h' : Frame i w' w'') : Frame i w w'' :=
  ⟨h.later.trans h'.later, h'.delivery.trans h.delivery⟩

/-- The calls of a tool backend. -/
def Call.ofBackend : Call → Bool
  | .execute .. | .aws _ => true
  | _ => false

def Call.ofStore : Call → Bool
  | .store _ => true
  | _ => false

theorem keepsDelivery_of_ofStore {c : Call} (h : c.ofStore = false) : c.keepsDelivery = true := by
  cases c <;> first | rfl | cases h

def CallObs (d : LoopDetector) (A : Set Arguments) (backendObs : ThreadId → Call → World → Prop) (i : ThreadId) (w : World) :
    Call → Prop
  | .store c => StoreObs d A c w.store
  | c => c.ofBackend = true → backendObs i c w

def lifecycle (d : LoopDetector) (g : Guard) (backendObs : ThreadId → Call → World → Prop) :
    Protocol ThreadId Call World Unit where
  Inv w _ := StoreOk g.asked w.store
  Rely i w _ w' _ := Frame i w w'
  Idle _ _ _ := True
  Obs i c w _ := CallObs d g.asked backendObs i w c
  rely_refl i w _ := .refl i w
  rely_trans h h' := h.trans h'
  idle_stable _ h := h

variable {d : LoopDetector} {g : Guard} {backendObs : ThreadId → Call → World → Prop} {env : Env}

/-- What a call does to the store. -/
theorem calls_later {i : ThreadId} {c : Call} {w w' : World} {r : Except PyError c.Ret} {A : Set Arguments}
    (hi : StoreOk A w.store) (h : calls env i c w r w') : Later w.store w'.store := by
  obtain ⟨t, s', -, -, he, rfl⟩ := h
  cases c with
  | store c => obtain rfl := congrArg Prod.snd he; exact apply_later hi c t
  | clock | awaitHeartbeat => obtain ⟨-, rfl⟩ := he; exact .refl _
  | _ => obtain rfl := he; exact .refl _

theorem calls_storeOk {i : ThreadId} {c : Call} {w w' : World} {r : Except PyError c.Ret} {A : Set Arguments}
    (hi : StoreOk A w.store) (ho : CallObs d A backendObs i w c) (h : calls env i c w r w') : StoreOk A w'.store := by
  obtain ⟨t, s', -, -, he, rfl⟩ := h
  cases c with
  | store c => obtain rfl := congrArg Prod.snd he; exact apply_storeOk hi c t ho
  | clock | awaitHeartbeat => obtain ⟨-, rfl⟩ := he; exact hi
  | _ => obtain rfl := he; exact hi

theorem calls_keeps {i : ThreadId} {c : Call} {w w' : World} {r : Except PyError c.Ret} (hi : StoreOk g.asked w.store)
    (ho : CallObs d g.asked backendObs i w c) (h : calls env i c w r w') :
    (lifecycle d g backendObs).Keeps i w () w' () := by
  refine ⟨calls_storeOk hi ho h, fun j hj => ⟨calls_later hi h, ?_⟩⟩
  obtain ⟨t, s', -, -, -, rfl⟩ := h
  exact delivering_did_other (Ne.symm hj) c r w.journal

theorem calls_frame {i : ThreadId} {c : Call} {w w' : World} {r : Except PyError c.Ret} {A : Set Arguments}
    (hi : StoreOk A w.store) (hc : c.keepsDelivery = true) (h : calls env i c w r w') : Frame i w w' := by
  refine ⟨calls_later hi h, ?_⟩
  obtain ⟨t, s', -, -, -, rfl⟩ := h
  exact delivering_did hc r w.journal

/-! ## Framed programs -/

section
variable (d g backendObs env)

/-- Thread `i` runs `p` safely, only moves the store forward, and returns values in `R`. -/
def Framed {α : Type} (i : ThreadId) (p : Py α) (R : α → World → Prop) (w : World) : Prop :=
  Safe (calls env) (lifecycle d g backendObs) i p (fun o w' _ => Frame i w w' ∧ ∀ a, o = .ok a → R a w') w ()

end

variable {α β : Type} {i : ThreadId} {w : World}

theorem Framed.mono {p : Py α} {R R' : α → World → Prop} (h : Framed d g backendObs env i p R w)
    (hR : ∀ a w', Frame i w w' → R a w' → R' a w') : Framed d g backendObs env i p R' w :=
  Safe.mono h fun _ w' _ _ hq => ⟨hq.1, fun a e => hR a w' hq.1 (hq.2 a e)⟩

/-- Others may have moved the world before the program starts. -/
theorem Framed.intro {p : Py α} {R : α → World → Prop}
    (h : ∀ w', Frame i w w' → StoreOk g.asked w'.store → Framed d g backendObs env i p R w') :
    Framed d g backendObs env i p R w :=
  Safe.intro fun w' _ hf hi => Safe.mono (h w' hf hi) fun _ _ _ _ hq => ⟨hf.trans hq.1, hq.2⟩

theorem Framed.ret {a : α} {R : α → World → Prop} (h : ∀ w', Frame i w w' → R a w') :
    Framed d g backendObs env i (.ret a) R w := by
  intro w' _ hf _
  refine ⟨hf, fun b e => ?_⟩
  cases e; exact h w' hf

theorem Framed.raise {e : PyError} {R : α → World → Prop} : Framed d g backendObs env i (.raise e : Py α) R w :=
  fun _ _ hf _ => ⟨hf, fun _ e => by cases e⟩

theorem Framed.ofExcept {x : Except PyError α} {R : α → World → Prop} (h : ∀ a, x = .ok a → ∀ w', Frame i w w' → R a w') :
    Framed d g backendObs env i (.ofExcept x) R w := by
  cases x with
  | ok a => exact .ret (h a rfl)
  | error e => exact .raise

theorem Framed.bind {p : Py α} {f : α → Py β} {R : α → World → Prop} {R' : β → World → Prop}
    (hp : Framed d g backendObs env i p R w)
    (hf : ∀ a w', Frame i w w' → R a w' → Framed d g backendObs env i (f a) R' w') :
    Framed d g backendObs env i (p.bind f) R' w := by
  refine Safe.bind (Safe.mono hp fun o w' _ _ hq => ?_)
  cases o with
  | ok a => exact Safe.mono (hf a w' hq.1 (hq.2 a rfl)) fun _ _ _ _ h => ⟨hq.1.trans h.1, h.2⟩
  | error e => exact ⟨hq.1, fun _ e => by cases e⟩

theorem Framed.attempt {p : Py α} {R : α → World → Prop} (hp : Framed d g backendObs env i p R w) :
    Framed d g backendObs env i p.attempt (fun o w' => ∀ a, o = .ok a → R a w') w := by
  refine Safe.attempt (Safe.mono hp fun o w' _ _ hq => ⟨hq.1, fun o' e => ?_⟩)
  cases e; exact hq.2

/-- One call: what it asks for must hold, and its answer is known. -/
theorem Framed.perform {c : Call} (hc : c.keepsDelivery = true) {R : c.Ret → World → Prop}
    (ho : ∀ w', Frame i w w' → StoreOk g.asked w'.store → CallObs d g.asked backendObs i w' c)
    (hR : ∀ w₁ a w₂, Frame i w w₁ → StoreOk g.asked w₁.store → calls env i c w₁ (.ok a) w₂ →
      ∀ w₃, Frame i w₂ w₃ → R a w₃) :
    Framed d g backendObs env i (.perform c) R w := by
  refine Safe.perform fun w₁ _ hf hi => ⟨ho w₁ hf hi, fun r w₂ hs => ⟨(), calls_keeps hi (ho w₁ hf hi) hs, ?_⟩⟩
  intro w₃ _ hf₃ _
  refine ⟨(hf.trans (calls_frame hi hc hs)).trans hf₃, fun a e => ?_⟩
  subst e; exact hR w₁ a w₂ hf hi hs w₃ hf₃

/-- A program that makes no store calls, and calls of the backend as asked. -/
theorem Framed.of_makes {p : Py α}
    (h : p.Makes fun c => c.ofStore = false ∧
      ∀ w', Frame i w w' → StoreOk g.asked w'.store → CallObs d g.asked backendObs i w' c) :
    Framed d g backendObs env i p (fun _ _ => True) w := by
  suffices hs : ∀ w₁, Frame i w w₁ → Framed d g backendObs env i p (fun _ _ => True) w₁ from hs w (.refl i w)
  induction p with
  | ret a => exact fun _ _ => .ret fun _ _ => trivial
  | raise e => exact fun _ _ => .raise
  | call c k ih =>
    intro w₁ hf₁ w₂ _ hf₂ hi
    have hobs := h.1.2 w₂ (hf₁.trans hf₂) hi
    refine ⟨hobs, fun r w₃ hs => ⟨(), calls_keeps hi hobs hs, ?_⟩⟩
    have hf₃ := hf₂.trans (calls_frame hi (keepsDelivery_of_ofStore h.1.1) hs)
    exact Safe.mono (ih r (h.2 r) w₃ (hf₁.trans hf₃)) fun o w' _ _ hq => ⟨hf₃.trans hq.1, hq.2⟩

/-! ## Store calls -/

/-- A store call other than a claim: what it asks for must hold, and what it does is known. -/
theorem Framed.store {c : StoreCall} (hc : (Call.store c).keepsDelivery = true) {R : c.Ret → World → Prop}
    (ho : ∀ w', Frame i w w' → StoreOk g.asked w'.store → StoreObs d g.asked c w'.store)
    (hR : ∀ w₁ a t s', Frame i w w₁ → StoreOk g.asked w₁.store → c.apply w₁.store t = (.ok a, s') →
      ∀ w₃, Later s' w₃.store → R a w₃) :
    Framed d g backendObs env i (onStore c) R w := by
  refine Framed.perform hc ho ?_
  rintro w₁ a w₂ hf hi ⟨t, s', -, -, he, rfl⟩ w₃ hf₃
  exact hR w₁ a t s' hf hi he w₃ hf₃.later

/-- A store call that asks for nothing. -/
theorem Framed.call {c : StoreCall} (hc : (Call.store c).keepsDelivery = true) (ho : ∀ s, StoreObs d g.asked c s) :
    Framed d g backendObs env i (onStore c) (fun _ _ => True) w :=
  .store hc (fun w' _ _ => ho w'.store) fun _ _ _ _ _ _ _ _ _ => trivial

theorem record_framed (taskId : String) (e : EventType) (payload : Json) :
    Framed d g backendObs env i (record taskId e payload) (fun _ _ => True) w :=
  .call rfl fun _ => trivial

theorem getWorkflow_framed (taskId : String) :
    Framed d g backendObs env i (onStore (.getWorkflow taskId))
      (fun o w' => ∀ st, o = some st → Copy st w'.store ∧ StateOk g.asked taskId st) w := by
  refine .store rfl (fun _ _ _ => trivial) fun w₁ a t s' _ hi he w₃ hle st hst => ?_
  subst hst
  obtain ⟨e, rfl⟩ := Prod.mk.inj he
  obtain ⟨row, hr, rfl⟩ := SQLiteStore.getWorkflow_some (Except.ok.inj e)
  have hok := hi.state taskId row hr
  refine ⟨Copy.later ⟨row, by rw [hok.task]; exact hr, ?_, fun _ => rfl⟩ hle, hok⟩
  exact (hi.version taskId row hr).ge

/-- A save of a change of the checkpoint last read or saved. -/
theorem save_framed {cp st : WorkflowState} (hc : Copy cp w.store) (h : Change d g.asked cp st) :
    Framed d g backendObs env i (save st)
      (fun st' w' => (∃ t, st' = { st with version := st.version + 1, updatedAt := t }) ∧ Copy st' w'.store) w := by
  obtain ⟨htask, hver⟩ := h.same
  refine .store rfl (fun w' hf _ row hr hv => ?_) fun w₁ a t s' _ _ he w₃ hl => ?_
  · rw [(hc.later hf.later).stored (htask ▸ hr) (hv.trans hver)]; exact h
  · rcases SQLiteStore.saveWorkflow_cases he with ⟨row, hr, hv, ha, hw, -, -, -⟩ | ⟨⟨m, hm⟩, -⟩
    · obtain rfl := Except.ok.inj ha
      refine ⟨⟨t, rfl⟩, Copy.later ⟨_, (hw _).trans (if_pos rfl), Nat.le_refl _, fun _ => rfl⟩ hl⟩
    · cases hm

/-! ## The gateway and the runtime -/

section Runtime

variable {backend : ToolBackend} {rt : WorkflowRuntime}

/-- Thread `i` works on a delivery of `taskId`. -/
def WorksOn (i : ThreadId) (w : World) (taskId : String) : Prop :=
  ∃ delivery, delivering i w.journal = some delivery ∧ delivery.taskId = taskId

theorem WorksOn.frame {w' : World} {taskId : String} (h : WorksOn i w taskId) (hf : Frame i w w') : WorksOn i w' taskId := by
  unfold WorksOn; rw [hf.delivery]; exact h

section
variable (d g backendObs env)

/-- A backend that keeps the protocol when invoked as the gateway does. -/
def BackendOk (backend : ToolBackend) : Prop :=
  ∀ (i : ThreadId) (w : World) (st : WorkflowState) (tool : ToolName) (arguments : Arguments) (n : Nat),
    WorksOn i w st.taskId → MayExecute g w.store st.taskId tool arguments →
      Framed d g backendObs env i (backend st tool arguments n) (fun _ _ => True) w

/-- The runtimes the protocol is about: any engine within the guard, a backend that keeps the protocol. -/
structure Lawful (rt : WorkflowRuntime) : Prop where
  engine : rt.engine = anyEngine
  detector : rt.loopDetector = d
  backend : BackendOk d g backendObs env rt.backend
  allows : ∀ i w c r, env.allows i w c r → g.allows w.store c r

end

/-- The gateway's calls: the ledger's, and the backend's. -/
theorem gatewayExecute_makes {P : Call → Prop} {st : WorkflowState} {tool : ToolName} {arguments : Arguments}
    (hget : ∀ key validated, P (.store (.getToolResult key validated)))
    (hexecute : ∀ validated n, P (.execute st tool validated n))
    (hsave : ∀ key taskId tool validated result, P (.store (.saveToolResult key taskId tool validated result))) :
    (gatewayExecute anyBackend st tool arguments).Makes P := by
  refine Prog.makes_bind (Prog.makes_ofExcept _) fun x => ?_
  simp only
  split
  · trivial
  · refine Prog.makes_bind (Prog.makes_perform (hget _ _)) fun cached => ?_
    split
    · trivial
    · refine Prog.makes_bind (Prog.makes_perform (hexecute _ _)) fun result => ?_
      split
      · trivial
      · exact Prog.makes_bind (Prog.makes_perform (hsave _ _ _ _ _)) fun _ => trivial

theorem gatewayExecute_framed (hb : BackendOk d g backendObs env backend) {st : WorkflowState} {tool : ToolName}
    {arguments : Arguments} (hw : WorksOn i w st.taskId) (hm : MayExecute g w.store st.taskId tool arguments) :
    Framed d g backendObs env i (gatewayExecute backend st tool arguments) (fun _ _ => True) w := by
  unfold gatewayExecute
  rw [validateAndDecide_idem hm.validated]
  refine .bind (.ofExcept (R := fun x _ => x = (arguments, evaluate tool arguments)) fun a e _ _ => (Except.ok.inj e).symm) ?_
  rintro _ w₁ hf₁ rfl
  have hallowed : (evaluate tool arguments).allowed = true := evaluate_allowed.mpr hm.possible
  simp only [hallowed, Bool.not_true, Bool.false_eq_true, if_false]
  refine .bind (.call rfl fun _ => trivial) fun cached w₂ hf₂ _ => ?_
  have hf := hf₁.trans hf₂
  cases cached with
  | some cached => exact .ret fun _ _ => trivial
  | none =>
    refine .bind (hb i w₂ st tool arguments _ (hw.frame hf) (hm.later hf.later)) fun result w₃ _ _ => ?_
    split
    · exact .raise
    · exact .bind (.call rfl fun _ => trivial) fun _ _ _ _ => .ret fun _ _ => trivial

theorem failWorkflow_framed {st : WorkflowState} {reason category : String} (hc : Copy st w.store)
    (h : Change d g.asked st { st with status := .failed, lastError := some reason, currentStep := none }) :
    Framed d g backendObs env i (failWorkflow st reason category) (fun _ _ => True) w := by
  refine .bind (save_framed hc h) fun st' w' _ _ => ?_
  exact .bind (record_framed _ _ _) fun _ _ _ _ => .ret fun _ _ => trivial

theorem executeTool_framed (hl : Lawful d g backendObs env rt) {st : WorkflowState} {tool : ToolName}
    {arguments : Arguments} (hw : WorksOn i w st.taskId) (hc : Copy st w.store) (hdue : ToolDue st tool)
    (hm : MayExecute g w.store st.taskId tool arguments) :
    Framed d g backendObs env i (rt.executeTool st tool arguments) (fun _ _ => True) w := by
  refine .bind (.attempt (gatewayExecute_framed hl.backend hw hm)) fun o w₁ hf _ => ?_
  have hc := hc.later hf.later
  cases o with
  | error e =>
    simp only
    split
    · refine .bind (save_framed hc (.toolRetry tool e.message hdue)) fun saved _ _ _ => ?_
      exact .bind (record_framed _ _ _) fun _ _ _ _ => .raise
    · split
      · exact failWorkflow_framed hc (.toolFailed tool e.message hdue)
      · exact .raise
  | ok r =>
    refine .bind (save_framed hc (.toolDone tool r.1 hdue)) fun saved _ _ _ => ?_
    exact .bind (record_framed _ _ _) fun _ _ _ _ => .ret fun _ _ => trivial

theorem resumeApprovedAction_framed (hl : Lawful d g backendObs env rt) {st : WorkflowState}
    {pending : PendingAction} (hw : WorksOn i w st.taskId) (hc : Copy st w.store) (ha : st.status.active = true)
    (hp : st.pendingAction = some pending) (hok : PendingOk g.asked st.taskId pending) :
    Framed d g backendObs env i (rt.resumeApprovedAction st pending) (fun _ _ => True) w := by
  refine .bind (R := fun a w' => a = some .approved → Approved st.taskId pending.tool pending.arguments w'.store)
    (.store rfl (fun _ _ _ => trivial) ?_) fun approval w₁ hf₁ happ => ?_
  · intro w₁ a t s' _ hi he w₃ hle happ
    subst happ
    obtain ⟨e, rfl⟩ := Prod.mk.inj he
    refine Approved.later ?_ hle
    unfold Approved; rw [← hok.id]; exact Except.ok.inj e
  · split
    · exact .ret fun _ _ => trivial
    · rename_i h
      simp only [ne_eq, not_not] at h
      refine .bind (record_framed _ _ _) fun _ w₂ hf₂ _ => ?_
      have hf := hf₁.trans hf₂
      refine executeTool_framed hl (hw.frame hf) (hc.later hf.later) ⟨ha, .inr ⟨pending, hp, rfl⟩⟩ ?_
      have hr := hok.restart
      exact ⟨hr.2.1, by rw [hr.1]; decide, hok.asked, fun _ => (happ h).later hf₂.later,
        fun hn => absurd hr hn⟩

theorem pauseForApproval_framed {taskId : String} {st : WorkflowState} {pending : PendingAction} (hc : Copy st w.store)
    (ht : st.taskId = taskId) (hrun : st.status = .running) (hp : st.pendingAction = none)
    (hh : pending.tool.value ∈ st.toolHistory) (hok : PendingOk g.asked taskId pending) :
    Framed d g backendObs env i (WorkflowRuntime.pauseForApproval taskId st pending) (fun _ _ => True) w := by
  subst ht
  refine .bind (save_framed hc (.paused pending hrun hp hh hok)) fun st' _ _ _ => ?_
  refine .bind (.call rfl fun _ => ?_) fun _ _ _ _ => ?_
  · have hr := hok.restart
    refine ⟨pending.arguments, by rw [← hr.1]; exact hr, hok.asked, ?_⟩
    rw [← hr.1]; exact hok.id
  · exact .bind (record_framed _ _ _) fun _ _ _ _ => .ret fun _ _ => trivial

theorem runDecided_framed (hl : Lawful d g backendObs env rt) {taskId : String} {st : WorkflowState}
    {decision : AgentDecision} {tool : ToolName} {arguments : Arguments} (hw : WorksOn i w taskId)
    (hc : Copy st w.store) (ht : st.taskId = taskId) (hrun : st.status = .running) (hp : st.pendingAction = none)
    (hstep : st.currentStep = some tool.value) (hh : tool.value ∈ st.toolHistory) (hv : Validated tool arguments)
    (ha : g.admits w.store taskId tool arguments) :
    Framed d g backendObs env i (rt.runDecided taskId st decision tool arguments (evaluate tool arguments))
      (fun _ _ => True) w := by
  subst ht
  have hact : st.status.active = true := by rw [hrun]; rfl
  have hdue : ToolDue st tool := ⟨hact, .inl ⟨hp, hstep, hh⟩⟩
  unfold WorkflowRuntime.runDecided
  split
  · refine .bind (record_framed _ _ _) fun _ w₁ hf _ => ?_
    exact failWorkflow_framed (hc.later hf.later) (.denied _ hrun hp)
  · rename_i hallowed
    have hpos : tool ≠ .deleteDatabase := evaluate_allowed.mp (by simpa using hallowed)
    split
    · rename_i happ
      exact pauseForApproval_framed hc rfl hrun hp hh
        ⟨(approvalRequired_iff hv).mp happ, g.admits_asked ha, rfl⟩
    · rename_i happ
      have hm : MayExecute g w.store st.taskId tool arguments :=
        ⟨hv, hpos, g.admits_asked ha, fun hr => absurd ((approvalRequired_iff hv).mpr hr) happ, fun _ => ha⟩
      split
      · refine .bind (record_framed _ _ _) fun _ w₁ hf _ => ?_
        exact executeTool_framed hl (hw.frame hf) (hc.later hf.later) hdue (hm.later hf.later)
      · exact executeTool_framed hl hw hc hdue hm

open WorkflowRuntime in
theorem useTool_framed (hl : Lawful d g backendObs env rt) {taskId : String}
    {cp : WorkflowState} {decision : AgentDecision} {u : Nat × Nat} {tool : ToolName} (hw : WorksOn i w taskId)
    (hc : Copy cp w.store) (ht : cp.taskId = taskId) (hrun : cp.status = .running) (hp : cp.pendingAction = none)
    (ha : ∀ validated policy, validateAndDecide tool decision.arguments.modelDump = .ok (validated, policy) →
      g.admits w.store taskId tool validated) :
    Framed d g backendObs env i (rt.useTool taskId (absorb cp decision u) decision tool) (fun _ _ => True) w := by
  refine .bind (.ofExcept (R := fun x w' => validateAndDecide tool decision.arguments.modelDump = .ok x)
    fun a e _ _ => e) ?_
  rintro ⟨arguments, policy⟩ w₁ hf₁ hx
  have hc := hc.later hf₁.later
  obtain ⟨hv, rfl⟩ := validateAndDecide_ok hx
  simp only [hl.detector]
  split
  · rename_i reason hreason
    refine .bind (save_framed hc (.loopStopped decision u tool reason hrun hp hreason)) fun _ _ _ _ => ?_
    exact .bind (record_framed _ _ _) fun _ _ _ _ => .ret fun _ _ => trivial
  · rename_i hreason
    refine .bind (save_framed hc (.decided decision u tool hrun hp hreason)) fun st' w₂ hf₂ h => ?_
    obtain ⟨⟨t, rfl⟩, hc'⟩ := h
    have hf := hf₁.trans hf₂
    refine runDecided_framed hl (hw.frame hf) hc' ht hrun hp rfl ?_ hv (g.admits_later hf.later (ha _ _ hx))
    simp [decided]

theorem applyDecision_framed (hl : Lawful d g backendObs env rt) {taskId : String} {cp : WorkflowState} {decision : AgentDecision}
    (hw : WorksOn i w taskId) (hc : Copy cp w.store) (ht : cp.taskId = taskId) (hrun : cp.status = .running)
    (hp : cp.pendingAction = none)
    (ha : ∀ tool validated policy, decision.asked = some tool →
      validateAndDecide tool decision.arguments.modelDump = .ok (validated, policy) →
      g.admits w.store taskId tool validated) :
    Framed d g backendObs env i (rt.applyDecision taskId cp decision) (fun _ _ => True) w := by
  unfold WorkflowRuntime.applyDecision
  rw [hl.engine]
  refine .bind (R := fun _ _ => True) (.perform rfl (fun _ _ _ h => by cases h) fun _ _ _ _ _ _ _ _ => trivial)
    fun usage w₁ hf₁ _ => ?_
  refine .bind (record_framed _ _ _) fun _ w₂ hf₂ _ => ?_
  have hf := hf₁.trans hf₂
  have hc := hc.later hf.later
  simp only
  split
  · rename_i haction
    refine .bind (save_framed hc (.completed decision usage hrun hp haction)) fun _ _ _ _ => ?_
    exact .bind (record_framed _ _ _) fun _ _ _ _ => .ret fun _ _ => trivial
  · refine .bind (save_framed hc (.declined decision usage hrun hp)) fun st' w' _ _ => ?_
    exact .bind (record_framed _ _ _) fun _ _ _ _ => .ret fun _ _ => trivial
  · rename_i haction
    split
    · exact .raise
    · rename_i tool htool
      refine useTool_framed hl (hw.frame hf) hc ht hrun hp fun validated policy hx => ?_
      exact g.admits_later hf.later (ha tool validated policy ((AgentDecision.asked_useTool haction).trans htool) hx)

theorem decideNext_framed (hl : Lawful d g backendObs env rt) {taskId : String} {cp : WorkflowState}
    (hw : WorksOn i w taskId) (hc : Copy cp w.store) (ht : cp.taskId = taskId) (hact : cp.status.active = true)
    (hp : cp.pendingAction = none) :
    Framed d g backendObs env i (rt.decideNext taskId cp) (fun _ _ => True) w := by
  unfold WorkflowRuntime.decideNext
  rw [hl.engine]
  refine .bind (save_framed hc (.start hact hp)) fun st w₁ hf₁ h => ?_
  obtain ⟨⟨t, rfl⟩, hc⟩ := h
  refine .bind (record_framed _ _ _) fun _ w₂ hf₂ _ => ?_
  have hc := hc.later hf₂.later
  refine .bind (.attempt (R := fun decision w' => ∀ tool validated policy, decision.asked = some tool →
      validateAndDecide tool decision.arguments.modelDump = .ok (validated, policy) →
      g.admits w'.store taskId tool validated) (.perform rfl (fun _ _ _ h => by cases h) ?_)) fun o w₃ hf₃ ha => ?_
  · rintro w₁ decision w₂ _ _ ⟨t', s', -, hal, rfl, rfl⟩ w₃ hf₃ tool validated policy htool hx
    have := hl.allows _ _ _ _ hal tool validated policy htool hx
    rw [← ht]; exact g.admits_later hf₃.later this
  · have hf := (hf₁.trans hf₂).trans hf₃
    have hc := hc.later hf₃.later
    cases o with
    | error e =>
      simp only
      split
      · refine .bind (save_framed hc (.modelRetry e.message rfl hp)) fun _ _ _ _ => ?_
        exact .bind (record_framed _ _ _) fun _ _ _ _ => .raise
      · exact .raise
    | ok decision => exact applyDecision_framed hl (hw.frame hf) hc ht rfl hp (ha decision rfl)

theorem process_framed (hl : Lawful d g backendObs env rt) {taskId : String} (hw : WorksOn i w taskId) :
    Framed d g backendObs env i (rt.process taskId) (fun _ _ => True) w := by
  refine .bind (R := fun st w' => Copy st w'.store ∧ StateOk g.asked taskId st)
    (.bind (getWorkflow_framed taskId) fun o w₁ _ h => ?_) fun st w₁ hf h => ?_
  · cases o with
    | none => exact .raise
    | some st => exact .ret fun w' hf => ⟨(h st rfl).1.later hf.later, (h st rfl).2⟩
  · obtain ⟨hc, hok⟩ := h
    have hw := hw.frame hf
    split
    · exact .ret fun _ _ => trivial
    · rename_i hrun
      have hact : st.status.active = true := active_of_running hrun
      split
      · rename_i pending hp
        exact resumeApprovedAction_framed hl (hok.task ▸ hw) hc hact hp (hok.task ▸ hok.pending pending hp)
      · rename_i hp
        exact decideNext_framed hl hw hc hok.task hact hp

/-! ## The worker -/

variable {config : Settings}

theorem onRetryable_framed (delivery : QueueDelivery) (e : PyError) :
    Framed d g backendObs env i (onRetryable config delivery e) (fun _ _ => True) w := by
  refine .bind (.call rfl fun _ => trivial) fun dead w₁ _ _ => ?_
  split
  · refine .bind (getWorkflow_framed delivery.taskId) fun o w₂ _ h => ?_
    split
    · exact .ret fun _ _ => trivial
    · rename_i st
      split
      · exact .ret fun _ _ => trivial
      · rename_i hterm
        refine .bind (save_framed (h st rfl).1 (.deadLettered e.message (by simpa [WorkflowState.terminal] using hterm))) fun _ _ _ _ => ?_
        exact record_framed _ _ _
  · exact .ret fun _ _ => trivial

theorem onPermanent_framed (delivery : QueueDelivery) (e : PyError) :
    Framed d g backendObs env i (onPermanent delivery e) (fun _ _ => True) w := by
  refine .bind (.call rfl fun _ => trivial) fun _ w₁ _ _ => ?_
  refine .bind (getWorkflow_framed delivery.taskId) fun o w₂ _ h => ?_
  split
  · exact .ret fun _ _ => trivial
  · rename_i st
    split
    · exact .ret fun _ _ => trivial
    · rename_i hterm
      refine .bind (save_framed (h st rfl).1 (.failed e.message (by simpa [WorkflowState.terminal] using hterm))) fun _ _ _ _ => ?_
      exact record_framed _ _ _

theorem handleDelivery_framed (hl : Lawful d g backendObs env rt) {delivery : QueueDelivery} (hw : delivering i w.journal = some delivery) :
    Framed d g backendObs env i (handleDelivery rt config delivery) (fun _ _ => True) w := by
  have hbody : Framed d g backendObs env i (processDelivery rt config delivery) (fun _ _ => True) w := by
    refine .bind (process_framed hl ⟨delivery, hw, rfl⟩) fun st _ _ _ => ?_
    refine .bind (.call rfl fun _ => trivial) fun _ _ _ _ => ?_
    split
    · exact .bind (.call rfl fun _ => trivial) fun _ _ _ _ => .ret fun _ _ => trivial
    · exact .ret fun _ _ => trivial
  refine .bind (.attempt hbody) fun o w₁ _ _ => ?_
  cases o with
  | ok u => exact .ret fun _ _ => trivial
  | error e =>
    simp only
    split
    · exact onRetryable_framed delivery e
    · split
      · exact onPermanent_framed delivery e
      · exact .raise

theorem updateDepth_framed : Framed d g backendObs env i updateDepth (fun _ _ => True) w :=
  .bind (.call rfl fun _ => trivial) fun _ _ _ _ => .ret fun _ _ => trivial

section
variable (d g backendObs env)

/-- Thread `i` runs `p` safely. -/
def SafeRun {α : Type} (i : ThreadId) (p : Py α) (w : World) : Prop :=
  Safe (calls env) (lifecycle d g backendObs) i p (fun _ _ _ => True) w ()

end

theorem Framed.safeRun {α : Type} {p : Py α} {R : α → World → Prop} (h : Framed d g backendObs env i p R w) :
    SafeRun d g backendObs env i p w :=
  Safe.mono h fun _ _ _ _ _ => trivial

/-- A worker's run: the claim gives the thread its delivery. -/
theorem runOnce_safe (hl : Lawful d g backendObs env rt) (workerId : String) :
    SafeRun d g backendObs env i (runOnce rt config workerId) w := by
  have hobs : ∀ w', CallObs d g.asked backendObs i w' (.store (.claim workerId config.queueLeaseSeconds)) := fun _ => trivial
  refine Safe.bind (Safe.perform fun w₁ _ _ hi => ⟨hobs w₁, fun r w₂ hs => ⟨(), calls_keeps hi (hobs w₁) hs, ?_⟩⟩)
  intro w₃ _ hf hi₃
  cases r with
  | error e => trivial
  | ok delivery =>
    cases delivery with
    | none => exact (Framed.bind updateDepth_framed fun _ _ _ _ => .ret fun _ _ => trivial : Framed d g backendObs env i
        (updateDepth.bind fun _ => .ret false) (fun _ _ => True) w₃).safeRun
    | some delivery =>
      have hw : delivering i w₃.journal = some delivery := by
        obtain ⟨t, s', -, -, -, rfl⟩ := hs
        rw [hf.delivery, delivering_cons]
        simp [Entry.delivers]
      refine (Framed.bind (.attempt (handleDelivery_framed hl hw)) fun o w₁ _ _ => ?_ : Framed d g backendObs
        env i _ (fun _ _ => True) w₃).safeRun
      refine .bind (R := fun _ _ => True) (.perform rfl (fun _ _ _ h => by cases h) fun _ _ _ _ _ _ _ _ => trivial)
        fun _ _ _ _ => ?_
      split
      · exact .raise
      · exact .bind updateDepth_framed fun _ _ _ _ => .ret fun _ _ => trivial

/-! ## The control plane -/

theorem createIncident_framed (taskId goal scenarioId : String) :
    Framed d g backendObs env i (createIncident config taskId goal scenarioId) (fun _ _ => True) w := by
  refine .bind (R := fun _ _ => True) (.perform rfl (fun _ _ _ h => by cases h) fun _ _ _ _ _ _ _ _ => trivial)
    fun _ _ _ _ => ?_
  exact .call rfl fun _ => ⟨rfl, rfl⟩

theorem required_framed (taskId : String) :
    Framed d g backendObs env i (required taskId) (fun st w' => Copy st w'.store ∧ StateOk g.asked taskId st) w := by
  refine .bind (getWorkflow_framed taskId) fun o w₁ _ h => ?_
  cases o with
  | none => exact .raise
  | some st => exact .ret fun w' hf => ⟨(h st rfl).1.later hf.later, (h st rfl).2⟩

theorem approve_framed (taskId actor : String) (reason : Option String) :
    Framed d g backendObs env i (approve config taskId actor reason) (fun _ _ => True) w := by
  refine .bind (required_framed taskId) fun st w₁ _ h => ?_
  split
  · rename_i pending hst hp
    refine .bind (.call rfl fun _ => trivial) fun _ w₂ hf _ => ?_
    refine .bind (save_framed (h.1.later hf.later) (.approved pending hst hp)) fun _ _ _ _ => ?_
    refine .bind (record_framed _ _ _) fun _ _ _ _ => ?_
    exact .bind (.call rfl fun _ => trivial) fun _ _ _ _ => .ret fun _ _ => trivial
  · exact .raise

theorem reject_framed (taskId actor : String) (reason : Option String) :
    Framed d g backendObs env i (reject taskId actor reason) (fun _ _ => True) w := by
  refine .bind (required_framed taskId) fun st w₁ _ h => ?_
  split
  · rename_i pending hst hp
    refine .bind (.call rfl fun _ => trivial) fun _ w₂ hf _ => ?_
    refine .bind (save_framed (h.1.later hf.later) (.rejected pending _ hst hp)) fun _ _ _ _ => ?_
    exact .bind (record_framed _ _ _) fun _ _ _ _ => .ret fun _ _ => trivial
  · exact .raise

theorem replay_framed (deliveryId : Nat) (taskId actor reason : String) :
    Framed d g backendObs env i (replay config deliveryId taskId actor reason) (fun _ _ => True) w := by
  refine .bind (.call rfl fun _ => trivial) fun o _ _ _ => ?_
  cases o with
  | none => exact .raise
  | some st => exact .ret fun _ _ => trivial

/-- A program followed by a reply. -/
theorem SafeRun.reply {α : Type} {p : Py α} {f : α → Reply} (h : SafeRun d g backendObs env i p w) :
    SafeRun d g backendObs env i (p.bind fun a => .ret (f a)) w := by
  refine Safe.bind (Safe.mono h fun o w' _ _ _ => ?_)
  cases o with
  | ok a => exact fun _ _ _ _ => trivial
  | error e => trivial

theorem operation_safe (hl : Lawful d g backendObs env rt) (op : Operation) : SafeRun d g backendObs env i (op.program rt config) w := by
  cases op with
  | runOnce workerId => exact (runOnce_safe hl workerId).reply
  | heartbeatTick workerId delivery =>
    have hbody : Framed d g backendObs env i (heartbeatTick config workerId delivery) (fun _ _ => True) w :=
      .bind (.call rfl fun _ => trivial) fun _ _ _ _ => record_framed _ _ _
    exact hbody.safeRun.reply
  | createIncident taskId goal scenarioId => exact (createIncident_framed taskId goal scenarioId).safeRun.reply
  | approve taskId actor reason => exact (approve_framed taskId actor reason).safeRun.reply
  | reject taskId actor reason => exact (reject_framed taskId actor reason).safeRun.reply
  | replay deliveryId taskId actor reason => exact (replay_framed deliveryId taskId actor reason).safeRun.reply

/-! ## The system -/

/-- The system keeps the protocol, for every backend that does. -/
theorem lifecycle_sound (hl : Lawful d g backendObs env rt) : Sound (system rt config env) (lifecycle d g backendObs) where
  enter := by
    rintro i _ w _ _ ⟨op, rfl, -, rfl⟩ hi -
    refine ⟨(), ⟨hi, fun j hj => ⟨.refl _, delivering_began_other (Ne.symm hj) op w.journal⟩⟩, ?_⟩
    refine Safe.mono (operation_safe hl op) fun o w' _ hi' _ w'' hw'' => ?_
    obtain rfl := hw''
    exact ⟨(), ⟨hi', fun j _ => ⟨.refl _, rfl⟩⟩, trivial⟩
  crash := by
    rintro i w _ _ ⟨-, rfl⟩ hi
    exact ⟨(), ⟨hi, fun j _ => ⟨.refl _, rfl⟩⟩, trivial⟩

theorem storeOk_init {A : Set Arguments} : StoreOk A World.init.store :=
  ⟨fun _ _ h => (by cases h), fun _ _ h => (by cases h), fun _ _ _ h => (by cases h)⟩

/-- Every reachable configuration keeps the store's invariant, and every call about to be
    made satisfies what the protocol asks of it. -/
theorem reachable_cover (hl : Lawful d g backendObs env rt) {cfg : Cfg} (h : Reachable rt config env cfg) :
    Cover (system rt config env) (lifecycle d g backendObs) cfg () := by
  have hinit : (lifecycle d g backendObs).Inv World.init () := storeOk_init
  obtain ⟨_, hc⟩ := reach_cover (lifecycle_sound hl) hinit (fun _ => trivial) h
  exact hc

theorem reachable_storeOk (hl : Lawful d g backendObs env rt) {cfg : Cfg} (h : Reachable rt config env cfg) :
    StoreOk g.asked cfg.state.store := (reachable_cover hl h).1

/-- A step of the system moves the store forward. -/
theorem step_later {cfg cfg' : Cfg} {A : Set Arguments} (hi : StoreOk A cfg.state.store)
    (h : Step (system rt config env) cfg cfg') : Later cfg.state.store cfg'.state.store := by
  cases h with
  | enter _ he => obtain ⟨op, -, -, rfl⟩ := he; exact .refl _
  | call _ hs => exact calls_later hi hs
  | leave _ _ hl => obtain rfl := hl; exact .refl _
  | crash _ hx => obtain ⟨-, rfl⟩ := hx; exact .refl _

/-- So does a run. -/
theorem run_later (hl : Lawful d g backendObs env rt) {cfg cfg' : Cfg} (h : Reachable rt config env cfg)
    (hr : Relation.ReflTransGen (Step (system rt config env)) cfg cfg') :
    Later cfg.state.store cfg'.state.store := by
  induction hr with
  | refl => exact .refl _
  | tail hr hs ih => exact ih.trans (step_later (reachable_storeOk hl (h.run hr)) hs)

end Runtime

end AgentResilience
