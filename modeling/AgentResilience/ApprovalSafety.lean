/-
  AgentResilience.ApprovalSafety — no production restart without a human. The backend and
  the engine are arbitrary, every interleaving is allowed, with lapsed leases, crashes
  and replays. Whenever the backend is invoked its arguments are validated, the tool is
  not `delete_database`, and a production restart's own approval row is `APPROVED`. A
  resolved row never changes, so a rejected action is never executed: the one assumption
  is that the digests in the action ids do not collide on the arguments that occur.
-/
import AgentResilience.Decision
import AgentResilience.Guarantee

namespace AgentResilience

open Interaction

/-- Some thread is about to invoke the backend. -/
def Invokes (cfg : Cfg) (st : WorkflowState) (tool : ToolName) (arguments : Arguments) : Prop :=
  ∃ i n k, cfg.pool i = some (.call (.execute st tool arguments n) k)

/-- The engine asks only for arguments in `A`. -/
def Guard.within (A : Set Arguments) : Guard where
  asked := A
  admits _ _ _ arguments := arguments ∈ A
  admits_asked h := h
  admits_later _ h := h

/-- What a backend may be invoked with. -/
def executeObs (g : Guard) (_ : ThreadId) (c : Call) (w : World) : Prop :=
  match c with
  | .execute st tool arguments _ => MayExecute g w.store st.taskId tool arguments
  | _ => True

variable {rt : WorkflowRuntime} {config : Settings}

theorem anyBackend_ok (d : LoopDetector) (g : Guard) (env : Env) : BackendOk d g (executeObs g) env anyBackend := by
  intro i w st tool arguments n _ hm
  exact .of_makes (Prog.makes_perform ⟨rfl, fun w' hf _ _ => hm.later hf.later⟩)

theorem lawful_any (g : Guard) : Lawful rt.loopDetector g (executeObs g) (.guarded g)
    { rt with engine := anyEngine, backend := anyBackend } :=
  ⟨rfl, rfl, anyBackend_ok _ g _, fun _ _ _ _ h => h⟩

/-- Any environment's runs. -/
theorem lawful_univ {env : Env} : Lawful rt.loopDetector (.within Set.univ) (executeObs (.within Set.univ)) env
    { rt with engine := anyEngine, backend := anyBackend } := by
  refine ⟨rfl, rfl, anyBackend_ok _ _ _, fun i w c r _ => ?_⟩
  unfold Guard.allows
  split
  · exact fun _ _ _ _ _ => Set.mem_univ _
  · trivial

theorem invokes_mayExecute {g : Guard} {cfg : Cfg}
    (h : Reachable { rt with engine := anyEngine, backend := anyBackend } config (.guarded g) cfg) {st : WorkflowState}
    {tool : ToolName} {arguments : Arguments} (hx : Invokes cfg st tool arguments) :
    MayExecute g cfg.state.store st.taskId tool arguments := by
  obtain ⟨i, n, k, hp⟩ := hx
  exact (reachable_cover (lawful_any g) h).obs hp rfl

/-! ## The arguments that occur -/

/-- A run is a run of an engine that asks only for what occurs in it. -/
theorem reachable_within {cfg : Cfg} (h : Reachable rt config .free cfg) {A : Set Arguments}
    (hA : ∀ arguments ∈ occurring cfg.state.journal, arguments ∈ A) :
    Reachable rt config (.guarded (.within A)) cfg := by
  induction h with
  | init => exact .init
  | @step cfg cfg' hr hs ih =>
    obtain ⟨e, he⟩ := step_journal hs
    refine (ih fun a ha => hA a ?_).step ?_
    · rw [he]; unfold occurring; rw [List.filterMap_cons]
      split
      · exact ha
      · exact List.mem_cons_of_mem _ ha
    · cases hs with
      | enter hp hx => exact .enter hp hx
      | leave hp ho hl => exact .leave hp ho hl
      | crash hp hx => exact .crash hp hx
      | @call i c k r s' hp hx =>
        obtain ⟨t, s', ht, -, hx, rfl⟩ := hx
        refine .call hp ⟨t, s', ht, ?_, hx, rfl⟩
        cases c with
        | decide state =>
          cases r with
          | error e => trivial
          | ok decision =>
            intro tool validated policy htool hv
            refine hA validated (List.mem_filterMap.mpr ⟨_, List.mem_cons_self, ?_⟩)
            simp [Entry.asks, htool, hv, Except.toOption]
        | _ => trivial

theorem occurring_run {env : Env} {cfg cfg' : Cfg} (h : Run rt config env cfg cfg') {arguments : Arguments}
    (ha : arguments ∈ occurring cfg.state.journal) : arguments ∈ occurring cfg'.state.journal := by
  induction h with
  | refl => exact ha
  | tail _ hs ih =>
    obtain ⟨e, he⟩ := step_journal hs
    rw [he]; unfold occurring; rw [List.filterMap_cons]
    split
    · exact ih
    · exact List.mem_cons_of_mem _ ih

/-! ## Approval safety -/

/-- An action with a rejected row is not one the backend may be invoked with. -/
theorem MayExecute.not_rejected {g : Guard} {s s' : SQLiteStore} {taskId : String} {tool : ToolName}
    {arguments : Arguments} (h : MayExecute g s taskId tool arguments) (hs : StoreOk g.asked s')
    (hinj : Set.InjOn digest16 g.asked) (hp : ∀ a, Approved taskId .restartService a s →
      s'.approvalStatus taskId (actionId taskId .restartService a) ≠ some .rejected) :
    s'.approvalStatus taskId (actionId taskId tool arguments) ≠ some .rejected := by
  intro hr
  obtain ⟨row, hrow, -⟩ := SQLiteStore.approvalStatus_some hr
  obtain ⟨arguments', hrestart, hasked, hid⟩ := hs.approval taskId _ row hrow
  obtain ⟨rfl, hdigest⟩ := actionId_inj hid
  obtain rfl := hinj h.asked hasked hdigest
  exact hp _ (h.approved hrestart) hr

theorem Approved.not_rejected {s : SQLiteStore} {taskId : String} {tool : ToolName} {arguments : Arguments}
    (h : Approved taskId tool arguments s) : s.approvalStatus taskId (actionId taskId tool arguments) ≠ some .rejected := by
  rw [h]; decide

theorem approval_safety {cfg : Cfg}
    (h : Reachable { rt with engine := anyEngine, backend := anyBackend } config .free cfg) :
    (∀ st tool arguments, Invokes cfg st tool arguments →
      tool ≠ .deleteDatabase ∧ Validated tool arguments ∧
      (tool = .restartService → arguments.get? "environment" = some (.str "production") →
        cfg.state.store.approvalStatus st.taskId (actionId st.taskId tool arguments) = some .approved)) ∧
    (∀ cfg', Run { rt with engine := anyEngine, backend := anyBackend } config .free cfg cfg' →
      (∀ k row, cfg.state.store.approvals.get k = some row → row.status ≠ .pending →
        cfg'.state.store.approvals.get k = some row) ∧
      (Set.InjOn digest16 {a | a ∈ occurring cfg'.state.journal} → ∀ st tool arguments,
        (Invokes cfg' st tool arguments →
          cfg.state.store.approvalStatus st.taskId (actionId st.taskId tool arguments) ≠ some .rejected) ∧
        (Invokes cfg st tool arguments →
          cfg'.state.store.approvalStatus st.taskId (actionId st.taskId tool arguments) ≠ some .rejected))) := by
  refine ⟨fun st tool arguments hx => ?_, fun cfg' hrun => ?_⟩
  · have hm := invokes_mayExecute (reachable_within h fun a ha => ha) hx
    refine ⟨hm.possible, hm.validated, fun ht he => hm.approved ⟨ht, hm.validated, ?_⟩⟩
    simp [argumentText, he]
  · have hr := reachable_within h fun a ha => occurring_run hrun ha
    have hr' := reachable_within (h.run hrun) fun a ha => ha
    have hok := reachable_storeOk (lawful_any _) hr
    have hok' := reachable_storeOk (lawful_any _) hr'
    have hlater := run_later lawful_univ h hrun
    refine ⟨hlater.resolved, fun hinj st tool arguments => ⟨fun hx hrej => ?_, fun hx => ?_⟩⟩
    · obtain ⟨row, hrow, hst⟩ := SQLiteStore.approvalStatus_some hrej
      have hrow' := hlater.resolved _ row hrow (by rw [hst]; decide)
      refine (invokes_mayExecute hr' hx).not_rejected hok' hinj (fun a ha => ha.not_rejected) ?_
      simp [SQLiteStore.approvalStatus, hrow', hst]
    · exact (invokes_mayExecute hr hx).not_rejected hok' hinj fun a ha => (ha.later hlater).not_rejected

/-- A production restart asked for, approved and taken up by the next worker. -/
def approvedRestart : List (Move ThreadId Operation Answer) :=
  createsIncident ++ begins 1 (.runOnce "w1") 4 ++ decides 1 productionRestart ++ continues 1 8 ++ [.leave 1] ++
  begins 2 (.approve "t" "operator" none) 5 ++ [.leave 2] ++ begins 3 (.runOnce "w2") 5

def approvedRestart.check (cfg : Cfg) : Bool :=
  match cfg.pool 3 with
  | some (.call (.execute _ .restartService arguments _) _) =>
    decide (argumentText arguments "environment" = "production") && decide ((occurring cfg.state.journal).length = 1)
  | _ => false

theorem approvedRestart_plays :
    ((freePlayer {} {}).play ⟨World.init, fun _ => none⟩ approvedRestart).any approvedRestart.check = true := by
  decide +kernel

theorem approval_safety_restart : ∃ cfg st arguments, Reachable {} {} .free cfg ∧
    Invokes cfg st .restartService arguments ∧
    cfg.state.store.approvalStatus st.taskId (actionId st.taskId .restartService arguments) = some .approved ∧
    cfg.state.store.approvalStatus st.taskId (actionId st.taskId .restartService arguments) ≠ some .rejected := by
  obtain ⟨cfg, h, hc⟩ := (freePlayer {} {}).play_exists approvedRestart_plays
  unfold approvedRestart.check at hc
  split at hc
  · rename_i st arguments n k hp
    simp only [Bool.and_eq_true, decide_eq_true_eq] at hc
    have hx : Invokes cfg st .restartService arguments := ⟨3, n, k, hp⟩
    obtain ⟨hinvoked, hrun⟩ := @approval_safety {} {} cfg h
    have hinj : Set.InjOn digest16 {a | a ∈ occurring cfg.state.journal} := by
      obtain ⟨a, ha⟩ := List.length_eq_one_iff.mp hc.2
      rw [ha]; simp
    have henv : arguments.get? "environment" = some (.str "production") := by
      rw [environment_of_validated (hinvoked _ _ _ hx).2.1, hc.1]
    exact ⟨cfg, st, arguments, h, hx, (hinvoked _ _ _ hx).2.2 rfl henv,
      ((hrun cfg .refl).2 hinj st .restartService arguments).1 hx⟩
  · cases hc

end AgentResilience
