/-
  AgentResilience.Autonomy — how often the backend is invoked without a human's approval.
  The detector accepts a decision while the stored tool history is shorter than
  `maxToolCalls`; every accepted decision is a save that makes the history longer, and a
  thread invokes the backend for it at most once. The threads that saved a decision and
  have not acted on it are the ones with something left to spend (`Spenders`).

  `autonomy_bounded`: over the whole life of a workflow there are fewer such invocations
  than `maxToolCalls`, whatever engine, backend, crashes and interleaving; none at all if
  that is not positive.
-/
import Mathlib.Data.Finset.Card
import AgentResilience.History

namespace AgentResilience

open Interaction

/-- An invocation of the backend for the workflow, other than for its pending action. -/
def Entry.autonomous (taskId : String) : Entry → Bool
  | did _ (.execute st ..) _ => decide (st.taskId = taskId) && st.pendingAction.isNone
  | _ => false

def autonomous (taskId : String) (journal : List Entry) : Nat := journal.countP (Entry.autonomous taskId)

/-- The length of the stored tool history. -/
def drawn (s : SQLiteStore) (taskId : String) : Nat := (s.stored taskId).elim 0 (·.toolHistory.length)

variable {det : LoopDetector} {A : Set Arguments} {cp st : WorkflowState} {taskId : String}

/-! ## What a change does to the history -/

theorem Change.history_le (h : Change det A cp st) : cp.toolHistory.length ≤ st.toolHistory.length := by
  cases h <;> simp [WorkflowRuntime.decided, WorkflowRuntime.absorb, toolCompleted]

/-- A decision adds one tool, within the detector's budget. -/
theorem Change.granted (h : Change det A cp st) (hg : decides? (some cp) st = true) :
    st.toolHistory.length = cp.toolHistory.length + 1 ∧ (st.toolHistory.length : Int) < det.maxToolCalls := by
  simp only [decides?, Option.any_some, Bool.and_eq_true, decide_eq_true_eq] at hg
  obtain ⟨hst, hlt⟩ := hg
  cases h with
  | decided dec u tool _ _ hreason => exact ⟨by simp [WorkflowRuntime.decided, WorkflowRuntime.absorb], ((det.reason_none_iff _ _).mp hreason).1⟩
  | loopStopped => cases hst
  | _ => exact absurd hlt (by simp [WorkflowRuntime.absorb, toolCompleted])

theorem Written.drawn_le {old : Option WorkflowState} (h : Written det old st) :
    old.elim 0 (·.toolHistory.length) ≤ st.toolHistory.length := by
  cases h with
  | created => exact Nat.zero_le _
  | saved t hc => exact hc.history_le
  | replayed t => exact Nat.le_refl _

/-! ## The budget -/

/-- Thread `i` saved a decision for the workflow and has not acted on it. -/
def Spends (journal : List Entry) (taskId : String) (i : ThreadId) : Prop :=
  (stage i journal).granted = true ∧ ∃ cp, (stage i journal).seen = some cp ∧ cp.taskId = taskId

/-- What was spent, and what the threads may still spend, is within the history and the detector's budget. -/
def Budgeted (maxToolCalls : Int) (taskId : String) (w : World) : Prop :=
  ∃ F : Finset ThreadId, (∀ i, Spends w.journal taskId i → i ∈ F) ∧ autonomous taskId w.journal + F.card ≤ drawn w.store taskId ∧
    ((autonomous taskId w.journal + F.card : Nat) : Int) ≤ max (maxToolCalls - 1) 0

/-- A step that spends nothing and lets nobody spend more. -/
theorem Budgeted.kept {m : Int} {w w' : World} (h : Budgeted m taskId w)
    (hs : ∀ i, Spends w'.journal taskId i → Spends w.journal taskId i)
    (ha : autonomous taskId w'.journal = autonomous taskId w.journal) (hd : drawn w.store taskId ≤ drawn w'.store taskId) :
    Budgeted m taskId w' := by
  obtain ⟨F, hF, hle, hm⟩ := h
  exact ⟨F, fun i hi => hF i (hs i hi), by omega, by rw [ha]; exact hm⟩

variable {rt : WorkflowRuntime} {config : Settings} {env : Env}

theorem autonomous_cons (e : Entry) (journal : List Entry) :
    autonomous taskId (e :: journal) = autonomous taskId journal + if e.autonomous taskId then 1 else 0 := by
  unfold autonomous
  rw [List.countP_cons]

theorem spends_call {i : ThreadId} {c : Call} {r : Except PyError c.Ret} {w w' : World} (h : calls env i c w r w') {j : ThreadId}
    (hj : j ≠ i) : Spends w'.journal taskId j ↔ Spends w.journal taskId j := by
  unfold Spends
  rw [(stage_call h).2 j hj]

/-- A stage with a decision to act on saved it in this call, or had it before. -/
theorem after_granted {q : Stage} {c : Call} {r : Except PyError c.Ret} (h : (q.after c r).granted = true) :
    (q.granted = true ∧ (q.after c r).seen = q.seen) ∨
      ∃ st v, c = .store (.saveWorkflow st v) ∧ ∃ st', HEq r (Except.ok st' : Except PyError WorkflowState) ∧
        (q.after c r).seen = some st' ∧ decides? q.seen st' = true := by
  unfold Stage.after at h ⊢
  split at h
  · cases h
  · cases h
  · exact .inr ⟨_, _, rfl, _, HEq.rfl, rfl, h⟩
  · exact .inl ⟨h, rfl⟩
  · exact .inl ⟨h, rfl⟩
  · cases h
  · exact .inl ⟨h, rfl⟩
  · exact .inl ⟨h, rfl⟩
  · exact .inl ⟨h, rfl⟩
  · exact .inl ⟨h, rfl⟩
  · cases h
  · exact .inl ⟨h, rfl⟩

/-- A call other than a successful save lets nobody spend more. -/
theorem spends_back {i j : ThreadId} {c : Call} {r : Except PyError c.Ret} {w w' : World} (h : calls env i c w r w')
    (hc : ∀ st v, c ≠ .store (.saveWorkflow st v)) (hs : Spends w'.journal taskId j) : Spends w.journal taskId j := by
  by_cases e : j = i
  · subst e
    obtain ⟨hg, cp, hcp, ht⟩ := hs
    rw [(stage_call h).1] at hg hcp
    rcases after_granted hg with ⟨hg', hseen⟩ | ⟨st, v, e, -⟩
    · exact ⟨hg', cp, by rw [← hseen]; exact hcp, ht⟩
    · exact absurd e (hc st v)
  · exact (spends_call h e).mp hs

/-- Before the backend is invoked, its thread has the invocation to spend. -/
theorem execute_budgeted {m : Int} {i : ThreadId} {tool : ToolName} {arguments : Arguments} {n : Nat} {r : Except PyError Json}
    {w w' : World} (hb : Budgeted m taskId w) (hmay : May det (stage i w.journal) (.execute st tool arguments n))
    (h : calls env i (.execute st tool arguments n) w r w') : Budgeted m taskId w' := by
  have hback : ∀ j, Spends w'.journal taskId j → Spends w.journal taskId j :=
    fun j => spends_back h fun _ _ e => by cases e
  have hnot : ¬ Spends w'.journal taskId i := fun hs => by
    have hg := hs.1
    rw [(stage_call h).1] at hg
    cases hg
  obtain ⟨t, s', -, -, he, rfl⟩ := h
  obtain rfl := he
  by_cases ha : (Entry.did i (.execute st tool arguments n) r).autonomous taskId = true
  · obtain ⟨F, hF, hle, hm⟩ := hb
    have ha' := ha
    simp only [Entry.autonomous, Bool.and_eq_true, decide_eq_true_eq, Option.isNone_iff_eq_none] at ha'
    have hi : i ∈ F := hF i ⟨hmay.2.1 ha'.2, st, hmay.1, ha'.1⟩
    have hcard := Finset.card_erase_of_mem hi
    have hpos : 0 < F.card := Finset.card_pos.mpr ⟨i, hi⟩
    refine ⟨F.erase i, fun j hj => Finset.mem_erase.mpr ⟨fun e => hnot (e ▸ hj), hF j (hback j hj)⟩, ?_, ?_⟩
    · rw [autonomous_cons, if_pos ha, hcard]
      show _ ≤ drawn w.store taskId
      omega
    · rw [autonomous_cons, if_pos ha, hcard]
      have : autonomous taskId w.journal + 1 + (F.card - 1) = autonomous taskId w.journal + F.card := by omega
      rw [this]; exact hm
  · exact hb.kept hback (by rw [autonomous_cons, if_neg ha]; rfl) (Nat.le_refl _)

/-- A saved decision is one more to act on, and one more in the history. -/
theorem save_budgeted {i : ThreadId} {v : Nat} {r : Except PyError WorkflowState} {w w' : World}
    (hb : Budgeted det.maxToolCalls taskId w) (hmay : MaySave det (stage i w.journal) st v cp)
    (hcopy : Copy cp w.store) (hd : drawn w.store taskId ≤ drawn w'.store taskId)
    (h : calls env i (.store (.saveWorkflow st v)) w r w') : Budgeted det.maxToolCalls taskId w' := by
  have hstage := stage_call h
  have hsame : ∀ j, j ≠ i → Spends w'.journal taskId j → Spends w.journal taskId j := fun j hj => (spends_call h hj).mp
  obtain ⟨t, s', -, -, he, rfl⟩ := h
  have ha : autonomous taskId (.did i (.store (.saveWorkflow st v)) r :: w.journal) = autonomous taskId w.journal := by
    rw [autonomous_cons]; rfl
  by_cases hs : Spends (.did i (.store (.saveWorkflow st v)) r :: w.journal) taskId i
  · by_cases hold : Spends w.journal taskId i
    · refine hb.kept (fun j hj => ?_) ha hd
      by_cases e : j = i
      · rw [e]; exact hold
      · exact hsame j e hj
    · obtain ⟨hg, st', hst', htask⟩ := hs
      rw [stage_did] at hg hst'
      rcases after_granted hg with ⟨hg', hseen⟩ | ⟨_, _, e, st'', hr, hseen, hdec⟩
      · exact absurd ⟨hg', st', by rw [← hseen]; exact hst', htask⟩ hold
      · cases e
        cases hr
        rw [hseen] at hst'
        cases hst'
        rw [hmay.seen] at hdec
        rcases SQLiteStore.saveWorkflow_cases he with ⟨row, hrow, hv, e, hw, -⟩ | ⟨⟨m, hm⟩, -⟩
        · cases e
          have htask : st.taskId = taskId := htask
          -- the checkpoint replaced is the one the decision was made on
          have hcp : row.stateJson = cp := by
            refine hcopy.stored ?_ (hv.trans hmay.version)
            rw [← hmay.change.same.1]; exact hrow
          obtain ⟨hlen, hmax⟩ := hmay.change.granted (show decides? (some cp) st = true from hdec)
          have hold_drawn : drawn w.store taskId = cp.toolHistory.length := by
            unfold drawn
            rw [stored_some.mpr ⟨row, htask ▸ hrow, hcp⟩]; rfl
          have hnew_drawn : drawn s' taskId = st.toolHistory.length := by
            unfold drawn
            rw [stored_some.mpr ⟨_, (hw _).trans (if_pos htask.symm), rfl⟩]; rfl
          obtain ⟨F, hF, hle, hm⟩ := hb
          have hcard : (insert i F).card ≤ F.card + 1 := Finset.card_insert_le i F
          refine ⟨insert i F, fun j hj => ?_, ?_, ?_⟩
          · by_cases e : j = i
            · rw [e]; exact Finset.mem_insert_self i F
            · exact Finset.mem_insert_of_mem (hF j (hsame j e hj))
          · show autonomous taskId (.did i _ _ :: w.journal) + _ ≤ drawn s' taskId
            omega
          · show ((autonomous taskId (.did i _ _ :: w.journal) + _ : Nat) : Int) ≤ _
            omega
        · cases hm
  · refine hb.kept (fun j hj => ?_) ha hd
    by_cases e : j = i
    · subst e; exact absurd hj hs
    · exact hsame j e hj

/-- The budget is kept in every run. -/
theorem reachable_budgeted {cfg : Cfg} (h : Reachable { rt with engine := anyEngine, backend := anyBackend } config env cfg) :
    Budgeted rt.loopDetector.maxToolCalls taskId cfg.state := by
  refine reachable_world (P := Budgeted rt.loopDetector.maxToolCalls taskId) ?_ (fun w e hb he => ?_)
    (fun cfg i c k r w' hr hb hp hx => ?_) h
  · refine ⟨∅, fun i hi => ?_, Nat.zero_le _, ?_⟩
    · cases hi.1
    · exact le_max_right _ _
  · refine hb.kept (fun i hi => ?_) ?_ (Nat.le_refl _)
    · unfold Spends at hi ⊢
      rcases stage_bound he i w.journal with hs | hs <;> rw [hs] at hi
      · cases hi.1
      · exact hi
    · rw [autonomous_cons]
      cases e with
      | did => cases he
      | _ => rfl
  · have hmay := conforms hr hp
    have hd : drawn cfg.state.store taskId ≤ drawn w'.store taskId := by
      rcases step_written hr (.call hp hx) taskId with e | ⟨st, hst, hw⟩
      · exact (congrArg (fun o : Option WorkflowState => o.elim 0 (·.toolHistory.length)) e).ge
      · have hst : w'.store.stored taskId = some st := hst
        have := hw.drawn_le
        unfold drawn
        rw [hst]; exact this
    by_cases hsave : ∃ st v, c = .store (.saveWorkflow st v)
    · obtain ⟨st, v, rfl⟩ := hsave
      obtain ⟨cp, hm⟩ := hmay
      exact save_budgeted hb hm (reachable_copy hr i cp hm.seen) hd hx
    · by_cases hexec : ∃ st tool arguments n, c = .execute st tool arguments n
      · obtain ⟨st, tool, arguments, n, rfl⟩ := hexec
        exact execute_budgeted hb hmay hx
      · refine hb.kept (fun j => spends_back hx fun st v e => hsave ⟨st, v, e⟩) ?_ hd
        obtain ⟨t, s', -, -, -, rfl⟩ := hx
        rw [autonomous_cons]
        cases c with
        | execute st tool arguments n => exact absurd ⟨st, tool, arguments, n, rfl⟩ hexec
        | _ => rfl

/-- The invocations of the backend that resume no approved action number at most
    `maxToolCalls - 1`, or none, over the whole life of a workflow. -/
theorem autonomy_bounded (rt : WorkflowRuntime) (config : Settings) {cfg : Cfg}
    (h : Reachable { rt with engine := anyEngine, backend := anyBackend } config .free cfg) (taskId : String) :
    (autonomous taskId cfg.state.journal : Int) ≤ max (rt.loopDetector.maxToolCalls - 1) 0 := by
  have hb : Budgeted rt.loopDetector.maxToolCalls taskId cfg.state := reachable_budgeted h
  obtain ⟨F, -, -, hm⟩ := hb
  omega

/-- A worker invokes the backend for a decision of the engine. -/
def oneReading : List (Move ThreadId Operation Answer) :=
  createsIncident ++ begins 1 (.runOnce "w1") 4 ++ decides 1 readAlertRequest ++ continues 1 3 ++
  [.call 1 (.result 0 (.ok (.obj [("state", .str "ALARM")])))]

theorem oneReading_plays : ((freePlayer {} {}).play ⟨World.init, fun _ => none⟩ oneReading).any
    (fun cfg => decide (autonomous "t" cfg.state.journal = 1)) = true := by
  decide +kernel

theorem autonomy_bounded_reading : ∃ cfg, Reachable {} {} .free cfg ∧ autonomous "t" cfg.state.journal = 1 ∧
    (autonomous "t" cfg.state.journal : Int) ≤ max (20 - 1) 0 := by
  obtain ⟨cfg, h, hc⟩ := (freePlayer {} {}).play_exists oneReading_plays
  exact ⟨cfg, h, of_decide_eq_true hc, autonomy_bounded {} {} h "t"⟩

/-- A detector without a budget allows no invocation, which is more than `0 - 1`. -/
theorem no_budget : ∃ (rt : WorkflowRuntime) (cfg : Cfg), rt.loopDetector.maxToolCalls = 0 ∧
    Reachable { rt with engine := anyEngine, backend := anyBackend } {} .free cfg ∧
    ¬ (autonomous "t" cfg.state.journal : Int) ≤ rt.loopDetector.maxToolCalls - 1 :=
  ⟨{ loopDetector := { maxToolCalls := 0 } }, _, rfl, .init, by decide⟩

end AgentResilience
