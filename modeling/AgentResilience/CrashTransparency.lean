/-
  AgentResilience.CrashTransparency — workers that die and the deterministic engine's sequence.
  `Crashing` counts, in a sequence of operations, how often a worker died on a delivery of the
  task with so many tools done, and how many of its deliveries were not cut off.

  - `runOnce_between`, `created_found`, `granted_found`: the operations, from a place to a place.
  - `Crashing.found`: where the task's workflow is after any sequence of them.
  - `crashes_unseen`, `crash_transparent`: with at most one death between two tool checkpoints the
    workflow ends as if nobody had died, after no more deliveries.
-/
import AgentResilience.SteadyWalk

namespace AgentResilience

open Interaction

variable {rt : WorkflowRuntime} {config : Settings} {env : Env} {b : PureBackend} {taskId : String} {crashes : Nat → Nat}
  {k : Docket} {cp st : WorkflowState} {n : Nat} {w w' : World} {α : Type}

/-! ## Counting -/

/-- The tools done in the task's checkpoint. -/
def toolsDone (taskId : String) (s : SQLiteStore) : Nat := ((s.stored taskId).map (·.toolCalls)).getD 0

def running (taskId : String) (s : SQLiteStore) : Bool := (s.stored taskId).any fun st => st.status.active

/-- The task's deliveries from `w` to `w'`, of a workflow that ran. -/
def delivered (taskId : String) (w w' : World) : Nat :=
  if running taskId w.store then claims taskId w'.memory - claims taskId w.memory else 0

/-- A worker died in `w'`, after it started in `w`. -/
def crashed (taskId : String) (crashes : Nat → Nat) (w w' : World) : Nat → Nat :=
  if claims taskId w'.memory = claims taskId w.memory then crashes
  else Function.update crashes (toolsDone taskId w'.store) (crashes (toolsDone taskId w'.store) + 1)

/-- Operations one after another: the deaths on the task's deliveries, by the tools done, and its deliveries that ended. -/
inductive Crashing (rt : WorkflowRuntime) (config : Settings) (env : Env) (taskId : String) : (Nat → Nat) → Nat → World → Prop
  | init : Crashing rt config env taskId (fun _ => 0) 0 World.init
  | ran {crashes : Nat → Nat} {n : Nat} {w w' : World} {op : Operation} {o : Except PyError Reply} :
      Crashing rt config env taskId crashes n w → env.starts 0 w op →
      Runs (calls env 0) (op.program rt config) (w.note (.began 0 op)) o w' →
      Crashing rt config env taskId crashes (n + delivered taskId w w') (w'.note (.ended 0 o))
  | died {crashes : Nat → Nat} {n : Nat} {w w' : World} {workerId : String} : Crashing rt config env taskId crashes n w →
      env.starts 0 w (.runOnce workerId) →
      Partial (calls env 0) ((Operation.runOnce workerId).program rt config) (w.note (.began 0 (.runOnce workerId))) w' → env.dies 0 w' →
      Crashing rt config env taskId (crashed taskId crashes w w') n (w'.note (.died 0))

theorem Crashing.sequence (h : Crashing rt config env taskId crashes n w) : Sequence rt config env w := by
  induction h with
  | init => exact .init
  | ran _ hs hr ih => exact ih.ran hs hr
  | died _ hs hp hd ih => exact ih.died hs hp hd

/-! ## The worker -/

theorem calls_claimed {c : Call} (hc : c.keepsDelivery = true) {o : Except PyError c.Ret} (hs : calls env 0 c w o w') :
    w'.memory.claimed = w.memory.claimed := by
  obtain ⟨t, s', -, -, -, rfl⟩ := hs
  refine List.filterMap_cons_none ?_
  cases c with
  | store c => cases c <;> first | rfl | cases hc
  | _ => rfl

/-- The worker has not handed out the task's delivery, or it has. -/
def Between (taskId : String) (w₀ : World) (k : Docket) (P : World → Prop) (w : World) : Prop :=
  claims taskId w.memory = claims taskId w₀.memory ∧ Docketed taskId k w ∨ claims taskId w.memory = claims taskId w₀.memory + 1 ∧ P w

theorem Between.call {w₀ : World} {c : Call} (hc : c.aloof = true ∧ c.keepsDelivery = true) {o : Except PyError c.Ret}
    (hs : calls env 0 c w o w') (h : Between taskId w₀ k (Advances b taskId crashes k) w) :
    Between taskId w₀ k (Advances b taskId crashes k) w' := by
  have hclaims : claims taskId w'.memory = claims taskId w.memory := by
    unfold claims
    rw [calls_claimed hc.2 hs]
  rcases h with ⟨hsame, h⟩ | ⟨hnext, h⟩
  · exact .inl ⟨hclaims.trans hsame, calls_aloof hc.1 hs h⟩
  · exact .inr ⟨hclaims.trans hnext, h.congr (calls_aloof hc.1 hs h.docketed)⟩

theorem Between.lands {w₀ : World} (h : Between taskId w₀ k (Advances b taskId crashes k) w) :
    Between taskId w₀ k (Lands b taskId crashes (remaining k.checkpoint)) w :=
  h.imp_right fun h => ⟨h.1, h.2.lands⟩

open Prog (makes_bind makes_perform) in
/-- A worker's run. -/
theorem runOnce_between (he : rt.engine = anyEngine) (hb : rt.backend = anyBackend) (hdet : rt.loopDetector = {}) (hfresh : b.Fresh)
    (hfew : ∀ i < steps.length, crashes i ≤ 1) (hrest : Rest (· ≠ none) none w.store) (h : Docketed taskId k w)
    (hplace : Place b taskId crashes k) (workerId : String) :
    wpc (calls (.steady b taskId) 0) (Between taskId w k (Lands b taskId crashes (remaining k.checkpoint))) (runOnce rt config workerId)
      (fun _ w' => Between taskId w k (Advances b taskId crashes k) w') w := by
  have hdepth : ∀ x, (updateDepth.bind fun _ => (.ret x : Py Bool)).Makes fun c => c.aloof = true ∧ c.keepsDelivery = true := fun x =>
    makes_bind (makes_bind (makes_perform ⟨rfl, rfl⟩) fun _ => trivial) fun _ => trivial
  refine wpc_bind (wpc_perform (.inl ⟨rfl, h⟩) fun o w₁ hs => ?_)
  have h₁ := calls_aloof rfl hs h
  obtain ⟨t, s', hnow, -, he', rfl⟩ := hs
  obtain ⟨r, s₁, hclaim⟩ : ∃ r s₁, w.store.claim t workerId config.queueLeaseSeconds = (r, s₁) := ⟨_, _, rfl⟩
  obtain ⟨hrest₁, hown⟩ := claim_rest hrest hclaim
  have hanswer : (Except.ok (w.store.claim t workerId config.queueLeaseSeconds).1, (w.store.claim t workerId config.queueLeaseSeconds).2) =
    (o, s') := he'
  rw [hclaim] at hanswer
  cases hanswer
  cases r with
  | none =>
    have hstart : Between taskId w k (Advances b taskId crashes k)
        ⟨s₁, t, .did 0 (.store (.claim workerId config.queueLeaseSeconds)) (.ok none) :: w.journal⟩ := .inl ⟨rfl, h₁⟩
    exact ⟨hstart.lands, wpc_keeps (fun _ _ _ _ hc hs hI => hI.call hc hs) (hdepth false) (fun _ hI => hI.lands) hstart⟩
  | some d =>
    obtain ⟨row, hrow, htask, -⟩ := hown d rfl
    obtain ⟨w₁, hw₁⟩ : ∃ w₁, w₁ = World.mk s₁ t (.did 0 (.store (.claim workerId config.queueLeaseSeconds)) (.ok (some d)) :: w.journal) :=
      ⟨_, rfl⟩
    have hclaimed : w₁.memory.claimed = d :: w.memory.claimed := by
      rw [hw₁]
      rfl
    have hcount : claims taskId w₁.memory = claims taskId w.memory + if d.taskId = taskId then 1 else 0 := by
      unfold claims
      rw [hclaimed, List.countP_cons]
      simp
    have hrow₁ : w₁.store.queue.get d.id = some row := by rw [hw₁]; exact hrow
    have hrest₁ : Rest (· ≠ none) none w₁.store := by rw [hw₁]; exact hrest₁
    rw [← hw₁] at h₁
    show Between _ _ _ _ _ ∧ wpc _ _ _ _ _
    rw [← hw₁]
    have hhandled : wpc (calls (.steady b taskId) 0) (Between taskId w k (Lands b taskId crashes (remaining k.checkpoint)))
        (handleDelivery rt config d) (fun _ w' => Between taskId w k (Advances b taskId crashes k) w') w₁ := by
      by_cases e : d.taskId = taskId
      · subst e
        have hknown : k.checkpoint ≠ none := by
          rw [← h₁.stored]
          intro hnone
          refine hrest₁.known d.id row hrow₁ ?_
          rw [htask]
          cases hg : w₁.store.workflows.get d.taskId with
          | none => rfl
          | some x =>
            rw [stored_some.mpr ⟨x, hg, rfl⟩] at hnone
            cases hnone
        rw [if_pos rfl] at hcount
        have hclaims : ∀ {w'}, Unhanded w₁ w' → claims d.taskId w'.memory = claims d.taskId w.memory + 1 := by
          intro w' hu
          rw [← hcount]
          unfold claims
          rw [hu.claimed]
        refine wpc_mono (wpc_weaken (wpc_and (about_unhanded (handleDelivery_about he hb d) ⟨h₁.labelled, rfl⟩)
          (handleDelivery_lands he hb hdet hfresh hfew h₁ hplace hknown)) fun w' hK => .inr ⟨hclaims hK.1, hK.2⟩) fun _ w' _ hq => ?_
        exact .inr ⟨hclaims hq.1, hq.2⟩
      · rw [if_neg e] at hcount
        have hbeside : Beside taskId d.taskId (some d) w₁ w₁ :=
          ⟨⟨h₁.labelled, rfl⟩, fun d' hd' => by cases hd'; exact ⟨row, hrow₁, htask⟩, .refl _ _⟩
        have hsame : ∀ {w'}, Beside taskId d.taskId (some d) w₁ w' →
            claims taskId w'.memory = claims taskId w.memory ∧ Docketed taskId k w' := by
          intro w' hw'
          refine ⟨?_, hw'.labelled, fun id hdead => h₁.undead id (hw'.alike.dead hdead), hw'.alike.docket.trans h₁.docket⟩
          rw [← Nat.add_zero (claims taskId w.memory), ← hcount]
          unfold claims
          rw [hw'.claimed]
        refine wpc_mono (wpc_weaken (about_alike (Ne.symm e) (handleDelivery_about he hb d) hbeside) fun w' hK => .inl (hsame hK))
          fun _ w' _ hq => .inl (hsame hq)
    refine ⟨wpc_here hhandled, wpc_bind (wpc_attempt (wpc_mono hhandled fun o w₂ _ h₂ => ?_))⟩
    refine wpc_keeps (fun _ _ _ _ hc hs hI => hI.call hc hs) ?_ (fun _ hI => hI.lands) h₂
    refine makes_bind (makes_perform ⟨rfl, rfl⟩) fun _ => ?_
    cases o with
    | error e => trivial
    | ok u => exact hdepth true

/-! ## Operators -/

/-- Where the task's workflow is between operations, after `n` deliveries of it that were not cut off. -/
structure Found (b : PureBackend) (taskId : String) (crashes : Nat → Nat) (n : Nat) (w : World) : Prop where
  labelled : Labelled w.store
  undead : Undead taskId w.store
  place : Place b taskId crashes (w.store.docket taskId)
  counted : b.Readable → n + remaining (w.store.docket taskId).checkpoint ≤ 8

theorem Found.docketed (h : Found b taskId crashes n w) : Docketed taskId (w.store.docket taskId) w := ⟨h.labelled, h.undead, rfl⟩

theorem Found.congr (h : Found b taskId crashes n w) (h' : Docketed taskId (w.store.docket taskId) w') : Found b taskId crashes n w' := by
  refine ⟨h'.labelled, h'.undead, ?_, ?_⟩ <;> rw [h'.docket]
  · exact h.place
  · exact h.counted

/-- An operation on another task. -/
theorem Found.beside {T : String} {o : Option QueueDelivery} (h : Found b taskId crashes n w) (h' : Beside taskId T o w w') :
    Found b taskId crashes n w' :=
  h.congr ⟨h'.labelled, fun id hdead => h.undead id (h'.alike.dead hdead), h'.alike.docket⟩

theorem Found.other {T : String} {p : Py α} {Q : Except PyError α → Unit → Prop} (hne : taskId ≠ T) (hp : Follows (about T none) p Q ())
    (h : Found b taskId crashes n w) : wp (calls env 0) p (fun _ w' => Found b taskId crashes n w') w :=
  wp_mono (wpc_wp (about_alike hne hp ⟨⟨h.labelled, rfl⟩, nofun, .refl ..⟩)) fun _ _ h' => h.beside h'

theorem created_found (h : Found b taskId crashes n w) (T goal scenarioId : String) :
    wp (calls env 0) (createIncident config T goal scenarioId) (fun _ w' => Found b taskId crashes n w') w := by
  by_cases e : taskId = T
  · subst e
    refine wp_bind.mpr (wp_perform.mpr fun o w₁ hs => ?_)
    have h₁ := h.congr (calls_aloof rfl hs h.docketed)
    cases o with
    | error e => exact h₁
    | ok now =>
      refine wp_perform.mpr fun o w₂ hs => ?_
      obtain ⟨t, s, -, -, he, rfl⟩ := hs
      have he : w₁.store.createWorkflow t { taskId, goal, scenarioId, createdAt := now, updatedAt := now } config.maxQueueAttempts =
          (o, s) := he
      have hlabelled := created_labelled h₁.labelled he
      have hundead : Undead taskId s := by
        obtain rfl := congrArg Prod.snd he
        exact h₁.undead.apply (c := .createWorkflow ..) rfl t
      rcases SQLiteStore.createWorkflow_cases he with ⟨-, -, rfl⟩ | ⟨hnone, -, hw, -, ha, hl⟩
      · exact ⟨hlabelled, hundead, h₁.place, h₁.counted⟩
      · have hnone : (w₁.store.docket taskId).checkpoint = none := by
          show w₁.store.stored taskId = none
          unfold SQLiteStore.stored SQLiteStore.getWorkflow
          rw [hnone]
          rfl
        have hdocket : s.docket taskId = { w₁.store.docket taskId with
            checkpoint := some { taskId, goal, scenarioId, createdAt := now, updatedAt := now } } := by
          have hstored : s.stored taskId = some { taskId, goal, scenarioId, createdAt := now, updatedAt := now } :=
            stored_some.mpr ⟨_, (hw taskId).trans (if_pos rfl), rfl⟩
          unfold SQLiteStore.docket
          rw [hstored, ha, hl]
        refine ⟨hlabelled, hundead, ?_, ?_⟩
        · show Place b taskId crashes (s.docket taskId)
          rw [hdocket]
          cases h₁.place with
          | unknown _ hledger happroval =>
            have hread : ([], ToolName.readAlert) ∈ stages := by decide
            refine .going rfl hread (.start rfl rfl rfl rfl rfl rfl) (Nat.zero_le _) rfl rfl (fun tool row _ hrow => ?_) fun _ => happroval
            rw [hledger tool] at hrow
            cases hrow
          | going hcp | gated hcp | finished hcp | ended hcp => rw [hnone] at hcp; cases hcp
        · intro hread
          have hcount := h₁.counted hread
          rw [hnone] at hcount
          show n + remaining (s.docket taskId).checkpoint ≤ 8
          rw [hdocket]
          exact hcount
  · exact h.other e (createIncident_about ..)

/-- Where a waiting workflow is. -/
theorem Place.waiting {p : PendingAction} (h : Place b taskId crashes k) (hk : k.checkpoint = some cp) (hwait : cp.status = .waitingForApproval)
    (hp : cp.pendingAction = some p) : ∃ n row, Reached b beforeRestart .restartService n cp ∧ 1 ≤ n ∧ n ≤ crashes beforeRestart.length + 1 ∧
      Restarting taskId p ∧ Noted b beforeRestart .restartService k.ledger ∧ k.approval = some row ∧ row.status = .pending := by
  have hstill : cp.status.active = false := by rw [hwait]; rfl
  cases h with
  | unknown hnone => rw [hk] at hnone; cases hnone
  | going hcp _ _ _ hact | finished hcp _ hact =>
    rw [hk] at hcp
    cases hcp
    rw [hstill] at hact
    cases hact
  | @gated n cp' p' row hcp hreached hpos hn hp' hrestart hnoted happroval hstatus =>
    rw [hk] at hcp
    cases hcp
    rw [hp] at hp'
    cases hp'
    rcases hstatus with ⟨-, hpending⟩ | ⟨hact, -⟩
    · exact ⟨n, row, hreached, hpos, hn, hrestart, hnoted, happroval, hpending⟩
    · rw [hstill] at hact
      cases hact
  | @ended cp' r hcp _ ho =>
    rw [hk] at hcp
    cases hcp
    have hstatus : cp.status = (b.conclusion r).status := congrArg Outcome.status ho
    rw [hwait] at hstatus
    cases r <;> cases hstatus

theorem save_docketed (h : Docketed taskId k w) (hk : k.checkpoint = some cp) (ht : st.taskId = taskId) (hv : st.version = cp.version) :
    wp (calls env 0) (save st) (fun o w' => ∃ st', o = .ok st' ∧ ∃ t, st' = st.saved t ∧
      Docketed taskId { k with checkpoint := some (st.saved t) } w') w :=
  wp_perform.mpr fun _ _ hs =>
    have ⟨t, ho, h', _⟩ := calls_saved h hk ht hv hs
    ⟨_, ho, t, rfl, h'⟩

theorem granted_found (h : Found b taskId crashes n w) (T actor : String) (reason : Option String) :
    wp (calls env 0) (approve config T actor reason) (fun _ w' => Found b taskId crashes n w') w := by
  by_cases e : taskId = T
  · subst e
    refine wp_bind.mpr (wp_bind.mpr (wp_perform.mpr fun o w₁ hs => ?_))
    have h₁ := h.congr (calls_aloof rfl hs h.docketed)
    obtain ⟨hanswer, hstore⟩ : o = .ok (w₁.store.stored taskId) ∧ w₁.store = w.store := by
      obtain ⟨t, s, -, -, he, rfl⟩ := hs
      obtain ⟨rfl, rfl⟩ := Prod.mk.inj he
      exact ⟨rfl, rfl⟩
    subst hanswer
    clear hs
    cases hst : w₁.store.stored taskId with
    | none => exact h₁
    | some cp =>
      simp only [after, Prog.pure_def, wp_ret]
      split
      · rename_i p hwait hp
        have hk : (w₁.store.docket taskId).checkpoint = some cp := hst
        have htask := h₁.docketed.task hk
        obtain ⟨i, row, hreached, hpos, hi, hrestart, hnoted, -, -⟩ := h₁.place.waiting hk hwait hp
        refine wp_bind.mpr (wp_perform.mpr fun o w₂ hs => ?_)
        obtain ⟨t₂, s, -, -, he, rfl⟩ := hs
        have hlabelled : Labelled s := by
          obtain rfl := congrArg Prod.snd he
          exact apply_labelled (c := .resolveApproval ..) (T := taskId) (o := none) rfl h₁.labelled t₂
        have hundead : Undead taskId s := by
          obtain rfl := congrArg Prod.snd he
          exact h₁.undead.apply (c := .resolveApproval ..) rfl t₂
        rcases SQLiteStore.resolveApproval_cases he with ⟨row', -, -, rfl, hget, hw, -, hl⟩ | ⟨⟨m, rfl⟩, rfl, -⟩
        · obtain ⟨row₂, hrow₂, happroved⟩ : ∃ row₂, s.approvals.get (taskId, restartId taskId) = some row₂ ∧ row₂.status = .approved :=
            ⟨_, (hget _).trans (if_pos (by rw [hrestart.actionId])), rfl⟩
          have hdocket : s.docket taskId = { w₁.store.docket taskId with approval := some row₂ } := by
            unfold SQLiteStore.docket
            rw [hrow₂, stored_congr hw, hl]
          have h₂ : ∀ journal, Docketed taskId { w₁.store.docket taskId with approval := some row₂ } ⟨s, t₂, journal⟩ :=
            fun _ => ⟨hlabelled, hundead, hdocket⟩
          refine wp_seq (save_docketed (h₂ _) hk (by exact htask) rfl) fun st w₃ hq => ?_
          obtain ⟨t₃, rfl, h₃⟩ := hq
          have hfound : ∀ w', Docketed taskId { w₁.store.docket taskId with
              approval := some row₂, checkpoint := some ({ cp with status := .queued }.saved t₃) } w' → Found b taskId crashes n w' := by
            intro w' h'
            refine ⟨h'.labelled, h'.undead, ?_, fun hread => ?_⟩ <;> rw [h'.docket]
            · exact .gated rfl (hreached.congr rfl rfl rfl rfl rfl rfl) hpos hi hp hrestart hnoted rfl (.inr ⟨rfl, happroved⟩)
            · have hcount := h₁.counted hread
              rw [hk, remaining_gated hreached.toolCalls (by show cp.status.terminal = false; rw [hwait]; rfl) hp] at hcount
              rw [remaining_gated (by exact hreached.toolCalls) rfl (by exact hp)]
              exact hcount
          refine wp_bind.mpr (wp_perform.mpr fun o w₄ hs => ?_)
          have h₄ := calls_aloof rfl hs h₃
          cases o with
          | error e => exact hfound _ h₄
          | ok _ =>
            refine wp_bind.mpr (wp_perform.mpr fun o w₅ hs => ?_)
            have h₅ := calls_aloof rfl hs h₄
            cases o with
            | error e => exact hfound _ h₅
            | ok _ => exact hfound _ h₅
        · exact ⟨hlabelled, hundead, h₁.place, h₁.counted⟩
      · exact h₁
  · exact h.other e (approve_about ..)

/-! ## Sequences -/

/-- A worker's run that is not cut off. -/
theorem Found.ran (h : Found b taskId crashes n w)
    (hbetween : Between taskId w (w.store.docket taskId) (Advances b taskId crashes (w.store.docket taskId)) w') :
    Found b taskId crashes (n + delivered taskId w w') w' := by
  unfold delivered
  rcases hbetween with ⟨hsame, h'⟩ | ⟨hnext, h'⟩
  · rw [hsame, Nat.sub_self, ite_self]
    exact h.congr h'
  · refine ⟨h'.labelled, h'.undead, h'.place, fun hread => ?_⟩
    have hcount := h.counted hread
    rw [hnext, Nat.add_sub_cancel_left]
    by_cases hrun : running taskId w.store = true
    · obtain ⟨cp, hcp, hact⟩ := Option.any_eq_true _ _ |>.mp hrun
      have hnear := h'.nearer hread ⟨cp, hcp, hact⟩
      rw [if_pos hrun]
      omega
    · have hnear := h'.near
      rw [if_neg hrun]
      omega

/-- A worker's run that is cut off, anywhere but where it strands the workflow. -/
theorem Found.died (h : Found b taskId crashes n w)
    (hbetween : Between taskId w (w.store.docket taskId) (Lands b taskId crashes (remaining (w.store.docket taskId).checkpoint)) w')
    (hno : ¬ Stranding w') : Found b taskId (crashed taskId crashes w w') n w' := by
  unfold crashed
  rcases hbetween with ⟨hsame, h'⟩ | ⟨hnext, h'⟩
  · rw [if_pos hsame]
    exact h.congr h'
  · rw [if_neg (by omega)]
    refine ⟨h'.labelled, h'.undead, (h'.place hno).allow fun cp hcp => ?_, fun hread => ?_⟩
    · have hdone : toolsDone taskId w'.store = cp.toolCalls := by
        unfold toolsDone
        rw [show w'.store.stored taskId = some cp from hcp]
        rfl
      rw [hdone, Function.update_self]
    · have hcount := h.counted hread
      have hnear := h'.near
      omega

theorem le_crashed (i : Nat) : crashes i ≤ crashed taskId crashes w w' i := by
  unfold crashed
  split
  · exact le_rfl
  · rw [Function.update_apply]
    split
    · rename_i e
      rw [e]
      exact Nat.le_succ _
    · exact le_rfl

theorem Found.note (h : Found b taskId crashes n w) (e : Entry) : Found b taskId crashes n (w.note e) :=
  ⟨h.labelled, h.undead, h.place, h.counted⟩

theorem found_init : Found b taskId crashes 0 World.init := by
  have hunknown : World.init.store.docket taskId = ⟨none, fun _ => none, none⟩ := rfl
  refine ⟨?_, ?_, ?_, ?_⟩
  · intro _ _ h
    cases h
  · intro _ h
    cases h
  · rw [hunknown]
    exact .unknown rfl (fun _ => rfl) rfl
  · intro _
    rw [hunknown]
    decide

theorem worker_between (he : rt.engine = anyEngine) (hb : rt.backend = anyBackend) (hdet : rt.loopDetector = {}) (hfresh : b.Fresh)
    (hfew : ∀ i < steps.length, crashes i ≤ 1) (hrest : Rest (· ≠ none) none w.store) (h : Found b taskId crashes n w) (workerId : String) :
    wpc (calls (.steady b taskId) 0)
      (Between taskId w (w.store.docket taskId) (Lands b taskId crashes (remaining (w.store.docket taskId).checkpoint)))
      ((Operation.runOnce workerId).program rt config)
      (fun _ w' => Between taskId w (w.store.docket taskId) (Advances b taskId crashes (w.store.docket taskId)) w') w := by
  refine wpc_bind (wpc_mono (runOnce_between he hb hdet hfresh hfew hrest h.docketed h.place workerId) fun o w' hK hq => ?_)
  cases o with
  | ok _ => exact ⟨hK, hq⟩
  | error e => exact hq

/-- An operation of an operator. -/
theorem Found.operated {T : String} {p : Py α} {f : α → Reply} {Q : Except PyError α → Unit → Prop} {o : Except PyError Reply}
    (habout : Follows (about T none) p Q ()) (hfound : wp (calls env 0) p (fun _ w' => Found b taskId crashes n w') w)
    (hlabelled : Labelled w.store) (hr : Runs (calls env 0) (p.bind fun a => .ret (f a)) w o w') :
    Found b taskId crashes (n + delivered taskId w w') w' := by
  have hunhanded : Unhanded w w := ⟨hlabelled, rfl⟩
  have hboth := wp_and hfound (wpc_wp (about_unhanded habout hunhanded))
  obtain ⟨h', hu⟩ := wp_sound (wp_reply hboth) hr
  have hsame : claims taskId w'.memory = claims taskId w.memory := by
    unfold claims
    rw [hu.claimed]
  unfold delivered
  rw [hsame, Nat.sub_self, ite_self]
  exact h'

/-- Where the task's workflow is after every sequence of operations. -/
theorem Crashing.found (he : rt.engine = anyEngine) (hb : rt.backend = anyBackend) (hdet : rt.loopDetector = {}) (hfresh : b.Fresh)
    (h : Crashing rt config (.steady b taskId) taskId crashes n w) (hfew : ∀ i < steps.length, crashes i ≤ 1) :
    Found b taskId crashes n w := by
  have hrest : ∀ {crashes : Nat → Nat} {n : Nat} {w : World}, Crashing rt config (.steady b taskId) taskId crashes n w →
      Rest (· ≠ none) none w.store := fun h => sequence_rest he hb (fun w c r _ => asks_any w.store c r) (fun _ hd => hd) h.sequence
  induction h with
  | init => exact found_init
  | @ran crashes n w w' op o h hs hr ih =>
    have hfound := (ih hfew).note (.began 0 op)
    have hstarted : Found b taskId crashes (n + delivered taskId (w.note (.began 0 op)) w') w' → Found b taskId crashes (n + delivered taskId w w') _ :=
      fun h => h.note (.ended 0 o)
    refine hstarted ?_
    have hbase := hrest h
    have hstart : Rest (· ≠ none) none (w.note (.began 0 op)).store := hbase
    cases op with
    | runOnce workerId => exact hfound.ran (wpc_runs (worker_between he hb hdet hfresh hfew hstart hfound workerId) hr)
    | createIncident T goal scenarioId =>
      have habout : About T none (createIncident config T goal scenarioId) fun _ => True := createIncident_about T goal scenarioId
      exact Found.operated habout (created_found hfound T goal scenarioId) hfound.labelled hr
    | approve T actor reason =>
      have habout : About T none (approve config T actor reason) fun _ => True := approve_about T actor reason
      exact Found.operated habout (granted_found hfound T actor reason) hfound.labelled hr
    | heartbeatTick | reject | replay => exact hs.elim
  | @died crashes n w w' workerId h hs hp hd ih =>
    have hbefore := fun i hi => (le_crashed i).trans (hfew i hi)
    have hfound := (ih hbefore).note (.began 0 (.runOnce workerId))
    have hbase := hrest h
    have hstart : Rest (· ≠ none) none (w.note (.began 0 (.runOnce workerId))).store := hbase
    have hdied : Found b taskId (crashed taskId crashes (w.note (.began 0 (.runOnce workerId))) w') n w' :=
      hfound.died (wpc_crash (worker_between he hb hdet hfresh hbefore hstart hfound workerId) hp) hd
    exact hdied.note (.died 0)

/-! ## The end -/

/-- A workflow that has ended was concluded by the engine. -/
theorem Place.concluded (h : Place b taskId crashes k) (hk : k.checkpoint = some cp) (hterm : cp.terminal = true) :
    ∃ r, b.recovered = .ok r ∧ cp.outcome = b.conclusion r := by
  have hstill : cp.status.active = false := by
    cases hact : cp.status.active with
    | false => rfl
    | true =>
      have hlive : cp.terminal = false := active_not_terminal hact
      rw [hlive] at hterm
      cases hterm
  cases h with
  | unknown hnone => rw [hk] at hnone; cases hnone
  | going hcp _ _ _ hact | finished hcp _ hact =>
    rw [hk] at hcp
    cases hcp
    rw [hstill] at hact
    cases hact
  | gated hcp _ _ _ _ _ _ _ hstatus =>
    rw [hk] at hcp
    cases hcp
    rcases hstatus with ⟨hwait, -⟩ | ⟨hact, -⟩
    · rw [WorkflowState.terminal, hwait] at hterm
      cases hterm
    · rw [hstill] at hact
      cases hact
  | @ended cp' r hcp hr ho =>
    rw [hk] at hcp
    cases hcp
    exact ⟨r, hr, ho⟩

theorem remaining_eq_zero (h : remaining (some cp) = 0) : cp.terminal = true := by
  by_contra hlive
  unfold remaining at h
  simp only at h
  rw [if_neg hlive] at h
  omega

/-- With the eighth delivery that was not cut off the workflow has ended. -/
theorem Found.over (h : Found b taskId crashes n w) (hread : b.Readable) :
    n ≤ 8 ∧ (n = 8 → ∃ st, w.store.stored taskId = some st ∧ st.terminal = true) := by
  have hcount : n + remaining (w.store.stored taskId) ≤ 8 := h.counted hread
  refine ⟨by omega, fun hn => ?_⟩
  have hover : remaining (w.store.stored taskId) = 0 := by omega
  cases hst : w.store.stored taskId with
  | none =>
    rw [hst] at hover
    cases hover
  | some st =>
    rw [hst] at hover
    exact ⟨st, rfl, remaining_eq_zero hover⟩

/-- Two workflows that have ended have ended alike. -/
theorem Found.alike {crashes' : Nat → Nat} {n' : Nat} {st' : WorkflowState} (h : Found b taskId crashes n w)
    (h' : Found b taskId crashes' n' w') (hst : w.store.stored taskId = some st) (hst' : w'.store.stored taskId = some st')
    (hterm : st.terminal = true) (hterm' : st'.terminal = true) : st.outcome = st'.outcome := by
  obtain ⟨r, hr, ho⟩ := h.place.concluded hst hterm
  obtain ⟨r', hr', ho'⟩ := h'.place.concluded hst' hterm'
  obtain rfl : r = r' := Except.ok.inj (hr.symm.trans hr')
  exact ho.trans ho'.symm

/-- Two runs of an incident under the deterministic engine with the default loop detector, and under a backend whose answers are
    a function of the tool, its arguments and the completed steps. However their workers died, anywhere but where they strand
    the workflow and at most once between two tool checkpoints: where the engine can read the verification a run has ended
    with the eighth delivery that was not cut off, and the two end alike. -/
theorem crashes_unseen (rt : WorkflowRuntime) (config : Settings) (b : PureBackend) (hfresh : b.Fresh)
    {crashes' : Nat → Nat} {n' : Nat}
    (h : Crashing { rt with engine := anyEngine, backend := anyBackend, loopDetector := {} } config (.steady b taskId) taskId crashes n w)
    (hfew : ∀ i < steps.length, crashes i ≤ 1)
    (h' : Crashing { rt with engine := anyEngine, backend := anyBackend, loopDetector := {} } config (.steady b taskId) taskId crashes' n' w')
    (hfew' : ∀ i < steps.length, crashes' i ≤ 1) :
    (b.Readable → n ≤ 8 ∧ (n = 8 → ∃ st, w.store.stored taskId = some st ∧ st.terminal = true)) ∧
    ∀ st st', w.store.stored taskId = some st → w'.store.stored taskId = some st' → st.terminal = true → st'.terminal = true →
      st.outcome = st'.outcome := by
  have hfound := h.found rfl rfl rfl hfresh hfew
  have hfound' := h'.found rfl rfl rfl hfresh hfew'
  exact ⟨hfound.over, fun _ _ hst hst' hterm hterm' => hfound.alike hfound' hst hst' hterm hterm'⟩

/-- The deterministic engine with the default loop detector, and a backend whose answers are a function of the
    tool, its arguments and the completed steps, for an incident whose restart is approved. However its workers
    died, anywhere but where they strand the workflow and at most once between two tool checkpoints: it ends as
    it does when nobody dies, after eight deliveries at most that were not cut off; until then its approval
    is pending or a delivery of it is live. -/
theorem crash_transparent (rt : WorkflowRuntime) (config : Settings) (b : PureBackend) (hfresh : b.Fresh)
    (h : Crashing { rt with engine := anyEngine, backend := anyBackend, loopDetector := {} } config (.steady b taskId) taskId crashes n w)
    (hfew : ∀ i < steps.length, crashes i ≤ 1) :
    (b.Readable → n ≤ 8 ∧ (n = 8 → ∃ st, w.store.stored taskId = some st ∧ st.terminal = true)) ∧
    ∀ st, w.store.stored taskId = some st →
      (st.terminal = true → (∃ recovered, b.recovered = .ok recovered ∧ st.outcome = b.conclusion recovered) ∧
        ∀ {n' : Nat} {w' : World} {st' : WorkflowState},
          Crashing { rt with engine := anyEngine, backend := anyBackend, loopDetector := {} } config (.steady b taskId) taskId (fun _ => 0) n' w' →
          w'.store.stored taskId = some st' → st'.terminal = true → st.outcome = st'.outcome) ∧
      (st.status = .waitingForApproval → ∃ p row, st.pendingAction = some p ∧ w.store.approvals.get (taskId, p.actionId) = some row ∧
        row.status = .pending) ∧
      (st.status.active = true → ∃ id row, w.store.queue.get id = some row ∧ row.taskId = taskId ∧
        (row.status = .pending ∨ row.status = .processing)) := by
  have hfound := h.found rfl rfl rfl hfresh hfew
  have hrest := sequence_rest rfl rfl (fun w c r _ => asks_any w.store c r) (fun _ hd => hd) h.sequence
  refine ⟨hfound.over, fun st hst => ⟨fun hterm => ⟨hfound.place.concluded hst hterm, fun h' hst' hterm' => ?_⟩, fun hwait => ?_,
    fun hact => ?_⟩⟩
  · have hfound' := h'.found rfl rfl rfl hfresh fun _ _ => Nat.zero_le 1
    exact hfound.alike hfound' hst hst' hterm hterm'
  · obtain ⟨row, hrow, rfl⟩ := stored_some.mp hst
    obtain ⟨p, hp, -⟩ := hrest.gate taskId row hrow hwait
    obtain ⟨i, arow, -, -, -, hrestart, -, happroval, hpending⟩ := hfound.place.waiting hst hwait hp
    refine ⟨p, arow, hp, ?_, hpending⟩
    rw [hrestart.actionId]
    exact happroval
  · obtain ⟨row, hrow, rfl⟩ := stored_some.mp hst
    obtain ⟨id, q, hq, ht, hlive⟩ := hrest.live taskId row nofun hrow hact
    refine ⟨id, q, hq, ht, ?_⟩
    have hundead := hfound.undead id
    cases hs : q.status with
    | pending => exact .inl rfl
    | processing => exact .inr rfl
    | completed => exact absurd hs hlive
    | dead => exact absurd (rowStatus_some.mpr ⟨q, hq, ht, hs⟩) hundead

/-! ## A worker that dies once -/

def Entry.isDeath : Entry → Bool
  | .died _ => true
  | _ => false

def World.deaths (w : World) : Nat := w.journal.countP Entry.isDeath

theorem partial_deaths {p : Py α} (hp : Partial (calls env 0) p w w') : w'.deaths = w.deaths := by
  induction hp with
  | here => rfl
  | call hs _ ih =>
    obtain ⟨_, _, -, -, -, rfl⟩ := hs
    exact ih.trans (List.countP_cons_of_neg (by simp [Entry.isDeath]))

theorem crashed_le (i : Nat) : crashed taskId crashes w w' i ≤ crashes i + 1 := by
  unfold crashed
  split
  · exact Nat.le_succ _
  · rw [Function.update_apply]
    split
    · rename_i e
      rw [e]
    · exact Nat.le_succ _

/-- No more deaths on a task's deliveries than there are. -/
theorem Sequence.crashing (h : Sequence rt config env w) (taskId : String) :
    ∃ crashes n, Crashing rt config env taskId crashes n w ∧ ∀ i, crashes i ≤ w.deaths := by
  induction h with
  | init => exact ⟨_, _, .init, fun _ => Nat.zero_le _⟩
  | @ran w w' op o _ hs hr ih =>
    obtain ⟨crashes, n, h, hle⟩ := ih
    refine ⟨_, _, h.ran hs hr, fun i => (hle i).trans ?_⟩
    have hsame := partial_deaths hr.stops
    exact hsame.ge
  | @died w w' workerId _ hs hp hd ih =>
    obtain ⟨crashes, n, h, hle⟩ := ih
    refine ⟨_, _, h.died hs hp hd, fun i => (crashed_le i).trans ?_⟩
    have hsame : w'.deaths = (w.note (.began 0 (.runOnce workerId))).deaths := partial_deaths hp
    have hone : (w'.note (.died 0)).deaths = w'.deaths + 1 := List.countP_cons_of_pos rfl
    rw [hone, hsame]
    exact Nat.succ_le_succ (hle i)

/-- What the tools answer. -/
def calm : ToolName → Json
  | .verifyRecovery => .obj [("error_rate_percent", .str "0")]
  | _ => .obj [("healthy", .bool true)]

def calmBackend : PureBackend := ⟨fun tool _ _ => calm tool, fun tool _ _ => by cases tool <;> rfl⟩

theorem calmBackend_fresh : calmBackend.Fresh := by
  intro done tool hstage
  rw [stages_eq] at hstage
  simp only [List.mem_cons, Prod.mk.injEq, List.not_mem_nil, or_false] at hstage
  rcases hstage with ⟨rfl, rfl⟩ | ⟨rfl, rfl⟩ | ⟨rfl, rfl⟩ | ⟨rfl, rfl⟩ | ⟨rfl, rfl⟩ | ⟨rfl, rfl⟩ <;> decide +kernel

def calmly (_ : World) (c : Call) (r : Except PyError c.Ret) : Bool :=
  asDecided true c r && match c, r with
  | .execute _ tool .., r => sameAnswer r (.ok (calm tool))
  | _, _ => true

theorem calmly_allows (w : World) (c : Call) (r : Except PyError c.Ret) (h : calmly w c r = true) :
    (Env.steady calmBackend "t").allows 0 w c r := by
  obtain ⟨hdecides, h⟩ := Bool.and_eq_true _ _ ▸ h
  refine ⟨asDecided_sound hdecides, ?_⟩
  cases c with
  | execute st tool arguments n => exact fun _ => sameAnswer_eq h
  | _ => trivial

theorem executedLast_steady (w : World) (h : executedLast w = true) : (Env.steady calmBackend "t").dies 0 w :=
  executedLast_unstranded w h

/-- A delivery after the dead worker's lease, which runs a tool. -/
def takesOver (tool : ToolName) (decision : AgentDecision) : Act :=
  ⟨.runOnce "w1", deciding decision 61000000 ++ unasked 2 61000000 ++ [.result 61000000 (.ok (calm tool))] ++ unasked 7 61000000, false⟩

open DeterministicDecisionEngine in
/-- The tools one after another, of which the restart is approved, and the workflow's completion. -/
def goesThrough : List Act :=
  sequence.map (fun x => takesOver x.1 x.2) ++
  [⟨.runOnce "w1", deciding restart 61000000 ++ unasked 7 61000000, false⟩,
   ⟨.approve "t" "operator" none, unasked 5 61000000, false⟩,
   ⟨.runOnce "w1", unasked 5 61000000 ++ [.result 61000000 (.ok (calm .restartService))] ++ unasked 7 61000000, false⟩,
   takesOver .verifyRecovery verify,
   ⟨.runOnce "w1", deciding complete 61000000 ++ unasked 5 61000000, false⟩]

/-- A worker dies when it has read the alert; after its lease another one reads it again. -/
def diesOnce : List Act :=
  [createsAct, ⟨.runOnce "w1", deciding alertRequest ++ unasked 2 ++ [.result 0 (.ok (calm .readAlert))], true⟩] ++ goesThrough

def completedAfter (deaths : Nat) (w : World) : Bool := statusIs w .completed && decide (w.deaths = deaths)

theorem diesOnce_plays : (Sequence.play {} {} calmly executedLast diesOnce World.init).any (completedAfter 1) = true := by
  decide +kernel

theorem goesThrough_plays : (Sequence.play {} {} calmly executedLast (createsAct :: goesThrough) World.init).any (completedAfter 0) = true := by
  decide +kernel

/-- A written run that completes the workflow. -/
theorem plays_crashing {acts : List Act} {deaths : Nat} (hstarts : acts.all operates = true)
    (hplays : (Sequence.play {} {} calmly executedLast acts World.init).any (completedAfter deaths) = true) :
    ∃ crashes n w st, Crashing {} {} (.steady calmBackend "t") "t" crashes n w ∧ (∀ i, crashes i ≤ deaths) ∧ w.deaths = deaths ∧
      w.store.stored "t" = some st ∧ st.terminal = true := by
  obtain ⟨w, h, hw⟩ : ∃ w, Sequence {} {} (.steady calmBackend "t") w ∧ _ :=
    Sequence.play_exists calmly_allows executedLast_steady (@operates_starts (alertOutage 1) "t" _ hstarts) hplays
  obtain ⟨hstatus, hdeaths⟩ := Bool.and_eq_true _ _ ▸ hw
  obtain ⟨st, hst, hcompleted⟩ := statusIs_stored hstatus
  obtain ⟨crashes, n, hcrashing, hle⟩ := h.crashing "t"
  have hdeaths := of_decide_eq_true hdeaths
  exact ⟨crashes, n, w, st, hcrashing, fun i => (hle i).trans hdeaths.le, hdeaths, hst, by rw [WorkflowState.terminal, hcompleted]; rfl⟩

theorem calmBackend_recovered : calmBackend.recovered = .ok true := by decide +kernel

theorem crashes_unseen_once : ∃ (w w' : World) (st st' : WorkflowState), w.deaths = 1 ∧ w'.deaths = 0 ∧ w.store.stored "t" = some st ∧
    w'.store.stored "t" = some st' ∧ st.outcome = st'.outcome := by
  obtain ⟨crashes, n, w, st, h, hfew, hdeaths, hst, hterm⟩ := plays_crashing (by decide) diesOnce_plays
  obtain ⟨crashes', n', w', st', h', hfew', hdeaths', hst', hterm'⟩ := plays_crashing (by decide) goesThrough_plays
  have halike := crashes_unseen {} {} calmBackend calmBackend_fresh h (fun i _ => hfew i) h'
    fun i _ => (hfew' i).trans (Nat.zero_le 1)
  exact ⟨w, w', st, st', hdeaths, hdeaths', hst, hst', halike.2 st st' hst hst' hterm hterm'⟩

theorem crash_transparent_once : ∃ crashes n w st, Crashing {} {} (.steady calmBackend "t") "t" crashes n w ∧ n ≤ 8 ∧ w.deaths = 1 ∧
    w.store.stored "t" = some st ∧ st.outcome = calmBackend.conclusion true := by
  obtain ⟨crashes, n, w, st, h, hfew, hdeaths, hst, hterm⟩ := plays_crashing (by decide) diesOnce_plays
  obtain ⟨hcount, hends⟩ := crash_transparent {} {} calmBackend calmBackend_fresh h fun i _ => hfew i
  obtain ⟨recovered, hr, hout⟩ := ((hends st hst).1 hterm).1
  obtain rfl : recovered = true := by simpa [calmBackend_recovered] using hr.symm
  exact ⟨crashes, n, w, st, h, (hcount ⟨true, calmBackend_recovered⟩).1, hdeaths, hst, hout⟩

end AgentResilience
