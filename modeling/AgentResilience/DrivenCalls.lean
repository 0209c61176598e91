/-
  AgentResilience.DrivenCalls — every call of a program keeps the drivers. `DrivenObs` is
  what a program knows when it makes a call, by the phase it is in; each lemma below is
  the effect of one call on the workflow it is for.
-/
import AgentResilience.Driven

namespace AgentResilience

open Interaction

/-- What is known of a save, of the checkpoint it replaces. -/
def SaveObs (det : LoopDetector) (i : ThreadId) (w : World) (st : WorkflowState) (v : Nat) (old : WorkflowState) : Prop :=
  Change det Set.univ old st ∧
  match phase i w.journal with
  | .holding d seen => st.taskId = d.taskId ∧ old.status.active = true ∧ ∃ cp, seen = some cp ∧ cp.status.active = true
  | .owing => False
  | .failing r => concerning i w.journal = some st.taskId ∧ r = some v ∧ st.status = .failed
  | .free => st.status ≠ .waitingForApproval ∧ (st.status.active = true → st.status = .queued ∧
      old.status = .waitingForApproval ∧ concerning i w.journal = some st.taskId ∧
      ∀ p, st.pendingAction = some p → w.store.approvalStatus st.taskId p.actionId = some .approved)

def DrivenObs (det : LoopDetector) (i : ThreadId) (w : World) : Call → Prop
  | .store c => StoreObs det Set.univ c w.store ∧
    match c with
    | .claim .. | .replayDeadLetter .. | .createWorkflow .. => phase i w.journal = .free
    | .getWorkflow taskId =>
      match phase i w.journal with
      | .holding d seen => d.taskId = taskId ∧ seen = none
      | .failing r => concerning i w.journal = some taskId ∧ r = none
      | _ => True
    | .saveWorkflow st v =>
      (∀ r, phase i w.journal = .failing r → concerning i w.journal = some st.taskId ∧ r = some v) ∧
      ∀ row, w.store.workflows.get st.taskId = some row → row.version = v → SaveObs det i w st v row.stateJson
    | .acknowledge id => ∃ d st, phase i w.journal = .holding d (some st) ∧ d.id = id
    | .retryOrDeadLetter d _ _ => ∃ st, phase i w.journal = .holding d (some st) ∧ st.status.active = true
    | .enqueue taskId _ => phase i w.journal = .owing ∧ concerning i w.journal = some taskId
    | _ => True
  | _ => True

variable {det : LoopDetector} {w : World} {i : ThreadId} {s' : SQLiteStore} {t : Timestamp} {d : QueueDelivery} {seen : Option WorkflowState}

/-! ## The row a worker holds -/

theorem held_row (hi : DrivenInv w) (hl : HoldsLease i w) (hp : phase i w.journal = .holding d seen) :
    rowStatus d.taskId w.store d.id = some .processing ∧ claimant d.id w.journal = some i := by
  obtain ⟨hcl, row, u, hr, hst, -, -⟩ := hl d seen hp
  obtain ⟨row', hr', ht⟩ := hi.held i d seen hp
  rw [hr] at hr'
  cases hr'
  exact ⟨rowStatus_some.mpr ⟨row, hr, ht, hst⟩, hcl⟩

/-- A row whose claimant has not seen its workflow inactive is not spent. -/
theorem not_spent (hp : phase i w.journal = .holding d seen) (hcl : claimant d.id w.journal = some i)
    (hs : ∀ st, seen = some st → st.status.active = true) : ¬ Spent w d.id := by
  intro h
  obtain ⟨k, d', st, hp', hst, hd, hcl'⟩ := h
  rw [hcl] at hcl'
  cases hcl'
  rw [hp] at hp'
  cases hp'
  rw [hs st rfl] at hst
  cases hst

theorem held_drives (hi : DrivenInv w) (hl : HoldsLease i w) (hp : phase i w.journal = .holding d seen)
    (hs : ∀ st, seen = some st → st.status.active = true) : Drives w d.taskId (.row d.id) := by
  obtain ⟨hrow, hcl⟩ := held_row hi hl hp
  exact ⟨.processing, hrow, by decide, fun h => not_spent hp hcl hs h.2⟩

/-- Rows of another task are not the row a worker holds. -/
theorem held_other (hi : DrivenInv w) (hp : phase i w.journal = .holding d seen) {taskId : String} (hne : d.taskId ≠ taskId) :
    rowStatus taskId w.store d.id = none := by
  obtain ⟨row, hr, ht⟩ := hi.held i d seen hp
  simp [rowStatus, hr, ht, hne]

/-- Rows after a change of row `n`. -/
theorem rowStatus_at {s : SQLiteStore} {n : Nat} {g : QueueRow → QueueRow} {st : QueueStatus}
    (hq : ∀ id, s'.queue.get id = (s.queue.get id).map fun r => if id = n then g r else r)
    (hg : ∀ r, (g r).taskId = r.taskId ∧ (g r).status = st) (taskId : String) (id : Nat) :
    rowStatus taskId s' id = (rowStatus taskId s id).map fun x => if id = n then st else x := by
  unfold rowStatus
  rw [hq]
  cases s.queue.get id with
  | none => rfl
  | some r =>
    by_cases e : id = n
    · by_cases ht : r.taskId = taskId <;> simp [e, hg, ht]
    · by_cases ht : r.taskId = taskId <;> simp [e, ht]

/-- A phase that holds no delivery seen inactive leaves no row spent. -/
theorem unspent_of {c : Call} {r : Except PyError c.Ret} (hc : c.claimed r = none)
    (h : ∀ d st, (phase i w.journal).after c r = .holding d (some st) → st.status.active = true) {id : Nat}
    (hs : Spent ⟨s', t, .did i c r :: w.journal⟩ id) : Spent w id := by
  refine spent_other hc ?_ hs
  intro d st hp hst _
  rw [h d st hp] at hst; cases hst

theorem spent_of {c : Call} {r : Except PyError c.Ret} (hc : c.claimed r = none)
    (h : ∀ d st, phase i w.journal = .holding d (some st) → st.status.active = true) {id : Nat}
    (hs : Spent w id) : Spent ⟨s', t, .did i c r :: w.journal⟩ id := by
  refine spent_kept hc ?_ hs
  intro d st hp hst _
  rw [h d st hp] at hst; cases hst

/-! ## Reads -/

/-- A worker reads the checkpoint of its delivery: if it is inactive the delivery is spent from now on. -/
theorem read_good {r : Except PyError (Option WorkflowState)} (hr : r = .ok (w.store.getWorkflow d.taskId))
    (hp : phase i w.journal = .holding d none) (h : Good w d.taskId) :
    Good ⟨w.store, t, .did i (.store (.getWorkflow d.taskId)) r :: w.journal⟩ d.taskId := by
  subst hr
  have hafter : (phase i w.journal).after (.store (.getWorkflow d.taskId)) (.ok (w.store.getWorkflow d.taskId)) =
      .holding d (w.store.getWorkflow d.taskId) := by rw [hp]; rfl
  have hback : ∀ {x}, Drives ⟨w.store, t, .did i (.store (.getWorkflow d.taskId)) (.ok (w.store.getWorkflow d.taskId)) ::
      w.journal⟩ d.taskId x → Drives w d.taskId x := drives_back rfl (fun _ _ h _ => h)
    (fun _ _ hs => spent_of rfl (by intro d' st' hp'; rw [hp] at hp'; cases hp') hs)
    (by intro _ ho; rw [hafter] at ho; cases ho)
  refine h.shrink (fun id st hr hst => ⟨st, hr, hst⟩) (fun x hx => hback hx) ?_ (fun hh x hx => h.halted hh x (hback hx))
  intro hact
  refine ⟨hact, fun x hx he => drives_on (fun _ _ h _ _ => h) ?_ (fun _ _ _ _ => rfl) ?_ hx he⟩
  · intro id _ hs
    refine unspent_of rfl ?_ hs
    intro d' st' hp'
    rw [hafter] at hp'
    obtain ⟨row, hrow, hact⟩ := hact
    simp [SQLiteStore.getWorkflow, hrow] at hp'
    rw [← hp'.2]; exact hact
  · intro e
    subst e
    have := hx.2
    rw [hp] at this; cases this

/-- A thread reads the checkpoint it has to save as failed. -/
theorem readToFail_good (hi : StoreOk Set.univ w.store) {taskId : String} {r : Except PyError (Option WorkflowState)}
    (hr : r = .ok (w.store.getWorkflow taskId)) (hp : phase i w.journal = .failing none)
    (htask : concerning i w.journal = some taskId) (h : Good w taskId) :
    Good ⟨w.store, t, .did i (.store (.getWorkflow taskId)) r :: w.journal⟩ taskId := by
  subst hr
  have hnot : ∀ d st, (phase i w.journal).after (.store (.getWorkflow taskId)) (.ok (w.store.getWorkflow taskId)) ≠
      .holding d (some st) := by
    intro d st
    rw [hp]
    simp only [Phase.after]
    cases w.store.getWorkflow taskId with
    | none => simp
    | some st' => simp only [Option.elim_some]; split <;> simp
  have hback : ∀ {x}, Drives ⟨w.store, t, .did i (.store (.getWorkflow taskId)) (.ok (w.store.getWorkflow taskId)) ::
      w.journal⟩ taskId x → Drives w taskId x := drives_back rfl (fun _ _ h _ => h)
    (fun _ _ hs => spent_of rfl (by intro d' st' hp'; rw [hp] at hp'; cases hp') hs) (by intro _ _; rw [hp]; rfl)
  refine h.shrink (fun id st hr hst => ⟨st, hr, hst⟩) (fun x hx => hback hx) ?_ (fun hh x hx => h.halted hh x (hback hx))
  intro hact
  refine ⟨hact, fun x hx he => ?_⟩
  by_cases e : x = .thread i
  · subst e
    obtain ⟨row, hrow, hact⟩ := hact
    have hget : w.store.getWorkflow taskId = some row.stateJson := by simp [SQLiteStore.getWorkflow, hrow]
    have hterm : row.stateJson.terminal = false := active_not_terminal hact
    have hafter : phase i (.did i (.store (.getWorkflow taskId)) (.ok (w.store.getWorkflow taskId)) :: w.journal) =
        .failing (some row.stateJson.version) := by
      rw [phase_did, hp, hget]; simp [Phase.after, hterm]
    refine ⟨⟨by rw [concerning_did rfl]; exact htask, by rw [hafter]; rfl⟩, fun v hv row' hrow' => ?_⟩
    rw [hafter] at hv
    cases hv
    obtain rfl : row = row' := Option.some.inj (hrow.symm.trans hrow')
    exact hi.version taskId row hrow
  · exact drives_on (fun _ _ h _ _ => h) (fun _ _ hs => unspent_of rfl (fun d st hp => absurd hp (hnot d st)) hs)
      (fun _ _ _ _ => rfl) e hx he

theorem getWorkflow_good (hi : DrivenInv w) {taskId : String}
    (ho : DrivenObs det i w (.store (.getWorkflow taskId))) {r : Except PyError (Option WorkflowState)}
    (hr : r = .ok (w.store.getWorkflow taskId)) {task : String} (h : Good w task) :
    Good ⟨w.store, t, .did i (.store (.getWorkflow taskId)) r :: w.journal⟩ task := by
  have hsame : ∀ x, w.store.approvalStatus task x = some .approved → w.store.approvalStatus task x = some .approved :=
    fun _ h => h
  by_cases htask : concerning i w.journal = some task
  · have ho := ho.2
    cases hp : phase i w.journal with
    | free | owing => exact h.untouched hi rfl (fun _ => rfl) rfl hsame (.inl (by rw [hp, hr]; rfl))
    | holding d seen =>
      simp only [hp] at ho
      obtain ⟨rfl, rfl⟩ := ho
      obtain rfl : d.taskId = task := Option.some.inj ((holding_concerning hp).symm.trans htask)
      exact read_good hr hp h
    | failing r' =>
      simp only [hp] at ho
      obtain ⟨ho, rfl⟩ := ho
      obtain rfl : taskId = task := Option.some.inj (ho.symm.trans htask)
      exact readToFail_good hi.store hr hp htask h
  · exact h.untouched hi rfl (fun _ => rfl) rfl hsame (.inr htask)

/-! ## Saves -/

section Saves

variable {st st' : WorkflowState} {v : Nat} {row : WorkflowRow} {taskId : String}

/-- What a save leaves of a workflow that is not halted. -/
theorem not_halted_saved {x : WorkflowRow} (hw : s'.workflows.get taskId = some x) (hx : x.stateJson.status ≠ .waitingForApproval)
    (hp : ∀ p, x.stateJson.pendingAction = some p → s'.approvalStatus taskId p.actionId = some .approved) :
    ¬ Halted taskId s' := by
  intro hh
  obtain ⟨row', hr', hst⟩ := hh
  rw [hw] at hr'
  cases hr'
  rcases hst with hst | ⟨p, hp', hne⟩
  · exact hx hst
  · exact hne (hp p hp')

theorem pending_approved (hr : w.store.workflows.get taskId = some row) (hh : ¬ Halted taskId w.store) {p : PendingAction}
    (hp : row.stateJson.pendingAction = some p) : w.store.approvalStatus taskId p.actionId = some .approved := by
  by_contra hne
  exact hh ⟨row, hr, .inr ⟨p, hp, hne⟩⟩

/-- A worker saves its delivery's checkpoint as active: its row stays the driver. -/
theorem saveActive_good (hi : DrivenInv w) (hl : HoldsLease i w) {cp : WorkflowState}
    (hp : phase i w.journal = .holding d (some cp)) (hcp : cp.status.active = true) (h : Good w d.taskId)
    (hr : w.store.workflows.get d.taskId = some row) {x : WorkflowRow} (hw : s'.workflows.get d.taskId = some x)
    (hx : x.stateJson.status.active = true)
    (hpend : ∀ p, x.stateJson.pendingAction = some p → row.stateJson.pendingAction = some p)
    (hq : s'.queue = w.store.queue) (ha : s'.approvals = w.store.approvals) {c : StoreCall} {r : Except PyError c.Ret}
    (hc : (Call.store c).claimed r = none) (hafter : (phase i w.journal).after (.store c) r = .holding d (some st'))
    (hst' : st'.status.active = true) : Good ⟨s', t, .did i (.store c) r :: w.journal⟩ d.taskId := by
  have hX := held_drives hi hl hp (by intro st e; cases e; exact hcp)
  have hstatus : ∀ a, s'.approvalStatus d.taskId a = w.store.approvalStatus d.taskId a := by
    intro a; unfold SQLiteStore.approvalStatus; rw [ha]
  have hback : ∀ {y}, Drives ⟨s', t, .did i (.store c) r :: w.journal⟩ d.taskId y → Drives w d.taskId y :=
    drives_back hc (by rw [rowStatus_queue hq]; exact fun _ _ h _ => h)
      (fun _ _ hs => spent_of hc (by intro d' st' hp'; rw [hp] at hp'; cases hp'; exact hcp) hs)
      (by intro _ ho; rw [hafter] at ho; cases ho)
  refine Good.single (by simp only [rowStatus_queue hq]; exact h.one) (fun y hy => h.only hX y (hback hy)) ?_ trivial ?_
  · obtain ⟨hrow, hcl⟩ := held_row hi hl hp
    refine ⟨.processing, by rw [rowStatus_queue hq]; exact hrow, by decide, fun hs => not_spent hp hcl ?_ (unspent_of hc ?_ hs.2)⟩
    · intro st e; cases e; exact hcp
    · intro d' st hp'
      rw [hafter] at hp'; cases hp'; exact hst'
  · refine not_halted_saved hw ?_ fun p hp' => ?_
    · intro e; rw [e] at hx; cases hx
    · rw [hstatus]; exact pending_approved hr (h.not_halted hX) (hpend p hp')

/-- A worker saves its delivery's checkpoint as inactive: its delivery is spent, and nobody drives the workflow. -/
theorem saveInactive_good (hi : DrivenInv w) (hl : HoldsLease i w) {cp : WorkflowState}
    (hp : phase i w.journal = .holding d (some cp)) (hcp : cp.status.active = true) (h : Good w d.taskId)
    {x : WorkflowRow} (hw : s'.workflows.get d.taskId = some x) (hx : x.stateJson.status.active = false)
    (hq : s'.queue = w.store.queue) {c : StoreCall} {r : Except PyError c.Ret}
    (hc : (Call.store c).claimed r = none) (hafter : (phase i w.journal).after (.store c) r = .holding d (some st'))
    (hst' : st'.status.active = false) : Good ⟨s', t, .did i (.store c) r :: w.journal⟩ d.taskId := by
  have hX := held_drives hi hl hp (by intro st e; cases e; exact hcp)
  have hback : ∀ {y}, Drives ⟨s', t, .did i (.store c) r :: w.journal⟩ d.taskId y → Drives w d.taskId y :=
    drives_back hc (by rw [rowStatus_queue hq]; exact fun _ _ h _ => h)
      (fun _ _ hs => spent_of hc (by intro d' st' hp'; rw [hp] at hp'; cases hp'; exact hcp) hs)
      (by intro _ ho; rw [hafter] at ho; cases ho)
  refine h.shrink (by rw [rowStatus_queue hq]; exact fun id st hr hst => ⟨st, hr, hst⟩) (fun y hy => hback hy) ?_ ?_
  · intro hact
    obtain ⟨row', hr', hact⟩ := hact
    rw [hw] at hr'
    cases hr'
    rw [hx] at hact; cases hact
  · intro _ y hy
    obtain rfl := h.only hX y (hback hy)
    obtain ⟨st, hst, -, hs⟩ := hy
    obtain ⟨hrow, hcl⟩ := held_row hi hl hp
    rw [rowStatus_queue hq] at hst
    refine hs ⟨Option.some.inj (hst.symm.trans hrow), i, d, st', by rw [phase_did]; exact hafter, hst', rfl, ?_⟩
    rw [claimant_did hc]; exact hcl

/-- An approval: nobody drove the waiting workflow, and now the approving thread does. -/
theorem approveSave_good (hp : phase i w.journal = .free) (htask : concerning i w.journal = some taskId) (h : Good w taskId)
    (hr : w.store.workflows.get taskId = some row) (hst : row.stateJson.status = .waitingForApproval)
    {x : WorkflowRow} (hw : s'.workflows.get taskId = some x) (hx : x.stateJson.status = .queued)
    (hpend : ∀ p, x.stateJson.pendingAction = some p → s'.approvalStatus taskId p.actionId = some .approved)
    (hq : s'.queue = w.store.queue) {c : StoreCall} {r : Except PyError c.Ret}
    (hc : (Call.store c).claimed r = none) (hafter : (phase i w.journal).after (.store c) r = .owing) :
    Good ⟨s', t, .did i (.store c) r :: w.journal⟩ taskId := by
  have hnone := h.halted ⟨row, hr, .inl hst⟩
  refine Good.single (by simp only [rowStatus_queue hq]; exact h.one) (fun y hy => ?_)
    ((drives_thread hc).mpr ⟨htask, by rw [hafter]; rfl⟩) ?_ (not_halted_saved hw (by rw [hx]; decide) hpend)
  · by_contra hne
    refine hnone y ?_
    cases y with
    | row id =>
      obtain ⟨st, hst, hnc, hs⟩ := hy
      rw [rowStatus_queue hq] at hst
      refine ⟨st, hst, hnc, fun hsp => hs ⟨hsp.1, spent_of hc ?_ hsp.2⟩⟩
      intro d' st' hp'; rw [hp] at hp'; cases hp'
    | thread k => exact (drives_other (by intro e; exact hne (by rw [e]))).mp hy
  · intro v hv
    have : phase i (.did i (.store c) r :: w.journal) = .owing := by rw [phase_did]; exact hafter
    rw [this] at hv; cases hv

/-- A save that leaves the workflow inactive, by a thread that holds no delivery. -/
theorem endSave_good (hp : ∀ d seen, phase i w.journal ≠ .holding d seen) (h : Good w taskId)
    (hr : w.store.workflows.get taskId = some row) {x : WorkflowRow} (hw : s'.workflows.get taskId = some x)
    (hx : x.stateJson.status.active = false) (hwait : x.stateJson.status ≠ .waitingForApproval)
    (hpend : ∀ p, x.stateJson.pendingAction = some p → row.stateJson.pendingAction = some p)
    (hq : s'.queue = w.store.queue) (ha : s'.approvals = w.store.approvals) {c : StoreCall} {r : Except PyError c.Ret}
    (hc : (Call.store c).claimed r = none) (hafter : (phase i w.journal).after (.store c) r = .free) :
    Good ⟨s', t, .did i (.store c) r :: w.journal⟩ taskId := by
  have hback : ∀ {y}, Drives ⟨s', t, .did i (.store c) r :: w.journal⟩ taskId y → Drives w taskId y :=
    drives_back hc (by rw [rowStatus_queue hq]; exact fun _ _ h _ => h)
      (fun _ _ hs => spent_of hc (by intro d' st' hp'; exact absurd hp' (hp d' _)) hs)
      (by intro _ ho; rw [hafter] at ho; cases ho)
  refine h.shrink (by rw [rowStatus_queue hq]; exact fun id st hr hst => ⟨st, hr, hst⟩) (fun y hy => hback hy) ?_ ?_
  · intro hact
    obtain ⟨row', hr', hact⟩ := hact
    rw [hw] at hr'
    cases hr'
    rw [hx] at hact; cases hact
  · intro hh y hy
    refine h.halted ?_ y (hback hy)
    obtain ⟨row', hr', hst⟩ := hh
    rw [hw] at hr'
    cases hr'
    rcases hst with hst | ⟨p, hp', hne⟩
    · exact absurd hst hwait
    · refine ⟨row, hr, .inr ⟨p, hpend p hp', ?_⟩⟩
      unfold SQLiteStore.approvalStatus at hne ⊢
      rw [← ha]; exact hne

/-- A refused save to fail a workflow: the version has moved, so somebody else drives it if it is active. -/
theorem refusedSave_good (hp : phase i w.journal = .failing (some v)) (h : Good w taskId)
    (hne : ∀ row, w.store.workflows.get taskId = some row → row.version ≠ v) {c : StoreCall} {r : Except PyError c.Ret}
    (hc : (Call.store c).claimed r = none) (hafter : (phase i w.journal).after (.store c) r = .free) :
    Good ⟨w.store, t, .did i (.store c) r :: w.journal⟩ taskId := by
  have hnot : ∀ d seen, phase i w.journal ≠ .holding d seen := by rw [hp]; simp
  have hback : ∀ {y}, Drives ⟨w.store, t, .did i (.store c) r :: w.journal⟩ taskId y → Drives w taskId y :=
    drives_back hc (fun _ _ h _ => h) (fun _ _ hs => spent_of hc (by intro d' st' hp'; exact absurd hp' (hnot d' _)) hs)
      (by intro _ ho; rw [hafter] at ho; cases ho)
  refine h.shrink (fun id st hr hst => ⟨st, hr, hst⟩) (fun y hy => hback hy) ?_ (fun hh y hy => h.halted hh y (hback hy))
  intro hact
  refine ⟨hact, fun y hy he => drives_on (fun _ _ h _ _ => h) ?_ (fun _ _ _ _ => rfl) ?_ hy he⟩
  · intro id _ hs
    refine unspent_of hc ?_ hs
    intro d' st' hp'; rw [hafter] at hp'; cases hp'
  · intro e
    subst e
    obtain ⟨row, hrow, -⟩ := hact
    exact hne row hrow (he v hp row hrow)

theorem saveWorkflow_good (hi : DrivenInv w) (hl : HoldsLease i w) (ho : DrivenObs det i w (.store (.saveWorkflow st v)))
    {r : Except PyError WorkflowState} (he : w.store.saveWorkflow t st v = (r, s')) (h : Good w taskId) :
    Good ⟨s', t, .did i (.store (.saveWorkflow st v)) r :: w.journal⟩ taskId := by
  obtain ⟨-, hfail, hobs⟩ := ho
  rcases SQLiteStore.saveWorkflow_cases he with ⟨row, hr, hv, rfl, hw, hq, ha, -⟩ | ⟨⟨m, rfl⟩, rfl, hne⟩
  · obtain ⟨hc, hobs⟩ := hobs row hr hv
    have hstatus : ∀ a, s'.approvalStatus taskId a = w.store.approvalStatus taskId a := by
      intro a; unfold SQLiteStore.approvalStatus; rw [ha]
    by_cases e : taskId = st.taskId
    · subst e
      have hx := (hw st.taskId).trans (if_pos rfl)
      cases hp : phase i w.journal with
      | owing => simp [hp] at hobs
      | holding d seen =>
        simp only [hp] at hobs
        obtain ⟨htask, hold, cp, rfl, hcp⟩ := hobs
        rw [htask] at h hr hx ⊢
        cases hst : st.status.active with
        | true =>
          refine saveActive_good hi hl hp hcp h hr hx hst (fun p hpend => hc.pending ?_ hpend) hq ha rfl (by rw [hp]; rfl) (by exact hst)
          intro e; rw [e] at hst; cases hst
        | false => exact saveInactive_good hi hl hp hcp h hx hst hq rfl (by rw [hp]; rfl) (by exact hst)
      | failing r =>
        simp only [hp] at hobs
        obtain ⟨-, rfl, hst⟩ := hobs
        have hwait : st.status ≠ .waitingForApproval := by rw [hst]; decide
        exact endSave_good (by rw [hp]; simp) h hr hx (by show st.status.active = false; rw [hst]; rfl) hwait
          (fun p hpend => hc.pending hwait hpend) hq ha rfl (by rw [hp]; rfl)
      | free =>
        simp only [hp] at hobs
        obtain ⟨hwait, hact⟩ := hobs
        cases hst : st.status.active with
        | true =>
          obtain ⟨hqueued, hold, htask, hpend⟩ := hact hst
          exact approveSave_good hp htask h hr hold hx hqueued (fun p hp' => by rw [hstatus]; exact hpend p hp') hq rfl
            (by rw [hp]; simp [Phase.after, hqueued])
        | false =>
          refine endSave_good (by rw [hp]; simp) h hr hx hst hwait (fun p hpend => hc.pending hwait hpend) hq ha rfl ?_
          have : st.status ≠ .queued := by intro e; rw [e] at hst; cases hst
          rw [hp]; simp [Phase.after, this]
    · refine h.untouched hi rfl (by rw [rowStatus_queue hq]; exact fun _ => rfl) ((hw taskId).trans (if_neg e))
        (fun a happ => by rw [hstatus]; exact happ) ?_
      cases hp : phase i w.journal with
      | owing => exact .inl rfl
      | holding d seen =>
        simp only [hp] at hobs
        exact .inr (by rw [holding_concerning hp, ← hobs.1]; exact fun hc => e (Option.some.inj hc).symm)
      | failing r =>
        exact .inr (by rw [(hfail r hp).1]; exact fun hc => e (Option.some.inj hc).symm)
      | free =>
        simp only [hp] at hobs
        by_cases hst : st.status = .queued
        · obtain ⟨-, -, htask, -⟩ := hobs.2 (by rw [hst]; rfl)
          exact .inr (by rw [htask]; exact fun hc => e (Option.some.inj hc).symm)
        · exact .inl (by simp [Phase.after, hst])
  · by_cases hp : ∃ r, phase i w.journal = .failing r
    · obtain ⟨r, hp⟩ := hp
      obtain ⟨htask, rfl⟩ := hfail r hp
      by_cases e : taskId = st.taskId
      · subst e
        exact refusedSave_good hp h hne rfl (by rw [hp]; rfl)
      · exact h.untouched hi rfl (fun _ => rfl) rfl (fun _ h => h)
          (.inr (by rw [htask]; exact fun hc => e (Option.some.inj hc).symm))
    · refine h.untouched hi rfl (fun _ => rfl) rfl (fun _ h => h) (.inl ?_)
      cases hp' : phase i w.journal with
      | failing r => exact absurd ⟨r, hp'⟩ hp
      | _ => rfl

end Saves

/-! ## Settling a delivery -/

section Settling

variable {taskId : String}

theorem ack_rows (id n : Nat) :
    rowStatus taskId (w.store.acknowledge t n) id = (rowStatus taskId w.store id).map fun x => if id = n then .completed else x :=
  rowStatus_at (SQLiteStore.acknowledge_get n) (fun _ => ⟨rfl, rfl⟩) taskId id

/-- A row that is not completed after the acknowledgement is another one, as it was. -/
theorem ack_live {id : Nat} {st : QueueStatus} (hr : rowStatus taskId (w.store.acknowledge t d.id) id = some st)
    (hne : st ≠ .completed) : id ≠ d.id ∧ rowStatus taskId w.store id = some st := by
  rw [ack_rows] at hr
  obtain ⟨x, hx, rfl⟩ := Option.map_eq_some_iff.mp hr
  by_cases e : id = d.id
  · rw [if_pos e] at hne; exact absurd rfl hne
  · rw [if_neg e]; exact ⟨e, hx⟩

/-- A worker acknowledges an active workflow: its thread drives it now. -/
theorem ackActive_good (hi : DrivenInv w) (hl : HoldsLease i w) {st : WorkflowState}
    (hp : phase i w.journal = .holding d (some st)) (hst : st.status.active = true) (h : Good w d.taskId) :
    Good ⟨w.store.acknowledge t d.id, t, .did i (.store (.acknowledge d.id)) (.ok ()) :: w.journal⟩ d.taskId := by
  have hX := held_drives hi hl hp (by intro st' e; cases e; exact hst)
  have hafter : (phase i w.journal).after (.store (.acknowledge d.id)) (.ok ()) = .owing ∨
      (phase i w.journal).after (.store (.acknowledge d.id)) (.ok ()) = .failing none := by
    rw [hp]
    cases hs : st.status <;> simp_all [Phase.after, WorkflowStatus.active]
  refine Good.single (x := .thread i) ?_ (fun y hy => ?_) ((drives_thread rfl).mpr ⟨holding_concerning hp, ?_⟩) ?_ (h.not_halted hX)
  · intro id id' st₁ st₂ h₁ h₂ hc₁ hc₂
    exact h.one id id' st₁ st₂ (ack_live h₁ hc₁).2 (ack_live h₂ hc₂).2 hc₁ hc₂
  · cases y with
    | row id =>
      obtain ⟨st', hr, hne, hs⟩ := hy
      obtain ⟨hid, hr⟩ := ack_live hr hne
      have hold : Drives w d.taskId (.row id) := by
        refine ⟨st', hr, hne, fun hsp => hs ⟨hsp.1, spent_of rfl ?_ hsp.2⟩⟩
        intro d' st'' hp'; rw [hp] at hp'; cases hp'; exact hst
      exact absurd (Driver.row.inj (h.only hX _ hold)) hid
    | thread k =>
      by_cases e : k = i
      · rw [e]
      · cases h.only hX _ ((drives_other e).mp hy)
  · rcases hafter with e | e <;> rw [e] <;> rfl
  · intro v hv
    have : phase i (.did i (.store (.acknowledge d.id)) (.ok ()) :: w.journal) ≠ .failing (some v) := by
      rw [phase_did]
      rcases hafter with e | e <;> rw [e] <;> simp
    exact absurd hv this

/-- A worker acknowledges a spent delivery. -/
theorem ackSpent_good (hi : DrivenInv w) (hl : HoldsLease i w) {st : WorkflowState}
    (hp : phase i w.journal = .holding d (some st)) (hst : st.status.active = false) (h : Good w d.taskId) :
    Good ⟨w.store.acknowledge t d.id, t, .did i (.store (.acknowledge d.id)) (.ok ()) :: w.journal⟩ d.taskId := by
  have hspent : Spent w d.id := ⟨i, d, st, hp, hst, rfl, (held_row hi hl hp).2⟩
  have hafter : (phase i w.journal).after (.store (.acknowledge d.id)) (.ok ()) = .free := by
    rw [hp]
    cases hs : st.status <;> simp_all [Phase.after, WorkflowStatus.active]
  have hback : ∀ {y}, Drives ⟨w.store.acknowledge t d.id, t, .did i (.store (.acknowledge d.id)) (.ok ()) :: w.journal⟩
      d.taskId y → Drives w d.taskId y := by
    refine drives_back rfl (fun id st' hr hne => (ack_live hr hne).2) ?_ (by intro _ ho; rw [hafter] at ho; cases ho)
    intro id hr hs
    have hid := (ack_live hr (by decide)).1
    refine spent_kept rfl ?_ hs
    intro d' st' hp' _ hd'
    rw [hp] at hp'; cases hp'
    exact absurd hd'.symm hid
  refine h.shrink (fun id st' hr hne => ⟨st', (ack_live hr hne).2, hne⟩) (fun y hy => hback hy) ?_
    (fun hh y hy => h.halted hh y (hback hy))
  intro hact
  refine ⟨hact, fun y hy he => drives_on ?_ ?_ ?_ ?_ hy he⟩
  · intro id st' hr _ hs
    rw [ack_rows, hr, Option.map_some]
    by_cases e : id = d.id
    · subst e
      have := (held_row hi hl hp).1
      rw [hr] at this; cases this
      exact absurd ⟨rfl, hspent⟩ hs
    · rw [if_neg e]
  · intro id _ hs
    refine unspent_of rfl ?_ hs
    intro d' st' hp'; rw [hafter] at hp'; cases hp'
  · intro _ _ _ _; rfl
  · intro e
    subst e
    have := hy.2
    rw [hp] at this; cases this

theorem acknowledge_good (hi : DrivenInv w) (hl : HoldsLease i w) {id : Nat} (ho : DrivenObs det i w (.store (.acknowledge id)))
    (h : Good w taskId) :
    Good ⟨w.store.acknowledge t id, t, .did i (.store (.acknowledge id)) (.ok ()) :: w.journal⟩ taskId := by
  obtain ⟨-, d, st, hp, rfl⟩ := ho
  by_cases e : d.taskId = taskId
  · subst e
    cases hst : st.status.active with
    | true => exact ackActive_good hi hl hp hst h
    | false => exact ackSpent_good hi hl hp hst h
  · refine h.untouched hi rfl (fun id => ?_) rfl (fun _ h => h) (.inr (by rw [holding_concerning hp]; simpa using e))
    rw [ack_rows]
    by_cases hid : id = d.id
    · subst hid; rw [held_other hi hp e]; rfl
    · cases rowStatus taskId w.store id <;> simp [hid]

/-- The driving row becomes pending or dead, and stays the driver. -/
theorem rowMoved_good {c : StoreCall} {r : Except PyError c.Ret} (hc : (Call.store c).claimed r = none)
    (hunspent : ∀ d st, phase i w.journal = .holding d (some st) → st.status.active = true)
    (hafter : (phase i w.journal).after (.store c) r = .free) {n : Nat} {old new : QueueStatus}
    (hrows : ∀ id, rowStatus taskId s' id = (rowStatus taskId w.store id).map fun x => if id = n then new else x)
    (hold : rowStatus taskId w.store n = some old) (hlive : old ≠ .completed) (hnew : new = .dead ∨ new = .pending)
    (hX : Drives w taskId (.row n)) (hh : ¬ Halted taskId s') (h : Good w taskId) :
    Good ⟨s', t, .did i (.store c) r :: w.journal⟩ taskId := by
  have hne' : new ≠ .completed ∧ new ≠ .processing := by rcases hnew with e | e <;> rw [e] <;> decide
  have hrow : rowStatus taskId s' n = some new := by rw [hrows, hold]; simp
  have hback : ∀ id x, rowStatus taskId s' id = some x → x ≠ .completed →
      ∃ y, rowStatus taskId w.store id = some y ∧ y ≠ .completed ∧ (id = n ∨ y = x) := by
    intro id x hr hne
    rw [hrows] at hr
    obtain ⟨y, hy, rfl⟩ := Option.map_eq_some_iff.mp hr
    by_cases e : id = n
    · subst e
      exact ⟨old, hold, hlive, .inl rfl⟩
    · rw [if_neg e] at hne
      exact ⟨y, hy, hne, .inr (by rw [if_neg e])⟩
  refine Good.single (x := .row n) ?_ (fun y hy => ?_) ⟨new, hrow, hne'.1, fun hc => hne'.2 hc.1⟩ trivial hh
  · intro id id' st₁ st₂ h₁ h₂ hc₁ hc₂
    obtain ⟨y₁, h₁, hc₁, -⟩ := hback id st₁ h₁ hc₁
    obtain ⟨y₂, h₂, hc₂, -⟩ := hback id' st₂ h₂ hc₂
    exact h.one id id' y₁ y₂ h₁ h₂ hc₁ hc₂
  · cases y with
    | row id =>
      obtain ⟨x, hr, hne, hs⟩ := hy
      obtain ⟨z, hz, hzne, hid | rfl⟩ := hback id x hr hne
      · rw [hid]
      · exact h.only hX _ ⟨z, hz, hzne, fun hsp => hs ⟨hsp.1, spent_of hc hunspent hsp.2⟩⟩
    | thread k =>
      by_cases e : k = i
      · subst e
        have := ((drives_thread hc).mp hy).2
        rw [hafter] at this; cases this
      · cases h.only hX _ ((drives_other e).mp hy)

/-- A worker gives its delivery back: the row stays the driver. -/
theorem retry_good (hi : DrivenInv w) (hl : HoldsLease i w) {error : String} {base : Seconds}
    (ho : DrivenObs det i w (.store (.retryOrDeadLetter d error base))) {r : Except PyError Bool}
    (he : w.store.retryOrDeadLetter t d error base = (r, s')) (h : Good w taskId) :
    Good ⟨s', t, .did i (.store (.retryOrDeadLetter d error base)) r :: w.journal⟩ taskId := by
  obtain ⟨-, st, hp, hst⟩ := ho
  rcases SQLiteStore.retryOrDeadLetter_cases he with ⟨⟨m, rfl⟩, rfl⟩ | ⟨delay, -, rfl, hg, hw, ha, -⟩
  · exact h.untouched hi rfl (fun _ => rfl) rfl (fun _ h => h) (.inl rfl)
  · obtain ⟨st', hst', hrows⟩ : ∃ st' : QueueStatus, (st' = .dead ∨ st' = .pending) ∧ ∀ T id, rowStatus T s' id =
        (rowStatus T w.store id).map fun x => if id = d.id then st' else x := by
      refine ⟨if d.maxAttempts ≤ d.attempts then .dead else .pending, ?_, fun T id => rowStatus_at hg (fun _ => ⟨rfl, rfl⟩) T id⟩
      split <;> simp
    have happ : ∀ x, w.store.approvalStatus taskId x = some .approved → s'.approvalStatus taskId x = some .approved := by
      intro x hx; unfold SQLiteStore.approvalStatus at hx ⊢; rw [ha]; exact hx
    by_cases e : d.taskId = taskId
    · subst e
      have hX := held_drives hi hl hp (by intro st e; cases e; exact hst)
      refine rowMoved_good rfl ?_ (by rw [hp]; rfl) (hrows d.taskId) (held_row hi hl hp).1 (by decide) hst' hX ?_ h
      · intro d' st'' hp'; rw [hp] at hp'; cases hp'; exact hst
      · intro hh
        obtain ⟨row, hr, hst⟩ := hh
        refine h.not_halted hX ⟨row, by rw [← hw]; exact hr, hst.imp_right fun hp => ?_⟩
        obtain ⟨p, hp, hne⟩ := hp
        exact ⟨p, hp, fun hx => hne (happ _ hx)⟩
    · refine h.untouched hi rfl (fun id => ?_) (by rw [hw]) happ (.inr (by rw [holding_concerning hp]; simpa using e))
      rw [hrows]
      by_cases hid : id = d.id
      · subst hid; rw [held_other hi hp e]; rfl
      · cases rowStatus taskId w.store id <;> simp [hid]

end Settling

/-! ## New deliveries -/

section Deliveries

variable {taskId : String}

theorem insert_rows {n : Nat} (hq : s'.queue = (w.store.insertQueue t taskId n).queue) (T : String) (id : Nat) :
    rowStatus T s' id = if id = w.store.nextQueueId then (if taskId = T then some .pending else none) else
      rowStatus T w.store id := by
  unfold rowStatus
  rw [hq, SQLiteStore.insertQueue_get]
  split
  · rfl
  · rfl

/-- A workflow that nobody else drives gets a delivery. -/
theorem insert_good {c : StoreCall} {r : Except PyError c.Ret} (hc : (Call.store c).claimed r = none)
    (hp : ∀ d seen, phase i w.journal ≠ .holding d seen) (hafter : (phase i w.journal).after (.store c) r = .free) {n : Nat}
    (hq : s'.queue = (w.store.insertQueue t taskId n).queue)
    (hsole : ∀ y, Drives w taskId y → y = .thread i)
    (hdone : ∀ id st, rowStatus taskId w.store id = some st → st = .completed ∨ st = .dead)
    (hh : ¬ Halted taskId s') : Good ⟨s', t, .did i (.store c) r :: w.journal⟩ taskId := by
  have hnew : rowStatus taskId s' w.store.nextQueueId = some .pending := by rw [insert_rows hq]; simp
  have hlive : ∀ id st, rowStatus taskId s' id = some st → st ≠ .completed → id = w.store.nextQueueId := by
    intro id st hr hne
    rw [insert_rows hq] at hr
    by_contra e
    rw [if_neg e] at hr
    rcases hdone id st hr with rfl | rfl
    · exact hne rfl
    · cases hsole _ (show Drives w taskId (.row id) from ⟨.dead, hr, by decide, fun hc => by cases hc.1⟩)
  refine Good.single (x := .row w.store.nextQueueId) ?_ (fun y hy => ?_) ⟨.pending, hnew, by decide, fun hc => by cases hc.1⟩
    trivial hh
  · intro id id' st₁ st₂ h₁ h₂ hc₁ hc₂
    rw [hlive id st₁ h₁ hc₁, hlive id' st₂ h₂ hc₂]
  · cases y with
    | row id =>
      obtain ⟨st, hr, hne, -⟩ := hy
      rw [hlive id st hr hne]
    | thread k =>
      by_cases e : k = i
      · subst e
        have := ((drives_thread hc).mp hy).2
        rw [hafter] at this; cases this
      · exact absurd (Driver.thread.inj (hsole _ ((drives_other e).mp hy))) e

/-- The next delivery is queued: an active row found instead would be a driver beside the thread. -/
theorem enqueue_good (hi : DrivenInv w) {task : String} {n : Nat} (ho : DrivenObs det i w (.store (.enqueue task n)))
    (hal : ∀ row, w.store.queue.rows.find? (SQLiteStore.isActive task) = some row → row.status = .processing →
      ¬ Spent w row.id) {r : Except PyError Nat} (he : w.store.enqueue t task n = (r, s')) (h : Good w taskId) :
    Good ⟨s', t, .did i (.store (.enqueue task n)) r :: w.journal⟩ taskId := by
  obtain ⟨-, hp, htask⟩ := ho
  by_cases e : task = taskId
  · subst e
    have hX : Drives w task (.thread i) := ⟨htask, by rw [hp]; rfl⟩
    rcases SQLiteStore.enqueue_cases he with ⟨row, hf, hr, ht, hst, rfl, rfl⟩ | ⟨hdone, -, rfl, rfl⟩ | ⟨-, ⟨m, rfl⟩, rfl⟩
    · have hrow : Drives w task (.row row.id) := by
        refine ⟨row.status, rowStatus_some.mpr ⟨row, hr, ht, rfl⟩, ?_, fun hc => hal row hf hc.1 hc.2⟩
        rcases hst with e | e <;> rw [e] <;> decide
      cases h.only hX _ hrow
    · refine insert_good rfl (by rw [hp]; simp) (by rw [hp]; rfl) rfl (h.only hX) (fun id st hst => ?_) (h.not_halted hX)
      obtain ⟨row, hr, ht, rfl⟩ := rowStatus_some.mp hst
      exact hdone id row hr ht
    · exact h.untouched hi rfl (fun _ => rfl) rfl (fun _ h => h) (.inl rfl)
  · have hne : concerning i w.journal ≠ some taskId := by rw [htask]; simpa using e
    rcases SQLiteStore.enqueue_cases he with ⟨row, -, -, -, -, rfl, rfl⟩ | ⟨-, -, rfl, rfl⟩ | ⟨-, ⟨m, rfl⟩, rfl⟩
    · exact h.untouched hi rfl (fun _ => rfl) rfl (fun _ h => h) (.inr hne)
    · refine h.untouched hi rfl (fun id => ?_) rfl (fun _ h => h) (.inr hne)
      rw [insert_rows rfl, if_neg e]
      split
      · rename_i hid; subst hid
        simp [rowStatus, SQLiteStore.nextQueueId_fresh]
      · rfl
    · exact h.untouched hi rfl (fun _ => rfl) rfl (fun _ h => h) (.inr hne)

theorem createWorkflow_good (hi : DrivenInv w) {st : WorkflowState} {n : Nat}
    (ho : DrivenObs det i w (.store (.createWorkflow st n))) {r : Except PyError WorkflowState}
    (he : w.store.createWorkflow t st n = (r, s')) (h : Good w taskId) :
    Good ⟨s', t, .did i (.store (.createWorkflow st n)) r :: w.journal⟩ taskId := by
  obtain ⟨⟨hpend, hst⟩, hp⟩ := ho
  rcases SQLiteStore.createWorkflow_cases he with ⟨-, ⟨m, rfl⟩, rfl⟩ | ⟨hn, rfl, hw, hq, ha, -⟩
  · exact h.untouched hi rfl (fun _ => rfl) rfl (fun _ h => h) (.inl rfl)
  · by_cases e : st.taskId = taskId
    · subst e
      have hx := (hw st.taskId).trans (if_pos rfl)
      have hrows : ∀ id, rowStatus st.taskId w.store id = none := by
        intro id
        cases hr : rowStatus st.taskId w.store id with
        | none => rfl
        | some x =>
          obtain ⟨row, hr, ht, -⟩ := rowStatus_some.mp hr
          exact absurd (ht ▸ hn) (hi.known id row hr)
      refine insert_good rfl (by rw [hp]; simp) (by rw [hp]; rfl) hq (fun y hy => ?_) (fun id x hr => ?_)
        (not_halted_saved hx (by rw [hst]; decide) (by intro p hp'; rw [hpend] at hp'; cases hp'))
      · cases y with
        | row id => obtain ⟨x, hr, -⟩ := hy; rw [hrows] at hr; cases hr
        | thread k => exact absurd hn (hi.owed k _ hy.1 hy.2)
      · rw [hrows] at hr; cases hr
    · refine h.untouched hi rfl (fun id => ?_) ((hw taskId).trans (if_neg e)) ?_ (.inl rfl)
      · rw [insert_rows hq, if_neg e]
        split
        · rename_i hid; subst hid
          simp [rowStatus, SQLiteStore.nextQueueId_fresh]
        · rfl
      · intro x hx; unfold SQLiteStore.approvalStatus at hx ⊢; rw [ha]; exact hx

/-- A replay: the dead row was the driver, and stays it as a pending one. -/
theorem replay_good (hi : DrivenInv w) {id n : Nat} {task actor reason : String} (hp : phase i w.journal = .free)
    {r : Except PyError (Option WorkflowState)} {o : Option WorkflowState} (hr : r = .ok o)
    (he : w.store.replayDeadLetter t id task n actor reason = (o, s')) (h : Good w taskId) :
    Good ⟨s', t, .did i (.store (.replayDeadLetter id task n actor reason)) r :: w.journal⟩ taskId := by
  subst hr
  rcases SQLiteStore.replayDeadLetter_cases he with ⟨rfl, rfl⟩ | ⟨q, row, state, hq, ht, hd, hr, hst, rfl, hw, hqueue, ha, -⟩
  · exact h.untouched hi rfl (fun _ => rfl) rfl (fun _ h => h) (.inl rfl)
  · have hw := replay_workflow (hi.store.state _ _ hr).task hr hst hw
    have happ : ∀ x, s'.approvalStatus taskId x = w.store.approvalStatus taskId x := by
      intro x; unfold SQLiteStore.approvalStatus; rw [ha]
    have hrows : ∀ n, rowStatus taskId s' n = (rowStatus taskId w.store n).map fun x => if n = id ∧ task = taskId then .pending else x := by
      intro n
      unfold rowStatus
      rw [hqueue]
      cases hn : w.store.queue.get n with
      | none => rfl
      | some x =>
        have hk : x.id = n := Table.get_key hn
        by_cases e : n = id
        · subst e
          rw [hq] at hn; cases hn
          by_cases e : task = taskId <;> simp [hk, hd, ht, e]
        · by_cases hx : x.taskId = taskId <;> simp [hk, e, hx]
    by_cases e : task = taskId
    · subst e
      have hX : Drives w task (.row id) := ⟨.dead, rowStatus_some.mpr ⟨q, hq, ht, hd⟩, by decide, fun hc => by cases hc.1⟩
      refine rowMoved_good rfl (by rw [hp]; simp) (by rw [hp]; rfl) (by simpa using hrows)
        (rowStatus_some.mpr ⟨q, hq, ht, hd⟩) (by decide) (.inr rfl) hX ?_ h
      refine not_halted_saved ((hw task).trans (if_pos rfl)) (by simp [hst]) fun p hp' => ?_
      rw [happ]
      exact pending_approved hr (h.not_halted hX) (by simpa [hst] using hp')
    · refine h.untouched hi rfl (fun n => ?_) ((hw taskId).trans (if_neg (Ne.symm e))) (fun x hx => by rw [happ]; exact hx) (.inl rfl)
      rw [hrows]
      cases rowStatus taskId w.store n <;> simp [e]

end Deliveries

/-! ## Claims -/

/-- A live row after a claim was one before. -/
theorem claim_live {workerId : String} {leaseSeconds : Int} {o : Option QueueDelivery}
    (he : w.store.claim t workerId leaseSeconds = (o, s')) {id : Nat} {x' : QueueRow} (hx' : s'.queue.get id = some x')
    (hne : x'.status ≠ .completed) :
    ∃ x, w.store.queue.get id = some x ∧ x'.taskId = x.taskId ∧ x.status ≠ .completed ∧
      x'.status = (if o.any (fun d => d.id = id) then .processing else (SQLiteStore.swept t x).status) ∧
      (o.any (fun d => d.id = id) = true → (SQLiteStore.swept t x).status = .pending) := by
  rcases SQLiteStore.claim_row he id with ⟨hn, -⟩ | ⟨x, x'', hx, hx'', ht, hs, hpend⟩
  · rw [hn] at hx'; cases hx'
  · rw [hx''] at hx'; cases hx'
    refine ⟨x, hx, ht, fun hc => ?_, hs, hpend⟩
    have hswept : (SQLiteStore.swept t x).status = .completed := by
      rw [SQLiteStore.swept_status, hc, if_neg (by simp [SQLiteStore.isExpired, hc])]
    rw [hs, hswept] at hne
    by_cases ho : o.any (fun d => d.id = id) = true
    · have := hpend ho
      rw [hswept] at this; cases this
    · rw [if_neg ho] at hne; exact hne rfl

/-- A claim: the rows whose lease ended go back to pending, which sticks the workflows whose
    spent worker loses its row, and one pending row goes to the thread. -/
theorem claim_good (hi : DrivenInv w) {workerId : String} {leaseSeconds : Int} (hp : phase i w.journal = .free)
    {r : Except PyError (Option QueueDelivery)} {o : Option QueueDelivery} (hr : r = .ok o)
    (he : w.store.claim t workerId leaseSeconds = (o, s')) {taskId : String} (h : Good w taskId) :
    Stuck ⟨s', t, .did i (.store (.claim workerId leaseSeconds)) r :: w.journal⟩ taskId ∨
      Good ⟨s', t, .did i (.store (.claim workerId leaseSeconds)) r :: w.journal⟩ taskId := by
  subst hr
  have hclaimed : (Call.store (.claim workerId leaseSeconds)).claimed (.ok o) = o := rfl
  have hafter : ∀ d st, (phase i w.journal).after (.store (.claim workerId leaseSeconds)) (.ok o) ≠ .holding d (some st) := by
    rw [hp]; cases o <;> simp [Phase.after]
  have howes : ((phase i w.journal).after (.store (.claim workerId leaseSeconds)) (.ok o)).owes = false := by
    rw [hp]; cases o <;> rfl
  have hclaimant := fun id => claimant_claimed id i (.store (.claim workerId leaseSeconds)) (.ok o) w.journal
  rw [hclaimed] at hclaimant
  obtain ⟨hws, happ, -⟩ := claim_frame w.store t workerId leaseSeconds
  rw [he] at hws happ
  simp only at hws happ
  have hrow := SQLiteStore.claim_row he
  by_cases hlost : ∃ id row, w.store.queue.get id = some row ∧ row.taskId = taskId ∧ SQLiteStore.isExpired t row = true ∧ Spent w id
  · obtain ⟨id, row, hget, ht, hexp, k, d, st, hpk, hst, rfl, hcl⟩ := hlost
    have hk : k ≠ i := by intro e; rw [e, hp] at hpk; cases hpk
    refine .inl ⟨k, d, st, by rw [phase_other (Ne.symm hk)]; exact hpk, hst, ?_, fun hcur => ?_⟩
    · obtain ⟨row', hget', ht'⟩ := hi.held k d _ hpk
      rw [hget] at hget'; cases hget'
      rw [← ht', ht]
    · obtain ⟨hcl', row', hget', hproc⟩ := hcur
      rw [hclaimant] at hcl'
      split at hcl'
      · exact hk (Option.some.inj hcl').symm
      · rename_i hno
        rcases hrow d.id with ⟨hn, -⟩ | ⟨x, x', hx, hx', -, hs, -⟩
        · simp only [hn] at hget'; cases hget'
        · rw [hget] at hx; cases hx
          simp only [hx'] at hget'; cases hget'
          rw [hs, if_neg hno, SQLiteStore.swept_status, if_pos hexp] at hproc
          cases hproc
  · -- no spent worker loses its row
    have hspent : ∀ {id}, Spent ⟨s', t, .did i (.store (.claim workerId leaseSeconds)) (.ok o) :: w.journal⟩ id ↔
        Spent w id ∧ o.any (fun d => d.id = id) = false := by
      intro id
      constructor
      · intro hs
        obtain ⟨k, d, st, hpk, hst, hd, hcl⟩ := hs
        by_cases e : k = i
        · subst e; rw [phase_did] at hpk; exact absurd hpk (hafter d st)
        · rw [phase_other (Ne.symm e)] at hpk
          rw [hclaimant] at hcl
          split at hcl
          · exact absurd (Option.some.inj hcl).symm e
          · rename_i hno
            exact ⟨⟨k, d, st, hpk, hst, hd, hcl⟩, by simpa using hno⟩
      · intro hs
        obtain ⟨⟨k, d, st, hpk, hst, hd, hcl⟩, hno⟩ := hs
        have hk : k ≠ i := by intro e; rw [e, hp] at hpk; cases hpk
        exact ⟨k, d, st, by rw [phase_other (Ne.symm hk)]; exact hpk, hst, hd, by rw [hclaimant, if_neg (by simp [hno])]; exact hcl⟩
    have hback : ∀ {y}, Drives ⟨s', t, .did i (.store (.claim workerId leaseSeconds)) (.ok o) :: w.journal⟩ taskId y →
        Drives w taskId y := by
      intro y hy
      cases y with
      | row id =>
        obtain ⟨st, hst, hne, hs⟩ := hy
        obtain ⟨x', hx', ht, rfl⟩ := rowStatus_some.mp hst
        obtain ⟨x, hx, ht', hnc, hs', hpend⟩ := claim_live he hx' hne
        refine ⟨x.status, rowStatus_some.mpr ⟨x, hx, by rw [← ht', ht], rfl⟩, hnc, fun hc => ?_⟩
        by_cases hexp : SQLiteStore.isExpired t x = true
        · exact hlost ⟨id, x, hx, by rw [← ht', ht], hexp, hc.2⟩
        · by_cases ho : o.any (fun d => d.id = id) = true
          · have := hpend ho
            rw [SQLiteStore.swept_status, if_neg hexp, hc.1] at this; cases this
          · refine hs ⟨?_, hspent.mpr ⟨hc.2, by simpa using ho⟩⟩
            rw [hs', if_neg ho, SQLiteStore.swept_status, if_neg hexp, hc.1]
      | thread k =>
        by_cases e : k = i
        · subst e
          have := hy.2
          rw [phase_did, howes] at this; cases this
        · exact (drives_other e).mp hy
    refine .inr (h.shrink ?_ (fun y hy => hback hy) ?_ ?_)
    · intro id st hst hne
      obtain ⟨x', hx', ht, rfl⟩ := rowStatus_some.mp hst
      obtain ⟨x, hx, ht', hnc, -⟩ := claim_live he hx' hne
      exact ⟨x.status, rowStatus_some.mpr ⟨x, hx, by rw [← ht', ht], rfl⟩, hnc⟩
    · intro hact
      refine ⟨by unfold Active at hact ⊢; simp only [hws] at hact; exact hact, fun y hy hey => ?_⟩
      cases y with
      | row id =>
        refine ⟨?_, trivial⟩
        obtain ⟨st, hst, hne, hs⟩ := hy
        obtain ⟨x, hx, ht, rfl⟩ := rowStatus_some.mp hst
        rcases hrow id with ⟨-, hn⟩ | ⟨x', x'', hx', hx'', ht', hs', -⟩
        · rw [hn] at hx; cases hx
        · rw [hx] at hx'; cases hx'
          refine ⟨x''.status, rowStatus_some.mpr ⟨x'', hx'', by rw [ht', ht], rfl⟩, ?_, fun hc => ?_⟩
          · rw [hs', SQLiteStore.swept_status]
            split
            · simp
            · split
              · simp
              · exact hne
          · obtain ⟨hsp, hno⟩ := hspent.mp hc.2
            refine hs ⟨?_, hsp⟩
            rw [hs', if_neg (by simp [hno]), SQLiteStore.swept_status] at hc
            split at hc
            · cases hc.1
            · exact hc.1
      | thread k =>
        have e : k ≠ i := by intro e; have := hy.2; rw [e, hp] at this; cases this
        exact ⟨(drives_other e).mpr hy, (effective_other e (by rw [hws])).mpr hey⟩
    · intro hh y hy
      refine h.halted ?_ y (hback hy)
      obtain ⟨x, hx, hst⟩ := hh
      refine ⟨x, by rw [← hws]; exact hx, hst.imp_right fun hp => ?_⟩
      obtain ⟨p, hp, hne⟩ := hp
      refine ⟨p, hp, fun ha => hne ?_⟩
      unfold SQLiteStore.approvalStatus at ha ⊢
      simp only [happ]; exact ha

end AgentResilience
