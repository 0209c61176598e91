/-
  AgentResilience.Clients — clients of one store that read checkpoints, change them in
  memory and save them under the version they have. An object is what `getWorkflow`,
  `createWorkflow`, `saveWorkflow` or `replayDeadLetter` returned, with the changes made to
  it since; a save changes it in place, and a failing one puts its version back.

  - `register_step`: for each task, what a client does is one step of a versioned register.
  - `no_lost_update`: the checkpoints of a task form a chain, each computed from the one
    before it, under consecutive versions that the row's version column repeats.
-/
import AgentResilience.History
import AgentResilience.Lib.Versioned

namespace AgentResilience

open Versioned (Register Draft)

structure Clients where
  store : SQLiteStore := .empty
  /-- The objects in memory, each beside what the store returned. -/
  objects : Nat → Option (Draft WorkflowState) := fun _ => none
  /-- The checkpoints written, newest first, each beside the one it was computed from. -/
  writes : List (Option WorkflowState × WorkflowState) := []

inductive ClientAction where
  | getWorkflow (o : Nat) (taskId : String)
  /-- Any other values for the fields other than `taskId` and `version`. -/
  | modify (o : Nat) (fields : WorkflowState)
  | createWorkflow (o : Nat) (state : WorkflowState) (maxAttempts : Nat)
  /-- `save_workflow(state, state.version)`. -/
  | saveWorkflow (o : Nat)
  | replayDeadLetter (o : Nat) (deliveryId : Nat) (taskId : String) (maxAttempts : Nat) (actor reason : String)
  /-- Any call that writes no checkpoint. -/
  | other (c : { c : StoreCall // c.writesWorkflows = false })

namespace Clients

def put (w : Clients) (o : Nat) (d : Option (Draft WorkflowState)) : Clients :=
  { w with objects := Function.update w.objects o d }

/-- The store took `state`, and `o` is now it. -/
def push (w : Clients) (o : Nat) (base : Option WorkflowState) (state : WorkflowState) : Clients :=
  { w with writes := (base, state) :: w.writes }.put o (some ⟨state, state⟩)

def act (w : Clients) (now : Timestamp) : ClientAction → Clients
  | .getWorkflow o taskId => w.put o ((w.store.getWorkflow taskId).map fun state => ⟨state, state⟩)
  | .modify o fields =>
    match w.objects o with
    | none => w
    | some d => w.put o (some { d with value := { fields with taskId := d.value.taskId, version := d.value.version } })
  | .createWorkflow o state maxAttempts =>
    match w.store.createWorkflow now state maxAttempts with
    | (.ok state, store) => { w with store }.push o none state
    | (.error _, store) => { w with store }
  | .saveWorkflow o =>
    match w.objects o with
    | none => w
    | some d =>
      match w.store.saveWorkflow now d.value d.value.version with
      | (.ok state, store) => { w with store }.push o (some d.origin) state
      | (.error _, store) => { w with store }.put o (some { d with value := { d.value with updatedAt := now } })
  | .replayDeadLetter o deliveryId taskId maxAttempts actor reason =>
    match w.store.replayDeadLetter now deliveryId taskId maxAttempts actor reason with
    | (some state, store) => { w with store }.push o (w.store.getWorkflow taskId) state
    | (none, store) => { w with store }
  | .other c => { w with store := (c.1.apply w.store now).2 }

/-- The clients after a run. -/
def run (actions : List (Timestamp × ClientAction)) : Clients := actions.foldl (fun w x => w.act x.1 x.2) {}

def writesOf (w : Clients) (taskId : String) : List (Option WorkflowState × WorkflowState) :=
  w.writes.filter fun x => x.2.taskId = taskId

/-- What the clients hold and wrote of one task. -/
def register (w : Clients) (taskId : String) : Register Nat WorkflowState where
  writes := w.writesOf taskId
  drafts o := (w.objects o).filter fun d => d.value.taskId = taskId

end Clients

/-! ## The clients of one task -/

variable {w : Clients} {taskId : String} {s : SQLiteStore} {o : Nat} {state : WorkflowState}

theorem register_put (d : Option (Draft WorkflowState)) :
    (w.put o d).register taskId = (w.register taskId).put o (d.filter fun d => d.value.taskId = taskId) := by
  unfold Clients.register Register.put Clients.put
  congr 1
  funext o'
  by_cases e : o' = o <;> simp [e]

theorem register_put_other {d : Draft WorkflowState} (h : d.value.taskId ≠ taskId) :
    (w.put o (some d)).register taskId = (w.register taskId).put o none := by
  rw [register_put]
  simp [Option.filter, h]

theorem register_put_own {d : Draft WorkflowState} (h : d.value.taskId = taskId) :
    (w.put o (some d)).register taskId = (w.register taskId).put o (some d) := by
  rw [register_put]
  simp [Option.filter, h]

theorem register_push_own {base : Option WorkflowState} (h : state.taskId = taskId) :
    (w.push o base state).register taskId = (w.register taskId).push o base state := by
  unfold Clients.push Register.push
  rw [register_put_own h]
  congr 1
  simp [Clients.register, Clients.writesOf, h]

theorem register_push_other {base : Option WorkflowState} (h : state.taskId ≠ taskId) :
    (w.push o base state).register taskId = (w.register taskId).put o none := by
  unfold Clients.push
  rw [register_put_other h]
  congr 1
  simp [Clients.register, Clients.writesOf, h]

/-- The row of a task is its newest checkpoint, under its version. -/
def MirrorsAt (w : Clients) (taskId : String) : Prop :=
  w.store.workflows.get taskId = none ∧ (w.register taskId).value = none ∨
    ∃ row, w.store.workflows.get taskId = some row ∧ (w.register taskId).value = some row.stateJson ∧
      row.version = row.stateJson.version ∧ row.stateJson.taskId = taskId

def Mirrors (w : Clients) : Prop := ∀ taskId, MirrorsAt w taskId

/-- One step of the register, or none. -/
abbrev RegisterStep (w w' : Clients) (taskId : String) : Prop :=
  Relation.ReflGen (Versioned.Step WorkflowState.version) (w.register taskId) (w'.register taskId)

theorem MirrorsAt.congr (h : MirrorsAt w taskId) {w' : Clients}
    (hs : w'.store.workflows.get taskId = w.store.workflows.get taskId)
    (hv : (w'.register taskId).value = (w.register taskId).value) : MirrorsAt w' taskId := by
  unfold MirrorsAt
  rw [hs, hv]
  exact h

theorem MirrorsAt.row (h : MirrorsAt w taskId) {row : WorkflowRow} (hr : w.store.workflows.get taskId = some row) :
    (w.register taskId).value = some row.stateJson ∧ row.version = row.stateJson.version ∧ row.stateJson.taskId = taskId := by
  rcases h with ⟨hn, -⟩ | ⟨row', hr', h⟩
  · rw [hn] at hr; cases hr
  · rw [hr'] at hr; cases hr
    exact h

theorem MirrorsAt.none (h : MirrorsAt w taskId) (hr : w.store.workflows.get taskId = none) : w.writesOf taskId = [] := by
  rcases h with ⟨-, hv⟩ | ⟨row, hr', -⟩
  · cases hw : w.writesOf taskId with
    | nil => rfl
    | cons x xs =>
      have : (w.register taskId).value = some x.2 := by
        unfold Register.value Clients.register
        rw [hw]; rfl
      rw [this] at hv; cases hv
  · rw [hr'] at hr; cases hr

/-- A checkpoint goes into the store: its task mirrors it, and the other tasks what they did. -/
theorem push_mirrors (now : Timestamp) (h : Mirrors w) {base : Option WorkflowState}
    (hs : ∀ taskId, s.workflows.get taskId = if taskId = state.taskId then some ⟨taskId, state, state.version, now⟩
      else w.store.workflows.get taskId) : Mirrors ({ w with store := s }.push o base state) := by
  intro taskId
  by_cases e : state.taskId = taskId
  · refine .inr ⟨_, (hs taskId).trans (if_pos e.symm), ?_, rfl, e⟩
    rw [register_push_own e]; rfl
  · refine (h taskId).congr ((hs taskId).trans (if_neg (Ne.symm e))) ?_
    rw [register_push_other e]; rfl

/-! ## The actions -/

variable {now : Timestamp}

theorem getWorkflow_step (h : Mirrors w) (o : Nat) (task : String) :
    Mirrors (w.act now (.getWorkflow o task)) ∧ ∀ taskId, RegisterStep w (w.act now (.getWorkflow o task)) taskId := by
  refine ⟨fun taskId => (h taskId).congr rfl rfl, fun taskId => .single ?_⟩
  show Versioned.Step _ _ ((w.put o ((w.store.getWorkflow task).map fun state => ⟨state, state⟩)).register taskId)
  cases hg : w.store.getWorkflow task with
  | none =>
    rw [register_put]
    exact .forget _ o
  | some st =>
    obtain ⟨row, hr, rfl⟩ := SQLiteStore.getWorkflow_some hg
    obtain ⟨hv, -, ht⟩ := (h task).row hr
    by_cases e : task = taskId
    · subst e
      rw [Option.map_some, register_put_own ht]
      exact .read _ o _ hv
    · rw [Option.map_some, register_put_other (fun e' => e (ht.symm.trans e'))]
      exact .forget _ o

theorem modify_step (h : Mirrors w) (o : Nat) (fields : WorkflowState) :
    Mirrors (w.act now (.modify o fields)) ∧ ∀ taskId, RegisterStep w (w.act now (.modify o fields)) taskId := by
  simp only [Clients.act]
  cases hd : w.objects o with
  | none => exact ⟨h, fun _ => .refl⟩
  | some d =>
    refine ⟨fun taskId => (h taskId).congr rfl rfl, fun taskId => .single ?_⟩
    simp only
    by_cases e : d.value.taskId = taskId
    · rw [register_put_own (by exact e)]
      exact .modify _ o d _ (by simp [Clients.register, hd, Option.filter, e]) rfl
    · rw [register_put_other (by exact e)]
      exact .forget _ o

theorem createWorkflow_step (h : Mirrors w) (o : Nat) (state : WorkflowState) (n : Nat) :
    Mirrors (w.act now (.createWorkflow o state n)) ∧ ∀ taskId, RegisterStep w (w.act now (.createWorkflow o state n)) taskId := by
  simp only [Clients.act]
  rcases he : w.store.createWorkflow now state n with ⟨r, s⟩
  rcases SQLiteStore.createWorkflow_cases he with ⟨-, ⟨m, rfl⟩, rfl⟩ | ⟨hn, rfl, hw, -⟩
  · exact ⟨h, fun _ => .refl⟩
  · refine ⟨push_mirrors now h fun taskId => ?_, fun taskId => .single ?_⟩
    · rw [hw]
      by_cases e : state.taskId = taskId
      · subst e; simp
      · rw [if_neg e, if_neg (Ne.symm e)]
    · by_cases e : state.taskId = taskId
      · rw [register_push_own (by exact e)]
        exact .create _ o state ((h taskId).none (e ▸ hn))
      · rw [register_push_other (by exact e)]
        exact .forget _ o

theorem saveWorkflow_step (h : Mirrors w) (o : Nat) :
    Mirrors (w.act now (.saveWorkflow o)) ∧ ∀ taskId, RegisterStep w (w.act now (.saveWorkflow o)) taskId := by
  simp only [Clients.act]
  cases hd : w.objects o with
  | none => exact ⟨h, fun _ => .refl⟩
  | some d =>
    simp only
    have hdraft : ∀ {taskId : String}, d.value.taskId = taskId → (w.register taskId).drafts o = some d := by
      intro taskId e
      simp [Clients.register, hd, Option.filter, e]
    rcases he : w.store.saveWorkflow now d.value d.value.version with ⟨r, s⟩
    rcases SQLiteStore.saveWorkflow_cases he with ⟨row, hr, hv, rfl, hw, -⟩ | ⟨⟨m, rfl⟩, rfl, -⟩
    · refine ⟨push_mirrors now h hw, fun taskId => .single ?_⟩
      simp only
      by_cases e : d.value.taskId = taskId
      · rw [register_push_own (by exact e)]
        obtain ⟨hval, hrow, -⟩ := (h _).row hr
        subst e
        exact .write _ o d _ _ (hdraft rfl) hval (hrow.symm.trans hv) rfl
      · rw [register_push_other (by exact e)]
        exact .forget _ o
    · refine ⟨fun taskId => (h taskId).congr rfl rfl, fun taskId => .single ?_⟩
      simp only
      by_cases e : d.value.taskId = taskId
      · rw [register_put_own (by exact e)]
        exact .modify _ o d _ (hdraft e) rfl
      · rw [register_put_other (by exact e)]
        exact .forget _ o

theorem replayDeadLetter_step (h : Mirrors w) (o id : Nat) (task : String) (n : Nat) (actor reason : String) :
    Mirrors (w.act now (.replayDeadLetter o id task n actor reason)) ∧
      ∀ taskId, RegisterStep w (w.act now (.replayDeadLetter o id task n actor reason)) taskId := by
  simp only [Clients.act]
  rcases he : w.store.replayDeadLetter now id task n actor reason with ⟨r, s⟩
  rcases SQLiteStore.replayDeadLetter_cases he with ⟨rfl, rfl⟩ | ⟨q, row, state, -, -, -, hr, hst, rfl, hws, -⟩
  · exact ⟨h, fun _ => .refl⟩
  · obtain ⟨hval, hv, ht⟩ := (h task).row hr
    have htask : state.taskId = task := by rw [hst]; exact ht
    have hver : state.version = row.version + 1 := by rw [hst]
    refine ⟨push_mirrors now h fun taskId => ?_, fun taskId => .single ?_⟩
    · rw [hws]
      by_cases e : taskId = state.taskId
      · subst e
        rw [htask, hr, if_pos rfl]
        have hk : row.taskId = task := Table.get_key hr
        simp [hk, hver]
      · rw [if_neg e]
        cases hg : w.store.workflows.get taskId with
        | none => rfl
        | some x =>
          have hk : x.taskId = taskId := Table.get_key hg
          simp [hk, e]
    · by_cases e : state.taskId = taskId
      · rw [register_push_own (by exact e)]
        subst e
        have hget : w.store.getWorkflow task = some row.stateJson := by simp [SQLiteStore.getWorkflow, hr]
        rw [hget]
        rw [← htask] at hval
        exact .update _ o _ _ hval (by omega)
      · rw [register_push_other (by exact e)]
        exact .forget _ o

theorem other_step (h : Mirrors w) (c : { c : StoreCall // c.writesWorkflows = false }) :
    Mirrors (w.act now (.other c)) ∧ ∀ taskId, RegisterStep w (w.act now (.other c)) taskId := by
  refine ⟨fun taskId => (h taskId).congr ?_ rfl, fun taskId => .refl⟩
  show (c.1.apply w.store now).2.workflows.get taskId = _
  rw [StoreCall.apply_workflows c.2]

/-- An action of a client is one step of each task's register. -/
theorem register_step (h : Mirrors w) (now : Timestamp) (a : ClientAction) :
    Mirrors (w.act now a) ∧ ∀ taskId, RegisterStep w (w.act now a) taskId := by
  cases a with
  | getWorkflow o task => exact getWorkflow_step h o task
  | modify o fields => exact modify_step h o fields
  | createWorkflow o state n => exact createWorkflow_step h o state n
  | saveWorkflow o => exact saveWorkflow_step h o
  | replayDeadLetter o id task n actor reason => exact replayDeadLetter_step h o id task n actor reason
  | other c => exact other_step h c

/-! ## Runs -/

theorem init_mirrors : Mirrors {} := fun _ => .inl ⟨rfl, rfl⟩

theorem run_register (actions : List (Timestamp × ClientAction)) : Mirrors (Clients.run actions) ∧ ∀ taskId,
    Relation.ReflTransGen (Versioned.Step WorkflowState.version) {} ((Clients.run actions).register taskId) := by
  have hgen : ∀ w : Clients, Mirrors w → Mirrors (actions.foldl (fun w x => w.act x.1 x.2) w) ∧ ∀ taskId,
      Relation.ReflTransGen (Versioned.Step WorkflowState.version) (w.register taskId)
        ((actions.foldl (fun w x => w.act x.1 x.2) w).register taskId) := by
    induction actions with
    | nil => exact fun w h => ⟨h, fun _ => .refl⟩
    | cons x actions ih =>
      intro w h
      obtain ⟨h', hstep⟩ := register_step h x.1 x.2
      obtain ⟨hm, hrest⟩ := ih _ h'
      exact ⟨hm, fun taskId => (hstep taskId).to_reflTransGen.trans (hrest taskId)⟩
  exact hgen {} init_mirrors

/-- An action adds at most one checkpoint to a task's. -/
theorem act_writes (w : Clients) (now : Timestamp) (a : ClientAction) (taskId : String) :
    (w.act now a).writesOf taskId = w.writesOf taskId ∨ ∃ x, (w.act now a).writesOf taskId = x :: w.writesOf taskId := by
  have hpush : ∀ (s : SQLiteStore) (o : Nat) base state, ({ w with store := s }.push o base state).writesOf taskId = w.writesOf taskId ∨
      ∃ x, ({ w with store := s }.push o base state).writesOf taskId = x :: w.writesOf taskId := by
    intro s o base state
    by_cases e : state.taskId = taskId
    · exact .inr ⟨(base, state), by simp [Clients.push, Clients.put, Clients.writesOf, e]⟩
    · exact .inl (by simp [Clients.push, Clients.put, Clients.writesOf, e])
  unfold Clients.act
  split
  · exact .inl rfl
  · split <;> exact .inl rfl
  · split
    · exact hpush ..
    · exact .inl rfl
  · split
    · exact .inl rfl
    · split
      · exact hpush ..
      · exact .inl rfl
  · split
    · exact hpush ..
    · exact .inl rfl
  · exact .inl rfl

/-- Whatever clients do: the checkpoints of a task form one chain, of which the row is the
    newest; each action adds at most one; and a save that fails leaves the store as it is. -/
theorem no_lost_update (actions : List (Timestamp × ClientAction)) (taskId : String) :
    Versioned.Chain WorkflowState.version ((Clients.run actions).writesOf taskId) ∧
    ((Clients.run actions).store.workflows.get taskId).map (fun row => (row.stateJson, row.version)) =
      ((Clients.run actions).writesOf taskId).head?.map (fun x => (x.2, x.2.version)) ∧
    (∀ now a, ((Clients.run actions).act now a).writesOf taskId = (Clients.run actions).writesOf taskId ∨
      ∃ x, ((Clients.run actions).act now a).writesOf taskId = x :: (Clients.run actions).writesOf taskId) ∧
    ∀ o d now e store, (Clients.run actions).objects o = some d →
      (Clients.run actions).store.saveWorkflow now d.value d.value.version = (.error e, store) →
      store = (Clients.run actions).store ∧ ((Clients.run actions).act now (.saveWorkflow o)).store = (Clients.run actions).store := by
  obtain ⟨hm, hr⟩ := run_register actions
  refine ⟨Versioned.reach_chain (hr taskId), ?_, fun now a => act_writes _ now a taskId, fun o d now e store hd he => ?_⟩
  · rcases hm taskId with ⟨hn, hv⟩ | ⟨row, hrow, hv, hver, -⟩
    · rw [hn, (MirrorsAt.none (hm taskId) hn)]; rfl
    · rw [hrow]
      unfold Register.value at hv
      have hv : ((Clients.run actions).writesOf taskId).head?.map (·.2) = some row.stateJson := hv
      obtain ⟨x, hx, hx2⟩ := Option.map_eq_some_iff.mp hv
      rw [hx]
      simp [hx2, hver]
  · have hs : store = (Clients.run actions).store := by
      rcases SQLiteStore.saveWorkflow_cases he with ⟨-, -, -, h, -⟩ | ⟨-, h, -⟩
      · cases h
      · exact h
    refine ⟨hs, ?_⟩
    simp only [Clients.act, hd, he]
    exact hs

def checkout : WorkflowState := { taskId := "t", goal := "restore checkout", createdAt := 0, updatedAt := 0 }

/-- Two clients read the checkpoint, and the first one saves a completed step. -/
def twoReaders : List (Timestamp × ClientAction) :=
  [(0, .createWorkflow 0 checkout 3), (0, .getWorkflow 1 "t"), (0, .getWorkflow 2 "t"),
   (1, .modify 1 { checkout with completedSteps := ["read_alert"] }), (2, .saveWorkflow 1)]

theorem twoReaders_stale : (((Clients.run twoReaders).writesOf "t").length = 2 && ((Clients.run twoReaders).objects 2).any fun d =>
    (((Clients.run twoReaders).store.saveWorkflow 3 d.value d.value.version).1.toOption).isNone) = true := by
  decide +kernel

/-- The second one's save fails, and the first one's stays. -/
theorem no_lost_update_stale : ((Clients.run twoReaders).act 3 (.saveWorkflow 2)).store = (Clients.run twoReaders).store ∧
    ((Clients.run twoReaders).writesOf "t").length = 2 := by
  have h := twoReaders_stale
  rw [Bool.and_eq_true, decide_eq_true_eq] at h
  obtain ⟨d, hd, hfail⟩ := Option.any_eq_true _ _ |>.mp h.2
  refine ⟨?_, h.1⟩
  rcases he : (Clients.run twoReaders).store.saveWorkflow 3 d.value d.value.version with ⟨r, store⟩
  rw [he] at hfail
  cases r with
  | ok st => cases hfail
  | error e => exact ((no_lost_update twoReaders "t").2.2.2 2 d 3 e store hd he).2

end AgentResilience
