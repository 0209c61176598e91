/-
  AgentResilience.Driven — who drives an active workflow on. The drivers of a workflow are
  its live queue rows, but for one whose worker is `Spent`, and the threads that owe its
  next delivery or its failure. `Good`: a workflow has at most one live row and at most
  one driver, an active one has a driver that will take effect, and one that waits, or
  whose pending action is not approved, has none.

  A workflow is `Stuck` when the row of a spent worker went to somebody else: that worker
  holds no lease any more, so it never acts again and stays in flight.
-/
import AgentResilience.Phase

namespace AgentResilience

open Interaction

/-! ## Drivers -/

inductive Driver where
  | row (id : Nat)
  | thread (i : ThreadId)

/-- The status of row `id`, if it is a row of the task. -/
def rowStatus (taskId : String) (s : SQLiteStore) (id : Nat) : Option QueueStatus :=
  (s.queue.get id).bind fun row => if row.taskId = taskId then some row.status else none

/-- The thread owes the next delivery, or the failure. -/
def Phase.owes : Phase → Bool
  | owing | failing _ => true
  | _ => false

def Drives (w : World) (taskId : String) : Driver → Prop
  | .row id => ∃ st, rowStatus taskId w.store id = some st ∧ st ≠ .completed ∧ ¬ (st = .processing ∧ Spent w id)
  | .thread i => concerning i w.journal = some taskId ∧ (phase i w.journal).owes = true

/-- A thread that has read the workflow to fail it takes effect only on the version it read. -/
def Effective (w : World) (taskId : String) : Driver → Prop
  | .row _ => True
  | .thread i => ∀ v, phase i w.journal = .failing (some v) → ∀ row, w.store.workflows.get taskId = some row → row.version = v

/-- The workflow waits, or its pending action is not approved. -/
def Halted (taskId : String) (s : SQLiteStore) : Prop :=
  ∃ row, s.workflows.get taskId = some row ∧ (row.stateJson.status = .waitingForApproval ∨
    ∃ p, row.stateJson.pendingAction = some p ∧ s.approvalStatus taskId p.actionId ≠ some .approved)

structure Good (w : World) (taskId : String) : Prop where
  one : ∀ id id' st st', rowStatus taskId w.store id = some st → rowStatus taskId w.store id' = some st' →
    st ≠ .completed → st' ≠ .completed → id = id'
  sole : ∀ x y, Drives w taskId x → Drives w taskId y → x = y
  driven : Active taskId w.store → ∃ x, Drives w taskId x ∧ Effective w taskId x
  halted : Halted taskId w.store → ∀ x, ¬ Drives w taskId x

/-- A spent worker's row went to somebody else. -/
def Stuck (w : World) (taskId : String) : Prop :=
  ∃ i d st, phase i w.journal = .holding d (some st) ∧ st.status.active = false ∧ d.taskId = taskId ∧
    ¬ (claimant d.id w.journal = some i ∧ ∃ row, w.store.queue.get d.id = some row ∧ row.status = .processing)

structure DrivenInv (w : World) : Prop where
  store : StoreOk Set.univ w.store
  held : ∀ i d seen, phase i w.journal = .holding d seen → ∃ row, w.store.queue.get d.id = some row ∧ row.taskId = d.taskId
  known : ∀ id row, w.store.queue.get id = some row → w.store.workflows.get row.taskId ≠ none
  owed : ∀ i taskId, concerning i w.journal = some taskId → (phase i w.journal).owes = true →
    w.store.workflows.get taskId ≠ none
  good : ∀ taskId, Stuck w taskId ∨ Good w taskId

/-! ## Keeping the drivers -/

theorem rowStatus_some {taskId : String} {s : SQLiteStore} {id : Nat} {st : QueueStatus} :
    rowStatus taskId s id = some st ↔ ∃ row, s.queue.get id = some row ∧ row.taskId = taskId ∧ row.status = st := by
  unfold rowStatus
  cases s.queue.get id with
  | none => simp
  | some row => by_cases e : row.taskId = taskId <;> simp [e]

theorem rowStatus_queue {taskId : String} {s s' : SQLiteStore} (h : s'.queue = s.queue) :
    rowStatus taskId s' = rowStatus taskId s := by
  funext id; unfold rowStatus; rw [h]

variable {w w' : World} {taskId : String}

/-- Fewer live rows and fewer drivers, and every driver of a workflow still active. -/
theorem Good.shrink (h : Good w taskId)
    (hrows : ∀ id st', rowStatus taskId w'.store id = some st' → st' ≠ .completed →
      ∃ st, rowStatus taskId w.store id = some st ∧ st ≠ .completed)
    (hdrives : ∀ x, Drives w' taskId x → Drives w taskId x)
    (hdriven : Active taskId w'.store → Active taskId w.store ∧
      ∀ x, Drives w taskId x → Effective w taskId x → Drives w' taskId x ∧ Effective w' taskId x)
    (hhalted : Halted taskId w'.store → ∀ x, ¬ Drives w' taskId x) : Good w' taskId where
  one id id' st st' h₁ h₂ hc₁ hc₂ := by
    obtain ⟨st₁, h₁, hc₁⟩ := hrows id st h₁ hc₁
    obtain ⟨st₂, h₂, hc₂⟩ := hrows id' st' h₂ hc₂
    exact h.one id id' st₁ st₂ h₁ h₂ hc₁ hc₂
  sole x y hx hy := h.sole x y (hdrives x hx) (hdrives y hy)
  driven hact := by
    obtain ⟨hold, hkeep⟩ := hdriven hact
    obtain ⟨x, hx, he⟩ := h.driven hold
    exact ⟨x, hkeep x hx he⟩
  halted := hhalted

/-- One driver, which takes effect, of a workflow that is not halted. -/
theorem Good.single {x : Driver}
    (hone : ∀ id id' st st', rowStatus taskId w'.store id = some st → rowStatus taskId w'.store id' = some st' →
      st ≠ .completed → st' ≠ .completed → id = id')
    (hx : ∀ y, Drives w' taskId y → y = x) (hd : Drives w' taskId x) (he : Effective w' taskId x)
    (hh : ¬ Halted taskId w'.store) : Good w' taskId where
  one := hone
  sole y z hy hz := (hx y hy).trans (hx z hz).symm
  driven _ := ⟨x, hd, he⟩
  halted h := absurd h hh

/-- The driver of a workflow is the only one. -/
theorem Good.only (h : Good w taskId) {x : Driver} (hx : Drives w taskId x) (y : Driver) (hy : Drives w taskId y) : y = x :=
  h.sole y x hy hx

theorem Good.not_halted (h : Good w taskId) {x : Driver} (hx : Drives w taskId x) : ¬ Halted taskId w.store :=
  fun hh => h.halted hh x hx

/-! ## A call of thread `i` that claims nothing -/

section

variable {i : ThreadId} {c : Call} {r : Except PyError c.Ret} {s' : SQLiteStore} {t : Timestamp}

theorem spent_other (hc : c.claimed r = none) {id : Nat}
    (hi : ∀ d st, (phase i w.journal).after c r = .holding d (some st) → st.status.active = false → d.id = id →
      ∃ st', phase i w.journal = .holding d (some st') ∧ st'.status.active = false)
    (h : Spent ⟨s', t, .did i c r :: w.journal⟩ id) : Spent w id := by
  obtain ⟨k, d, st, hp, hst, hd, hcl⟩ := h
  rw [claimant_did hc] at hcl
  by_cases e : k = i
  · subst e
    rw [phase_did] at hp
    obtain ⟨st', hp', hst'⟩ := hi d st hp hst hd
    exact ⟨k, d, st', hp', hst', hd, hcl⟩
  · rw [phase_other (Ne.symm e)] at hp
    exact ⟨k, d, st, hp, hst, hd, hcl⟩

theorem spent_kept (hc : c.claimed r = none) {id : Nat}
    (hi : ∀ d st, phase i w.journal = .holding d (some st) → st.status.active = false → d.id = id →
      ∃ st', (phase i w.journal).after c r = .holding d (some st') ∧ st'.status.active = false)
    (h : Spent w id) : Spent ⟨s', t, .did i c r :: w.journal⟩ id := by
  obtain ⟨k, d, st, hp, hst, hd, hcl⟩ := h
  rw [← claimant_did hc id i w.journal] at hcl
  by_cases e : k = i
  · subst e
    obtain ⟨st', hp', hst'⟩ := hi d st hp hst hd
    exact ⟨k, d, st', by rw [phase_did]; exact hp', hst', hd, hcl⟩
  · exact ⟨k, d, st, by rw [phase_other (Ne.symm e)]; exact hp, hst, hd, hcl⟩

/-- A thread other than `i` drives after the call as before. -/
theorem drives_other {k : ThreadId} (hk : k ≠ i) :
    Drives ⟨s', t, .did i c r :: w.journal⟩ taskId (.thread k) ↔ Drives w taskId (.thread k) := by
  show concerning k _ = _ ∧ (phase k _).owes = true ↔ _
  rw [phase_other (Ne.symm hk), concerning_other (Ne.symm hk)]
  exact Iff.rfl

theorem effective_other {k : ThreadId} (hk : k ≠ i) (hw : s'.workflows.get taskId = w.store.workflows.get taskId) :
    Effective ⟨s', t, .did i c r :: w.journal⟩ taskId (.thread k) ↔ Effective w taskId (.thread k) := by
  show (∀ v, phase k _ = _ → ∀ row, s'.workflows.get taskId = _ → _) ↔ _
  rw [phase_other (Ne.symm hk), hw]
  exact Iff.rfl

theorem drives_thread (hc : c.claimed r = none) :
    Drives ⟨s', t, .did i c r :: w.journal⟩ taskId (.thread i) ↔
      concerning i w.journal = some taskId ∧ ((phase i w.journal).after c r).owes = true := by
  show concerning i _ = _ ∧ (phase i _).owes = true ↔ _
  rw [concerning_did hc, phase_did]

/-- Every driver after the call was one before. -/
theorem drives_back (hc : c.claimed r = none)
    (hrows : ∀ id st, rowStatus taskId s' id = some st → st ≠ .completed → rowStatus taskId w.store id = some st)
    (hspent : ∀ id, rowStatus taskId s' id = some .processing → Spent w id → Spent ⟨s', t, .did i c r :: w.journal⟩ id)
    (howes : concerning i w.journal = some taskId → ((phase i w.journal).after c r).owes = true →
      (phase i w.journal).owes = true) {x : Driver} (hx : Drives ⟨s', t, .did i c r :: w.journal⟩ taskId x) :
    Drives w taskId x := by
  cases x with
  | row id =>
    obtain ⟨st, hst, hne, hs⟩ := hx
    refine ⟨st, hrows id st hst hne, hne, fun hsp => hs ⟨hsp.1, hspent id ?_ hsp.2⟩⟩
    rw [← hsp.1]; exact hst
  | thread k =>
    by_cases e : k = i
    · subst e
      obtain ⟨htask, ho⟩ := (drives_thread hc).mp hx
      exact ⟨htask, howes htask ho⟩
    · exact (drives_other e).mp hx

/-- Every effective driver before the call, but for thread `i`, is one afterwards. -/
theorem drives_on
    (hrows : ∀ id st, rowStatus taskId w.store id = some st → st ≠ .completed → ¬ (st = .processing ∧ Spent w id) →
      rowStatus taskId s' id = some st)
    (hspent : ∀ id, rowStatus taskId w.store id = some .processing → Spent ⟨s', t, .did i c r :: w.journal⟩ id → Spent w id)
    (hw : ∀ k, k ≠ i → ∀ v, phase k w.journal = .failing (some v) → s'.workflows.get taskId = w.store.workflows.get taskId)
    {x : Driver} (hne : x ≠ .thread i) (hx : Drives w taskId x) (he : Effective w taskId x) :
    Drives ⟨s', t, .did i c r :: w.journal⟩ taskId x ∧ Effective ⟨s', t, .did i c r :: w.journal⟩ taskId x := by
  cases x with
  | row id =>
    obtain ⟨st, hst, hnc, hs⟩ := hx
    refine ⟨⟨st, hrows id st hst hnc hs, hnc, fun hsp => hs ⟨hsp.1, hspent id ?_ hsp.2⟩⟩, trivial⟩
    rw [← hsp.1]; exact hst
  | thread k =>
    have e : k ≠ i := fun e => hne (by rw [e])
    refine ⟨(drives_other e).mpr hx, fun v hv row hrow => ?_⟩
    have hv : phase k w.journal = .failing (some v) := by
      rw [← hv]; exact (phase_other (Ne.symm e) ..).symm
    exact he v hv row (by rw [← hw k e v hv]; exact hrow)

/-- A task the call does not touch: its rows, its checkpoint, and thread `i` works for
    another one or stays in its phase. -/
theorem Good.untouched (h : Good w taskId) (hi : DrivenInv w) (hc : c.claimed r = none)
    (hrows : ∀ id, rowStatus taskId s' id = rowStatus taskId w.store id)
    (hw : s'.workflows.get taskId = w.store.workflows.get taskId)
    (ha : ∀ x, w.store.approvalStatus taskId x = some .approved → s'.approvalStatus taskId x = some .approved)
    (hphase : (phase i w.journal).after c r = phase i w.journal ∨ concerning i w.journal ≠ some taskId) :
    Good ⟨s', t, .did i c r :: w.journal⟩ taskId := by
  have hspent : ∀ id, rowStatus taskId w.store id = some .processing →
      (Spent ⟨s', t, .did i c r :: w.journal⟩ id ↔ Spent w id) := by
    intro id hrow
    obtain ⟨row, hr, ht, -⟩ := rowStatus_some.mp hrow
    -- the worker of a row of the task works for the task
    have htask : ∀ d seen, phase i w.journal = .holding d seen → d.id = id → concerning i w.journal = some taskId := by
      intro d seen hp hd
      obtain ⟨row', hr', ht'⟩ := hi.held i d seen hp
      rw [hd, hr] at hr'
      cases hr'
      rw [holding_concerning hp, ← ht', ht]
    constructor
    · refine spent_other hc ?_
      intro d st hp hst hd
      rcases hphase with he | hne
      · exact ⟨st, he ▸ hp, hst⟩
      · rcases after_holding hp with hc' | ⟨-, seen, hp'⟩
        · rw [hc] at hc'; cases hc'
        · exact absurd (htask d seen hp' hd) hne
    · refine spent_kept hc ?_
      intro d st hp hst hd
      rcases hphase with he | hne
      · exact ⟨st, by rw [he]; exact hp, hst⟩
      · exact absurd (htask d _ hp hd) hne
  have hdrives : ∀ x, Drives ⟨s', t, .did i c r :: w.journal⟩ taskId x ↔ Drives w taskId x := by
    intro x
    cases x with
    | row id =>
      show (∃ st, rowStatus taskId s' id = _ ∧ _) ↔ _
      rw [hrows]
      refine exists_congr fun st => and_congr_right fun hrow => and_congr_right fun _ => not_congr ?_
      refine and_congr_right fun e => ?_
      subst e; exact hspent id hrow
    | thread k =>
      by_cases e : k = i
      · subst e
        show concerning k _ = _ ∧ (phase k _).owes = true ↔ concerning k w.journal = _ ∧ _
        rw [concerning_did hc, phase_did]
        rcases hphase with he | hne
        · rw [he]
        · simp [hne]
      · exact drives_other e
  refine h.shrink (fun id st hr hst => ⟨st, by rw [← hrows]; exact hr, hst⟩) (fun x => (hdrives x).mp) ?_ ?_
  · intro hact
    refine ⟨by unfold Active at hact ⊢; simp only [hw] at hact; exact hact, fun x hx he => ⟨(hdrives x).mpr hx, ?_⟩⟩
    cases x with
    | row id => trivial
    | thread k =>
      by_cases e : k = i
      · subst e
        rcases hphase with hp | hne
        · intro v hv row hrow
          rw [phase_did, hp] at hv
          exact he v hv row (by rw [← hw]; exact hrow)
        · exact absurd hx.1 hne
      · exact (effective_other e hw).mpr he
  · intro hh x hx
    refine h.halted ?_ x ((hdrives x).mp hx)
    obtain ⟨row, hr, hst⟩ := hh
    refine ⟨row, by rw [← hw]; exact hr, hst.imp_right ?_⟩
    intro hp
    obtain ⟨p, hp, hne⟩ := hp
    exact ⟨p, hp, fun happ => hne (ha _ happ)⟩

end

end AgentResilience
