/-
  AgentResilience.Phase — what a thread still owes the workflow it works for, read off its
  own journal entries. A worker holds its delivery from the claim to the acknowledgement or
  the retry; `seen` is the checkpoint it read or saved last. After the acknowledgement of an
  active workflow, and after an approval, the thread owes the queueing of the next
  delivery; after the acknowledgement of a delivery that failed for good it owes the save
  of `FAILED`.

  - `Spent`: a delivery whose worker has seen its workflow inactive and will only
    acknowledge it.
  - `HoldsLease`: a worker that holds a delivery is the last to have claimed it, and its
    lease has not ended.
-/
import AgentResilience.Guarantee

namespace AgentResilience

open Interaction

inductive Phase where
  | free
  | holding (delivery : QueueDelivery) (seen : Option WorkflowState)
  /-- The next delivery has to be queued. -/
  | owing
  /-- The workflow has to be saved as failed; the version read for it. -/
  | failing (read : Option Nat)

/-- The phase after a call and its answer. -/
def Phase.after (ph : Phase) : (c : Call) → Except PyError c.Ret → Phase
  | .store (.claim ..), .ok (some delivery) => .holding delivery none
  | .store (.getWorkflow _), .ok o =>
    match ph with
    | .holding delivery _ => .holding delivery o
    | .failing _ => o.elim .free fun st => if st.terminal then .free else .failing (some st.version)
    | ph => ph
  | .store (.saveWorkflow ..), .ok st =>
    match ph with
    | .holding delivery _ => .holding delivery (some st)
    | .failing _ => .free
    | .owing => .owing
    | .free => if st.status = .queued then .owing else .free
  | .store (.saveWorkflow ..), .error _ =>
    match ph with
    | .failing _ => .free
    | ph => ph
  | .store (.acknowledge _), .ok _ =>
    match ph with
    | .holding _ (some st) => if st.status = .queued then .owing else if st.status = .running then .failing none else .free
    | _ => .free
  | .store (.retryOrDeadLetter ..), .ok _ => .free
  | .store (.enqueue ..), .ok _ => .free
  | _, _ => ph

/-- The phase of thread `i`. -/
def phase (i : ThreadId) : List Entry → Phase
  | [] => .free
  | .began j _ :: es => if j = i then .free else phase i es
  | .did j c r :: es => if j = i then (phase i es).after c r else phase i es
  | .ended j _ :: es => if j = i then .free else phase i es
  | .died j :: es => if j = i then .free else phase i es

/-- The workflow an operation is started for; a worker learns it from its claim. -/
def Operation.taskId : Operation → Option String
  | runOnce _ => none
  | heartbeatTick _ delivery => some delivery.taskId
  | createIncident taskId .. | approve taskId .. | reject taskId .. | replay _ taskId .. => some taskId

def Entry.concerns (i : ThreadId) : Entry → Option (Option String)
  | began j op => if j = i then some op.taskId else none
  | did j (.store (.claim ..)) (.ok (some delivery)) => if j = i then some (some delivery.taskId) else none
  | _ => none

/-- The workflow thread `i` works for, in the operation it runs or ran last. -/
def concerning (i : ThreadId) : List Entry → Option String := latest (Entry.concerns i)

/-- The thread a journal entry's claim of row `id` is of. -/
def Entry.claims (id : Nat) : Entry → Option ThreadId
  | did i (.store (.claim ..)) (.ok (some delivery)) => if delivery.id = id then some i else none
  | _ => none

/-- The thread that claimed row `id` last. -/
def claimant (id : Nat) (journal : List Entry) : Option ThreadId := journal.findSome? (Entry.claims id)

/-! ## Reading phases -/

/-- A claim that found a delivery. -/
def Call.claimed : (c : Call) → Except PyError c.Ret → Option QueueDelivery
  | .store (.claim ..), .ok delivery => delivery
  | _, _ => none

theorem phase_other {i j : ThreadId} (h : j ≠ i) (c : Call) (r : Except PyError c.Ret) (es : List Entry) :
    phase i (.did j c r :: es) = phase i es := by
  simp [phase, h]

@[simp] theorem phase_did (i : ThreadId) (c : Call) (r : Except PyError c.Ret) (es : List Entry) :
    phase i (.did i c r :: es) = (phase i es).after c r := by
  simp [phase]

theorem concerning_cons (i : ThreadId) (e : Entry) (es : List Entry) :
    concerning i (e :: es) = (e.concerns i).getD (concerning i es) := latest_cons ..

theorem concerns_claimed (i j : ThreadId) (c : Call) (r : Except PyError c.Ret) :
    (Entry.did j c r).concerns i = if j = i then (c.claimed r).map (fun d => some d.taskId) else none := by
  cases c with
  | store c =>
    cases c with
    | claim =>
      match r with
      | .ok (some d) => by_cases e : j = i <;> simp [Entry.concerns, Call.claimed, e]
      | .ok none | .error _ => simp [Entry.concerns, Call.claimed]
    | _ => simp [Entry.concerns, Call.claimed]
  | _ => simp [Entry.concerns, Call.claimed]

theorem concerning_other {i j : ThreadId} (h : j ≠ i) (c : Call) (r : Except PyError c.Ret) (es : List Entry) :
    concerning i (.did j c r :: es) = concerning i es := by
  simp [concerning_cons, concerns_claimed, h]

/-- A call that claims nothing. -/
theorem concerning_did {i : ThreadId} {c : Call} {r : Except PyError c.Ret} (h : c.claimed r = none) (es : List Entry) :
    concerning i (.did i c r :: es) = concerning i es := by
  simp [concerning_cons, concerns_claimed, h]

theorem claimant_claimed (id : Nat) (i : ThreadId) (c : Call) (r : Except PyError c.Ret) (es : List Entry) :
    claimant id (.did i c r :: es) = if (c.claimed r).any (fun d => d.id = id) then some i else claimant id es := by
  have he : (Entry.did i c r).claims id = if (c.claimed r).any (fun d => d.id = id) then some i else none := by
    cases c with
    | store c =>
      cases c with
      | claim =>
        match r with
        | .ok (some d) => simp [Entry.claims, Call.claimed]
        | .ok none | .error _ => simp [Entry.claims, Call.claimed]
      | _ => simp [Entry.claims, Call.claimed]
    | _ => simp [Entry.claims, Call.claimed]
  unfold claimant
  rw [List.findSome?_cons, he]
  split <;> simp_all

theorem claimant_did {c : Call} {r : Except PyError c.Ret} (h : c.claimed r = none) (id : Nat) (i : ThreadId)
    (es : List Entry) : claimant id (.did i c r :: es) = claimant id es := by
  simp [claimant_claimed, h]

/-- A delivery held after a call was claimed by it or held before. -/
theorem after_holding {ph : Phase} {c : Call} {r : Except PyError c.Ret} {d : QueueDelivery} {seen : Option WorkflowState}
    (h : ph.after c r = .holding d seen) :
    c.claimed r = some d ∨ c.claimed r = none ∧ ∃ seen', ph = .holding d seen' := by
  cases hc : c.claimed r with
  | some d' =>
    unfold Call.claimed at hc
    split at hc
    · cases hc
      simp only [Phase.after] at h
      cases h; exact .inl rfl
    · cases hc
  | none =>
    refine .inr ⟨rfl, ?_⟩
    unfold Phase.after at h
    split at h
    · cases hc
    · split at h
      · cases h; exact ⟨_, rfl⟩
      · rename_i o _ _
        cases o with
        | none => cases h
        | some st => simp only [Option.elim_some] at h; split at h <;> cases h
      · exact ⟨seen, h⟩
    · split at h
      · cases h; exact ⟨_, rfl⟩
      · cases h
      · cases h
      · split at h <;> cases h
    · split at h
      · cases h
      · exact ⟨seen, h⟩
    · split at h
      · split at h
        · cases h
        · split at h <;> cases h
      · cases h
    · cases h
    · cases h
    · exact ⟨seen, h⟩

/-- A worker works for the workflow of the delivery it holds. -/
theorem holding_concerning {i : ThreadId} {es : List Entry} {d : QueueDelivery} {seen : Option WorkflowState}
    (h : phase i es = .holding d seen) : concerning i es = some d.taskId := by
  induction es generalizing seen with
  | nil => cases h
  | cons e es ih =>
    cases e with
    | began j op =>
      simp only [phase] at h
      split at h
      · cases h
      · rename_i hj; simp [concerning_cons, Entry.concerns, hj, ih h]
    | did j c r =>
      by_cases hj : j = i
      · subst hj
        rw [phase_did] at h
        rcases after_holding h with hc | ⟨hc, seen', h⟩
        · simp [concerning_cons, concerns_claimed, hc]
        · rw [concerning_did hc]; exact ih h
      · rw [phase_other hj] at h
        rw [concerning_other hj]; exact ih h
    | ended j o | died j =>
      simp only [phase] at h
      split at h
      · cases h
      · rw [concerning_cons]; exact ih h

/-! ## Leases -/

/-- Row `id` is held by a worker that has seen its workflow inactive. -/
def Spent (w : World) (id : Nat) : Prop :=
  ∃ i d st, phase i w.journal = .holding d (some st) ∧ st.status.active = false ∧ d.id = id ∧
    claimant id w.journal = some i

/-- Thread `i`, if it holds a delivery, was the last to claim it, and its lease has not ended. -/
def HoldsLease (i : ThreadId) (w : World) : Prop :=
  ∀ d seen, phase i w.journal = .holding d seen → claimant d.id w.journal = some i ∧
    ∃ row until_, w.store.queue.get d.id = some row ∧ row.status = .processing ∧ row.leaseUntil = some until_ ∧ w.now ≤ until_

/-- No crash, and every worker acts only while it holds its lease. -/
def Env.leased : Env where
  allows i w _ _ := HoldsLease i w
  dies _ _ := False

/-- The same, and no enqueueing takes a spent delivery for an active one. -/
def Env.unspent : Env where
  allows i w c _ := HoldsLease i w ∧
    match c with
    | .store (.enqueue taskId _) => ∀ row, w.store.queue.rows.find? (SQLiteStore.isActive taskId) = some row →
        row.status = .processing → ¬ Spent w row.id
    | _ => True
  dies _ _ := False

end AgentResilience
