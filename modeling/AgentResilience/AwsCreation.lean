/-
  AgentResilience.AwsCreation — creating a workflow on the AWS store: the checkpoint, the audit
  event and the message are three remote writes. Any of them may fail, and one that fails may
  have taken effect all the same.

  `create_atomic_iff`: they are all or nothing, of a task not stored yet, exactly if none fails
  or the first one does, without effect. `created_unsent`: when the second one fails the
  checkpoint stays, queued, without a message.
-/
import AgentResilience.AwsReplay

namespace AgentResilience

open Interaction
open Interaction.Prog (attempt throw)
open AWSDurableStore (stateKey eventKey messageBody)

/-! ## Failures -/

/-- What a call raises, and whether it took effect before. -/
structure Failure where
  error : PyError
  applied : Bool

/-- The calls of a creation that fail. -/
structure Failures where
  checkpoint : Option Failure := none
  event : Option Failure := none
  message : Option Failure := none

/-- The failure of a call: a checkpoint's and an event's item are told by their keys. -/
def Failures.of (failures : Failures) : DurableCall → Option Failure
  | .putItem key _ _ => if key.2 = "STATE" then failures.checkpoint else failures.event
  | .sendMessage .. => failures.message
  | _ => none

/-- AWS, with these failures. -/
def awsFailing (failures : Failures) : Service DurableCall DurableCall.Ret PyError AwsState := fun c a r a' =>
  match failures.of c with
  | none => AwsEffect c a r a'
  | some failure => r = .error failure.error ∧ if failure.applied then ∃ answer, AwsEffect c a answer a' else a' = a

/-! ## All or nothing -/

/-- The checkpoint, its event and a message for it exist. -/
structure CreatedWhole (st : WorkflowState) (a : AwsState) : Prop where
  checkpoint : a.checkpoint st.taskId = some st
  event : ∃ id item, a.table (eventKey st.taskId id) = some item ∧ item.eventType = some .workflowCreated
  message : ∃ m ∈ a.work.rows, m.isFor st.taskId

/-- A creation that raises leaves no checkpoint of the task, and one that returns leaves all three. -/
def AllOrNothing (st : WorkflowState) (o : Except PyError WorkflowState) (a : AwsState) : Prop :=
  (∀ e, o = .error e → a.table (stateKey st.taskId) = none) ∧ ((∃ st', o = .ok st') → CreatedWhole st a)

/-- No write fails, or the first one does, without effect. -/
def Failures.harmless (failures : Failures) : Prop :=
  (∃ failure, failures.checkpoint = some failure ∧ failure.applied = false) ∨
    failures.checkpoint = none ∧ failures.event = none ∧ failures.message = none

variable {failures : Failures} {a a' : AwsState} {st : WorkflowState} {n : Nat}

/-- A checkpoint that stays stored. -/
def Stored (taskId : String) (a : AwsState) : Prop := a.table (stateKey taskId) ≠ none

theorem WriteEffect.stored {t : String} {key : ItemKey} {item : Item} {condition : Option Item → Bool} {r : Except PyError Unit}
    (h : Stored t a) (hs : WriteEffect (a.table.put key item condition) a r a') : Stored t a' := by
  cases hp : a.table.put key item condition with
  | none =>
    rw [hp] at hs
    obtain ⟨-, rfl⟩ := hs
    exact h
  | some table =>
    rw [hp] at hs
    obtain ⟨-, rfl⟩ := hs
    show table (stateKey t) ≠ none
    rw [(Items.put_some hp).2]
    split
    · simp
    · exact h

/-- A call leaves a stored checkpoint stored, whether it fails or not. -/
theorem awsFailing_stored {t : String} {c : DurableCall} {r : Except PyError c.Ret} (hs : awsFailing failures c a r a') (h : Stored t a) :
    Stored t a' := by
  have heffect : ∀ {answer : Except PyError c.Ret}, AwsEffect c a answer a' → Stored t a' := by
    intro answer he
    cases c with
    | putItem key item condition => exact WriteEffect.stored h he
    | updateItem key update condition => exact WriteEffect.stored h he
    | sendMessage name body =>
      obtain ⟨-, -, messages, -, -, rfl⟩ := he
      cases name <;> exact h
    | deleteMessage name receipt =>
      rcases he with ⟨-, rfl⟩ | ⟨-, -, rfl⟩
      · cases name <;> exact h
      · exact h
    | getItem | utcNow | uuid4 => obtain ⟨-, rfl⟩ := he; exact h
  unfold awsFailing at hs
  split at hs
  · exact heffect hs
  · obtain ⟨-, hs⟩ := hs
    split at hs
    · obtain ⟨answer, he⟩ := hs
      exact heffect he
    · subst hs
      exact h

/-- A write that raises, of a creation whose checkpoint is stored, leaves half of it. -/
theorem not_allOrNothing {o : Except PyError WorkflowState} {e : PyError} (h : Stored st.taskId a) (ho : o = .error e) :
    ¬ AllOrNothing st o a := fun hall => h (hall.1 e ho)

/-! ## The three writes -/

theorem recordEvent_failing (t : String) (e : EventType) (payload : Json) :
    wp (awsFailing failures) (AWSDurableStore.recordEvent t e payload) (fun o a' =>
      failures.event = none ∧ o = .ok () ∧ (∃ id item, a'.table (eventKey t id) = some item ∧ item.eventType = some e) ∧
          a'.table (stateKey t) = a.table (stateKey t) ∧ a'.work = a.work ∨
        failures.event ≠ none ∧ (∃ error, o = .error error) ∧ (failures.event.all (!·.applied) = true → a' = a)) a := by
  refine wp_bind.mpr (wp_perform.mpr fun r a₁ hs => ?_)
  obtain ⟨⟨t₁, rfl⟩, rfl⟩ : (∃ t, r = .ok t) ∧ a₁ = a := hs
  refine wp_bind.mpr (wp_perform.mpr fun r a₂ hs => ?_)
  obtain ⟨⟨hex, rfl⟩, rfl⟩ : (∃ hex, r = .ok hex) ∧ a₂ = a₁ := hs
  refine wp_bind.mpr (wp_attempt.mpr (wp_perform.mpr fun r a₃ hs => ?_))
  have hkey : ∀ id : String, (eventKey t id).2 ≠ "STATE" := fun id => text_ne (by simp [eventKey])
  simp only [awsFailing, Failures.of, if_neg (hkey _)] at hs
  cases hevent : failures.event with
  | none =>
    rw [hevent] at hs
    simp only [AwsEffect, Items.put, Condition.holds, if_true] at hs
    obtain ⟨rfl, rfl⟩ := hs
    refine .inl ⟨rfl, rfl, ⟨_, _, if_pos rfl, rfl⟩, ?_, rfl⟩
    exact if_neg (eventKey_stateKey _ _ _).symm
  | some failure =>
    rw [hevent] at hs
    obtain ⟨rfl, hs⟩ := hs
    have hsame : (some failure).all (!·.applied) = true → a₃ = a₂ := by
      intro hno
      rwa [if_neg (by simpa using hno)] at hs
    simp only [after]
    split
    · rename_i heq
      cases heq
    · exact .inr ⟨by simp, ⟨_, rfl⟩, hsame⟩
    · exact .inr ⟨by simp, ⟨_, rfl⟩, hsame⟩

theorem enqueue_failing (t : String) (n : Nat) :
    wp (awsFailing failures) (AWSDurableStore.enqueue t n) (fun o a' =>
      failures.message = none ∧ (∃ id, o = .ok id) ∧ a'.table = a.table ∧ (∃ m ∈ a'.work.rows, m.isFor t) ∨
        failures.message ≠ none ∧ ∃ error, o = .error error) a := by
  refine wp_bind.mpr (wp_attempt.mpr (wp_perform.mpr fun r a₁ hs => ?_))
  simp only [awsFailing, Failures.of] at hs
  cases hmessage : failures.message with
  | none =>
    rw [hmessage] at hs
    obtain ⟨messageId, receipt, messages, hinsert, rfl, rfl⟩ := hs
    refine .inl ⟨rfl, ⟨_, rfl⟩, rfl, ⟨receipt, messageBody t n⟩, ?_, rfl⟩
    show _ ∈ messages.rows
    rw [Table.insert_rows hinsert]
    exact List.mem_append_right _ (List.mem_singleton_self _)
  | some failure =>
    rw [hmessage] at hs
    obtain ⟨rfl, -⟩ := hs
    simp only [after]
    split
    · rename_i heq
      cases heq
    · exact .inr ⟨by simp, _, rfl⟩
    · exact .inr ⟨by simp, _, rfl⟩

/-- What follows the checkpoint: the creation returns, with all three, if neither fails. -/
theorem announce_failing (hcheck : a.checkpoint st.taskId = some st) :
    wp (awsFailing failures) (do
      AWSDurableStore.recordEvent st.taskId .workflowCreated (.obj [("goal", .str st.goal)])
      let _ ← AWSDurableStore.enqueue st.taskId n
      pure st) (fun o a' =>
        failures.event = none ∧ failures.message = none ∧ o = .ok st ∧ CreatedWhole st a' ∨
          ¬ (failures.event = none ∧ failures.message = none) ∧ ∃ error, o = .error error) a := by
  refine wp_bind.mpr (wp_mono (recordEvent_failing _ _ _) fun o a₁ hq => ?_)
  rcases hq with ⟨hevent, rfl, ⟨id, item, hitem, htype⟩, hstate, -⟩ | ⟨hevent, ⟨error, rfl⟩, -⟩
  · refine wp_bind.mpr (wp_mono (enqueue_failing _ _) fun o a₂ hq => ?_)
    rcases hq with ⟨hmessage, ⟨messageId, rfl⟩, htable, hsent⟩ | ⟨hmessage, error, rfl⟩
    · refine .inl ⟨hevent, hmessage, rfl, ?_, ⟨id, item, by rw [htable]; exact hitem, htype⟩, hsent⟩
      show (a₂.table (stateKey st.taskId)).bind (·.stateJson) = some st
      rw [htable, hstate]
      exact hcheck
    · exact .inr ⟨fun h => hmessage h.2, error, rfl⟩
  · exact .inr ⟨fun h => hevent h.1, error, rfl⟩

theorem announce_files (st : WorkflowState) (n : Nat) : (do
      AWSDurableStore.recordEvent st.taskId .workflowCreated (.obj [("goal", .str st.goal)])
      let _ ← AWSDurableStore.enqueue st.taskId n
      pure st : AwsPy WorkflowState).Makes DurableCall.files := by
  refine Prog.makes_bind (recordEvent_files ..) fun _ => ?_
  exact Prog.makes_bind (orAwsError_makes (Prog.makes_perform trivial)) fun _ => trivial

/-! ## Creating a workflow -/

/-- Nothing but the first write puts a checkpoint there. -/
theorem create_stored (h : Stored st.taskId a) :
    wp (awsFailing failures) (AWSDurableStore.createWorkflow st n) (fun o a' => Stored st.taskId a' ∧ ∃ e, o = .error e) a := by
  have hkeeps : wp (awsFailing failures) (AWSDurableStore.createWorkflow st n) (fun _ a' => Stored st.taskId a') a :=
    wp_keeps (fun c a r a' _ hs h => awsFailing_stored hs h) (createWorkflow_files st n) h
  refine wp_mono (wp_and hkeeps ?_) fun o a' hq => hq
  refine wp_bind.mpr (wp_attempt.mpr (wp_perform.mpr fun r a₁ hs => ?_))
  have herror : ∃ e, r = .error e := by
    unfold awsFailing at hs
    split at hs
    · have hs : WriteEffect (a.table.put (stateKey st.taskId) _ Condition.absent.holds) a r a₁ := hs
      have habsent : Condition.absent.holds (a.table (stateKey st.taskId)) = false :=
        Option.isNone_eq_false_iff.mpr (Option.isSome_iff_ne_none.mpr h)
      rw [Items.put_none.mpr habsent] at hs
      exact ⟨_, hs.1⟩
    · exact ⟨_, hs.1⟩
  obtain ⟨e, rfl⟩ := herror
  simp only [after]
  split
  · split <;> exact ⟨_, rfl⟩
  · exact ⟨_, rfl⟩
  · rename_i heq
    cases heq

/-- The first write of a task not stored, where it takes effect. -/
theorem first_written (hnone : a.table (stateKey st.taskId) = none) {item : Item} {r : Except PyError Unit}
    (hitem : item.stateJson = some st) (hs : AwsEffect (.putItem (stateKey st.taskId) item .absent) a r a') :
    r = .ok () ∧ a'.checkpoint st.taskId = some st ∧ Stored st.taskId a' ∧ a'.work = a.work := by
  have hs : WriteEffect (a.table.put (stateKey st.taskId) item Condition.absent.holds) a r a' := hs
  cases hp : a.table.put (stateKey st.taskId) item Condition.absent.holds with
  | none =>
    rw [Items.put_none, hnone] at hp
    cases hp
  | some table =>
    rw [hp] at hs
    obtain ⟨rfl, rfl⟩ := hs
    have hget : table (stateKey st.taskId) = some item := by rw [(Items.put_some hp).2, if_pos rfl]
    refine ⟨rfl, ?_, ?_, rfl⟩
    · show (table (stateKey st.taskId)).bind (·.stateJson) = some st
      rw [hget]
      exact hitem
    · show table (stateKey st.taskId) ≠ none
      rw [hget]
      simp

theorem create_fresh (hnone : a.table (stateKey st.taskId) = none) :
    wp (awsFailing failures) (AWSDurableStore.createWorkflow st n) (fun o a' => AllOrNothing st o a' ↔ failures.harmless) a := by
  refine wp_bind.mpr (wp_attempt.mpr (wp_perform.mpr fun r a₁ hs => ?_))
  simp only [awsFailing, Failures.of, stateKey, if_true] at hs
  cases hput : failures.checkpoint with
  | none =>
    rw [hput] at hs
    obtain ⟨rfl, hcheck, hstored, -⟩ := first_written hnone rfl hs
    have hkeeps := (wp_keeps (I := Stored st.taskId) (fun c a r a' _ hs h => awsFailing_stored hs h) (announce_files st n) hstored :
      wp (awsFailing failures) _ _ a₁)
    refine wp_mono (wp_and hkeeps (announce_failing hcheck)) fun o a' hq => ?_
    rcases hq with ⟨hkept, ⟨hevent, hmessage, rfl, hcreated⟩ | ⟨hfails, e, rfl⟩⟩
    · refine ⟨fun _ => .inr ⟨hput, hevent, hmessage⟩, fun _ => ⟨fun e he => ?_, fun _ => hcreated⟩⟩
      cases he
    · refine ⟨fun hall => absurd hall (not_allOrNothing hkept rfl), ?_⟩
      rintro (⟨failure, hsome, -⟩ | ⟨-, hnone⟩)
      · rw [hput] at hsome
        cases hsome
      · exact absurd hnone hfails
  | some failure =>
    rw [hput] at hs
    obtain ⟨rfl, hs⟩ := hs
    have hraised : ∀ e : PyError, AllOrNothing st (.error e) a₁ ↔ failures.harmless := by
      intro e
      cases happlied : failure.applied with
      | true =>
        rw [happlied, if_pos rfl] at hs
        obtain ⟨answer, hs⟩ := hs
        refine ⟨fun hall => absurd hall (not_allOrNothing (first_written hnone rfl hs).2.2.1 rfl), ?_⟩
        rintro (⟨other, hsome, hno⟩ | ⟨hno, -⟩)
        · rw [hput] at hsome
          cases hsome
          rw [happlied] at hno
          cases hno
        · rw [hput] at hno
          cases hno
      | false =>
        rw [happlied, if_neg (by simp)] at hs
        subst hs
        refine ⟨fun _ => .inl ⟨failure, hput, happlied⟩, fun _ => ⟨fun _ _ => hnone, fun hok => ?_⟩⟩
        obtain ⟨st', hok⟩ := hok
        cases hok
    simp only [after]
    split
    · split <;> exact hraised _
    · exact hraised _
    · rename_i heq
      cases heq

/-- A creation is all or nothing exactly if the task was not stored, and no write fails or the
    first one does, without effect. A task stored before stays stored, and the creation raises. -/
theorem create_atomic_iff (failures : Failures) (a : AwsState) (st : WorkflowState) (n : Nat) {o : Except PyError WorkflowState} {a' : AwsState}
    (hr : Runs (awsFailing failures) (AWSDurableStore.createWorkflow st n) a o a') :
    (AllOrNothing st o a' ↔ a.table (stateKey st.taskId) = none ∧ failures.harmless) ∧
      (a.table (stateKey st.taskId) ≠ none → (∃ e, o = .error e) ∧ a'.table (stateKey st.taskId) ≠ none) := by
  by_cases h : Stored st.taskId a
  · obtain ⟨hkept, e, ho⟩ := wp_sound (create_stored h) hr
    refine ⟨⟨fun hall => absurd hall (not_allOrNothing hkept ho), fun hc => absurd hc.1 h⟩, fun _ => ⟨⟨e, ho⟩, hkept⟩⟩
  · have hnone := not_not.mp h
    have hiff := wp_sound (create_fresh hnone) hr
    exact ⟨⟨fun hall => ⟨hnone, hiff.mp hall⟩, fun hc => hiff.mpr hc.2⟩, fun hstored => absurd hstored h⟩

theorem awsFailing_answers (failures : Failures) (c : DurableCall) (a : AwsState) : ∃ r a', awsFailing failures c a r a' := by
  unfold awsFailing
  split
  · obtain ⟨r, a', hs⟩ := aws_answers c a
    rcases hs with hs | ⟨e, hf, -⟩
    · exact ⟨r, a', hs⟩
    · exact hf.elim
  · rename_i failure hof
    cases happlied : failure.applied with
    | true =>
      obtain ⟨r, a', hs⟩ := aws_answers c a
      rcases hs with hs | ⟨e, hf, -⟩
      · exact ⟨_, a', rfl, by rw [if_pos rfl]; exact ⟨r, hs⟩⟩
      · exact hf.elim
    | false => exact ⟨_, a, rfl, by rw [if_neg (by simp)]⟩

/-- DynamoDB throttles the checkpoint. -/
def refused : Failures := { checkpoint := some ⟨.client "ThrottlingException", false⟩ }

/-- Where nothing fails a new incident is created whole, and where its checkpoint is refused nothing is. -/
theorem create_atomic_whole :
    (∃ o a, Runs (awsFailing {}) (AWSDurableStore.createWorkflow newIncident 5) .empty o a ∧ AllOrNothing newIncident o a) ∧
    ∃ o a, Runs (awsFailing refused) (AWSDurableStore.createWorkflow newIncident 5) .empty o a ∧ AllOrNothing newIncident o a := by
  obtain ⟨o, a, hr⟩ := runs_exists (awsFailing_answers {}) (AWSDurableStore.createWorkflow newIncident 5) .empty
  obtain ⟨o', a', hr'⟩ := runs_exists (awsFailing_answers refused) (AWSDurableStore.createWorkflow newIncident 5) .empty
  exact ⟨⟨o, a, hr, (create_atomic_iff {} .empty newIncident 5 hr).1.mpr ⟨rfl, .inr ⟨rfl, rfl, rfl⟩⟩⟩,
    ⟨o', a', hr', (create_atomic_iff refused .empty newIncident 5 hr').1.mpr ⟨rfl, .inl ⟨_, rfl, rfl⟩⟩⟩⟩

/-- DynamoDB throttles the audit event. -/
def throttled : Failures := { event := some ⟨.client "ThrottlingException", false⟩ }

theorem create_throttled (hnone : a.table (stateKey st.taskId) = none) :
    wp (awsFailing throttled) (AWSDurableStore.createWorkflow st n)
      (fun o a' => (∃ e, o = .error e) ∧ a'.checkpoint st.taskId = some st ∧ Stored st.taskId a' ∧ a'.work = a.work) a := by
  refine wp_bind.mpr (wp_attempt.mpr (wp_perform.mpr fun r a₁ hs => ?_))
  simp only [awsFailing, Failures.of, stateKey, if_true, throttled] at hs
  obtain ⟨rfl, hcheck, hstored, hwork⟩ := first_written hnone rfl hs
  refine wp_bind.mpr (wp_mono (recordEvent_failing _ _ _) fun o a₂ hq => ?_)
  rcases hq with ⟨hno, -⟩ | ⟨-, ⟨e, rfl⟩, hsame⟩
  · cases hno
  · rw [hsame rfl]
    exact ⟨⟨e, rfl⟩, hcheck, hstored, hwork⟩

/-- The checkpoint stays, queued, and no message was sent. -/
theorem created_unsent : ∃ e a, Runs (awsFailing throttled) (AWSDurableStore.createWorkflow newIncident 5) .empty (.error e) a ∧
    (∃ st, a.checkpoint "t" = some st ∧ st.status = .queued) ∧ a.work.rows = [] ∧ ¬ AllOrNothing newIncident (.error e) a := by
  obtain ⟨o, a, hr⟩ := runs_exists (awsFailing_answers throttled) (AWSDurableStore.createWorkflow newIncident 5) .empty
  obtain ⟨⟨e, rfl⟩, hcheck, hstored, hwork⟩ := wp_sound (create_throttled rfl) hr
  exact ⟨e, a, hr, ⟨newIncident, hcheck, rfl⟩, by rw [hwork]; rfl, not_allOrNothing hstored rfl⟩

end AgentResilience
