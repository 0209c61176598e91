/-
  AgentResilience.WorkerFaults — a worker over a store any of whose calls may fail. A call
  that fails raises one of the runtime's own errors, before it took effect or after; the
  heartbeat extends leases and records events beside it, and what ended it is raised where it
  is awaited.

  - `beating`, `unreliable`: the calls with the heartbeat beside them, and those that may fail too.
  - `InHand`: the delivery's row, and a checkpoint of its workflow.
  - `Attended`: the workflow has ended, waits, or has a delivery.
  - `processDelivery_left`: what the body of `run_once`'s `try` leaves on each way out.
-/
import AgentResilience.DeadLetters
import AgentResilience.Persisted
import AgentResilience.WorkerCalls

namespace AgentResilience

open Interaction

/-- `AgentResilienceError`; its subclass `ApprovalRequired` is raised nowhere. -/
def PyError.ofRuntime : PyError → Bool
  | .retryable _ | .concurrentUpdate _ | .permanent _ => true
  | _ => false

/-! ## A store that fails -/

/-- The heartbeat's calls. -/
def Call.beats : Call → Bool
  | .store (.extendLease ..) | .store (.recordEvent ..) => true
  | _ => false

/-- The heartbeat goes on by a call. -/
def Beat (w w' : World) : Prop := ∃ c r, Call.beats c = true ∧ calls .free 1 c w r w'

/-- A call of the worker, its heartbeat beside it. -/
def beating : Service Call Call.Ret PyError World := fun c w r w' => ∃ w₁, Relation.ReflTransGen Beat w w₁ ∧ calls .free 0 c w₁ r w'

/-- The store's calls, and the await of the heartbeat, which raises what ended it. -/
def Call.fails : Call → Bool
  | .store _ | .awaitHeartbeat => true
  | _ => false

/-- The call raises one of the runtime's errors, before or after it took effect. -/
def Fails (c : Call) (w : World) (r : Except PyError c.Ret) (w' : World) : Prop :=
  c.fails = true ∧ ∃ e t s', r = .error e ∧ e.ofRuntime = true ∧ w.now ≤ t ∧ (s' = w.store ∨ ∃ r', Effect c w.store t r' s') ∧
    w' = ⟨s', t, .did 0 c r :: w.journal⟩

/-- Any call may fail. -/
def unreliable : Service Call Call.Ret PyError World := fun c w r w' =>
  beating c w r w' ∨ ∃ w₁, Relation.ReflTransGen Beat w w₁ ∧ Fails c w₁ r w'

/-! ## What the heartbeat leaves -/

variable {α : Type} {rt : WorkflowRuntime} {config : Settings} {taskId : String} {d : QueueDelivery} {cp st : WorkflowState} {w w' : World}
  {c : Call} {s s' : SQLiteStore} {t : Timestamp} {r : Except PyError c.Ret} {ok : QueueStatus → Prop}

/-- The call changes no delivery's status. -/
def Call.parks : Call → Bool
  | .store (.extendLease ..) => true
  | .store c => !c.writesQueue
  | _ => true

theorem effect_parks (hc : c.parks = true) (he : Effect c s t r s') (taskId : String) (id : Nat) :
    rowStatus taskId s' id = rowStatus taskId s id := by
  cases c with
  | store c =>
    obtain rfl := congrArg Prod.snd he
    cases c with
    | extendLease delivery leaseSeconds =>
      show ((s.extendLease t delivery leaseSeconds).queue.get id).bind _ = _
      rw [SQLiteStore.extendLease_get]
      cases hg : s.queue.get id with
      | none => simp [rowStatus, hg]
      | some row => simp only [rowStatus, hg, Option.map_some, Option.bind_some]; split <;> rfl
    | createWorkflow | enqueue | claim | acknowledge | retryOrDeadLetter | replayDeadLetter => cases hc
    | _ => exact congrFun (rowStatus_queue (StoreCall.apply_queue rfl ..)) id
  | clock | awaitHeartbeat => obtain ⟨-, rfl⟩ := he; rfl
  | _ => obtain rfl := he; rfl

/-- What the heartbeat leaves. -/
structure Still (w w' : World) : Prop where
  workflows : w'.store.workflows = w.store.workflows
  approvals : w'.store.approvals = w.store.approvals
  rows : ∀ taskId id, rowStatus taskId w'.store id = rowStatus taskId w.store id

theorem Still.of_store (h : w'.store = w.store) : Still w w' := ⟨by rw [h], by rw [h], fun _ _ => by rw [h]⟩

theorem Still.trans {w'' : World} (h : Still w w') (h' : Still w' w'') : Still w w'' :=
  ⟨h'.workflows.trans h.workflows, h'.approvals.trans h.approvals, fun T id => (h'.rows T id).trans (h.rows T id)⟩

theorem beat_still (h : Beat w w') : Still w w' := by
  obtain ⟨c, r, hc, t, s', -, -, he, rfl⟩ := h
  have hparks : c.parks = true ∧ c.spares = true := by
    unfold Call.beats at hc
    split at hc
    · exact ⟨rfl, rfl⟩
    · exact ⟨rfl, rfl⟩
    · cases hc
  refine ⟨effect_spares hparks.2 he, ?_, effect_parks hparks.1 he⟩
  unfold Call.beats at hc
  split at hc
  · obtain rfl := congrArg Prod.snd he; rfl
  · obtain rfl := congrArg Prod.snd he; rfl
  · cases hc

theorem beats_still (h : Relation.ReflTransGen Beat w w') : Still w w' := by
  induction h with
  | refl => exact .of_store rfl
  | tail _ h ih => exact ih.trans (beat_still h)

/-- A call of a store that fails takes effect, or it raises, and may have taken effect. -/
theorem unreliable_effect {r : Except PyError c.Ret} (h : unreliable c w r w') : ∃ w₁, Still w w₁ ∧
    ((∃ t, Effect c w₁.store t r w'.store) ∨
      ∃ e, r = .error e ∧ e.ofRuntime = true ∧ (w'.store = w₁.store ∨ ∃ t r', Effect c w₁.store t r' w'.store)) := by
  rcases h with ⟨w₁, hb, t, s', -, -, he, rfl⟩ | ⟨w₁, hb, -, e, t, s', rfl, hrun, -, heff, rfl⟩
  · exact ⟨w₁, beats_still hb, .inl ⟨t, he⟩⟩
  · exact ⟨w₁, beats_still hb, .inr ⟨e, rfl, hrun, heff.imp_right fun ⟨r', he⟩ => ⟨t, r', he⟩⟩⟩

theorem beating_effect {r : Except PyError c.Ret} (h : beating c w r w') : ∃ w₁ t, Still w w₁ ∧ Effect c w₁.store t r w'.store := by
  obtain ⟨w₁, hb, t, s', -, -, he, rfl⟩ := h
  exact ⟨w₁, t, beats_still hb, he⟩

/-- What every effect of a call keeps, and what the heartbeat keeps, a call that may fail keeps. -/
theorem unreliable_keeps {I : World → Prop} {r : Except PyError c.Ret} (hs : unreliable c w r w') (h : I w)
    (hstill : ∀ {w w'}, Still w w' → I w → I w') (heffect : ∀ {w w' t} {r : Except PyError c.Ret}, Effect c w.store t r w'.store → I w → I w') :
    I w' := by
  obtain ⟨w₁, hw, ⟨t, he⟩ | ⟨e, -, -, hsame | ⟨t, r', he⟩⟩⟩ := unreliable_effect hs
  · exact heffect he (hstill hw h)
  · exact hstill (.of_store hsame) (hstill hw h)
  · exact heffect he (hstill hw h)

/-- A store that fails answers, where it does, as one that does not. -/
theorem unreliable_truthful : Truthful unreliable where
  spares {c _ w' _} hc hs := by
    have h := unreliable_keeps (I := fun w₁ => w₁.store.workflows = _) hs rfl (fun h e => h.workflows.trans e)
      fun he e => (effect_spares hc he).trans e
    exact h
  saved hs := by
    obtain ⟨w₁, -, ⟨t, he⟩ | ⟨e, he, -⟩⟩ := unreliable_effect hs
    · have h := effect_saved (j := []) he
      exact ⟨h.1, h.2.row, h.2.task⟩
    · cases he
  read hs := by
    obtain ⟨w₁, hstill, ⟨t, he⟩ | ⟨e, he, -⟩⟩ := unreliable_effect hs
    · obtain ⟨e, hs⟩ := Prod.mk.inj he
      rw [← hs, hstill.approvals]
      refine ⟨(Except.ok.inj e).symm.trans ?_, rfl⟩
      unfold SQLiteStore.getWorkflow
      rw [hstill.workflows]
    · cases he
  approval hs := by
    obtain ⟨w₁, hstill, ⟨t, he⟩ | ⟨e, he, -⟩⟩ := unreliable_effect hs
    · refine (Except.ok.inj (Prod.mk.inj he).1).symm.trans ?_
      unfold SQLiteStore.approvalStatus
      rw [hstill.approvals]
    · cases he

/-! ## The delivery in hand -/

/-- The delivery's row, and the checkpoint of its workflow. -/
structure InHand (d : QueueDelivery) (ok : QueueStatus → Prop) (w : World) : Prop where
  row : ∃ q, rowStatus d.taskId w.store d.id = some q ∧ ok q
  filed : ∃ cp, Held d.taskId cp w

theorem InHand.still (h : InHand d ok w) (hs : Still w w') : InHand d ok w' := by
  obtain ⟨q, hq, hok⟩ := h.row
  obtain ⟨cp, hcp⟩ := h.filed
  exact ⟨⟨q, (hs.rows _ _).trans hq, hok⟩, cp, hcp.same hs.workflows⟩

theorem InHand.mono {ok' : QueueStatus → Prop} (h : InHand d ok w) (hle : ∀ q, ok q → ok' q) : InHand d ok' w := by
  obtain ⟨q, hq, hok⟩ := h.row
  exact ⟨⟨q, hq, hle q hok⟩, h.filed⟩

/-- A turn's call leaves a checkpoint, or saves it. -/
theorem turn_filed (hc : c.turns = true) (h : Held taskId cp w) (he : Effect c w.store t r w'.store) : ∃ st, Held taskId st w' := by
  by_cases hsp : c.spares = true
  · exact ⟨cp, h.same (effect_spares hsp he)⟩
  · cases c with
    | store c =>
      cases c with
      | saveWorkflow st v =>
        rcases SQLiteStore.saveWorkflow_cases he with ⟨-, -, -, -, hw, -⟩ | ⟨-, hs, -⟩
        · by_cases e : taskId = st.taskId
          · exact ⟨_, ⟨_, by rw [hw, if_pos e], rfl, rfl⟩, e.symm⟩
          · obtain ⟨row, hr, hst⟩ := h.row
            exact ⟨cp, ⟨row, by rw [hw, if_neg e]; exact hr, hst⟩, h.task⟩
        · exact ⟨cp, h.same (by rw [hs])⟩
      | createWorkflow | replayDeadLetter => cases hc
      | _ => exact absurd rfl hsp
    | _ => exact absurd rfl hsp

theorem turns_parks (hc : c.turns = true) : c.parks = true := by
  cases c with
  | store c => cases c <;> first | rfl | cases hc
  | _ => rfl

/-- A turn leaves the delivery in hand. -/
theorem turn_inHand {r : Except PyError c.Ret} (hc : c.turns = true) (hs : unreliable c w r w') (h : InHand d ok w) : InHand d ok w' := by
  refine unreliable_keeps hs h (fun hs h => h.still hs) fun he h => ?_
  obtain ⟨q, hq, hok⟩ := h.row
  obtain ⟨cp, hcp⟩ := h.filed
  exact ⟨⟨q, (effect_parks (turns_parks hc) he _ _).trans hq, hok⟩, turn_filed hc hcp he⟩

theorem process_inHand (he : rt.engine = anyEngine) (hb : rt.backend = anyBackend) (h : InHand d ok w) :
    wp unreliable (rt.process taskId) (fun _ w' => InHand d ok w') w :=
  wp_keeps (fun _ _ _ _ hc hs h => turn_inHand hc hs h) (process_makes (φ := fun c => c.turns = true) (fun _ hc => hc) he hb taskId) h

/-- A workflow whose pending action is not approved is returned as waiting. -/
theorem process_waits (hi : StoreOk Set.univ w.store) (h : Unapproved taskId w.store) :
    wp unreliable (rt.process taskId) (fun o _ => ∀ st, o = .ok st → st.status = .waitingForApproval) w := by
  obtain ⟨st, pending, hst, hact, hp, hne⟩ := h
  have htask := (held_of_stored hi hst).task
  refine wp_then (R := fun st' w' => st' = st ∧ w'.store.approvals = w.store.approvals)
    (wp_then (R := fun found w' => found = some st ∧ w'.store.approvals = w.store.approvals)
      (wp_perform.mpr fun r w₁ hs found e => ?_) (fun e _ _ h => by cases h) fun found w₁ hq => ?_)
    (fun e _ _ h => by cases h) fun st' w₁ hq => ?_
  · subst e
    exact ⟨(unreliable_truthful.read hs).1.trans hst, (unreliable_truthful.read hs).2⟩
  · obtain ⟨rfl, happrovals⟩ := hq
    rintro _ ⟨⟩
    exact ⟨rfl, happrovals⟩
  · obtain ⟨rfl, happrovals⟩ := hq
    show wp _ (if _ then _ else _) _ _
    rw [if_neg (by rw [stops_iff, hact]; simp), hp]
    refine wp_then (R := fun r _ => r ≠ some .approved) (wp_perform.mpr fun r w₂ hs a e => ?_) (fun e _ _ h => by cases h)
      fun r w₂ hr => ?_
    · subst e
      rw [unreliable_truthful.approval hs, SQLiteStore.approvalStatus, happrovals, htask]
      exact hne
    · show wp _ (if _ then _ else _) _ _
      rw [if_pos hr]
      rintro _ ⟨⟩
      rfl

/-! ## The body of the `try` -/

/-- The workflow has ended or waits for approval, or a delivery of it is pending or with a worker. -/
def Attended (taskId : String) (s : SQLiteStore) : Prop :=
  (∃ st, s.getWorkflow taskId = some st ∧ (st.terminal = true ∨ st.status = .waitingForApproval)) ∨
  ∃ id q, rowStatus taskId s id = some q ∧ (q = .pending ∨ q = .processing)

theorem Attended.still (h : Attended taskId w.store) (hs : Still w w') : Attended taskId w'.store := by
  rcases h with ⟨st, hst, hends⟩ | ⟨id, q, hq, hlive⟩
  · refine .inl ⟨st, ?_, hends⟩
    rw [← hst]
    unfold SQLiteStore.getWorkflow
    rw [hs.workflows]
  · exact .inr ⟨id, q, (hs.rows _ _).trans hq, hlive⟩

/-- What the body of the `try` leaves: where the runtime raised none of its errors, the delivery is still the worker's. -/
def Left (d : QueueDelivery) (P : Prop) : Except PyError Unit → World → Prop
  | .ok (), w => P → Attended d.taskId w.store
  | .error e, w => InHand d (fun q => e.ofRuntime = true ∨ q = .processing) w

theorem acknowledge_inHand {u : Except PyError Unit} (h : InHand d ok w)
    (he : Effect (.store (.acknowledge d.id)) w.store t u w'.store) : InHand d (fun _ => True) w' := by
  obtain ⟨q, hq, -⟩ := h.row
  obtain ⟨cp, hcp⟩ := h.filed
  obtain ⟨row, hr, ht, -⟩ := rowStatus_some.mp hq
  refine ⟨⟨.completed, rowStatus_some.mpr ⟨{ row with status := .completed, leaseUntil := none, updatedAt := t }, ?_, ht, rfl⟩, trivial⟩,
    cp, hcp.same (effect_spares (by rfl) he)⟩
  have hs : w.store.acknowledge t d.id = w'.store := congrArg Prod.snd he
  rw [← hs, SQLiteStore.acknowledge_get, hr, Option.map_some, if_pos rfl]

theorem enqueue_inHand {T : String} {n : Nat} {r : Except PyError Nat} (h : InHand d ok w)
    (he : Effect (.store (.enqueue T n)) w.store t r w'.store) : InHand d ok w' := by
  obtain ⟨q, hq, hok⟩ := h.row
  obtain ⟨cp, hcp⟩ := h.filed
  refine ⟨⟨q, ?_, hok⟩, cp, hcp.same (effect_spares (by rfl) he)⟩
  rcases SQLiteStore.enqueue_cases he with ⟨-, -, -, -, -, -, hs⟩ | ⟨-, -, -, hs⟩ | ⟨-, -, hs⟩
  · rw [hs]; exact hq
  · rw [hs]; exact rowStatus_insert hq
  · rw [hs]; exact hq

/-- The next delivery of a stored workflow. -/
theorem enqueue_attended {n : Nat} {r : Except PyError Nat} (h : Held taskId cp w)
    (he : Effect (.store (.enqueue taskId n)) w.store t r w'.store) : Attended taskId w'.store ∧ ∃ id, r = .ok id := by
  obtain ⟨row, hr, -⟩ := h.row
  rcases SQLiteStore.enqueue_cases he with ⟨x, -, hx, ht, hlive, rfl, hs⟩ | ⟨-, -, rfl, hs⟩ | ⟨hn, -⟩
  · exact ⟨.inr ⟨x.id, x.status, rowStatus_some.mpr ⟨x, hs ▸ hx, ht, rfl⟩, hlive⟩, _, rfl⟩
  · refine ⟨.inr ⟨w.store.nextQueueId, .pending, ?_, .inl rfl⟩, _, rfl⟩
    rw [hs, insertQueue_rowStatus, if_pos rfl]
    simp
  · exact absurd hr (by rw [hn]; simp)

theorem processDelivery_left (he : rt.engine = anyEngine) (hb : rt.backend = anyBackend) (hi : StoreOk Set.univ w.store)
    (h : InHand d (· = .processing) w) :
    wp unreliable (processDelivery rt config d) (Left d (¬ Unapproved d.taskId w.store)) w := by
  have hturn : wp unreliable (rt.process d.taskId) (fun o w' => InHand d (· = .processing) w' ∧ ∀ st, o = .ok st →
      st.status = .waitingForApproval ∧ Unapproved d.taskId w.store ∨ Held d.taskId st w' ∧ st.status ≠ .running) w := by
    refine wp_and (process_inHand he hb h) ?_
    by_cases hun : Unapproved d.taskId w.store
    · exact wp_mono (process_waits hi hun) fun o w' hq st e => .inl ⟨hq st e, hun⟩
    · exact wp_mono (process_agrees unreliable_truthful he hi hun) fun o w' hq st e => .inr (hq st e)
  refine wp_bind.mpr (wp_mono hturn fun o w₁ hq => ?_)
  obtain ⟨h₁, hq⟩ := hq
  cases o with
  | error e => exact h₁.mono fun _ h => .inr h
  | ok st =>
    refine wp_bind.mpr (wp_perform.mpr fun r w₂ hs => ?_)
    have h₂ : InHand d (fun _ => True) w₂ := unreliable_keeps (I := InHand d fun _ => True) hs (h₁.mono fun _ _ => trivial)
      (fun hs h => h.still hs) fun he h => acknowledge_inHand h he
    cases r with
    | error e =>
      obtain ⟨_, -, ⟨t, heff⟩ | ⟨_, e', hrun, -⟩⟩ := unreliable_effect hs
      · cases (Prod.mk.inj heff).1
      · cases e'
        exact h₂.mono fun _ _ => .inl hrun
    | ok u =>
      show wp _ (if _ then _ else _) _ w₂
      split
      · rename_i hqueued
        obtain ⟨hst, -⟩ := (hq st rfl).resolve_left (by rw [hqueued]; simp)
        have hst₂ := hst.keeps unreliable_truthful (by rfl) hs
        refine wp_bind.mpr (wp_perform.mpr fun r w₃ hs₃ => ?_)
        obtain ⟨w', hw', ⟨t, heff⟩ | ⟨e, rfl, hrun, -⟩⟩ := unreliable_effect hs₃
        · rw [hst.task] at heff
          obtain ⟨hatt, id, rfl⟩ := enqueue_attended (hst₂.same hw'.workflows) heff
          exact fun _ => hatt
        · have h₃ : InHand d (fun _ => True) w₃ := unreliable_keeps (I := InHand d fun _ => True) hs₃ h₂ (fun hs h => h.still hs)
            fun he h => enqueue_inHand h he
          exact h₃.mono fun _ _ => .inl hrun
      · rename_i hother
        intro hun
        obtain ⟨hst, hrunning⟩ := (hq st rfl).resolve_left fun h => hun h.2
        refine .inl ⟨st, (hst.keeps unreliable_truthful (by rfl) hs).stored, stopped_iff.mp ?_⟩
        cases hstatus : st.status <;> simp_all [WorkflowStatus.active]

end AgentResilience
