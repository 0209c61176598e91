/-
  AgentResilience.Delivery — what a worker's run makes of the store: the delivery it claims
  takes a turn, and how the turn ended settles the delivery's row and, where the delivery
  went wrong for good, the checkpoint (`Settlement`).

  `runOnce_served`: a run finds nothing to claim, or claims a delivery that takes a turn
  and is settled.
-/
import AgentResilience.TurnWalk

namespace AgentResilience

open Interaction
open Interaction.Prog (attempt throw makes_bind makes_perform)
open WorkflowState (content)

/-- The checkpoint of a workflow that a delivery's failure ends, unless it has ended. -/
def WorkflowState.endedBy (st : WorkflowState) (status : WorkflowStatus) (error : String) : WorkflowState :=
  if st.terminal then st else { st with status, lastError := some error }

/-- How a delivery is settled: from the turn's outcome and checkpoint to the final checkpoint,
    and from the store after the claim to the queue of the store at the end. -/
inductive Settlement (config : Settings) (env : Env) (d : QueueDelivery) (s : SQLiteStore) (now : Timestamp) :
    Except PyError WorkflowState → WorkflowState → WorkflowState → SQLiteStore → Timestamp → Prop
  | acknowledged {cp st : WorkflowState} {t : Timestamp} : now ≤ t → cp.status ≠ .queued →
      Settlement config env d s now (.ok cp) st st (s.acknowledge t d.id) t
  | requeued {cp st : WorkflowState} {t t' : Timestamp} : now ≤ t → t ≤ t' → cp.status = .queued →
      Settlement config env d s now (.ok cp) st st ((s.acknowledge t d.id).insertQueue t' d.taskId config.maxQueueAttempts) t'
  | overflowed {e x : PyError} {st : WorkflowState} : e.isRetryable = true →
      backoff config.queueRetryBaseSeconds (d.attempts - 1) = .error x →
      (∃ w r, env.allows 0 w (.store (.retryOrDeadLetter d e.message config.queueRetryBaseSeconds)) r) →
      Settlement config env d s now (.error e) st st s now
  | returned {e : PyError} {st : WorkflowState} {t : Timestamp} {delay : ℚ} : now ≤ t → e.isRetryable = true →
      backoff config.queueRetryBaseSeconds (d.attempts - 1) = .ok delay → d.attempts < d.maxAttempts →
      Settlement config env d s now (.error e) st st (s.retryOrDeadLetter t d e.message config.queueRetryBaseSeconds).2 t
  | buried {e : PyError} {st : WorkflowState} {t : Timestamp} {delay : ℚ} : now ≤ t → e.isRetryable = true →
      backoff config.queueRetryBaseSeconds (d.attempts - 1) = .ok delay → d.maxAttempts ≤ d.attempts →
      Settlement config env d s now (.error e) st (st.endedBy .deadLettered e.message)
        (s.retryOrDeadLetter t d e.message config.queueRetryBaseSeconds).2 t
  | failed {e : PyError} {st : WorkflowState} {t : Timestamp} : now ≤ t → e.isRetryable = false → e.isPermanent = true →
      Settlement config env d s now (.error e) st (st.endedBy .failed e.message) (s.acknowledge t d.id) t
  | raised {e : PyError} {st : WorkflowState} : e.isRetryable = false → e.isPermanent = false →
      Settlement config env d s now (.error e) st st s now

variable {rt : WorkflowRuntime} {config : Settings} {env : Env} {D : WorkflowState → Except PyError AgentDecision → Prop}
  {U : Except PyError (Nat × Nat) → Prop} {taskId : String} {cp st : WorkflowState} {m m' : Memory} {w₀ w w' : World}
  {d : QueueDelivery}

/-- A turn answers with a checkpoint of its task. -/
theorem Turn.task {o : WorkflowState} (h : Turn rt env D U m cp (.ok o) st m') : o.taskId = cp.taskId := by
  have hran : ∀ {m m' : Memory} {cp o st : WorkflowState} {tool : ToolName} {arguments : Arguments},
      Ran env m cp tool arguments (.ok o) st m' → o.taskId = cp.taskId := by
    intro m m' cp o st tool arguments h
    cases h <;> rfl
  cases h with
  | idle | unapproved => rfl
  | resumed _ _ _ hr => exact hran hr
  | acted _ _ _ _ ha =>
    cases ha with
    | ran _ _ _ _ _ _ hr => exact (hran hr).trans rfl
    | completed _ e | looped _ _ _ e | denied _ _ _ _ _ e | paused _ _ _ _ _ _ _ e => rw [e]; rfl
    | declined => rfl

/-! ## The queue's calls -/

/-- A call of the queue, which leaves checkpoints and memory alone. -/
theorem Serving.queued (h : Serving taskId w₀ cp m w) {c : StoreCall} {r : Except PyError c.Ret} {t : Timestamp} {s' s₂ : SQLiteStore}
    (hw : s'.workflows = w.store.workflows) (he : s'.events = w.store.events)
    (ha : s'.approvals = w.store.approvals) (hl : s'.toolResults = w.store.toolResults)
    (hd : (Entry.did 0 (.store c) r).claimed = none) (hs₂ : s₂.workflows = w₀.store.workflows) (hq : s'.queue = s₂.queue) :
    Serving taskId ⟨s₂, t, []⟩ cp m ⟨s', t, .did 0 (.store c) r :: w.journal⟩ := by
  refine ⟨h.filed.congr hw he, (stored_congr hw).trans h.stored, fun T hT => ?_, hq, ?_, le_rfl⟩
  · show s'.stored T = s₂.stored T
    rw [stored_congr hw, stored_congr hs₂]
    exact h.others T hT
  · rw [memory_did rfl hd, ha, hl]
    exact h.memory

theorem acknowledge_serving (h : Serving taskId w₀ cp m w) (id : Nat) :
    wp (calls env 0) (onStore (.acknowledge id)) (fun o w' => ∃ u, o = .ok u ∧ ∃ t, w₀.now ≤ t ∧
      Serving taskId ⟨w₀.store.acknowledge t id, t, []⟩ cp m w') w := by
  refine wp_perform.mpr fun r w' hs => ?_
  obtain ⟨t, s', hnow, -, he, rfl⟩ := hs
  obtain ⟨rfl, rfl⟩ := Prod.mk.inj he
  refine ⟨(), rfl, t, h.now.trans hnow, h.queued rfl rfl rfl rfl rfl rfl ?_⟩
  show (w.store.acknowledge t id).queue = (w₀.store.acknowledge t id).queue
  simp only [SQLiteStore.acknowledge, h.queue]

theorem enqueue_serving (h : Serving taskId w₀ cp m w)
    (hdone : ∀ id row, w₀.store.queue.get id = some row → row.taskId = taskId → row.status = .completed ∨ row.status = .dead)
    (n : Nat) :
    wp (calls env 0) (onStore (.enqueue taskId n)) (fun o w' => ∃ u, o = .ok u ∧ ∃ t, w₀.now ≤ t ∧
      Serving taskId ⟨w₀.store.insertQueue t taskId n, t, []⟩ cp m w') w := by
  refine wp_perform.mpr fun r w' hs => ?_
  obtain ⟨t, s', hnow, -, he, rfl⟩ := hs
  rcases SQLiteStore.enqueue_cases he with ⟨row, -, hr, ht, hst, -⟩ | ⟨-, -, rfl, rfl⟩ | ⟨hnone, -⟩
  · rw [h.queue] at hr
    rcases hdone _ row hr ht with e | e <;> rw [e] at hst <;> simp at hst
  · refine ⟨_, rfl, t, h.now.trans hnow, h.queued rfl rfl rfl rfl rfl rfl ?_⟩
    show (w.store.insertQueue t taskId n).queue = (w₀.store.insertQueue t taskId n).queue
    simp only [SQLiteStore.insertQueue, SQLiteStore.nextQueueId, h.queue]
  · obtain ⟨row, hr, -⟩ := stored_some.mp h.stored
    rw [hr] at hnone; cases hnone

theorem retryOrDeadLetter_serving (h : Serving taskId w₀ cp m w) (d : QueueDelivery) (error : String) (base : Seconds) :
    wp (calls env 0) (onStore (.retryOrDeadLetter d error base)) (fun o w' =>
      (∃ x, o = .error x ∧ backoff base (d.attempts - 1) = .error x ∧
        (∃ w r, env.allows 0 w (.store (.retryOrDeadLetter d error base)) r) ∧ Serving taskId w₀ cp m w') ∨
      ∃ delay t, o = .ok (decide (d.maxAttempts ≤ d.attempts)) ∧ backoff base (d.attempts - 1) = .ok delay ∧ w₀.now ≤ t ∧
        Serving taskId ⟨(w₀.store.retryOrDeadLetter t d error base).2, t, []⟩ cp m w') w := by
  refine wp_perform.mpr fun r w' hs => ?_
  obtain ⟨t, s', hnow, hallow, he, rfl⟩ := hs
  have he : w.store.retryOrDeadLetter t d error base = (r, s') := he
  obtain ⟨hw, ha, hl⟩ := retryOrDeadLetter_frame w.store t d error base
  have hev : (w.store.retryOrDeadLetter t d error base).2.events = w.store.events :=
    StoreCall.apply_events (c := .retryOrDeadLetter d error base) rfl _ _
  have hw₀ := (retryOrDeadLetter_frame w₀.store t d error base).1
  have hq : (w.store.retryOrDeadLetter t d error base).2.queue = (w₀.store.retryOrDeadLetter t d error base).2.queue := by
    unfold SQLiteStore.retryOrDeadLetter
    simp only
    split
    · exact h.queue
    · simp only [h.queue]
  have h' : Serving taskId ⟨(w₀.store.retryOrDeadLetter t d error base).2, t, []⟩ cp m
      ⟨s', t, .did 0 (.store (.retryOrDeadLetter d error base)) r :: w.journal⟩ := by
    rw [he] at hw ha hl hev hq
    exact h.queued hw hev ha hl rfl hw₀ hq
  cases hb : backoff base (d.attempts - 1) with
  | error x =>
    have hr : r = .error x := by
      have := congrArg Prod.fst he
      simp only [SQLiteStore.retryOrDeadLetter, hb] at this
      exact this.symm
    have hs₂ : (w₀.store.retryOrDeadLetter t d error base).2 = w₀.store := by
      simp only [SQLiteStore.retryOrDeadLetter, hb]
    rw [hs₂] at h'
    exact .inl ⟨x, hr, rfl, ⟨_, _, hallow⟩, h'.filed, h'.stored, h'.others, h'.queue, h'.memory, h.now.trans hnow⟩
  | ok delay =>
    have hr : r = .ok (decide (d.maxAttempts ≤ d.attempts)) := by
      have := congrArg Prod.fst he
      simp only [SQLiteStore.retryOrDeadLetter, hb] at this
      exact this.symm
    exact .inr ⟨delay, t, hr, rfl, h.now.trans hnow, h'⟩

/-! ## The worker -/

theorem getWorkflow_serving (h : Serving taskId w₀ cp m w) :
    wp (calls env 0) (onStore (.getWorkflow taskId)) (fun o w' => ∃ found, o = .ok found ∧ found = some cp ∧
      Serving taskId w₀ cp m w') w := by
  refine wp_perform.mpr fun r w' hs => ?_
  have h' := h.steady rfl hs
  obtain ⟨_, s', -, -, he, rfl⟩ := hs
  obtain ⟨rfl, rfl⟩ := Prod.mk.inj he
  exact ⟨_, rfl, h.stored, h'⟩

/-- The end of a workflow whose delivery failed. -/
theorem endedBy_serving (h : Serving taskId w₀ cp m w) (hterm : ¬ cp.terminal = true) (status : WorkflowStatus) (error : String)
    (e : EventType) (payload : Json) :
    wp (calls env 0) ((save { cp with status, lastError := some error }).bind fun state => record state.taskId e payload)
      (fun _ w' => ∃ st, st.content = cp.content.endedBy status error ∧ Serving taskId w₀ st m w') w := by
  refine wp_seq (save_serving h (by exact h.task) rfl) fun st w₁ hq => ?_
  obtain ⟨⟨t, e'⟩, h₁⟩ := hq
  refine wp_mono (record_serving h₁ _ _ _) fun _ w₂ ⟨_, _, h₂⟩ => ⟨st, ?_, h₂⟩
  have hterm : ¬ cp.content.terminal = true := hterm
  rw [e', WorkflowState.endedBy, if_neg hterm]
  rfl

theorem endedBy_terminal (hterm : cp.terminal = true) (status : WorkflowStatus) (error : String) :
    cp.content.endedBy status error = cp.content := by
  have hterm : cp.content.terminal = true := hterm
  rw [WorkflowState.endedBy, if_pos hterm]

/-- What a delivery leaves, once it has been claimed. -/
def Delivered (rt : WorkflowRuntime) (config : Settings) (env : Env) (D : WorkflowState → Except PyError AgentDecision → Prop)
    (U : Except PyError (Nat × Nat) → Prop) (d : QueueDelivery) (w₀ : World) (cp : WorkflowState) (m : Memory) (w' : World) : Prop :=
  ∃ o st m' cp' s t, Turn rt env D U m cp.content o st m' ∧ Settlement config env d w₀.store w₀.now o st cp'.content s t ∧
    Serving d.taskId ⟨s, t, []⟩ cp' m' w'

theorem onRetryable_delivered {e : PyError} (he : e.isRetryable = true) {o : Except PyError WorkflowState} (ho : o = .error e)
    (hturn : Turn rt env D U m cp.content o st.content m') (h : Serving d.taskId w₀ st m' w) :
    wp (calls env 0) (onRetryable config d e) (fun _ w' => Delivered rt config env D U d w₀ cp m w') w := by
  subst ho
  refine wp_bind.mpr (wp_mono (retryOrDeadLetter_serving h d e.message config.queueRetryBaseSeconds) fun o w₁ hq => ?_)
  rcases hq with ⟨x, rfl, hx, hallow, h₁⟩ | ⟨delay, t, rfl, hdelay, ht, h₁⟩
  · refine ⟨_, _, m', st, _, _, hturn, .overflowed he hx hallow, ?_⟩
    exact ⟨h₁.filed, h₁.stored, h₁.others, h₁.queue, h₁.memory, h₁.now⟩
  · show wp _ (if decide _ = true then _ else _) _ w₁
    split
    · rename_i hdead
      refine wp_seq (getWorkflow_serving h₁) fun found w₂ hq => ?_
      obtain ⟨hfound, h₂⟩ := hq
      subst hfound
      show wp _ (if _ then _ else _) _ w₂
      split
      · rename_i hterm
        refine ⟨_, _, m', st, _, _, hturn, ?_, h₂⟩
        have := @Settlement.buried config env d w₀.store w₀.now e st.content t delay ht he hdelay (of_decide_eq_true hdead)
        rwa [endedBy_terminal hterm] at this
      · rename_i hterm
        refine wp_mono (endedBy_serving h₂ hterm _ _ _ _) fun _ w₃ hq => ?_
        obtain ⟨st', hst', h₃⟩ := hq
        refine ⟨_, _, m', st', _, _, hturn, ?_, h₃⟩
        rw [hst']
        exact .buried ht he hdelay (of_decide_eq_true hdead)
    · rename_i hlive
      refine ⟨_, _, m', st, _, _, hturn, .returned ht he hdelay ?_, h₁⟩
      simpa using hlive

theorem onPermanent_delivered {e : PyError} (he : e.isRetryable = false) (hp : e.isPermanent = true)
    {o : Except PyError WorkflowState} (ho : o = .error e) (hturn : Turn rt env D U m cp.content o st.content m')
    (h : Serving d.taskId w₀ st m' w) :
    wp (calls env 0) (onPermanent d e) (fun _ w' => Delivered rt config env D U d w₀ cp m w') w := by
  subst ho
  refine wp_seq (acknowledge_serving h d.id) fun _ w₁ hq => ?_
  obtain ⟨t, ht, h₁⟩ := hq
  refine wp_seq (getWorkflow_serving h₁) fun found w₂ hq => ?_
  obtain ⟨hfound, h₂⟩ := hq
  subst hfound
  show wp _ (if _ then _ else _) _ w₂
  split
  · rename_i hterm
    refine ⟨_, _, m', st, _, _, hturn, ?_, h₂⟩
    have := @Settlement.failed config env d w₀.store w₀.now e st.content t ht he hp
    rwa [endedBy_terminal hterm] at this
  · rename_i hterm
    refine wp_mono (endedBy_serving h₂ hterm _ _ _ _) fun _ w₃ hq => ?_
    obtain ⟨st', hst', h₃⟩ := hq
    refine ⟨_, _, m', st', _, _, hturn, ?_, h₃⟩
    rw [hst']
    exact .failed ht he hp

/-- The task's other deliveries are done with. -/
def Alone (d : QueueDelivery) (s : SQLiteStore) : Prop :=
  ∀ id row, s.queue.get id = some row → row.taskId = d.taskId → id ≠ d.id → row.status = .completed ∨ row.status = .dead

theorem Alone.acknowledged {s : SQLiteStore} (h : Alone d s) (t : Timestamp) {id : Nat} {row : QueueRow}
    (hr : (s.acknowledge t d.id).queue.get id = some row) (ht : row.taskId = d.taskId) :
    row.status = .completed ∨ row.status = .dead := by
  rw [SQLiteStore.acknowledge_get] at hr
  obtain ⟨x, hx, rfl⟩ := Option.map_eq_some_iff.mp hr
  by_cases e : id = d.id
  · rw [if_pos e]; exact .inl rfl
  · rw [if_neg e] at ht ⊢
    exact h id x hx ht e

theorem handleDelivery_delivered (hans : EngineSpec env rt.engine D U) (hb : rt.backend = anyBackend) (hf : Filed w.store)
    (hst : w.store.stored d.taskId = some cp) (halone : Alone d w.store) :
    wp (calls env 0) (handleDelivery rt config d) (fun _ w' => Delivered rt config env D U d w cp w.memory w') w := by
  refine wp_bind.mpr (wp_attempt.mpr (wp_bind.mpr (wp_mono (process_turn hans hb hf hst) fun o w₁ hq => ?_)))
  obtain ⟨st, m', hturn, h₁⟩ := hq
  cases o with
  | error e =>
    show wp _ (if _ then _ else _) _ w₁
    split
    · rename_i hretry
      exact onRetryable_delivered hretry rfl hturn h₁
    · rename_i hretry
      have hretry : e.isRetryable = false := by simpa using hretry
      split
      · rename_i hperm
        exact onPermanent_delivered hretry hperm rfl hturn h₁
      · rename_i hperm
        refine ⟨_, _, m', st, _, _, hturn, .raised hretry (by simpa using hperm), ?_⟩
        exact ⟨h₁.filed, h₁.stored, h₁.others, h₁.queue, h₁.memory, h₁.now⟩
  | ok o =>
    have htask : o.taskId = d.taskId := by
      have ht : o.content.taskId = cp.content.taskId := Turn.task hturn
      obtain ⟨-, -, -, hcp⟩ := hf.version hst
      exact ht.trans hcp
    refine wp_seq (acknowledge_serving h₁ d.id) fun _ w₂ hq => ?_
    obtain ⟨t, ht, h₂⟩ := hq
    split
    · rename_i hqueued
      rw [htask]
      refine wp_seq (enqueue_serving h₂ (fun id row hr hrt => halone.acknowledged t hr hrt) config.maxQueueAttempts)
        fun _ w₃ hq => ?_
      obtain ⟨t', ht', h₃⟩ := hq
      exact ⟨_, _, m', st, _, _, hturn, .requeued ht ht' hqueued, h₃⟩
    · rename_i hne
      exact ⟨_, _, m', st, _, _, hturn, .acknowledged ht hne, h₂⟩

/-- What a worker's run leaves: nothing claimed, or a delivery that took a turn and was settled. -/
def Served (rt : WorkflowRuntime) (config : Settings) (env : Env) (D : WorkflowState → Except PyError AgentDecision → Prop)
    (U : Except PyError (Nat × Nat) → Prop) (workerId : String) (w w' : World) : Prop :=
  ∃ t, w.now ≤ t ∧ (∃ r, env.allows 0 { w with now := t } (.store (.claim workerId config.queueLeaseSeconds)) r) ∧
    ((∃ s, w.store.claim t workerId config.queueLeaseSeconds = (none, s) ∧ w'.store.queue = s.queue ∧ Filed w'.store ∧
        (∀ T, w'.store.stored T = w.store.stored T) ∧ w'.memory = w.memory ∧ t ≤ w'.now) ∨
      ∃ d s cp, w.store.claim t workerId config.queueLeaseSeconds = (some d, s) ∧ w.store.stored d.taskId = some cp ∧
        Delivered rt config env D U d ⟨s, t, []⟩ cp (w.memory.takes d) w')

theorem claim_stored {s s' : SQLiteStore} {t : Timestamp} {workerId : String} {n : Int} {r : Option QueueDelivery}
    (h : s.claim t workerId n = (r, s')) (T : String) : s'.stored T = s.stored T := by
  have := (claim_frame s t workerId n).1
  rw [h] at this
  exact stored_congr this

theorem Delivered.idle (h : Delivered rt config env D U d w₀ cp m w) (hi : Idle w w') :
    Delivered rt config env D U d w₀ cp m w' := by
  obtain ⟨o, st, m', cp', s, t, hturn, hs, hserving⟩ := h
  exact ⟨o, st, m', cp', s, t, hturn, hs, hserving.idle hi⟩

theorem Delivered.filed (h : Delivered rt config env D U d w₀ cp m w) : Filed w.store := by
  obtain ⟨_, _, _, _, _, _, -, -, hserving⟩ := h
  exact hserving.filed

theorem runOnce_served (hans : EngineSpec env rt.engine D U) (hb : rt.backend = anyBackend) (hf : Filed w.store)
    {workerId : String} (hclaim : ∀ t d s, w.now ≤ t → w.store.claim t workerId config.queueLeaseSeconds = (some d, s) →
      (∃ cp, w.store.stored d.taskId = some cp) ∧ Alone d s) :
    wp (calls env 0) (runOnce rt config workerId) (fun _ w' => Served rt config env D U workerId w w') w := by
  refine wp_bind.mpr (wp_perform.mpr fun r w₁ hs => ?_)
  obtain ⟨t, s, ht, hallow, he, rfl⟩ := hs
  obtain ⟨hr, hs⟩ := Prod.mk.inj he
  have hres : w.store.claim t workerId config.queueLeaseSeconds = ((w.store.claim t workerId config.queueLeaseSeconds).1, s) :=
    Prod.ext rfl hs
  have hstored := claim_stored hres
  have hfiled : Filed s := by
    obtain rfl := hs
    exact hf.congr (claim_frame ..).1 (StoreCall.apply_events (c := .claim workerId config.queueLeaseSeconds) rfl _ _)
  obtain ⟨ha, hl⟩ : s.approvals = w.store.approvals ∧ s.toolResults = w.store.toolResults := by
    obtain rfl := hs; exact (claim_frame ..).2
  generalize hclaimed : (w.store.claim t workerId config.queueLeaseSeconds).1 = claimed at hr hres
  subst hr
  have hdepth : ∀ b : Bool, (updateDepth.bind fun _ => (.ret b : Py Bool)).Makes fun c => c.idle = true :=
    fun _ => makes_bind (makes_bind (makes_perform rfl) fun _ => trivial) fun _ => trivial
  cases claimed with
  | none =>
    refine wp_mono (wp_idle (hdepth false) hfiled) fun o w₂ hi => ⟨t, ht, ⟨_, hallow⟩, .inl ⟨s, hres, hi.queue, hi.filed, fun T => ?_, ?_, hi.now⟩⟩
    · exact (hi.stored T).trans (hstored T)
    · rw [hi.memory]
      unfold World.memory
      simp only [ha, hl]
      rfl
  | some d =>
    obtain ⟨⟨cp, hcp⟩, halone⟩ := hclaim t d s ht hres
    have hmem : (World.mk s t (.did 0 (.store (.claim workerId config.queueLeaseSeconds)) (.ok (some d)) :: w.journal)).memory =
        w.memory.takes d := by
      unfold World.memory Memory.takes
      simp only [ha, hl]
      rfl
    have hw : (World.mk s t (.did 0 (.store (.claim workerId config.queueLeaseSeconds)) (.ok (some d)) :: w.journal)).store.stored
        d.taskId = some cp := (hstored _).trans hcp
    refine wp_bind.mpr (wp_attempt.mpr (wp_mono (handleDelivery_delivered (d := d) hans hb hfiled hw halone) fun o w₂ h₂ => ?_))
    rw [hmem] at h₂
    have hdone : ∀ w', Idle w₂ w' → Served rt config env D U workerId w w' := fun w' hi =>
      ⟨t, ht, ⟨_, hallow⟩, .inr ⟨d, s, cp, hres, hcp, h₂.idle hi⟩⟩
    refine wp_mono (wp_idle (makes_bind (makes_perform rfl) fun _ => ?_) h₂.filed) fun _ w₃ hi => hdone w₃ hi
    cases o with
    | error e => trivial
    | ok u => exact hdepth true

end AgentResilience
