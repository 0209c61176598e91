/-
  AgentResilience.Isolation — tasks share the queue and one store, and nothing else. A thread
  works for one task: the one its operation names, or the one whose delivery it claimed.

  - `Watch`, `watch`: the task and the delivery of a thread, read off its journal.
  - `operation_kept`: every operation makes calls about the task it works for only.
  - `step_isolated`: a step changes what the store holds of a task only if its thread works
    for that task. A claim works for none: it changes leases.
  - `isolated`: a stretch of a run in which nobody steps for a task, for any length and any
    number of the others' workers, approvals, replays and crashes.
-/
import Mathlib.Data.List.Infix
import AgentResilience.OtherTasks
import AgentResilience.Growth
import AgentResilience.SideEffects

namespace AgentResilience

open Interaction
open Interaction.Prog (attempt ofExcept throw)

variable {rt : WorkflowRuntime} {config : Settings} {env : Env} {w w' : World} {taskId T : String} {d : QueueDelivery} {α : Type}

/-! ## What a thread works for -/

/-- The task a thread works for, and the delivery it claimed. -/
structure Watch where
  task : Option String
  delivery : Option QueueDelivery

def Watch.after (q : Watch) : (c : Call) → Except PyError c.Ret → Watch
  | .store (.claim ..), .ok (some d) => ⟨some d.taskId, some d⟩
  | .store (.claim ..), .ok none => ⟨q.task, none⟩
  | _, _ => q

def watch (i : ThreadId) (journal : List Entry) : Watch := ⟨concerning i journal, delivering i journal⟩

/-- A call is a claim, or about the task the thread works for; about every task, if it works for none. -/
def Watch.may (q : Watch) (c : Call) : Prop :=
  (∃ worker leaseSeconds, c = .store (.claim worker leaseSeconds)) ∨ ∀ T, (∀ T', q.task = some T' → T' = T) → c.about T q.delivery

def watching : Script Call Call.Ret PyError Watch :=
  ⟨Watch.after, Watch.may, Call.names⟩

theorem Watch.after_about {q : Watch} {c : Call} {o : Option QueueDelivery} (hc : c.about T o) (r : Except PyError c.Ret) : q.after c r = q := by
  cases c with
  | store c => cases c <;> first | rfl | exact hc.elim
  | _ => rfl

theorem watch_did (i : ThreadId) (c : Call) (r : Except PyError c.Ret) (es : List Entry) :
    watch i (.did i c r :: es) = (watch i es).after c r := by
  have hkeep : c.claimed r = none → c.keepsDelivery = true → watch i (.did i c r :: es) = watch i es := by
    intro hc hk
    unfold watch
    rw [concerning_did hc, delivering_did hk]
  cases c with
  | store c =>
    cases c with
    | claim =>
      unfold watch
      rw [concerning_cons, delivering_cons]
      match r with
      | .ok (some d) => simp [Entry.concerns, Entry.delivers, Watch.after]
      | .ok none | .error _ => simp [Entry.concerns, Entry.delivers, Watch.after]
    | _ => exact hkeep rfl rfl
  | _ => exact hkeep rfl rfl

theorem watch_call {i : ThreadId} {c : Call} {r : Except PyError c.Ret} (h : calls env i c w r w') :
    watch i w'.journal = (watch i w.journal).after c r ∧ ∀ j, j ≠ i → watch j w'.journal = watch j w.journal := by
  obtain ⟨t, s', -, -, -, rfl⟩ := h
  refine ⟨watch_did i c r _, fun j hj => ?_⟩
  unfold watch
  rw [concerning_other (Ne.symm hj), delivering_did_other (Ne.symm hj)]

/-- The delivery is of the task. -/
def Watch.Fits (q : Watch) : Prop := ∀ d, q.delivery = some d → q.task = some d.taskId

theorem Watch.after_fits {q : Watch} (h : q.Fits) (c : Call) (r : Except PyError c.Ret) : (q.after c r).Fits := by
  unfold Watch.after
  split
  · intro d hd
    cases hd
    rfl
  · exact nofun
  · exact h

/-- A worker works for the task of the delivery it claimed. -/
theorem watch_fits (i : ThreadId) (es : List Entry) : (watch i es).Fits := by
  induction es with
  | nil => exact nofun
  | cons e es ih =>
    cases e with
    | began j op =>
      by_cases hj : j = i
      · intro d hd
        subst hj
        cases (delivering_began j op es).symm.trans hd
      · unfold watch
        rw [delivering_began_other hj, concerning_cons]
        simp only [Entry.concerns, hj, if_false, Option.getD_none]
        exact ih
    | did j c r =>
      by_cases hj : j = i
      · subst hj
        rw [watch_did]
        exact Watch.after_fits ih c r
      · unfold watch
        rw [delivering_did_other hj, concerning_other hj]
        exact ih
    | ended | died => exact ih

/-! ## Programs that keep to their task -/

/-- A program about the task is about the task its thread works for. -/
theorem watched {p : Py α} {o : Option QueueDelivery} {Q : Except PyError α → Unit → Prop} (h : Follows (about T o) p Q ()) :
    Follows watching p (fun x q => Q x () ∧ q = ⟨some T, o⟩) ⟨some T, o⟩ := by
  induction p with
  | ret a => exact ⟨h, rfl⟩
  | raise e => exact ⟨h, rfl⟩
  | call c k ih =>
    obtain ⟨hc, hk⟩ := h
    refine ⟨.inr fun T' hT' => ?_, fun r hr => ?_⟩
    · rw [← hT' T rfl]
      exact hc
    · have hstay : watching.next ⟨some T, o⟩ c r = ⟨some T, o⟩ := Watch.after_about hc r
      rw [hstay]
      exact ih r (hk r hr)

theorem reject_about (T actor : String) (reason : Option String) : About T none (reject T actor reason) (fun _ => True) := by
  have hrequired : About T none (required T) (fun st => st.taskId = T) := by
    refine (getWorkflow_about T).bind fun found hfound => ?_
    cases found with
    | none => exact .raise
    | some st => exact .ret (hfound st rfl)
  refine hrequired.bind fun st h => ?_
  split
  · exact .seq rfl fun _ => (save_about (by exact h)).bind fun _ _ => .seq rfl fun _ => .done
  · exact .raise

theorem replay_about (id : Nat) (T actor reason : String) : About T none (replay config id T actor reason) (fun _ => True) := by
  refine .seq rfl fun found => ?_
  cases found with
  | none => exact .raise
  | some st => exact .done

theorem heartbeatTick_about (worker : String) (d : QueueDelivery) :
    About d.taskId none (heartbeatTick config worker d) (fun _ => True) :=
  .seq trivial fun _ => .call rfl

theorem updateDepth_watched (q : Watch) : Follows watching updateDepth (fun _ _ => True) q :=
  .bind (R := fun _ _ => True) (.perform (.inr fun _ _ => trivial) fun _ _ => trivial) (fun _ _ _ => trivial) fun _ _ _ => trivial

theorem runOnce_watched (he : rt.engine = anyEngine) (hb : rt.backend = anyBackend) (worker : String) :
    Follows watching (runOnce rt config worker) (fun _ _ => True) ⟨none, none⟩ := by
  unfold runOnce
  refine .bind (R := fun x q => ∀ d, x = .ok (some d) → q = ⟨some d.taskId, some d⟩) (.perform (.inl ⟨_, _, rfl⟩) fun r _ => ?_)
    (fun found q hq => ?_) fun _ _ _ => trivial
  · intro d hd
    subst hd
    rfl
  · cases found with
    | none => exact (updateDepth_watched q).bind (fun _ _ _ => trivial) fun _ _ _ => trivial
    | some d =>
      cases hq d rfl
      refine (watched (handleDelivery_about he hb d)).attempt fun o q hq => ?_
      refine .bind (R := fun _ _ => True) (.perform (.inr fun _ _ => trivial) fun _ _ => trivial) (fun _ q _ => ?_) fun _ _ _ => trivial
      cases o with
      | error e => exact trivial
      | ok u => exact (updateDepth_watched q).bind (fun _ _ _ => trivial) fun _ _ _ => trivial

/-- Every operation makes calls about the task it works for. -/
theorem operation_kept (he : rt.engine = anyEngine) (hb : rt.backend = anyBackend) (op : Operation) :
    Follows watching (op.program rt config) (fun _ _ => True) ⟨op.taskId, none⟩ := by
  have hreply : ∀ {α : Type} {T : String} {p : Py α} {R : α → Prop} {f : α → Reply}, About T none p R →
      Follows watching (p.bind fun a => .ret (f a)) (fun _ _ => True) ⟨some T, none⟩ :=
    fun h => (watched h).bind (fun _ _ _ => trivial) fun _ _ _ => trivial
  cases op with
  | runOnce worker => exact (runOnce_watched he hb worker).bind (fun _ _ _ => trivial) fun _ _ _ => trivial
  | heartbeatTick worker d => exact hreply (f := fun _ => .done) (heartbeatTick_about worker d)
  | createIncident T goal scenarioId => exact hreply (f := .state) (createIncident_about T goal scenarioId)
  | approve T actor reason => exact hreply (f := .state) (approve_about T actor reason)
  | reject T actor reason => exact hreply (f := .state) (reject_about T actor reason)
  | replay id T actor reason => exact hreply (f := .state) (replay_about id T actor reason)

theorem reachable_watched {cfg : Cfg} (h : Reachable { rt with engine := anyEngine, backend := anyBackend } config env cfg) {i : ThreadId}
    {p : Py Reply} (hp : cfg.pool i = some p) : Follows watching p (fun _ _ => True) (watch i cfg.state.journal) := by
  refine reach_follows (fun i (w : World) => watch i w.journal) ?_ ?_ ?_ ?_ h hp
  · intro i p w w' he
    obtain ⟨op, rfl, -, rfl⟩ := he
    refine ⟨?_, fun j hj => ?_⟩
    · have hstart : watch i (.began i op :: w.journal) = ⟨op.taskId, none⟩ := by
        simp [watch, concerning_cons, Entry.concerns]
      rw [show watch i _ = _ from hstart]
      exact operation_kept (by rfl) (by rfl) op
    · simp [watch, concerning_cons, Entry.concerns, delivering_began_other (Ne.symm hj), Ne.symm hj]
  · intro cfg i c r w' hr hs
    have hl := (reachable_storeOk lawful_univ hr).labelled
    exact ⟨answers_about hs hl, watch_call hs⟩
  · intro i o w w' hl j hj
    obtain rfl := hl
    rfl
  · intro i w w' hx j hj
    obtain ⟨-, rfl⟩ := hx
    rfl

/-! ## Steps -/

theorem run_journal {cfg cfg' : Cfg} (h : Run rt config env cfg cfg') : cfg.state.journal.length ≤ cfg'.state.journal.length := by
  induction h with
  | refl => exact Nat.le_refl _
  | tail _ hs ih =>
    obtain ⟨e, he⟩ := step_journal hs
    rw [he, List.length_cons]
    omega

/-- The delivery a thread claimed is of the task it claimed it for. -/
theorem reachable_delivering {cfg : Cfg} (h : Reachable rt config env cfg) {i : ThreadId} (hd : delivering i cfg.state.journal = some d) :
    ∃ row, cfg.state.store.queue.get d.id = some row ∧ row.taskId = d.taskId := by
  refine reachable_world (P := fun w => ∀ i d, delivering i w.journal = some d → ∃ row, w.store.queue.get d.id = some row ∧
    row.taskId = d.taskId) ?_ ?_ ?_ h i d hd
  · exact nofun
  · intro w e hw hcall i d hd
    cases e with
    | began j op =>
      by_cases e : j = i
      · subst e
        simp at hd
      · rw [delivering_began_other e] at hd
        exact hw i d hd
    | did => cases hcall
    | ended | died => exact hw i d hd
  · intro cfg j c k r w' _ hw _ hs i d hd
    obtain ⟨t, s', -, -, he, rfl⟩ := hs
    have hkept : delivering i cfg.state.journal = some d → ∃ row, s'.queue.get d.id = some row ∧ row.taskId = d.taskId := by
      intro hd
      obtain ⟨row, hr, ht⟩ := hw i d hd
      obtain ⟨row', hr', ht'⟩ := effect_row_kept he hr
      exact ⟨row', hr', ht'.trans ht⟩
    by_cases e : j = i
    · subst e
      cases hc : c.keepsDelivery with
      | true =>
        rw [delivering_did hc] at hd
        exact hkept hd
      | false =>
        cases c with
        | store c =>
          cases c with
          | claim worker leaseSeconds =>
            rcases hclaim : cfg.state.store.claim t worker leaseSeconds with ⟨found, s''⟩
            have he' : (Except.ok (cfg.state.store.claim t worker leaseSeconds).1, (cfg.state.store.claim t worker leaseSeconds).2) = (r, s') := he
            rw [hclaim] at he'
            cases he'
            have hfound : found = some d := by simpa [delivering_cons, Entry.delivers] using hd
            subst hfound
            rcases SQLiteStore.claim_cases hclaim with ⟨hnone, -⟩ | ⟨x, -, -, -, hx, hget, -⟩
            · cases hnone
            · cases hx
              exact ⟨_, (hget _).trans (if_pos rfl), rfl⟩
          | _ => cases hc
        | _ => cases hc
    · rw [delivering_did_other e] at hd
      exact hkept hd

theorem swept_open (now : Timestamp) (row : QueueRow) : SQLiteStore.swept now row = row ∨ row.unsettled ∧ (SQLiteStore.swept now row).unsettled := by
  unfold SQLiteStore.swept
  split
  · rename_i h
    simp only [SQLiteStore.isExpired, Bool.and_eq_true, decide_eq_true_eq] at h
    exact .inr ⟨.inr h.1, .inl rfl⟩
  · exact .inl rfl

theorem sweep_alike (taskId : String) (s : SQLiteStore) (now : Timestamp) : RowsAlike taskId s (s.sweep now) := by
  refine .mapped (g := fun _ row => SQLiteStore.swept now row) (SQLiteStore.sweep_get) (fun _ row => ?_) fun _ row _ _ => swept_open now row
  unfold SQLiteStore.swept
  split <;> rfl

/-- A claim works for no task: it changes leases. -/
theorem claim_alike (taskId : String) (s : SQLiteStore) (t : Timestamp) (worker : String) (leaseSeconds : Int) :
    Alike taskId s ((StoreCall.claim worker leaseSeconds).apply s t).2 := by
  refine ⟨?_, stored_congr (StoreCall.apply_workflows rfl s t), fun _ _ => by rw [StoreCall.apply_ledger rfl],
    fun _ => by rw [StoreCall.apply_approvals rfl], eventsOf_congr (StoreCall.apply_events rfl s t) taskId⟩
  rcases he : s.claim t worker leaseSeconds with ⟨found, s'⟩
  show RowsAlike taskId s (s.claim t worker leaseSeconds).2
  rw [he]
  rcases SQLiteStore.claim_cases he with ⟨-, rfl⟩ | ⟨row, hrow, hpending, -, -, hget, -⟩
  · exact sweep_alike taskId s t
  · refine (sweep_alike taskId s t).trans ⟨fun id x hx ht => ?_, fun id x hx ht => ?_⟩
    · by_cases e : id = row.id
      · subst e
        rw [hrow] at hx
        cases hx
        exact ⟨_, (hget _).trans (if_pos rfl), ht, .inr ⟨.inl hpending, .inr rfl⟩⟩
      · exact ⟨x, (hget id).trans ((if_neg e).trans hx), ht, .inl rfl⟩
    · rw [hget] at hx
      split at hx
      · rename_i e
        subst e
        cases hx
        exact ⟨row, hrow, ht⟩
      · exact ⟨x, hx, ht⟩

/-- A step changes what the store holds of a task only if it is a call of a thread that works for the task. -/
theorem step_isolated {cfg cfg' : Cfg} (h : Reachable { rt with engine := anyEngine, backend := anyBackend } config env cfg)
    (hs : Step (system { rt with engine := anyEngine, backend := anyBackend } config env) cfg cfg') (taskId : String) :
    Alike taskId cfg.state.store cfg'.state.store ∨ ∃ e, cfg'.state.journal = e :: cfg.state.journal ∧ e.isCall = true ∧
      concerning e.thread cfg.state.journal = some taskId := by
  cases hs with
  | enter _ he => obtain ⟨op, -, -, rfl⟩ := he; exact .inl (.refl _ _)
  | leave _ _ hl => obtain rfl := hl; exact .inl (.refl _ _)
  | crash _ hx => obtain ⟨-, rfl⟩ := hx; exact .inl (.refl _ _)
  | @call i c k r w' hp hx =>
    have hmay := (reachable_watched h hp).1
    have hl := (reachable_storeOk lawful_univ h).labelled
    obtain ⟨t, s', -, -, he, rfl⟩ := hx
    by_cases hown : concerning i cfg.state.journal = some taskId
    · exact .inr ⟨_, rfl, rfl, hown⟩
    left
    have hkeep : s' = cfg.state.store → Alike taskId cfg.state.store s' := fun e => e ▸ .refl taskId _
    rcases hmay with ⟨worker, leaseSeconds, rfl⟩ | hmay
    · obtain rfl := congrArg Prod.snd he
      exact claim_alike taskId _ t worker leaseSeconds
    · -- a task that is not this one, and is the thread's if it has one
      obtain ⟨T, hne, hT⟩ : ∃ T, taskId ≠ T ∧ ∀ T', concerning i cfg.state.journal = some T' → T' = T := by
        cases hc : concerning i cfg.state.journal with
        | none => exact ⟨taskId ++ "x", fun e => by simpa using congrArg String.length e, fun _ e => by cases e⟩
        | some T => exact ⟨T, fun e => hown (by rw [hc, e]), fun _ e => (Option.some.inj e).symm⟩
      have habout : c.about T (delivering i cfg.state.journal) := hmay T hT
      cases c with
      | store c =>
        obtain rfl := congrArg Prod.snd he
        refine apply_about hne hl habout fun d hd => ?_
        rw [← hT _ (watch_fits i cfg.state.journal d hd)]
        exact reachable_delivering h hd
      | clock | awaitHeartbeat => exact hkeep he.2
      | _ => exact hkeep he

/-- No call between the two journals is of a thread that works for the task. -/
def Unattended (taskId : String) (earlier later : List Entry) : Prop :=
  ∀ e rest, e :: rest <:+ later → earlier.length ≤ rest.length → e.isCall = true → concerning e.thread rest ≠ some taskId

/-- What the store holds of a task stays as it is, but for the leases of its deliveries, as long as
    nobody who works for it makes a call: whatever the others' workers, approvals, replays and deaths do. -/
theorem isolated (rt : WorkflowRuntime) (config : Settings) {env : Env} {cfg cfg' : Cfg}
    (h : Reachable { rt with engine := anyEngine, backend := anyBackend } config env cfg)
    (hr : Run { rt with engine := anyEngine, backend := anyBackend } config env cfg cfg') {taskId : String}
    (hu : Unattended taskId cfg.state.journal cfg'.state.journal) : Alike taskId cfg.state.store cfg'.state.store := by
  induction hr with
  | refl => exact .refl _ _
  | @tail cfg₁ cfg₂ hr hs ih =>
    obtain ⟨e, he⟩ := step_journal hs
    have hbefore := ih fun x rest hrest => hu x rest (he ▸ hrest.trans (List.suffix_cons e _))
    refine hbefore.trans ?_
    rcases step_isolated (h.run hr) hs taskId with hsame | ⟨e', he', hcall, hown⟩
    · exact hsame
    · rw [he] at he'
      cases he'
      exact absurd hown (hu e _ (he ▸ List.suffix_rfl) (run_journal hr) hcall)

def createsSecond : List (Move ThreadId Operation Answer) :=
  createsIncident ++ begins 2 (.createIncident "u" "restore checkout" "checkout-pool-exhaustion") 2 ++ [.leave 2]

def completesFirst : List (Move ThreadId Operation Answer) :=
  begins 1 (.runOnce "w") 4 ++ decides 1 completeDecision ++ continues 1 6 ++ [.leave 1]

def unattended (taskId : String) (earlier later : List Entry) : Bool :=
  later.tails.all fun
    | e :: rest => decide (rest.length < earlier.length) || !e.isCall || decide (concerning e.thread rest ≠ some taskId)
    | [] => true

theorem unattended_of {earlier later : List Entry} (h : unattended taskId earlier later = true) : Unattended taskId earlier later := by
  intro e rest hrest hlen hcall
  have hall := List.all_eq_true.mp h _ ((List.mem_tails _ _).mpr hrest)
  simp only [Bool.or_eq_true, decide_eq_true_eq, hcall, Bool.not_true, Bool.false_eq_true, or_false] at hall
  exact hall.resolve_left (by omega)

theorem completesFirst_plays : ((freePlayer {} {}).play ⟨World.init, fun _ => none⟩ createsSecond).any
    (fun cfg => ((freePlayer {} {}).play cfg completesFirst).any fun cfg' =>
      unattended "u" cfg.state.journal cfg'.state.journal && decide (cfg'.state.store.statusOf "t" = some .completed)) = true := by
  decide +kernel

/-- A worker completes one task, and the other is as before. -/
theorem isolated_second : ∃ cfg cfg', Reachable {} {} .free cfg ∧ Run {} {} .free cfg cfg' ∧ cfg'.state.store.statusOf "t" = some .completed ∧
    Alike "u" cfg.state.store cfg'.state.store := by
  obtain ⟨cfg, h, hc⟩ := (freePlayer {} {}).play_exists completesFirst_plays
  obtain ⟨cfg', hrun, hc'⟩ := (freePlayer {} {}).play_continues hc
  rw [Bool.and_eq_true, decide_eq_true_eq] at hc'
  exact ⟨cfg, cfg', h, hrun, hc'.2, isolated {} {} h hrun (unattended_of hc'.1)⟩

end AgentResilience
