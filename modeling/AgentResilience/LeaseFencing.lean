/-
  AgentResilience.LeaseFencing — the queue's operations under lapsed leases.
  `acknowledge`, `extendLease` and `retryOrDeadLetter` find their row by its id; nothing
  compares the worker, or the attempt, a row was claimed with. A run is a list of timed
  operations of any workers; an operation is stale when its row has been claimed by
  another worker or acknowledged since its own claim.

  `stale_workers_fenced`: a run's stale operations leave their rows unchanged if each is an
  extension of a lease nobody holds, or a retry that raises, and where time moves on between
  the operations only then. In the whole system a workflow is then marked `DEAD_LETTERED` only
  beside the dead row of a delivery that nobody claimed anew. `stale_retry_resurrects`: a stale
  retry puts an acknowledged delivery back.
-/
import AgentResilience.DeadLetters

namespace AgentResilience

open Interaction

/-- A worker's operation; all but a claim are for a delivery it claimed. -/
inductive QueueOp where
  | claim (worker : String) (leaseSeconds : Int)
  | extendLease (worker : String) (delivery : QueueDelivery) (leaseSeconds : Int)
  | acknowledge (worker : String) (delivery : QueueDelivery)
  | retryOrDeadLetter (worker : String) (delivery : QueueDelivery) (error : String) (baseDelaySeconds : Seconds)

/-- What the rows went through. -/
inductive Logged where
  | claimed (worker : String) (delivery : QueueDelivery)
  | acknowledged (deliveryId : Nat)

structure QueueWorld where
  store : SQLiteStore
  now : Timestamp
  log : List Logged

namespace QueueOp

def call : QueueOp → StoreCall
  | claim worker leaseSeconds => .claim worker leaseSeconds
  | extendLease _ delivery leaseSeconds => .extendLease delivery leaseSeconds
  | acknowledge _ delivery => .acknowledge delivery.id
  | retryOrDeadLetter _ delivery error base => .retryOrDeadLetter delivery error base

/-- The worker of an operation and the delivery it is for. -/
def holder : QueueOp → Option (String × QueueDelivery)
  | claim .. => none
  | extendLease worker delivery _ | acknowledge worker delivery | retryOrDeadLetter worker delivery .. =>
    some (worker, delivery)

def logs (op : QueueOp) (s : SQLiteStore) (t : Timestamp) : List Logged :=
  match op with
  | claim worker leaseSeconds => ((s.claim t worker leaseSeconds).1.map (Logged.claimed worker)).toList
  | acknowledge _ delivery => [.acknowledged delivery.id]
  | _ => []

/-- The operation at time `t`. -/
def step (op : QueueOp) (q : QueueWorld) (t : Timestamp) : QueueWorld :=
  ⟨(op.call.apply q.store t).2, t, op.logs q.store t ++ q.log⟩

end QueueOp

/-- Since the worker claimed the delivery, another worker did, or it was acknowledged. -/
def Stale (log : List Logged) (worker : String) (delivery : QueueDelivery) : Prop :=
  ∃ newer older, log = newer ++ .claimed worker delivery :: older ∧
    (.acknowledged delivery.id ∈ newer ∨
      ∃ other taken, .claimed other taken ∈ newer ∧ taken.id = delivery.id ∧ other ≠ worker)

/-- Times go forward, and workers act on deliveries they claimed. -/
def ValidRun : QueueWorld → List (Timestamp × QueueOp) → Prop
  | _, [] => True
  | q, (t, op) :: ops => q.now ≤ t ∧ (∀ x, op.holder = some x → .claimed x.1 x.2 ∈ q.log) ∧ ValidRun (op.step q t) ops

/-- Every stale operation of the run leaves its row unchanged. -/
def Fenced : QueueWorld → List (Timestamp × QueueOp) → Prop
  | _, [] => True
  | q, (t, op) :: ops =>
    (∀ x, op.holder = some x → Stale q.log x.1 x.2 →
      (op.step q t).store.queue.get x.2.id = q.store.queue.get x.2.id) ∧ Fenced (op.step q t) ops

/-- The operation does nothing to the row: it extends a lease nobody holds, or its delay is no float. -/
def Inert (row : QueueRow) : QueueOp → Prop
  | .claim .. | .acknowledge .. => False
  | .extendLease .. => row.status ≠ .processing
  | .retryOrDeadLetter _ delivery _ _ => 1024 < delivery.attempts

/-- Every stale operation of the run is inert on its row. -/
def Harmless : QueueWorld → List (Timestamp × QueueOp) → Prop
  | _, [] => True
  | q, (t, op) :: ops =>
    (∀ x, op.holder = some x → Stale q.log x.1 x.2 → ∀ row, q.store.queue.get x.2.id = some row → Inert row op) ∧
      Harmless (op.step q t) ops

/-- Each operation is later than the one before. -/
def TimeMovesOn : Timestamp → List (Timestamp × QueueOp) → Prop
  | _, [] => True
  | now, (t, _) :: ops => now < t ∧ TimeMovesOn t ops

/-! ## One operation -/

variable {q : QueueWorld} {t : Timestamp} {op : QueueOp} {x : String × QueueDelivery}

/-- An operation for a delivery leaves its row if it is inert on it, and writes the time into it otherwise. -/
theorem step_held (hx : op.holder = some x) : ∃ g : QueueRow → QueueRow,
    (op.step q t).store.queue.get x.2.id = (q.store.queue.get x.2.id).map g ∧
    ∀ row, (Inert row op → g row = row) ∧ (¬ Inert row op → (g row).updatedAt = t) := by
  cases op with
  | claim => cases hx
  | acknowledge worker delivery =>
    cases hx
    refine ⟨_, SQLiteStore.acknowledge_get .., fun row => ⟨fun h => h.elim, fun _ => ?_⟩⟩
    rw [if_pos rfl]
  | extendLease worker delivery leaseSeconds =>
    cases hx
    refine ⟨_, SQLiteStore.extendLease_get .., fun row => ⟨fun h => if_neg fun hc => h hc.2, fun h => ?_⟩⟩
    rw [if_pos ⟨rfl, not_not.mp h⟩]
  | retryOrDeadLetter worker delivery error base =>
    cases hx
    rcases hr : q.store.retryOrDeadLetter t delivery error base with ⟨r, s'⟩
    show ∃ g, (q.store.retryOrDeadLetter t delivery error base).2.queue.get delivery.id = _ ∧ _
    rw [hr]
    rcases SQLiteStore.retryOrDeadLetter_cases hr with ⟨⟨m, rfl⟩, rfl⟩ | ⟨delay, hdelay, -, hget, -⟩
    · refine ⟨id, by simp, fun row => ⟨fun _ => rfl, fun h => ?_⟩⟩
      have hle : delivery.attempts ≤ 1024 := not_lt.mp h
      obtain ⟨delay, hdelay⟩ : ∃ delay, backoff base (delivery.attempts - 1) = .ok delay := backoff_ok_iff.mpr (by omega)
      simp [SQLiteStore.retryOrDeadLetter, hdelay] at hr
    · have hlt := backoff_ok_iff.mp ⟨delay, hdelay⟩
      refine ⟨_, hget _, fun row => ⟨fun h => ?_, fun _ => by rw [if_pos rfl]⟩⟩
      have h : 1024 < delivery.attempts := h
      omega

/-- An operation leaves a row, or writes the time into it; and it writes it into the row it claims. -/
theorem step_row {id : Nat} {row' : QueueRow} (h : (op.step q t).store.queue.get id = some row') :
    row'.updatedAt = t ∨ q.store.queue.get id = some row' ∧ ∀ worker d, .claimed worker d ∈ op.logs q.store t → d.id ≠ id := by
  cases op with
  | claim worker leaseSeconds =>
    rcases hc : q.store.claim t worker leaseSeconds with ⟨r, s'⟩
    have h : (q.store.claim t worker leaseSeconds).2.queue.get id = some row' := h
    rw [hc] at h
    have hswept : ∀ {row}, ((q.store.queue.get id).map (SQLiteStore.swept t)) = some row → row.updatedAt = t ∨ q.store.queue.get id = some row := by
      intro row hrow
      obtain ⟨old, hold, rfl⟩ := Option.map_eq_some_iff.mp hrow
      unfold SQLiteStore.swept
      split
      · exact .inl rfl
      · exact .inr hold
    rcases SQLiteStore.claim_cases hc with ⟨rfl, rfl⟩ | ⟨row, -, -, -, rfl, hget, -⟩
    · rw [SQLiteStore.sweep_get] at h
      exact (hswept h).imp_right fun h => ⟨h, fun _ _ hd => by simp [QueueOp.logs, hc] at hd⟩
    · rw [hget] at h
      split at h
      · cases h; exact .inl rfl
      · rename_i hne
        rw [SQLiteStore.sweep_get] at h
        refine (hswept h).imp_right fun h => ⟨h, fun _ _ hd => ?_⟩
        simp only [QueueOp.logs, hc, Option.map_some, Option.toList_some, List.mem_singleton, Logged.claimed.injEq] at hd
        rw [hd.2]
        exact Ne.symm hne
  | extendLease worker delivery leaseSeconds =>
    have h : (q.store.extendLease t delivery leaseSeconds).queue.get id = some row' := h
    rw [SQLiteStore.extendLease_get] at h
    obtain ⟨old, hold, rfl⟩ := Option.map_eq_some_iff.mp h
    split
    · exact .inl rfl
    · exact .inr ⟨hold, fun _ _ hd => by cases hd⟩
  | acknowledge worker delivery =>
    have h : (q.store.acknowledge t delivery.id).queue.get id = some row' := h
    rw [SQLiteStore.acknowledge_get] at h
    obtain ⟨old, hold, rfl⟩ := Option.map_eq_some_iff.mp h
    split
    · exact .inl rfl
    · exact .inr ⟨hold, fun _ _ hd => by simp [QueueOp.logs] at hd⟩
  | retryOrDeadLetter worker delivery error base =>
    rcases hr : q.store.retryOrDeadLetter t delivery error base with ⟨r, s'⟩
    have h : (q.store.retryOrDeadLetter t delivery error base).2.queue.get id = some row' := h
    rw [hr] at h
    rcases SQLiteStore.retryOrDeadLetter_cases hr with ⟨-, rfl⟩ | ⟨delay, -, -, hget, -⟩
    · exact .inr ⟨h, fun _ _ hd => by cases hd⟩
    · rw [hget] at h
      obtain ⟨old, hold, rfl⟩ := Option.map_eq_some_iff.mp h
      split
      · exact .inl rfl
      · exact .inr ⟨hold, fun _ _ hd => by cases hd⟩

/-! ## Runs -/

theorem Stale.claimed {log : List Logged} {worker : String} {delivery : QueueDelivery} (h : Stale log worker delivery) :
    .claimed worker delivery ∈ log := by
  obtain ⟨newer, older, rfl, -⟩ := h
  exact List.mem_append_right _ List.mem_cons_self

/-- A run whose stale operations are inert is fenced. -/
theorem Harmless.fenced {ops : List (Timestamp × QueueOp)} (h : Harmless q ops) : Fenced q ops := by
  induction ops generalizing q with
  | nil => trivial
  | cons y ops ih =>
    obtain ⟨t, op⟩ := y
    refine ⟨fun x hx hstale => ?_, ih h.2⟩
    obtain ⟨g, hget, hg⟩ := step_held (q := q) (t := t) hx
    rw [hget]
    cases hrow : q.store.queue.get x.2.id with
    | none => rfl
    | some row => exact congrArg some ((hg row).1 (h.1 x hx hstale row hrow))

/-- Where time moves on, the stale operations of a fenced run are inert. -/
theorem Fenced.harmless {ops : List (Timestamp × QueueOp)} (h : Fenced q ops) (ht : TimeMovesOn q.now ops)
    (hi : ∀ worker d row, .claimed worker d ∈ q.log → q.store.queue.get d.id = some row → row.updatedAt ≤ q.now) : Harmless q ops := by
  induction ops generalizing q with
  | nil => trivial
  | cons y ops ih =>
    obtain ⟨t, op⟩ := y
    obtain ⟨hlt, ht⟩ := ht
    refine ⟨fun x hx hstale row hrow => ?_, ih h.2 ht fun worker d row' hd hrow' => ?_⟩
    · by_contra hinert
      obtain ⟨g, hget, hg⟩ := step_held (q := q) (t := t) hx
      rw [h.1 x hx hstale, hrow] at hget
      have hnow := (hg row).2 hinert
      rw [← Option.some.inj hget] at hnow
      exact absurd (hi _ _ row hstale.claimed hrow) (not_le.mpr (hnow ▸ hlt))
    · rcases step_row hrow' with e | ⟨hold, hfresh⟩
      · exact e.le
      · rcases List.mem_append.mp hd with hd | hd
        · exact absurd rfl (hfresh worker d hd)
        · exact (hi worker d row' hd hold).trans hlt.le

/-! ## The whole system -/

/-- What a journal entry says of a delivery's owner. -/
def Entry.owns (id : Nat) : Entry → Option (Option ThreadId)
  | did i (.store (.claim ..)) (.ok (some delivery)) => if delivery.id = id then some (some i) else none
  | did _ (.store (.acknowledge n)) (.ok _) => if n = id then some none else none
  | _ => none

/-- The thread that claimed the delivery last, unless it was acknowledged since. -/
def owner (id : Nat) : List Entry → Option ThreadId := latest (Entry.owns id)

/-- No thread settles a delivery that was claimed anew or acknowledged since its own claim, but by a retry that raises; and
    nobody replays a dead one. -/
def Env.fenced : Env where
  allows i w c _ :=
    match c with
    | .store (.acknowledge id) => owner id w.journal = some i
    | .store (.retryOrDeadLetter delivery ..) => owner delivery.id w.journal = some i ∨ 1024 < delivery.attempts
    | .store (.replayDeadLetter ..) => False
    | _ => True

/-- Whoever gave up on a delivery is the last who claimed it, and its row is dead. -/
structure FencedInv (w : World) : Prop where
  held : ∀ i d, (stage i w.journal).held = some d → ∃ row, w.store.queue.get d.id = some row ∧ row.taskId = d.taskId
  dying : ∀ i d, (stage i w.journal).dying = some d → (stage i w.journal).held = none ∧ owner d.id w.journal = some i ∧
    rowStatus d.taskId w.store d.id = some .dead

variable {w : World} {s' : SQLiteStore} {c : Call} {r : Except PyError c.Ret} {i : ThreadId} {d : QueueDelivery} {id : Nat}
  {rt : WorkflowRuntime} {config : Settings}

theorem owner_cons (id : Nat) (e : Entry) (es : List Entry) : owner id (e :: es) = (e.owns id).getD (owner id es) := latest_cons ..

/-- A delivery's owner stays, unless it is claimed or acknowledged. -/
theorem owner_did (hclaim : ∀ d, c.claimed r = some d → d.id ≠ id) (hack : c ≠ .store (.acknowledge id)) (es : List Entry) :
    owner id (.did i c r :: es) = owner id es := by
  have hnone : (Entry.did i c r).owns id = none := by
    unfold Entry.owns
    split
    · rename_i heq
      cases heq
      exact if_neg (hclaim _ rfl)
    · rename_i n _ heq
      cases heq
      exact if_neg fun e => hack (by rw [e])
    · rfl
  rw [owner_cons, hnone]
  rfl

/-- No claim hands out a dead row. -/
theorem claimed_alive {t : Timestamp} {taskId : String} (he : Effect c w.store t r s') (hd : c.claimed r = some d) :
    rowStatus taskId w.store d.id ≠ some .dead := by
  intro h
  obtain ⟨x, hx, -, hst⟩ := rowStatus_some.mp h
  unfold Call.claimed at hd
  split at hd
  · cases hd
    rename_i worker leaseSeconds
    rcases hc : w.store.claim t worker leaseSeconds with ⟨o, s''⟩
    have ho : o = some d := by
      have := (Prod.mk.inj he).1
      rw [hc] at this
      exact Except.ok.inj this
    rcases SQLiteStore.claim_row hc d.id with ⟨-, hn⟩ | ⟨row, -, hrow, -, -, -, hpend⟩
    · rw [hn] at hx; cases hx
    · cases hx.symm.trans hrow
      have := hpend (by rw [ho]; simp)
      rw [SQLiteStore.swept_status] at this
      simp [SQLiteStore.isExpired, hst] at this
  · cases hd

/-- No other thread settles a dead row, and no claim hands it out. -/
theorem dead_stays {det : LoopDetector} {t : Timestamp} (hi : FencedInv w) (hmay : May det (stage i w.journal) c)
    (hal : Env.fenced.allows i { w with now := t } c r) (he : Effect c w.store t r s') {k : ThreadId} (hd : (stage k w.journal).dying = some d) :
    owner d.id (.did i c r :: w.journal) = some k ∧ rowStatus d.taskId s' d.id = some .dead := by
  obtain ⟨hnone, howner, hdead⟩ := hi.dying k d hd
  have hnot : ∀ {c : StoreCall}, May det (stage i w.journal) (.store c) → c.settles = some d.id → owner d.id w.journal ≠ some i := by
    intro c hmay hc hown
    obtain ⟨d', hd', -⟩ := settles_held hmay hc
    cases howner.symm.trans hown
    rw [hnone] at hd'; cases hd'
  have hclaimed : ∀ d', c.claimed r = some d' → d'.id ≠ d.id := by
    intro d' hc e
    exact claimed_alive he hc (e ▸ hdead)
  refine ⟨?_, ?_⟩
  · rw [owner_did hclaimed]
    · exact howner
    · rintro rfl
      exact hnot hmay rfl hal
  · cases c with
    | store c =>
      by_cases hsettles : c.settles = some d.id
      · cases c with
        | acknowledge n => cases hsettles; exact absurd hal (hnot hmay rfl)
        | retryOrDeadLetter delivery error base =>
          have hid : delivery.id = d.id := Option.some.inj hsettles
          have hlong := hal.resolve_left (hid ▸ hnot hmay hsettles)
          have hs : s' = w.store := by
            rcases SQLiteStore.retryOrDeadLetter_cases he with ⟨-, e⟩ | ⟨delay, hdelay, -⟩
            · exact e
            · have := backoff_ok_iff.mp ⟨delay, hdelay⟩
              omega
          rw [hs]; exact hdead
        | _ => cases hsettles
      · obtain rfl := congrArg Prod.snd he
        rcases dead_kept c hsettles hdead with h | ⟨n, actor, reason, rfl, -⟩
        · exact h
        · exact hal.elim
    | clock | awaitHeartbeat => obtain ⟨-, rfl⟩ := he; exact hdead
    | _ => obtain rfl := he; exact hdead

/-- A worker that gives up on a delivery it owns has its row dead. -/
theorem gives_up {t : Timestamp} {det : LoopDetector} (hi : FencedInv w) (hmay : May det (stage i w.journal) c)
    (hal : Env.fenced.allows i { w with now := t } c r) (he : Effect c w.store t r s') (hret : c.retried r = some (d, true)) :
    owner d.id (.did i c r :: w.journal) = some i ∧ rowStatus d.taskId s' d.id = some .dead := by
  unfold Call.retried at hret
  split at hret
  · rename_i delivery error base dead
    obtain ⟨rfl, rfl⟩ := Prod.mk.inj (Option.some.inj hret)
    rcases SQLiteStore.retryOrDeadLetter_cases he with ⟨⟨m, e⟩, -⟩ | ⟨delay, hdelay, hdead, hget, -⟩
    · cases e
    · have hlt := backoff_ok_iff.mp ⟨delay, hdelay⟩
      have howner : owner delivery.id w.journal = some i := hal.resolve_right (by omega)
      have hspent : delivery.maxAttempts ≤ delivery.attempts := of_decide_eq_true (Except.ok.inj hdead).symm
      obtain ⟨row, hrow, htask⟩ := hi.held i delivery hmay.2
      have hrow' := hget delivery.id
      rw [hrow, Option.map_some, if_pos rfl, if_pos hspent] at hrow'
      refine ⟨?_, rowStatus_some.mpr ⟨_, hrow', htask, rfl⟩⟩
      rw [owner_did (fun _ h => by cases h) (by simp)]
      exact howner
  · cases hret

theorem after_dying_held {q : Stage} (h : ∀ d, q.dying = some d → q.held = none) (hd : (q.after c r).dying = some d) :
    (q.after c r).held = none := by
  cases c with
  | store c =>
    cases r with
    | error e => cases c <;> exact h d hd
    | ok a =>
      cases c with
      | claim =>
        cases a with
        | none => exact h d hd
        | some d' => cases hd
      | getToolResult => cases a <;> exact h d hd
      | acknowledge | enqueue | retryOrDeadLetter => rfl
      | _ => exact h d hd
  | _ => cases r <;> exact h d hd

theorem reachable_fencedInv {cfg : Cfg} (h : Reachable { rt with engine := anyEngine, backend := anyBackend } config .fenced cfg) :
    FencedInv cfg.state := by
  refine reachable_world (P := FencedInv) ⟨fun _ _ h => (by cases h), fun _ _ h => (by cases h)⟩ (fun w e hi he => ?_)
    (fun cfg i c k r w' hr hi hp hx => ?_) h
  · have hstage := fun i => stage_bound he i w.journal
    have howner : ∀ id, owner id (e :: w.journal) = owner id w.journal := by
      intro id
      cases e <;> first | rfl | cases he
    refine ⟨fun i d hd => ?_, fun i d hd => ?_⟩
    · rcases hstage i with hb | hb <;> rw [hb] at hd
      · cases hd
      · exact hi.held i d hd
    · rcases hstage i with hb | hb <;> simp only [hb] at hd ⊢
      · cases hd
      · rw [howner]; exact hi.dying i d hd
  · have hmay := conforms hr hp
    obtain ⟨t, s', -, hal, he, rfl⟩ := hx
    refine ⟨fun j d hd => held_row_kept hi.held he hd, fun j d hd => ?_⟩
    by_cases e : i = j
    · subst e
      simp only [stage_did] at hd ⊢
      refine ⟨after_dying_held (fun d hd => (hi.dying i d hd).1) hd, ?_⟩
      rcases after_dying hd with hret | ⟨-, hd⟩
      · exact gives_up hi hmay hal he hret
      · exact dead_stays hi hmay hal he hd
    · simp only [stage_other e] at hd ⊢
      exact ⟨(hi.dying j d hd).1, dead_stays hi hmay hal he hd⟩

/-- A run whose stale operations are inert leaves their rows unchanged, and one that does so while time moves on has no other.
    In the whole system, where stale workers settle nothing, whoever marks a workflow `DEAD_LETTERED` was the last to claim a
    delivery of it, and its row is dead. -/
theorem stale_workers_fenced (rt : WorkflowRuntime) (config : Settings) (s : SQLiteStore) (t : Timestamp) (ops : List (Timestamp × QueueOp)) :
    (Harmless ⟨s, t, []⟩ ops → Fenced ⟨s, t, []⟩ ops) ∧
    (TimeMovesOn t ops → Fenced ⟨s, t, []⟩ ops → Harmless ⟨s, t, []⟩ ops) ∧
    ∀ cfg, Reachable { rt with engine := anyEngine, backend := anyBackend } config .fenced cfg →
      ∀ i st v k, cfg.pool i = some (.call (.store (.saveWorkflow st v)) k) → st.status = .deadLettered →
        ∃ d : QueueDelivery, d.taskId = st.taskId ∧ owner d.id cfg.state.journal = some i ∧
          rowStatus st.taskId cfg.state.store d.id = some .dead := by
  refine ⟨Harmless.fenced, fun ht h => h.harmless ht fun _ _ _ hc => (by cases hc), fun cfg h i st v k hp hst => ?_⟩
  obtain ⟨cp, hsave⟩ := conforms h hp
  obtain ⟨d, hd, htask⟩ := hsave.dying hst
  obtain ⟨-, howner, hdead⟩ := (reachable_fencedInv h).dying i d hd
  have hsame : d.taskId = st.taskId := htask.trans hsave.change.same.1.symm
  exact ⟨d, hsame, howner, hsame ▸ hdead⟩

/-! ## Stale calls -/

def queued : SQLiteStore :=
  (SQLiteStore.empty.createWorkflow 0 { taskId := "t", goal := "restore checkout", createdAt := 0, updatedAt := 0 } 5).2

/-- What the first and the second claim of the delivery return. -/
def firstClaim : QueueDelivery := ⟨1, "t", 1, 5, .obj []⟩
def secondClaim : QueueDelivery := { firstClaim with attempts := 2 }

def firstStatus (q : QueueWorld) : Option QueueStatus := (q.store.queue.get 1).map (·.status)

/-- The first worker's heartbeat is late: the second worker has finished the delivery. -/
def lateHeartbeat : List (Timestamp × QueueOp) :=
  [(0, .claim "w1" 60), (seconds 61, .claim "w2" 60), (seconds 62, .acknowledge "w2" secondClaim),
   (seconds 63, .extendLease "w1" firstClaim 60)]

theorem stale_workers_fenced_late : Fenced ⟨queued, 0, []⟩ lateHeartbeat := by
  refine (stale_workers_fenced {} {} queued 0 lateHeartbeat).1 ⟨fun x h => (by cases h), fun x h => (by cases h), fun x h hstale => ?_,
    fun x h _ row hrow => ?_, trivial⟩
  · cases h
    -- nobody claimed or acknowledged it after the second worker
    obtain ⟨newer, older, hlog, hsince⟩ := hstale
    cases newer with
    | nil => simp at hsince
    | cons y newer =>
      obtain ⟨-, hlog⟩ := List.cons.inj (show [Logged.claimed "w2" secondClaim, .claimed "w1" firstClaim] = _ from hlog)
      cases newer with
      | nil => simp at hlog
      | cons y newer => simp at hlog
  · cases h
    have hcompleted : firstStatus ((QueueOp.acknowledge "w2" secondClaim).step ((QueueOp.claim "w2" 60).step
        ((QueueOp.claim "w1" 60).step ⟨queued, 0, []⟩ 0) (seconds 61)) (seconds 62)) = some .completed := by decide +kernel
    have hstatus : row.status = .completed := Option.some.inj ((congrArg (Option.map QueueRow.status) hrow).symm.trans hcompleted)
    show row.status ≠ .processing
    rw [hstatus]
    decide

/-- The first worker's lease lapses, the second one finishes the delivery, and then the first one gives up on it. -/
def resurrection : List (Timestamp × QueueOp) :=
  [(0, .claim "w1" 60), (seconds 61, .claim "w2" 60), (seconds 62, .acknowledge "w2" secondClaim),
   (seconds 63, .retryOrDeadLetter "w1" firstClaim "connection lost" (.finite 1))]

/-- The worlds a run goes through. -/
def worlds : QueueWorld → List (Timestamp × QueueOp) → List QueueWorld
  | q, [] => [q]
  | q, (t, op) :: ops => q :: worlds (op.step q t) ops

example : (worlds ⟨queued, 0, []⟩ resurrection).map firstStatus =
    [some .pending, some .processing, some .processing, some .completed, some .pending] := by
  decide +kernel

theorem resurrection_valid : ValidRun ⟨queued, 0, []⟩ resurrection := by
  refine ⟨by decide, fun x h => (by cases h), by decide, fun x h => (by cases h), by decide, fun x h => ?_, by decide,
    fun x h => ?_, trivial⟩
  · cases h; exact .head _
  · cases h; exact .tail _ (.tail _ (.head _))

/-- A worker whose delivery was claimed anew and acknowledged returns it to the queue. -/
theorem stale_retry_resurrects : ValidRun ⟨queued, 0, []⟩ resurrection ∧ ¬ Fenced ⟨queued, 0, []⟩ resurrection := by
  refine ⟨resurrection_valid, fun h => ?_⟩
  have hretry := h.2.2.2.1 ("w1", firstClaim) rfl ⟨[.acknowledged 1, .claimed "w2" secondClaim], [], rfl, .inl (.head _)⟩
  have hstatus := congrArg (Option.map QueueRow.status) hretry
  revert hstatus
  decide +kernel

end AgentResilience
