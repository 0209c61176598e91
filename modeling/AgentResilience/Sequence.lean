/-
  AgentResilience.Sequence — operations one after another: each starts when the one
  before it has ended, and a worker's run may be cut off at any call boundary.
  `Call.quiet` are the calls that leave checkpoints, queue and approvals alone;
  `wpc_quiet`: a program of quiet calls does, wherever it is cut off. `Sequence.play` runs
  a written sequence.
-/
import AgentResilience.Guarantee

namespace AgentResilience

open Interaction

def World.note (w : World) (e : Entry) : World := { w with journal := e :: w.journal }

inductive Sequence (rt : WorkflowRuntime) (config : Settings) (env : Env) : World → Prop
  | init : Sequence rt config env World.init
  | ran {w w' : World} {op : Operation} {o : Except PyError Reply} : Sequence rt config env w → env.starts 0 w op →
      Runs (calls env 0) (op.program rt config) (w.note (.began 0 op)) o w' → Sequence rt config env (w'.note (.ended 0 o))
  | died {w w' : World} {workerId : String} : Sequence rt config env w → env.starts 0 w (.runOnce workerId) →
      Partial (calls env 0) ((Operation.runOnce workerId).program rt config) (w.note (.began 0 (.runOnce workerId))) w' →
      env.dies 0 w' → Sequence rt config env (w'.note (.died 0))

/-- The environment, with other calls, operations and deaths allowed. -/
theorem Sequence.mono {rt : WorkflowRuntime} {config : Settings} {env env' : Env} {w : World}
    (hallows : ∀ w c r, env.allows 0 w c r → env'.allows 0 w c r) (hstarts : ∀ w op, env.starts 0 w op → env'.starts 0 w op)
    (hdies : ∀ w, env.dies 0 w → env'.dies 0 w) (h : Sequence rt config env w) : Sequence rt config env' w := by
  have hcalls : ∀ c w r w', calls env 0 c w r w' → calls env' 0 c w r w' := by
    intro c w r w' hs
    obtain ⟨t, s', ht, hal, he, rfl⟩ := hs
    exact ⟨t, s', ht, hallows _ c r hal, he, rfl⟩
  induction h with
  | init => exact .init
  | ran _ hs hr ih => exact ih.ran (hstarts _ _ hs) (hr.mono hcalls)
  | died _ hs hp hd ih => exact ih.died (hstarts _ _ hs) (hp.mono hcalls) (hdies _ hd)

/-! ## Quiet calls -/

/-- The tables but the ledger and the audit log are the same. -/
structure Same (w w' : World) : Prop where
  workflows : w'.store.workflows = w.store.workflows
  queue : w'.store.queue = w.store.queue
  approvals : w'.store.approvals = w.store.approvals

theorem Same.refl (w : World) : Same w w := ⟨rfl, rfl, rfl⟩

theorem Same.trans {w w' w'' : World} (h : Same w w') (h' : Same w' w'') : Same w w'' :=
  ⟨h'.workflows.trans h.workflows, h'.queue.trans h.queue, h'.approvals.trans h.approvals⟩

def Call.quiet : Call → Bool
  | .store c => !c.writesWorkflows && !c.writesApprovals && !c.writesQueue
  | _ => true

theorem calls_same {env : Env} {i : ThreadId} {c : Call} {w w' : World} {r : Except PyError c.Ret}
    (hc : c.quiet = true) (h : calls env i c w r w') : Same w w' := by
  obtain ⟨t, s', -, -, he, rfl⟩ := h
  cases c with
  | store c =>
    obtain rfl := congrArg Prod.snd he
    simp only [Call.quiet, Bool.and_eq_true, Bool.not_eq_true'] at hc
    exact ⟨StoreCall.apply_workflows hc.1.1 .., StoreCall.apply_queue hc.2 .., StoreCall.apply_approvals hc.1.2 ..⟩
  | clock | awaitHeartbeat => obtain ⟨-, rfl⟩ := he; exact ⟨rfl, rfl, rfl⟩
  | _ => obtain rfl := he; exact ⟨rfl, rfl, rfl⟩

theorem wpc_quiet {α : Type} {env : Env} {i : ThreadId} {K : World → Prop} {p : Py α} {w : World}
    (hp : p.Makes fun c => c.quiet = true) (hK : ∀ w', Same w w' → K w') :
    wpc (calls env i) K p (fun _ w' => Same w w') w :=
  wpc_keeps (fun _ _ _ _ hc hs h => h.trans (calls_same hc hs)) hp hK (.refl w)

/-- The gateway writes the ledger only. -/
theorem gatewayExecute_quiet (st : WorkflowState) (tool : ToolName) (arguments : Arguments) :
    (gatewayExecute anyBackend st tool arguments).Makes fun c => c.quiet = true :=
  gatewayExecute_makes (fun _ _ => rfl) (fun _ _ => rfl) fun _ _ _ _ _ => rfl

theorem updateDepth_quiet : updateDepth.Makes fun c => c.quiet = true :=
  Prog.makes_bind (Prog.makes_perform rfl) fun _ => trivial

/-! ## Written sequences -/

/-- One call, answered at the time and by the outside's part `x`. -/
def World.answer (w : World) (c : Call) (x : Answer) : Option (Except PyError c.Ret × World) :=
  if w.now ≤ x.time then (respond c x w.store).map fun rs => (rs.1, ⟨rs.2, x.time, .did 0 c rs.1 :: w.journal⟩)
  else none

/-- Run `p` for as many calls as there are answers, each `allowed`. -/
def World.playFor (allowed : (w : World) → (c : Call) → Except PyError c.Ret → Bool) {α : Type} :
    List Answer → Py α → World → Option (Py α × World)
  | [], p, w => some (p, w)
  | x :: xs, .call c k, w => (w.answer c x).bind fun rw =>
      if allowed { w with now := x.time } c rw.1 then playFor allowed xs (k rw.1) rw.2 else none
  | _ :: _, _, _ => none

/-- An operation with the answers to its calls, and whether its process dies after them. -/
structure Act where
  op : Operation
  answers : List Answer
  dies : Bool := false

/-- `n` calls at time `t` that need no answer from the outside. -/
def unasked (n : Nat) (t : Timestamp := 0) : List Answer := List.replicate n (.ok t)

/-- A worker's calls up to the engine's answer and its recording. -/
def deciding (decision : AgentDecision) (t : Timestamp := 0) : List Answer :=
  unasked 4 t ++ [.decision t (.ok decision), .usage t (0, 0)] ++ unasked 1 t

section

variable (rt : WorkflowRuntime) (config : Settings)
  (allowed : (w : World) → (c : Call) → Except PyError c.Ret → Bool) (mayDie : World → Bool)

def Sequence.act (a : Act) (w : World) : Option World :=
  (World.playFor allowed a.answers (a.op.program rt config) (w.note (.began 0 a.op))).bind fun pw =>
    if a.dies then
      match a.op with
      | .runOnce _ => if mayDie pw.2 then some (pw.2.note (.died 0)) else none
      | _ => none
    else pw.1.outcome?.map fun o => pw.2.note (.ended 0 o)

def Sequence.play : List Act → World → Option World
  | [], w => some w
  | a :: as, w => (Sequence.act rt config allowed mayDie a w).bind (play as)

end

theorem answer_sound {env : Env} {w w' : World} {c : Call} {x : Answer} {r : Except PyError c.Ret}
    (h : w.answer c x = some (r, w')) (hal : env.allows 0 { w with now := x.time } c r) : calls env 0 c w r w' := by
  unfold World.answer at h
  split at h
  · rename_i ht
    obtain ⟨⟨r', s'⟩, hr, he⟩ := Option.map_eq_some_iff.mp h
    simp only [Prod.mk.injEq] at he
    obtain ⟨rfl, rfl⟩ := he
    exact ⟨x.time, s', ht, hal, respond_sound hr, rfl⟩
  · cases h

variable {env : Env} {allowed : (w : World) → (c : Call) → Except PyError c.Ret → Bool}

theorem playFor_step {α : Type} {x : Answer} {xs : List Answer} {c : Call} {k : Except PyError c.Ret → Py α} {w : World}
    {q : Py α × World} (h : World.playFor allowed (x :: xs) (.call c k) w = some q) :
    ∃ r w', w.answer c x = some (r, w') ∧ allowed { w with now := x.time } c r = true ∧
      World.playFor allowed xs (k r) w' = some q := by
  obtain ⟨⟨r, w'⟩, ha, h⟩ := Option.bind_eq_some_iff.mp h
  split at h
  · rename_i hal; exact ⟨r, w', ha, hal, h⟩
  · cases h

theorem playFor_stops (hal : ∀ w c r, allowed w c r = true → env.allows 0 w c r) {α : Type} {xs : List Answer} {p q : Py α}
    {w w' : World} (h : World.playFor allowed xs p w = some (q, w')) : Partial (calls env 0) p w w' := by
  induction xs generalizing p w with
  | nil => cases h; exact .here q w'
  | cons x xs ih =>
    cases p with
    | ret a | raise e => cases h
    | call c k =>
      obtain ⟨r, w₁, ha, hr, h⟩ := playFor_step h
      exact .call (answer_sound ha (hal _ _ _ hr)) (ih h)

theorem playFor_runs (hal : ∀ w c r, allowed w c r = true → env.allows 0 w c r) {α : Type} {xs : List Answer} {p q : Py α}
    {w w' : World} {o : Except PyError α} (h : World.playFor allowed xs p w = some (q, w')) (ho : q.outcome? = some o) :
    Runs (calls env 0) p w o w' := by
  induction xs generalizing p w with
  | nil =>
    cases h
    cases q with
    | ret a => cases ho; exact .ret a w'
    | raise e => cases ho; exact .raise e w'
    | call c k => cases ho
  | cons x xs ih =>
    cases p with
    | ret a | raise e => cases h
    | call c k =>
      obtain ⟨r, w₁, ha, hr, h⟩ := playFor_step h
      exact .call (answer_sound ha (hal _ _ _ hr)) (ih h)

/-- A written operation that nobody dies in. -/
theorem Sequence.act_runs {rt : WorkflowRuntime} {config : Settings} {mayDie : World → Bool}
    (hal : ∀ w c r, allowed w c r = true → env.allows 0 w c r) {a : Act} (ha : a.dies = false) {w w' : World}
    (h : Sequence.act rt config allowed mayDie a w = some w') :
    ∃ o w₁, Runs (calls env 0) (a.op.program rt config) (w.note (.began 0 a.op)) o w₁ ∧ w' = w₁.note (.ended 0 o) := by
  obtain ⟨⟨q, w₁⟩, hq, h⟩ := Option.bind_eq_some_iff.mp h
  simp only [ha] at h
  obtain ⟨o, ho, rfl⟩ := Option.map_eq_some_iff.mp h
  exact ⟨o, w₁, playFor_runs hal hq ho, rfl⟩

/-- A written sequence, in an environment whose conditions hold of every step it takes. -/
theorem Sequence.play_sound {rt : WorkflowRuntime} {config : Settings} {mayDie : World → Bool}
    (hal : ∀ w c r, allowed w c r = true → env.allows 0 w c r) (hdies : ∀ w, mayDie w = true → env.dies 0 w)
    {as : List Act} (hstart : ∀ a ∈ as, ∀ w, env.starts 0 w a.op) {w w' : World} (h : Sequence rt config env w)
    (hp : Sequence.play rt config allowed mayDie as w = some w') : Sequence rt config env w' := by
  induction as generalizing w with
  | nil => cases hp; exact h
  | cons a as ih =>
    obtain ⟨w₁, h₁, hp⟩ := Option.bind_eq_some_iff.mp hp
    refine ih (fun b hb => hstart b (List.mem_cons_of_mem _ hb)) ?_ hp
    have hs := hstart a List.mem_cons_self w
    by_cases hdie : a.dies = true
    · obtain ⟨⟨q, w₂⟩, hq, h₁⟩ := Option.bind_eq_some_iff.mp h₁
      obtain ⟨op, xs, dies⟩ := a
      simp only at hdie
      subst hdie
      cases op with
      | runOnce workerId =>
        simp only [if_true] at h₁
        split at h₁
        · rename_i hd; cases h₁; exact h.died hs (playFor_stops hal hq) (hdies _ hd)
        · cases h₁
      | _ => cases h₁
    · obtain ⟨o, w₂, hr, rfl⟩ := Sequence.act_runs hal (by simpa using hdie) h₁
      exact h.ran hs hr

theorem Sequence.play_exists {rt : WorkflowRuntime} {config : Settings} {mayDie : World → Bool}
    (hal : ∀ w c r, allowed w c r = true → env.allows 0 w c r) (hdies : ∀ w, mayDie w = true → env.dies 0 w)
    {as : List Act} (hstart : ∀ a ∈ as, ∀ w, env.starts 0 w a.op) {P : World → Bool}
    (hp : (Sequence.play rt config allowed mayDie as World.init).any P = true) :
    ∃ w, Sequence rt config env w ∧ P w = true := by
  obtain ⟨w, hw, hP⟩ := Option.any_eq_true _ _ |>.mp hp
  exact ⟨w, Sequence.play_sound hal hdies hstart .init hw, hP⟩

end AgentResilience
