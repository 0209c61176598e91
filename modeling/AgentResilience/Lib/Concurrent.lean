/-
  AgentResilience.Lib.Concurrent — many programs over one service, interleaved call by
  call. A `System` says what a call may do when thread `i` makes it (`sem`), which
  programs a thread may start (`enter`), and what its end (`leave`) or its death
  (`crash`) does to the state. A configuration is a state and the pool of programs in
  flight.

  Rely/guarantee. A `Protocol` names the invariant of the state and of a ghost value
  `γ`, what a thread may rely on while the others run (`Rely`), what holds of a thread
  with nothing in flight (`Idle`) and what must hold when a thread makes a call (`Obs`).
  `Safe P i p Q s g`: thread `i`, about to run `p`, keeps the protocol whatever the
  others do, and ends in `Q`. It is defined by recursion on `p`: before each call the
  others may have moved the state along `Rely i`, and the call must then move it along
  `Rely j` of every other thread, choosing the ghost value anew.

  - `reach_cover`: if every program a thread may start is safe, every reachable
    configuration satisfies the invariant and every thread in flight is safe in it.
  - `reach_obs`, `reach_step`: what this says of a call about to be made and of a step.
  - `Simulator`, `play_run`: an executable schedule is a run to what it computes.
-/
import Mathlib.Logic.Relation
import AgentResilience.Lib.Sequential

namespace Interaction

variable {ι C : Type} {V : C → Type} {ε α β σ γ : Type}

structure System (ι C : Type) (V : C → Type) (ε α σ : Type) where
  sem : ι → Service C V ε σ
  enter : ι → Prog C V ε α → σ → σ → Prop
  leave : ι → Except ε α → σ → σ → Prop
  crash : ι → σ → σ → Prop

/-! ## Rely/guarantee -/

structure Protocol (ι C σ γ : Type) where
  Inv : σ → γ → Prop
  Rely : ι → σ → γ → σ → γ → Prop
  Idle : ι → σ → γ → Prop
  Obs : ι → C → σ → γ → Prop
  rely_refl : ∀ i s g, Rely i s g s g
  rely_trans : ∀ {i s g s' g' s'' g''}, Rely i s g s' g' → Rely i s' g' s'' g'' → Rely i s g s'' g''
  idle_stable : ∀ {i s g s' g'}, Rely i s g s' g' → Idle i s g → Idle i s' g'

namespace Protocol

variable (P : Protocol ι C σ γ)

/-- A step of thread `i` from `(s, g)` to `(s', g')` the other threads can live with. -/
def Keeps (i : ι) (s : σ) (g : γ) (s' : σ) (g' : γ) : Prop :=
  P.Inv s' g' ∧ ∀ j, j ≠ i → P.Rely j s g s' g'

end Protocol

variable (S : System ι C V ε α σ) (P : Protocol ι C σ γ)

def Safe {α : Type} (sem : ι → Service C V ε σ) (P : Protocol ι C σ γ) (i : ι) :
    Prog C V ε α → (Except ε α → σ → γ → Prop) → σ → γ → Prop
  | .ret a, Q, s, g => ∀ s' g', P.Rely i s g s' g' → P.Inv s' g' → Q (.ok a) s' g'
  | .raise e, Q, s, g => ∀ s' g', P.Rely i s g s' g' → P.Inv s' g' → Q (.error e) s' g'
  | .call c k, Q, s, g => ∀ s₁ g₁, P.Rely i s g s₁ g₁ → P.Inv s₁ g₁ →
      P.Obs i c s₁ g₁ ∧ ∀ r s₂, sem i c s₁ r s₂ →
        ∃ g₂, P.Keeps i s₁ g₁ s₂ g₂ ∧ Safe sem P i (k r) Q s₂ g₂

/-- What a thread must establish at its end: it may leave, and is idle then. -/
def Leaves (i : ι) (o : Except ε α) (s : σ) (g : γ) : Prop :=
  ∀ s', S.leave i o s s' → ∃ g', P.Keeps i s g s' g' ∧ P.Idle i s' g'

/-- Every program a thread may start is safe, and a thread may die at any time. -/
structure Sound : Prop where
  enter : ∀ {i p s s' g}, S.enter i p s s' → P.Inv s g → P.Idle i s g →
    ∃ g', P.Keeps i s g s' g' ∧ Safe S.sem P i p (Leaves S P i) s' g'
  crash : ∀ {i s s' g}, S.crash i s s' → P.Inv s g → ∃ g', P.Keeps i s g s' g' ∧ P.Idle i s' g'

variable {S P}

theorem Safe.rely {sem : ι → Service C V ε σ} {i : ι} {p : Prog C V ε α} {Q : Except ε α → σ → γ → Prop} {s s' : σ} {g g' : γ}
    (h : Safe sem P i p Q s g) (hr : P.Rely i s g s' g') : Safe sem P i p Q s' g' := by
  cases p with
  | ret a => exact fun s₁ g₁ h₁ => h s₁ g₁ (P.rely_trans hr h₁)
  | raise e => exact fun s₁ g₁ h₁ => h s₁ g₁ (P.rely_trans hr h₁)
  | call c k => exact fun s₁ g₁ h₁ => h s₁ g₁ (P.rely_trans hr h₁)

theorem Safe.mono {sem : ι → Service C V ε σ} {i : ι} {p : Prog C V ε α} {Q Q' : Except ε α → σ → γ → Prop} {s : σ} {g : γ}
    (h : Safe sem P i p Q s g) (hQ : ∀ o s g, P.Inv s g → Q o s g → Q' o s g) : Safe sem P i p Q' s g := by
  induction p generalizing s g with
  | ret a => exact fun s' g' hr hi => hQ _ _ _ hi (h s' g' hr hi)
  | raise e => exact fun s' g' hr hi => hQ _ _ _ hi (h s' g' hr hi)
  | call c k ih =>
    intro s₁ g₁ hr hi
    obtain ⟨ho, hk⟩ := h s₁ g₁ hr hi
    refine ⟨ho, fun r s₂ hs => ?_⟩
    obtain ⟨g₂, hk₂, h₂⟩ := hk r s₂ hs
    exact ⟨g₂, hk₂, ih r h₂⟩

/-- What a program's continuation must establish from its outcome. -/
def afterSafe (f : α → σ → γ → Prop) (Q : Except ε β → σ → γ → Prop) : Except ε α → σ → γ → Prop
  | .ok a, s, g => f a s g
  | .error e, s, g => Q (.error e) s g

theorem Safe.ret {sem : ι → Service C V ε σ} {i : ι} {a : α} {Q : Except ε α → σ → γ → Prop} {s : σ} {g : γ}
    (h : ∀ s' g', P.Rely i s g s' g' → P.Inv s' g' → Q (.ok a) s' g') : Safe sem P i (.ret a) Q s g := h

/-- What holds wherever the others lead holds here. -/
theorem Safe.intro {sem : ι → Service C V ε σ} {i : ι} {p : Prog C V ε α} {Q : Except ε α → σ → γ → Prop} {s : σ} {g : γ}
    (h : ∀ s' g', P.Rely i s g s' g' → P.Inv s' g' → Safe sem P i p Q s' g') : Safe sem P i p Q s g := by
  cases p with
  | ret a => exact fun s₁ g₁ hr hi => h s₁ g₁ hr hi s₁ g₁ (P.rely_refl i s₁ g₁) hi
  | raise e => exact fun s₁ g₁ hr hi => h s₁ g₁ hr hi s₁ g₁ (P.rely_refl i s₁ g₁) hi
  | call c k => exact fun s₁ g₁ hr hi => h s₁ g₁ hr hi s₁ g₁ (P.rely_refl i s₁ g₁) hi

theorem Safe.bind {sem : ι → Service C V ε σ} {i : ι} {p : Prog C V ε α} {f : α → Prog C V ε β}
    {Q : Except ε β → σ → γ → Prop} {s : σ} {g : γ}
    (h : Safe sem P i p (afterSafe (fun a => Safe sem P i (f a) Q) Q) s g) :
    Safe sem P i (p.bind f) Q s g := by
  induction p generalizing s g with
  | ret a => exact Safe.intro h
  | raise e => exact h
  | call c k ih =>
    intro s₁ g₁ hr hi₁
    obtain ⟨ho, hk⟩ := h s₁ g₁ hr hi₁
    refine ⟨ho, fun r s₂ hs => ?_⟩
    obtain ⟨g₂, hk₂, h₂⟩ := hk r s₂ hs
    exact ⟨g₂, hk₂, ih r h₂⟩

theorem Safe.perform {sem : ι → Service C V ε σ} {i : ι} {c : C} {Q : Except ε (V c) → σ → γ → Prop} {s : σ} {g : γ}
    (h : ∀ s₁ g₁, P.Rely i s g s₁ g₁ → P.Inv s₁ g₁ → P.Obs i c s₁ g₁ ∧ ∀ r s₂, sem i c s₁ r s₂ →
      ∃ g₂, P.Keeps i s₁ g₁ s₂ g₂ ∧ ∀ s₃ g₃, P.Rely i s₂ g₂ s₃ g₃ → P.Inv s₃ g₃ → Q r s₃ g₃) :
    Safe sem P i (.perform c) Q s g := by
  intro s₁ g₁ hr hi
  obtain ⟨ho, hk⟩ := h s₁ g₁ hr hi
  refine ⟨ho, fun r s₂ hs => ?_⟩
  obtain ⟨g₂, hk₂, h₂⟩ := hk r s₂ hs
  exact ⟨g₂, hk₂, by cases r <;> exact h₂⟩

theorem Safe.attempt {sem : ι → Service C V ε σ} {i : ι} {p : Prog C V ε α}
    {Q : Except ε (Except ε α) → σ → γ → Prop} {s : σ} {g : γ}
    (h : Safe sem P i p (fun o => Q (.ok o)) s g) : Safe sem P i p.attempt Q s g := by
  induction p generalizing s g with
  | ret a => exact h
  | raise e => exact h
  | call c k ih =>
    intro s₁ g₁ hr hi
    obtain ⟨ho, hk⟩ := h s₁ g₁ hr hi
    refine ⟨ho, fun r s₂ hs => ?_⟩
    obtain ⟨g₂, hk₂, h₂⟩ := hk r s₂ hs
    exact ⟨g₂, hk₂, ih r h₂⟩

/-! ## Reachable configurations -/

structure Config (ι C : Type) (V : C → Type) (ε α σ : Type) where
  state : σ
  pool : ι → Option (Prog C V ε α)

variable [DecidableEq ι]

def Config.put (cfg : Config ι C V ε α σ) (i : ι) (p : Option (Prog C V ε α)) (s : σ) :
    Config ι C V ε α σ :=
  ⟨s, Function.update cfg.pool i p⟩

inductive Step (S : System ι C V ε α σ) : Config ι C V ε α σ → Config ι C V ε α σ → Prop
  | enter {cfg : Config ι C V ε α σ} {i : ι} {p : Prog C V ε α} {s' : σ} :
      cfg.pool i = none → S.enter i p cfg.state s' → Step S cfg (cfg.put i (some p) s')
  | call {cfg : Config ι C V ε α σ} {i : ι} {c : C} {k : Except ε (V c) → Prog C V ε α} {r : Except ε (V c)} {s' : σ} :
      cfg.pool i = some (.call c k) → S.sem i c cfg.state r s' → Step S cfg (cfg.put i (some (k r)) s')
  | leave {cfg : Config ι C V ε α σ} {i : ι} {p : Prog C V ε α} {o : Except ε α} {s' : σ} :
      cfg.pool i = some p → p.outcome? = some o → S.leave i o cfg.state s' → Step S cfg (cfg.put i none s')
  | crash {cfg : Config ι C V ε α σ} {i : ι} {p : Prog C V ε α} {s' : σ} :
      cfg.pool i = some p → S.crash i cfg.state s' → Step S cfg (cfg.put i none s')

inductive Reach (S : System ι C V ε α σ) (s₀ : σ) : Config ι C V ε α σ → Prop
  | init : Reach S s₀ ⟨s₀, fun _ => none⟩
  | step {cfg cfg' : Config ι C V ε α σ} : Reach S s₀ cfg → Step S cfg cfg' → Reach S s₀ cfg'

theorem Reach.run {S : System ι C V ε α σ} {s₀ : σ} {cfg cfg' : Config ι C V ε α σ} (h : Reach S s₀ cfg)
    (hr : Relation.ReflTransGen (Step S) cfg cfg') : Reach S s₀ cfg' := by
  induction hr with
  | refl => exact h
  | tail _ hs ih => exact ih.step hs

/-- What the protocol says of thread `i` in a configuration. -/
def ThreadOk (S : System ι C V ε α σ) (P : Protocol ι C σ γ) (i : ι) (s : σ) (g : γ) :
    Option (Prog C V ε α) → Prop
  | none => P.Idle i s g
  | some p => Safe S.sem P i p (Leaves S P i) s g

def Cover (S : System ι C V ε α σ) (P : Protocol ι C σ γ) (cfg : Config ι C V ε α σ) (g : γ) : Prop :=
  P.Inv cfg.state g ∧ ∀ i, ThreadOk S P i cfg.state g (cfg.pool i)

omit [DecidableEq ι] in
theorem ThreadOk.rely {i : ι} {s s' : σ} {g g' : γ} {p : Option (Prog C V ε α)}
    (h : ThreadOk S P i s g p) (hr : P.Rely i s g s' g') : ThreadOk S P i s' g' p := by
  cases p with
  | none => exact P.idle_stable hr h
  | some p => exact Safe.rely h hr

/-- A step of thread `i` that keeps the protocol leaves a covered configuration. -/
theorem Cover.put {cfg : Config ι C V ε α σ} {g g' : γ} {i : ι} {p : Option (Prog C V ε α)} {s' : σ}
    (hc : Cover S P cfg g) (hk : P.Keeps i cfg.state g s' g') (hp : ThreadOk S P i s' g' p) :
    Cover S P (cfg.put i p s') g' := by
  refine ⟨hk.1, fun j => ?_⟩
  show ThreadOk S P j s' g' (Function.update cfg.pool i p j)
  by_cases e : j = i
  · subst e; simpa using hp
  · rw [Function.update_of_ne e]; exact (hc.2 j).rely (hk.2 j e)

/-- One step: the ghost value can be chosen so that the protocol is kept. -/
theorem step_cover (hS : Sound S P) {cfg cfg' : Config ι C V ε α σ} (h : Step S cfg cfg') {g : γ}
    (hc : Cover S P cfg g) : ∃ i g', P.Keeps i cfg.state g cfg'.state g' ∧ Cover S P cfg' g' := by
  cases h with
  | @enter i p s' hp he =>
    have hidle : P.Idle i cfg.state g := by have := hc.2 i; rwa [hp] at this
    obtain ⟨g', hk, hs⟩ := hS.enter he hc.1 hidle
    exact ⟨i, g', hk, hc.put hk hs⟩
  | @call i c k r s' hp hs =>
    have hsafe : Safe S.sem P i (.call c k) (Leaves S P i) cfg.state g := by have := hc.2 i; rwa [hp] at this
    obtain ⟨g', hk, hs'⟩ := (hsafe _ _ (P.rely_refl _ _ _) hc.1).2 r s' hs
    exact ⟨i, g', hk, hc.put hk hs'⟩
  | @leave i p o s' hp ho hl =>
    have hsafe : Safe S.sem P i p (Leaves S P i) cfg.state g := by have := hc.2 i; rwa [hp] at this
    have hend : Leaves S P i o cfg.state g := by
      cases p with
      | ret a => cases ho; exact hsafe _ _ (P.rely_refl _ _ _) hc.1
      | raise e => cases ho; exact hsafe _ _ (P.rely_refl _ _ _) hc.1
      | call c k => cases ho
    obtain ⟨g', hk, hi⟩ := hend s' hl
    exact ⟨i, g', hk, hc.put hk hi⟩
  | @crash i p s' hp hx =>
    obtain ⟨g', hk, hi⟩ := hS.crash hx hc.1
    exact ⟨i, g', hk, hc.put hk hi⟩

theorem reach_cover (hS : Sound S P) {s₀ : σ} {g₀ : γ} (h₀ : P.Inv s₀ g₀) (hidle : ∀ i, P.Idle i s₀ g₀)
    {cfg : Config ι C V ε α σ} (h : Reach S s₀ cfg) : ∃ g, Cover S P cfg g := by
  induction h with
  | init => exact ⟨g₀, h₀, hidle⟩
  | step _ hs ih =>
    obtain ⟨g, hc⟩ := ih
    obtain ⟨_, g', _, hc'⟩ := step_cover hS hs hc
    exact ⟨g', hc'⟩

omit [DecidableEq ι] in
/-- A call a thread is about to make in a covered configuration. -/
theorem Cover.obs {cfg : Config ι C V ε α σ} {g : γ} (hc : Cover S P cfg g) {i : ι} {c : C}
    {k : Except ε (V c) → Prog C V ε α} (hp : cfg.pool i = some (.call c k)) : P.Obs i c cfg.state g := by
  have hsafe : Safe S.sem P i (.call c k) (Leaves S P i) cfg.state g := by have := hc.2 i; rwa [hp] at this
  exact (hsafe _ _ (P.rely_refl _ _ _) hc.1).1

/-! ## Schedules -/

inductive Move (ι O X : Type) where
  | enter (i : ι) (o : O)
  | call (i : ι) (x : X)
  | leave (i : ι)
  | crash (i : ι)

def Move.thread {ι O X : Type} : Move ι O X → ι
  | enter i _ | call i _ | leave i | crash i => i

/-- An executable reading of a system: operations `O` to start, and for each call the
    outside's part `X` of its answer. -/
structure Simulator (S : System ι C V ε α σ) (O X : Type) where
  program : O → Prog C V ε α
  start : ι → O → σ → Option σ
  answer : ι → (c : C) → X → σ → Option (Except ε (V c) × σ)
  finish : ι → Except ε α → σ → Option σ
  die : ι → σ → Option σ
  start_sound : ∀ {i o s s'}, start i o s = some s' → S.enter i (program o) s s'
  answer_sound : ∀ {i c x s r s'}, answer i c x s = some (r, s') → S.sem i c s r s'
  finish_sound : ∀ {i o s s'}, finish i o s = some s' → S.leave i o s s'
  die_sound : ∀ {i s s'}, die i s = some s' → S.crash i s s'

namespace Simulator

variable {O X : Type} (sim : Simulator S O X)

def move (cfg : Config ι C V ε α σ) : Move ι O X → Option (Config ι C V ε α σ)
  | .enter i o =>
    match cfg.pool i with
    | none => (sim.start i o cfg.state).map (cfg.put i (some (sim.program o)))
    | some _ => none
  | .call i x =>
    match cfg.pool i with
    | some (.call c k) => (sim.answer i c x cfg.state).map fun r => cfg.put i (some (k r.1)) r.2
    | _ => none
  | .leave i =>
    match cfg.pool i with
    | some (.ret a) => (sim.finish i (.ok a) cfg.state).map (cfg.put i none)
    | some (.raise e) => (sim.finish i (.error e) cfg.state).map (cfg.put i none)
    | _ => none
  | .crash i =>
    match cfg.pool i with
    | some _ => (sim.die i cfg.state).map (cfg.put i none)
    | none => none

def play (cfg : Config ι C V ε α σ) : List (Move ι O X) → Option (Config ι C V ε α σ)
  | [] => some cfg
  | m :: ms => (sim.move cfg m).bind (play · ms)

theorem move_step {cfg cfg' : Config ι C V ε α σ} {m : Move ι O X} (h : sim.move cfg m = some cfg') :
    Step S cfg cfg' := by
  cases m with
  | enter i o =>
    simp only [move] at h
    split at h
    · rename_i hp
      obtain ⟨s', hs, rfl⟩ := Option.map_eq_some_iff.mp h
      exact .enter hp (sim.start_sound hs)
    · cases h
  | call i x =>
    simp only [move] at h
    split at h
    · rename_i c k hp
      obtain ⟨⟨r, s'⟩, hs, rfl⟩ := Option.map_eq_some_iff.mp h
      exact .call hp (sim.answer_sound hs)
    · cases h
  | leave i =>
    simp only [move] at h
    split at h
    · rename_i a hp
      obtain ⟨s', hs, rfl⟩ := Option.map_eq_some_iff.mp h
      exact .leave hp rfl (sim.finish_sound hs)
    · rename_i e hp
      obtain ⟨s', hs, rfl⟩ := Option.map_eq_some_iff.mp h
      exact .leave hp rfl (sim.finish_sound hs)
    · cases h
  | crash i =>
    simp only [move] at h
    split at h
    · rename_i p hp
      obtain ⟨s', hs, rfl⟩ := Option.map_eq_some_iff.mp h
      exact .crash hp (sim.die_sound hs)
    · cases h

theorem play_run {ms : List (Move ι O X)} {cfg cfg' : Config ι C V ε α σ} (h : sim.play cfg ms = some cfg') :
    Relation.ReflTransGen (Step S) cfg cfg' := by
  induction ms generalizing cfg with
  | nil => cases h; exact .refl
  | cons m ms ih =>
    obtain ⟨cfg₁, h₁, h₂⟩ := Option.bind_eq_some_iff.mp h
    exact .head (sim.move_step h₁) (ih h₂)

/-- A schedule that plays from the start reaches a configuration with what is checked of it. -/
theorem play_exists {s₀ : σ} {ms : List (Move ι O X)} {check : Config ι C V ε α σ → Bool}
    (h : (sim.play ⟨s₀, fun _ => none⟩ ms).any check = true) : ∃ cfg, Reach S s₀ cfg ∧ check cfg = true := by
  obtain ⟨cfg, hp, hc⟩ := Option.any_eq_true _ _ |>.mp h
  exact ⟨cfg, Reach.init.run (sim.play_run hp), hc⟩

/-- A thread that makes no move of the schedule stays as it is. -/
theorem play_pool {ms : List (Move ι O X)} {cfg cfg' : Config ι C V ε α σ} (h : sim.play cfg ms = some cfg') {i : ι}
    (hi : ∀ m ∈ ms, m.thread ≠ i) : cfg'.pool i = cfg.pool i := by
  induction ms generalizing cfg with
  | nil => cases h; rfl
  | cons m ms ih =>
    obtain ⟨cfg₁, h₁, h₂⟩ := Option.bind_eq_some_iff.mp h
    rw [ih h₂ fun m' hm' => hi m' (List.mem_cons_of_mem _ hm')]
    have hne := hi m List.mem_cons_self
    have hput : ∀ {j p s}, j ≠ i → (cfg.put j p s).pool i = cfg.pool i := by
      intro j p s hj
      exact Function.update_of_ne (Ne.symm hj) ..
    cases m with
    | enter j o =>
      simp only [move] at h₁
      split at h₁
      · obtain ⟨s', -, rfl⟩ := Option.map_eq_some_iff.mp h₁
        exact hput hne
      · cases h₁
    | call j x =>
      simp only [move] at h₁
      split at h₁
      · obtain ⟨rs, -, rfl⟩ := Option.map_eq_some_iff.mp h₁
        exact hput hne
      · cases h₁
    | leave j =>
      simp only [move] at h₁
      split at h₁
      · obtain ⟨s', -, rfl⟩ := Option.map_eq_some_iff.mp h₁
        exact hput hne
      · obtain ⟨s', -, rfl⟩ := Option.map_eq_some_iff.mp h₁
        exact hput hne
      · cases h₁
    | crash j =>
      simp only [move] at h₁
      split at h₁
      · obtain ⟨s', -, rfl⟩ := Option.map_eq_some_iff.mp h₁
        exact hput hne
      · cases h₁

theorem play_continues {cfg : Config ι C V ε α σ} {ms : List (Move ι O X)} {check : Config ι C V ε α σ → Bool}
    (h : (sim.play cfg ms).any check = true) :
    ∃ cfg', Relation.ReflTransGen (Step S) cfg cfg' ∧ check cfg' = true := by
  obtain ⟨cfg', hp, hc⟩ := Option.any_eq_true _ _ |>.mp h
  exact ⟨cfg', sim.play_run hp, hc⟩

end Simulator

end Interaction
