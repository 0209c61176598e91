/-
  AgentResilience.Lib.Script — an automaton a program follows. A `Script` says how a call
  and its answer move a thread's position, which calls the thread may make there, and which
  answers a call can have. `Follows A p Q q`: from position `q` the program `p` makes only
  calls it may make, and ends in `Q`. Nothing of the other threads is in it: a position is
  what a thread knows from its own calls.

  - `Follows.bind`, `Follows.attempt`, `Follows.perform`, `Follows.fixed`: the rules, by the shape of the program.
  - `Follows.wpc`: an invariant of the position and the state, in a program run alone.
  - `reach_follows`: a system whose state shows every thread's position, and whose programs
    follow the script from the start, has every program in flight follow it from there on,
    to the end they establish. `reach_keeps`: beside an invariant of the state.
-/
import AgentResilience.Lib.Concurrent

namespace Interaction

variable {ι C : Type} {V : C → Type} {ε α β σ Pos : Type}

structure Script (C : Type) (V : C → Type) (ε Pos : Type) where
  next : Pos → (c : C) → Except ε (V c) → Pos
  may : Pos → C → Prop
  answers : (c : C) → Except ε (V c) → Prop

def Follows (A : Script C V ε Pos) : Prog C V ε α → (Except ε α → Pos → Prop) → Pos → Prop
  | .ret a, Q, q => Q (.ok a) q
  | .raise e, Q, q => Q (.error e) q
  | .call c k, Q, q => A.may q c ∧ ∀ r, A.answers c r → Follows A (k r) Q (A.next q c r)

namespace Follows

variable {A : Script C V ε Pos} {q : Pos}

theorem mono {p : Prog C V ε α} {Q Q' : Except ε α → Pos → Prop} (h : Follows A p Q q) (hQ : ∀ o q', Q o q' → Q' o q') :
    Follows A p Q' q := by
  induction p generalizing q with
  | ret a => exact hQ _ _ h
  | raise e => exact hQ _ _ h
  | call c k ih => exact ⟨h.1, fun r hr => ih r (h.2 r hr)⟩

theorem bind {p : Prog C V ε α} {f : α → Prog C V ε β} {R : Except ε α → Pos → Prop} {Q : Except ε β → Pos → Prop}
    (hp : Follows A p R q) (hf : ∀ a q', R (.ok a) q' → Follows A (f a) Q q') (he : ∀ e q', R (.error e) q' → Q (.error e) q') :
    Follows A (p.bind f) Q q := by
  induction p generalizing q with
  | ret a => exact hf a q hp
  | raise e => exact he e q hp
  | call c k ih => exact ⟨hp.1, fun r hr => ih r (hp.2 r hr)⟩

/-- What follows a `try`. -/
theorem attempt {p : Prog C V ε α} {f : Except ε α → Prog C V ε β} {R : Except ε α → Pos → Prop}
    {Q : Except ε β → Pos → Prop} (hp : Follows A p R q) (hf : ∀ o q', R o q' → Follows A (f o) Q q') :
    Follows A (p.attempt.bind f) Q q := by
  induction p generalizing q with
  | ret a => exact hf _ q hp
  | raise e => exact hf _ q hp
  | call c k ih => exact ⟨hp.1, fun r hr => ih r (hp.2 r hr)⟩

theorem perform {c : C} {Q : Except ε (V c) → Pos → Prop} (hc : A.may q c) (hQ : ∀ r, A.answers c r → Q r (A.next q c r)) :
    Follows A (.perform c) Q q := by
  refine ⟨hc, fun r hr => ?_⟩
  cases r with
  | ok a => exact hQ _ hr
  | error e => exact hQ _ hr

theorem ofExcept {x : Except ε α} {f : α → Prog C V ε β} {Q : Except ε β → Pos → Prop}
    (hf : ∀ a, x = .ok a → Follows A (f a) Q q) (he : ∀ e, x = .error e → Q (.error e) q) :
    Follows A ((Prog.ofExcept x).bind f) Q q := by
  cases x with
  | ok a => exact hf a rfl
  | error e => exact he e rfl

/-- A program of calls that may be made here and leave the position alone. -/
theorem fixed {φ : C → Prop} {p : Prog C V ε α} (h : p.Makes φ) (hφ : ∀ c, φ c → A.may q c ∧ ∀ r, A.next q c r = q) :
    Follows A p (fun _ q' => q' = q) q := by
  induction p with
  | ret a => rfl
  | raise e => rfl
  | call c k ih =>
    refine ⟨(hφ c h.1).1, fun r _ => ?_⟩
    rw [(hφ c h.1).2 r]
    exact ih r (h.2 r)

/-- The same, for calls that may be made anywhere. -/
theorem still {p : Prog C V ε α} (h : p.Makes fun c => ∀ q, A.may q c ∧ ∀ r, A.next q c r = q) :
    Follows A p (fun _ q' => q' = q) q :=
  fixed h fun _ hc => hc q

/-- A program run alone: what its calls keep of the state, beside the position, holds at every
    call boundary. -/
theorem wpc {sem : Service C V ε σ} {I : Pos → σ → Prop} {K : σ → Prop}
    (hcall : ∀ q c s r s', A.may q c → sem c s r s' → I q s → A.answers c r ∧ I (A.next q c r) s') (hK : ∀ q s, I q s → K s)
    {p : Prog C V ε α} {Q : Except ε α → Pos → Prop} {s : σ} (h : Follows A p Q q) (hI : I q s) :
    Interaction.wpc sem K p (fun o s' => ∃ q', Q o q' ∧ I q' s') s := by
  induction p generalizing q s with
  | ret a => exact ⟨hK q s hI, q, h, hI⟩
  | raise e => exact ⟨hK q s hI, q, h, hI⟩
  | call c k ih =>
    refine ⟨hK q s hI, fun r s' hs => ?_⟩
    obtain ⟨ha, hI'⟩ := hcall q c s r s' h.1 hs hI
    exact ih r (h.2 r ha) hI'

end Follows

/-- An invariant of the state beside the positions: what a thread may call keeps it, and it answers as the script says. -/
theorem reach_keeps [DecidableEq ι] {S : System ι C V ε α σ} {s₀ : σ} {A : Script C V ε Pos} {Q : Except ε α → Pos → Prop}
    (pos : ι → σ → Pos) (I : σ → Prop) (hinit : I s₀)
    (henter : ∀ {i p s s'}, S.enter i p s s' → I s → I s' ∧ Follows A p Q (pos i s') ∧ ∀ j, j ≠ i → pos j s' = pos j s)
    (hcall : ∀ {cfg i c r s'}, Reach S s₀ cfg → I cfg.state → A.may (pos i cfg.state) c → S.sem i c cfg.state r s' →
      I s' ∧ A.answers c r ∧ pos i s' = A.next (pos i cfg.state) c r ∧ ∀ j, j ≠ i → pos j s' = pos j cfg.state)
    (hleave : ∀ {i o s s'}, S.leave i o s s' → I s → I s' ∧ ∀ j, j ≠ i → pos j s' = pos j s)
    (hcrash : ∀ {i s s'}, S.crash i s s' → I s → I s' ∧ ∀ j, j ≠ i → pos j s' = pos j s)
    {cfg : Config ι C V ε α σ} (h : Reach S s₀ cfg) :
    I cfg.state ∧ ∀ i p, cfg.pool i = some p → Follows A p Q (pos i cfg.state) := by
  induction h with
  | init => exact ⟨hinit, fun _ _ hp => by cases hp⟩
  | @step cfg _ hr hs ih =>
    obtain ⟨hI, ih⟩ := ih
    -- thread `j` moved
    have hmoved : ∀ {j : ι} {x : Option (Prog C V ε α)} {s' : σ}, (∀ p, x = some p → Follows A p Q (pos j s')) →
        (∀ k, k ≠ j → pos k s' = pos k cfg.state) → ∀ i p, (cfg.put j x s').pool i = some p → Follows A p Q (pos i s') := by
      intro j x s' hj hk i p hp
      have hp : Function.update cfg.pool j x i = some p := hp
      by_cases hij : i = j
      · subst hij
        rw [Function.update_self] at hp
        exact hj p hp
      · rw [Function.update_of_ne hij] at hp
        rw [hk i hij]
        exact ih i p hp
    cases hs with
    | @enter j p' s' hn he =>
      obtain ⟨hI', hf, hk⟩ := henter he hI
      exact ⟨hI', hmoved (fun p e => by cases e; exact hf) hk⟩
    | @call j c k r s' hn he =>
      have hf := ih j _ hn
      obtain ⟨hI', ha, hnext, hk⟩ := hcall hr hI hf.1 he
      refine ⟨hI', hmoved (fun p e => ?_) hk⟩
      cases e
      show Follows A _ _ (pos j s')
      rw [hnext]
      exact hf.2 r ha
    | @leave j p' o s' hn ho he =>
      obtain ⟨hI', hk⟩ := hleave he hI
      exact ⟨hI', hmoved (fun p e => by cases e) hk⟩
    | @crash j p' s' hn he =>
      obtain ⟨hI', hk⟩ := hcrash he hI
      exact ⟨hI', hmoved (fun p e => by cases e) hk⟩

/-- Every program in flight follows the script from its thread's position. -/
theorem reach_follows [DecidableEq ι] {S : System ι C V ε α σ} {s₀ : σ} {A : Script C V ε Pos} {Q : Except ε α → Pos → Prop}
    (pos : ι → σ → Pos)
    (henter : ∀ {i p s s'}, S.enter i p s s' → Follows A p Q (pos i s') ∧ ∀ j, j ≠ i → pos j s' = pos j s)
    (hcall : ∀ {cfg i c r s'}, Reach S s₀ cfg → S.sem i c cfg.state r s' →
      A.answers c r ∧ pos i s' = A.next (pos i cfg.state) c r ∧ ∀ j, j ≠ i → pos j s' = pos j cfg.state)
    (hleave : ∀ {i o s s'}, S.leave i o s s' → ∀ j, j ≠ i → pos j s' = pos j s)
    (hcrash : ∀ {i s s'}, S.crash i s s' → ∀ j, j ≠ i → pos j s' = pos j s)
    {cfg : Config ι C V ε α σ} (h : Reach S s₀ cfg) {i : ι} {p : Prog C V ε α} (hp : cfg.pool i = some p) :
    Follows A p Q (pos i cfg.state) := by
  refine (reach_keeps pos (fun _ => True) trivial (fun he _ => ⟨trivial, henter he⟩) (fun hr _ _ he => ⟨trivial, hcall hr he⟩)
    (fun he _ => ⟨trivial, hleave he⟩) (fun he _ => ⟨trivial, hcrash he⟩) h).2 i p hp

end Interaction
