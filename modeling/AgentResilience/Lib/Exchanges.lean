/-
  AgentResilience.Lib.Exchanges — one program's calls on a service that others use as well.
  An `Exchange` is a call with its answer and the states right before and after it; between
  two exchanges the others may have done anything. A `Trace` is the exchanges of a program
  from its start: to its end, or cut off at any call boundary.

  - `Trace.perform_bind`: the trace of a call and what follows it, by how the call went.
-/
import AgentResilience.Lib.Sequential

namespace Interaction

structure Exchange (C : Type) (V : C → Type) (ε σ : Type) where
  call : C
  answer : Except ε (V call)
  before : σ
  after : σ

variable {C : Type} {V : C → Type} {ε α β σ : Type} (sem : Service C V ε σ)

/-- The exchanges of a program, and its outcome unless it was cut off. -/
inductive Trace : Prog C V ε α → List (Exchange C V ε σ) → Option (Except ε α) → Prop
  | cut (p : Prog C V ε α) : Trace p [] none
  | ret (a : α) : Trace (.ret a) [] (some (.ok a))
  | raise (e : ε) : Trace (.raise e) [] (some (.error e))
  | call {c : C} {k : Except ε (V c) → Prog C V ε α} {r : Except ε (V c)} {s s' : σ} {xs : List (Exchange C V ε σ)}
      {o : Option (Except ε α)} : sem c s r s' → Trace (k r) xs o → Trace (.call c k) (⟨c, r, s, s'⟩ :: xs) o

variable {sem}

theorem Trace.ret_cases {a : α} {xs : List (Exchange C V ε σ)} {o : Option (Except ε α)} (h : Trace sem (.ret a) xs o) :
    xs = [] ∧ (o = none ∨ o = some (.ok a)) := by
  cases h with
  | cut => exact ⟨rfl, .inl rfl⟩
  | ret => exact ⟨rfl, .inr rfl⟩

theorem Trace.raise_cases {e : ε} {xs : List (Exchange C V ε σ)} {o : Option (Except ε α)} (h : Trace sem (.raise e) xs o) :
    xs = [] ∧ ∀ a, o ≠ some (.ok a) := by
  cases h with
  | cut => exact ⟨rfl, fun _ h => by cases h⟩
  | raise => exact ⟨rfl, fun _ h => by cases h⟩

/-- A call and what follows it: cut off before it, ended by its exception, or gone on. -/
theorem Trace.perform_bind {c : C} {f : V c → Prog C V ε β} {xs : List (Exchange C V ε σ)} {o : Option (Except ε β)}
    (h : Trace sem ((Prog.perform c).bind f) xs o) :
    (xs = [] ∧ o = none) ∨
    (∃ e s s', sem c s (.error e) s' ∧ xs = [⟨c, .error e, s, s'⟩] ∧ ∀ b, o ≠ some (.ok b)) ∨
    ∃ a s s' ys, sem c s (.ok a) s' ∧ xs = ⟨c, .ok a, s, s'⟩ :: ys ∧ Trace sem (f a) ys o := by
  cases h with
  | cut => exact .inl ⟨rfl, rfl⟩
  | @call _ _ r s s' ys _ hs ht =>
    cases r with
    | error e =>
      obtain ⟨rfl, ho⟩ := Trace.raise_cases ht
      exact .inr (.inl ⟨e, s, s', hs, rfl, ho⟩)
    | ok a => exact .inr (.inr ⟨a, s, s', ys, hs, rfl, ht⟩)

end Interaction
