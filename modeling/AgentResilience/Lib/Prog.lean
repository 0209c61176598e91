/-
  AgentResilience.Lib.Prog — programs that call a service. A program is the tree of the
  calls it makes: it returns a value, raises an exception, or makes one call and
  continues with the answer. Every call may answer with an exception, so a service is
  given by its calls `C` and the type `V c` of the value each call answers with.

  `perform c` makes one call and raises what the call raises. Programs form a monad;
  `attempt p` runs `p` and hands its outcome on, which is how `try … except … finally` is
  written. A program without it is `Direct`.
-/
import Mathlib.Logic.Function.Basic

namespace Interaction

inductive Prog (C : Type) (V : C → Type) (ε α : Type) : Type where
  | ret (a : α)
  | raise (e : ε)
  | call (c : C) (k : Except ε (V c) → Prog C V ε α)

namespace Prog

variable {C : Type} {V : C → Type} {ε α β γ : Type}

def ofExcept : Except ε α → Prog C V ε α
  | .ok a => .ret a
  | .error e => .raise e

def bind : Prog C V ε α → (α → Prog C V ε β) → Prog C V ε β
  | .ret a, f => f a
  | .raise e, _ => .raise e
  | .call c k, f => .call c fun r => bind (k r) f

/-- Run a program and hand its outcome on, an exception included. -/
def attempt : Prog C V ε α → Prog C V ε (Except ε α)
  | .ret a => .ret (.ok a)
  | .raise e => .ret (.error e)
  | .call c k => .call c fun r => attempt (k r)

def perform (c : C) : Prog C V ε (V c) := .call c ofExcept

instance : Monad (Prog C V ε) where
  pure := .ret
  bind := bind

/-- `raise e`. -/
abbrev throw (e : ε) : Prog C V ε α := .raise e

/-- A program's outcome, once it has made all its calls. -/
def outcome? : Prog C V ε α → Option (Except ε α)
  | .ret a => some (.ok a)
  | .raise e => some (.error e)
  | .call _ _ => none

/-- Every call the program may make satisfies `φ`. -/
def Makes (φ : C → Prop) : Prog C V ε α → Prop
  | .ret _ | .raise _ => True
  | .call c k => φ c ∧ ∀ r, Makes φ (k r)

/-- Nothing in the program handles an exception: what a call raises ends it. -/
def Direct : Prog C V ε α → Prop
  | .ret _ | .raise _ => True
  | .call _ k => (∀ e, k (.error e) = .raise e) ∧ ∀ a, Direct (k (.ok a))

@[simp] theorem outcome?_ofExcept (r : Except ε α) : (ofExcept r : Prog C V ε α).outcome? = some r := by
  cases r <;> rfl

@[simp] theorem ofExcept_ok (a : α) : (ofExcept (.ok a) : Prog C V ε α) = ret a := rfl
@[simp] theorem ret_bind (a : α) (f : α → Prog C V ε β) : (ret a).bind f = f a := rfl
@[simp] theorem raise_bind (e : ε) (f : α → Prog C V ε β) : (raise e).bind f = raise e := rfl
@[simp] theorem call_bind (c : C) (k : Except ε (V c) → Prog C V ε α) (f : α → Prog C V ε β) :
    (call c k).bind f = call c fun r => (k r).bind f := rfl
@[simp] theorem pure_def (a : α) : (pure a : Prog C V ε α) = ret a := rfl
@[simp] theorem bind_def (p : Prog C V ε α) (f : α → Prog C V ε β) : p >>= f = p.bind f := rfl

theorem bind_assoc (p : Prog C V ε α) (f : α → Prog C V ε β) (g : β → Prog C V ε γ) :
    (p.bind f).bind g = p.bind fun a => (f a).bind g := by
  induction p with
  | ret a => rfl
  | raise e => rfl
  | call c k ih => exact congrArg (call c) (funext ih)

theorem bind_ret (p : Prog C V ε α) : p.bind ret = p := by
  induction p with
  | ret a => rfl
  | raise e => rfl
  | call c k ih => exact congrArg (call c) (funext ih)

theorem attempt_bind_attempt (p : Prog C V ε α) (f : Except ε α → Prog C V ε β) :
    (p.attempt.bind f).attempt = p.attempt.bind fun o => (f o).attempt := by
  induction p with
  | ret a => rfl
  | raise e => rfl
  | call c k ih => exact congrArg (call c) (funext ih)

theorem direct_bind {p : Prog C V ε α} {f : α → Prog C V ε β} (hp : p.Direct) (hf : ∀ a, (f a).Direct) : (p.bind f).Direct := by
  induction p with
  | ret a => exact hf a
  | raise e => trivial
  | call c k ih => exact ⟨fun e => congrArg (bind · f) (hp.1 e), fun a => ih _ (hp.2 a)⟩

theorem direct_perform (c : C) : (perform c : Prog C V ε (V c)).Direct := ⟨fun _ => rfl, fun _ => trivial⟩

variable {φ : C → Prop}

theorem Makes.mono {ψ : C → Prop} {p : Prog C V ε α} (hp : p.Makes φ) (h : ∀ c, φ c → ψ c) : p.Makes ψ := by
  induction p with
  | ret a => trivial
  | raise e => trivial
  | call c k ih => exact ⟨h c hp.1, fun r => ih r (hp.2 r)⟩

theorem makes_bind {p : Prog C V ε α} {f : α → Prog C V ε β} (hp : p.Makes φ) (hf : ∀ a, (f a).Makes φ) :
    (p.bind f).Makes φ := by
  induction p with
  | ret a => exact hf a
  | raise e => trivial
  | call c k ih => exact ⟨hp.1, fun r => ih r (hp.2 r)⟩

theorem makes_attempt {p : Prog C V ε α} (hp : p.Makes φ) : p.attempt.Makes φ := by
  induction p with
  | ret a => trivial
  | raise e => trivial
  | call c k ih => exact ⟨hp.1, fun r => ih r (hp.2 r)⟩

theorem makes_ofExcept (r : Except ε α) : (ofExcept r : Prog C V ε α).Makes φ := by
  cases r <;> trivial

theorem makes_perform {c : C} (h : φ c) : (perform c : Prog C V ε (V c)).Makes φ := ⟨h, makes_ofExcept⟩

instance : LawfulMonad (Prog C V ε) := .mk' _ bind_ret (fun _ _ => rfl) bind_assoc

end Prog

end Interaction
