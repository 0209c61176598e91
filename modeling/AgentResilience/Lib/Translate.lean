/-
  AgentResilience.Lib.Translate — one service implemented over another. An implementation
  gives for every call of the upper service a program over the lower one; `translate` replaces
  each call of a program by it.

  `Follows.translate`: a program that follows a script above follows one below, if each
  call's implementation does, from positions that are related to positions that are. What the
  implementation raises is an answer of the upper call.
-/
import AgentResilience.Lib.Script

namespace Interaction

variable {C C' : Type} {V : C → Type} {V' : C' → Type} {ε α β Pos Pos' : Type}

namespace Prog

def translate (impl : (c : C) → Prog C' V' ε (V c)) : Prog C V ε α → Prog C' V' ε α
  | .ret a => .ret a
  | .raise e => .raise e
  | .call c k => (impl c).attempt.bind fun r => translate impl (k r)

/-- Each call replaced by one call, and its answer read. -/
def rename (f : C → C') (read : (c : C) → V' (f c) → V c) : Prog C V ε α → Prog C' V' ε α
  | .ret a => .ret a
  | .raise e => .raise e
  | .call c k => .call (f c) fun r => rename f read (k (r.map (read c)))

variable {impl : (c : C) → Prog C' V' ε (V c)}

theorem makes_translate {φ : C' → Prop} (h : ∀ c, (impl c).Makes φ) (p : Prog C V ε α) : (p.translate impl).Makes φ := by
  induction p with
  | ret a => trivial
  | raise e => trivial
  | call c k ih => exact makes_bind (makes_attempt (h c)) ih

theorem makes_rename {f : C → C'} {read : (c : C) → V' (f c) → V c} {φ : C → Prop} {ψ : C' → Prop} (h : ∀ c, φ c → ψ (f c))
    {p : Prog C V ε α} (hp : p.Makes φ) : (p.rename f read).Makes ψ := by
  induction p with
  | ret a => trivial
  | raise e => trivial
  | call c k ih => exact ⟨h c hp.1, fun r => ih _ (hp.2 _)⟩

end Prog

theorem Follows.translate {A : Script C V ε Pos} {B : Script C' V' ε Pos'} {J : Pos → Pos' → Prop} {impl : (c : C) → Prog C' V' ε (V c)}
    (himpl : ∀ q q' c, A.may q c → J q q' → Follows B (impl c) (fun r q'' => A.answers c r ∧ J (A.next q c r) q'') q')
    {p : Prog C V ε α} {Q : Except ε α → Pos → Prop} {q : Pos} {q' : Pos'} (hp : Follows A p Q q) (hJ : J q q') :
    Follows B (p.translate impl) (fun x q'' => ∃ q₁, Q x q₁ ∧ J q₁ q'') q' := by
  induction p generalizing q q' with
  | ret a => exact ⟨q, hp, hJ⟩
  | raise e => exact ⟨q, hp, hJ⟩
  | call c k ih =>
    refine (himpl q q' c hp.1 hJ).attempt fun r q'' hr => ?_
    exact ih r (hp.2 r hr.1) hr.2

theorem Follows.rename {A : Script C V ε Pos} {B : Script C' V' ε Pos} {f : C → C'} {read : (c : C) → V' (f c) → V c}
    (hf : ∀ q c, A.may q c → B.may q (f c) ∧ ∀ r, B.answers (f c) r → A.answers c (r.map (read c)) ∧
      B.next q (f c) r = A.next q c (r.map (read c)))
    {p : Prog C V ε α} {Q : Except ε α → Pos → Prop} {q : Pos} (hp : Follows A p Q q) : Follows B (p.rename f read) Q q := by
  induction p generalizing q with
  | ret a => exact hp
  | raise e => exact hp
  | call c k ih =>
    refine ⟨(hf q c hp.1).1, fun r hr => ?_⟩
    obtain ⟨ha, hnext⟩ := (hf q c hp.1).2 r hr
    rw [hnext]
    exact ih _ (hp.2 _ ha)

end Interaction
