/-
  AgentResilience.Lib.Sequential — one program at a time. A service is a relation `sem`:
  `sem c s r s'` when the call `c` made in state `s` may answer `r` and leave `s'`.

  - `Runs sem p s o s'`: `p` run from `s` to its end may have the outcome `o` and leave
    `s'`. `Partial sem p s s'`: `p` run from `s`, stopped at some call boundary (a crash
    there included), may leave `s'`.
  - `wp`: the weakest precondition of a program; `wpc` adds a crash condition, which must
    hold at every call boundary.
  - `wp_bind`, `wp_attempt`, `wpc_bind`, `wpc_seq`, …: the rules follow the shape of the program,
    so that a function's specification is used by its callers and never unfolded.
  - `wp_sound`, `wpc_sound`: what they say of the runs.
  - `runs_bind`, `runs_attempt`, `runs_perform`: a run, taken apart; `Runs.narrow`: the runs
    of a program that handles no exception, under a service that raises more of them.
-/
import AgentResilience.Lib.Prog

namespace Interaction

variable {C : Type} {V : C → Type} {ε α β σ : Type}

/-- The calls of a service, over states `σ`. -/
abbrev Service (C : Type) (V : C → Type) (ε σ : Type) := (c : C) → σ → Except ε (V c) → σ → Prop

variable (sem : Service C V ε σ)

inductive Runs : Prog C V ε α → σ → Except ε α → σ → Prop
  | ret (a : α) (s : σ) : Runs (.ret a) s (.ok a) s
  | raise (e : ε) (s : σ) : Runs (.raise e) s (.error e) s
  | call {c : C} {k : Except ε (V c) → Prog C V ε α} {s s' s'' : σ} {r : Except ε (V c)} {o : Except ε α} :
      sem c s r s' → Runs (k r) s' o s'' → Runs (.call c k) s o s''

inductive Partial : Prog C V ε α → σ → σ → Prop
  | here (p : Prog C V ε α) (s : σ) : Partial p s s
  | call {c : C} {k : Except ε (V c) → Prog C V ε α} {s s' s'' : σ} {r : Except ε (V c)} :
      sem c s r s' → Partial (k r) s' s'' → Partial (.call c k) s s''

/-! ## Weakest preconditions -/

def wp : Prog C V ε α → (Except ε α → σ → Prop) → σ → Prop
  | .ret a, Q, s => Q (.ok a) s
  | .raise e, Q, s => Q (.error e) s
  | .call c k, Q, s => ∀ r s', sem c s r s' → wp (k r) Q s'

/-- `K` holds at every call boundary, the last one included, and `Q` at the end. -/
def wpc (K : σ → Prop) : Prog C V ε α → (Except ε α → σ → Prop) → σ → Prop
  | .ret a, Q, s => K s ∧ Q (.ok a) s
  | .raise e, Q, s => K s ∧ Q (.error e) s
  | .call c k, Q, s => K s ∧ ∀ r s', sem c s r s' → wpc K (k r) Q s'

/-- What a program's continuation must establish from its outcome. -/
def after (f : α → σ → Prop) (Q : Except ε β → σ → Prop) : Except ε α → σ → Prop
  | .ok a, s => f a s
  | .error e, s => Q (.error e) s

variable {sem}

@[simp] theorem wp_ret {a : α} {Q : Except ε α → σ → Prop} {s : σ} :
    wp sem (.ret a) Q s ↔ Q (.ok a) s := Iff.rfl
@[simp] theorem wp_raise {e : ε} {Q : Except ε α → σ → Prop} {s : σ} :
    wp sem (.raise e) Q s ↔ Q (.error e) s := Iff.rfl

theorem wp_mono {p : Prog C V ε α} {Q Q' : Except ε α → σ → Prop} {s : σ} (h : wp sem p Q s)
    (hQ : ∀ o s, Q o s → Q' o s) : wp sem p Q' s := by
  induction p generalizing s with
  | ret a => exact hQ _ _ h
  | raise e => exact hQ _ _ h
  | call c k ih => exact fun r s' hs => ih r (h r s' hs)

theorem wp_bind {p : Prog C V ε α} {f : α → Prog C V ε β} {Q : Except ε β → σ → Prop} {s : σ} :
    wp sem (p.bind f) Q s ↔ wp sem p (after (fun a => wp sem (f a) Q) Q) s := by
  induction p generalizing s with
  | ret a => rfl
  | raise e => rfl
  | call c k ih => exact forall_congr' fun r => forall_congr' fun s' => imp_congr_right fun _ => ih r

/-- A program that does not raise, and what follows it. -/
theorem wp_seq {p : Prog C V ε α} {f : α → Prog C V ε β} {R : α → σ → Prop} {Q : Except ε β → σ → Prop} {s : σ}
    (h : wp sem p (fun o s' => ∃ a, o = .ok a ∧ R a s') s) (hf : ∀ a s', R a s' → wp sem (f a) Q s') :
    wp sem (p.bind f) Q s := by
  refine wp_bind.mpr (wp_mono h fun o s' hq => ?_)
  obtain ⟨a, rfl, hr⟩ := hq
  exact hf a s' hr

/-- A program, and what follows it where it does not raise; `Q` accepts every exception. -/
theorem wp_then {p : Prog C V ε α} {f : α → Prog C V ε β} {R : α → σ → Prop} {Q : Except ε β → σ → Prop} {s : σ}
    (h : wp sem p (fun o s' => ∀ a, o = .ok a → R a s') s) (he : ∀ e s', Q (.error e) s') (hf : ∀ a s', R a s' → wp sem (f a) Q s') :
    wp sem (p.bind f) Q s := by
  refine wp_bind.mpr (wp_mono h fun o s' hq => ?_)
  cases o with
  | ok a => exact hf a s' (hq a rfl)
  | error e => exact he e s'

theorem wp_true (p : Prog C V ε α) (s : σ) : wp sem p (fun _ _ => True) s := by
  induction p generalizing s with
  | ret a => trivial
  | raise e => trivial
  | call c k ih => exact fun r s' _ => ih r s'

theorem wp_perform {c : C} {Q : Except ε (V c) → σ → Prop} {s : σ} :
    wp sem (.perform c) Q s ↔ ∀ r s', sem c s r s' → Q r s' := by
  refine forall_congr' fun r => forall_congr' fun s' => imp_congr_right fun _ => ?_
  cases r <;> rfl

theorem wp_attempt {p : Prog C V ε α} {Q : Except ε (Except ε α) → σ → Prop} {s : σ} :
    wp sem p.attempt Q s ↔ wp sem p (fun o => Q (.ok o)) s := by
  induction p generalizing s with
  | ret a => rfl
  | raise e => rfl
  | call c k ih => exact forall_congr' fun r => forall_congr' fun s' => imp_congr_right fun _ => ih r

theorem wp_and {p : Prog C V ε α} {Q Q' : Except ε α → σ → Prop} {s : σ} (h : wp sem p Q s) (h' : wp sem p Q' s) :
    wp sem p (fun o s' => Q o s' ∧ Q' o s') s := by
  induction p generalizing s with
  | ret a => exact ⟨h, h'⟩
  | raise e => exact ⟨h, h'⟩
  | call c k ih => exact fun r s' hs => ih r (h r s' hs) (h' r s' hs)

/-- What every call of a program keeps holds at its end. -/
theorem wp_keeps {φ : C → Prop} {I : σ → Prop} (hkeep : ∀ c s r s', φ c → sem c s r s' → I s → I s') {p : Prog C V ε α} {s : σ}
    (hp : p.Makes φ) (h : I s) : wp sem p (fun _ s' => I s') s := by
  induction p generalizing s with
  | ret a => exact h
  | raise e => exact h
  | call c k ih =>
    intro r s' hs
    exact ih r (hp.2 r) (hkeep _ _ _ _ hp.1 hs h)

/-- The weakest precondition speaks of every complete run. -/
theorem wp_sound {p : Prog C V ε α} {Q : Except ε α → σ → Prop} {s s' : σ} {o : Except ε α}
    (h : wp sem p Q s) (hr : Runs sem p s o s') : Q o s' := by
  induction hr with
  | ret a s => exact h
  | raise e s => exact h
  | call hs _ ih => exact ih (h _ _ hs)

/-- A service that answers every call runs every program to its end. -/
theorem runs_exists (h : ∀ c s, ∃ r s', sem c s r s') (p : Prog C V ε α) (s : σ) : ∃ o s', Runs sem p s o s' := by
  induction p generalizing s with
  | ret a => exact ⟨_, _, .ret a s⟩
  | raise e => exact ⟨_, _, .raise e s⟩
  | call c k ih =>
    obtain ⟨r, s', hs⟩ := h c s
    obtain ⟨o, s'', hr⟩ := ih r s'
    exact ⟨o, s'', .call hs hr⟩

theorem Runs.mono {sem' : Service C V ε σ} (h : ∀ c s r s', sem c s r s' → sem' c s r s') {p : Prog C V ε α} {s s' : σ}
    {o : Except ε α} (hr : Runs sem p s o s') : Runs sem' p s o s' := by
  induction hr with
  | ret a s => exact .ret a s
  | raise e s => exact .raise e s
  | call hs _ ih => exact .call (h _ _ _ _ hs) ih

theorem Partial.mono {sem' : Service C V ε σ} (h : ∀ c s r s', sem c s r s' → sem' c s r s') {p : Prog C V ε α} {s s' : σ}
    (hr : Partial sem p s s') : Partial sem' p s s' := by
  induction hr with
  | here p s => exact .here p s
  | call hs _ ih => exact .call (h _ _ _ _ hs) ih

theorem Runs.stops {p : Prog C V ε α} {s s' : σ} {o : Except ε α} (hr : Runs sem p s o s') : Partial sem p s s' := by
  induction hr with
  | ret a s => exact .here _ s
  | raise e s => exact .here _ s
  | call hs _ ih => exact .call hs ih

theorem runs_bind {p : Prog C V ε α} {f : α → Prog C V ε β} {s s' : σ} {o : Except ε β} :
    Runs sem (p.bind f) s o s' ↔
      (∃ a s₁, Runs sem p s (.ok a) s₁ ∧ Runs sem (f a) s₁ o s') ∨ ∃ e, o = .error e ∧ Runs sem p s (.error e) s' := by
  constructor
  · intro hr
    induction p generalizing s with
    | ret a => exact .inl ⟨a, s, .ret a s, hr⟩
    | raise e => cases hr; exact .inr ⟨e, rfl, .raise e _⟩
    | call c k ih =>
      cases hr with
      | call hs hr =>
        rcases ih _ hr with ⟨a, s₁, hp, hf⟩ | ⟨e, rfl, hp⟩
        · exact .inl ⟨a, s₁, .call hs hp, hf⟩
        · exact .inr ⟨e, rfl, .call hs hp⟩
  · rintro (⟨a, s₁, hp, hf⟩ | ⟨e, rfl, hp⟩)
    · induction p generalizing s with
      | ret a => cases hp; exact hf
      | raise e => cases hp
      | call c k ih =>
        cases hp with
        | call hs hp => exact .call hs (ih _ hp)
    · induction p generalizing s with
      | ret a => cases hp
      | raise e => cases hp; exact .raise e _
      | call c k ih =>
        cases hp with
        | call hs hp => exact .call hs (ih _ hp)

theorem runs_attempt {p : Prog C V ε α} {s s' : σ} {o : Except ε (Except ε α)} :
    Runs sem p.attempt s o s' ↔ ∃ o', o = .ok o' ∧ Runs sem p s o' s' := by
  constructor
  · intro hr
    induction p generalizing s with
    | ret a => cases hr; exact ⟨_, rfl, .ret a _⟩
    | raise e => cases hr; exact ⟨_, rfl, .raise e _⟩
    | call c k ih =>
      cases hr with
      | call hs hr =>
        obtain ⟨o', rfl, hp⟩ := ih _ hr
        exact ⟨o', rfl, .call hs hp⟩
  · rintro ⟨o', rfl, hr⟩
    induction hr with
    | ret a s => exact .ret _ s
    | raise e s => exact .ret _ s
    | call hs _ ih => exact .call hs ih

theorem runs_perform {c : C} {s s' : σ} {o : Except ε (V c)} : Runs sem (.perform c) s o s' ↔ sem c s o s' := by
  constructor
  · intro hr
    cases hr with
    | @call _ _ _ _ _ r _ hs hr =>
      cases r <;> cases hr <;> exact hs
  · intro hs
    cases o with
    | ok a => exact .call hs (.ret a s')
    | error e => exact .call hs (.raise e s')

/-- A program that handles nothing, and raised none of the errors that a service has over another one, ran under that one. -/
theorem Runs.narrow {sem' : Service C V ε σ} {φ : ε → Prop} (hsem : ∀ c s r s', sem c s r s' → sem' c s r s' ∨ ∃ e, r = .error e ∧ φ e)
    {p : Prog C V ε α} (hp : p.Direct) {s s' : σ} {o : Except ε α} (hr : Runs sem p s o s') (ho : ∀ e, o = .error e → ¬ φ e) :
    Runs sem' p s o s' := by
  induction hr with
  | ret a s => exact .ret a s
  | raise e s => exact .raise e s
  | @call c k s s₁ s₂ r o hs hr ih =>
    rcases hsem _ _ _ _ hs with hs' | ⟨e, rfl, hφ⟩
    · refine .call hs' (ih ?_ ho)
      cases r with
      | ok a => exact hp.2 a
      | error e => rw [hp.1]; trivial
    · rw [hp.1] at hr
      cases hr
      exact absurd hφ (ho e rfl)

/-- What every call of a program keeps holds wherever the program stops. -/
theorem Partial.keeps {φ : C → Prop} {I : σ → Prop} (hkeep : ∀ c s r s', φ c → sem c s r s' → I s → I s')
    {p : Prog C V ε α} {s s' : σ} (hp : p.Makes φ) (h : I s) (hr : Partial sem p s s') : I s' := by
  induction hr with
  | here p s => exact h
  | call hs _ ih => exact ih (hp.2 _) (hkeep _ _ _ _ hp.1 hs h)

/-! ## The crash condition -/

variable {K : σ → Prop}

theorem wpc_here {p : Prog C V ε α} {Q : Except ε α → σ → Prop} {s : σ} (h : wpc sem K p Q s) : K s := by
  cases p <;> exact h.1

theorem wpc_mono {p : Prog C V ε α} {Q Q' : Except ε α → σ → Prop} {s : σ} (h : wpc sem K p Q s)
    (hQ : ∀ o s, K s → Q o s → Q' o s) : wpc sem K p Q' s := by
  induction p generalizing s with
  | ret a => exact ⟨h.1, hQ _ _ h.1 h.2⟩
  | raise e => exact ⟨h.1, hQ _ _ h.1 h.2⟩
  | call c k ih => exact ⟨h.1, fun r s' hs => ih r (h.2 r s' hs)⟩

theorem wpc_weaken {K' : σ → Prop} {p : Prog C V ε α} {Q : Except ε α → σ → Prop} {s : σ} (h : wpc sem K p Q s)
    (hK : ∀ s, K s → K' s) : wpc sem K' p Q s := by
  induction p generalizing s with
  | ret a => exact ⟨hK s h.1, h.2⟩
  | raise e => exact ⟨hK s h.1, h.2⟩
  | call c k ih => exact ⟨hK s h.1, fun r s' hs => ih r (h.2 r s' hs)⟩

theorem wpc_and {K' : σ → Prop} {p : Prog C V ε α} {Q Q' : Except ε α → σ → Prop} {s : σ} (h : wpc sem K p Q s)
    (h' : wpc sem K' p Q' s) : wpc sem (fun s' => K s' ∧ K' s') p (fun o s' => Q o s' ∧ Q' o s') s := by
  induction p generalizing s with
  | ret a => exact ⟨⟨h.1, h'.1⟩, h.2, h'.2⟩
  | raise e => exact ⟨⟨h.1, h'.1⟩, h.2, h'.2⟩
  | call c k ih => exact ⟨⟨h.1, h'.1⟩, fun r s' hs => ih r (h.2 r s' hs) (h'.2 r s' hs)⟩

theorem wpc_bind {p : Prog C V ε α} {f : α → Prog C V ε β} {Q : Except ε β → σ → Prop} {s : σ}
    (h : wpc sem K p (after (fun a => wpc sem K (f a) Q) Q) s) : wpc sem K (p.bind f) Q s := by
  induction p generalizing s with
  | ret a => exact h.2
  | raise e => exact h
  | call c k ih => exact ⟨h.1, fun r s' hs => ih r (h.2 r s' hs)⟩

/-- A program that does not raise, and what follows it. -/
theorem wpc_seq {p : Prog C V ε α} {f : α → Prog C V ε β} {R : α → σ → Prop} {Q : Except ε β → σ → Prop} {s : σ}
    (h : wpc sem K p (fun o s' => ∃ a, o = .ok a ∧ R a s') s) (hf : ∀ a s', R a s' → wpc sem K (f a) Q s') :
    wpc sem K (p.bind f) Q s := by
  refine wpc_bind (wpc_mono h fun o s' _ hq => ?_)
  obtain ⟨a, rfl, hr⟩ := hq
  exact hf a s' hr

theorem wpc_perform {c : C} {Q : Except ε (V c) → σ → Prop} {s : σ} (hK : K s)
    (h : ∀ r s', sem c s r s' → K s' ∧ Q r s') : wpc sem K (.perform c) Q s :=
  ⟨hK, fun r s' hs => by cases r <;> exact h _ s' hs⟩

theorem wpc_attempt {p : Prog C V ε α} {Q : Except ε (Except ε α) → σ → Prop} {s : σ}
    (h : wpc sem K p (fun o => Q (.ok o)) s) : wpc sem K p.attempt Q s := by
  induction p generalizing s with
  | ret a => exact h
  | raise e => exact h
  | call c k ih => exact ⟨h.1, fun r s' hs => ih r (h.2 r s' hs)⟩

/-- What every call of a program keeps, and the crash condition follows from. -/
theorem wpc_keeps {φ : C → Prop} {I : σ → Prop} (hkeep : ∀ c s r s', φ c → sem c s r s' → I s → I s') {p : Prog C V ε α} {s : σ}
    (hp : p.Makes φ) (hK : ∀ s', I s' → K s') (h : I s) : wpc sem K p (fun _ s' => I s') s := by
  induction p generalizing s with
  | ret a => exact ⟨hK s h, h⟩
  | raise e => exact ⟨hK s h, h⟩
  | call c k ih =>
    refine ⟨hK s h, fun r s' hs => ?_⟩
    exact ih r (hp.2 r) (hkeep _ _ _ _ hp.1 hs h)

/-- A program stopped at any call boundary leaves the crash condition. -/
theorem wpc_crash {p : Prog C V ε α} {Q : Except ε α → σ → Prop} {s s' : σ}
    (h : wpc sem K p Q s) (hr : Partial sem p s s') : K s' := by
  induction hr with
  | here p s => exact wpc_here h
  | call hs _ ih => exact ih (h.2 _ _ hs)

theorem wpc_wp {p : Prog C V ε α} {Q : Except ε α → σ → Prop} {s : σ} (h : wpc sem K p Q s) : wp sem p Q s := by
  induction p generalizing s with
  | ret a => exact h.2
  | raise e => exact h.2
  | call c k ih => exact fun r s' hs => ih r (h.2 r s' hs)

theorem wpc_runs {p : Prog C V ε α} {Q : Except ε α → σ → Prop} {s s' : σ} {o : Except ε α}
    (h : wpc sem K p Q s) (hr : Runs sem p s o s') : Q o s' := by
  induction hr with
  | ret a s => exact h.2
  | raise e s => exact h.2
  | call hs _ ih => exact ih (h.2 _ _ hs)

end Interaction
