/-
  AgentResilience.Lib.Versioned — a register of versioned values under optimistic
  concurrency. Clients work on copies, and a copy remembers the value it was taken from. A
  write of a copy goes in only while the register's version is the copy's, and makes it
  one greater; an update reads and writes at once.

  - `reach_chain`: every value but the first was computed from the one written just before
    it, and its version is the next.
-/
import Mathlib.Logic.Function.Basic
import Mathlib.Logic.Relation

namespace Versioned

variable {O S : Type} [DecidableEq O]

/-- A client's value, and the register's value it was computed from. -/
structure Draft (S : Type) where
  origin : S
  value : S

/-- The writes, newest first, each beside the value it was computed from, and the drafts. -/
structure Register (O S : Type) where
  writes : List (Option S × S) := []
  drafts : O → Option (Draft S) := fun _ => none

namespace Register

def value (r : Register O S) : Option S := r.writes.head?.map (·.2)

def put (r : Register O S) (o : O) (d : Option (Draft S)) : Register O S :=
  { r with drafts := Function.update r.drafts o d }

/-- A value goes in, and the client's draft is a copy of it. -/
def push (r : Register O S) (o : O) (base : Option S) (x : S) : Register O S :=
  { r with writes := (base, x) :: r.writes }.put o (some ⟨x, x⟩)

end Register

variable (version : S → Nat)

inductive Step : Register O S → Register O S → Prop
  | create (r : Register O S) (o : O) (x : S) : r.writes = [] → Step r (r.push o none x)
  | read (r : Register O S) (o : O) (x : S) : r.value = some x → Step r (r.put o (some ⟨x, x⟩))
  | forget (r : Register O S) (o : O) : Step r (r.put o none)
  | modify (r : Register O S) (o : O) (d : Draft S) (x : S) : r.drafts o = some d → version x = version d.value →
      Step r (r.put o (some ⟨d.origin, x⟩))
  | write (r : Register O S) (o : O) (d : Draft S) (x y : S) : r.drafts o = some d → r.value = some x →
      version x = version d.value → version y = version d.value + 1 → Step r (r.push o (some d.origin) y)
  | update (r : Register O S) (o : O) (x y : S) : r.value = some x → version y = version x + 1 → Step r (r.push o (some x) y)

/-- Each value was computed from the one before it, under the next version. -/
inductive Chain : List (Option S × S) → Prop
  | empty : Chain []
  | first (x : S) : Chain [(none, x)]
  | next {base : Option S} {x : S} {writes : List (Option S × S)} (y : S) : Chain ((base, x) :: writes) →
      version y = version x + 1 → Chain ((some x, y) :: (base, x) :: writes)

/-- A draft has the version of its origin, which is the register's value or an older one. -/
structure Fresh (r : Register O S) : Prop where
  chain : Chain version r.writes
  draft : ∀ o d, r.drafts o = some d → version d.value = version d.origin ∧
    ∃ x, r.value = some x ∧ version d.origin ≤ version x ∧ (version d.origin = version x → d.origin = x)

variable {version} {r r' : Register O S}

omit [DecidableEq O] in
theorem Register.value_some {x : S} (h : r.value = some x) : ∃ base ws, r.writes = (base, x) :: ws := by
  unfold Register.value at h
  cases hw : r.writes with
  | nil => rw [hw] at h; cases h
  | cons w ws =>
    rw [hw] at h
    cases h
    exact ⟨w.1, ws, rfl⟩

theorem Fresh.put (h : Fresh version r) {o : O} {d : Option (Draft S)}
    (hd : ∀ d', d = some d' → version d'.value = version d'.origin ∧
      ∃ x, r.value = some x ∧ version d'.origin ≤ version x ∧ (version d'.origin = version x → d'.origin = x)) :
    Fresh version (r.put o d) := by
  refine ⟨h.chain, fun o' d' ho => ?_⟩
  unfold Register.put at ho
  simp only [Function.update_apply] at ho
  split at ho
  · exact hd d' ho
  · exact h.draft o' d' ho

/-- After a value of a greater version, the drafts are those of older ones, but for the writer's. -/
theorem Fresh.push (h : Fresh version r) {o : O} {base : Option S} {y : S} (hc : Chain version ((base, y) :: r.writes))
    (hv : ∀ x, r.value = some x → version x < version y) : Fresh version (r.push o base y) := by
  refine ⟨hc, fun o' d' ho => ?_⟩
  unfold Register.push Register.put at ho
  simp only [Function.update_apply] at ho
  split at ho
  · cases ho
    exact ⟨rfl, y, rfl, Nat.le_refl _, fun _ => rfl⟩
  · obtain ⟨hd, x, hx, hle, -⟩ := h.draft o' d' ho
    have hlt := hv x hx
    exact ⟨hd, y, rfl, by omega, fun e => by omega⟩

theorem Step.fresh (hs : Step version r r') (h : Fresh version r) : Fresh version r' := by
  cases hs with
  | create o x hw =>
    refine h.push (by rw [hw]; exact .first x) fun x' hx => ?_
    obtain ⟨base, ws, hw'⟩ := Register.value_some hx
    rw [hw] at hw'; cases hw'
  | read o x hx =>
    refine h.put fun d hd => ?_
    cases hd
    exact ⟨rfl, x, hx, Nat.le_refl _, fun _ => rfl⟩
  | forget o => exact h.put fun _ e => by cases e
  | modify o d x hd hv =>
    refine h.put fun d' e => ?_
    cases e
    obtain ⟨hdv, hrest⟩ := h.draft o d hd
    exact ⟨hv.trans hdv, hrest⟩
  | write o d x y hd hx hxv hyv =>
    obtain ⟨hdv, x', hx', -, heq⟩ := h.draft o d hd
    rw [hx] at hx'; cases hx'
    -- the register still has the version of the draft's origin, and so the origin itself
    have ho : d.origin = x := heq (hdv.symm.trans hxv.symm)
    obtain ⟨base, ws, hw⟩ := Register.value_some hx
    have hc := h.chain
    rw [hw] at hc
    refine h.push (by rw [hw, ho]; exact .next y hc (by omega)) fun x' hx' => ?_
    rw [hx] at hx'; cases hx'
    omega
  | update o x y hx hv =>
    obtain ⟨base, ws, hw⟩ := Register.value_some hx
    have hc := h.chain
    rw [hw] at hc
    refine h.push (by rw [hw]; exact .next y hc hv) fun x' hx' => ?_
    rw [hx] at hx'; cases hx'
    omega

/-- From the empty register on, the writes form a chain. -/
theorem reach_chain (h : Relation.ReflTransGen (Step version) ({} : Register O S) r) : Chain version r.writes := by
  suffices hf : Fresh version r from hf.chain
  induction h with
  | refl => exact ⟨.empty, fun o d h => by cases h⟩
  | tail _ hs ih => exact hs.fresh ih

end Versioned
