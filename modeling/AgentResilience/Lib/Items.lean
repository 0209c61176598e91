/-
  AgentResilience.Lib.Items — an item store with conditional writes: every write names one
  key, looks at what is stored there, and either takes effect or leaves the store as it is.
  `put` replaces the whole item, `update` computes the new one from the old.
-/
import Mathlib.Data.Option.Basic

abbrev Items (κ ι : Type) := κ → Option ι

namespace Items

variable {κ ι : Type}

def empty : Items κ ι := fun _ => none

@[simp] theorem empty_apply (k : κ) : (empty : Items κ ι) k = none := rfl

variable [DecidableEq κ]

/-- `none` if the condition does not hold of what is stored. -/
def put (t : Items κ ι) (k : κ) (item : ι) (condition : Option ι → Bool) : Option (Items κ ι) :=
  if condition (t k) then some fun k' => if k' = k then some item else t k' else none

def update (t : Items κ ι) (k : κ) (f : Option ι → ι) (condition : Option ι → Bool) : Option (Items κ ι) :=
  t.put k (f (t k)) condition

variable {t t' : Items κ ι} {k : κ} {item : ι} {f : Option ι → ι} {condition : Option ι → Bool}

theorem put_none : t.put k item condition = none ↔ condition (t k) = false := by
  simp [put]

theorem put_some (h : t.put k item condition = some t') :
    condition (t k) = true ∧ ∀ k', t' k' = if k' = k then some item else t k' := by
  unfold put at h
  split at h
  · rename_i hc
    cases h
    exact ⟨hc, fun _ => rfl⟩
  · cases h

theorem update_none : t.update k f condition = none ↔ condition (t k) = false := put_none

theorem update_some (h : t.update k f condition = some t') :
    condition (t k) = true ∧ ∀ k', t' k' = if k' = k then some (f (t k)) else t k' := put_some h

end Items
