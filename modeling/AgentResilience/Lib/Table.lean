/-
  AgentResilience.Lib.Table — a table with a primary key: rows in insertion order, no two
  with one key. `update` is `UPDATE … WHERE`, `rowcount` the number of rows it hits,
  `insert` an `INSERT` that fails on a key already there, `insertOrIgnore` one that then
  does nothing. Every lemma is about `get`, the row of a key; `mem_iff_get` says the rows
  are exactly those.
-/
import Mathlib.Data.List.Nodup

structure Table (κ ρ : Type) (key : ρ → κ) where
  rows : List ρ
  nodup : (rows.map key).Nodup

namespace Table

variable {κ ρ : Type} {key : ρ → κ}

def empty : Table κ ρ key := ⟨[], List.nodup_nil⟩

def update (t : Table κ ρ key) (p : ρ → Bool) (f : ρ → ρ) (hf : ∀ r, key (f r) = key r) : Table κ ρ key where
  rows := t.rows.map fun r => if p r then f r else r
  nodup := by
    rw [List.map_map]
    have h : (key ∘ fun r => if p r then f r else r) = key := by
      funext r; by_cases e : p r = true <;> simp [e, hf]
    rw [h]; exact t.nodup

def rowcount (t : Table κ ρ key) (p : ρ → Bool) : Nat := t.rows.countP p

variable [DecidableEq κ]

def get (t : Table κ ρ key) (k : κ) : Option ρ := t.rows.find? fun r => decide (key r = k)

def insert (t : Table κ ρ key) (r : ρ) : Option (Table κ ρ key) :=
  if h : key r ∈ t.rows.map key then none
  else some
    { rows := t.rows ++ [r]
      nodup := by
        rw [List.map_append]
        exact List.nodup_append.mpr ⟨t.nodup, List.nodup_singleton _, fun a ha b hb e => by
          simp only [List.map_cons, List.map_nil, List.mem_singleton] at hb
          exact h (hb ▸ e ▸ ha)⟩ }

def insertOrIgnore (t : Table κ ρ key) (r : ρ) : Table κ ρ key := (t.insert r).getD t

def delete (t : Table κ ρ key) (k : κ) : Table κ ρ key where
  rows := t.rows.filter fun r => decide (key r ≠ k)
  nodup := t.nodup.sublist (List.filter_sublist.map key)

/-! ## Rows and keys -/

theorem get_key {t : Table κ ρ key} {k : κ} {r : ρ} (h : t.get k = some r) : key r = k := by
  simpa using List.find?_some h

theorem get_mem {t : Table κ ρ key} {k : κ} {r : ρ} (h : t.get k = some r) : r ∈ t.rows :=
  List.mem_of_find?_eq_some h

theorem find?_key {l : List ρ} (hn : (l.map key).Nodup) {r : ρ} (hr : r ∈ l) :
    l.find? (fun x => decide (key x = key r)) = some r := by
  induction l with
  | nil => cases hr
  | cons x l ih =>
    rw [List.map_cons, List.nodup_cons] at hn
    rcases List.mem_cons.mp hr with rfl | hr
    · simp
    · have hne : key x ≠ key r := fun e => hn.1 (e ▸ List.mem_map_of_mem hr)
      rw [List.find?_cons_of_neg (by simpa using hne)]
      exact ih hn.2 hr

theorem mem_iff_get {t : Table κ ρ key} {r : ρ} : r ∈ t.rows ↔ t.get (key r) = some r :=
  ⟨find?_key t.nodup, get_mem⟩

theorem get_eq_none {t : Table κ ρ key} {k : κ} : t.get k = none ↔ ∀ r ∈ t.rows, key r ≠ k := by
  simp [get]

@[simp] theorem get_empty (k : κ) : (empty : Table κ ρ key).get k = none := rfl

theorem get_update (t : Table κ ρ key) (p : ρ → Bool) (f : ρ → ρ) (hf : ∀ r, key (f r) = key r) (k : κ) :
    (t.update p f hf).get k = (t.get k).map fun r => if p r then f r else r := by
  show (t.rows.map fun r => if p r then f r else r).find? _ = _
  rw [List.find?_map]
  have h : ((fun r => decide (key r = k)) ∘ fun r => if p r then f r else r) = fun r => decide (key r = k) := by
    funext r; by_cases e : p r = true <;> simp [e, hf]
  rw [h]; rfl

theorem insert_eq_none {t : Table κ ρ key} {r : ρ} : t.insert r = none ↔ (t.get (key r)).isSome = true := by
  unfold insert
  split
  · rename_i h
    obtain ⟨x, hx, e⟩ := List.mem_map.mp h
    simp [← e, mem_iff_get.mp hx]
  · rename_i h
    simp only [reduceCtorEq, false_iff, Bool.not_eq_true, Option.isSome_eq_false_iff, Option.isNone_iff_eq_none]
    exact get_eq_none.mpr fun x hx e => h (e ▸ List.mem_map_of_mem hx)

theorem insert_fresh {t : Table κ ρ key} {r : ρ} (h : t.get (key r) = none) : ∃ t', t.insert r = some t' := by
  cases hi : t.insert r with
  | none => rw [insert_eq_none, h] at hi; cases hi
  | some t' => exact ⟨t', rfl⟩

theorem insert_rows {t t' : Table κ ρ key} {r : ρ} (h : t.insert r = some t') : t'.rows = t.rows ++ [r] := by
  unfold insert at h
  split at h
  · cases h
  · cases h; rfl

theorem get_insert {t t' : Table κ ρ key} {r : ρ} (h : t.insert r = some t') (k : κ) :
    t'.get k = if key r = k then some r else t.get k := by
  have hnone : t.get (key r) = none := by
    cases hg : t.get (key r) with
    | none => rfl
    | some x => rw [insert_eq_none.mpr (by rw [hg]; rfl)] at h; cases h
  show t'.rows.find? _ = _
  rw [insert_rows h, List.find?_append]
  by_cases e : key r = k
  · subst e
    show (t.get (key r)).or _ = _
    simp [hnone]
  · simp [e, get]

theorem get_insertOrIgnore (t : Table κ ρ key) (r : ρ) (k : κ) :
    (t.insertOrIgnore r).get k = if key r = k then some ((t.get k).getD r) else t.get k := by
  unfold insertOrIgnore
  cases h : t.insert r with
  | none =>
    obtain ⟨x, hx⟩ := Option.isSome_iff_exists.mp (insert_eq_none.mp h)
    by_cases e : key r = k
    · subst e; simp [hx]
    · simp [e]
  | some t' =>
    have hnone : t.get (key r) = none := by
      cases hg : t.get (key r) with
      | none => rfl
      | some x => rw [insert_eq_none.mpr (by rw [hg]; rfl)] at h; cases h
    rw [Option.getD_some, get_insert h]
    by_cases e : key r = k
    · subst e; simp [hnone]
    · simp [e]

/-- A row not there before is the one inserted. -/
theorem get_insertOrIgnore_none {t : Table κ ρ key} {r x : ρ} {k : κ} (h : t.get k = none)
    (hx : (t.insertOrIgnore r).get k = some x) : x = r := by
  rw [get_insertOrIgnore] at hx
  split at hx
  · simpa [h] using hx.symm
  · rw [h] at hx; cases hx

theorem get_insertOrIgnore_some {t : Table κ ρ key} {r x : ρ} {k : κ} (h : t.get k = some x) :
    (t.insertOrIgnore r).get k = some x := by
  rw [get_insertOrIgnore, h]
  split <;> rfl

theorem get_delete (t : Table κ ρ key) (k k' : κ) : (t.delete k).get k' = if k' = k then none else t.get k' := by
  show (t.rows.filter fun r => decide (key r ≠ k)).find? _ = _
  rw [List.find?_filter]
  by_cases e : k' = k
  · subst e
    simp
  · rw [if_neg e]
    show _ = t.rows.find? _
    congr 1
    funext r
    by_cases hk : key r = k'
    · simp [hk, e]
    · simp [hk]

/-! ## Counting the rows of one key -/

theorem countP_le_one {l : List ρ} (hn : (l.map key).Nodup) {p : ρ → Bool} {k : κ} (hp : ∀ r, p r = true → key r = k) :
    l.countP p = 1 ↔ ∃ r, l.find? (fun x => decide (key x = k)) = some r ∧ p r = true := by
  induction l with
  | nil => simp
  | cons x l ih =>
    rw [List.map_cons, List.nodup_cons] at hn
    by_cases e : key x = k
    · subst e
      have hl : l.countP p = 0 := List.countP_eq_zero.mpr fun r hr hpr =>
        hn.1 (hp r hpr ▸ List.mem_map_of_mem hr)
      by_cases hx : p x = true <;> simp [hl, hx]
    · have hx : p x = false := by
        cases h : p x
        · rfl
        · exact absurd (hp x h) e
      rw [List.countP_cons_of_neg (by simp [hx]), List.find?_cons_of_neg (by simpa using e)]
      exact ih hn.2

/-- An update that names a key hits one row exactly when that key's row passes. -/
theorem rowcount_eq_one {t : Table κ ρ key} {p : ρ → Bool} {k : κ} (hp : ∀ r, p r = true → key r = k) :
    t.rowcount p = 1 ↔ ∃ r, t.get k = some r ∧ p r = true :=
  countP_le_one t.nodup hp

end Table
