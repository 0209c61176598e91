/-
  AgentResilience.Listing — listing workflows (`list_workflows` of store.py): the rows newest
  first, cut to 500 if a status is asked for, filtered, and cut to the limit.

  - `Newest`: what a listing should be; `newest_iff`: there is one such list.
  - `listing_complete_iff`: the first cut loses nothing if enough of the 500 newest workflows
    have the status, or none of the others. `waiting_hidden`: an old approval behind 500
    newer workflows.
-/
import Mathlib.Data.List.Sort
import AgentResilience.Store

namespace AgentResilience

/-! ## The query -/

/-- `ORDER BY updated_at DESC`. -/
def newestFirst (rows : List WorkflowRow) : List WorkflowRow := rows.insertionSort fun a b => b.updatedAt ≤ a.updatedAt

/-- `max(1, min(limit, 500))`. -/
def requestedLimit (limit : Int) : Nat := (max 1 (min limit 500)).toNat

/-- `status is None or state.status == status`. -/
def hasStatusOr (status : Option WorkflowStatus) (state : WorkflowState) : Bool := status.all fun st => decide (state.status = st)

def SQLiteStore.listWorkflows (s : SQLiteStore) (limit : Int) (status : Option WorkflowStatus) : List WorkflowState :=
  let requested := requestedLimit limit
  let rows := (newestFirst s.workflows.rows).take (if status.isSome then 500 else requested)
  let states := rows.map (·.stateJson)
  (states.filter (hasStatusOr status)).take requested

/-! ## What it should list -/

/-- The `n` rows updated last of those that match, newest first; all of those, if they are fewer. -/
structure Newest (rows : List WorkflowRow) (p : WorkflowRow → Bool) (n : Nat) (listed : List WorkflowRow) : Prop where
  ordered : listed.Pairwise fun a b => b.updatedAt < a.updatedAt
  found : ∀ row ∈ listed, row ∈ rows ∧ p row = true
  length : listed.length = min n (rows.countP p)
  newest : ∀ row ∈ rows, p row = true → row ∉ listed → ∀ x ∈ listed, row.updatedAt < x.updatedAt

variable {rows listed : List WorkflowRow} {p : WorkflowRow → Bool} {n : Nat}

/-- No two rows were updated at one time. -/
def DistinctTimes (rows : List WorkflowRow) : Prop := (rows.map (·.updatedAt)).Nodup

theorem DistinctTimes.eq {a b : WorkflowRow} (h : DistinctTimes rows) (ha : a ∈ rows) (hb : b ∈ rows)
    (e : a.updatedAt = b.updatedAt) : a = b :=
  List.inj_on_of_nodup_map h ha hb e

theorem newestFirst_perm (rows : List WorkflowRow) : (newestFirst rows).Perm rows := List.perm_insertionSort ..

theorem newestFirst_pairwise (h : DistinctTimes rows) : (newestFirst rows).Pairwise fun a b => b.updatedAt < a.updatedAt := by
  have hsorted : (newestFirst rows).Pairwise fun a b => b.updatedAt ≤ a.updatedAt := by
    have : Std.Total fun a b : WorkflowRow => b.updatedAt ≤ a.updatedAt := ⟨fun a b => Int.le_total ..⟩
    have : IsTrans WorkflowRow fun a b => b.updatedAt ≤ a.updatedAt := ⟨fun a b c hab hbc => Int.le_trans hbc hab⟩
    exact List.pairwise_insertionSort ..
  have hdistinct : (newestFirst rows).Pairwise fun a b => a.updatedAt ≠ b.updatedAt := by
    have hnodup : ((newestFirst rows).map (·.updatedAt)).Nodup := ((newestFirst_perm rows).map _).nodup_iff.mpr h
    exact List.pairwise_map.mp hnodup
  refine (hsorted.and hdistinct).imp ?_
  rintro a b ⟨hle, hne⟩
  exact lt_of_le_of_ne hle (Ne.symm hne)

theorem mem_matching {row : WorkflowRow} : row ∈ (newestFirst rows).filter p ↔ row ∈ rows ∧ p row = true := by
  rw [List.mem_filter, (newestFirst_perm rows).mem_iff]

/-- The filtered listing, cut. -/
theorem newest_take (h : DistinctTimes rows) : Newest rows p n (((newestFirst rows).filter p).take n) := by
  have hsorted := (newestFirst_pairwise h).sublist (List.filter_sublist (p := p))
  refine ⟨hsorted.sublist (List.take_sublist ..), fun row hrow => mem_matching.mp (List.mem_of_mem_take hrow), ?_, ?_⟩
  · rw [List.length_take, ← List.countP_eq_length_filter, (newestFirst_perm rows).countP_eq]
  · intro row hrow hp hout x hx
    rw [← List.take_append_drop n ((newestFirst rows).filter p)] at hsorted
    have hin : row ∈ ((newestFirst rows).filter p).drop n := by
      have := mem_matching.mpr ⟨hrow, hp⟩
      rw [← List.take_append_drop n ((newestFirst rows).filter p), List.mem_append] at this
      exact this.resolve_left hout
    exact (List.pairwise_append.mp hsorted).2.2 x hx row hin

/-- There is one listing. -/
theorem newest_iff (h : DistinctTimes rows) : Newest rows p n listed ↔ listed = ((newestFirst rows).filter p).take n := by
  constructor
  · intro hl
    have hsorted := (newestFirst_pairwise h).sublist (List.filter_sublist (p := p))
    -- the matching rows are the listed ones and then the others
    let others := ((newestFirst rows).filter p).filter fun row => decide (row.updatedAt ∉ listed.map (·.updatedAt))
    have hothers : ∀ row, row ∈ others ↔ (row ∈ rows ∧ p row = true) ∧ row ∉ listed := by
      intro row
      rw [List.mem_filter, mem_matching, decide_eq_true_eq, List.mem_map]
      refine and_congr_right fun hrow => not_congr ⟨?_, fun hin => ⟨row, hin, rfl⟩⟩
      rintro ⟨x, hx, e⟩
      rw [← h.eq (hl.found x hx).1 hrow.1 e]
      exact hx
    have hpair : (listed ++ others).Pairwise fun a b => b.updatedAt < a.updatedAt := by
      rw [List.pairwise_append]
      refine ⟨hl.ordered, hsorted.sublist List.filter_sublist, fun x hx row hrow => ?_⟩
      obtain ⟨⟨hin, hp⟩, hout⟩ := (hothers row).mp hrow
      exact hl.newest row hin hp hout x hx
    have hnodup : ∀ {l : List WorkflowRow}, l.Pairwise (fun a b => b.updatedAt < a.updatedAt) → l.Nodup := by
      intro l hl
      refine hl.imp ?_
      rintro a b hlt rfl
      exact absurd hlt (lt_irrefl _)
    have hperm : (listed ++ others).Perm ((newestFirst rows).filter p) := by
      rw [List.perm_ext_iff_of_nodup (hnodup hpair) (hnodup hsorted)]
      intro row
      rw [List.mem_append, hothers, mem_matching]
      by_cases hin : row ∈ listed
      · simp [hin, hl.found row hin]
      · simp [hin]
    have heq : listed ++ others = (newestFirst rows).filter p := by
      refine List.Perm.eq_of_pairwise (fun a b _ _ hab hba => ?_) hpair hsorted hperm
      exact absurd (lt_trans hab hba) (lt_irrefl _)
    have hlen := hl.length
    rw [← (newestFirst_perm rows).countP_eq, List.countP_eq_length_filter, ← heq, List.length_append] at hlen
    rw [← heq]
    by_cases hle : n ≤ listed.length
    · have : listed.length = n := by omega
      rw [← this, List.take_left' rfl]
    · have hnil : others = [] := by
        rw [← List.length_eq_zero_iff]
        omega
      rw [hnil, List.append_nil, List.take_of_length_le (by omega)]
  · rintro rfl
    exact newest_take h

/-! ## The first cut -/

/-- A list cut to `k` before it is filtered has the `n` first matches, or all there are. -/
def Suffices {α : Type} (p : α → Bool) (l : List α) (k n : Nat) : Prop :=
  n ≤ (l.take k).countP p ∨ ∀ x ∈ l.drop k, p x = false

theorem filter_split {α : Type} (p : α → Bool) (l : List α) (k : Nat) :
    l.filter p = (l.take k).filter p ++ (l.drop k).filter p := by
  rw [← List.filter_append, List.take_append_drop]

theorem Suffices.take_eq {α : Type} {p : α → Bool} {l : List α} {k n : Nat} (h : Suffices p l k n) :
    ((l.take k).filter p).take n = (l.filter p).take n := by
  rw [filter_split p l k]
  rcases h with hle | hnone
  · rw [List.countP_eq_length_filter] at hle
    rw [List.take_append_of_le_length hle]
  · have hnil : (l.drop k).filter p = [] := by
      rw [List.filter_eq_nil_iff]
      simpa using hnone
    rw [hnil, List.append_nil]

/-- The cut list is already too short, otherwise. -/
theorem suffices_of_length {α : Type} {p : α → Bool} {l : List α} {k n : Nat}
    (h : (((l.take k).filter p).take n).length = ((l.filter p).take n).length) : Suffices p l k n := by
  rw [filter_split p l k, List.length_take, List.length_take, List.length_append] at h
  by_cases hle : n ≤ ((l.take k).filter p).length
  · left
    rw [List.countP_eq_length_filter]
    exact hle
  · right
    have hnil : (l.drop k).filter p = [] := by
      rw [← List.length_eq_zero_iff]
      omega
    simpa using List.filter_eq_nil_iff.mp hnil

/-- What a listing should be: the most recently updated workflows with the status (of any,
    without one), newest first, as many as there are up to the limit, which is between 1 and 500. -/
def ListsNewest (s : SQLiteStore) (limit : Int) (status : Option WorkflowStatus) (states : List WorkflowState) : Prop :=
  ∃ listed, states = listed.map (·.stateJson) ∧
    Newest s.workflows.rows (fun row => hasStatusOr status row.stateJson) (requestedLimit limit) listed

theorem listWorkflows_eq (s : SQLiteStore) (limit : Int) (status : Option WorkflowStatus) :
    s.listWorkflows limit status =
      ((((newestFirst s.workflows.rows).take (if status.isSome then 500 else requestedLimit limit)).filter
        fun row => hasStatusOr status row.stateJson).take (requestedLimit limit)).map (·.stateJson) := by
  unfold SQLiteStore.listWorkflows
  simp only
  rw [List.filter_map, ← List.map_take]
  rfl

/-- A listing is the one wanted exactly if no status is asked for, or as many of the 500 workflows
    updated last have it as are asked for, or no other workflow has it. -/
theorem listing_complete_iff (s : SQLiteStore) (limit : Int) (status : Option WorkflowStatus)
    (hd : DistinctTimes s.workflows.rows) :
    ListsNewest s limit status (s.listWorkflows limit status) ↔
      ∀ st, status = some st →
        requestedLimit limit ≤ ((newestFirst s.workflows.rows).take 500).countP (fun row => decide (row.stateJson.status = st)) ∨
          ∀ row ∈ (newestFirst s.workflows.rows).drop 500, row.stateJson.status ≠ st := by
  unfold ListsNewest
  simp only [newest_iff hd]
  rw [listWorkflows_eq]
  constructor
  · rintro ⟨listed, heq, rfl⟩ st rfl
    have hlen := congrArg List.length heq
    rw [List.length_map, List.length_map] at hlen
    rcases suffices_of_length hlen with hle | hnone
    · exact .inl hle
    · right
      intro row hrow
      exact of_decide_eq_false (hnone row hrow)
  · intro hcond
    refine ⟨_, ?_, rfl⟩
    cases status with
    | none =>
      have hall : ∀ l : List WorkflowRow, l.filter (fun row => hasStatusOr none row.stateJson) = l := by
        intro l
        exact List.filter_eq_self.mpr fun _ _ => rfl
      rw [hall, hall, Option.isSome_none, if_neg (by simp), List.take_take, min_self]
    | some st =>
      have hsuffices : Suffices (fun row : WorkflowRow => hasStatusOr (some st) row.stateJson) (newestFirst s.workflows.rows) 500
          (requestedLimit limit) := by
        rcases hcond st rfl with hle | hnone
        · exact .inl hle
        · right
          intro row hrow
          exact decide_eq_false (hnone row hrow)
      rw [Option.isSome_some, if_pos rfl, hsuffices.take_eq]

/-! ## A waiting workflow that is not listed -/

/-- The `n`th workflow created; the first one waits for an approval. -/
def numbered (n : Nat) : WorkflowRow where
  taskId := String.ofList (List.replicate n 'w')
  stateJson :=
    { taskId := String.ofList (List.replicate n 'w'), goal := "checkout errors are up",
      status := if n = 0 then .waitingForApproval else .completed, createdAt := n, updatedAt := n }
  version := 0
  updatedAt := n

theorem numbered_nodup (n : Nat) : (((List.range n).reverse.map numbered).map (·.taskId)).Nodup := by
  rw [List.map_map]
  refine (List.nodup_reverse.mpr List.nodup_range).map fun a b e => ?_
  have := congrArg String.length e
  simpa [numbered] using this

/-- The first `n` workflows, nothing else. -/
def crowded (n : Nat) : SQLiteStore := { SQLiteStore.empty with workflows := ⟨(List.range n).reverse.map numbered, numbered_nodup n⟩ }

theorem crowded_distinct (n : Nat) : DistinctTimes (crowded n).workflows.rows := by
  unfold DistinctTimes
  show (((List.range n).reverse.map numbered).map (·.updatedAt)).Nodup
  rw [List.map_map]
  refine (List.nodup_reverse.mpr List.nodup_range).map fun a b e => ?_
  exact Int.ofNat.inj e

/-- Among three workflows the waiting one is found. -/
theorem listing_complete_three :
    ListsNewest (crowded 3) 100 (some .waitingForApproval) ((crowded 3).listWorkflows 100 (some .waitingForApproval)) := by
  refine (listing_complete_iff (crowded 3) 100 (some .waitingForApproval) (crowded_distinct 3)).mpr fun st _ => .inr ?_
  have hnone : (newestFirst (crowded 3).workflows.rows).drop 500 = [] := rfl
  rw [hnone]
  simp

theorem crowded_lists : ((crowded 501).listWorkflows 100 (some .waitingForApproval)).isEmpty = true ∧
    (crowded 501).workflows.rows.countP (fun row => hasStatusOr (some .waitingForApproval) row.stateJson) = 1 := by
  decide +kernel

/-- Behind 500 newer workflows it is not. -/
theorem waiting_hidden : DistinctTimes (crowded 501).workflows.rows ∧
    ¬ ListsNewest (crowded 501) 100 (some .waitingForApproval) ((crowded 501).listWorkflows 100 (some .waitingForApproval)) := by
  refine ⟨crowded_distinct 501, ?_⟩
  rintro ⟨listed, heq, hnewest⟩
  obtain ⟨hempty, hcount⟩ := crowded_lists
  rw [List.isEmpty_iff] at hempty
  rw [hempty] at heq
  have hlen := hnewest.length
  rw [List.map_eq_nil_iff.mp heq.symm, hcount] at hlen
  exact absurd hlen (by decide)

end AgentResilience
