/-
  AgentResilience.LoopDetector — when a run of decisions counts as a loop
  (loop_detector.py): the tool budget is spent, the tools end in a pattern repeated
  `repeatThreshold` times, or the last `repeatThreshold` progress fingerprints agree.

  `reason_none_iff` says what acceptance means: the detector stays silent exactly when
  none of the three holds.
-/
import Mathlib.Data.List.Dedup
import AgentResilience.Models

namespace AgentResilience

theorem LoopDetector.default_ok : 2 ≤ 4 := by decide

structure LoopDetector where
  repeatThreshold : Nat := 4
  maxToolCalls : Int := 20
  threshold_ok : 2 ≤ repeatThreshold := by exact LoopDetector.default_ok

/-- `xs[-n:]`, for a positive `n`. -/
def lastN {α : Type} (n : Nat) (xs : List α) : List α := xs.drop (xs.length - n)

namespace LoopDetector

variable (d : LoopDetector)

def repeatedSuffix (values : List String) : Bool :=
  (List.range' 1 (values.length / d.repeatThreshold)).any fun length =>
    let tail := lastN (length * d.repeatThreshold) values
    let pattern := tail.take length
    tail == (List.replicate d.repeatThreshold pattern).flatten

def noProgress (progress : List String) : Bool :=
  progress.length ≥ d.repeatThreshold && (lastN d.repeatThreshold progress).dedup.length == 1

def reason (tools progress : List String) : Option String :=
  if tools.length ≥ d.maxToolCalls then
    some s!"tool-call budget exceeded ({d.maxToolCalls})"
  else if d.repeatedSuffix tools then
    some "repeated tool sequence detected"
  else if d.noProgress progress then
    some "agent repeated actions without changing workflow evidence"
  else none

/-- `values` ends with a non-empty pattern repeated `r` times. -/
def Repeats (r : Nat) (values : List String) : Prop :=
  ∃ pattern front, pattern ≠ [] ∧ values = front ++ (List.replicate r pattern).flatten

/-- The last `r` of at least `r` fingerprints are one value. -/
def Stalled (r : Nat) (progress : List String) : Prop :=
  ∃ x front, progress = front ++ List.replicate r x

theorem length_flatten_replicate (r : Nat) (p : List String) :
    ((List.replicate r p).flatten).length = p.length * r := by
  simp [List.length_flatten, Nat.mul_comm]

theorem repeatedSuffix_iff (values : List String) :
    d.repeatedSuffix values = true ↔ Repeats d.repeatThreshold values := by
  have hr : 0 < d.repeatThreshold := by have := d.threshold_ok; omega
  unfold repeatedSuffix
  rw [List.any_eq_true]
  constructor
  · rintro ⟨n, hn, h⟩
    rw [List.mem_range'_1] at hn
    simp only [beq_iff_eq] at h
    have hle : n * d.repeatThreshold ≤ values.length := by
      have := Nat.mul_le_mul_right d.repeatThreshold (show n ≤ values.length / d.repeatThreshold by omega)
      exact this.trans (Nat.div_mul_le_self _ _)
    have hpos : 0 < n * d.repeatThreshold := Nat.mul_pos (by omega) hr
    refine ⟨(lastN (n * d.repeatThreshold) values).take n, values.take (values.length - n * d.repeatThreshold), ?_, ?_⟩
    · intro e
      have hl := congrArg List.length e
      simp only [lastN, List.length_take, List.length_drop, List.length_nil] at hl
      omega
    · rw [← h]; exact (List.take_append_drop _ _).symm
  · rintro ⟨p, front, hp, rfl⟩
    have hlen := length_flatten_replicate d.repeatThreshold p
    have hpos : 0 < p.length := List.length_pos_of_ne_nil hp
    refine ⟨p.length, ?_, ?_⟩
    · rw [List.mem_range'_1, List.length_append, hlen]
      refine ⟨hpos, ?_⟩
      have : p.length ≤ (front.length + p.length * d.repeatThreshold) / d.repeatThreshold :=
        (Nat.le_div_iff_mul_le hr).mpr (by omega)
      omega
    · have htail : lastN (p.length * d.repeatThreshold) (front ++ (List.replicate d.repeatThreshold p).flatten) =
          (List.replicate d.repeatThreshold p).flatten := by
        unfold lastN
        rw [List.length_append, hlen, Nat.add_sub_cancel]
        exact List.drop_left
      simp only [htail, beq_iff_eq]
      congr 2
      obtain ⟨m, hm⟩ := Nat.exists_eq_succ_of_ne_zero (show d.repeatThreshold ≠ 0 by omega)
      rw [hm, List.replicate_succ, List.flatten_cons]
      exact (List.take_left' rfl).symm

theorem dedup_length_one {l : List String} : l.dedup.length = 1 ↔ ∃ x, l ≠ [] ∧ l = List.replicate l.length x := by
  constructor
  · intro h
    obtain ⟨x, hx⟩ := List.length_eq_one_iff.mp h
    refine ⟨x, ?_, List.eq_replicate_of_mem fun y hy => ?_⟩
    · rintro rfl; simp at h
    · have : y ∈ l.dedup := List.mem_dedup.mpr hy
      rw [hx] at this; exact List.mem_singleton.mp this
  · rintro ⟨x, hne, h⟩
    rw [h, List.replicate_dedup (by simpa using hne)]
    rfl

theorem noProgress_iff (progress : List String) :
    d.noProgress progress = true ↔ Stalled d.repeatThreshold progress := by
  have hr := d.threshold_ok
  simp only [noProgress, Bool.and_eq_true, decide_eq_true_eq, beq_iff_eq]
  rw [dedup_length_one]
  constructor
  · rintro ⟨hle, x, -, h⟩
    have hlen : (lastN d.repeatThreshold progress).length = d.repeatThreshold := by
      simp only [lastN, List.length_drop]; omega
    rw [hlen] at h
    exact ⟨x, progress.take (progress.length - d.repeatThreshold), by
      rw [← h]; exact (List.take_append_drop _ _).symm⟩
  · rintro ⟨x, front, rfl⟩
    have htail : lastN d.repeatThreshold (front ++ List.replicate d.repeatThreshold x) =
        List.replicate d.repeatThreshold x := by
      unfold lastN
      rw [List.length_append, List.length_replicate, Nat.add_sub_cancel]
      exact List.drop_left
    refine ⟨by simp, x, ?_, ?_⟩
    · rw [htail]; simp; omega
    · rw [htail, List.length_replicate]

/-- The detector stays silent exactly within the budget, off every repeated ending and
    with progress in its last fingerprints. -/
theorem reason_none_iff (tools progress : List String) :
    d.reason tools progress = none ↔ tools.length < d.maxToolCalls ∧
      ¬ Repeats d.repeatThreshold tools ∧ ¬ Stalled d.repeatThreshold progress := by
  rw [← repeatedSuffix_iff, ← noProgress_iff]
  unfold reason
  by_cases h1 : d.maxToolCalls ≤ (tools.length : Int)
  · simp [h1]
  · by_cases h2 : d.repeatedSuffix tools = true
    · simp [h1, h2]
    · by_cases h3 : d.noProgress progress = true
      · simp [h1, h2, h3]
      · simp [h1, h2, h3]; omega

theorem mem_lastN_stalled {r : Nat} (hr : 1 ≤ r) {progress : List String} :
    Stalled r progress ↔ r ≤ progress.length ∧ ∀ x ∈ lastN r progress, ∀ y ∈ lastN r progress, x = y := by
  constructor
  · rintro ⟨x, front, rfl⟩
    have htail : lastN r (front ++ List.replicate r x) = List.replicate r x := by
      unfold lastN
      rw [List.length_append, List.length_replicate, Nat.add_sub_cancel]
      exact List.drop_left
    refine ⟨by simp, fun y hy z hz => ?_⟩
    rw [htail] at hy hz
    rw [List.eq_of_mem_replicate hy, List.eq_of_mem_replicate hz]
  · rintro ⟨hle, hall⟩
    have hlen : (lastN r progress).length = r := by
      simp only [lastN, List.length_drop]
      omega
    have hne : lastN r progress ≠ [] := by
      intro e
      rw [e] at hlen
      simp at hlen
      omega
    obtain ⟨x, hx⟩ := List.exists_mem_of_ne_nil _ hne
    refine ⟨x, progress.take (progress.length - r), ?_⟩
    have hrep : lastN r progress = List.replicate r x := by
      rw [List.eq_replicate_iff]
      exact ⟨hlen, fun y hy => hall y hy x hx⟩
    rw [← hrep]
    exact (List.take_append_drop _ _).symm

/-- What the detector decides, for every threshold, budget and pair of histories: it is silent
    exactly if the budget is not spent, no non-empty pattern is repeated at the end of the
    tools, and the last fingerprints are not all one; and its search over pattern lengths
    finds a repeated pattern whenever there is one. -/
theorem detector_specification (r : Nat) (hr : 2 ≤ r) (budget : Int) (tools progress : List String) :
    let d : LoopDetector := ⟨r, budget, hr⟩
    (d.reason tools progress = none ↔ (tools.length : Int) < budget ∧
      (¬ ∃ pattern front, pattern ≠ [] ∧ tools = front ++ (List.replicate r pattern).flatten) ∧
      ¬ (r ≤ progress.length ∧ ∀ x ∈ lastN r progress, ∀ y ∈ lastN r progress, x = y)) ∧
    (d.repeatedSuffix tools = true ↔
      ∃ pattern front, pattern ≠ [] ∧ tools = front ++ (List.replicate r pattern).flatten) := by
  refine ⟨?_, repeatedSuffix_iff ⟨r, budget, hr⟩ tools⟩
  rw [reason_none_iff ⟨r, budget, hr⟩, ← mem_lastN_stalled (by omega : 1 ≤ r)]
  rfl

/-- A threshold of two, and a pattern of two tools repeated twice. -/
theorem detector_specification_pattern : (⟨2, 20, by decide⟩ : LoopDetector).repeatedSuffix ["x", "a", "b", "a", "b"] = true :=
  (detector_specification 2 (by decide) 20 ["x", "a", "b", "a", "b"] []).2.mpr ⟨["a", "b"], ["x"], by simp, rfl⟩

end LoopDetector

end AgentResilience
