/-
  AgentResilience.Lib.Binary64 — rounding a rational to binary64: to the nearest number of 53
  significant bits, of two the even one, with the subnormal spacing at the bottom. There is no
  largest number: what overflows is the caller's.

  - `nearest_exact`: a number of at most 53 bits is its own rounding.
  - `abs_nearest_sub_le`: the relative error of a rounding, above the subnormals.
  - `intCast_le_nearest`: a rounding against a whole number.
-/
import Mathlib.Data.Int.Log
import Mathlib.Data.Rat.Floor
import Mathlib.Algebra.Order.Field.Power
import Mathlib.Tactic.Linarith
import Mathlib.Tactic.NormNum
import Mathlib.Tactic.Positivity
import Mathlib.Tactic.Ring

namespace Binary64

/-- The nearest integer, of two the even one. -/
def roundEven (x : ℚ) : ℤ :=
  let f := ⌊x⌋
  if x - f < 1 / 2 then f else if 1 / 2 < x - f then f + 1 else if f % 2 = 0 then f else f + 1

/-- The distance of the numbers around `x`. -/
def quantum (x : ℚ) : ℚ := 2 ^ max (Int.log 2 |x| - 52) (-1074)

def nearest (x : ℚ) : ℚ := roundEven (x / quantum x) * quantum x

variable {x : ℚ} {n : ℤ}

/-! ## Integers -/

theorem roundEven_cases (x : ℚ) : roundEven x = ⌊x⌋ ∧ x - ⌊x⌋ ≤ 1 / 2 ∨ roundEven x = ⌊x⌋ + 1 ∧ 1 / 2 ≤ x - ⌊x⌋ := by
  unfold roundEven
  simp only
  split
  · exact .inl ⟨rfl, by linarith⟩
  · rename_i hlow
    split
    · exact .inr ⟨rfl, by linarith⟩
    · rename_i hhigh
      split
      · exact .inl ⟨rfl, by linarith⟩
      · exact .inr ⟨rfl, by linarith⟩

theorem abs_roundEven_sub_le (x : ℚ) : |(roundEven x : ℚ) - x| ≤ 1 / 2 := by
  have hle := Int.floor_le x
  have hlt := Int.lt_floor_add_one x
  rw [abs_le]
  rcases roundEven_cases x with ⟨h, hx⟩ | ⟨h, hx⟩
  · rw [h]
    constructor <;> linarith
  · rw [h]
    push_cast
    constructor <;> linarith

/-- Less than half below an integer. -/
theorem le_roundEven_of_close (h : (n : ℚ) - x < 1 / 2) : n ≤ roundEven x := by
  have habs := abs_le.mp (abs_roundEven_sub_le x)
  have hlt : (n : ℚ) < roundEven x + 1 := by linarith [habs.1]
  have : n < roundEven x + 1 := by exact_mod_cast hlt
  omega

theorem roundEven_intCast (n : ℤ) : roundEven n = n := by
  unfold roundEven
  simp

/-! ## The grid -/

theorem quantum_pos (x : ℚ) : 0 < quantum x := by
  unfold quantum
  positivity

/-- A power of two is a multiple of a smaller one. -/
theorem zpow_div_int {i j : ℤ} (h : i ≤ j) : ∃ m : ℤ, (2 : ℚ) ^ j / 2 ^ i = m := by
  obtain ⟨k, hk⟩ := Int.eq_ofNat_of_zero_le (by omega : 0 ≤ j - i)
  refine ⟨2 ^ k, ?_⟩
  rw [← zpow_sub₀ (by norm_num : (2 : ℚ) ≠ 0), hk]
  push_cast
  exact zpow_natCast 2 k

/-- The grid around a number of at most 53 bits is no coarser than the number's own. -/
theorem log_sub_le {m k : ℤ} (h0 : m ≠ 0) (hm : |m| < 2 ^ 53) : Int.log 2 |(m : ℚ) * 2 ^ k| - 52 ≤ k := by
  have hm0 : (m : ℚ) ≠ 0 := by exact_mod_cast h0
  have hlog := Int.zpow_log_le_self (R := ℚ) (b := 2) (by norm_num) (abs_pos.mpr (mul_ne_zero hm0 (by positivity : (2 : ℚ) ^ k ≠ 0)))
  have hlt : |(m : ℚ) * 2 ^ k| < 2 ^ (53 + k) := by
    rw [abs_mul, abs_of_pos (by positivity : (0 : ℚ) < 2 ^ k), zpow_add₀ (by norm_num)]
    have hm' : |(m : ℚ)| < 2 ^ (53 : ℤ) := by exact_mod_cast hm
    exact mul_lt_mul_of_pos_right hm' (by positivity)
  have hpow : (2 : ℚ) ^ Int.log 2 |(m : ℚ) * 2 ^ k| < 2 ^ (53 + k) := lt_of_le_of_lt (by exact_mod_cast hlog) hlt
  have := (zpow_lt_zpow_iff_right₀ (by norm_num : (1 : ℚ) < 2)).mp hpow
  omega

/-- A number on the grid around `x` is a whole number of quanta. -/
theorem div_quantum_int {k : ℤ} (hk : max (Int.log 2 |x| - 52) (-1074) ≤ k) (m : ℤ) :
    ∃ j : ℤ, (m : ℚ) * 2 ^ k / quantum x = j := by
  obtain ⟨i, hi⟩ := zpow_div_int hk
  refine ⟨m * i, ?_⟩
  unfold quantum
  push_cast
  rw [← hi]
  ring

theorem nearest_exact {m k : ℤ} (hm : |m| < 2 ^ 53) (hk : -1074 ≤ k) : nearest ((m : ℚ) * 2 ^ k) = (m : ℚ) * 2 ^ k := by
  by_cases h0 : m = 0
  · subst h0
    simp [nearest, roundEven]
  · obtain ⟨j, hj⟩ := div_quantum_int (max_le (log_sub_le h0 hm) hk) m
    unfold nearest
    rw [hj, roundEven_intCast, ← hj]
    exact div_mul_cancel₀ _ (quantum_pos _).ne'

theorem nearest_intCast (hn : |n| < 2 ^ 53) : nearest n = n := by
  have h := nearest_exact hn (by norm_num : (-1074 : ℤ) ≤ 0)
  rwa [zpow_zero, mul_one] at h

/-! ## Errors -/

theorem abs_nearest_sub_le_quantum (x : ℚ) : |nearest x - x| ≤ quantum x / 2 := by
  have hq := quantum_pos x
  have hsplit : nearest x - x = (roundEven (x / quantum x) - x / quantum x) * quantum x := by
    unfold nearest
    rw [sub_mul, div_mul_cancel₀ _ hq.ne']
  rw [hsplit, abs_mul, abs_of_pos hq]
  have := mul_le_mul_of_nonneg_right (abs_roundEven_sub_le (x / quantum x)) hq.le
  linarith

/-- A number is less than `2 ^ 53` quanta. -/
theorem lt_quantum (x : ℚ) : |x| * 2 ^ (-53 : ℤ) < quantum x := by
  have hlt := Int.lt_zpow_succ_log_self (R := ℚ) (b := 2) (by norm_num) |x|
  have hexp : Int.log 2 |x| + 1 + -53 ≤ max (Int.log 2 |x| - 52) (-1074) := by omega
  calc |x| * 2 ^ (-53 : ℤ) < 2 ^ (Int.log 2 |x| + 1) * 2 ^ (-53 : ℤ) := mul_lt_mul_of_pos_right (by exact_mod_cast hlt) (by positivity)
    _ = 2 ^ (Int.log 2 |x| + 1 + -53) := (zpow_add₀ (by norm_num) _ _).symm
    _ ≤ quantum x := zpow_le_zpow_right₀ (by norm_num) hexp

/-- Above the subnormals the quantum is the last of 53 bits. -/
theorem quantum_le_of_normal (hx : 2 ^ (-1022 : ℤ) ≤ |x|) : quantum x ≤ |x| * 2 ^ (-52 : ℤ) := by
  have hpos : 0 < |x| := lt_of_lt_of_le (by positivity) hx
  have hlt := Int.lt_zpow_succ_log_self (R := ℚ) (b := 2) (by norm_num) |x|
  have hpow : (2 : ℚ) ^ (-1022 : ℤ) < 2 ^ (Int.log 2 |x| + 1) := lt_of_le_of_lt hx (by exact_mod_cast hlt)
  have hlog := (zpow_lt_zpow_iff_right₀ (by norm_num : (1 : ℚ) < 2)).mp hpow
  have hmax : max (Int.log 2 |x| - 52) (-1074) = Int.log 2 |x| + -52 := by omega
  have hle := Int.zpow_log_le_self (R := ℚ) (b := 2) (by norm_num) hpos
  unfold quantum
  rw [hmax, zpow_add₀ (by norm_num)]
  exact mul_le_mul_of_nonneg_right (by exact_mod_cast hle) (by positivity)

theorem abs_nearest_sub_le (hx : 2 ^ (-1022 : ℤ) ≤ |x|) : |nearest x - x| ≤ |x| * 2 ^ (-53 : ℤ) := by
  have hquantum := abs_nearest_sub_le_quantum x
  have hle := quantum_le_of_normal hx
  calc |nearest x - x| ≤ quantum x / 2 := hquantum
    _ ≤ |x| * 2 ^ (-52 : ℤ) / 2 := div_le_div_of_nonneg_right hle (by norm_num)
    _ = |x| * 2 ^ (-53 : ℤ) := by norm_num; ring

/-! ## Particular numbers -/

theorem log_eq {k : ℤ} (hlow : 2 ^ k ≤ |x|) (hhigh : |x| < 2 ^ (k + 1)) : Int.log 2 |x| = k := by
  have hpos : 0 < |x| := lt_of_lt_of_le (by positivity) hlow
  have hle := Int.zpow_log_le_self (R := ℚ) (b := 2) (by norm_num) hpos
  have hlt := Int.lt_zpow_succ_log_self (R := ℚ) (b := 2) (by norm_num) |x|
  have h₁ := (zpow_lt_zpow_iff_right₀ (by norm_num : (1 : ℚ) < 2)).mp (lt_of_le_of_lt hlow (by exact_mod_cast hlt))
  have h₂ := (zpow_lt_zpow_iff_right₀ (by norm_num : (1 : ℚ) < 2)).mp (lt_of_le_of_lt (by exact_mod_cast hle) hhigh)
  omega

/-- A number less than half its quantum above or below a number of the grid. -/
theorem nearest_eq {k : ℤ} (hlow : 2 ^ k ≤ |x|) (hhigh : |x| < 2 ^ (k + 1)) (hk : -1022 ≤ k) (hn : |x / 2 ^ (k - 52) - n| < 1 / 2) :
    nearest x = n * 2 ^ (k - 52) := by
  have hquantum : quantum x = 2 ^ (k - 52) := by
    unfold quantum
    rw [log_eq hlow hhigh, max_eq_left (by omega)]
  have hnear := abs_le.mp (abs_roundEven_sub_le (x / 2 ^ (k - 52)))
  have hn := abs_lt.mp hn
  have heq : roundEven (x / 2 ^ (k - 52)) = n := by
    have h₁ : (roundEven (x / 2 ^ (k - 52)) : ℚ) < n + 1 := by linarith
    have h₂ : (n : ℚ) < roundEven (x / 2 ^ (k - 52)) + 1 := by linarith
    have h₁ : roundEven (x / 2 ^ (k - 52)) < n + 1 := by exact_mod_cast h₁
    have h₂ : n < roundEven (x / 2 ^ (k - 52)) + 1 := by exact_mod_cast h₂
    omega
  unfold nearest
  rw [hquantum, heq]

/-! ## Against whole numbers -/

/-- Below `2 ^ 53` the whole numbers are on the grid. -/
theorem grid_of_lt (hx : |x| < 2 ^ 53) : max (Int.log 2 |x| - 52) (-1074) ≤ 0 := by
  rcases eq_or_ne x 0 with rfl | h0
  · simp
  · have hle := Int.zpow_log_le_self (R := ℚ) (b := 2) (by norm_num) (abs_pos.mpr h0)
    have hpow : (2 : ℚ) ^ Int.log 2 |x| < 2 ^ (53 : ℤ) := lt_of_le_of_lt (by exact_mod_cast hle) (by exact_mod_cast hx)
    have := (zpow_lt_zpow_iff_right₀ (by norm_num : (1 : ℚ) < 2)).mp hpow
    omega

/-- A whole number less than half a quantum above `x` is not above its rounding. -/
theorem intCast_le_nearest (hx : |x| < 2 ^ 53) (h : (n : ℚ) - x < quantum x / 2) : (n : ℚ) ≤ nearest x := by
  have hq := quantum_pos x
  obtain ⟨j, hj⟩ := div_quantum_int (grid_of_lt hx) n
  rw [zpow_zero, mul_one] at hj
  have hclose : (j : ℚ) - x / quantum x < 1 / 2 := by
    rw [← hj, ← sub_div, div_lt_iff₀ hq]
    linarith
  have hle : (j : ℚ) ≤ roundEven (x / quantum x) := by exact_mod_cast le_roundEven_of_close hclose
  calc (n : ℚ) = j * quantum x := by rw [← hj, div_mul_cancel₀ _ hq.ne']
    _ ≤ nearest x := mul_le_mul_of_nonneg_right hle hq.le

end Binary64
