/-
  AgentResilience.Backoff — how `retry_or_dead_letter` settles a delivery. The delay is
  `base * 2 ** (attempts - 1)` before it is capped at a minute, and it is computed for a
  delivery that is given up on too. Nothing bounds the attempts: every lapsed lease adds one.

  `retry_settles_iff`: the delivery is settled while the power has a float, up to 1024
  attempts. `retry_overflows`: after that the call raises and the row stays in processing.
-/
import AgentResilience.Lib.Binary64
import AgentResilience.Store

namespace AgentResilience

/-! ## The delay -/

/-- `min(60, base * 2 ^ (attempts - 1))`. -/
def retryDelay (base : Seconds) (attempts : Nat) : ℚ :=
  match base with
  | .finite q => min 60 (q * 2 ^ (attempts - 1))
  | .infinite => 60

/-- A base delay of at least zero. -/
def Seconds.nonneg : Seconds → Prop
  | finite q => 0 ≤ q
  | infinite => True

variable {base : Seconds} {attempts : Nat}

theorem retryDelay_nonneg (h : base.nonneg) (attempts : Nat) : 0 ≤ retryDelay base attempts := by
  cases base with
  | finite q => exact le_min (by norm_num) (mul_nonneg h (by positivity))
  | infinite => show (0 : ℚ) ≤ 60; norm_num

theorem retryDelay_le (base : Seconds) (attempts : Nat) : retryDelay base attempts ≤ 60 := by
  cases base with
  | finite q => exact min_le_left ..
  | infinite => exact le_refl _

theorem retryDelay_mono (h : base.nonneg) {a b : Nat} (hab : a ≤ b) : retryDelay base a ≤ retryDelay base b := by
  cases base with
  | finite q =>
    have hpow : (2 : ℚ) ^ (a - 1) ≤ 2 ^ (b - 1) := pow_le_pow_right₀ (by norm_num) (by omega)
    exact min_le_min_left _ (mul_le_mul_of_nonneg_left hpow h)
  | infinite => exact le_refl _

/-- The power has a float up to `2 ** 1023`. -/
theorem backoff_eq (base : Seconds) (attempts : Nat) : backoff base (attempts - 1) =
    if attempts ≤ 1024 then .ok (retryDelay base attempts) else .error (.overflow "int too large to convert to float") := by
  unfold backoff
  by_cases h : attempts ≤ 1024
  · rw [if_neg (by omega), if_pos h]
    cases base <;> rfl
  · rw [if_pos (by omega), if_neg h]

theorem timedelta_eq (q : ℚ) : timedelta q = Binary64.roundEven (q * 1000000) := rfl

theorem timedelta_bounds {q : ℚ} (h0 : 0 ≤ q) (h60 : q ≤ 60) : 0 ≤ timedelta q ∧ timedelta q ≤ seconds 60 := by
  rw [timedelta_eq]
  have habs := abs_le.mp (Binary64.abs_roundEven_sub_le (q * 1000000))
  constructor
  · exact Binary64.le_roundEven_of_close (n := 0) (by push_cast; linarith)
  · have hlt : (Binary64.roundEven (q * 1000000) : ℚ) < (60000001 : ℤ) := by push_cast; linarith [habs.2]
    have hlt : Binary64.roundEven (q * 1000000) < 60000001 := by exact_mod_cast hlt
    show Binary64.roundEven (q * 1000000) ≤ (60 * 1000000 : Int)
    omega

/-! ## Settling a delivery -/

variable {s : SQLiteStore} {now : Timestamp} {delivery : QueueDelivery} {error : String}

/-- The call returns; the delivery's row is dead if its attempts are spent, and otherwise waits for
    the delay, at most a minute and no shorter than after fewer attempts. -/
structure Settles (s : SQLiteStore) (now : Timestamp) (delivery : QueueDelivery) (error : String) (base : Seconds) : Prop where
  returns : (s.retryOrDeadLetter now delivery error base).1 = .ok (decide (delivery.maxAttempts ≤ delivery.attempts))
  row : ∀ row, s.queue.get delivery.id = some row → ∃ row', (s.retryOrDeadLetter now delivery error base).2.queue.get delivery.id = some row' ∧
    (row'.status = .dead ↔ delivery.maxAttempts ≤ delivery.attempts) ∧
    (delivery.attempts < delivery.maxAttempts → row'.status = .pending ∧
      row'.availableAt = now + timedelta (retryDelay base delivery.attempts) ∧ now ≤ row'.availableAt ∧ row'.availableAt ≤ now + seconds 60)
  bounded : 0 ≤ retryDelay base delivery.attempts ∧ retryDelay base delivery.attempts ≤ 60
  grows : ∀ fewer ≤ delivery.attempts, retryDelay base fewer ≤ retryDelay base delivery.attempts

/-- A delivery is settled exactly if it was claimed at most 1024 times. -/
theorem retry_settles_iff (s : SQLiteStore) (now : Timestamp) (delivery : QueueDelivery) (error : String) (hbase : base.nonneg) :
    Settles s now delivery error base ↔ delivery.attempts ≤ 1024 := by
  rcases he : s.retryOrDeadLetter now delivery error base with ⟨r, s'⟩
  have hdelay := backoff_eq base delivery.attempts
  constructor
  · intro h
    by_contra hmany
    rw [if_neg hmany] at hdelay
    have hreturns := h.returns
    rw [he] at hreturns
    rcases SQLiteStore.retryOrDeadLetter_cases he with ⟨⟨m, rfl⟩, -⟩ | ⟨delay, hok, -⟩
    · cases hreturns
    · rw [hdelay] at hok
      cases hok
  · intro hfew
    rw [if_pos hfew] at hdelay
    have hbounds := timedelta_bounds (retryDelay_nonneg hbase delivery.attempts) (retryDelay_le base delivery.attempts)
    rcases SQLiteStore.retryOrDeadLetter_cases he with ⟨⟨m, rfl⟩, rfl⟩ | ⟨delay, hok, rfl, hget, -⟩
    · exfalso
      unfold SQLiteStore.retryOrDeadLetter at he
      rw [hdelay] at he
      cases he
    · rw [hdelay] at hok
      cases hok
      refine ⟨by rw [he], fun row hrow => ?_, ⟨retryDelay_nonneg hbase _, retryDelay_le ..⟩, fun fewer hle => retryDelay_mono hbase hle⟩
      rw [he]
      have hafter := hget delivery.id
      rw [hrow, Option.map_some, if_pos rfl] at hafter
      refine ⟨_, hafter, ?_, fun hlt => ?_⟩
      · by_cases hdead : delivery.maxAttempts ≤ delivery.attempts <;> simp [hdead]
      · simp only [if_neg (Nat.not_le.mpr hlt)]
        exact ⟨trivial, trivial, Int.le_add_of_nonneg_right hbounds.1, Int.add_le_add_left hbounds.2 now⟩

/-! ## Too many attempts -/

/-- A row claimed `n` times, of at most five attempts. -/
def claimedOften (n : Nat) : SQLiteStore :=
  { SQLiteStore.empty with
    queue := ⟨[{ id := 1, taskId := "t", status := .processing, attempts := n, maxAttempts := 5, availableAt := 0, createdAt := 0, updatedAt := 0 }], by simp⟩ }

def oftenDelivered (n : Nat) : QueueDelivery := ⟨1, "t", n, 5, .obj []⟩

theorem nonneg_second : (Seconds.finite 1).nonneg := by
  show (0 : ℚ) ≤ 1
  norm_num

/-- After two attempts it is settled. -/
theorem retry_settles_twice : Settles (claimedOften 2) 0 (oftenDelivered 2) "timeout" (.finite 1) :=
  (retry_settles_iff (claimedOften 2) 0 (oftenDelivered 2) "timeout" nonneg_second).mpr (by decide)

/-- After 1025 the call raises, and the row, which is to be dead, is still in processing. -/
theorem retry_overflows :
    (claimedOften 1025).retryOrDeadLetter 0 (oftenDelivered 1025) "timeout" (.finite 1) =
      (.error (.overflow "int too large to convert to float"), claimedOften 1025) ∧
    ¬ Settles (claimedOften 1025) 0 (oftenDelivered 1025) "timeout" (.finite 1) := by
  have hraise : (claimedOften 1025).retryOrDeadLetter 0 (oftenDelivered 1025) "timeout" (.finite 1) =
      (.error (.overflow "int too large to convert to float"), claimedOften 1025) := by
    have hdelay := backoff_eq (.finite 1) 1025
    rw [if_neg (by decide)] at hdelay
    unfold SQLiteStore.retryOrDeadLetter
    rw [show (oftenDelivered 1025).attempts = 1025 from rfl, hdelay]
  refine ⟨hraise, fun h => ?_⟩
  have hreturns := h.returns
  rw [hraise] at hreturns
  cases hreturns

end AgentResilience
