/-
  AgentResilience.Lib.Calendar — the times of the years 1 to 9999 in order. A day counted
  from 1 March of year 0 is split into an era of 400 years, the year in it and the day of
  that year; each part grows with the day or leaves it to the next.

  - `valid_ofMicroseconds`: the datetime of such a time has its fields in their ranges.
  - `ofMicroseconds_lt_iff`: the later time has the later datetime.
  - `isoformat_lt_iff`, `isoformat_inj`: texts compare as the datetimes do.
-/
import Mathlib.Data.String.Basic
import Mathlib.Order.Monotone.Basic
import AgentResilience.Lib.DateTime

namespace DateTime

/-! ## The years of an era -/

/-- The days of an era's first `y` years. -/
def yearStart (y : Nat) : Nat := 365 * y + y / 4 - y / 100
def yearOfEra (doe : Nat) : Nat := (doe - doe / 1460 + doe / 36524 - doe / 146096) / 365

theorem yearStart_succ (y : Nat) : yearStart y + 365 ≤ yearStart (y + 1) := by
  unfold yearStart
  by_cases h : (y + 1) % 100 = 0
  · have : (y + 1) / 4 = y / 4 + 1 := by omega
    omega
  · have : (y + 1) / 100 = y / 100 := by omega
    omega

theorem yearStart_mono : Monotone yearStart :=
  monotone_nat_of_le_succ fun y => (Nat.le_add_right _ _).trans (yearStart_succ y)

theorem yearStart_century (c : Nat) {n : Nat} (hn : n < 100) : yearStart (100 * c + n) = 36524 * c + 365 * n + n / 4 := by
  have h4 : (100 * c + n) / 4 = 25 * c + n / 4 := by omega
  have h100 : (100 * c + n) / 100 = c := by omega
  rw [yearStart, h4, h100]
  omega

/-- In a century but the last day of the era. -/
theorem yearOfEra_century {c r : Nat} (hc : c < 4) (hr : r < 36524) :
    yearOfEra (36524 * c + r) = 100 * c + (r - (r + 24 * c) / 1460) / 365 := by
  have h1 : (36524 * c + r) / 1460 = 25 * c + (r + 24 * c) / 1460 := by omega
  have h2 : (36524 * c + r) / 36524 = c := by omega
  have h3 : (36524 * c + r) / 146096 = 0 := by omega
  rw [yearOfEra, h1, h2, h3]
  omega

/-- A day of an era is in its year. -/
theorem yearOfEra_spec {doe : Nat} (h : doe < 146097) :
    yearOfEra doe < 400 ∧ yearStart (yearOfEra doe) ≤ doe ∧ doe < yearStart (yearOfEra doe) + 366 ∧
      (yearOfEra doe < 399 → doe < yearStart (yearOfEra doe + 1)) := by
  by_cases hlast : doe = 146096
  · subst hlast
    decide
  obtain ⟨c, r, hc, hr, rfl⟩ : ∃ c r, c < 4 ∧ r < 36524 ∧ doe = 36524 * c + r :=
    ⟨doe / 36524, doe % 36524, by omega, by omega, by omega⟩
  rw [yearOfEra_century hc hr]
  generalize hq : (r + 24 * c) / 1460 = q
  generalize hn : (r - q) / 365 = n
  have hq25 : q ≤ 25 := by omega
  have hn99 : n < 100 := by omega
  have hlow : n / 4 ≤ q := by omega
  have hhigh : 4 * q ≤ n + 1 := by omega
  rw [yearStart_century c hn99]
  refine ⟨by omega, by omega, by omega, fun _ => ?_⟩
  by_cases hn' : n = 99
  · subst hn'
    rw [show 100 * c + 99 + 1 = 100 * (c + 1) + 0 by omega, yearStart_century _ (by decide)]
    omega
  · rw [Nat.add_assoc, yearStart_century c (by omega)]
    omega

/-! ## A day's date -/

/-- The era of a day, and its day in it; days are counted from 1 March of year 0. -/
def era (z : Int) : Int := z / 146097
def dayOfEra (z : Int) : Nat := (z % 146097).toNat

/-- The year that began on the last 1 March, and the day in it. -/
def marchYear (z : Int) : Int := era z * 400 + yearOfEra (dayOfEra z)
def dayOfYear (z : Int) : Nat := dayOfEra z - yearStart (yearOfEra (dayOfEra z))

theorem dayOfYear_lt (z : Int) : dayOfYear z < 366 := by
  have hdoe : dayOfEra z < 146097 := by
    unfold dayOfEra
    omega
  obtain ⟨-, hstart, hend, -⟩ := yearOfEra_spec hdoe
  unfold dayOfYear
  omega

/-- A later day is in a later year, or later in the same one. -/
theorem marchYear_lt {z z' : Int} (h : z < z') :
    marchYear z < marchYear z' ∨ marchYear z = marchYear z' ∧ dayOfYear z < dayOfYear z' := by
  have hdoe : dayOfEra z < 146097 ∧ (dayOfEra z : Int) = z % 146097 := by
    unfold dayOfEra
    omega
  have hdoe' : dayOfEra z' < 146097 ∧ (dayOfEra z' : Int) = z' % 146097 := by
    unfold dayOfEra
    omega
  obtain ⟨hyoe, hstart, -, -⟩ := yearOfEra_spec hdoe.1
  obtain ⟨hyoe', hstart', -, hend'⟩ := yearOfEra_spec hdoe'.1
  unfold marchYear dayOfYear
  by_cases hera : era z < era z'
  · left
    omega
  · have hera : era z = era z' ∧ dayOfEra z < dayOfEra z' := by
      unfold era at *
      omega
    have hle : yearOfEra (dayOfEra z) ≤ yearOfEra (dayOfEra z') := by
      by_contra hlt
      -- the earlier day would begin after the later one's year has ended
      have := yearStart_mono (show yearOfEra (dayOfEra z') + 1 ≤ yearOfEra (dayOfEra z) by omega)
      have := hend' (by omega)
      omega
    rcases Nat.lt_or_eq_of_le hle with hlt | heq
    · left
      omega
    · right
      rw [heq] at hstart ⊢
      omega

/-- The month counted from March, and the day of the month. -/
def monthFromMarch (doy : Nat) : Nat := (5 * doy + 2) / 153
def dayOfMonth (doy : Nat) : Nat := doy - (153 * monthFromMarch doy + 2) / 5 + 1

theorem monthFromMarch_spec {doy : Nat} (h : doy < 366) :
    monthFromMarch doy < 12 ∧ 1 ≤ dayOfMonth doy ∧ dayOfMonth doy ≤ 31 := by
  unfold dayOfMonth monthFromMarch
  omega

theorem monthFromMarch_lt {doy doy' : Nat} (h : doy < doy') :
    monthFromMarch doy < monthFromMarch doy' ∨ monthFromMarch doy = monthFromMarch doy' ∧ dayOfMonth doy < dayOfMonth doy' := by
  unfold dayOfMonth monthFromMarch
  omega

/-- January and February belong to the year after. -/
def monthNumber (mp : Nat) : Nat := if mp < 10 then mp + 3 else mp - 9

def civilYear (z : Int) : Nat := (marchYear z).toNat + if monthNumber (monthFromMarch (dayOfYear z)) ≤ 2 then 1 else 0
def civilMonth (z : Int) : Nat := monthNumber (monthFromMarch (dayOfYear z))
def civilDay (z : Int) : Nat := dayOfMonth (dayOfYear z)

theorem ofMicroseconds_eq (t : Int) :
    let z := t / 86400000000 + 719468
    let us := (t % 86400000000).toNat
    ofMicroseconds t = ⟨civilYear z, civilMonth z, civilDay z, us / 3600000000, us / 60000000 % 60, us / 1000000 % 60,
      us % 1000000⟩ := rfl

/-- The months from March to December are of the March year, January and February of the next. -/
theorem civil_cases (z : Int) :
    (civilYear z = (marchYear z).toNat ∧ civilMonth z = monthFromMarch (dayOfYear z) + 3 ∧ monthFromMarch (dayOfYear z) < 10) ∨
      (civilYear z = (marchYear z).toNat + 1 ∧ civilMonth z = monthFromMarch (dayOfYear z) - 9 ∧
        10 ≤ monthFromMarch (dayOfYear z) ∧ monthFromMarch (dayOfYear z) < 12) := by
  have hmonth := (monthFromMarch_spec (dayOfYear_lt z)).1
  unfold civilYear civilMonth monthNumber
  by_cases h : monthFromMarch (dayOfYear z) < 10
  · rw [if_pos h, if_neg (by omega)]
    omega
  · rw [if_neg h, if_pos (by omega)]
    omega

theorem civil_range (z : Int) : 1 ≤ civilMonth z ∧ civilMonth z ≤ 12 ∧ 1 ≤ civilDay z ∧ civilDay z ≤ 31 := by
  obtain ⟨-, hday⟩ := monthFromMarch_spec (dayOfYear_lt z)
  have hcases := civil_cases z
  exact ⟨by omega, by omega, hday⟩

/-- A later day has the later date. -/
theorem civil_lt {z z' : Int} (h0 : 0 ≤ z) (h : z < z') : civilYear z < civilYear z' ∨ civilYear z = civilYear z' ∧
    (civilMonth z < civilMonth z' ∨ civilMonth z = civilMonth z' ∧ civilDay z < civilDay z') := by
  have hy0 : 0 ≤ marchYear z := by
    unfold marchYear era
    omega
  have hcases := civil_cases z
  have hcases' := civil_cases z'
  rcases marchYear_lt h with hlt | ⟨heq, hlt⟩
  · omega
  · rcases monthFromMarch_lt hlt with hlt | ⟨heq', hlt⟩
    · omega
    · right
      rw [heq, heq'] at hcases
      exact ⟨by omega, .inr ⟨by omega, hlt⟩⟩

/-! ## Times -/

/-- A time of the years 1 to 9999. -/
def Representable (t : Int) : Prop := -62135596800000000 ≤ t ∧ t < 253402300800000000

instance (t : Int) : Decidable (Representable t) := inferInstanceAs (Decidable (_ ∧ _))

theorem civilYear_range {z : Int} (h : 306 ≤ z ∧ z ≤ 3652364) : 1 ≤ civilYear z ∧ civilYear z ≤ 9999 := by
  have hfirst : civilYear 306 = 1 := by decide
  have hlast : civilYear 3652364 = 9999 := by decide
  constructor
  · by_cases he : 306 = z
    · rw [← he, hfirst]
    · rcases civil_lt (by decide) (show (306 : Int) < z by omega) with hlt | ⟨heq, -⟩ <;> omega
  · by_cases he : z = 3652364
    · rw [he, hlast]
    · rcases civil_lt (by omega) (show z < 3652364 by omega) with hlt | ⟨heq, -⟩ <;> omega

theorem valid_ofMicroseconds {t : Int} (h : Representable t) : (ofMicroseconds t).Valid := by
  obtain ⟨hlow, hhigh⟩ := h
  obtain ⟨hm1, hm12, hday⟩ := civil_range (t / 86400000000 + 719468)
  rw [ofMicroseconds_eq]
  refine ⟨civilYear_range (by omega), ⟨hm1, hm12⟩, hday, ?_, ?_, ?_, ?_⟩ <;> simp only <;> omega

/-- A later time has the later datetime. -/
theorem ofMicroseconds_lt {s t : Int} (hs : Representable s) (h : s < t) : ofMicroseconds s < ofMicroseconds t := by
  obtain ⟨hlow, -⟩ := hs
  show (ofMicroseconds s).fields < (ofMicroseconds t).fields
  simp only [ofMicroseconds_eq, fields, List.cons_lt_cons_iff, List.not_lt_nil, and_false, or_false]
  by_cases hday : s / 86400000000 < t / 86400000000
  · rcases civil_lt (show 0 ≤ s / 86400000000 + 719468 by omega)
      (show s / 86400000000 + 719468 < t / 86400000000 + 719468 by omega) with hlt | ⟨heq, hlt | ⟨heq', hlt⟩⟩
    · exact .inl hlt
    · exact .inr ⟨heq, .inl hlt⟩
    · exact .inr ⟨heq, .inr ⟨heq', .inl hlt⟩⟩
  · -- on one day the time of day decides
    have hsame : s / 86400000000 = t / 86400000000 := by omega
    have hus : (s % 86400000000).toNat < (t % 86400000000).toNat := by omega
    rw [hsame]
    refine .inr ⟨rfl, .inr ⟨rfl, .inr ⟨rfl, ?_⟩⟩⟩
    omega

theorem ofMicroseconds_lt_iff {s t : Int} (hs : Representable s) (ht : Representable t) :
    ofMicroseconds s < ofMicroseconds t ↔ s < t := by
  refine ⟨fun h => ?_, ofMicroseconds_lt hs⟩
  by_contra hle
  rcases Int.lt_or_eq_of_le (show t ≤ s by omega) with hlt | rfl
  · exact List.lt_asymm h (ofMicroseconds_lt ht hlt)
  · exact List.lt_irrefl _ h

/-! ## The texts order as the datetimes -/

theorem lt_or_eq_or_gt (a b : DateTime) : a < b ∨ a = b ∨ b < a := by
  rcases lt_trichotomy a.fields b.fields with h | h | h
  · exact .inl h
  · cases a
    cases b
    simp only [fields, List.cons.injEq, and_true] at h
    exact .inr (.inl (by simpa using h))
  · exact .inr (.inr h)

theorem isoformat_lt {a b : DateTime} (hb : b.Valid) (h : a < b) : a.isoformat < b.isoformat :=
  String.lt_iff_toList_lt.mpr (below_isoformat hb h).lt

theorem isoformat_inj {a b : DateTime} (ha : a.Valid) (hb : b.Valid) : a.isoformat = b.isoformat ↔ a = b := by
  refine ⟨fun h => ?_, congrArg isoformat⟩
  have hread := fromisoformat_isoformat ha
  rw [h, fromisoformat_isoformat hb] at hread
  exact (Option.some.inj hread).symm

theorem isoformat_lt_iff {a b : DateTime} (ha : a.Valid) (hb : b.Valid) : a.isoformat < b.isoformat ↔ a < b := by
  refine ⟨fun h => ?_, isoformat_lt hb⟩
  rcases lt_or_eq_or_gt a b with hlt | rfl | hgt
  · exact hlt
  · exact absurd h (lt_irrefl _)
  · exact absurd (lt_trans h (isoformat_lt ha hgt)) (lt_irrefl _)

end DateTime
