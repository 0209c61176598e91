/-
  AgentResilience.Lib.DateTime — UTC datetimes and their ISO text. `ofMicroseconds` splits
  a number of microseconds since the epoch into its fields (days counted in 400-year eras
  from 1 March of year 0); `isoformat` is Python's, which leaves the fraction out when it
  is zero.

  `below_isoformat`: an earlier datetime has the smaller text, by a character that both have,
  so whatever follows the two texts. `fromisoformat_isoformat`: the text reads back.
-/
import Mathlib.Algebra.Ring.Nat
import Mathlib.Data.Int.Notation
import Mathlib.Data.List.Lex

namespace TextOrder

/-! ## Texts by their first difference -/

/-- One text is below another by a character they both have. -/
def Below (a b : List Char) : Prop := ∃ p c d x y, a = p ++ c :: x ∧ b = p ++ d :: y ∧ c < d

theorem Below.append {a b : List Char} (h : Below a b) (x y : List Char) : Below (a ++ x) (b ++ y) := by
  obtain ⟨p, c, d, u, v, rfl, rfl, hlt⟩ := h
  exact ⟨p, c, d, u ++ x, v ++ y, by simp, by simp, hlt⟩

theorem Below.prepend {a b : List Char} (h : Below a b) (p : List Char) : Below (p ++ a) (p ++ b) := by
  obtain ⟨q, c, d, u, v, rfl, rfl, hlt⟩ := h
  exact ⟨p ++ q, c, d, u, v, by simp, by simp, hlt⟩

theorem Below.lt {a b : List Char} (h : Below a b) : a < b := by
  obtain ⟨p, c, d, u, v, rfl, rfl, hlt⟩ := h
  induction p with
  | nil => exact List.Lex.rel hlt
  | cons e p ih => exact List.Lex.cons ih

/-- A common beginning decides nothing. -/
theorem append_lt_append_iff (p : List Char) {a b : List Char} : p ++ a < p ++ b ↔ a < b := by
  induction p with
  | nil => rfl
  | cons c p ih => simp [ih]

/-! ## Digits -/

theorem digit_lt {c : Char} (h : c.isDigit = true) : 48 ≤ c.toNat ∧ c.toNat < 58 := by
  simp only [Char.isDigit, Bool.and_eq_true, decide_eq_true_eq] at h
  have h1 : 48 ≤ c.toNat := h.1
  have h2 : c.toNat ≤ 57 := h.2
  omega

theorem ofDigitChars_cons_zero (c : Char) (ds : List Char) :
    Nat.ofDigitChars 10 (c :: ds) 0 = 10 ^ ds.length * (c.toNat - 48) + Nat.ofDigitChars 10 ds 0 := by
  rw [Nat.ofDigitChars_cons, Nat.ofDigitChars_eq_ofDigitChars_zero]
  simp

theorem ofDigitChars_lt {ds : List Char} (h : ∀ c ∈ ds, c.isDigit = true) : Nat.ofDigitChars 10 ds 0 < 10 ^ ds.length := by
  induction ds with
  | nil => simp
  | cons c ds ih =>
    have hrest := ih fun x hx => h x (List.mem_cons_of_mem _ hx)
    have hc := digit_lt (h c List.mem_cons_self)
    have hmul : 10 ^ ds.length * (c.toNat - 48) ≤ 10 ^ ds.length * 9 := Nat.mul_le_mul_left _ (by omega)
    rw [ofDigitChars_cons_zero, List.length_cons, Nat.pow_succ]
    omega

/-- Of two texts of as many digits, the one of the smaller number is below. -/
theorem below_digits {a : List Char} : ∀ {b : List Char}, a.length = b.length → (∀ c ∈ a, c.isDigit = true) →
    (∀ c ∈ b, c.isDigit = true) → Nat.ofDigitChars 10 a 0 < Nat.ofDigitChars 10 b 0 → Below a b := by
  induction a with
  | nil =>
    intro b hlen _ _ hlt
    rw [List.length_eq_zero_iff.mp hlen.symm] at hlt
    exact absurd hlt (Nat.lt_irrefl _)
  | cons c a ih =>
    intro b hlen ha hb hlt
    cases b with
    | nil => cases hlen
    | cons d b =>
      simp only [List.length_cons, Nat.add_right_cancel_iff] at hlen
      have ha' : ∀ x ∈ a, x.isDigit = true := fun x hx => ha x (List.mem_cons_of_mem _ hx)
      have hb' : ∀ x ∈ b, x.isDigit = true := fun x hx => hb x (List.mem_cons_of_mem _ hx)
      have hc := digit_lt (ha c List.mem_cons_self)
      have hd := digit_lt (hb d List.mem_cons_self)
      rw [ofDigitChars_cons_zero, ofDigitChars_cons_zero, hlen] at hlt
      rcases Nat.lt_trichotomy c.toNat d.toNat with h | h | h
      · exact ⟨[], c, d, a, b, rfl, rfl, h⟩
      · have hcd : c = d := Char.toNat_inj.mp h
        subst hcd
        exact (ih hlen ha' hb' (by omega)).prepend [c]
      · -- a larger first digit outweighs all the others
        have hlast := ofDigitChars_lt hb'
        have hmul : 10 ^ b.length * (d.toNat - 48 + 1) ≤ 10 ^ b.length * (c.toNat - 48) := Nat.mul_le_mul_left _ (by omega)
        rw [Nat.mul_add] at hmul
        omega

end TextOrder

structure DateTime where
  year : Nat
  month : Nat
  day : Nat
  hour : Nat
  minute : Nat
  second : Nat
  microsecond : Nat
  deriving DecidableEq, Repr

namespace DateTime

def ofMicroseconds (t : Int) : DateTime :=
  let days := t / 86400000000
  let us := (t % 86400000000).toNat
  let z := days + 719468
  let era := z / 146097
  let doe := (z % 146097).toNat
  let yoe := (doe - doe / 1460 + doe / 36524 - doe / 146096) / 365
  let doy := doe - (365 * yoe + yoe / 4 - yoe / 100)
  let mp := (5 * doy + 2) / 153
  let month := if mp < 10 then mp + 3 else mp - 9
  let year := (era * 400 + yoe).toNat + if month ≤ 2 then 1 else 0
  { year, month
    day := doy - (153 * mp + 2) / 5 + 1
    hour := us / 3600000000
    minute := us / 60000000 % 60
    second := us / 1000000 % 60
    microsecond := us % 1000000 }

/-- `n` in decimal, padded with zeros to `width` digits. -/
def padded (width n : Nat) : String :=
  let ds := toString n
  String.ofList (List.replicate (width - ds.length) '0') ++ ds

def isoformat (d : DateTime) : String :=
  padded 4 d.year ++ "-" ++ padded 2 d.month ++ "-" ++ padded 2 d.day ++ "T" ++ padded 2 d.hour ++ ":" ++
    padded 2 d.minute ++ ":" ++ padded 2 d.second ++
    (if d.microsecond = 0 then "" else "." ++ padded 6 d.microsecond) ++ "+00:00"

open TextOrder

/-! ## Padded numbers -/


theorem toList_padded (width n : Nat) :
    (padded width n).toList = List.replicate (width - (Nat.toDigits 10 n).length) '0' ++ Nat.toDigits 10 n := by
  have hn : (toString n).toList = Nat.toDigits 10 n := by rw [Nat.toString_eq_ofList_toDigits, String.toList_ofList]
  rw [padded, String.toList_append, String.toList_ofList, hn, ← String.length_toList, hn]

theorem isDigit_padded (width n : Nat) : ∀ c ∈ (padded width n).toList, c.isDigit = true := by
  intro c hc
  rw [toList_padded] at hc
  rcases List.mem_append.mp hc with hc | hc
  · rw [List.eq_of_mem_replicate hc]
    rfl
  · exact Nat.isDigit_of_mem_toDigits (by decide) (by decide) hc

theorem ofDigitChars_padded (width n : Nat) : Nat.ofDigitChars 10 (padded width n).toList 0 = n := by
  rw [toList_padded, Nat.ofDigitChars_append, Nat.ofDigitChars_replicate_zero, Nat.mul_zero, Nat.ofDigitChars_ten_toDigits]

theorem length_padded {width n : Nat} (hw : 0 < width) (h : n < 10 ^ width) : (padded width n).toList.length = width := by
  have := (Nat.length_toDigits_le_iff (b := 10) (by decide) hw).mpr h
  rw [toList_padded, List.length_append, List.length_replicate]
  omega

theorem below_padded {width m n : Nat} (hw : 0 < width) (hn : n < 10 ^ width) (h : m < n) :
    Below (padded width m).toList (padded width n).toList :=
  below_digits (by rw [length_padded hw hn, length_padded hw (by omega)]) (isDigit_padded width m)
    (isDigit_padded width n) (by rw [ofDigitChars_padded, ofDigitChars_padded]; exact h)

/-! ## The order of datetimes and of their texts -/

/-- The ranges of a `datetime`'s fields. -/
structure Valid (d : DateTime) : Prop where
  year : 1 ≤ d.year ∧ d.year ≤ 9999
  month : 1 ≤ d.month ∧ d.month ≤ 12
  day : 1 ≤ d.day ∧ d.day ≤ 31
  hour : d.hour ≤ 23
  minute : d.minute ≤ 59
  second : d.second ≤ 59
  microsecond : d.microsecond ≤ 999999

/-- Datetimes of one zone are compared field by field. -/
def fields (d : DateTime) : List Nat := [d.year, d.month, d.day, d.hour, d.minute, d.second, d.microsecond]

instance : LT DateTime := ⟨fun a b => a.fields < b.fields⟩

instance (a b : DateTime) : Decidable (a < b) := inferInstanceAs (Decidable (a.fields < b.fields))

/-- What follows the seconds. -/
def fractionText (microsecond : Nat) : List Char := (if microsecond = 0 then "" else "." ++ padded 6 microsecond).toList

theorem toList_isoformat (d : DateTime) : d.isoformat.toList =
    (padded 4 d.year).toList ++ ('-' :: ((padded 2 d.month).toList ++ ('-' :: ((padded 2 d.day).toList ++
      ('T' :: ((padded 2 d.hour).toList ++ (':' :: ((padded 2 d.minute).toList ++ (':' :: ((padded 2 d.second).toList ++
        (fractionText d.microsecond ++ ['+', '0', '0', ':', '0', '0'])))))))))))  := by
  simp [isoformat, fractionText]

theorem below_fraction {m n : Nat} (hn : n ≤ 999999) (h : m < n) (x y : List Char) :
    Below (fractionText m ++ '+' :: x) (fractionText n ++ '+' :: y) := by
  have hn0 : n ≠ 0 := by omega
  unfold fractionText
  rw [if_neg hn0, String.toList_append]
  by_cases hm : m = 0
  · -- no fraction: its sign is below the other's point
    rw [if_pos hm]
    exact ⟨[], '+', '.', x, (padded 6 n).toList ++ '+' :: y, rfl, by simp, by decide⟩
  · rw [if_neg hm, String.toList_append]
    have := below_padded (show 0 < 6 by decide) (by omega) h
    exact (this.prepend _).append _ _

/-- A field decides, or leaves it to what follows. -/
theorem below_field {width m n : Nat} (hw : 0 < width) (hn : n < 10 ^ width) {x y : List Char}
    (h : m < n ∨ m = n ∧ Below x y) : Below ((padded width m).toList ++ x) ((padded width n).toList ++ y) := by
  rcases h with h | ⟨rfl, h⟩
  · exact (below_padded hw hn h).append x y
  · exact h.prepend _

theorem below_cons {x y : List Char} (c : Char) (h : Below x y) : Below (c :: x) (c :: y) := h.prepend [c]

/-- An earlier datetime's text is below. -/
theorem below_isoformat {a b : DateTime} (hb : b.Valid) (h : a < b) : Below a.isoformat.toList b.isoformat.toList := by
  have h : a.fields < b.fields := h
  obtain ⟨hyear, hmonth, hday, hhour, hminute, hsecond, hmicro⟩ := hb
  simp only [fields, List.cons_lt_cons_iff, List.not_lt_nil, and_false, or_false] at h
  rw [toList_isoformat, toList_isoformat]
  refine below_field (by decide) (by omega) (h.imp_right (And.imp_right fun h => below_cons '-' ?_))
  refine below_field (by decide) (by omega) (h.imp_right (And.imp_right fun h => below_cons '-' ?_))
  refine below_field (by decide) (by omega) (h.imp_right (And.imp_right fun h => below_cons 'T' ?_))
  refine below_field (by decide) (by omega) (h.imp_right (And.imp_right fun h => below_cons ':' ?_))
  refine below_field (by decide) (by omega) (h.imp_right (And.imp_right fun h => below_cons ':' ?_))
  refine below_field (by decide) (by omega) (h.imp_right (And.imp_right fun h => ?_))
  exact below_fraction hmicro h _ _

/-! ## Reading the text -/

/-- A number of `width` digits, and the rest. -/
def readField (width : Nat) (cs : List Char) : Option (Nat × List Char) :=
  if (cs.take width).length = width ∧ (cs.take width).all Char.isDigit then
    some (Nat.ofDigitChars 10 (cs.take width) 0, cs.drop width)
  else none

def expect (c : Char) (cs : List Char) : Option (List Char) := if cs.head? = some c then some cs.tail else none

def readFraction (cs : List Char) : Option (Nat × List Char) :=
  if cs.head? = some '.' then readField 6 cs.tail else some (0, cs)

/-- `datetime.fromisoformat`, on what `isoformat` writes of a UTC datetime. -/
def fromisoformat (s : String) : Option DateTime := do
  let (year, cs) ← readField 4 s.toList
  let cs ← expect '-' cs
  let (month, cs) ← readField 2 cs
  let cs ← expect '-' cs
  let (day, cs) ← readField 2 cs
  let cs ← expect 'T' cs
  let (hour, cs) ← readField 2 cs
  let cs ← expect ':' cs
  let (minute, cs) ← readField 2 cs
  let cs ← expect ':' cs
  let (second, cs) ← readField 2 cs
  let (microsecond, cs) ← readFraction cs
  if cs = ['+', '0', '0', ':', '0', '0'] then some ⟨year, month, day, hour, minute, second, microsecond⟩ else none

theorem readField_padded {width n : Nat} (hw : 0 < width) (h : n < 10 ^ width) (rest : List Char) :
    readField width ((padded width n).toList ++ rest) = some (n, rest) := by
  have hlen := length_padded hw h
  have htake : ((padded width n).toList ++ rest).take width = (padded width n).toList := List.take_left' hlen
  have hdrop : ((padded width n).toList ++ rest).drop width = rest := List.drop_left' hlen
  have hall : (padded width n).toList.all Char.isDigit = true := List.all_eq_true.mpr (isDigit_padded width n)
  unfold readField
  rw [htake, hdrop, if_pos ⟨hlen, hall⟩, ofDigitChars_padded]

theorem fromisoformat_isoformat {d : DateTime} (h : d.Valid) : fromisoformat d.isoformat = some d := by
  obtain ⟨hyear, hmonth, hday, hhour, hminute, hsecond, hmicro⟩ := h
  have hexpect : ∀ c cs, expect c (c :: cs) = some cs := fun c cs => by simp [expect]
  have hfraction : readFraction (fractionText d.microsecond ++ ['+', '0', '0', ':', '0', '0']) =
      some (d.microsecond, ['+', '0', '0', ':', '0', '0']) := by
    unfold fractionText
    by_cases h0 : d.microsecond = 0
    · rw [h0]
      rfl
    · rw [if_neg h0, String.toList_append]
      have := readField_padded (show 0 < 6 by decide) (show d.microsecond < 10 ^ 6 by omega) ['+', '0', '0', ':', '0', '0']
      simpa [readFraction] using this
  unfold fromisoformat
  rw [toList_isoformat, readField_padded (by decide) (by omega)]
  simp only [Option.bind_eq_bind, Option.bind_some, hexpect]
  rw [readField_padded (by decide) (by omega)]
  simp only [Option.bind_some, hexpect]
  rw [readField_padded (by decide) (by omega)]
  simp only [Option.bind_some, hexpect]
  rw [readField_padded (by decide) (by omega)]
  simp only [Option.bind_some, hexpect]
  rw [readField_padded (by decide) (by omega)]
  simp only [Option.bind_some, hexpect]
  rw [readField_padded (by decide) (by omega)]
  simp only [Option.bind_some, hfraction, if_true]

end DateTime
