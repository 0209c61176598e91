/-
  AgentResilience.Lib.JsonNumbers — a number's text reads back: integers, and floats by
  Python's repr in each of its forms (the point before, after or among the digits, or an
  exponent). `readNumber_parts` reads the parts; the forms only say what the parts are.
-/
import Mathlib.Data.List.TakeWhile
import AgentResilience.Lib.JsonText

namespace Json

/-! ## Numbers read back -/

/-- The text does not go on with what a number could go on with. -/
def Ends (rest : List Char) : Prop := ∀ c ∈ rest.head?, c.isDigit = false ∧ c ≠ '.' ∧ c ≠ 'e' ∧ c ≠ 'E'

theorem readDigits_append {ds rest : List Char} (hne : ds ≠ []) (hds : ∀ c ∈ ds, c.isDigit = true)
    (hrest : ∀ c ∈ rest.head?, c.isDigit = false) : readDigits (ds ++ rest) = some (ds, rest) := by
  have htake : rest.takeWhile Char.isDigit = [] := by
    cases rest with
    | nil => rfl
    | cons c cs => simp [hrest c rfl]
  have hdrop : rest.dropWhile Char.isDigit = rest := by
    cases rest with
    | nil => rfl
    | cons c cs => simp [hrest c rfl]
  unfold readDigits
  rw [List.takeWhile_append_of_pos hds, List.dropWhile_append_of_pos hds, htake, hdrop]
  simp [hne]

/-- A positive number's digits start with no zero. -/
theorem head_toDigits {n : Nat} (h : n ≠ 0) : (Nat.toDigits 10 n).head? ≠ some '0' := by
  induction n using Nat.strongRecOn with
  | ind n ih =>
    by_cases hlt : n < 10
    · have hall : ∀ m < 10, m ≠ 0 → ([m.digitChar] : List Char).head? ≠ some '0' := by decide
      rw [Nat.toDigits_of_lt_base hlt]
      exact hall n hlt h
    · have hrec := ih (n / 10) (by omega) (by omega)
      rw [Nat.toDigits_of_base_le (by decide) (by omega)]
      cases hd : Nat.toDigits 10 (n / 10) with
      | nil => exact absurd hd Nat.toDigits_ne_nil
      | cons c cs =>
        rw [hd] at hrec
        simpa using hrec

theorem isDigit_toDigits {n : Nat} : ∀ c ∈ Nat.toDigits 10 n, c.isDigit = true :=
  fun _ hc => Nat.isDigit_of_mem_toDigits (by decide) (by decide) hc

theorem leadingZero_toDigits (n : Nat) (more : List Char) (h : n ≠ 0 ∨ more = []) :
    leadingZero (Nat.toDigits 10 n ++ more) = false := by
  by_cases hn : n = 0
  · subst hn
    obtain rfl : more = [] := h.resolve_left (by simp)
    rfl
  · have hhead := head_toDigits hn
    cases hd : Nat.toDigits 10 n with
    | nil => exact absurd hd Nat.toDigits_ne_nil
    | cons c cs =>
      rw [hd] at hhead
      simp only [List.head?_cons, ne_eq, Option.some.injEq] at hhead
      simp [leadingZero, hhead]

theorem toList_toString (n : Nat) : (toString n).toList = Nat.toDigits 10 n := by
  rw [Nat.toString_eq_ofList_toDigits, String.toList_ofList]

/-- A number is read part by part. -/
theorem readNumber_parts (neg : Bool) (frac exp : List Char) {whole rest : List Char} {fraction : Option (List Char)} {exponent : Option Int}
    (hne : whole ≠ []) (hw : ∀ c ∈ whole, c.isDigit = true) (hz : leadingZero whole = false)
    (hend : ∀ c ∈ (frac ++ (exp ++ rest)).head?, c.isDigit = false)
    (hf : readFraction (frac ++ (exp ++ rest)) = some (fraction, exp ++ rest))
    (he : readExponent (exp ++ rest) = some (exponent, rest)) :
    readNumber ((if neg then ['-'] else []) ++ (whole ++ (frac ++ (exp ++ rest)))) = some
      (if fraction = none ∧ exponent = none then
        int (if neg then -(Nat.ofDigitChars 10 whole 0 : Int) else (Nat.ofDigitChars 10 whole 0 : Int))
      else float (Decimal.ofDigits neg (Nat.ofDigitChars 10 (whole ++ fraction.getD []) 0)
        (exponent.getD 0 - (fraction.getD []).length)), rest) := by
  have hsign : decide (((if neg then ['-'] else []) ++ (whole ++ (frac ++ (exp ++ rest)))).head? = some '-') = neg := by
    cases neg with
    | true => rfl
    | false =>
      cases whole with
      | nil => exact absurd rfl hne
      | cons c cs =>
        have hc : c ≠ '-' := by
          rintro rfl
          exact absurd (hw '-' (by simp)) (by decide)
        simpa using hc
  have hbody : (if neg then ((if neg then ['-'] else []) ++ (whole ++ (frac ++ (exp ++ rest)))).tail
      else (if neg then ['-'] else []) ++ (whole ++ (frac ++ (exp ++ rest)))) = whole ++ (frac ++ (exp ++ rest)) := by
    cases neg <;> rfl
  unfold readNumber
  simp only [hsign, hbody, readDigits_append hne hw hend, Option.bind_eq_bind, Option.bind_some, hz, Bool.false_eq_true, if_false, hf, he]
  split <;> rfl

theorem readFraction_none {cs : List Char} (h : ∀ c ∈ cs.head?, c ≠ '.') : readFraction cs = some (none, cs) := by
  unfold readFraction
  rw [if_neg]
  intro hc
  exact h '.' hc rfl

theorem readFraction_digits {ds rest : List Char} (hne : ds ≠ []) (hds : ∀ c ∈ ds, c.isDigit = true)
    (hrest : ∀ c ∈ rest.head?, c.isDigit = false) : readFraction (('.' :: ds) ++ rest) = some (some ds, rest) := by
  unfold readFraction
  simp [readDigits_append hne hds hrest]

theorem readExponent_none {cs : List Char} (h : ∀ c ∈ cs.head?, c ≠ 'e' ∧ c ≠ 'E') : readExponent cs = some (none, cs) := by
  unfold readExponent
  rw [if_neg]
  rintro (hc | hc)
  · exact (h 'e' hc).1 rfl
  · exact (h 'E' hc).2 rfl

theorem readExponent_digits (neg : Bool) {ds rest : List Char} (hne : ds ≠ []) (hds : ∀ c ∈ ds, c.isDigit = true)
    (hrest : ∀ c ∈ rest.head?, c.isDigit = false) :
    readExponent (('e' :: (if neg then '-' else '+') :: ds) ++ rest) =
      some (some (if neg then -(Nat.ofDigitChars 10 ds 0 : Int) else (Nat.ofDigitChars 10 ds 0 : Int)), rest) := by
  unfold readExponent
  cases neg <;> simp [readDigits_append hne hds hrest]

theorem readNumber_int (n : Int) {rest : List Char} (hrest : Ends rest) :
    readNumber ((toString n).toList ++ rest) = some (int n, rest) := by
  have hnat : ∀ (neg : Bool) (m : Nat), readNumber ((if neg then ['-'] else []) ++ (Nat.toDigits 10 m ++ rest)) =
      some (int (if neg then -(m : Int) else (m : Int)), rest) := by
    intro neg m
    have hz := leadingZero_toDigits m [] (.inr rfl)
    rw [List.append_nil] at hz
    have h := readNumber_parts neg [] [] Nat.toDigits_ne_nil isDigit_toDigits hz
      (fun c hc => (hrest c hc).1) (readFraction_none fun c hc => (hrest c hc).2.1) (readExponent_none fun c hc => (hrest c hc).2.2)
    simpa using h
  cases n with
  | ofNat m =>
    have h := hnat false m
    rw [← toList_toString] at h
    exact h
  | negSucc m =>
    have h := hnat true (m + 1)
    rw [← toList_toString] at h
    have ht : (toString (Int.negSucc m)).toList = '-' :: (toString (m + 1)).toList := by
      rw [Int.toString_eq_repr]
      simp [Int.repr]
    rw [ht]
    exact h


/-- A number with a fraction or an exponent is the float whose digits it spells, followed by zeros perhaps. -/
theorem readNumber_float {d : Decimal} (hd : d.Shortest) (k : Nat) (whole frac exp : List Char) {rest : List Char} {exponent : Option Int}
    (hne : whole ≠ []) (hw : ∀ c ∈ whole, c.isDigit = true) (hz : leadingZero whole = false)
    (hfrac : ∀ c ∈ frac, c.isDigit = true) (hfloat : frac = [] → exponent ≠ none)
    (hend : ∀ c ∈ (exp ++ rest).head?, c.isDigit = false ∧ c ≠ '.')
    (he : readExponent (exp ++ rest) = some (exponent, rest))
    (hm : Nat.ofDigitChars 10 (whole ++ frac) 0 = d.digits * 10 ^ k)
    (hx : exponent.getD 0 - (frac.length : Int) = d.exp - k) :
    readNumber ((if d.neg then ['-'] else []) ++ (whole ++ ((if frac = [] then [] else '.' :: frac) ++ (exp ++ rest)))) =
      some (float d, rest) := by
  have hdigits := Decimal.ofDigits_zeros hd k
  by_cases hnil : frac = []
  · subst hnil
    have h := readNumber_parts d.neg [] exp hne hw hz (fun c hc => (hend c hc).1)
      (readFraction_none fun c hc => (hend c hc).2) he
    have hif : ¬((none : Option (List Char)) = none ∧ exponent = none) := fun hc => hfloat rfl hc.2
    rw [if_neg hif] at h
    simp only [Option.getD_none, hm, hx, hdigits] at h
    exact h
  · have h := readNumber_parts d.neg ('.' :: frac) exp hne hw hz (fun c hc => by simp at hc; subst hc; decide)
      (readFraction_digits hnil hfrac fun c hc => (hend c hc).1) he
    have hif : ¬(some frac = none ∧ exponent = none) := fun hc => by simp at hc
    rw [if_neg hif] at h
    simp only [Option.getD_some, hm, hx, hdigits] at h
    rw [if_neg hnil]
    exact h

theorem toList_take (s : String) (n : Nat) : (s.take n).toString.toList = s.toList.take n := String.toList_copy_take

theorem toList_drop (s : String) (n : Nat) : (s.drop n).toString.toList = s.toList.drop n := String.toList_copy_drop

theorem isDigit_zeros {n : Nat} : ∀ c ∈ List.replicate n '0', c.isDigit = true := by
  intro c hc
  rw [List.eq_of_mem_replicate hc]
  rfl

theorem ofDigitChars_zeros (ds : List Char) (k : Nat) :
    Nat.ofDigitChars 10 (ds ++ List.replicate k '0') 0 = Nat.ofDigitChars 10 ds 0 * 10 ^ k := by
  rw [Nat.ofDigitChars_append, Nat.ofDigitChars_replicate_zero, Nat.mul_comm]

/-- The exponent of a repr: a sign and at least two digits. -/
theorem readExponent_repr (e : Int) {rest : List Char} (hrest : Ends rest) :
    readExponent ((("e" ++ (if e < 0 then "-" else "+") ++
      (if (toString e.natAbs).length < 2 then "0" ++ toString e.natAbs else toString e.natAbs) : String)).toList ++ rest) =
      some (some e, rest) := by
  have hdigits : ∀ c ∈ ((if (toString e.natAbs).length < 2 then "0" ++ toString e.natAbs else toString e.natAbs : String)).toList,
      c.isDigit = true := by
    intro c hc
    split at hc
    · rw [String.toList_append, toList_toString] at hc
      rcases List.mem_append.mp hc with hc | hc
      · rw [List.mem_singleton.mp hc]; rfl
      · exact isDigit_toDigits c hc
    · rw [toList_toString] at hc
      exact isDigit_toDigits c hc
  have hvalue : Nat.ofDigitChars 10 ((if (toString e.natAbs).length < 2 then "0" ++ toString e.natAbs
      else toString e.natAbs : String)).toList 0 = e.natAbs := by
    split
    · rw [String.toList_append, toList_toString, Nat.ofDigitChars_append]
      exact Nat.ofDigitChars_ten_toDigits
    · rw [toList_toString]
      exact Nat.ofDigitChars_ten_toDigits
  have hne : ((if (toString e.natAbs).length < 2 then "0" ++ toString e.natAbs else toString e.natAbs : String)).toList ≠ [] := by
    intro hc
    split at hc
    · simp at hc
    · rw [toList_toString] at hc
      exact Nat.toDigits_ne_nil hc
  have h := readExponent_digits (decide (e < 0)) hne hdigits fun c hc => (hrest c hc).1
  rw [hvalue] at h
  by_cases he : e < 0
  · simp only [he, decide_true, if_true] at h ⊢
    rw [String.toList_append, String.toList_append]
    have hneg : -(e.natAbs : Int) = e := by omega
    rw [hneg] at h
    exact h
  · simp only [he, decide_false, Bool.false_eq_true, if_false] at h ⊢
    rw [String.toList_append, String.toList_append]
    have hpos : (e.natAbs : Int) = e := by omega
    rw [hpos] at h
    exact h

theorem plain_ends {rest : List Char} (hrest : Ends rest) :
    (∀ c ∈ ([] ++ rest : List Char).head?, c.isDigit = false ∧ c ≠ '.') ∧ readExponent ([] ++ rest) = some (none, rest) :=
  ⟨fun c hc => ⟨(hrest c hc).1, (hrest c hc).2.1⟩, readExponent_none fun c hc => (hrest c hc).2.2⟩

/-- A repr whose point stands before the digits. -/
theorem readNumber_before {d : Decimal} (hd : d.Shortest) {rest : List Char} (hrest : Ends rest)
    (hle : (Nat.toDigits 10 d.digits).length + d.exp ≤ 0) :
    readNumber ((if d.neg then ['-'] else []) ++ ('0' :: '.' ::
      (List.replicate (-((Nat.toDigits 10 d.digits).length + d.exp)).toNat '0' ++ Nat.toDigits 10 d.digits) ++ rest)) =
      some (float d, rest) := by
  have hne : ∀ k, List.replicate k '0' ++ Nat.toDigits 10 d.digits ≠ [] := fun k hc =>
    Nat.toDigits_ne_nil (List.append_eq_nil_iff.mp hc).2
  have hfrac : ∀ k, ∀ c ∈ List.replicate k '0' ++ Nat.toDigits 10 d.digits, c.isDigit = true := by
    intro k c hc
    rcases List.mem_append.mp hc with hc | hc
    · exact isDigit_zeros c hc
    · exact isDigit_toDigits c hc
  have hm : ∀ k, Nat.ofDigitChars 10 (['0'] ++ (List.replicate k '0' ++ Nat.toDigits 10 d.digits)) 0 = d.digits * 10 ^ 0 := by
    intro k
    have h0 : Nat.ofDigitChars 10 (['0'] ++ List.replicate k '0') 0 = 0 := by
      rw [ofDigitChars_zeros]
      simp [Nat.ofDigitChars]
    rw [← List.append_assoc, Nat.ofDigitChars_append, h0, Nat.ofDigitChars_ten_toDigits, Nat.pow_zero, Nat.mul_one]
  obtain ⟨hends, hplain⟩ := plain_ends hrest
  have h := readNumber_float hd 0 ['0'] _ [] (by simp) (forall_of_all rfl) rfl
    (hfrac (-((Nat.toDigits 10 d.digits).length + d.exp)).toNat) (fun hc => absurd hc (hne _)) hends hplain (hm _)
    (by simp only [Option.getD_none, List.length_append, List.length_replicate]; omega)
  rw [if_neg (hne _)] at h
  simpa using h

/-- A repr with all its digits before the point. -/
theorem readNumber_after {d : Decimal} (hd : d.Shortest) {rest : List Char} (hrest : Ends rest) (hle : 0 ≤ d.exp) :
    readNumber ((if d.neg then ['-'] else []) ++ (Nat.toDigits 10 d.digits ++ List.replicate d.exp.toNat '0' ++ ['.', '0'] ++ rest)) =
      some (float d, rest) := by
  have hw : ∀ c ∈ Nat.toDigits 10 d.digits ++ List.replicate d.exp.toNat '0', c.isDigit = true := by
    intro c hc
    rcases List.mem_append.mp hc with hc | hc
    · exact isDigit_toDigits c hc
    · exact isDigit_zeros c hc
  have hz : leadingZero (Nat.toDigits 10 d.digits ++ List.replicate d.exp.toNat '0') = false := by
    refine leadingZero_toDigits _ _ ?_
    rcases hd with hd | ⟨-, he⟩
    · left
      intro h0
      simp [h0] at hd
    · right
      simp [he]
  have hm : Nat.ofDigitChars 10 (Nat.toDigits 10 d.digits ++ List.replicate d.exp.toNat '0' ++ ['0']) 0 =
      d.digits * 10 ^ (d.exp.toNat + 1) := by
    have hr : List.replicate d.exp.toNat '0' ++ ['0'] = List.replicate (d.exp.toNat + 1) '0' := List.replicate_succ'.symm
    rw [List.append_assoc, hr, ofDigitChars_zeros, Nat.ofDigitChars_ten_toDigits]
  obtain ⟨hends, hplain⟩ := plain_ends hrest
  have h := readNumber_float hd (d.exp.toNat + 1) _ ['0'] []
    (fun hc => Nat.toDigits_ne_nil (List.append_eq_nil_iff.mp hc).1) hw hz (forall_of_all rfl) (fun hc => by cases hc) hends hplain hm
    (by simp only [Option.getD_none, List.length_singleton]; omega)
  simpa using h

theorem isDigit_take {n k : Nat} : ∀ c ∈ (Nat.toDigits 10 n).take k, c.isDigit = true :=
  fun c hc => isDigit_toDigits c (List.mem_of_mem_take hc)

theorem isDigit_drop {n k : Nat} : ∀ c ∈ (Nat.toDigits 10 n).drop k, c.isDigit = true :=
  fun c hc => isDigit_toDigits c (List.mem_of_mem_drop hc)

theorem ofDigitChars_take_drop (n k : Nat) :
    Nat.ofDigitChars 10 ((Nat.toDigits 10 n).take k ++ (Nat.toDigits 10 n).drop k) 0 = n * 10 ^ 0 := by
  rw [List.take_append_drop, Nat.ofDigitChars_ten_toDigits, Nat.pow_zero, Nat.mul_one]

/-- The first digits of a number start with a zero only when they are all of it. -/
theorem leadingZero_take {n k : Nat} (h : k = 1 ∨ n ≠ 0) : leadingZero ((Nat.toDigits 10 n).take k) = false := by
  have hhead : n ≠ 0 → (Nat.toDigits 10 n).head? ≠ some '0' := head_toDigits
  cases hd : Nat.toDigits 10 n with
  | nil => exact absurd hd Nat.toDigits_ne_nil
  | cons c cs =>
    rw [hd] at hhead
    cases k with
    | zero => rfl
    | succ k =>
      rcases h with h | h
      · obtain rfl : k = 0 := by omega
        simp [leadingZero]
      · have hc : c ≠ '0' := by simpa using hhead h
        simp [leadingZero, hc]

/-- A repr whose point stands among the digits. -/
theorem readNumber_among {d : Decimal} (hd : d.Shortest) {rest : List Char} (hrest : Ends rest) {k : Nat} (h0 : 0 < k)
    (hlt : k < (Nat.toDigits 10 d.digits).length) (hk : (k : Int) = (Nat.toDigits 10 d.digits).length + d.exp) :
    readNumber ((if d.neg then ['-'] else []) ++
      ((Nat.toDigits 10 d.digits).take k ++ ['.'] ++ (Nat.toDigits 10 d.digits).drop k ++ rest)) = some (float d, rest) := by
  have hne : (Nat.toDigits 10 d.digits).take k ≠ [] := by
    intro hc
    have := congrArg List.length hc
    simp only [List.length_take, List.length_nil] at this
    omega
  have hne' : (Nat.toDigits 10 d.digits).drop k ≠ [] := by
    intro hc
    have := congrArg List.length hc
    simp only [List.length_drop, List.length_nil] at this
    omega
  have hz : d.digits ≠ 0 := by
    intro hz
    rw [hz] at hlt
    simp at hlt
    omega
  obtain ⟨hends, hplain⟩ := plain_ends hrest
  have h := readNumber_float hd 0 _ _ [] hne isDigit_take (leadingZero_take (.inr hz)) isDigit_drop (fun hc => absurd hc hne')
    hends hplain (ofDigitChars_take_drop d.digits k) (by simp only [Option.getD_none, List.length_drop]; omega)
  rw [if_neg hne'] at h
  simpa using h

theorem readNumber_scientific {d : Decimal} (hd : d.Shortest) {rest exp : List Char}
    (he : readExponent (exp ++ rest) = some (some ((Nat.toDigits 10 d.digits).length + d.exp - 1), rest))
    (hhead : ∀ c ∈ (exp ++ rest).head?, c.isDigit = false ∧ c ≠ '.') :
    readNumber ((if d.neg then ['-'] else []) ++ ((Nat.toDigits 10 d.digits).take 1 ++
      ((if (Nat.toDigits 10 d.digits).length ≤ 1 then [] else '.' :: (Nat.toDigits 10 d.digits).drop 1) ++ (exp ++ rest)))) =
      some (float d, rest) := by
  have hpos : 0 < (Nat.toDigits 10 d.digits).length := Nat.length_toDigits_pos
  have hne : (Nat.toDigits 10 d.digits).take 1 ≠ [] := by
    intro hc
    have := congrArg List.length hc
    simp only [List.length_take, List.length_nil] at this
    omega
  have hif : ((Nat.toDigits 10 d.digits).drop 1 = []) = ((Nat.toDigits 10 d.digits).length ≤ 1) := by
    rw [List.drop_eq_nil_iff]
  have h := readNumber_float hd 0 _ _ _ hne isDigit_take (leadingZero_take (.inl rfl)) isDigit_drop (fun _ hc => by cases hc)
    hhead he (ofDigitChars_take_drop d.digits 1) (by simp only [Option.getD_some, List.length_drop]; omega)
  simp only [hif] at h
  exact h

/-- Python's repr of a float reads back. -/
theorem readNumber_repr {d : Decimal} (hd : d.Shortest) {rest : List Char} (hrest : Ends rest) :
    readNumber (d.repr.toList ++ rest) = some (float d, rest) := by
  have hsign : ((if d.neg then "-" else "" : String)).toList = if d.neg then ['-'] else [] := by cases d.neg <;> rfl
  have hds : (toString d.digits).toList = Nat.toDigits 10 d.digits := toList_toString d.digits
  have hlen : (toString d.digits).length = (Nat.toDigits 10 d.digits).length := by rw [← String.length_toList, hds]
  unfold Decimal.repr
  simp only [hlen, String.toList_append, hsign, Decimal.zeros, List.append_assoc]
  by_cases hfix : -4 < ((Nat.toDigits 10 d.digits).length : Int) + d.exp ∧ ((Nat.toDigits 10 d.digits).length : Int) + d.exp ≤ 16
  · rw [if_pos hfix]
    by_cases hle : ((Nat.toDigits 10 d.digits).length : Int) + d.exp ≤ 0
    · have h := readNumber_before hd hrest hle
      rw [if_pos hle]
      simpa [hds] using h
    · rw [if_neg hle]
      by_cases hexp : ((Nat.toDigits 10 d.digits).length : Int) ≤ (Nat.toDigits 10 d.digits).length + d.exp
      · have h := readNumber_after hd hrest (by omega)
        have hz : (((Nat.toDigits 10 d.digits).length : Int) + d.exp - (Nat.toDigits 10 d.digits).length).toNat = d.exp.toNat := by omega
        rw [if_pos hexp, hz]
        simpa [hds] using h
      · have h := readNumber_among hd hrest (k := (((Nat.toDigits 10 d.digits).length : Int) + d.exp).toNat) (by omega) (by omega) (by omega)
        rw [if_neg hexp]
        simpa [toList_take, toList_drop, hds] using h
  · have he := readExponent_repr (((Nat.toDigits 10 d.digits).length : Int) + d.exp - 1) hrest
    simp only [String.toList_append] at he
    have h := readNumber_scientific hd he fun c hc => by
      simp only [List.append_assoc] at hc
      cases hc
      decide
    have hif : (if (Nat.toDigits 10 d.digits).length ≤ 1 then ""
        else "." ++ ((toString d.digits).drop 1).toString : String).toList =
        if (Nat.toDigits 10 d.digits).length ≤ 1 then [] else '.' :: (Nat.toDigits 10 d.digits).drop 1 := by
      split
      · rfl
      · rw [String.toList_append, toList_drop, hds]
        rfl
    rw [if_neg hfix]
    simp only [String.toList_append, toList_take, hds, hif, List.append_assoc] at h ⊢
    exact h

end Json
