/-
  AgentResilience.Lib.JsonRoundTrip — what is written reads back. A style is lawful when
  each single character and each float reads back; `read_text` lifts that to every value,
  whatever the nesting, by induction over the value.

  - `python_lawful`: `json.dumps` writes in a lawful style; `loads_dumps` is its round trip.
  - `printable_text`: it writes printable ASCII only.
-/
import AgentResilience.Lib.JsonNumbers

namespace Json

/-! ## Characters read back -/

theorem hexValue_hexDigit {n : Nat} (h : n < 16) : hexValue (hexDigit n) = some n := by
  have hall : ∀ n < 16, hexValue (hexDigit n) = some n := by decide
  exact hall n h

theorem readUnit_escape {n : Nat} (h : n < 65536) (rest : List Char) :
    unicodeEscape n = '\\' :: 'u' :: (unicodeEscape n).drop 2 ∧ readUnit ((unicodeEscape n).drop 2 ++ rest) = some (n, rest) := by
  refine ⟨rfl, ?_⟩
  have h1 := hexValue_hexDigit (n := n / 4096 % 16) (by omega)
  have h2 := hexValue_hexDigit (n := n / 256 % 16) (by omega)
  have h3 := hexValue_hexDigit (n := n / 16 % 16) (by omega)
  have h4 := hexValue_hexDigit (n := n % 16) (by omega)
  have hn : (((n / 4096 % 16) * 16 + n / 256 % 16) * 16 + n / 16 % 16) * 16 + n % 16 = n := by omega
  simp only [unicodeEscape, List.drop_succ_cons, List.drop_zero, List.cons_append, List.nil_append, readUnit, h1, h2, h3, h4,
    Option.bind_eq_bind, Option.bind_some, hn]
  rfl

theorem toNat_lt (c : Char) : c.toNat < 55296 ∨ 57344 ≤ c.toNat ∧ c.toNat < 1114112 := by
  have h := c.valid
  rcases h with h | ⟨h1, h2⟩
  · exact .inl h
  · exact .inr ⟨h1, h2⟩

theorem readChar_unicode {c : Char} (h : c.toNat < 65536) (rest : List Char) :
    readChar (unicodeEscape c.toNat ++ rest) = some (c, rest) := by
  obtain ⟨hshape, hread⟩ := readUnit_escape h rest
  have hc := toNat_lt c
  rw [hshape]
  simp only [List.cons_append, readChar, ne_eq, not_true_eq_false, if_false, if_true, hread, Option.bind_eq_bind, Option.bind_some]
  rw [if_neg (by omega), if_neg (by omega), Char.ofNat_toNat]
  rfl

theorem readChar_surrogates {high low : Nat} (h : 55296 ≤ high ∧ high < 56320) (h' : 56320 ≤ low ∧ low < 57344) (rest : List Char) :
    readChar (unicodeEscape high ++ (unicodeEscape low ++ rest)) =
      some (Char.ofNat (65536 + (high - 55296) * 1024 + (low - 56320)), rest) := by
  obtain ⟨hs1, hr1⟩ := readUnit_escape (n := high) (by omega) (unicodeEscape low ++ rest)
  obtain ⟨hs2, hr2⟩ := readUnit_escape (n := low) (by omega) rest
  rw [hs1]
  simp only [List.cons_append, readChar, ne_eq, not_true_eq_false, if_false, if_true, hr1, Option.bind_eq_bind, Option.bind_some, h,
    and_self]
  rw [hs2]
  simp only [List.cons_append, readLow, and_self, if_true, hr2, Option.bind_eq_bind, Option.bind_some, h']
  rfl

theorem pair_value {n : Nat} (h : 65536 ≤ n) :
    65536 + (55296 + (n - 65536) / 1024 - 55296) * 1024 + (56320 + (n - 65536) % 1024 - 56320) = n := by
  omega

theorem readChar_pair {c : Char} (h : ¬c.toNat < 65536) (rest : List Char) :
    readChar (unicodeEscape (55296 + (c.toNat - 65536) / 1024) ++
      (unicodeEscape (56320 + (c.toNat - 65536) % 1024) ++ rest)) = some (c, rest) := by
  have hc := toNat_lt c
  rw [readChar_surrogates (by omega) (by omega), pair_value (by omega), Char.ofNat_toNat]

theorem ofNat_eq {c : Char} {n : Nat} (h : c.toNat = n) : Char.ofNat n = c := by rw [← h, Char.ofNat_toNat]

/-- Every character that `json.dumps` escapes reads back. -/
theorem readChar_escape (c : Char) (rest : List Char) : readChar (escapeChar c ++ rest) = some (c, rest) := by
  unfold escapeChar
  split
  · rename_i h; subst h; rfl
  split
  · rename_i h; subst h; rfl
  split
  · rename_i h; subst h; rfl
  split
  · rename_i h; subst h; rfl
  split
  · rename_i h; subst h; rfl
  split
  · rename_i h; rw [← ofNat_eq h]; rfl
  split
  · rename_i h; rw [← ofNat_eq h]; rfl
  split
  · rename_i hq hb _ _ _ _ _ h
    simp only [List.cons_append, List.nil_append, readChar, ne_eq, hb, not_false_eq_true, if_true]
    rw [if_neg (by omega)]
  split
  · rename_i h
    exact readChar_unicode h rest
  · rename_i h
    rw [List.append_assoc]
    exact readChar_pair h rest

theorem head_escape (c : Char) : (escapeChar c).head? ≠ some '"' := by
  unfold escapeChar unicodeEscape
  grind

/-! ## Values read back -/

/-- Induction over the items of an array and the values of an object. -/
theorem induction {P : Json → Prop} (null : P null) (bool : ∀ b, P (bool b)) (int : ∀ n, P (int n)) (float : ∀ d, P (float d))
    (str : ∀ s, P (str s)) (arr : ∀ xs, (∀ x ∈ xs, P x) → P (arr xs)) (obj : ∀ fields, (∀ f ∈ fields, P f.2) → P (obj fields))
    (x : Json) : P x := by
  refine Json.rec (motive_1 := P) (motive_2 := fun xs => ∀ x ∈ xs, P x) (motive_3 := fun fields => ∀ f ∈ fields, P f.2)
    (motive_4 := fun f => P f.2) null bool int float str arr obj ?_ ?_ ?_ ?_ ?_ x
  · intro x hx; cases hx
  · intro x xs hx hxs y hy
    rcases List.mem_cons.mp hy with rfl | hy
    · exact hx
    · exact hxs y hy
  · intro f hf; cases hf
  · intro f fields hf hfields g hg
    rcases List.mem_cons.mp hg with rfl | hg
    · exact hf
    · exact hfields g hg
  · intro k x hx; exact hx

mutual

/-- Every float is by its shortest digits and every object is a `dict`. -/
def WellFormed : Json → Prop
  | float d => d.Shortest
  | arr xs => WellFormedItems xs
  | obj fields => (Dict.keys fields).Nodup ∧ WellFormedFields fields
  | _ => True

def WellFormedItems : List Json → Prop
  | [] => True
  | x :: xs => WellFormed x ∧ WellFormedItems xs

def WellFormedFields : List (String × Json) → Prop
  | [] => True
  | (_, x) :: fields => WellFormed x ∧ WellFormedFields fields

end

theorem wellFormedItems_iff (xs : List Json) : WellFormedItems xs ↔ ∀ x ∈ xs, WellFormed x := by
  induction xs with
  | nil => simp [WellFormedItems]
  | cons x xs ih => simp [WellFormedItems, ih]

theorem wellFormedFields_iff (fields : List (String × Json)) : WellFormedFields fields ↔ ∀ f ∈ fields, WellFormed f.2 := by
  induction fields with
  | nil => simp [WellFormedFields]
  | cons f fields ih => simp [WellFormedFields, ih]

/-- Each character and each float reads back. -/
structure Style.Lawful (sty : Style) : Prop where
  escape : ∀ c rest, readChar (sty.escape c ++ rest) = some (c, rest)
  quote : ∀ c, (sty.escape c).head? ≠ some '"'
  float : ∀ d : Decimal, d.Shortest → ∀ rest, Ends rest → readNumber (sty.float d ++ rest) = some (.float d, rest)

theorem skip_blanks (n : Nat) (cs : List Char) : skip (blanks n ++ cs) = skip cs := by
  induction n with
  | zero => rfl
  | succ n ih =>
    rw [blanks, List.replicate_succ, List.cons_append, skip, if_pos (.inl rfl)]
    exact ih

theorem skip_cons {c : Char} (h : c ≠ ' ' ∧ c ≠ '\n' ∧ c ≠ '\r' ∧ c ≠ '\t') (cs : List Char) : skip (c :: cs) = c :: cs := by
  rw [skip, if_neg]
  rintro (e | e | e | e)
  · exact h.1 e
  · exact h.2.1 e
  · exact h.2.2.1 e
  · exact h.2.2.2 e

theorem readValue_blanks (n k : Nat) (cs : List Char) : readValue n (blanks k ++ cs) = readValue n cs := by
  cases n with
  | zero => rfl
  | succ n => rw [readValue, readValue, skip_blanks]

theorem readItems_blanks (n k : Nat) (cs : List Char) : readItems n (blanks k ++ cs) = readItems n cs := by
  cases n with
  | zero => rfl
  | succ n => rw [readItems, readItems, readValue_blanks]

theorem readFields_blanks (n k : Nat) (cs : List Char) : readFields n (blanks k ++ cs) = readFields n cs := by
  cases n with
  | zero => rfl
  | succ n => rw [readFields, readFields, skip_blanks]

section

variable {sty : Style} (h : sty.Lawful)
include h

theorem Style.Lawful.escape_ne (c : Char) : sty.escape c ≠ [] := by
  intro e
  have := h.escape c []
  rw [e] at this
  cases this

theorem length_le_flatMap (s : List Char) : s.length ≤ (s.flatMap sty.escape).length := by
  induction s with
  | nil => simp
  | cons c s ih =>
    have := List.length_pos_of_ne_nil (h.escape_ne c)
    simp only [List.flatMap_cons, List.length_append, List.length_cons]
    omega

theorem readString_body (s rest : List Char) (n : Nat) (hn : s.length < n) :
    readString n (s.flatMap sty.escape ++ '"' :: rest) = some (s, rest) := by
  induction s generalizing n with
  | nil =>
    cases n with
    | zero => cases hn
    | succ n => rfl
  | cons c s ih =>
    cases n with
    | zero => cases hn
    | succ n =>
      have hhead : (sty.escape c ++ (s.flatMap sty.escape ++ '"' :: rest)).head? ≠ some '"' := by
        intro e
        rw [List.head?_append_of_ne_nil _ (h.escape_ne c)] at e
        exact h.quote c e
      rw [List.flatMap_cons, List.append_assoc, readString, if_neg hhead, h.escape]
      simp only [Option.bind_eq_bind, Option.bind_some, ih n (by simpa using hn)]
      rfl

theorem readString_quoted (s : String) (rest : List Char) :
    quoted sty s ++ rest = '"' :: (s.toList.flatMap sty.escape ++ '"' :: rest) ∧
      ∀ n, (s.toList.flatMap sty.escape ++ '"' :: rest).length < n →
        readString n (s.toList.flatMap sty.escape ++ '"' :: rest) = some (s.toList, rest) := by
  refine ⟨by simp [quoted], fun n hn => ?_⟩
  refine readString_body h _ _ _ ?_
  have := length_le_flatMap h s.toList
  simp only [List.length_append, List.length_cons] at hn
  omega

end

/-- A number starts with its sign or a digit. -/
theorem head_number {cs : List Char} {r : Json × List Char} (h : readNumber cs = some r) :
    ∃ c tl, cs = c :: tl ∧ (c = '-' ∨ c.isDigit = true) := by
  cases cs with
  | nil => cases h
  | cons c tl =>
    refine ⟨c, tl, rfl, ?_⟩
    by_cases hc : c = '-'
    · exact .inl hc
    · right
      by_contra hd
      have hnone : readDigits (c :: tl) = none := by simp [readDigits, hd]
      simp [readNumber, hc, hnone] at h

theorem Style.Lawful.head {sty : Style} (h : sty.Lawful) {d : Decimal} (hd : d.Shortest) :
    ∃ c cs, sty.float d = c :: cs ∧ (c = '-' ∨ c.isDigit = true) := by
  have := h.float d hd [] (by intro c hc; cases hc)
  rw [List.append_nil] at this
  exact head_number this

/-- A value's text reads back to the value, before whatever does not carry on a number. -/
def ReadsBack (sty : Style) (x : Json) : Prop :=
  ∀ n rest, Ends rest → (text sty x).length < n → readValue n (text sty x ++ rest) = some (x, rest)

theorem readsBack_number {sty : Style} {cs : List Char} {x : Json} (hcs : text sty x = cs)
    (hhead : ∃ c tl, cs = c :: tl ∧ (c = '-' ∨ c.isDigit = true))
    (hread : ∀ rest, Ends rest → readNumber (cs ++ rest) = some (x, rest)) : ReadsBack sty x := by
  intro n rest hrest hn
  obtain ⟨c, tl, rfl, hc⟩ := hhead
  cases n with
  | zero => cases hn
  | succ n =>
    have hall : ∀ c : Char, (c = '-' ∨ c.isDigit = true) → (c ≠ ' ' ∧ c ≠ '\n' ∧ c ≠ '\r' ∧ c ≠ '\t') ∧
        c ≠ '"' ∧ c ≠ '[' ∧ c ≠ '\x7b' ∧ c ≠ 'n' ∧ c ≠ 't' ∧ c ≠ 'f' := by
      rintro c hc
      refine ⟨⟨?_, ?_, ?_, ?_⟩, ?_, ?_, ?_, ?_, ?_, ?_⟩ <;> (rintro rfl; revert hc; decide)
    obtain ⟨hblank, h1, h2, h3, h4, h5, h6⟩ := hall c hc
    have := hread rest hrest
    rw [List.cons_append] at this
    rw [hcs, List.cons_append, readValue, skip_cons hblank]
    simp only [h1, h2, h3, h4, h5, h6, if_false]
    exact this

/-- The first item and the rest of a non-empty array. -/
theorem readItems_text {sty : Style} (xs : List Json) (hxs : ∀ x ∈ xs, ReadsBack sty x) :
    ∀ (x : Json) (n : Nat) (rest : List Char), ReadsBack sty x → (text sty x ++ textItems sty xs).length < n →
      readItems n (text sty x ++ textItems sty xs ++ rest) = some (x :: xs, rest) := by
  induction xs with
  | nil =>
    intro x n rest hx hn
    cases n with
    | zero => cases hn
    | succ n =>
      simp only [textItems, List.length_append, List.length_singleton] at hn
      have hend : Ends ([']'] ++ rest) := by intro c hc; cases hc; decide
      rw [readItems, textItems, List.append_assoc, hx n _ hend (by omega)]
      rfl
  | cons y ys ih =>
    intro x n rest hx hn
    cases n with
    | zero => cases hn
    | succ n =>
      have hrec := ih (fun z hz => hxs z (List.mem_cons_of_mem _ hz)) y n rest (hxs y List.mem_cons_self)
      simp only [textItems, List.length_append, List.length_cons] at hn hrec
      have hend : Ends (',' :: (blanks sty.afterComma ++ (text sty y ++ textItems sty ys ++ rest))) := by intro c hc; cases hc; decide
      have hcs : text sty x ++ textItems sty (y :: ys) ++ rest =
          text sty x ++ ',' :: (blanks sty.afterComma ++ (text sty y ++ textItems sty ys ++ rest)) := by
        simp only [textItems, List.append_assoc, List.cons_append]
      rw [readItems, hcs, hx n _ hend (by omega)]
      simp only [Option.bind_eq_bind, Option.bind_some, skip_cons (c := ',') (by decide), if_true, readItems_blanks]
      rw [hrec (by omega)]
      rfl

/-- One field, and what the character after it says. -/
theorem readFields_step {sty : Style} (h : sty.Lawful) {x : Json} (hx : ReadsBack sty x) (k : String) {c : Char} (cs : List Char)
    {n : Nat} (hn : (text sty x).length < n) (hend : Ends (c :: cs)) (hc : c ≠ ' ' ∧ c ≠ '\n' ∧ c ≠ '\r' ∧ c ≠ '\t') :
    readFields (n + 1) (quoted sty k ++ ':' :: (blanks sty.afterColon ++ (text sty x ++ c :: cs))) =
      if c = ',' then (readFields n cs).map fun r => ((k, x) :: r.1, r.2)
      else if c = '\x7d' then some ([(k, x)], cs) else none := by
  obtain ⟨hq, hs⟩ := readString_quoted h k (':' :: (blanks sty.afterColon ++ (text sty x ++ c :: cs)))
  rw [hq, readFields, skip_cons (by decide)]
  simp only [List.head?_cons, if_true, List.tail_cons]
  rw [hs _ (by simp only [List.length_cons]; omega)]
  simp only [Option.bind_eq_bind, Option.bind_some, skip_cons (c := ':') (by decide), List.head?_cons, List.tail_cons, if_true,
    readValue_blanks]
  rw [hx n _ hend hn]
  simp only [Option.bind_some, skip_cons hc, String.ofList_toList]
  split
  · cases readFields n cs <;> rfl
  · rfl

theorem readFields_text {sty : Style} (h : sty.Lawful) (fields : List (String × Json)) (hxs : ∀ f ∈ fields, ReadsBack sty f.2) :
    ∀ (k : String) (x : Json) (n : Nat) (rest : List Char), ReadsBack sty x →
      (quoted sty k ++ (':' :: blanks sty.afterColon) ++ text sty x ++ textFields sty fields).length < n →
      readFields n (quoted sty k ++ (':' :: blanks sty.afterColon) ++ text sty x ++ textFields sty fields ++ rest) =
        some ((k, x) :: fields, rest) := by
  induction fields with
  | nil =>
    intro k x n rest hx hn
    cases n with
    | zero => cases hn
    | succ n =>
      simp only [textFields, List.length_append, List.length_cons, List.length_nil] at hn
      have hend : Ends ('\x7d' :: rest) := by intro c hc; cases hc; decide
      have hstep := readFields_step h hx k rest (n := n) (by omega) hend (by decide)
      simp only [textFields, List.append_assoc, List.cons_append, List.nil_append]
      rw [hstep]
      rfl
  | cons f fields ih =>
    obtain ⟨k', y⟩ := f
    intro k x n rest hx hn
    cases n with
    | zero => cases hn
    | succ n =>
      have hrec := ih (fun z hz => hxs z (List.mem_cons_of_mem _ hz)) k' y n rest (hxs (k', y) List.mem_cons_self)
      simp only [textFields, List.length_append, List.length_cons] at hn hrec
      have hend : ∀ cs, Ends (',' :: cs) := by intro cs c hc; cases hc; decide
      have hstep := readFields_step h hx k (blanks sty.afterComma ++ (quoted sty k' ++ (':' :: blanks sty.afterColon) ++ text sty y ++
        textFields sty fields ++ rest)) (n := n) (by omega) (hend _) (by decide)
      rw [if_pos rfl, readFields_blanks, hrec (by omega)] at hstep
      simpa only [textFields, List.append_assoc, List.cons_append, Option.map_some] using hstep

/-- A `dict` of pairs with distinct keys is the pairs. -/
theorem dictOf_nodup {fields : List (String × Json)} (h : (Dict.keys fields).Nodup) : dictOf fields = fields := by
  have hset : ∀ (d : List (String × Json)) (k : String) (x : Json), k ∉ Dict.keys d → Dict.set d k x = d ++ [(k, x)] := by
    intro d k x hk
    induction d with
    | nil => rfl
    | cons f d ih =>
      simp only [Dict.keys, List.map_cons, List.mem_cons, not_or] at hk
      rw [Dict.set, if_neg (Ne.symm hk.1), ih hk.2]
      rfl
  have hfold : ∀ (fields d : List (String × Json)), (Dict.keys (d ++ fields)).Nodup →
      fields.foldl (fun d f => Dict.set d f.1 f.2) d = d ++ fields := by
    intro fields
    induction fields with
    | nil => intro d _; simp
    | cons f fields ih =>
      intro d hd
      have hk : f.1 ∉ Dict.keys d := by
        intro hm
        simp only [Dict.keys, List.map_append, List.map_cons, List.nodup_append] at hd
        exact hd.2.2 f.1 hm f.1 List.mem_cons_self rfl
      rw [List.foldl_cons, hset d f.1 f.2 hk, ih _ (by simpa using hd)]
      simp
  exact hfold fields [] h

theorem head_int (n : Int) : ∃ c cs, (toString n).toList = c :: cs ∧ (c = '-' ∨ c.isDigit = true) := by
  have hnat : ∀ m : Nat, ∃ c cs, (toString m).toList = c :: cs ∧ c.isDigit = true := by
    intro m
    rw [toList_toString]
    cases hd : Nat.toDigits 10 m with
    | nil => exact absurd hd Nat.toDigits_ne_nil
    | cons c cs => exact ⟨c, cs, rfl, isDigit_toDigits c (by rw [hd]; exact List.mem_cons_self)⟩
  cases n with
  | ofNat m =>
    obtain ⟨c, cs, hm, hc⟩ := hnat m
    exact ⟨c, cs, hm, .inr hc⟩
  | negSucc m =>
    refine ⟨'-', (toString (m + 1)).toList, ?_, .inl rfl⟩
    rw [Int.toString_eq_repr]
    simp [Int.repr]

/-- The text of a value starts with neither a blank nor a closing bracket. -/
theorem head_text {sty : Style} (h : sty.Lawful) {x : Json} (hwf : x.WellFormed) :
    ∃ c cs, text sty x = c :: cs ∧ (c ≠ ' ' ∧ c ≠ '\n' ∧ c ≠ '\r' ∧ c ≠ '\t') ∧ c ≠ ']' := by
  have hnumber : ∀ c : Char, (c = '-' ∨ c.isDigit = true) → (c ≠ ' ' ∧ c ≠ '\n' ∧ c ≠ '\r' ∧ c ≠ '\t') ∧ c ≠ ']' := by
    intro c hc
    refine ⟨⟨?_, ?_, ?_, ?_⟩, ?_⟩ <;> (rintro rfl; revert hc; decide)
  cases x with
  | null => exact ⟨_, _, rfl, by decide⟩
  | bool b => cases b <;> exact ⟨_, _, rfl, by decide⟩
  | int n =>
    obtain ⟨c, cs, hn, hc⟩ := head_int n
    exact ⟨c, cs, hn, hnumber c hc⟩
  | float d =>
    obtain ⟨c, cs, hd, hc⟩ := h.head (d := d) hwf
    exact ⟨c, cs, hd, hnumber c hc⟩
  | str s => exact ⟨_, _, rfl, by decide⟩
  | arr xs => cases xs <;> exact ⟨_, _, rfl, by decide⟩
  | obj fields => cases fields <;> exact ⟨_, _, rfl, by decide⟩

/-- Every value reads back from its text in a lawful style. -/
theorem readsBack {sty : Style} (h : sty.Lawful) (x : Json) : x.WellFormed → ReadsBack sty x := by
  have hword : ∀ (word : List Char) (y : Json) (rest : List Char), readWord word y (word ++ rest) = some (y, rest) := by
    intro word y rest
    simp [readWord]
  induction x using Json.induction with
  | null =>
    intro _ n rest _ hn
    cases n with
    | zero => cases hn
    | succ n => exact hword ['u', 'l', 'l'] null rest
  | bool b =>
    intro _ n rest _ hn
    cases n with
    | zero => cases hn
    | succ n =>
      cases b with
      | true => exact hword ['r', 'u', 'e'] (bool true) rest
      | false => exact hword ['a', 'l', 's', 'e'] (bool false) rest
  | int i =>
    intro _
    exact readsBack_number rfl (head_int i) fun rest hrest => readNumber_int i hrest
  | float d =>
    intro hd
    exact readsBack_number rfl (h.head hd) (h.float d hd)
  | str s =>
    intro _ n rest _ hn
    cases n with
    | zero => cases hn
    | succ n =>
      obtain ⟨hq, hs⟩ := readString_quoted h s rest
      rw [text, hq, readValue, skip_cons (by decide)]
      simp only [if_true]
      rw [hs _ (by omega)]
      simp
  | arr xs ih =>
    intro hwf n rest _ hn
    have hall := (wellFormedItems_iff xs).mp hwf
    cases n with
    | zero => cases hn
    | succ n =>
      cases xs with
      | nil => rfl
      | cons x xs =>
        have hitems := readItems_text xs (fun y hy => ih y (List.mem_cons_of_mem _ hy) (hall y (List.mem_cons_of_mem _ hy)))
          x n rest (ih x List.mem_cons_self (hall x List.mem_cons_self)) (by simpa [text] using hn)
        obtain ⟨c, cs, hx, hblank, hc⟩ := head_text h (hall x List.mem_cons_self)
        have hskip : skip (text sty x ++ textItems sty xs ++ rest) = text sty x ++ textItems sty xs ++ rest := by
          rw [hx]
          exact skip_cons hblank _
        have hhead : (text sty x ++ textItems sty xs ++ rest).head? ≠ some ']' := by
          rw [hx]
          simpa using hc
        rw [text, List.cons_append, readValue, skip_cons (by decide)]
        simp only [hskip, hhead, hitems, if_false, if_true]
        rfl
  | obj fields ih =>
    intro hwf n rest _ hn
    have hall := (wellFormedFields_iff fields).mp hwf.2
    cases n with
    | zero => cases hn
    | succ n =>
      cases fields with
      | nil => rfl
      | cons f fields =>
        obtain ⟨k, x⟩ := f
        have hfields := readFields_text h fields
          (fun f hf => ih f (List.mem_cons_of_mem _ hf) (hall f (List.mem_cons_of_mem _ hf)))
          k x n rest (ih (k, x) List.mem_cons_self (hall (k, x) List.mem_cons_self)) (by simpa [text] using hn)
        rw [text, List.cons_append, readValue, skip_cons (by decide)]
        have hhead : (skip (quoted sty k ++ (':' :: blanks sty.afterColon) ++ text sty x ++ textFields sty fields ++ rest)).head? ≠
            some '\x7d' := by
          rw [quoted, List.cons_append, List.cons_append, List.cons_append, List.cons_append, skip_cons (by decide)]
          simp
        simp only [hhead, hfields, if_false]
        simp only [Option.bind_eq_bind, Option.bind_some, dictOf_nodup hwf.1]
        rfl

/-- The round trip. -/
theorem read_text {sty : Style} (h : sty.Lawful) {x : Json} (hwf : x.WellFormed) : read (text sty x) = some x := by
  have hx := readsBack h x hwf ((text sty x).length + 1) [] (by intro c hc; cases hc) (by omega)
  rw [List.append_nil] at hx
  simp [read, hx, skip]

/-! ## The text of `json.dumps` -/

/-- The style of `json.dumps`, with what follows a comma and a colon. -/
def python (afterComma afterColon : Nat) : Style := ⟨escapeChar, fun d => d.repr.toList, afterComma, afterColon⟩

theorem python_lawful (afterComma afterColon : Nat) : (python afterComma afterColon).Lawful where
  escape := readChar_escape
  quote := head_escape
  float _ hd _ hrest := readNumber_repr hd hrest

def Format.Spaced (fmt : Format) (afterComma afterColon : Nat) : Prop :=
  fmt.sortKeys = false ∧ fmt.item.toList = ',' :: blanks afterComma ∧ fmt.key.toList = ':' :: blanks afterColon

theorem toList_quote (s : String) (a b : Nat) : (quote s).toList = quoted (python a b) s := by
  simp [quote, quoted, python]

theorem dumpsItems_eq (fmt : Format) (xs : List Json) : dumpsItems fmt xs = xs.map (dumps fmt) := by
  induction xs with
  | nil => simp [dumpsItems]
  | cons x xs ih => simp [dumpsItems, ih]

theorem dumpsFields_eq (fmt : Format) (fields : List (String × Json)) :
    dumpsFields fmt fields = fields.map fun f => (f.1, dumps fmt f.2) := by
  induction fields with
  | nil => simp [dumpsFields]
  | cons f fields ih => simp [dumpsFields, ih]

theorem toList_items {fmt : Format} {a b : Nat} (h : fmt.Spaced a b) (xs : List Json)
    (hxs : ∀ x ∈ xs, (dumps fmt x).toList = text (python a b) x) :
    ∀ x, (dumps fmt x).toList = text (python a b) x →
      (fmt.item.intercalate (dumps fmt x :: xs.map (dumps fmt))).toList ++ [']'] =
        text (python a b) x ++ textItems (python a b) xs := by
  induction xs with
  | nil =>
    intro x hx
    simp [textItems, hx]
  | cons y ys ih =>
    intro x hx
    have hrec := ih (fun z hz => hxs z (List.mem_cons_of_mem _ hz)) y (hxs y List.mem_cons_self)
    simp only [List.map_cons, String.intercalate_cons_cons, String.toList_append, hx, h.2.1, List.append_assoc, List.cons_append,
      textItems, hrec]
    rfl

theorem toList_fields {fmt : Format} {a b : Nat} (h : fmt.Spaced a b) (fields : List (String × Json))
    (hxs : ∀ f ∈ fields, (dumps fmt f.2).toList = text (python a b) f.2) :
    ∀ k x, (dumps fmt x).toList = text (python a b) x →
      (fmt.item.intercalate ((quote k ++ fmt.key ++ dumps fmt x) ::
        fields.map fun f => quote f.1 ++ fmt.key ++ dumps fmt f.2)).toList ++ ['\x7d'] =
        quoted (python a b) k ++ (':' :: blanks b) ++ text (python a b) x ++ textFields (python a b) fields := by
  induction fields with
  | nil =>
    intro k x hx
    simp [textFields, hx, h.2.2, toList_quote k a b]
  | cons f fields ih =>
    intro k x hx
    have hrec := ih (fun z hz => hxs z (List.mem_cons_of_mem _ hz)) f.1 f.2 (hxs f List.mem_cons_self)
    simp only [List.map_cons, String.intercalate_cons_cons, String.toList_append, hx, h.2.1, h.2.2, List.append_assoc,
      List.cons_append, textFields, toList_quote k a b] at hrec ⊢
    rw [hrec]
    rfl

/-- What `json.dumps` writes is the text in its style. -/
theorem toList_dumps {fmt : Format} {a b : Nat} (h : fmt.Spaced a b) (x : Json) : (dumps fmt x).toList = text (python a b) x := by
  induction x using Json.induction with
  | null => simp [dumps, text]
  | bool b => cases b <;> simp [dumps, text]
  | int n => simp [dumps, text]
  | float d => simp [dumps, text, python]
  | str s => rw [dumps, text, toList_quote s a b]
  | arr xs ih =>
    cases xs with
    | nil => simp [dumps, dumpsItems, text]
    | cons x xs =>
      have hitems := toList_items h xs (fun y hy => ih y (List.mem_cons_of_mem _ hy)) x (ih x List.mem_cons_self)
      rw [dumps, dumpsItems_eq, text, ← hitems]
      simp
  | obj fields ih =>
    cases fields with
    | nil => simp [dumps, dumpsFields, text, sortFields, h.1]
    | cons f fields =>
      have hfields := toList_fields h fields (fun g hg => ih g (List.mem_cons_of_mem _ hg)) f.1 f.2 (ih f List.mem_cons_self)
      rw [dumps, dumpsFields_eq, sortFields, if_neg (by simp [h.1])]
      obtain ⟨k, x⟩ := f
      rw [text]
      rw [show blanks (python a b).afterColon = blanks b from rfl, ← hfields]
      simp [Function.comp_def]

/-- `json.loads` reads back what `json.dumps` wrote. -/
theorem loads_dumps {fmt : Format} {a b : Nat} (h : fmt.Spaced a b) {x : Json} (hwf : x.WellFormed) :
    loads (dumps fmt x) = some x := by
  rw [loads, toList_dumps h, read_text (python_lawful a b) hwf]

/-- `json.dumps(x)`. -/
def plain : Format := ⟨false, ", ", ": "⟩

/-- `json.dumps(x, separators=(",", ":"))`. -/
def compact : Format := ⟨false, ",", ":"⟩

theorem plain_spaced : plain.Spaced 1 1 := ⟨rfl, rfl, rfl⟩

theorem compact_spaced : compact.Spaced 0 0 := ⟨rfl, rfl, rfl⟩

/-! ## The characters of `json.dumps` -/

def Printable (s : List Char) : Prop := ∀ c ∈ s, 32 ≤ c.toNat ∧ c.toNat < 127

theorem Printable.append {s t : List Char} (hs : Printable s) (ht : Printable t) : Printable (s ++ t) := by
  intro c hc
  rcases List.mem_append.mp hc with hc | hc
  · exact hs c hc
  · exact ht c hc

theorem Printable.cons {c : Char} {s : List Char} (hc : 32 ≤ c.toNat ∧ c.toNat < 127) (hs : Printable s) : Printable (c :: s) := by
  intro d hd
  rcases List.mem_cons.mp hd with rfl | hd
  · exact hc
  · exact hs d hd

theorem printable_digits {s : List Char} (h : ∀ c ∈ s, c.isDigit = true) : Printable s := by
  intro c hc
  have hd := h c hc
  simp only [Char.isDigit, Bool.and_eq_true, decide_eq_true_eq] at hd
  have h1 : 48 ≤ c.toNat := hd.1
  have h2 : c.toNat ≤ 57 := hd.2
  omega

theorem printable_nat (n : Nat) : Printable (toString n).toList := by
  rw [toList_toString]
  exact printable_digits isDigit_toDigits

theorem printable_int (n : Int) : Printable (toString n).toList := by
  cases n with
  | ofNat m => exact printable_nat m
  | negSucc m =>
    have ht : (toString (Int.negSucc m)).toList = '-' :: (toString (m + 1)).toList := by
      rw [Int.toString_eq_repr]
      simp [Int.repr]
    rw [ht]
    exact .cons (by decide) (printable_nat _)

theorem printable_blanks (n : Nat) : Printable (blanks n) := by
  intro c hc
  rw [List.eq_of_mem_replicate hc]
  decide

theorem printable_zeros (n : Nat) : Printable (Decimal.zeros n).toList := by
  rw [Decimal.zeros, String.toList_ofList]
  exact printable_digits isDigit_zeros

theorem printable_if {p : Prop} [Decidable p] {s t : String} (hs : Printable s.toList) (ht : Printable t.toList) :
    Printable (if p then s else t).toList := by
  split
  · exact hs
  · exact ht

theorem printable_str {s t : String} (hs : Printable s.toList) (ht : Printable t.toList) : Printable (s ++ t).toList := by
  rw [String.toList_append]
  exact hs.append ht

theorem printable_repr (d : Decimal) : Printable d.repr.toList := by
  have htake : ∀ n, Printable ((toString d.digits).take n).toString.toList := by
    intro n
    rw [toList_take]
    exact fun c hc => printable_nat _ c (List.mem_of_mem_take hc)
  have hdrop : ∀ n, Printable ((toString d.digits).drop n).toString.toList := by
    intro n
    rw [toList_drop]
    exact fun c hc => printable_nat _ c (List.mem_of_mem_drop hc)
  have hword : ∀ s : String, (s.toList.all fun c => decide (32 ≤ c.toNat ∧ c.toNat < 127)) = true → Printable s.toList :=
    fun _ h => forall_of_all h
  unfold Decimal.repr
  refine printable_str (printable_if (hword _ (by decide)) (hword _ (by decide))) (printable_if (printable_if ?_ (printable_if ?_ ?_)) ?_)
  · exact printable_str (printable_str (hword _ (by decide)) (printable_zeros _)) (printable_nat _)
  · exact printable_str (printable_str (printable_nat _) (printable_zeros _)) (hword _ (by decide))
  · exact printable_str (printable_str (htake _) (hword _ (by decide))) (hdrop _)
  · refine printable_str (printable_str (printable_str (printable_str (htake _) (printable_if (hword _ (by decide))
      (printable_str (hword _ (by decide)) (hdrop _)))) (hword _ (by decide)))
      (printable_if (hword _ (by decide)) (hword _ (by decide)))) (printable_if ?_ (printable_nat _))
    exact printable_str (hword _ (by decide)) (printable_nat _)

theorem printable_unicode (n : Nat) : Printable (unicodeEscape n) := by
  have hhex : ∀ n < 16, 32 ≤ (hexDigit n).toNat ∧ (hexDigit n).toNat < 127 := by decide
  intro c hc
  simp only [unicodeEscape, List.mem_cons, List.not_mem_nil, or_false] at hc
  rcases hc with rfl | rfl | rfl | rfl | rfl | rfl
  · decide
  · decide
  all_goals exact hhex _ (Nat.mod_lt _ (by decide))

theorem printable_escape (c : Char) : Printable (escapeChar c) := by
  have hword : ∀ s : List Char, (s.all fun c => decide (32 ≤ c.toNat ∧ c.toNat < 127)) = true → Printable s :=
    fun _ h => forall_of_all h
  unfold escapeChar
  split
  · exact hword _ (by decide)
  split
  · exact hword _ (by decide)
  split
  · exact hword _ (by decide)
  split
  · exact hword _ (by decide)
  split
  · exact hword _ (by decide)
  split
  · exact hword _ (by decide)
  split
  · exact hword _ (by decide)
  split
  · rename_i h
    intro d hd
    rw [List.mem_singleton.mp hd]
    exact h
  split
  · exact printable_unicode _
  · exact (printable_unicode _).append (printable_unicode _)

theorem printable_quoted (s : String) (a b : Nat) : Printable (quoted (python a b) s) := by
  refine .cons (by decide) (.append ?_ (.cons (by decide) fun _ h => by cases h))
  intro c hc
  obtain ⟨x, -, hx⟩ := List.mem_flatMap.mp hc
  exact printable_escape x c hx

/-- Only printable ASCII is written: no line break, no character of more than one byte. -/
theorem printable_text (a b : Nat) (x : Json) : Printable (text (python a b) x) := by
  induction x using Json.induction with
  | null =>
    rw [text]
    exact forall_of_all rfl
  | bool b => cases b <;> (rw [text]; exact forall_of_all rfl)
  | int n => exact printable_int n
  | float d => exact printable_repr d
  | str s => exact printable_quoted s a b
  | arr xs ih =>
    have hitems : ∀ xs : List Json, (∀ x ∈ xs, Printable (text (python a b) x)) → Printable (textItems (python a b) xs) := by
      intro xs
      induction xs with
      | nil => exact fun _ => .cons (by decide) fun _ h => by cases h
      | cons x xs ih =>
        intro h
        exact .cons (by decide) (.append (.append (printable_blanks _) (h x List.mem_cons_self))
          (ih fun y hy => h y (List.mem_cons_of_mem _ hy)))
    cases xs with
    | nil => exact .cons (by decide) (.cons (by decide) fun _ h => by cases h)
    | cons x xs =>
      exact .cons (by decide) (.append (ih x List.mem_cons_self) (hitems xs fun y hy => ih y (List.mem_cons_of_mem _ hy)))
  | obj fields ih =>
    have hcolon : Printable (':' :: blanks (python a b).afterColon) := .cons (by decide) (printable_blanks _)
    have hfields : ∀ fields : List (String × Json), (∀ f ∈ fields, Printable (text (python a b) f.2)) →
        Printable (textFields (python a b) fields) := by
      intro fields
      induction fields with
      | nil => exact fun _ => .cons (by decide) fun _ h => by cases h
      | cons f fields ih =>
        intro h
        exact .cons (by decide) (.append (.append (.append (.append (printable_blanks _) (printable_quoted f.1 a b)) hcolon)
          (h f List.mem_cons_self)) (ih fun g hg => h g (List.mem_cons_of_mem _ hg)))
    cases fields with
    | nil => exact .cons (by decide) (.cons (by decide) fun _ h => by cases h)
    | cons f fields =>
      exact .cons (by decide) (.append (.append (.append (printable_quoted f.1 a b) hcolon) (ih f List.mem_cons_self))
        (hfields fields fun g hg => ih g (List.mem_cons_of_mem _ hg)))

end Json
