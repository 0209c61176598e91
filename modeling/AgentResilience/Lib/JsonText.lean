/-
  AgentResilience.Lib.JsonText — JSON text as a list of characters: writing it in a given
  style, and reading it (RFC 8259).

  A style says how a character of a string and a float are written and how many blanks
  follow a comma and a colon. A float is read as its digits without the zeros they end in,
  an object as a `dict` (a key met twice keeps its last value), a `\u` escape of a lone
  surrogate as an error.
-/
import Mathlib.Algebra.Field.Rat
import Mathlib.Tactic.Ring
import AgentResilience.Lib.Json

namespace Decimal

/-- The number a repr stands for. -/
def value (d : Decimal) : ℚ := (if d.neg then -1 else 1) * d.digits * 10 ^ d.exp

/-- No digits that a repr would not print: the shortest digits of a float do not end in a zero. -/
def Shortest (d : Decimal) : Prop := d.digits % 10 ≠ 0 ∨ d.digits = 0 ∧ d.exp = 0

/-- Digits and exponent without the zeros the digits end in. -/
def strip : Nat → Nat → Int → Nat × Int
  | 0, m, e => (m, e)
  | n + 1, m, e => if m % 10 = 0 then strip n (m / 10) (e + 1) else (m, e)

def ofDigits (neg : Bool) (m : Nat) (e : Int) : Decimal :=
  if m = 0 then ⟨neg, 0, 0⟩ else ⟨neg, (strip m m e).1, (strip m m e).2⟩

theorem strip_zeros {m : Nat} (hm : m % 10 ≠ 0) (k : Nat) :
    ∀ (n : Nat) (e : Int), k ≤ n → strip n (m * 10 ^ k) e = (m, e + k) := by
  induction k with
  | zero =>
    intro n e hn
    cases n with
    | zero => simp [strip]
    | succ n => simp [strip, hm]
  | succ k ih =>
    intro n e hn
    obtain ⟨n, rfl⟩ : ∃ n', n = n' + 1 := ⟨n - 1, by omega⟩
    have hp : m * 10 ^ (k + 1) = m * 10 ^ k * 10 := by ring
    have hd : m * 10 ^ k * 10 / 10 = m * 10 ^ k := Nat.mul_div_cancel _ (by decide)
    have hz : m * 10 ^ k * 10 % 10 = 0 := Nat.mul_mod_left _ _
    rw [strip, hp, if_pos hz, hd, ih n (e + 1) (by omega)]
    simp only [Prod.mk.injEq, true_and]
    omega

/-- Zeros after the shortest digits change nothing. -/
theorem ofDigits_zeros {d : Decimal} (h : d.Shortest) (k : Nat) :
    ofDigits d.neg (d.digits * 10 ^ k) (d.exp - k) = d := by
  rcases h with h | ⟨h0, he⟩
  · have hk : k ≤ d.digits * 10 ^ k := by
      have h1 : k < 10 ^ k := Nat.lt_pow_self (by decide)
      have h2 : 1 * 10 ^ k ≤ d.digits * 10 ^ k := Nat.mul_le_mul_right _ (by omega)
      omega
    have hne : d.digits * 10 ^ k ≠ 0 := by
      have := Nat.mul_pos (by omega : 0 < d.digits) (Nat.pow_pos (n := k) (by decide : 0 < 10))
      omega
    rw [ofDigits, if_neg hne, strip_zeros h k _ _ hk]
    simp
  · obtain ⟨neg, digits, exp⟩ := d
    simp only at h0 he
    subst h0 he
    simp [ofDigits]

end Decimal

namespace Json

/-- What a run over a text's characters shows. -/
theorem forall_of_all {p : Char → Prop} [DecidablePred p] {s : List Char} (h : (s.all fun c => decide (p c)) = true) :
    ∀ c ∈ s, p c :=
  fun c hc => of_decide_eq_true (List.all_eq_true.mp h c hc)

/-! ## Writing -/

structure Style where
  escape : Char → List Char
  float : Decimal → List Char
  afterComma : Nat
  afterColon : Nat

def blanks (n : Nat) : List Char := List.replicate n ' '

def quoted (sty : Style) (s : String) : List Char := '"' :: (s.toList.flatMap sty.escape ++ ['"'])

mutual

def text (sty : Style) : Json → List Char
  | null => ['n', 'u', 'l', 'l']
  | bool true => ['t', 'r', 'u', 'e']
  | bool false => ['f', 'a', 'l', 's', 'e']
  | int n => (toString n).toList
  | float d => sty.float d
  | str s => quoted sty s
  | arr [] => ['[', ']']
  | arr (x :: xs) => '[' :: (text sty x ++ textItems sty xs)
  | obj [] => ['\x7b', '\x7d']
  | obj ((k, x) :: fields) =>
    '\x7b' :: (quoted sty k ++ (':' :: blanks sty.afterColon) ++ text sty x ++ textFields sty fields)

/-- The items after the first, and the closing bracket. -/
def textItems (sty : Style) : List Json → List Char
  | [] => [']']
  | x :: xs => ',' :: (blanks sty.afterComma ++ text sty x ++ textItems sty xs)

def textFields (sty : Style) : List (String × Json) → List Char
  | [] => ['\x7d']
  | (k, x) :: fields =>
    ',' :: (blanks sty.afterComma ++ quoted sty k ++ (':' :: blanks sty.afterColon) ++ text sty x ++ textFields sty fields)

end

/-! ## Reading -/

/-- The text after the blanks it starts with. -/
def skip : List Char → List Char
  | [] => []
  | c :: cs => if c = ' ' ∨ c = '\n' ∨ c = '\r' ∨ c = '\t' then skip cs else c :: cs

def hexValue (c : Char) : Option Nat :=
  if 48 ≤ c.toNat ∧ c.toNat ≤ 57 then some (c.toNat - 48)
  else if 97 ≤ c.toNat ∧ c.toNat ≤ 102 then some (c.toNat - 87)
  else if 65 ≤ c.toNat ∧ c.toNat ≤ 70 then some (c.toNat - 55)
  else none

/-- The UTF-16 unit of four hex digits. -/
def readUnit : List Char → Option (Nat × List Char)
  | a :: b :: c :: d :: cs => do
    let a ← hexValue a
    let b ← hexValue b
    let c ← hexValue c
    let d ← hexValue d
    pure (((a * 16 + b) * 16 + c) * 16 + d, cs)
  | _ => none

/-- What a one-letter escape stands for. -/
def unescape (c : Char) : Option Char :=
  if c = '"' ∨ c = '\\' ∨ c = '/' then some c
  else if c = 'b' then some (Char.ofNat 8)
  else if c = 'f' then some (Char.ofNat 12)
  else if c = 'n' then some '\n'
  else if c = 'r' then some '\r'
  else if c = 't' then some '\t'
  else none

/-- The second half of a surrogate pair. -/
def readLow (high : Nat) : List Char → Option (Char × List Char)
  | b :: u :: cs =>
    if b = '\\' ∧ u = 'u' then do
      let (low, cs) ← readUnit cs
      if 56320 ≤ low ∧ low < 57344 then pure (Char.ofNat (65536 + (high - 55296) * 1024 + (low - 56320)), cs) else none
    else none
  | _ => none

/-- One character of a string's body. -/
def readChar : List Char → Option (Char × List Char)
  | [] => none
  | c :: cs =>
    if c ≠ '\\' then if c.toNat < 32 then none else some (c, cs)
    else match cs with
      | [] => none
      | e :: cs =>
        if e = 'u' then do
          let (n, cs) ← readUnit cs
          if 55296 ≤ n ∧ n < 56320 then readLow n cs
          else if 56320 ≤ n ∧ n < 57344 then none
          else pure (Char.ofNat n, cs)
        else (unescape e).map fun c => (c, cs)

/-- A string's body and its closing quote. -/
def readString : Nat → List Char → Option (List Char × List Char)
  | 0, _ => none
  | n + 1, cs =>
    if cs.head? = some '"' then some ([], cs.tail)
    else do
      let (c, cs) ← readChar cs
      let (s, cs) ← readString n cs
      pure (c :: s, cs)

/-- The digits a text starts with, at least one, and the rest. -/
def readDigits (cs : List Char) : Option (List Char × List Char) :=
  if cs.takeWhile Char.isDigit = [] then none else some (cs.takeWhile Char.isDigit, cs.dropWhile Char.isDigit)

def readFraction (cs : List Char) : Option (Option (List Char) × List Char) :=
  if cs.head? = some '.' then (readDigits cs.tail).map fun r => (some r.1, r.2) else some (none, cs)

def readExponent (cs : List Char) : Option (Option Int × List Char) :=
  if cs.head? = some 'e' ∨ cs.head? = some 'E' then
    let neg := cs.tail.head? = some '-'
    let cs := if neg ∨ cs.tail.head? = some '+' then cs.tail.tail else cs.tail
    (readDigits cs).map fun r =>
      (some (if neg then -(Nat.ofDigitChars 10 r.1 0 : Int) else (Nat.ofDigitChars 10 r.1 0 : Int)), r.2)
  else some (none, cs)

/-- An integer part has no leading zero. -/
def leadingZero (ds : List Char) : Bool := ds.head? = some '0' && ds.length != 1

def readNumber (cs : List Char) : Option (Json × List Char) := do
  let neg := decide (cs.head? = some '-')
  let (whole, cs) ← readDigits (if neg then cs.tail else cs)
  if leadingZero whole then none
  else do
    let (fraction, cs) ← readFraction cs
    let (exponent, cs) ← readExponent cs
    if fraction = none ∧ exponent = none then
      let n : Int := Nat.ofDigitChars 10 whole 0
      pure (int (if neg then -n else n), cs)
    else
      let frac := fraction.getD []
      pure (float (Decimal.ofDigits neg (Nat.ofDigitChars 10 (whole ++ frac) 0) (exponent.getD 0 - frac.length)), cs)

def readWord (word : List Char) (x : Json) (cs : List Char) : Option (Json × List Char) :=
  if word.isPrefixOf cs then some (x, cs.drop word.length) else none

/-- `dict(pairs)`. -/
def dictOf (pairs : List (String × Json)) : List (String × Json) :=
  pairs.foldl (fun d f => Dict.set d f.1 f.2) []

mutual

def readValue : Nat → List Char → Option (Json × List Char)
  | 0, _ => none
  | n + 1, cs =>
    match skip cs with
    | [] => none
    | c :: cs =>
      if c = '"' then do
        let (s, cs) ← readString (cs.length + 1) cs
        pure (str (String.ofList s), cs)
      else if c = '[' then
        if (skip cs).head? = some ']' then some (arr [], (skip cs).tail)
        else do
          let (xs, cs) ← readItems n cs
          pure (arr xs, cs)
      else if c = '\x7b' then
        if (skip cs).head? = some '\x7d' then some (obj [], (skip cs).tail)
        else do
          let (fields, cs) ← readFields n cs
          pure (obj (dictOf fields), cs)
      else if c = 'n' then readWord ['u', 'l', 'l'] null cs
      else if c = 't' then readWord ['r', 'u', 'e'] (bool true) cs
      else if c = 'f' then readWord ['a', 'l', 's', 'e'] (bool false) cs
      else readNumber (c :: cs)

/-- The items of an array that has some, and its closing bracket. -/
def readItems : Nat → List Char → Option (List Json × List Char)
  | 0, _ => none
  | n + 1, cs => do
    let (x, cs) ← readValue n cs
    match skip cs with
    | [] => none
    | c :: cs =>
      if c = ',' then do
        let (xs, cs) ← readItems n cs
        pure (x :: xs, cs)
      else if c = ']' then some ([x], cs)
      else none

def readFields : Nat → List Char → Option (List (String × Json) × List Char)
  | 0, _ => none
  | n + 1, cs =>
    if (skip cs).head? = some '"' then do
      let (k, cs) ← readString ((skip cs).length + 1) (skip cs).tail
      if (skip cs).head? = some ':' then do
        let (x, cs) ← readValue n (skip cs).tail
        match skip cs with
        | [] => none
        | c :: cs =>
          if c = ',' then do
            let (fields, cs) ← readFields n cs
            pure ((String.ofList k, x) :: fields, cs)
          else if c = '\x7d' then some ([(String.ofList k, x)], cs)
          else none
      else none
    else none

end

/-- `json.loads` and `JSON.parse`: one value, with blanks around it. -/
def read (cs : List Char) : Option Json :=
  match readValue (cs.length + 1) cs with
  | some (x, rest) => if skip rest = [] then some x else none
  | none => none

def loads (s : String) : Option Json := read s.toList

end Json
