/-
  AgentResilience.Lib.Json — JSON values and their text, as Python's `json.dumps` writes
  it (`ensure_ascii`, optional `sort_keys`, the two separators). A float is its shortest
  repr, `± digits · 10 ^ exp`; the repr of a finite float determines it. Objects keep
  their keys in insertion order, as a `dict` does.
-/
import Mathlib.Data.List.Sort

/-- A finite float by its shortest decimal repr. -/
structure Decimal where
  neg : Bool
  digits : Nat
  exp : Int
  deriving DecidableEq, Repr

inductive Json where
  | null
  | bool (b : Bool)
  | int (n : Int)
  | float (d : Decimal)
  | str (s : String)
  | arr (xs : List Json)
  | obj (fields : List (String × Json))

/-- A `dict[str, α]`: one entry a key, in insertion order. -/
abbrev Dict (α : Type) := List (String × α)

namespace Dict

variable {α : Type}

def get? (d : Dict α) (k : String) : Option α := List.lookup k d

def contains (d : Dict α) (k : String) : Bool := (d.get? k).isSome

/-- `d[k] = v`: a key already there keeps its place. -/
def set : Dict α → String → α → Dict α
  | [], k, v => [(k, v)]
  | (x, w) :: d, k, v => if x = k then (x, v) :: d else (x, w) :: set d k v

def keys (d : Dict α) : List String := d.map (·.1)

theorem get?_set (d : Dict α) (k : String) (v : α) (j : String) :
    (d.set k v).get? j = if j = k then some v else d.get? j := by
  induction d with
  | nil =>
    by_cases e : j = k
    · subst e; simp [set, get?]
    · have hb : (j == k) = false := by simpa using e
      simp [set, get?, List.lookup_cons, hb, e]
  | cons x d ih =>
    obtain ⟨x, w⟩ := x
    by_cases hx : x = k
    · subst hx
      by_cases e : j = x
      · subst e; simp [set, get?]
      · have hb : (j == x) = false := by simpa using e
        simp [set, get?, List.lookup_cons, hb, e]
    · simp only [get?] at ih ⊢
      by_cases e : j = x
      · subst e; simp [set, hx]
      · have hb : (j == x) = false := by simpa using e
        simp only [set, hx, if_false, List.lookup_cons, hb]
        exact ih

theorem contains_set (d : Dict α) (k : String) (v : α) (j : String) :
    (d.set k v).contains j = (decide (j = k) || d.contains j) := by
  unfold contains
  rw [get?_set]
  by_cases e : j = k <;> simp [e]

theorem mem_keys_set (d : Dict α) (k : String) (v : α) (j : String) : j ∈ (d.set k v).keys ↔ j = k ∨ j ∈ d.keys := by
  induction d with
  | nil => simp [set, keys]
  | cons x d ih =>
    obtain ⟨x, w⟩ := x
    by_cases hx : x = k
    · subst hx
      simp [set, keys]
    · simp only [keys] at ih
      simp only [set, hx, if_false, keys, List.map_cons, List.mem_cons, ih]
      grind

end Dict

namespace Decimal

def zeros (n : Nat) : String := String.ofList (List.replicate n '0')

/-- `repr` of a float: fixed notation while the decimal point is within
    `(-4, 16]` digits of the first one, scientific outside. -/
def repr (d : Decimal) : String :=
  let ds := toString d.digits
  let n : Int := ds.length
  let point := n + d.exp
  let sign := if d.neg then "-" else ""
  let body :=
    if -4 < point ∧ point ≤ 16 then
      if point ≤ 0 then "0." ++ zeros (-point).toNat ++ ds
      else if n ≤ point then ds ++ zeros (point - n).toNat ++ ".0"
      else (ds.take point.toNat).toString ++ "." ++ (ds.drop point.toNat).toString
    else
      let frac := if ds.length ≤ 1 then "" else "." ++ (ds.drop 1).toString
      let e := toString (point - 1).natAbs
      let e := if e.length < 2 then "0" ++ e else e
      (ds.take 1).toString ++ frac ++ "e" ++ (if point - 1 < 0 then "-" else "+") ++ e
  sign ++ body

end Decimal

namespace Json

def hexDigit (n : Nat) : Char := Char.ofNat (if n < 10 then 48 + n else 87 + n)

/-- `\uXXXX` for one UTF-16 unit. -/
def unicodeEscape (n : Nat) : List Char :=
  ['\\', 'u', hexDigit (n / 4096 % 16), hexDigit (n / 256 % 16), hexDigit (n / 16 % 16), hexDigit (n % 16)]

def escapeChar (c : Char) : List Char :=
  if c = '"' then ['\\', '"']
  else if c = '\\' then ['\\', '\\']
  else if c = '\n' then ['\\', 'n']
  else if c = '\r' then ['\\', 'r']
  else if c = '\t' then ['\\', 't']
  else if c.toNat = 8 then ['\\', 'b']
  else if c.toNat = 12 then ['\\', 'f']
  else if 32 ≤ c.toNat ∧ c.toNat < 127 then [c]
  else if c.toNat < 65536 then unicodeEscape c.toNat
  else unicodeEscape (55296 + (c.toNat - 65536) / 1024) ++ unicodeEscape (56320 + (c.toNat - 65536) % 1024)

/-- The characters of a string, read off its bytes where they are ASCII, so that the kernel can evaluate them. -/
def chars (s : String) : List Char :=
  let bytes := s.toUTF8.data.toList
  if bytes.all (· < 128) then bytes.map fun b => Char.ofNat b.toNat else s.toList

theorem utf8EncodeChar_ascii {c : Char} (h : (String.utf8EncodeChar c).all (· < 128) = true) :
    (String.utf8EncodeChar c).map (fun b => Char.ofNat b.toNat) = [c] := by
  unfold String.utf8EncodeChar at *
  simp only at h ⊢
  split at h
  · rename_i hle
    rw [if_pos hle]
    have hlt : c.toNat < 256 := lt_of_le_of_lt hle (by decide)
    simp [Nat.mod_eq_of_lt hlt]
  -- the first byte of every other character has its high bit set
  · split at h
    · simp [UInt8.lt_iff_toNat_lt] at h; omega
    · split at h
      · simp [UInt8.lt_iff_toNat_lt] at h; omega
      · simp [UInt8.lt_iff_toNat_lt] at h; omega

@[simp] theorem chars_eq (s : String) : chars s = s.toList := by
  unfold chars
  simp only
  split
  · rename_i h
    obtain ⟨l, rfl⟩ : ∃ l, s = String.ofList l := ⟨s.toList, String.ofList_toList.symm⟩
    have hbytes : (String.ofList l).toUTF8.data.toList = l.flatMap String.utf8EncodeChar := List.toList_data_toByteArray
    rw [hbytes] at h ⊢
    rw [String.toList_ofList]
    clear hbytes
    induction l with
    | nil => rfl
    | cons c l ih =>
      rw [List.flatMap_cons, List.all_append, Bool.and_eq_true] at h
      rw [List.flatMap_cons, List.map_append, utf8EncodeChar_ascii h.1, ih h.2]
      rfl
  · rfl

def quote (s : String) : String :=
  String.ofList (['"'] ++ (chars s).flatMap escapeChar ++ ['"'])

structure Format where
  sortKeys : Bool
  item : String
  key : String

/-- `json.dumps(x, sort_keys=True)`. -/
def sorted : Format := ⟨true, ", ", ": "⟩

/-- `json.dumps(x, sort_keys=True, separators=(",", ":"))`. -/
def canonical : Format := ⟨true, ",", ":"⟩

def sortFields (fmt : Format) (fields : List (String × String)) : List (String × String) :=
  if fmt.sortKeys then fields.insertionSort (fun a b => a.1 ≤ b.1) else fields

mutual

def dumps (fmt : Format) : Json → String
  | null => "null"
  | bool b => if b then "true" else "false"
  | int n => toString n
  | float d => d.repr
  | str s => quote s
  | arr xs => "[" ++ fmt.item.intercalate (dumpsItems fmt xs) ++ "]"
  | obj fields =>
    "\x7b" ++ fmt.item.intercalate ((sortFields fmt (dumpsFields fmt fields)).map
      fun f => quote f.1 ++ fmt.key ++ f.2) ++ "\x7d"

def dumpsItems (fmt : Format) : List Json → List String
  | [] => []
  | x :: xs => dumps fmt x :: dumpsItems fmt xs

def dumpsFields (fmt : Format) : List (String × Json) → List (String × String)
  | [] => []
  | (k, x) :: fields => (k, dumps fmt x) :: dumpsFields fmt fields

end

def optStr : Option String → Json
  | some s => str s
  | none => null

/-- `value.get(name)` of an object. -/
def field (name : String) : Json → Option Json
  | .obj fields => Dict.get? fields name
  | _ => none

/-- `isinstance(x, dict) and x`. -/
def nonEmptyObj : Json → Bool
  | obj (_ :: _) => true
  | _ => false

end Json
