/-
  AgentResilience.Lib.Sha256 — SHA-256 over the UTF-8 bytes of a string, as words below
  `2 ^ 32`; `hexdigest` is the lower-case hex text of the digest.
-/
import Mathlib.Algebra.Group.Nat.Defs

namespace Sha256

def modulus : Nat := 4294967296

def rotr (n x : Nat) : Nat := ((x >>> n) ||| (x <<< (32 - n))) % modulus

def roundConstants : List Nat :=
  [0x428a2f98, 0x71374491, 0xb5c0fbcf, 0xe9b5dba5, 0x3956c25b, 0x59f111f1, 0x923f82a4, 0xab1c5ed5,
   0xd807aa98, 0x12835b01, 0x243185be, 0x550c7dc3, 0x72be5d74, 0x80deb1fe, 0x9bdc06a7, 0xc19bf174,
   0xe49b69c1, 0xefbe4786, 0x0fc19dc6, 0x240ca1cc, 0x2de92c6f, 0x4a7484aa, 0x5cb0a9dc, 0x76f988da,
   0x983e5152, 0xa831c66d, 0xb00327c8, 0xbf597fc7, 0xc6e00bf3, 0xd5a79147, 0x06ca6351, 0x14292967,
   0x27b70a85, 0x2e1b2138, 0x4d2c6dfc, 0x53380d13, 0x650a7354, 0x766a0abb, 0x81c2c92e, 0x92722c85,
   0xa2bfe8a1, 0xa81a664b, 0xc24b8b70, 0xc76c51a3, 0xd192e819, 0xd6990624, 0xf40e3585, 0x106aa070,
   0x19a4c116, 0x1e376c08, 0x2748774c, 0x34b0bcb5, 0x391c0cb3, 0x4ed8aa4a, 0x5b9cca4f, 0x682e6ff3,
   0x748f82ee, 0x78a5636f, 0x84c87814, 0x8cc70208, 0x90befffa, 0xa4506ceb, 0xbef9a3f7, 0xc67178f2]

def initial : List Nat :=
  [0x6a09e667, 0xbb67ae85, 0x3c6ef372, 0xa54ff53a, 0x510e527f, 0x9b05688c, 0x1f83d9ab, 0x5be0cd19]

/-- The message schedule: `n` more words from a window of sixteen. -/
def schedule : Nat → List Nat → List Nat
  | n + 1, [w0, w1, w2, w3, w4, w5, w6, w7, w8, w9, w10, w11, w12, w13, w14, w15] =>
    let s0 := rotr 7 w1 ^^^ rotr 18 w1 ^^^ (w1 >>> 3)
    let s1 := rotr 17 w14 ^^^ rotr 19 w14 ^^^ (w14 >>> 10)
    w0 :: schedule n [w1, w2, w3, w4, w5, w6, w7, w8, w9, w10, w11, w12, w13, w14, w15, (w0 + s0 + w9 + s1) % modulus]
  | _, ws => ws

def round (hs : List Nat) (kw : Nat × Nat) : List Nat :=
  match hs with
  | [a, b, c, d, e, f, g, h] =>
    let s1 := rotr 6 e ^^^ rotr 11 e ^^^ rotr 25 e
    let ch := (e &&& f) ^^^ ((modulus - 1 - e) &&& g)
    let t := h + s1 + ch + kw.1 + kw.2
    let s0 := rotr 2 a ^^^ rotr 13 a ^^^ rotr 22 a
    let maj := (a &&& b) ^^^ (a &&& c) ^^^ (b &&& c)
    [(t + s0 + maj) % modulus, a, b, c, (d + t) % modulus, e, f, g]
  | hs => hs

def compress (hs ws : List Nat) : List Nat :=
  List.zipWith (fun a b => (a + b) % modulus) hs ((roundConstants.zip (schedule 48 ws)).foldl round hs)

/-- Big-endian words of four bytes. -/
def words : List Nat → List Nat
  | a :: b :: c :: d :: bs => (((a * 256 + b) * 256 + c) * 256 + d) :: words bs
  | _ => []

def pad (bs : List Nat) : List Nat :=
  bs ++ [0x80] ++ List.replicate ((119 - bs.length % 64) % 64) 0 ++
    (List.range 8).map fun i => 8 * bs.length / 256 ^ (7 - i) % 256

def blocks : Nat → List Nat → List Nat → List Nat
  | 0, hs, _ => hs
  | n + 1, hs, ws => blocks n (compress hs (ws.take 16)) (ws.drop 16)

def hexDigits (w : Nat) : List Char :=
  (List.range 8).map fun i =>
    let n := w / 16 ^ (7 - i) % 16
    Char.ofNat (if n < 10 then 48 + n else 87 + n)

def hexdigest (s : String) : String :=
  let ws := words (pad (s.toUTF8.data.toList.map (·.toNat)))
  String.ofList ((blocks (ws.length / 16) initial ws).flatMap hexDigits)

set_option maxRecDepth 20000 in
example : hexdigest "abc" = "ba7816bf8f01cfea414140de5dae2223b00361a396177a9cb410ff61f20015ad" := by decide +kernel

theorem hexDigits_alphanum {w : Nat} {c : Char} (h : c ∈ hexDigits w) : c.isAlphanum = true := by
  have hdigit : ∀ n < 16, (Char.ofNat (if n < 10 then 48 + n else 87 + n)).isAlphanum = true := by decide
  obtain ⟨i, -, rfl⟩ := List.mem_map.mp h
  exact hdigit _ (Nat.mod_lt _ (by decide))

theorem hexdigest_alphanum {s : String} {c : Char} (h : c ∈ (hexdigest s).toList) : c.isAlphanum = true := by
  unfold hexdigest at h
  simp only [String.toList_ofList] at h
  obtain ⟨w, -, hc⟩ := List.mem_flatMap.mp h
  exact hexDigits_alphanum hc
end Sha256
