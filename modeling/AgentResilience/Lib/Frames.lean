/-
  AgentResilience.Lib.Frames — reading a stream that is cut anywhere. A splitter cuts a text
  into frames of which the last is unfinished; a reader keeps the unfinished one, puts the
  next chunk behind it and splits again.

  A splitter carries the law that makes this work: splitting a longer text gives the finished
  frames of the shorter one and goes on from its unfinished one. `feedAll_eq`: the reader gets
  the frames of the whole text, however it was cut. `blankLines` is `text.split("\n\n")`.
-/
import Mathlib.Data.List.Basic

namespace Frames

variable {α : Type}

structure Splitter (α : Type) where
  split : List α → List (List α)
  split_ne : ∀ a, split a ≠ []
  split_append : ∀ a b, split (a ++ b) = (split a).dropLast ++ split ((split a).getLastD [] ++ b)

namespace Splitter

variable (S : Splitter α)

/-- The finished frames, and the unfinished one. -/
def pop (text : List α) : List (List α) × List α := ((S.split text).dropLast, (S.split text).getLastD [])

/-- The frames of a stream, chunk by chunk, and what is left. -/
def feedAll : List α → List (List α) → List (List α) × List α
  | buffer, [] => ([], buffer)
  | buffer, chunk :: chunks =>
    let popped := S.pop (buffer ++ chunk)
    let later := feedAll popped.2 chunks
    (popped.1 ++ later.1, later.2)

/-- There is no finished frame in it. -/
def Unfinished (a : List α) : Prop := S.split a = [a]

theorem split_eq (a : List α) : S.split a = (S.pop a).1 ++ [(S.pop a).2] := by
  have h := List.dropLast_append_getLast (S.split_ne a)
  rw [pop, List.getLastD_eq_getLast?, List.getLast?_eq_some_getLast (S.split_ne a)]
  exact h.symm

theorem unfinished_pop (a : List α) : S.Unfinished (S.pop a).2 := by
  have h : S.split (a ++ []) = (S.pop a).1 ++ S.split ((S.pop a).2 ++ []) := S.split_append a []
  rw [List.append_nil, List.append_nil, S.split_eq a] at h
  exact (List.append_cancel_left h).symm

theorem pop_append (a b : List α) : S.pop (a ++ b) = ((S.pop a).1 ++ (S.pop ((S.pop a).2 ++ b)).1, (S.pop ((S.pop a).2 ++ b)).2) := by
  have h : S.split (a ++ b) = (S.pop a).1 ++ S.split ((S.pop a).2 ++ b) := S.split_append a b
  rw [S.split_eq ((S.pop a).2 ++ b), ← List.append_assoc] at h
  simp only [pop] at h ⊢
  rw [h]
  simp

/-- However the text is cut, its frames come out. -/
theorem feedAll_eq (chunks : List (List α)) : ∀ buffer, S.Unfinished buffer → S.feedAll buffer chunks = S.pop (buffer ++ chunks.flatten) := by
  induction chunks with
  | nil =>
    intro buffer h
    have h : S.split buffer = [buffer] := h
    simp [feedAll, pop, h]
  | cons chunk chunks ih =>
    intro buffer _
    rw [feedAll, ih _ (S.unfinished_pop _), List.flatten_cons, ← List.append_assoc, S.pop_append (buffer ++ chunk)]

end Splitter

/-! ## Blank lines -/

def consHead (c : Char) : List (List Char) → List (List Char)
  | [] => [[c]]
  | frame :: frames => (c :: frame) :: frames

/-- `text.split("\n\n")`. -/
def splitBlank : List Char → List (List Char)
  | [] => [[]]
  | [c] => [[c]]
  | c :: d :: cs => if c = '\n' ∧ d = '\n' then [] :: splitBlank cs else consHead c (splitBlank (d :: cs))

theorem splitBlank_ne (a : List Char) : splitBlank a ≠ [] := by
  fun_induction splitBlank a with
  | case1 => simp
  | case2 => simp
  | case3 => simp
  | case4 c d cs h ih =>
    cases hs : splitBlank (d :: cs) with
    | nil => exact absurd hs ih
    | cons f fs => simp [consHead]

/-- A text of one frame is the frame. -/
theorem eq_of_splitBlank (a : List Char) : ∀ f, splitBlank a = [f] → f = a := by
  fun_induction splitBlank a with
  | case1 =>
    intro f hf
    cases hf
    rfl
  | case2 c =>
    intro f hf
    cases hf
    rfl
  | case3 c d cs h ih =>
    intro f hf
    exact absurd (List.cons.inj hf).2 (splitBlank_ne cs)
  | case4 c d cs h ih =>
    intro f hf
    cases hs : splitBlank (d :: cs) with
    | nil => exact absurd hs (splitBlank_ne _)
    | cons g gs =>
      rw [hs] at hf
      obtain ⟨rfl, rfl⟩ := List.cons.inj hf
      rw [ih g hs]

theorem splitBlank_append (a b : List Char) :
    splitBlank (a ++ b) = (splitBlank a).dropLast ++ splitBlank ((splitBlank a).getLastD [] ++ b) := by
  fun_induction splitBlank a with
  | case1 => simp
  | case2 c => simp
  | case3 c d cs h ih =>
    obtain ⟨rfl, rfl⟩ := h
    have hne := splitBlank_ne cs
    cases hs : splitBlank cs with
    | nil => exact absurd hs hne
    | cons f fs =>
      rw [hs] at ih
      simp [splitBlank, ih]
  | case4 c d cs h ih =>
    have hne := splitBlank_ne (d :: cs)
    cases hs : splitBlank (d :: cs) with
    | nil => exact absurd hs hne
    | cons f fs =>
      rw [hs] at ih
      cases fs with
      | nil =>
        obtain rfl := eq_of_splitBlank _ f hs
        simp [consHead]
      | cons g gs =>
        simp only [List.cons_append] at ih
        simp [splitBlank, h, ih, consHead]

/-- `split("\n\n")`, frame by frame. -/
def blankLines : Splitter Char := ⟨splitBlank, splitBlank_ne, splitBlank_append⟩

theorem splitBlank_cons {c : Char} (h : c ≠ '\n') (cs : List Char) : splitBlank (c :: cs) = consHead c (splitBlank cs) := by
  cases cs with
  | nil => rfl
  | cons d cs => rw [splitBlank, if_neg fun hc => h hc.1]

/-- A line before something that is not a line break. -/
theorem splitBlank_line (line : List Char) (h : ∀ c ∈ line, c ≠ '\n') {text frame : List Char} {frames : List (List Char)}
    (ht : splitBlank text = frame :: frames) : splitBlank (line ++ text) = (line ++ frame) :: frames := by
  induction line with
  | nil => exact ht
  | cons c line ih =>
    rw [List.cons_append, splitBlank_cons (h c List.mem_cons_self), ih fun x hx => h x (List.mem_cons_of_mem _ hx)]
    rfl

theorem splitBlank_blank (cs : List Char) : splitBlank ('\n' :: '\n' :: cs) = [] :: splitBlank cs := by simp [splitBlank]

theorem splitBlank_break {d : Char} (h : d ≠ '\n') (cs : List Char) :
    splitBlank ('\n' :: d :: cs) = consHead '\n' (splitBlank (d :: cs)) := by
  rw [splitBlank, if_neg fun hc => h hc.2]

end Frames
