/-
  AgentResilience.Lib.Messages — a queue that hands every message out at least once. A message
  is its place among those sent. It may be handed out any number of times, at any time, each
  time under a new handle; a handle deletes the message it was given for. Of itself the queue
  moves a message to another one, where it is counted on, and drops one that is too old.

  Nothing is forgotten: `Grown` says that what a queue has and has given up is what an earlier
  one had, and later ones. `DeletedFor`: every deletion is of a message whose handle has the
  property that is asked of a deletion.
-/
import Mathlib.Data.List.GetD
import Mathlib.Data.List.Infix

namespace Messages

variable {ρ β : Type}

/-- A handle, the message it was given for, and how often that had been handed out. -/
structure Receipt (ρ : Type) where
  handle : ρ
  message : Nat
  count : Nat

structure Queue (ρ β : Type) where
  bodies : List β
  /-- How often the queue it came from had handed a message out. -/
  before : List Nat
  /-- Newest first. -/
  receipts : List (Receipt ρ)
  deleted : List Nat
  moved : List Nat
  expired : List Nat
  lengths : before.length = bodies.length
  known : ∀ r ∈ receipts, r.message < bodies.length
  handles : (receipts.map (·.handle)).Nodup
  counted : ∀ r rest, r :: rest <:+ receipts → r.count = before.getD r.message 0 + rest.countP (fun x => x.message = r.message) + 1

namespace Queue

def empty : Queue ρ β := ⟨[], [], [], [], [], [], rfl, nofun, List.nodup_nil, fun r rest h => by cases List.eq_nil_of_suffix_nil h⟩

/-- A message comes in that was handed out `n` times before. -/
def add (q : Queue ρ β) (body : β) (n : Nat) : Queue ρ β where
  bodies := q.bodies ++ [body]
  before := q.before ++ [n]
  receipts := q.receipts
  deleted := q.deleted
  moved := q.moved
  expired := q.expired
  lengths := by simp [q.lengths]
  known r hr := by
    rw [List.length_append, List.length_singleton]
    exact Nat.lt_succ_of_lt (q.known r hr)
  handles := q.handles
  counted r rest h := by
    rw [List.getD_append _ _ _ _ (q.lengths ▸ q.known r (h.subset List.mem_cons_self))]
    exact q.counted r rest h

def send (q : Queue ρ β) (body : β) : Queue ρ β := q.add body 0

/-- How often a message was handed out. -/
def received (q : Queue ρ β) (message : Nat) : Nat := q.before.getD message 0 + q.receipts.countP fun x => x.message = message

def receive (q : Queue ρ β) (message : Nat) (handle : ρ) (hm : message < q.bodies.length) (hfresh : handle ∉ q.receipts.map (·.handle)) :
    Queue ρ β where
  bodies := q.bodies
  before := q.before
  receipts := ⟨handle, message, q.received message + 1⟩ :: q.receipts
  deleted := q.deleted
  moved := q.moved
  expired := q.expired
  lengths := q.lengths
  known r hr := by
    rcases List.mem_cons.mp hr with rfl | hr
    · exact hm
    · exact q.known r hr
  handles := List.nodup_cons.mpr ⟨hfresh, q.handles⟩
  counted r rest h := by
    rcases List.suffix_cons_iff.mp h with e | h
    · cases e
      rfl
    · exact q.counted r rest h

/-- The message is moved to another queue. -/
def move (q : Queue ρ β) (message : Nat) : Queue ρ β := { q with moved := message :: q.moved }

/-- The message has been kept for as long as the queue keeps one. -/
def expire (q : Queue ρ β) (message : Nat) : Queue ρ β := { q with expired := message :: q.expired }

/-- The messages as they came in, and how often they had been handed out before. -/
def arrivals (q : Queue ρ β) : List (β × Nat) := q.bodies.zip q.before

theorem mem_arrivals_add {q : Queue ρ β} {body : β} {n : Nat} {x : β × Nat} :
    x ∈ (q.add body n).arrivals ↔ x ∈ q.arrivals ∨ x = (body, n) := by
  have h : (q.add body n).arrivals = q.arrivals ++ [(body, n)] := List.zip_append q.lengths.symm
  rw [h, List.mem_append, List.mem_singleton]

/-- The message left the queue. -/
def Gone (q : Queue ρ β) (message : Nat) : Prop := message ∈ q.deleted ∨ message ∈ q.moved ∨ message ∈ q.expired

variable [DecidableEq ρ]

def receipt (q : Queue ρ β) (handle : ρ) : Option (Receipt ρ) := q.receipts.find? fun r => decide (r.handle = handle)

def delete (q : Queue ρ β) (handle : ρ) : Queue ρ β :=
  match q.receipt handle with
  | none => q
  | some r => { q with deleted := r.message :: q.deleted }

omit [DecidableEq ρ] in
theorem mem_add {q : Queue ρ β} {b body : β} {n : Nat} : b ∈ (q.add body n).bodies ↔ b ∈ q.bodies ∨ b = body := by
  show b ∈ q.bodies ++ [body] ↔ _
  rw [List.mem_append, List.mem_singleton]

theorem bodies_delete (q : Queue ρ β) (handle : ρ) : (q.delete handle).bodies = q.bodies := by
  unfold delete
  split <;> rfl

theorem mem_delete {q : Queue ρ β} {handle : ρ} {b : β} : b ∈ (q.delete handle).bodies ↔ b ∈ q.bodies := by
  rw [bodies_delete]

theorem receipts_delete (q : Queue ρ β) (handle : ρ) : (q.delete handle).receipts = q.receipts := by
  unfold delete
  split <;> rfl

theorem arrivals_delete (q : Queue ρ β) (handle : ρ) : (q.delete handle).arrivals = q.arrivals := by
  unfold delete
  split <;> rfl

theorem moved_delete (q : Queue ρ β) (handle : ρ) : (q.delete handle).moved = q.moved := by
  unfold delete
  split <;> rfl

theorem expired_delete (q : Queue ρ β) (handle : ρ) : (q.delete handle).expired = q.expired := by
  unfold delete
  split <;> rfl

theorem mem_deleted {q : Queue ρ β} {handle : ρ} {message : Nat} (h : message ∈ (q.delete handle).deleted) :
    message ∈ q.deleted ∨ ∃ r ∈ q.receipts, r.message = message ∧ r.handle = handle := by
  unfold delete at h
  split at h
  · exact .inl h
  · rename_i r hr
    rcases List.mem_cons.mp h with rfl | h
    · have hfind : q.receipts.find? (fun x => decide (x.handle = handle)) = some r := hr
      have hhandle := List.find?_some hfind
      exact .inr ⟨r, List.mem_of_find?_eq_some hfind, rfl, of_decide_eq_true hhandle⟩
    · exact .inl h

end Queue

/-! ## Later queues -/

/-- What was sent, handed out and given up stays so. -/
structure Grown (q q' : Queue ρ β) : Prop where
  bodies : q.bodies <+: q'.bodies
  before : q.before <+: q'.before
  receipts : q.receipts <:+ q'.receipts
  deleted : q.deleted <:+ q'.deleted
  moved : q.moved <:+ q'.moved
  expired : q.expired <:+ q'.expired

namespace Grown

variable {q q' q'' : Queue ρ β}

theorem refl (q : Queue ρ β) : Grown q q :=
  ⟨List.prefix_rfl, List.prefix_rfl, List.suffix_rfl, List.suffix_rfl, List.suffix_rfl, List.suffix_rfl⟩

theorem trans (h : Grown q q') (h' : Grown q' q'') : Grown q q'' :=
  ⟨h.bodies.trans h'.bodies, h.before.trans h'.before, h.receipts.trans h'.receipts, h.deleted.trans h'.deleted,
    h.moved.trans h'.moved, h.expired.trans h'.expired⟩

theorem add (q : Queue ρ β) (body : β) (n : Nat) : Grown q (q.add body n) :=
  { refl q with bodies := List.prefix_append .., before := List.prefix_append .. }

theorem receive (q : Queue ρ β) (message : Nat) (handle : ρ) (hm : message < q.bodies.length)
    (hfresh : handle ∉ q.receipts.map (·.handle)) : Grown q (q.receive message handle hm hfresh) :=
  { refl q with receipts := List.suffix_cons .. }

theorem delete [DecidableEq ρ] (q : Queue ρ β) (handle : ρ) : Grown q (q.delete handle) := by
  unfold Queue.delete
  split
  · exact refl q
  · exact { refl q with deleted := List.suffix_cons .. }

theorem move (q : Queue ρ β) (message : Nat) : Grown q (q.move message) := { refl q with moved := List.suffix_cons .. }

theorem expire (q : Queue ρ β) (message : Nat) : Grown q (q.expire message) := { refl q with expired := List.suffix_cons .. }

theorem body (h : Grown q q') {message : Nat} {b : β} (hb : q.bodies[message]? = some b) : q'.bodies[message]? = some b := by
  obtain ⟨rest, hrest⟩ := h.bodies
  rw [← hrest, List.getElem?_append_left (List.getElem?_eq_some_iff.mp hb).1]
  exact hb

theorem mem (h : Grown q q') {b : β} (hb : b ∈ q.bodies) : b ∈ q'.bodies := h.bodies.subset hb

theorem handed (h : Grown q q') {r : Receipt ρ} (hr : r ∈ q.receipts) : r ∈ q'.receipts := h.receipts.subset hr

theorem received (h : Grown q q') (message : Nat) : q.received message ≤ q'.received message := by
  refine Nat.add_le_add ?_ (h.receipts.sublist.countP_le)
  obtain ⟨rest, hrest⟩ := h.before
  rw [← hrest]
  rcases lt_or_ge message q.before.length with hlt | hge
  · rw [List.getD_append _ _ _ _ hlt]
  · rw [List.getD_eq_default _ _ hge]
    exact Nat.zero_le _

end Grown

/-! ## Deletions -/

/-- Every deleted message was deleted under a handle of it with the property. -/
def DeletedFor (S : ρ → Prop) (q : Queue ρ β) : Prop := ∀ message ∈ q.deleted, ∃ r ∈ q.receipts, r.message = message ∧ S r.handle

variable {S S' : ρ → Prop} {q q' : Queue ρ β}

theorem deletedFor_empty : DeletedFor S (Queue.empty : Queue ρ β) := nofun

theorem DeletedFor.mono (h : DeletedFor S q) (hS : ∀ handle, S handle → S' handle) : DeletedFor S' q := by
  intro message hm
  obtain ⟨r, hr, he, hs⟩ := h message hm
  exact ⟨r, hr, he, hS _ hs⟩

/-- A step that deletes nothing. -/
theorem DeletedFor.grown (h : DeletedFor S q) (hg : Grown q q') (hd : q'.deleted = q.deleted) : DeletedFor S q' := by
  intro message hm
  obtain ⟨r, hr, he, hs⟩ := h message (hd ▸ hm)
  exact ⟨r, hg.handed hr, he, hs⟩

theorem DeletedFor.delete [DecidableEq ρ] (h : DeletedFor S q) {handle : ρ} (hs : S handle) : DeletedFor S (q.delete handle) := by
  intro message hm
  rw [Queue.receipts_delete]
  rcases Queue.mem_deleted hm with hm | ⟨r, hr, he, rfl⟩
  · exact h message hm
  · exact ⟨r, hr, he, hs⟩

/-! ## Handing out -/

/-- What a consumer gets of a message. -/
structure Handed (ρ β : Type) where
  body : β
  handle : ρ
  count : Nat

/-- The queue hands messages out, one after the other. -/
inductive HandsOut : Queue ρ β → List (Handed ρ β) → Queue ρ β → Prop
  | done (q : Queue ρ β) : HandsOut q [] q
  | next {q q' : Queue ρ β} {xs : List (Handed ρ β)} {message : Nat} {handle : ρ} (hm : message < q.bodies.length)
      (hfresh : handle ∉ q.receipts.map (·.handle)) :
      HandsOut (q.receive message handle hm hfresh) xs q' → HandsOut q (⟨q.bodies[message], handle, q.received message + 1⟩ :: xs) q'

/-- A queue that a consumer got `x` of. -/
def Queue.HandedOut (q : Queue ρ β) (x : Handed ρ β) : Prop :=
  ∃ r ∈ q.receipts, r.handle = x.handle ∧ r.count = x.count ∧ q.bodies[r.message]? = some x.body

/-- What is handed out came in, with fewer hand-outs before. -/
theorem Queue.HandedOut.arrived {x : Handed ρ β} (h : q.HandedOut x) : ∃ n, (x.body, n) ∈ q.arrivals ∧ n < x.count := by
  obtain ⟨r, hr, -, hcount, hbody⟩ := h
  obtain ⟨newer, older, hreceipts⟩ := List.append_of_mem hr
  have hcounted := q.counted r older ⟨newer, hreceipts.symm⟩
  obtain ⟨hm, hbody⟩ := List.getElem?_eq_some_iff.mp hbody
  have hmb : r.message < q.before.length := q.lengths ▸ hm
  refine ⟨q.before[r.message], ?_, ?_⟩
  · rw [← hbody, ← List.getElem_zip (h := by rw [List.length_zip]; omega)]
    exact List.getElem_mem _
  · rw [List.getD_eq_getElem _ _ hmb] at hcounted
    omega

theorem Grown.handedOut (h : Grown q q') {x : Handed ρ β} (hx : q.HandedOut x) : q'.HandedOut x := by
  obtain ⟨r, hr, hh, hc, hb⟩ := hx
  exact ⟨r, h.handed hr, hh, hc, h.body hb⟩

/-- Only what was handed out is new. -/
structure Shown (q q' : Queue ρ β) : Prop where
  grown : Grown q q'
  bodies : q'.bodies = q.bodies
  arrivals : q'.arrivals = q.arrivals
  deleted : q'.deleted = q.deleted
  moved : q'.moved = q.moved
  expired : q'.expired = q.expired

theorem HandsOut.shown {xs : List (Handed ρ β)} (h : HandsOut q xs q') : Shown q q' := by
  induction h with
  | done q => exact ⟨.refl q, rfl, rfl, rfl, rfl, rfl⟩
  | next hm hfresh _ ih => exact { ih with grown := (Grown.receive _ _ _ hm hfresh).trans ih.grown }

theorem HandsOut.handedOut {xs : List (Handed ρ β)} (h : HandsOut q xs q') : ∀ x ∈ xs, q'.HandedOut x := by
  induction h with
  | done q => exact nofun
  | @next q q' xs message handle hm hfresh hrest ih =>
    intro x hx
    rcases List.mem_cons.mp hx with rfl | hx
    · refine hrest.shown.grown.handedOut ⟨_, List.mem_cons_self, rfl, rfl, ?_⟩
      exact List.getElem?_eq_getElem hm
    · exact ih x hx

end Messages
