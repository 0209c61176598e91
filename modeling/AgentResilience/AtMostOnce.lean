/-
  AgentResilience.AtMostOnce — how often the backend succeeds for one action.
  `gatewayExecute` looks the action id up in the ledger, invokes the backend on a miss
  and then writes the ledger: three steps, with nothing that holds the action in between.
  The window of a thread is the action id it looked up and missed, with the backend's
  success once it has come, until its ledger write or the backend's failure. Two workers
  with a delivery of one workflow can have the same window open, and both invoke the
  backend (`restarted_twice`).

  `executed_once`: where no lookup is made into another thread's open window, the backend
  succeeds at most once for an action id, every later lookup of the action is answered with
  that result, and an approved restart that was carried out never reaches the backend again.
-/
import AgentResilience.Guarantee
import AgentResilience.ApprovalSafety

namespace AgentResilience

open Interaction
open Interaction.Prog (attempt ofExcept)

/-! ## Windows -/

/-- A success of the backend: what it was invoked for, and what it returned. -/
structure Success where
  key : String
  arguments : Arguments
  result : Json

def Entry.success : Entry → Option Success
  | did _ (.execute st tool arguments _) (.ok result) =>
    if result.nonEmptyObj then some ⟨actionId st.taskId tool arguments, arguments, result⟩ else none
  | _ => none

/-- The backend's successes for an action id, newest first. -/
def successes (key : String) (journal : List Entry) : List Success :=
  (journal.filterMap Entry.success).filter fun x => decide (x.key = key)

/-- An action id looked up and missed, and the backend's success for it if it has come. -/
structure Window where
  key : String
  success : Option Success := none

/-- What a journal entry says of thread `i`'s window. -/
def Entry.opens (i : ThreadId) : Entry → Option (Option Window)
  | did j (.store (.getToolResult key _)) (.ok none) => if j = i then some (some ⟨key, none⟩) else none
  | did j (.execute st tool arguments n) r =>
    if j = i then some ((did j (.execute st tool arguments n) r).success.map fun x => ⟨x.key, some x⟩) else none
  | did j (.store (.saveToolResult ..)) _ => if j = i then some none else none
  | _ => none

def window (i : ThreadId) : List Entry → Option Window := latest (Entry.opens i)

/-- The ledger's answer where it has the success. -/
def Success.answer (x : Success) (arguments : Arguments) : Except PyError (Option Json) :=
  if argumentsHash x.arguments ≠ argumentsHash arguments then .error (.value "idempotency key reused with different arguments")
  else .ok (some x.result)

/-- After `older`, a lookup is answered with the success there was, and the backend is invoked by
    a thread whose lookup missed, where there was none. -/
def Entry.Serves (older : List Entry) : Entry → Prop
  | did _ (.store (.getToolResult key arguments)) r => ∀ x ∈ successes key older, r = x.answer arguments
  | did i (.execute st tool arguments _) _ =>
    window i older = some ⟨actionId st.taskId tool arguments, none⟩ ∧ successes (actionId st.taskId tool arguments) older = []
  | _ => True

/-- The calls that open or close a window. -/
def Call.onLedger : Call → Bool
  | .store (.getToolResult ..) | .store (.saveToolResult ..) | .execute .. => true
  | _ => false

theorem opens_other {i j : ThreadId} (h : j ≠ i) (c : Call) (r : Except PyError c.Ret) : (Entry.did j c r).opens i = none := by
  unfold Entry.opens
  split <;> simp_all

theorem opens_quiet {c : Call} (h : c.onLedger = false) (i j : ThreadId) (r : Except PyError c.Ret) :
    (Entry.did j c r).opens i = none ∧ (Entry.did j c r).success = none ∧ ∀ older, (Entry.did j c r).Serves older := by
  cases c with
  | store c => cases c <;> first | exact ⟨rfl, rfl, fun _ => trivial⟩ | cases h
  | execute => cases h
  | _ => exact ⟨rfl, rfl, fun _ => trivial⟩

theorem window_cons (i : ThreadId) (e : Entry) (journal : List Entry) :
    window i (e :: journal) = (e.opens i).getD (window i journal) := latest_cons ..

theorem window_other {i j : ThreadId} (h : j ≠ i) (c : Call) (r : Except PyError c.Ret) (journal : List Entry) :
    window i (.did j c r :: journal) = window i journal := by
  rw [window_cons, opens_other h]; rfl

theorem successes_cons (key : String) (e : Entry) (journal : List Entry) :
    successes key (e :: journal) = (e.success.filter fun x => decide (x.key = key)).toList ++ successes key journal := by
  unfold successes
  cases he : e.success with
  | none => simp [he]
  | some x => by_cases hk : x.key = key <;> simp [he, hk, Option.filter]

theorem successes_none {e : Entry} (h : e.success = none) (key : String) (journal : List Entry) :
    successes key (e :: journal) = successes key journal := by
  rw [successes_cons, h]; rfl

/-! ## The invariant -/

/-- The ledger row of a success. -/
def Success.Recorded (x : Success) (row : ToolResultRow) : Prop :=
  row.argumentsHash = argumentsHash x.arguments ∧ row.resultJson = x.result

structure LedgerOk (w : World) : Prop where
  unique : ∀ i j a b, window i w.journal = some a → window j w.journal = some b → a.key = b.key → i = j
  missed : ∀ i key, window i w.journal = some ⟨key, none⟩ → successes key w.journal = [] ∧ w.store.toolResults.get key = none
  returned : ∀ i key x, window i w.journal = some ⟨key, some x⟩ → successes key w.journal = [x] ∧ w.store.toolResults.get key = none
  recorded : ∀ key row, w.store.toolResults.get key = some row → ∃ x, successes key w.journal = [x] ∧ x.Recorded row
  kept : ∀ key, successes key w.journal = [] ∨ w.store.toolResults.get key ≠ none ∨
    ∃ i x, window i w.journal = some ⟨key, some x⟩
  serves : ∀ e older, e :: older <:+ w.journal → e.Serves older

variable {w : World} {i : ThreadId} {s' : SQLiteStore} {t : Timestamp}

/-- For one action id the backend succeeds once. -/
theorem LedgerOk.once (h : LedgerOk w) (key : String) : (successes key w.journal).length ≤ 1 := by
  rcases h.kept key with hk | hk | ⟨i, x, hk⟩
  · rw [hk]; exact Nat.zero_le 1
  · obtain ⟨row, hrow⟩ := Option.ne_none_iff_exists'.mp hk
    obtain ⟨x, hx, -⟩ := h.recorded key row hrow
    rw [hx]; exact Nat.le_refl 1
  · rw [(h.returned i key x hk).1]; exact Nat.le_refl 1

theorem LedgerOk.cons_serves (h : LedgerOk w) {e : Entry} (he : e.Serves w.journal) :
    ∀ e' older, e' :: older <:+ e :: w.journal → e'.Serves older := by
  intro e' older hs
  rcases List.suffix_cons_iff.mp hs with hs | hs
  · cases hs; exact he
  · exact h.serves e' older hs

/-- An entry about nobody's window. -/
theorem LedgerOk.quiet (h : LedgerOk w) {e : Entry} (ho : ∀ i, e.opens i = none) (hs : e.success = none)
    (he : e.Serves w.journal) (hl : s'.toolResults = w.store.toolResults) : LedgerOk ⟨s', t, e :: w.journal⟩ := by
  have hw : ∀ i, window i (e :: w.journal) = window i w.journal := fun i => by rw [window_cons, ho i]; rfl
  have hc := fun key => successes_none hs key w.journal
  refine ⟨fun i j a b => ?_, fun i key => ?_, fun i key x => ?_, fun key row => ?_, fun key => ?_, h.cons_serves he⟩
  · simp only [hw]; exact h.unique i j a b
  · simp only [hw, hc, hl]; exact h.missed i key
  · simp only [hw, hc, hl]; exact h.returned i key x
  · simp only [hc, hl]; exact h.recorded key row
  · simp only [hw, hc, hl]; exact h.kept key

/-- What a window says of the successes and of the ledger. -/
def Window.Sound (journal : List Entry) (s : SQLiteStore) (a : Window) : Prop :=
  successes a.key journal = a.success.toList ∧ s.toolResults.get a.key = none

/-- An entry of thread `i` about its window: the success is that of the action it missed, the
    ledger row that of its success. -/
theorem LedgerOk.entry (h : LedgerOk w) {e : Entry} {v : Option Window} (hi : e.opens i = some v)
    (ho : ∀ j, j ≠ i → e.opens j = none)
    (hfree : ∀ a, v = some a → ∀ j b, j ≠ i → window j w.journal = some b → a.key ≠ b.key)
    (hsound : ∀ a, v = some a → a.Sound (e :: w.journal) s')
    (hres : ∀ key, successes key (e :: w.journal) = successes key w.journal ∨ window i w.journal = some ⟨key, none⟩ ∧
      ∃ x, successes key (e :: w.journal) = [x] ∧ v = some ⟨key, some x⟩)
    (hl : ∀ key, s'.toolResults.get key = w.store.toolResults.get key ∨
      ∃ x row, window i w.journal = some ⟨key, some x⟩ ∧ s'.toolResults.get key = some row ∧ x.Recorded row)
    (hk : ∀ key x, window i w.journal = some ⟨key, some x⟩ → s'.toolResults.get key ≠ none)
    (he : e.Serves w.journal) : LedgerOk ⟨s', t, e :: w.journal⟩ := by
  have hwi : window i (e :: w.journal) = v := by rw [window_cons, hi]; rfl
  have hwj : ∀ {j}, j ≠ i → window j (e :: w.journal) = window j w.journal := fun hj => by rw [window_cons, ho _ hj]; rfl
  -- the action of another thread's window is neither carried out nor recorded
  have hother : ∀ {j a}, j ≠ i → window j w.journal = some a →
      successes a.key (e :: w.journal) = successes a.key w.journal ∧ s'.toolResults.get a.key = w.store.toolResults.get a.key := by
    intro j a hj ha
    refine ⟨(hres a.key).resolve_right fun hm => ?_, (hl a.key).resolve_right ?_⟩
    · exact hj (h.unique j i a _ ha hm.1 rfl)
    · rintro ⟨x, row, hx, -⟩
      exact hj (h.unique j i a _ ha hx rfl)
  refine ⟨fun j j' a b ha hb hab => ?_, fun j key ha => ?_, fun j key x ha => ?_, fun key row hrow => ?_, fun key => ?_, h.cons_serves he⟩
  · simp only at ha hb
    by_cases e1 : j = i <;> by_cases e2 : j' = i
    · rw [e1, e2]
    · subst e1
      rw [hwi] at ha; rw [hwj e2] at hb
      exact absurd hab (hfree a ha j' b e2 hb)
    · subst e2
      rw [hwi] at hb; rw [hwj e1] at ha
      exact absurd hab.symm (hfree b hb j a e1 ha)
    · rw [hwj e1] at ha; rw [hwj e2] at hb
      exact h.unique j j' a b ha hb hab
  · simp only at ha ⊢
    by_cases e1 : j = i
    · subst e1; rw [hwi] at ha; exact hsound _ ha
    · rw [hwj e1] at ha
      obtain ⟨hs, hg⟩ := hother e1 ha
      obtain ⟨hm, hn⟩ := h.missed j key ha
      exact ⟨hs.trans hm, hg.trans hn⟩
  · simp only at ha ⊢
    by_cases e1 : j = i
    · subst e1; rw [hwi] at ha; exact hsound _ ha
    · rw [hwj e1] at ha
      obtain ⟨hs, hg⟩ := hother e1 ha
      obtain ⟨hm, hn⟩ := h.returned j key x ha
      exact ⟨hs.trans hm, hg.trans hn⟩
  · simp only at hrow ⊢
    rcases hl key with hsame | ⟨x, row', hx, hrow', hrec⟩
    · rw [hsame] at hrow
      obtain ⟨x, hx, hrec⟩ := h.recorded key row hrow
      refine ⟨x, ?_, hrec⟩
      rcases hres key with hs | ⟨hm, -⟩
      · exact hs.trans hx
      · rw [(h.missed i key hm).2] at hrow; cases hrow
    · cases hrow.symm.trans hrow'
      refine ⟨x, ?_, hrec⟩
      rcases hres key with hs | ⟨hm, -⟩
      · exact hs.trans (h.returned i key x hx).1
      · rw [hx] at hm; cases hm
  · simp only
    rcases hres key with hs | ⟨-, x, -, hv⟩
    · rw [hs]
      rcases h.kept key with hk' | hk' | ⟨j, x, hj⟩
      · exact .inl hk'
      · refine .inr (.inl ?_)
        rcases hl key with hsame | ⟨x, row, -, hrow, -⟩
        · rw [hsame]; exact hk'
        · rw [hrow]; simp
      · by_cases e1 : j = i
        · subst e1; exact .inr (.inl (hk key x hj))
        · exact .inr (.inr ⟨j, x, (hwj e1).trans hj⟩)
    · exact .inr (.inr ⟨i, x, hwi.trans hv⟩)

/-! ## The protocol -/

/-- No lookup into another thread's open window, and no crash. -/
def Env.oneWindow : Env where
  allows i w c _ :=
    match c with
    | .store (.getToolResult key _) => ∀ j a, j ≠ i → window j w.journal = some a → a.key ≠ key
    | _ => True
  dies _ _ := False

def windowObs (i : ThreadId) (w : World) : Call → Prop
  | .store (.getToolResult ..) => window i w.journal = none
  | .store (.saveToolResult key _ _ arguments result) => window i w.journal = some ⟨key, some ⟨key, arguments, result⟩⟩
  | .execute st tool arguments _ => window i w.journal = some ⟨actionId st.taskId tool arguments, none⟩
  | _ => True

def windows : Protocol ThreadId Call World Unit where
  Inv w _ := LedgerOk w
  Rely i w _ w' _ := window i w'.journal = window i w.journal
  Idle i w _ := window i w.journal = none
  Obs i c w _ := windowObs i w c
  rely_refl _ _ _ := rfl
  rely_trans h h' := h'.trans h
  idle_stable h h' := h.trans h'

theorem ledger_same {c : Call} {w' : World} {r : Except PyError c.Ret} (hc : c.onLedger = false)
    (h : calls .oneWindow i c w r w') : w'.store.toolResults = w.store.toolResults := by
  obtain ⟨t, s', -, -, he, rfl⟩ := h
  cases c with
  | store c =>
    obtain rfl := congrArg Prod.snd he
    exact StoreCall.apply_ledger (by cases c <;> first | rfl | cases hc) w.store t
  | clock | awaitHeartbeat => obtain ⟨-, rfl⟩ := he; rfl
  | _ => obtain rfl := he; rfl

theorem getToolResult_none {s : SQLiteStore} {key : String} {arguments : Arguments}
    (h : s.getToolResult key arguments = .ok none) : s.toolResults.get key = none := by
  unfold SQLiteStore.getToolResult at h
  split at h
  · assumption
  · split at h <;> cases h

theorem Success.Recorded.answer {s : SQLiteStore} {key : String} {row : ToolResultRow} {x : Success} (h : x.Recorded row)
    (hrow : s.toolResults.get key = some row) (arguments : Arguments) : s.getToolResult key arguments = x.answer arguments := by
  unfold SQLiteStore.getToolResult Success.answer
  rw [hrow, ← h.1, ← h.2]

/-- Where no window is open for an action id, its success is in the ledger. -/
theorem LedgerOk.answers (h : LedgerOk w) {key : String} (ho : window i w.journal = none)
    (hal : ∀ j a, j ≠ i → window j w.journal = some a → a.key ≠ key) :
    (successes key w.journal ≠ [] → w.store.toolResults.get key ≠ none) ∧
    ∀ arguments, ∀ x ∈ successes key w.journal, w.store.getToolResult key arguments = x.answer arguments := by
  have hget : successes key w.journal ≠ [] → w.store.toolResults.get key ≠ none := by
    intro hne
    rcases h.kept key with hk | hk | ⟨j, x, hj⟩
    · exact absurd hk hne
    · exact hk
    · by_cases e : j = i
      · subst e; rw [ho] at hj; cases hj
      · exact absurd rfl (hal j _ e hj)
  refine ⟨hget, fun arguments x hx => ?_⟩
  obtain ⟨row, hrow⟩ := Option.ne_none_iff_exists'.mp (hget (List.ne_nil_of_mem hx))
  obtain ⟨y, hy, hrec⟩ := h.recorded key row hrow
  rw [hy, List.mem_singleton] at hx
  subst hx
  exact hrec.answer hrow arguments

theorem lookup_ledgerOk (h : LedgerOk w) {key : String} {arguments : Arguments} (ho : window i w.journal = none)
    (hal : ∀ j a, j ≠ i → window j w.journal = some a → a.key ≠ key) {r : Except PyError (Option Json)}
    (hr : r = w.store.getToolResult key arguments) :
    LedgerOk ⟨w.store, t, .did i (.store (.getToolResult key arguments)) r :: w.journal⟩ := by
  obtain ⟨hget, hanswer⟩ := h.answers ho hal
  have hserves : (Entry.did i (.store (.getToolResult key arguments)) r).Serves w.journal := by
    intro x hx
    rw [hr]; exact hanswer arguments x hx
  match r with
  | .error e => exact h.quiet (fun _ => rfl) rfl hserves rfl
  | .ok (some cached) => exact h.quiet (fun _ => rfl) rfl hserves rfl
  | .ok none =>
    have hnone := getToolResult_none hr.symm
    have hzero : successes key w.journal = [] := by
      by_contra hne
      exact hget hne hnone
    refine h.entry (v := some ⟨key, none⟩) (by simp [Entry.opens]) (fun j hj => opens_other (Ne.symm hj) _ _)
      ?_ ?_ (fun _ => .inl (successes_none rfl ..)) (fun _ => .inl rfl) (fun _ _ hw => ?_) hserves
    · intro a ha j b hj hb e
      cases ha
      exact hal j b hj hb e.symm
    · intro a ha
      cases ha
      exact ⟨(successes_none rfl ..).trans hzero, hnone⟩
    · rw [ho] at hw; cases hw

theorem success_key {st : WorkflowState} {tool : ToolName} {arguments : Arguments} {n : Nat} {r : Except PyError Json} {x : Success}
    (h : (Entry.did i (.execute st tool arguments n) r).success = some x) : x.key = actionId st.taskId tool arguments := by
  cases r with
  | error e => cases h
  | ok result =>
    simp only [Entry.success] at h
    split at h <;> cases h
    rfl

theorem execute_ledgerOk (h : LedgerOk w) {st : WorkflowState} {tool : ToolName} {arguments : Arguments} {n : Nat}
    (ho : window i w.journal = some ⟨actionId st.taskId tool arguments, none⟩) (r : Except PyError Json) :
    LedgerOk ⟨w.store, t, .did i (.execute st tool arguments n) r :: w.journal⟩ := by
  obtain ⟨hzero, hnone⟩ := h.missed i _ ho
  have hopens : (Entry.did i (.execute st tool arguments n) r).opens i =
      some ((Entry.did i (.execute st tool arguments n) r).success.map fun x => ⟨x.key, some x⟩) := by simp [Entry.opens]
  have hnot : ∀ {key x}, window i w.journal = some ⟨key, some x⟩ → w.store.toolResults.get key ≠ none := by
    intro key x hx
    rw [ho] at hx; cases hx
  cases hs : (Entry.did i (.execute st tool arguments n) r).success with
  | none =>
    rw [hs] at hopens
    exact h.entry hopens (fun j hj => opens_other (Ne.symm hj) _ _) (fun _ e => by cases e) (fun _ e => by cases e)
      (fun _ => .inl (successes_none hs ..)) (fun _ => .inl rfl) (fun _ _ => hnot) ⟨ho, hzero⟩
  | some x =>
    have hx := success_key hs
    have hone : successes x.key (.did i (.execute st tool arguments n) r :: w.journal) = [x] := by
      rw [successes_cons, hs, hx, hzero]
      simp [Option.filter, hx]
    rw [hs] at hopens
    refine h.entry hopens (fun j hj => opens_other (Ne.symm hj) _ _) (fun a ha j b hj hb e => ?_) (fun a ha => ?_) (fun key => ?_)
      (fun _ => .inl rfl) (fun _ _ => hnot) ⟨ho, hzero⟩
    · cases ha
      exact hj (h.unique j i b _ hb ho (e.symm.trans hx))
    · cases ha
      exact ⟨hone, (congrArg w.store.toolResults.get hx).trans hnone⟩
    · by_cases e : x.key = key
      · subst e
        exact .inr ⟨by rw [ho, hx], x, hone, rfl⟩
      · rw [successes_cons, hs]
        simp [Option.filter, e]

theorem write_ledgerOk (h : LedgerOk w) {key taskId tool : String} {arguments : Arguments} {result : Json}
    (ho : window i w.journal = some ⟨key, some ⟨key, arguments, result⟩⟩) (r : Except PyError Unit) :
    LedgerOk ⟨w.store.saveToolResult t key taskId tool arguments result, t,
      .did i (.store (.saveToolResult key taskId tool arguments result)) r :: w.journal⟩ := by
  obtain ⟨hone, hnone⟩ := h.returned i key _ ho
  have hget : ∀ k, (w.store.saveToolResult t key taskId tool arguments result).toolResults.get k =
      if key = k then some ⟨key, taskId, tool, argumentsHash arguments, result, t⟩ else w.store.toolResults.get k := by
    intro k
    show (w.store.toolResults.insertOrIgnore _).get k = _
    rw [Table.get_insertOrIgnore]
    split
    · rename_i e
      rw [← (show key = k from e), hnone]; rfl
    · rfl
  refine h.entry (v := none) (by simp [Entry.opens]) (fun j hj => opens_other (Ne.symm hj) _ _) (fun _ e => by cases e)
    (fun _ e => by cases e) (fun _ => .inl (successes_none rfl ..)) (fun k => ?_) (fun k x hx => ?_) trivial
  · rw [hget]
    split
    · rename_i e
      subst e
      exact .inr ⟨_, _, ho, rfl, rfl, rfl⟩
    · exact .inl rfl
  · rw [ho] at hx; cases hx
    rw [hget, if_pos rfl]; simp

/-- Every call keeps the ledger's invariant. -/
theorem windows_keeps {c : Call} {w' : World} {r : Except PyError c.Ret} (hi : LedgerOk w)
    (ho : windowObs i w c) (h : calls .oneWindow i c w r w') : windows.Keeps i w () w' () := by
  refine ⟨?_, fun j hj => ?_⟩
  · by_cases hq : c.onLedger = false
    · have hl := ledger_same hq h
      obtain ⟨t, s', -, -, -, rfl⟩ := h
      exact hi.quiet (fun j => (opens_quiet hq j i r).1) (opens_quiet hq i i r).2.1 ((opens_quiet hq i i r).2.2 _) hl
    · obtain ⟨t, s', -, hal, he, rfl⟩ := h
      cases c with
      | execute st tool arguments n => obtain rfl := he; exact execute_ledgerOk hi ho r
      | store c =>
        cases c with
        | getToolResult key arguments =>
          obtain ⟨hr, rfl⟩ := Prod.mk.inj he
          exact lookup_ledgerOk hi ho hal hr.symm
        | saveToolResult key taskId tool arguments result =>
          obtain rfl := congrArg Prod.snd he
          exact write_ledgerOk hi ho r
        | _ => exact absurd rfl hq
      | _ => exact absurd rfl hq
  · obtain ⟨t, s', -, -, -, rfl⟩ := h
    exact window_other (Ne.symm hj) c r w.journal

/-! ## Programs -/

/-- A program that starts and ends without a window. -/
def Windowless {α : Type} (p : Py α) : Prop :=
  ∀ i w, window i w.journal = none →
    Safe (calls .oneWindow) windows i p (fun _ w' _ => window i w'.journal = none) w ()

namespace Windowless

variable {α β : Type}

theorem ret (a : α) : Windowless (.ret a) := fun _ _ h _ _ hr _ => hr.trans h

theorem raise (e : PyError) : Windowless (.raise e : Py α) := fun _ _ h _ _ hr _ => hr.trans h

theorem ofExcept (r : Except PyError α) : Windowless (ofExcept r) := by
  cases r with
  | ok a => exact ret a
  | error e => exact raise e

theorem bind {p : Py α} {f : α → Py β} (hp : Windowless p) (hf : ∀ a, Windowless (f a)) : Windowless (p.bind f) := by
  intro i w h
  refine Safe.bind (Safe.mono (hp i w h) fun o w' _ _ hq => ?_)
  cases o with
  | ok a => exact hf a i w' hq
  | error e => exact hq

theorem attempt {p : Py α} (hp : Windowless p) : Windowless p.attempt :=
  fun i w h => Safe.attempt (hp i w h)

theorem perform {c : Call} (h : c.onLedger = false) : Windowless (.perform c) := by
  intro i w hw
  refine Safe.perform fun w₁ _ hr hi => ?_
  have ho : windowObs i w₁ c := by
    cases c with
    | store c => cases c <;> trivial
    | execute => cases h
    | _ => trivial
  refine ⟨ho, fun r w₂ hs => ⟨(), windows_keeps hi ho hs, fun w₃ _ hr₃ _ => ?_⟩⟩
  obtain ⟨t, s', -, -, -, rfl⟩ := hs
  refine hr₃.trans ?_
  rw [window_cons, (opens_quiet h i i r).1]
  exact hr.trans hw

theorem store {c : StoreCall} (h : (Call.store c).onLedger = false) : Windowless (onStore c) := perform h

theorem save (st : WorkflowState) : Windowless (save st) := store rfl

theorem record (taskId : String) (e : EventType) (payload : Json) : Windowless (record taskId e payload) := store rfl

end Windowless

/-- The gateway opens a window on a miss and has closed it when it ends. -/
theorem gatewayExecute_windowless (st : WorkflowState) (tool : ToolName) (arguments : Arguments) :
    Windowless (gatewayExecute anyBackend st tool arguments) := by
  refine .bind (.ofExcept _) ?_
  rintro ⟨validated, policy⟩
  simp only
  split
  · exact .raise _
  · intro i w hw
    refine Safe.bind (Safe.perform fun w₁ _ hr hi => ?_)
    have ho : windowObs i w₁ (.store (.getToolResult (actionId st.taskId tool validated) validated)) := hr.trans hw
    refine ⟨ho, fun r w₂ hs => ⟨(), windows_keeps hi ho hs, fun w₃ _ hr₃ _ => ?_⟩⟩
    obtain ⟨t, s', -, -, -, rfl⟩ := hs
    match r with
    | .error e => exact hr₃.trans ho
    | .ok (some cached) => exact Windowless.ret (cached, true) i w₃ (hr₃.trans ho)
    | .ok none =>
      have hw₃ : window i w₃.journal = some ⟨actionId st.taskId tool validated, none⟩ := by
        rw [hr₃, window_cons]; simp [Entry.opens]
      refine Safe.bind (Safe.perform fun w₄ _ hr₄ hi₄ => ?_)
      have ho₄ : windowObs i w₄ (.execute st tool validated (st.toolHistory.count tool.value)) := hr₄.trans hw₃
      refine ⟨ho₄, fun r w₅ hs => ⟨(), windows_keeps hi₄ ho₄ hs, fun w₆ _ hr₆ _ => ?_⟩⟩
      obtain ⟨t, s', -, -, -, rfl⟩ := hs
      have hopen : ∀ v, (Entry.did i (.execute st tool validated (st.toolHistory.count tool.value)) r).opens i = some v →
          window i w₆.journal = v := by
        intro v hv
        rw [hr₆, window_cons, hv]; rfl
      cases r with
      | error e => exact hopen none (by simp [Entry.opens, Entry.success])
      | ok result =>
        show Safe _ _ _ (if _ then _ else _) _ _ _
        split
        · rename_i hn
          have hn : result.nonEmptyObj = false := by simpa using hn
          exact Windowless.raise _ i w₆ (hopen none (by simp [Entry.opens, Entry.success, hn]))
        · rename_i hn
          have hn : result.nonEmptyObj = true := by simpa using hn
          have hw₆ := hopen (some ⟨actionId st.taskId tool validated, some ⟨actionId st.taskId tool validated, validated, result⟩⟩)
            (by simp [Entry.opens, Entry.success, hn])
          refine Safe.bind (Safe.perform fun w₇ _ hr₇ hi₇ => ?_)
          have ho₇ : windowObs i w₇ (.store (.saveToolResult (actionId st.taskId tool validated) st.taskId tool.value
              validated result)) := hr₇.trans hw₆
          refine ⟨ho₇, fun r w₈ hs => ⟨(), windows_keeps hi₇ ho₇ hs, fun w₉ _ hr₉ _ => ?_⟩⟩
          obtain ⟨t, s', -, -, -, rfl⟩ := hs
          have hw₉ : window i w₉.journal = none := by
            rw [hr₉, window_cons]; simp [Entry.opens]
          cases r with
          | error e => exact hw₉
          | ok u => exact Windowless.ret (result, false) i w₉ hw₉

namespace Windowless

variable (rt : WorkflowRuntime) (config : Settings)

theorem failWorkflow (st : WorkflowState) (reason category : String) : Windowless (failWorkflow st reason category) :=
  .bind (.save _) fun _ => .bind (.record _ _ _) fun _ => .ret _

theorem executeTool (hb : rt.backend = anyBackend) (st : WorkflowState) (tool : ToolName) (arguments : Arguments) :
    Windowless (rt.executeTool st tool arguments) := by
  unfold WorkflowRuntime.executeTool
  rw [hb]
  refine .bind (.attempt (gatewayExecute_windowless st tool arguments)) fun o => ?_
  split
  · split
    · exact .bind (.save _) fun _ => .bind (.record _ _ _) fun _ => .raise _
    · split
      · exact .failWorkflow _ _ _
      · exact .raise _
  · exact .bind (.save _) fun _ => .bind (.record _ _ _) fun _ => .ret _

theorem runDecided (hb : rt.backend = anyBackend) (taskId : String) (st : WorkflowState) (decision : AgentDecision)
    (tool : ToolName) (arguments : Arguments) (policy : PolicyDecision) :
    Windowless (rt.runDecided taskId st decision tool arguments policy) := by
  unfold WorkflowRuntime.runDecided
  split
  · exact .bind (.record _ _ _) fun _ => .failWorkflow _ _ _
  · split
    · exact .bind (.save _) fun _ => .bind (.store rfl) fun _ => .bind (.record _ _ _) fun _ => .ret _
    · split
      · exact .bind (.record _ _ _) fun _ => executeTool rt hb _ _ _
      · exact executeTool rt hb _ _ _

theorem useTool (hb : rt.backend = anyBackend) (taskId : String) (st : WorkflowState) (decision : AgentDecision)
    (tool : ToolName) : Windowless (rt.useTool taskId st decision tool) := by
  refine .bind (.ofExcept _) fun x => ?_
  simp only
  split
  · exact .bind (.save _) fun _ => .bind (.record _ _ _) fun _ => .ret _
  · exact .bind (.save _) fun _ => runDecided rt hb _ _ _ _ _ _

theorem applyDecision (he : rt.engine = anyEngine) (hb : rt.backend = anyBackend) (taskId : String) (st : WorkflowState)
    (decision : AgentDecision) : Windowless (rt.applyDecision taskId st decision) := by
  unfold WorkflowRuntime.applyDecision
  rw [he]
  refine .bind (.perform rfl) fun usage => .bind (.record _ _ _) fun _ => ?_
  simp only
  split
  · exact .bind (.save _) fun _ => .bind (.record _ _ _) fun _ => .ret _
  · exact .failWorkflow _ _ _
  · split
    · exact .raise _
    · exact useTool rt hb _ _ _ _

theorem process (he : rt.engine = anyEngine) (hb : rt.backend = anyBackend) (taskId : String) :
    Windowless (rt.process taskId) := by
  refine .bind (.bind (.store rfl) fun o => ?_) fun st => ?_
  · split
    · exact .raise _
    · exact .ret _
  · split
    · exact .ret _
    · split
      · refine .bind (.store rfl) fun approval => ?_
        split
        · exact .ret _
        · exact .bind (.record _ _ _) fun _ => executeTool rt hb _ _ _
      · unfold WorkflowRuntime.decideNext
        rw [he]
        refine .bind (.save _) fun st => .bind (.record _ _ _) fun _ => .bind (.attempt (.perform rfl)) fun o => ?_
        split
        · split
          · exact .bind (.save _) fun _ => .bind (.record _ _ _) fun _ => .raise _
          · exact .raise _
        · exact applyDecision rt he hb _ _ _

theorem handleDelivery (he : rt.engine = anyEngine) (hb : rt.backend = anyBackend) (delivery : QueueDelivery) :
    Windowless (handleDelivery rt config delivery) := by
  refine .bind (.attempt (.bind (process rt he hb _) fun st => .bind (.store rfl) fun _ => ?_)) fun o => ?_
  · split
    · exact .bind (.store rfl) fun _ => .ret _
    · exact .ret _
  · split
    · exact .ret _
    · split
      · refine .bind (.store rfl) fun dead => ?_
        split
        · refine .bind (.store rfl) fun o => ?_
          split
          · exact .ret _
          · split
            · exact .ret _
            · exact .bind (.save _) fun _ => .record _ _ _
        · exact .ret _
      · split
        · refine .bind (.store rfl) fun _ => .bind (.store rfl) fun o => ?_
          split
          · exact .ret _
          · split
            · exact .ret _
            · exact .bind (.save _) fun _ => .record _ _ _
        · exact .raise _

theorem runOnce (he : rt.engine = anyEngine) (hb : rt.backend = anyBackend) (workerId : String) :
    Windowless (runOnce rt config workerId) := by
  refine .bind (.store rfl) fun o => ?_
  have hdepth : Windowless updateDepth := .bind (.store rfl) fun _ => .ret _
  split
  · exact .bind hdepth fun _ => .ret _
  · refine .bind (.attempt (handleDelivery rt config he hb _)) fun outcome => .bind (.perform rfl) fun _ => ?_
    split
    · exact .raise _
    · exact .bind hdepth fun _ => .ret _

theorem required (taskId : String) : Windowless (required taskId) := by
  refine .bind (.store rfl) fun o => ?_
  split
  · exact .raise _
  · exact .ret _

theorem operation (he : rt.engine = anyEngine) (hb : rt.backend = anyBackend) (op : Operation) :
    Windowless (op.program rt config) := by
  cases op with
  | runOnce workerId => exact .bind (runOnce rt config he hb workerId) fun _ => .ret _
  | heartbeatTick workerId delivery => exact .bind (.bind (.store rfl) fun _ => .record _ _ _) fun _ => .ret _
  | createIncident taskId goal scenarioId => exact .bind (.bind (.perform rfl) fun _ => .store rfl) fun _ => .ret _
  | approve taskId actor reason =>
    refine .bind (.bind (.required taskId) fun st => ?_) fun _ => .ret _
    split
    · exact .bind (.store rfl) fun _ => .bind (.save _) fun _ => .bind (.record _ _ _) fun _ =>
        .bind (.store rfl) fun _ => .ret _
    · exact .raise _
  | reject taskId actor reason =>
    refine .bind (.bind (.required taskId) fun st => ?_) fun _ => .ret _
    split
    · exact .bind (.store rfl) fun _ => .bind (.save _) fun _ => .bind (.record _ _ _) fun _ => .ret _
    · exact .raise _
  | replay deliveryId taskId actor reason =>
    refine .bind (.bind (.store rfl) fun o => ?_) fun _ => .ret _
    split
    · exact .raise _
    · exact .ret _

end Windowless

/-! ## Runs -/

variable {rt : WorkflowRuntime} {config : Settings}

theorem windows_sound (he : rt.engine = anyEngine) (hb : rt.backend = anyBackend) :
    Sound (system rt config .oneWindow) windows where
  enter := by
    rintro i _ w _ _ ⟨op, rfl, -, rfl⟩ hi hidle
    refine ⟨(), ⟨hi.quiet (fun _ => rfl) rfl trivial rfl, fun _ _ => rfl⟩, ?_⟩
    refine Safe.mono (Windowless.operation rt config he hb op i _ hidle) fun o w' _ hi' hw' w'' hw'' => ?_
    obtain rfl := hw''
    exact ⟨(), ⟨hi'.quiet (fun _ => rfl) rfl trivial rfl, fun _ _ => rfl⟩, hw'⟩
  crash := by
    rintro i w _ _ ⟨hd, -⟩ -
    exact hd.elim

theorem ledgerOk_init : LedgerOk World.init :=
  ⟨fun _ _ _ _ h => (by cases h), fun _ _ h => (by cases h), fun _ _ _ h => (by cases h), fun _ _ h => (by cases h),
    fun _ => .inl rfl, fun _ _ h => absurd (List.suffix_nil.mp h) (by simp)⟩

/-- The action id a journal entry invoked the backend for, and the answer. -/
def Entry.invoked : Entry → Option (String × Except PyError Json)
  | did _ (.execute st tool arguments _) r => some (actionId st.taskId tool arguments, r)
  | _ => none

/-- What the backend answered for an action id, newest first. -/
def invocations (key : String) (journal : List Entry) : List (Except PyError Json) :=
  journal.filterMap fun e => e.invoked.bind fun x => if x.1 = key then some x.2 else none

def succeeded : Except PyError Json → Bool
  | .ok result => result.nonEmptyObj
  | .error _ => false

theorem invocations_cons (key : String) (e : Entry) (journal : List Entry) :
    invocations key (e :: journal) =
      (e.invoked.bind fun x => if x.1 = key then some x.2 else none).toList ++ invocations key journal := by
  unfold invocations
  rw [List.filterMap_cons]
  cases e.invoked.bind fun x => if x.1 = key then some x.2 else none with
  | none => rfl
  | some r => rfl

/-- The successful invocations are the successes. -/
theorem invocations_succeeded (key : String) (journal : List Entry) :
    (invocations key journal).countP succeeded = (successes key journal).length := by
  induction journal with
  | nil => rfl
  | cons e journal ih =>
    rw [successes_cons, List.length_append, invocations_cons, List.countP_append, ih]
    congr 1
    cases e with
    | did i c r =>
      cases c with
      | execute st tool arguments n =>
        simp only [Entry.invoked, Option.bind_some]
        by_cases hk : actionId st.taskId tool arguments = key
        · rw [if_pos hk]
          cases r with
          | error e => rfl
          | ok result =>
            cases hn : result.nonEmptyObj with
            | true =>
              simp only [Entry.success, hn, if_true, Option.filter, hk, decide_true, Option.toList_some, List.countP_cons, succeeded,
                List.countP_nil, List.length_singleton]
            | false =>
              simp only [Entry.success, hn, Bool.false_eq_true, if_false, Option.filter, Option.toList_some, Option.toList_none,
                List.countP_cons, succeeded, List.countP_nil, List.length_nil]
        · have hs : (Entry.did i (.execute st tool arguments n) r).success.filter (fun x => decide (x.key = key)) = none := by
            rw [Option.filter_eq_none_iff]
            intro x hx
            simpa [success_key hx] using hk
          rw [if_neg hk, hs]
          rfl
      | store c => rfl
      | _ => rfl
    | _ => rfl

/-- The backend succeeds at most once for an action id; every other lookup of it is answered with that success; an action that
    never fails is invoked at most once, and an approved restart only where it was not carried out. -/
theorem executed_once (rt : WorkflowRuntime) (config : Settings) {cfg : Cfg}
    (h : Reachable { rt with engine := anyEngine, backend := anyBackend } config .oneWindow cfg) :
    (∀ key, (successes key cfg.state.journal).length ≤ 1) ∧
    (∀ e older, e :: older <:+ cfg.state.journal → e.Serves older) ∧
    (∀ key, (∀ r ∈ invocations key cfg.state.journal, succeeded r = true) → (invocations key cfg.state.journal).length ≤ 1) ∧
    ∀ st arguments, Invokes cfg st .restartService arguments → arguments.get? "environment" = some (.str "production") →
      cfg.state.store.approvalStatus st.taskId (actionId st.taskId .restartService arguments) = some .approved ∧
      successes (actionId st.taskId .restartService arguments) cfg.state.journal = [] := by
  have hinit : windows.Inv World.init () := ledgerOk_init
  obtain ⟨_, hc⟩ := reach_cover (windows_sound rfl rfl) hinit (fun _ => rfl) h
  have hok : LedgerOk cfg.state := hc.1
  refine ⟨hok.once, hok.serves, fun key hs => ?_, fun st arguments hx henv => ?_⟩
  · rw [← List.countP_eq_length.mpr hs, invocations_succeeded]
    exact hok.once key
  · obtain ⟨i, n, k, hp⟩ := hx
    have hmay : MayExecute _ cfg.state.store st.taskId .restartService arguments := (reachable_cover lawful_univ h).obs hp rfl
    refine ⟨hmay.approved ⟨rfl, hmay.validated, by simp [argumentText, henv]⟩, ?_⟩
    have hobs : windowObs i cfg.state (.execute st .restartService arguments n) := hc.obs hp
    exact (hok.missed i _ hobs).1

theorem window_absent {es : List Entry} (h : ∀ e ∈ es, e.thread ≠ i) : window i es = none := by
  induction es with
  | nil => rfl
  | cons e es ih =>
    have he := h e List.mem_cons_self
    rw [window_cons, ih fun e he => h e (List.mem_cons_of_mem _ he)]
    cases e with
    | did j c r => rw [opens_other (show j ≠ i from he)]; rfl
    | _ => rfl

/-- No thread but `i` has a window open for the action id that is looked up. -/
def shut (i : ThreadId) (w : World) : Call → Bool
  | .store (.getToolResult key _) =>
    w.journal.all fun e => decide (e.thread = i) || (window e.thread w.journal).all fun a => decide (a.key ≠ key)
  | _ => true

theorem shut_allows {c : Call} {r : Except PyError c.Ret} (h : shut i w c = true) : Env.oneWindow.allows i w c r := by
  cases c with
  | store c =>
    cases c with
    | getToolResult key arguments =>
      intro j a hj ha
      by_cases hmem : ∃ e ∈ w.journal, e.thread = j
      · obtain ⟨e, he, rfl⟩ := hmem
        have := List.all_eq_true.mp h e he
        simpa [hj, ha] using this
      · rw [window_absent fun e he ht => hmem ⟨e, he, ht⟩] at ha; cases ha
    | _ => trivial
  | _ => trivial

def oneWindowPlayer : Simulator (system {} {} .oneWindow) Operation Answer :=
  player {} {} .oneWindow (fun i w c _ => shut i w c) (fun _ _ => false)
    (fun _ _ _ _ h => shut_allows h) (fun _ _ _ => trivial) (fun _ _ h => by cases h)

def restarted : Json := .obj [("restarted", .bool true)]

def restartArguments : Arguments := argumentDump .restartService "checkout" "production" none

def restartKey : String := actionId "t" .restartService restartArguments

/-- The approved restart is carried out and written to the ledger, and looked up by a second worker after the first
    one's lease lapsed. -/
def servedAgain : List (Move ThreadId Operation Answer) :=
  approvedRestart ++ [.call 3 (.result 0 (.ok restarted))] ++ continues 3 1 ++ begins 4 (.runOnce "w3") 5 minuteLater

/-- The newest entry is the second worker's lookup. -/
def lookedUp (cfg : Cfg) : Bool :=
  match cfg.state.journal with
  | .did 4 (.store (.getToolResult key arguments)) _ :: older =>
    decide (key = restartKey) && decide (argumentsHash arguments = argumentsHash restartArguments) &&
      (successes restartKey older).any fun x => decide (argumentsHash x.arguments = argumentsHash restartArguments)
  | _ => false

theorem servedAgain_plays : (oneWindowPlayer.play ⟨World.init, fun _ => none⟩ servedAgain).any lookedUp = true := by
  decide +kernel

/-- The backend succeeded once, and the second worker has that result from the ledger. -/
theorem executed_once_restart : ∃ cfg arguments older x, Reachable {} {} .oneWindow cfg ∧
    cfg.state.journal = .did 4 (.store (.getToolResult restartKey arguments)) (.ok (some x.result)) :: older ∧
    successes restartKey cfg.state.journal = [x] := by
  obtain ⟨cfg, h, hc⟩ := oneWindowPlayer.play_exists servedAgain_plays
  obtain ⟨honce, hserves, -, -⟩ := executed_once {} {} h
  unfold lookedUp at hc
  split at hc
  · rename_i key arguments r older hj
    simp only [Bool.and_eq_true, decide_eq_true_eq, List.any_eq_true] at hc
    obtain ⟨⟨rfl, hhash⟩, x, hx, hxhash⟩ := hc
    have hanswer : r = x.answer arguments := hserves _ older ⟨[], hj.symm⟩ x hx
    rw [Success.answer, if_neg (by rw [hxhash, hhash]; simp)] at hanswer
    refine ⟨cfg, arguments, older, x, h, hanswer ▸ hj, ?_⟩
    have hle := honce restartKey
    rw [hj, successes_none rfl] at hle ⊢
    obtain ⟨y, hy⟩ := List.length_eq_one_iff.mp (Nat.le_antisymm hle (List.length_pos_of_mem hx))
    rw [hy, List.mem_singleton] at hx
    rw [hx, hy]
  · cases hc

/-! ## Twice -/

/-- The approved restart is looked up by two workers, the second after the first one's lease
    lapsed, and then carried out by both. -/
def twoWindows : List (Move ThreadId Operation Answer) :=
  approvedRestart ++ begins 4 (.runOnce "w3") 5 minuteLater ++
  [.call 4 (.result minuteLater (.ok restarted)), .call 3 (.result minuteLater (.ok restarted))]

theorem twoWindows_plays : ((crashFreePlayer {} {}).play ⟨World.init, fun _ => none⟩ twoWindows).any
    (fun cfg => decide ((successes restartKey cfg.state.journal).length = 2)) = true := by
  decide +kernel

/-- One approved production restart reaches the backend twice. -/
theorem restarted_twice : ∃ cfg, Reachable {} {} .crashFree cfg ∧ (successes restartKey cfg.state.journal).length = 2 := by
  obtain ⟨cfg, h, hc⟩ := (crashFreePlayer {} {}).play_exists twoWindows_plays
  exact ⟨cfg, h, of_decide_eq_true hc⟩

end AgentResilience
