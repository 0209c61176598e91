/-
  AgentResilience.SideEffects — the ledger across crashes, redeliveries and replays. A
  worker writes what the backend returned to the ledger before anything else, and every
  later worker finds it there: for one action id the backend returns a result at most once,
  and whatever is recorded for that action id afterwards is that result.

  Deliveries of one workflow do not overlap: a delivery is claimed only while no other
  worker holds one of its task. Nobody dies between the backend's return and the ledger
  write. The action ids of different tasks differ (`actionId_task`), so no two workers ever
  have the same action pending.
-/
import AgentResilience.AtMostOnce
import AgentResilience.CrashRecovery
import AgentResilience.History
import AgentResilience.LiveRows

namespace AgentResilience

open Interaction

/-- The backend's result for an action id, if it returned a non-empty object. -/
def Entry.returns : Entry → Option (String × Json)
  | did _ (.execute st tool arguments _) (.ok result) =>
    if result.nonEmptyObj then some (actionId st.taskId tool arguments, result) else none
  | _ => none

/-- The results the backend returned for an action id, newest first. -/
def results (key : String) (journal : List Entry) : List Json :=
  journal.filterMap fun e => e.returns.bind fun x => if x.1 = key then some x.2 else none

/-- The deliveries of a task do not overlap, and nobody dies with an unwritten result. -/
def Env.exclusive : Env where
  allows i w c r :=
    match c, r with
    | .store (.claim ..), .ok (some delivery) => ∀ j held, j ≠ i → (stage j w.journal).held = some held → held.taskId ≠ delivery.taskId
    | _, _ => True
  dies i w := ∀ key result, (stage i w.journal).action ≠ .returned key result

/-! ## The invariant -/

structure EffectsOk (w : World) : Prop where
  held : ∀ i key, (stage i w.journal).action.pending = some key →
    ∃ d tool arguments, (stage i w.journal).held = some d ∧ key = actionId d.taskId tool arguments
  sole : ∀ i j d d', (stage i w.journal).held = some d → (stage j w.journal).held = some d' → d.taskId = d'.taskId → i = j
  missed : ∀ i key, (stage i w.journal).action = .missed key → results key w.journal = []
  returned : ∀ i key result, (stage i w.journal).action = .returned key result → results key w.journal = [result]
  settled : ∀ i key result, (stage i w.journal).action = .settled key result → results key w.journal = [result]
  ledger : ∀ key row, w.store.toolResults.get key = some row → results key w.journal = [row.resultJson]
  kept : ∀ key, results key w.journal = [] ∨ w.store.toolResults.get key ≠ none ∨
    ∃ i result, (stage i w.journal).action = .returned key result

variable {w : World} {i j : ThreadId} {key : String}

/-- Two workers have no action in common pending. -/
theorem EffectsOk.pending (h : EffectsOk w) (hi : (stage i w.journal).action.pending = some key)
    (hj : (stage j w.journal).action.pending = some key) : i = j := by
  obtain ⟨d, tool, arguments, hd, e⟩ := h.held i key hi
  obtain ⟨d', tool', arguments', hd', e'⟩ := h.held j key hj
  exact h.sole i j d d' hd hd' (actionId_task (e.symm.trans e'))

theorem results_cons_none {e : Entry} (h : e.returns = none) (key : String) (journal : List Entry) :
    results key (e :: journal) = results key journal := by
  simp [results, h]

/-- An entry without a result, after which each thread is where it was or has no action pending. -/
theorem EffectsOk.quiet (h : EffectsOk w) {e : Entry} (hr : e.returns = none) {s' : SQLiteStore} {t : Timestamp}
    (hl : s'.toolResults = w.store.toolResults)
    (hheld : ∀ k d, (stage k (e :: w.journal)).held = some d → (stage k w.journal).held = some d)
    (haction : ∀ k, (stage k (e :: w.journal)).action = (stage k w.journal).action ∧
        ((stage k (e :: w.journal)).held = (stage k w.journal).held ∨ (stage k w.journal).action.pending = none) ∨
      (stage k (e :: w.journal)).action = .none ∧ ∀ key result, (stage k w.journal).action ≠ .returned key result) :
    EffectsOk ⟨s', t, e :: w.journal⟩ := by
  have hres := fun key => results_cons_none hr key w.journal
  have hback : ∀ {k : ThreadId} {a : Action}, (stage k (e :: w.journal)).action = a → a ≠ .none → (stage k w.journal).action = a := by
    intro k a ha hne
    rcases haction k with ⟨hk, -⟩ | ⟨hk, -⟩
    · exact hk.symm.trans ha
    · exact absurd (ha.symm.trans hk) hne
  refine ⟨fun k key hp => ?_, fun k k' d d' hd hd' => h.sole k k' d d' (hheld k d hd) (hheld k' d' hd'), fun k key ha => ?_,
    fun k key result ha => ?_, fun k key result ha => ?_, fun key row hrow => ?_, fun key => ?_⟩
  · rcases haction k with ⟨hk, hrest⟩ | ⟨hk, -⟩
    · have hp : (stage k (e :: w.journal)).action.pending = some key := hp
      rw [hk] at hp
      rcases hrest with hh | hn
      · obtain ⟨d, tool, arguments, hd, e⟩ := h.held k key hp
        exact ⟨d, tool, arguments, hh.trans hd, e⟩
      · rw [hn] at hp; cases hp
    · have hp : (stage k (e :: w.journal)).action.pending = some key := hp
      rw [hk] at hp; cases hp
  · exact (hres key).trans (h.missed k key (hback ha (by simp)))
  · exact (hres key).trans (h.returned k key result (hback ha (by simp)))
  · exact (hres key).trans (h.settled k key result (hback ha (by simp)))
  · have hrow : s'.toolResults.get key = some row := hrow
    rw [hl] at hrow
    exact (hres key).trans (h.ledger key row hrow)
  · rcases h.kept key with hk | hk | ⟨k, result, hk⟩
    · exact .inl ((hres key).trans hk)
    · exact .inr (.inl (by rw [show s'.toolResults = _ from hl]; exact hk))
    · rcases haction k with ⟨hk', -⟩ | ⟨-, hno⟩
      · exact .inr (.inr ⟨k, result, hk'.trans hk⟩)
      · exact absurd hk (hno key result)

/-- What an action says of the results so far, for a thread that holds `held`. -/
def Action.Sound (journal : List Entry) (held : Option QueueDelivery) : Action → Prop
  | none => True
  | missed key => (∃ d tool arguments, held = some d ∧ key = actionId d.taskId tool arguments) ∧ results key journal = []
  | returned key result => (∃ d tool arguments, held = some d ∧ key = actionId d.taskId tool arguments) ∧ results key journal = [result]
  | settled key result => results key journal = [result]

/-- An entry of thread `i` about its action: a result is that of the action it missed. -/
theorem EffectsOk.acts (h : EffectsOk w) {e : Entry} {s' : SQLiteStore} {t : Timestamp}
    (hother : ∀ k, k ≠ i → stage k (e :: w.journal) = stage k w.journal)
    (hheld : (stage i (e :: w.journal)).held = (stage i w.journal).held)
    (hres : ∀ key, results key (e :: w.journal) = results key w.journal ∨ (stage i w.journal).action = .missed key)
    (hsound : (stage i (e :: w.journal)).action.Sound (e :: w.journal) (stage i w.journal).held)
    (hl : ∀ key row, s'.toolResults.get key = some row → results key (e :: w.journal) = [row.resultJson])
    (hk : ∀ key, results key (e :: w.journal) = [] ∨ s'.toolResults.get key ≠ none ∨
      (∃ k result, k ≠ i ∧ (stage k w.journal).action = .returned key result) ∨
      ∃ result, (stage i (e :: w.journal)).action = .returned key result) : EffectsOk ⟨s', t, e :: w.journal⟩ := by
  have hold : ∀ {k d}, (stage k (e :: w.journal)).held = some d → (stage k w.journal).held = some d := by
    intro k d hd
    by_cases hki : k = i
    · subst hki; exact hheld.symm.trans hd
    · rw [hother k hki] at hd; exact hd
  have hsame : ∀ {key x}, results key w.journal = [x] → results key (e :: w.journal) = [x] := by
    intro key x hx
    rcases hres key with he | hm
    · exact he.trans hx
    · rw [h.missed i key hm] at hx; cases hx
  refine ⟨fun k key hp => ?_, fun k k' d d' hd hd' => h.sole k k' d d' (hold hd) (hold hd'), fun k key ha => ?_,
    fun k key result ha => ?_, fun k key result ha => ?_, hl, fun key => ?_⟩
  · by_cases hki : k = i
    · subst hki
      have hp : (stage k (e :: w.journal)).action.pending = some key := hp
      show ∃ d tool arguments, (stage k (e :: w.journal)).held = some d ∧ _
      rw [hheld]
      cases ha : (stage k (e :: w.journal)).action with
      | none | settled => rw [ha] at hp; cases hp
      | missed key' | returned key' result => rw [ha] at hp hsound; cases hp; exact hsound.1
    · have hp : (stage k (e :: w.journal)).action.pending = some key := hp
      show ∃ d tool arguments, (stage k (e :: w.journal)).held = some d ∧ _
      rw [hother k hki] at hp ⊢
      exact h.held k key hp
  · have ha : (stage k (e :: w.journal)).action = .missed key := ha
    by_cases hki : k = i
    · subst hki
      rw [ha] at hsound; exact hsound.2
    · rw [hother k hki] at ha
      rcases hres key with he | hm
      · exact he.trans (h.missed k key ha)
      · exact absurd (h.pending (by rw [ha]; rfl) (by rw [hm]; rfl)) hki
  · have ha : (stage k (e :: w.journal)).action = .returned key result := ha
    by_cases hki : k = i
    · subst hki
      rw [ha] at hsound; exact hsound.2
    · rw [hother k hki] at ha
      exact hsame (h.returned k key result ha)
  · have ha : (stage k (e :: w.journal)).action = .settled key result := ha
    by_cases hki : k = i
    · subst hki
      rw [ha] at hsound; exact hsound
    · rw [hother k hki] at ha
      exact hsame (h.settled k key result ha)
  · rcases hk key with hk | hk | ⟨k, result, hki, hk⟩ | ⟨result, hk⟩
    · exact .inl hk
    · exact .inr (.inl hk)
    · exact .inr (.inr ⟨k, result, by rw [hother k hki]; exact hk⟩)
    · exact .inr (.inr ⟨i, result, hk⟩)

/-! ## One call -/

variable {det : LoopDetector} {s' : SQLiteStore} {t : Timestamp} {c : Call} {r : Except PyError c.Ret}

theorem claim_effectsOk (h : EffectsOk w) {worker : String} {leaseSeconds : Int} {d : QueueDelivery}
    (hmay : (stage i w.journal).action.pending = none)
    (hal : ∀ j held, j ≠ i → (stage j w.journal).held = some held → held.taskId ≠ d.taskId)
    (hl : s'.toolResults = w.store.toolResults) :
    EffectsOk ⟨s', t, .did i (.store (.claim worker leaseSeconds)) (.ok (some d)) :: w.journal⟩ := by
  have hself : stage i (.did i (.store (.claim worker leaseSeconds)) (.ok (some d)) :: w.journal) = { held := some d } := stage_did ..
  have hother : ∀ k, k ≠ i → stage k (.did i (.store (.claim worker leaseSeconds)) (.ok (some d)) :: w.journal) = stage k w.journal :=
    fun k hk => stage_other (Ne.symm hk) ..
  have hres := fun key => results_cons_none (e := .did i (.store (.claim worker leaseSeconds)) (.ok (some d))) rfl key w.journal
  have hback : ∀ {k : ThreadId} {a : Action}, (stage k (.did i (.store (.claim worker leaseSeconds)) (.ok (some d)) :: w.journal)).action = a →
      a ≠ .none → (stage k w.journal).action = a := by
    intro k a ha hne
    by_cases hki : k = i
    · subst hki
      rw [hself] at ha
      exact absurd ha.symm hne
    · rw [hother k hki] at ha; exact ha
  refine ⟨fun k key hp => ?_, fun k k' e e' he he' htask => ?_, fun k key ha => (hres key).trans (h.missed k key (hback ha (by simp))),
    fun k key result ha => (hres key).trans (h.returned k key result (hback ha (by simp))),
    fun k key result ha => (hres key).trans (h.settled k key result (hback ha (by simp))), fun key row hrow => ?_, fun key => ?_⟩
  · simp only at hp ⊢
    by_cases hki : k = i
    · subst hki
      rw [hself] at hp; cases hp
    · rw [hother k hki] at hp ⊢
      exact h.held k key hp
  · simp only at he he'
    by_cases hki : k = i <;> by_cases hki' : k' = i
    · rw [hki, hki']
    · subst hki
      rw [hself] at he; cases he
      rw [hother k' hki'] at he'
      exact absurd htask.symm (hal k' e' hki' he')
    · subst hki'
      rw [hself] at he'; cases he'
      rw [hother k hki] at he
      exact absurd htask (hal k e hki he)
    · rw [hother k hki] at he
      rw [hother k' hki'] at he'
      exact h.sole k k' e e' he he' htask
  · have hrow : s'.toolResults.get key = some row := hrow
    rw [hl] at hrow
    exact (hres key).trans (h.ledger key row hrow)
  · rcases h.kept key with hk | hk | ⟨k, result, hk⟩
    · exact .inl ((hres key).trans hk)
    · exact .inr (.inl (by rw [show s'.toolResults = _ from hl]; exact hk))
    · by_cases hki : k = i
      · subst hki
        rw [hk] at hmay; cases hmay
      · exact .inr (.inr ⟨k, result, by rw [hother k hki]; exact hk⟩)

/-- What a call beside the gateway does to its thread's stage. -/
theorem after_quiet {q : Stage} (hc : c.onLedger = false) (hcl : c.claimed r = none) (hmay : May det q c) :
    (∀ d, (q.after c r).held = some d → q.held = some d) ∧
    ((q.after c r).action = q.action ∧ ((q.after c r).held = q.held ∨ q.action.pending = none) ∨
      (q.after c r).action = .none ∧ ∀ key result, q.action ≠ .returned key result) := by
  have hsame : (q.after c r).held = q.held → (q.after c r).action = q.action →
      (∀ d, (q.after c r).held = some d → q.held = some d) ∧
      ((q.after c r).action = q.action ∧ ((q.after c r).held = q.held ∨ q.action.pending = none) ∨
        (q.after c r).action = .none ∧ ∀ key result, q.action ≠ .returned key result) :=
    fun hh ha => ⟨fun d hd => hh.symm.trans hd, .inl ⟨ha, .inl hh⟩⟩
  cases c with
  | store c =>
    cases r with
    | error e => cases c <;> first | exact hsame rfl rfl | cases hc
    | ok a =>
      cases c with
      | claim =>
        cases a with
        | none => exact hsame rfl rfl
        | some d => cases hcl
      | acknowledge => exact ⟨fun _ h => (by cases h), .inl ⟨rfl, .inr hmay.1⟩⟩
      | enqueue => exact ⟨fun _ h => (by cases h), .inl ⟨rfl, .inr hmay⟩⟩
      | retryOrDeadLetter =>
        refine ⟨fun _ h => (by cases h), .inr ⟨rfl, fun key result e => ?_⟩⟩
        have hp := hmay.1
        rw [e] at hp; cases hp
      | getToolResult | saveToolResult => cases hc
      | _ => exact hsame rfl rfl
  | execute => cases hc
  | _ => cases r <;> exact hsame rfl rfl

theorem getToolResult_some {s : SQLiteStore} {arguments : Arguments} {key : String} {result : Json}
    (h : s.getToolResult key arguments = .ok (some result)) : ∃ row, s.toolResults.get key = some row ∧ row.resultJson = result := by
  unfold SQLiteStore.getToolResult at h
  split at h
  · cases h
  · rename_i row hrow
    split at h
    · cases h
    · cases h; exact ⟨row, hrow, rfl⟩

theorem lookup_effectsOk (h : EffectsOk w) {key : String} {arguments : Arguments}
    (hmay : May det (stage i w.journal) (.store (.getToolResult key arguments))) {r : Except PyError (Option Json)}
    (hr : w.store.getToolResult key arguments = r) :
    EffectsOk ⟨w.store, t, .did i (.store (.getToolResult key arguments)) r :: w.journal⟩ := by
  obtain ⟨hrests, cp, d, tool, args, -, hheld, ht, hkey⟩ := hmay
  have hown : ∃ d tool arguments, (stage i w.journal).held = some d ∧ key = actionId d.taskId tool arguments :=
    ⟨d, tool, args, hheld, ht ▸ hkey⟩
  have hres : ∀ k, results k (.did i (.store (.getToolResult key arguments)) r :: w.journal) = results k w.journal :=
    fun k => results_cons_none rfl k w.journal
  -- a miss: nobody has a result of it to write, for the thread would hold a delivery of the task
  have hmiss : w.store.toolResults.get key = none → results key w.journal = [] := by
    intro hn
    rcases h.kept key with hk | hk | ⟨k, result, hk⟩
    · exact hk
    · exact absurd hn hk
    · obtain ⟨d', tool', args', hd', e'⟩ := h.held k key (by rw [hk]; rfl)
      obtain rfl := h.sole k i d' d hd' hheld (actionId_task (e'.symm.trans (ht ▸ hkey)))
      rw [hk] at hrests; cases hrests
  refine h.acts (i := i) (fun k hk => stage_other (Ne.symm hk) ..) ?_ (fun k => .inl (hres k)) ?_
    (fun k row hrow => (hres k).trans (h.ledger k row hrow)) fun k => ?_
  · rw [stage_did]
    match r with
    | .ok (some _) | .ok none | .error _ => rfl
  · rw [stage_did]
    match r with
    | .ok (some result) =>
      obtain ⟨row, hrow, rfl⟩ := getToolResult_some hr
      exact (hres key).trans (h.ledger key row hrow)
    | .ok none => exact ⟨hown, (hres key).trans (hmiss (getToolResult_none hr))⟩
    | .error e => exact trivial
  · rcases h.kept k with hk | hk | ⟨k', result, hk⟩
    · exact .inl ((hres k).trans hk)
    · exact .inr (.inl hk)
    · refine .inr (.inr (.inl ⟨k', result, ?_, hk⟩))
      intro e
      subst e
      rw [hk] at hrests; cases hrests

theorem execute_effectsOk (h : EffectsOk w) {st : WorkflowState} {tool : ToolName} {arguments : Arguments} {n : Nat}
    (hact : (stage i w.journal).action = .missed (actionId st.taskId tool arguments)) (r : Except PyError Json) :
    EffectsOk ⟨w.store, t, .did i (.execute st tool arguments n) r :: w.journal⟩ := by
  have hown := h.held i (actionId st.taskId tool arguments) (by rw [hact]; rfl)
  have hnone := h.missed i _ hact
  have hafter : (stage i (.did i (.execute st tool arguments n) r :: w.journal)).action =
      (Action.missed (actionId st.taskId tool arguments)).answered r := by
    rw [stage_did, ← hact]; rfl
  have hres : ∀ k, results k (.did i (.execute st tool arguments n) r :: w.journal) =
      match r with
      | .ok result => if result.nonEmptyObj ∧ actionId st.taskId tool arguments = k then result :: results k w.journal
        else results k w.journal
      | .error _ => results k w.journal := by
    intro k
    cases r with
    | error e => rfl
    | ok result =>
      by_cases hne : result.nonEmptyObj = true
      · by_cases hk : actionId st.taskId tool arguments = k <;> simp [results, Entry.returns, hne, hk]
      · simp [results, Entry.returns, hne]
  have hledger : ∀ k row, w.store.toolResults.get k = some row → actionId st.taskId tool arguments ≠ k := by
    intro k row hrow e
    have := h.ledger k row hrow
    rw [← e, hnone] at this; cases this
  have hkept : ∀ k, results k w.journal = [] ∨ w.store.toolResults.get k ≠ none ∨
      ∃ k' result, k' ≠ i ∧ (stage k' w.journal).action = .returned k result := by
    intro k
    rcases h.kept k with hk | hk | ⟨k', result, hk⟩
    · exact .inl hk
    · exact .inr (.inl hk)
    · refine .inr (.inr ⟨k', result, ?_, hk⟩)
      intro e
      rw [e, hact] at hk; cases hk
  refine h.acts (i := i) (fun k hk => stage_other (Ne.symm hk) ..) (by rw [stage_did]; rfl) (fun k => ?_) ?_ (fun k row hrow => ?_) fun k => ?_
  · rw [hres]
    split
    · split
      · rename_i hc; rw [hact, hc.2]; exact .inr rfl
      · exact .inl rfl
    · exact .inl rfl
  · rw [hafter]
    cases r with
    | error e => exact trivial
    | ok result =>
      by_cases hne : result.nonEmptyObj = true
      · simp only [Action.answered, hne, if_true]
        refine ⟨hown, ?_⟩
        rw [hres, hnone]
        simp [hne]
      · simp only [Action.answered, hne]
        exact trivial
  · rw [hres]
    have hne := hledger k row hrow
    split
    · rw [if_neg fun hc => hne hc.2]; exact h.ledger k row hrow
    · exact h.ledger k row hrow
  · cases r with
    | error e =>
      rw [hres]
      rcases hkept k with hk | hk | hk
      · exact .inl hk
      · exact .inr (.inl hk)
      · exact .inr (.inr (.inl hk))
    | ok result =>
      by_cases hc : result.nonEmptyObj = true ∧ actionId st.taskId tool arguments = k
      · refine .inr (.inr (.inr ⟨result, ?_⟩))
        rw [hafter, ← hc.2]
        simp [Action.answered, hc.1]
      · rw [hres]
        simp only [if_neg hc]
        rcases hkept k with hk | hk | hk
        · exact .inl hk
        · exact .inr (.inl hk)
        · exact .inr (.inr (.inl hk))

theorem write_effectsOk (h : EffectsOk w) {key taskId tool : String} {arguments : Arguments} {result : Json}
    (hact : (stage i w.journal).action = .returned key result) :
    EffectsOk ⟨w.store.saveToolResult t key taskId tool arguments result, t,
      .did i (.store (.saveToolResult key taskId tool arguments result)) (.ok ()) :: w.journal⟩ := by
  have hres : ∀ k, results k (.did i (.store (.saveToolResult key taskId tool arguments result)) (.ok ()) :: w.journal) =
      results k w.journal := fun k => results_cons_none rfl k w.journal
  have hafter : (stage i (.did i (.store (.saveToolResult key taskId tool arguments result)) (.ok ()) :: w.journal)).action =
      .settled key result := by
    rw [stage_did]
    show (stage i w.journal).action.written = _
    rw [hact]; rfl
  refine h.acts (i := i) (fun k hk => stage_other (Ne.symm hk) ..) (by rw [stage_did]; rfl) (fun k => .inl (hres k)) ?_
    (fun k row hrow => (hres k).trans ?_) fun k => ?_
  · rw [hafter]
    exact (hres key).trans (h.returned i key result hact)
  · have hrow : (w.store.toolResults.insertOrIgnore _).get k = some row := hrow
    cases hk : w.store.toolResults.get k with
    | some row' =>
      rw [Table.get_insertOrIgnore_some hk] at hrow
      cases hrow
      exact h.ledger k _ hk
    | none =>
      obtain rfl := Table.get_insertOrIgnore_none hk hrow
      rw [Table.get_insertOrIgnore, hk] at hrow
      split at hrow
      · rename_i e
        subst e
        exact h.returned i key result hact
      · cases hrow
  · have hstays : w.store.toolResults.get k ≠ none → (w.store.toolResults.insertOrIgnore
        (⟨key, taskId, tool, argumentsHash arguments, result, t⟩ : ToolResultRow)).get k ≠ none := by
      intro hk
      obtain ⟨row, hrow⟩ := Option.ne_none_iff_exists'.mp hk
      rw [Table.get_insertOrIgnore_some hrow]; simp
    rcases h.kept k with hk | hk | ⟨k', result', hk⟩
    · exact .inl ((hres k).trans hk)
    · exact .inr (.inl (hstays hk))
    · by_cases e : k' = i
      · subst e
        rw [hact] at hk; cases hk
        refine .inr (.inl ?_)
        show (w.store.toolResults.insertOrIgnore _).get key ≠ none
        rw [Table.get_insertOrIgnore, if_pos rfl]; simp
      · exact .inr (.inr (.inl ⟨k', result', e, hk⟩))

/-- Every call a thread may make keeps the invariant. -/
theorem effectsOk_calls (h : EffectsOk w) (hmay : May det (stage i w.journal) c) {w' : World}
    (hx : calls .exclusive i c w r w') : EffectsOk w' := by
  obtain ⟨t, s', -, hal, he, rfl⟩ := hx
  have hquiet : ∀ {c : Call} {r : Except PyError c.Ret}, c.onLedger = false → c.claimed r = none → May det (stage i w.journal) c →
      s'.toolResults = w.store.toolResults → EffectsOk ⟨s', t, .did i c r :: w.journal⟩ := by
    intro c r hc hcl hmay hl
    obtain ⟨hheld, haction⟩ := after_quiet hc hcl hmay
    have hret : (Entry.did i c r).returns = none := by cases c <;> first | rfl | cases hc
    refine h.quiet hret hl (fun k d hd => ?_) fun k => ?_
    · by_cases hk : i = k
      · subst hk
        rw [stage_did] at hd
        exact hheld d hd
      · rw [stage_other hk] at hd; exact hd
    · by_cases hk : i = k
      · subst hk
        rw [stage_did]; exact haction
      · rw [stage_other hk]; exact .inl ⟨rfl, .inl rfl⟩
  cases c with
  | store c =>
    cases c with
    | getToolResult key arguments =>
      obtain ⟨hr, rfl⟩ := Prod.mk.inj he
      exact lookup_effectsOk h hmay hr
    | saveToolResult key taskId tool arguments result =>
      obtain ⟨rfl, rfl⟩ := Prod.mk.inj he
      exact write_effectsOk h hmay
    | claim worker leaseSeconds =>
      have hl : s'.toolResults = w.store.toolResults := by
        obtain rfl := congrArg Prod.snd he
        exact StoreCall.apply_ledger rfl w.store t
      match r with
      | .ok (some d) => exact claim_effectsOk h hmay hal hl
      | .ok none => exact hquiet rfl rfl hmay hl
      | .error e => exact hquiet rfl rfl hmay hl
    | _ =>
      refine hquiet rfl rfl hmay ?_
      obtain rfl := congrArg Prod.snd he
      exact StoreCall.apply_ledger rfl w.store t
  | execute st tool arguments n =>
    obtain rfl := he
    exact execute_effectsOk h hmay.2.2 r
  | clock | awaitHeartbeat => obtain ⟨-, rfl⟩ := he; exact hquiet rfl rfl hmay rfl
  | _ => obtain rfl := he; exact hquiet rfl rfl hmay rfl

/-! ## Runs -/

variable {rt : WorkflowRuntime} {config : Settings} {cfg cfg' : Cfg}

/-- A thread's beginning and end, where it has no unwritten result, keep the invariant. -/
theorem EffectsOk.bound (h : EffectsOk w) {e : Entry} (he : e.isCall = false)
    (hstage : ∀ k, stage k (e :: w.journal) = stage k w.journal ∨
      stage k (e :: w.journal) = {} ∧ ∀ key result, (stage k w.journal).action ≠ .returned key result) :
    EffectsOk { w with journal := e :: w.journal } := by
  have hret : e.returns = none := by cases e <;> first | rfl | cases he
  refine h.quiet hret rfl (fun k d hd => ?_) fun k => ?_
  · rcases hstage k with hk | ⟨hk, -⟩ <;> rw [hk] at hd
    · exact hd
    · cases hd
  · rcases hstage k with hk | ⟨hk, hno⟩ <;> rw [hk]
    · exact .inl ⟨rfl, .inl rfl⟩
    · exact .inr ⟨rfl, hno⟩

theorem stage_begun (i : ThreadId) (op : Operation) (es : List Entry) : stage i (.began i op :: es) = {} := by simp [stage]
theorem stage_ended (i : ThreadId) (o : Except PyError Reply) (es : List Entry) : stage i (.ended i o :: es) = {} := by simp [stage]
theorem stage_died (i : ThreadId) (es : List Entry) : stage i (.died i :: es) = {} := by simp [stage]

theorem reachable_effectsOk (h : Reachable { rt with engine := anyEngine, backend := anyBackend } config .exclusive cfg) :
    EffectsOk cfg.state ∧ ∀ i, cfg.pool i = none → stage i cfg.state.journal = {} := by
  induction h with
  | init =>
    refine ⟨⟨fun _ _ h => (by cases h), fun _ _ _ _ h => (by cases h), fun _ _ h => (by cases h), fun _ _ _ h => (by cases h),
      fun _ _ _ h => (by cases h), fun _ _ h => (by cases h), fun _ => .inl rfl⟩, fun _ _ => rfl⟩
  | @step cfg _ hr hs ih =>
    obtain ⟨hi, hidle⟩ := ih
    have hpool : ∀ {i k : ThreadId} {x : Option (Py Reply)} {w' : World}, k ≠ i → (cfg.put i x w').pool k = none → cfg.pool k = none :=
      fun hk h => (Function.update_of_ne hk ..).symm.trans h
    cases hs with
    | @enter i p w' hn he =>
      obtain ⟨op, -, -, rfl⟩ := he
      have hempty := hidle i hn
      have hstage : ∀ k, stage k (.began i op :: cfg.state.journal) = stage k cfg.state.journal := by
        intro k
        by_cases e : i = k
        · subst e; rw [stage_begun, hempty]
        · simp [stage, e]
      refine ⟨hi.bound rfl fun k => .inl (hstage k), fun k hk => (hstage k).trans ?_⟩
      by_cases e : k = i
      · rw [e]; exact hempty
      · exact hidle k (hpool e hk)
    | @call i c k r w' hp hx =>
      refine ⟨effectsOk_calls hi (conforms hr hp) hx, fun j hj => ?_⟩
      by_cases e : j = i
      · subst e
        have hput : Function.update cfg.pool j (some (k r)) j = none := hj
        rw [Function.update_self] at hput
        cases hput
      · show stage j w'.journal = {}
        rw [(stage_call hx).2 j e]
        exact hidle j (hpool e hj)
    | @leave i p o w' hp ho hl =>
      obtain rfl := hl
      have hrests : (stage i cfg.state.journal).action.pending = none := by
        have hfollows := reachable_follows hr hp
        cases p with
        | ret a => exact hfollows
        | raise e => exact hfollows
        | call c k => cases ho
      refine ⟨hi.bound rfl fun k => ?_, fun k hk => ?_⟩ <;> by_cases e : i = k
      · subst e
        refine .inr ⟨stage_ended .., fun key result h => ?_⟩
        rw [h] at hrests; cases hrests
      · exact .inl (by simp [stage, e])
      · subst e; exact stage_ended ..
      · show stage k (.ended i o :: cfg.state.journal) = {}
        simp [stage, e, hidle k (hpool (Ne.symm e) hk)]
    | @crash i p w' hp hx =>
      obtain ⟨hd, rfl⟩ := hx
      refine ⟨hi.bound rfl fun k => ?_, fun k hk => ?_⟩ <;> by_cases e : i = k
      · subst e; exact .inr ⟨stage_died .., hd⟩
      · exact .inl (by simp [stage, e])
      · subst e; exact stage_died ..
      · show stage k (.died i :: cfg.state.journal) = {}
        simp [stage, e, hidle k (hpool (Ne.symm e) hk)]

theorem Change.evidence {A : Set Arguments} {cp st : WorkflowState} (h : Change det A cp st) (ht : st.toolCalls = cp.toolCalls) :
    st.evidence = cp.evidence := by
  cases h with
  | toolDone => simp [toolCompleted] at ht
  | _ => rfl

/-- The step records the completion of a tool call. -/
def RecordsToolCompleted (cfg cfg' : Cfg) (i : ThreadId) (taskId : String) (payload : Json) : Prop :=
  ∃ r, cfg'.state.journal = .did i (.store (.recordEvent taskId .toolCompleted payload)) r :: cfg.state.journal

/-- The step stores a checkpoint with other evidence, or one more tool call. -/
def RecordsEvidence (cfg cfg' : Cfg) (taskId : String) (cp st : WorkflowState) : Prop :=
  cfg.state.store.stored taskId = some cp ∧ cfg'.state.store.stored taskId = some st ∧
    (st.evidence ≠ cp.evidence ∨ st.toolCalls ≠ cp.toolCalls)

/-- Thread `i` has settled the action id with the backend's one result for it. -/
def Recordable (cfg : Cfg) (i : ThreadId) (key : String) (result : Json) : Prop :=
  (stage i cfg.state.journal).action = .settled key result ∧ results key cfg.state.journal = [result]

theorem evidence_recordable (h : Reachable { rt with engine := anyEngine, backend := anyBackend } config .exclusive cfg)
    (hs : Step (system { rt with engine := anyEngine, backend := anyBackend } config .exclusive) cfg cfg') {taskId : String}
    {cp st : WorkflowState} (hrec : RecordsEvidence cfg cfg' taskId cp st) :
    ∃ i tool arguments result, Recordable cfg i (actionId taskId tool arguments) result ∧
      st.evidence = cp.evidence.set tool.value result := by
  obtain ⟨hcp, hst, hne⟩ := hrec
  have hkept : cfg'.state.store.stored taskId ≠ cfg.state.store.stored taskId := by
    intro e
    rw [hst, hcp] at e
    cases e
    rcases hne with hne | hne <;> exact hne rfl
  cases hs with
  | enter _ he => obtain ⟨op, -, -, rfl⟩ := he; exact absurd rfl hkept
  | leave _ _ hl => obtain rfl := hl; exact absurd rfl hkept
  | crash _ hx => obtain ⟨-, rfl⟩ := hx; exact absurd rfl hkept
  | @call i c k r w' hp hx =>
    have hok := reachable_storeOk lawful_univ h
    have hobs := (reachable_cover lawful_univ h).obs hp
    have hmay := conforms h hp
    obtain ⟨t, s', -, -, he, rfl⟩ := hx
    cases c with
    | store c =>
      obtain rfl := congrArg Prod.snd he
      cases c with
      | saveWorkflow new v =>
        rcases save_written hok hobs (Eq.refl (cfg.state.store.saveWorkflow t new v)) with e | ⟨htask, hnew, -⟩
        · exact absurd e hkept
        · obtain ⟨seen, hsave⟩ := hmay
          have hver : ∃ row, cfg.state.store.workflows.get new.taskId = some row ∧ row.version = v := by
            rcases hsv : cfg.state.store.saveWorkflow t new v with ⟨o, s''⟩
            rcases SQLiteStore.saveWorkflow_cases hsv with ⟨row, hrow, hv, -⟩ | ⟨-, e, -⟩
            · exact ⟨row, hrow, hv⟩
            · refine absurd ?_ hkept
              show (cfg.state.store.saveWorkflow t new v).2.stored taskId = _
              rw [hsv, e]
          -- what the thread saw is what is stored
          have hseen : seen = cp := by
            obtain ⟨row, hrow, hv⟩ := hver
            obtain ⟨row', hrow', -, heq⟩ := reachable_copy h i seen hsave.seen
            obtain ⟨row'', hrow'', hcp'⟩ := stored_some.mp hcp
            rw [← hsave.change.same.1, hrow] at hrow'
            cases hrow'
            rw [htask, hrow] at hrow''
            cases hrow''
            exact (heq (hv.trans hsave.version)).symm.trans hcp'
          subst hseen
          have hst' := hst.symm.trans hnew
          cases hst'
          have htool : new.toolCalls ≠ seen.toolCalls := by
            intro e
            rcases hne with hne | hne
            · exact hne (hsave.change.evidence e)
            · exact hne e
          obtain ⟨tool, result, ⟨arguments, hact⟩, hdone⟩ := hsave.settled htool
          rw [← hsave.change.same.1, ← htask] at hact
          refine ⟨i, tool, arguments, result, ⟨hact, (reachable_effectsOk h).1.settled i _ result hact⟩, ?_⟩
          rw [hdone]; rfl
      | createWorkflow new n =>
        -- a task with a checkpoint is not created
        rcases hcreate : cfg.state.store.createWorkflow t new n with ⟨o, s''⟩
        have hkept : s''.stored taskId ≠ cfg.state.store.stored taskId := by
          have hkept : (cfg.state.store.createWorkflow t new n).2.stored taskId ≠ _ := hkept
          rwa [hcreate] at hkept
        obtain ⟨row, hrow, -⟩ := stored_some.mp hcp
        rcases SQLiteStore.createWorkflow_cases hcreate with ⟨-, -, e⟩ | ⟨hn, -, hw, -⟩
        · exact absurd (by rw [e]) hkept
        · have htask : new.taskId ≠ taskId := by
            intro e
            rw [e, hrow] at hn; cases hn
          exact absurd (by simp [SQLiteStore.stored, SQLiteStore.getWorkflow, hw, htask]) hkept
      | replayDeadLetter id task n actor reason =>
        rcases (replay_written hok (Eq.refl (cfg.state.store.replayDeadLetter t id task n actor reason)) :
            _ = cfg.state.store.stored taskId ∨ _) with e | ⟨-, cp', hcp', hnew⟩
        · exact absurd e hkept
        · rw [hcp] at hcp'; cases hcp'
          have hst' := hst.symm.trans hnew
          cases hst'
          rcases hne with hne | hne <;> exact absurd rfl hne
      | _ => exact absurd (stored_congr (StoreCall.apply_workflows rfl _ _)) hkept
    | clock | awaitHeartbeat => obtain ⟨-, rfl⟩ := he; exact absurd rfl hkept
    | _ => obtain rfl := he; exact absurd rfl hkept

/-- For each action id the backend returns a result at most once, and what is recorded for it afterwards is that result. -/
theorem side_effects_replayed (rt : WorkflowRuntime) (config : Settings) {cfg : Cfg}
    (h : Reachable { rt with engine := anyEngine, backend := anyBackend } config .exclusive cfg) :
    (∀ key, (results key cfg.state.journal).length ≤ 1) ∧
    ∀ cfg', Step (system { rt with engine := anyEngine, backend := anyBackend } config .exclusive) cfg cfg' →
      (∀ i taskId payload, RecordsToolCompleted cfg cfg' i taskId payload →
        ∃ (tool : ToolName) (arguments : Arguments) (result : Json) (cached : Bool),
          Recordable cfg i (actionId taskId tool arguments) result ∧
          payload = .obj [("tool", .str tool.value), ("cached", .bool cached), ("result", result)]) ∧
      ∀ taskId cp st, RecordsEvidence cfg cfg' taskId cp st →
        ∃ i tool arguments result, Recordable cfg i (actionId taskId tool arguments) result ∧
          st.evidence = cp.evidence.set tool.value result := by
  have hi := (reachable_effectsOk h).1
  refine ⟨fun key => ?_, fun cfg' hs => ⟨fun i taskId payload hrec => ?_, fun taskId cp st hrec => evidence_recordable h hs hrec⟩⟩
  · rcases hi.kept key with hk | hk | ⟨i, result, hk⟩
    · rw [hk]; exact Nat.zero_le _
    · obtain ⟨row, hrow⟩ := Option.ne_none_iff_exists'.mp hk
      rw [hi.ledger key row hrow]; exact Nat.le_refl _
    · rw [hi.returned i key result hk]; exact Nat.le_refl _
  · obtain ⟨r, hj⟩ := hrec
    cases hs with
    | enter _ he => obtain ⟨op, -, -, rfl⟩ := he; cases hj
    | leave _ _ hl => obtain rfl := hl; cases hj
    | crash _ hx => obtain ⟨-, rfl⟩ := hx; cases hj
    | call hp hx =>
      have hmay := conforms h hp
      obtain ⟨t, s', -, -, -, rfl⟩ := hx
      cases hj
      obtain ⟨tool, arguments, result, cached, hact, hpay⟩ := hmay
      exact ⟨tool, arguments, result, cached, ⟨hact, hi.settled i _ result hact⟩, hpay⟩

/-! ## A death after the ledger write -/

/-- Nobody but thread `i` holds a delivery. -/
def holdsAlone (i : ThreadId) (journal : List Entry) : Bool :=
  journal.all fun e => decide (e.thread = i) || (stage e.thread journal).held.isNone

theorem holdsAlone_exclusive {i : ThreadId} {w : World} {c : Call} {r : Except PyError c.Ret} (h : holdsAlone i w.journal = true) :
    Env.exclusive.allows i w c r := by
  have hnone : ∀ j, j ≠ i → (stage j w.journal).held = none := by
    intro j hj
    by_cases hmem : ∃ e ∈ w.journal, e.thread = j
    · obtain ⟨e, he, rfl⟩ := hmem
      have := List.all_eq_true.mp h e he
      simpa [hj] using this
    · rw [stage_absent fun e he ht => hmem ⟨e, he, ht⟩]
  unfold Env.exclusive
  simp only
  split
  · intro j held hj hh
    rw [hnone j hj] at hh; cases hh
  · trivial

/-- Thread `i` has no result to write. -/
def written (i : ThreadId) (w : World) : Bool :=
  match (stage i w.journal).action with
  | .returned .. => false
  | _ => true

theorem written_exclusive {i : ThreadId} {w : World} (h : written i w = true) : Env.exclusive.dies i w := by
  intro key result e
  simp [written, e] at h

def exclusivePlayer : Simulator (system {} {} .exclusive) Operation Answer :=
  player {} {} .exclusive (fun i w _ _ => holdsAlone i w.journal) written
    (fun _ _ _ _ h => holdsAlone_exclusive h) (fun _ _ _ => trivial) (fun _ _ h => written_exclusive h)

def alertKey : String := actionId "t" .readAlert (argumentDump .readAlert "checkout" "production" none)

/-- A worker dies after its ledger write, and the delivery is claimed again a minute later. -/
def redelivered : List (Move ThreadId Operation Answer) :=
  createsIncident ++ begins 1 (.runOnce "w1") 4 ++ decides 1 readAlertRequest ++ continues 1 3 ++
  [.call 1 (.result 0 (.ok alertRead))] ++ continues 1 1 ++ [.crash 1] ++
  begins 2 (.runOnce "w2") 4 minuteLater ++ decides 2 readAlertRequest minuteLater ++ continues 2 9 minuteLater ++ [.leave 2]

theorem redelivered_plays : (exclusivePlayer.play ⟨World.init, fun _ => none⟩ redelivered).any (fun cfg =>
    decide ((results alertKey cfg.state.journal).length ≠ 0) && (cfg.state.store.stored "t").any fun st =>
      decide (st.toolCalls = 1)) = true := by
  decide +kernel

/-- The second worker completes the call with the first one's result. -/
theorem side_effects_replayed_redelivered : ∃ cfg, Reachable {} {} .exclusive cfg ∧
    (results alertKey cfg.state.journal).length = 1 ∧ (cfg.state.store.stored "t").any fun st => decide (st.toolCalls = 1) := by
  obtain ⟨cfg, h, hc⟩ := exclusivePlayer.play_exists redelivered_plays
  rw [Bool.and_eq_true, decide_eq_true_eq] at hc
  have hle := (side_effects_replayed {} {} h).1 alertKey
  exact ⟨cfg, h, by omega, hc.2⟩

end AgentResilience
