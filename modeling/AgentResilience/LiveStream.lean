/-
  AgentResilience.LiveStream — the `snapshots` loop of `stream_incident` beside the system.
  Each turn reads the checkpoint and then the events, by two calls, and sends a frame if the
  version or the number of events has changed; a terminal checkpoint is its last turn. The
  workers save a checkpoint and then record the event about it, by two calls as well, so the
  last turn can fall between them.

  - `Watched`: the loop and the system interleaved call by call.
  - `told_log`: what an operation recorded of a task is in the task's log, in order.
  - `Follower`, `Ended`: the invariant of the loop, and what it is at its end.
  - `stream_ends_told`: a stream whose last turn waits for the operation that made the workflow
    terminal ends with the full story. `stream_ends_early`: one that does not may lack it.
-/
import AgentResilience.Episodes

namespace AgentResilience.LiveStream

open Interaction

/-! ## The loop -/

/-- The payload of a `data:` line. -/
structure Frame where
  state : WorkflowState
  events : List EventRecord

/-- Where the loop stands. -/
inductive Loop where
  | turning
  /-- It has read the checkpoint and not yet the events. -/
  | loaded (state : WorkflowState)
  /-- `break` -/
  | finished (state : WorkflowState)
  /-- The reader is gone. -/
  | left

structure Snapshots where
  loop : Loop := .turning
  previous : Option (Nat × Nat) := none
  sent : List Frame := []

/-- `_required(store, task_id)`. -/
def Snapshots.load (x : Snapshots) : Option WorkflowState → Snapshots
  | none => { x with loop := .left }
  | some state => { x with loop := .loaded state }

/-- The rest of a turn, from `list_events` on. -/
def Snapshots.list (x : Snapshots) (state : WorkflowState) (events : List EventRecord) : Snapshots :=
  let fingerprint := (state.version, events.length)
  let x := if some fingerprint ≠ x.previous then { x with previous := some fingerprint, sent := x.sent ++ [⟨state, events⟩] } else x
  { x with loop := if state.terminal then .finished state else .turning }

variable (rt : WorkflowRuntime) (config : Settings) (taskId : String)

/-- A stream of `taskId` beside the system. `calm` is asked when the last turn reads the events. -/
inductive Watched (calm : Cfg → WorkflowState → Prop) : Cfg → Snapshots → Prop
  | opens {cfg : Cfg} : Reachable { rt with engine := anyEngine, backend := anyBackend } config .free cfg →
      cfg.state.store.getWorkflow taskId ≠ none → Watched calm cfg {}
  | steps {cfg cfg' : Cfg} {x : Snapshots} : Watched calm cfg x →
      Step (system { rt with engine := anyEngine, backend := anyBackend } config .free) cfg cfg' → Watched calm cfg' x
  | loads {cfg : Cfg} {x : Snapshots} : Watched calm cfg x → x.loop = .turning →
      Watched calm cfg (x.load (cfg.state.store.getWorkflow taskId))
  | lists {cfg : Cfg} {x : Snapshots} {state : WorkflowState} : Watched calm cfg x → x.loop = .loaded state →
      (state.terminal = true → calm cfg state) → Watched calm cfg (x.list state (cfg.state.store.eventsOf taskId))
  | leaves {cfg : Cfg} {x : Snapshots} : Watched calm cfg x → x.loop = .turning → Watched calm cfg { x with loop := .left }

/-- Thread `i` is between its save of `state`, which made the workflow terminal, and its event about it. -/
def Owes (cfg : Cfg) (i : ThreadId) (state : WorkflowState) : Prop :=
  cfg.pool i ≠ none ∧ (episode i cfg.state.journal).made = some state ∧ (episode i cfg.state.journal).owing = true

/-- The last frame has every event of the operations that made the workflow terminal. -/
def Told (cfg : Cfg) (state : WorkflowState) (frame : Frame) : Prop :=
  ∀ i, ∀ ep ∈ episodes i cfg.state.journal, ep.made = some state →
    (ep.told taskId).Sublist (frame.events.map EventRecord.notice)

/-- A stream that has ended with the workflow sent its checkpoint and the events about it last. -/
def FullStory (cfg : Cfg) (x : Snapshots) : Prop :=
  ∀ state, x.loop = .finished state → ∃ frame, x.sent.getLast? = some frame ∧ frame.state = state ∧ Told taskId cfg state frame

/-! ## The log -/

theorem apply_log (c : StoreCall) (s : SQLiteStore) (now : Timestamp) : s.events <+: (c.apply s now).2.events := by
  by_cases hm : (Call.store c).mute = true
  · exact (StoreCall.apply_events hm s now) ▸ List.prefix_rfl
  · cases c with
    | createWorkflow st n =>
      simp only [StoreCall.apply, SQLiteStore.createWorkflow]
      split
      · exact List.prefix_rfl
      · exact List.prefix_append ..
    | saveWorkflow st v =>
      simp only [StoreCall.apply, SQLiteStore.saveWorkflow]
      split <;> exact List.prefix_rfl
    | replayDeadLetter =>
      simp only [StoreCall.apply, SQLiteStore.replayDeadLetter]
      split
      · exact List.prefix_rfl
      · split
        · exact List.prefix_rfl
        · exact List.prefix_append ..
    | recordEvent => exact List.prefix_append ..
    | _ => exact absurd rfl hm

variable {rt config taskId} {env : Env} {w w' : World}

theorem calls_log {i : ThreadId} {c : Call} {r : Except PyError c.Ret} (h : calls env i c w r w') :
    w.store.eventsOf taskId <+: w'.store.eventsOf taskId := by
  refine List.IsPrefix.filter _ ?_
  obtain ⟨t, s', -, -, he, rfl⟩ := h
  cases c with
  | store c => obtain rfl := congrArg Prod.snd he; exact apply_log ..
  | clock | awaitHeartbeat => obtain ⟨-, rfl⟩ := he; exact List.prefix_rfl
  | _ => obtain rfl := he; exact List.prefix_rfl

theorem step_log {rt : WorkflowRuntime} {cfg cfg' : Cfg} (h : Step (system rt config env) cfg cfg') :
    cfg.state.store.eventsOf taskId <+: cfg'.state.store.eventsOf taskId := by
  cases h with
  | enter _ he => obtain ⟨op, -, -, rfl⟩ := he; exact List.prefix_rfl
  | call _ hs => exact calls_log hs
  | leave _ _ hl => obtain rfl := hl; exact List.prefix_rfl
  | crash _ hx => obtain ⟨-, rfl⟩ := hx; exact List.prefix_rfl

/-- What a call adds to its operation's events is in the log then. -/
theorem told_call {i : ThreadId} {c : Call} {r : Except PyError c.Ret} (h : calls env i c w r w') {ep : Episode}
    (hep : (ep.told taskId).Sublist ((w.store.eventsOf taskId).map EventRecord.notice)) :
    ((ep.after c r).told taskId).Sublist ((w'.store.eventsOf taskId).map EventRecord.notice) := by
  have hgrow : (ep.told taskId).Sublist ((w'.store.eventsOf taskId).map EventRecord.notice) :=
    hep.trans ((calls_log h).sublist.map EventRecord.notice)
  by_cases hc : c.untold = true
  · rwa [ep.after_untold hc]
  · cases r with
    | error e => rwa [ep.after_error]
    | ok a =>
      cases c with
      | store c =>
        cases c with
        | saveWorkflow st v =>
          have htold : (ep.after (.store (.saveWorkflow st v)) (.ok a)).told taskId = ep.told taskId := by
            show (if _ then _ else _ : Episode).told taskId = _
            split <;> rfl
          rwa [htold]
        | recordEvent T e payload =>
          obtain ⟨t, s', -, -, he, rfl⟩ := h
          obtain ⟨-, rfl⟩ := Prod.mk.inj he
          show ((ep.notices ++ [_]).filter _).Sublist (((w.store.events ++ [_]).filter _).map _)
          rw [List.filter_append, List.filter_append, List.map_append]
          refine hep.append ?_
          by_cases hT : T = taskId <;> simp [hT, EventRecord.notice]
        | _ => exact absurd rfl hc
      | _ => exact absurd rfl hc

/-- Every event an operation recorded of a task is in the log, in order. -/
theorem told_log {rt : WorkflowRuntime} {cfg : Cfg} (h : Reachable rt config env cfg) {i : ThreadId} {ep : Episode}
    (hep : ep ∈ episodes i cfg.state.journal) :
    (ep.told taskId).Sublist ((cfg.state.store.eventsOf taskId).map EventRecord.notice) := by
  refine reachable_episodes (P := fun s ep => (ep.told taskId).Sublist ((s.eventsOf taskId).map EventRecord.notice))
    (fun _ => List.nil_sublist _) (fun _ _ _ _ _ _ _ hs hep => ?_) (fun _ _ _ _ _ _ _ hs hep => told_call hs hep) h hep
  exact hep.trans ((calls_log hs).sublist.map _)

/-! ## The loop -/

/-- What the loop knows of the store: a frame it sent, and the checkpoint it read. -/
structure Follower (taskId : String) (s : SQLiteStore) (x : Snapshots) : Prop where
  previous : x.previous = x.sent.getLast?.map fun f => (f.state.version, f.events.length)
  last : ∀ f, x.sent.getLast? = some f → Copy f.state s ∧ f.state.taskId = taskId ∧ f.events <+: s.eventsOf taskId
  loaded : ∀ st, x.loop = .loaded st → Copy st s ∧ st.taskId = taskId ∧
    ∀ f, x.sent.getLast? = some f → f.state.version = st.version → f.state = st
  finished : ∀ st, x.loop = .finished st → Copy st s

theorem Follower.later {s s' : SQLiteStore} {x : Snapshots} (h : Follower taskId s x) (hl : Later s s')
    (he : s.eventsOf taskId <+: s'.eventsOf taskId) : Follower taskId s' x := by
  refine ⟨h.previous, fun f hf => ?_, fun st hst => ?_, fun st hst => (h.finished st hst).later hl⟩
  · obtain ⟨hc, ht, hp⟩ := h.last f hf
    exact ⟨hc.later hl, ht, hp.trans he⟩
  · obtain ⟨hc, ht, hv⟩ := h.loaded st hst
    exact ⟨hc.later hl, ht, hv⟩

/-- A checkpoint that is read is a copy of what is stored, and the last frame's if that has its version. -/
theorem Follower.load {s : SQLiteStore} {x : Snapshots} (h : Follower taskId s x) (hs : StoreOk Set.univ s) :
    Follower taskId s (x.load (s.getWorkflow taskId)) := by
  cases hg : s.getWorkflow taskId with
  | none => exact ⟨h.previous, h.last, fun _ e => (by cases e), fun _ e => (by cases e)⟩
  | some st =>
    obtain ⟨row, hr, rfl⟩ := SQLiteStore.getWorkflow_some hg
    have ht := (hs.state taskId row hr).task
    have hver := hs.version taskId row hr
    refine ⟨h.previous, h.last, ?_, fun _ e => (by cases e)⟩
    intro st' e
    cases e
    refine ⟨⟨row, by rw [ht]; exact hr, by omega, fun _ => rfl⟩, ht, fun f hf hv => ?_⟩
    obtain ⟨hc, hft, -⟩ := h.last f hf
    exact (hc.stored (by rw [hft]; exact hr) (by omega)).symm

/-- After a turn the last frame is what the turn read, sent in it or before. -/
theorem Follower.list_last {s : SQLiteStore} {x : Snapshots} (h : Follower taskId s x) {st : WorkflowState}
    (hl : x.loop = .loaded st) :
    (x.list st (s.eventsOf taskId)).sent.getLast? = some ⟨st, s.eventsOf taskId⟩ := by
  unfold Snapshots.list
  by_cases hp : some (st.version, (s.eventsOf taskId).length) = x.previous
  · have hprev := h.previous
    simp only [hp, ne_eq, not_true_eq_false, if_false]
    rw [← hp] at hprev
    obtain ⟨f, hf, he⟩ := Option.map_eq_some_iff.mp hprev.symm
    obtain ⟨hv, hlen⟩ := Prod.mk.inj he
    have hstate := (h.loaded st hl).2.2 f hf hv
    have hevents : f.events = s.eventsOf taskId := (h.last f hf).2.2.eq_of_length hlen
    rw [hf, ← hstate, ← hevents]
  · simp only [ne_eq, hp, not_false_eq_true, if_true, List.getLast?_append, List.getLast?_singleton, Option.some_or]

theorem Follower.list {s : SQLiteStore} {x : Snapshots} (h : Follower taskId s x) {st : WorkflowState}
    (hl : x.loop = .loaded st) : Follower taskId s (x.list st (s.eventsOf taskId)) := by
  obtain ⟨hc, ht, -⟩ := h.loaded st hl
  have hlast := h.list_last hl
  refine ⟨?_, fun f hf => ?_, fun st' e => ?_, fun st' e => ?_⟩
  · rw [hlast]
    unfold Snapshots.list
    by_cases hp : some (st.version, (s.eventsOf taskId).length) = x.previous
    · simp [← hp]
    · simp [hp]
  · rw [hlast] at hf
    cases hf
    exact ⟨hc, ht, List.prefix_rfl⟩
  · have e : (if st.terminal = true then Loop.finished st else .turning) = .loaded st' := e
    split at e <;> cases e
  · have e : (if st.terminal = true then Loop.finished st else .turning) = .finished st' := e
    split at e <;> cases e
    exact hc

/-! ## Who made a checkpoint -/

/-- What an operation made is a copy of what is stored. -/
theorem made_copy {cfg : Cfg} (h : Reachable { rt with engine := anyEngine, backend := anyBackend } config env cfg)
    {i : ThreadId} {ep : Episode} (hep : ep ∈ episodes i cfg.state.journal) {st : WorkflowState} (hmade : ep.made = some st) :
    Copy st cfg.state.store := by
  refine reachable_episodes (P := fun s ep => ∀ st, ep.made = some st → Copy st s) (fun _ _ e => (by cases e))
    (fun cfg i c r w' ep hr hs ih st hst => ?_) (fun cfg i c r w' ep hr hs ih st hst => ?_) h hep st hmade
  · exact (ih st hst).later (calls_later (reachable_storeOk lawful_univ hr) hs)
  · have hlater := calls_later (reachable_storeOk lawful_univ hr) hs
    by_cases hold : ep.made = some st
    · exact (ih st hold).later hlater
    · -- the call is the save that made it
      unfold Episode.after at hst
      split at hst
      · split at hst
        · cases hst
          obtain ⟨t, s', -, -, he, rfl⟩ := hs
          rcases SQLiteStore.saveWorkflow_cases he with ⟨row, -, -, hok, hw, -⟩ | ⟨⟨m, hm⟩, -⟩
          · cases hok
            exact ⟨_, (hw _).trans (if_pos rfl), Nat.le_refl _, fun _ => rfl⟩
          · cases hm
        · exact absurd hst hold
      · exact absurd hst hold
      · exact absurd hst hold

/-- An operation that owes nothing about `st` cannot come to have made it: a save makes a later version. -/
theorem call_made {i : ThreadId} {c : Call} {r : Except PyError c.Ret} (h : calls env i c w r w') {ep : Episode}
    (hm : ep.MayTell c) {st : WorkflowState} (hc : Copy st w.store) (howes : ¬ (ep.made = some st ∧ ep.owing = true))
    (hmade : (ep.after c r).made = some st) : ep.after c r = ep := by
  by_cases hu : c.untold = true
  · exact ep.after_untold hu r
  · cases r with
    | error e => exact ep.after_error c e
    | ok a =>
      cases c with
      | store c =>
        cases c with
        | saveWorkflow st' v =>
          have hafter : ep.after (.store (.saveWorkflow st' v)) (.ok a) =
              if a.terminal = true then { ep with made := some a, owing := true } else ep := rfl
          rw [hafter] at hmade ⊢
          split at hmade
          · obtain ⟨t, s', -, -, he, rfl⟩ := h
            cases hmade
            rcases SQLiteStore.saveWorkflow_cases he with ⟨row, hr, hv, hok, -⟩ | ⟨⟨m, hm⟩, -⟩
            · cases hok
              obtain ⟨row', hr', hle, -⟩ := hc
              have heq : row' = row := Option.some.inj (hr'.symm.trans hr)
              have hle : v + 1 ≤ row'.version := hle
              subst heq
              omega
            · cases hm
          · rw [if_neg ‹_›]
        | recordEvent T e payload =>
          have hmade : ep.made = some st := hmade
          rcases hm with hm | hm
          · rw [hm] at hmade; cases hmade
          · exact absurd ⟨hmade, hm⟩ howes
        | _ => exact absurd rfl hu
      | _ => exact absurd rfl hu

/-- The last frame has the full story, and nobody is still to add to it. -/
structure Ended (taskId : String) (cfg : Cfg) (st : WorkflowState) (frame : Frame) : Prop where
  told : Told taskId cfg st frame
  calm : ∀ i, ¬ Owes cfg i st

theorem ended_step {cfg cfg' : Cfg} {st : WorkflowState} {frame : Frame}
    (h : Reachable { rt with engine := anyEngine, backend := anyBackend } config env cfg)
    (hs : Step (system { rt with engine := anyEngine, backend := anyBackend } config env) cfg cfg')
    (hc : Copy st cfg.state.store) (he : Ended taskId cfg st frame) : Ended taskId cfg' st frame := by
  -- a thread that did not move has the same program and the same operations
  have hother : ∀ {i j : ThreadId} {x : Option (Py Reply)} {w' : World}, i ≠ j →
      episodes i w'.journal = episodes i cfg.state.journal → ¬ Owes (cfg.put j x w') i st := by
    rintro i j x w' hij hep ⟨hp, hmade, howes⟩
    have hpool : (cfg.put j x w').pool i = cfg.pool i := Function.update_of_ne hij ..
    have hepisode : episode i w'.journal = episode i cfg.state.journal := congrArg (·.headD {}) hep
    have hmade : (episode i w'.journal).made = some st := hmade
    have howes : (episode i w'.journal).owing = true := howes
    rw [hpool] at hp
    rw [hepisode] at hmade howes
    exact he.calm i ⟨hp, hmade, howes⟩
  have hgone : ∀ {j : ThreadId} {w' : World}, ¬ Owes (cfg.put j none w') j st := by
    rintro j w' ⟨hp, -⟩
    exact hp (Function.update_self ..)
  cases hs with
  | @enter j p w' hn hent =>
    obtain ⟨op, -, -, rfl⟩ := hent
    refine ⟨fun i ep hep hmade => ?_, fun i => ?_⟩
    · have hep : ep ∈ episodes i (.began j op :: cfg.state.journal) := hep
      by_cases hj : j = i
      · subst hj
        rw [episodes_began] at hep
        rcases List.mem_cons.mp hep with rfl | hep
        · cases hmade
        · exact he.told j ep hep hmade
      · rw [episodes_began_other hj] at hep
        exact he.told i ep hep hmade
    · by_cases hj : i = j
      · subst hj
        rintro ⟨-, hmade, -⟩
        have hmade : (episode i (.began i op :: cfg.state.journal)).made = some st := hmade
        rw [episode_began] at hmade
        cases hmade
      · exact hother hj (episodes_began_other (Ne.symm hj) op _)
  | @call j c k r w' hn hcall =>
    have hjournal : w'.journal = .did j c r :: cfg.state.journal := by
      obtain ⟨t, s', -, -, -, rfl⟩ := hcall
      rfl
    have hin : cfg.pool j ≠ none := by rw [hn]; simp
    have howes : ¬ ((episode j cfg.state.journal).made = some st ∧ (episode j cfg.state.journal).owing = true) :=
      fun ho => he.calm j ⟨hin, ho⟩
    refine ⟨fun i ep hep hmade => ?_, fun i => ?_⟩
    · have hep : ep ∈ episodes i w'.journal := hep
      rw [hjournal] at hep
      by_cases hj : j = i
      · subst hj
        rw [episodes_did] at hep
        rcases List.mem_cons.mp hep with rfl | hep
        · have hsame := call_made hcall (tells h hn) hc howes hmade
          rw [hsame] at hmade ⊢
          rcases episode_mem j cfg.state.journal with hm | hm
          · exact he.told j _ hm hmade
          · rw [hm] at hmade; cases hmade
        · exact he.told j ep (List.mem_of_mem_tail hep) hmade
      · rw [episodes_did_other hj] at hep
        exact he.told i ep hep hmade
    · by_cases hj : i = j
      · subst hj
        rintro ⟨-, hmade, ho⟩
        have hepisode : episode i w'.journal = (episode i cfg.state.journal).after c r := by
          rw [hjournal, episode_did]
        have hmade : (episode i w'.journal).made = some st := hmade
        have ho : (episode i w'.journal).owing = true := ho
        rw [hepisode] at hmade ho
        have hsame := call_made hcall (tells h hn) hc howes hmade
        rw [hsame] at hmade ho
        exact howes ⟨hmade, ho⟩
      · exact hother hj (by rw [hjournal]; exact episodes_did_other (Ne.symm hj) c r _)
  | @leave j p o w' hn ho hl =>
    obtain rfl := hl
    refine ⟨fun i ep hep => he.told i ep hep, fun i => ?_⟩
    by_cases hj : i = j
    · subst hj
      exact hgone
    · exact hother hj rfl
  | @crash j p w' hn hx =>
    obtain ⟨-, rfl⟩ := hx
    refine ⟨fun i ep hep => he.told i ep hep, fun i => ?_⟩
    by_cases hj : i = j
    · subst hj
      exact hgone
    · exact hother hj rfl

/-! ## The end of a stream -/

theorem Watched.reachable {calm : Cfg → WorkflowState → Prop} {cfg : Cfg} {x : Snapshots}
    (h : Watched rt config taskId calm cfg x) :
    Reachable { rt with engine := anyEngine, backend := anyBackend } config .free cfg := by
  induction h with
  | opens h => exact h
  | steps _ hs ih => exact .step ih hs
  | loads _ _ ih | lists _ _ _ ih | leaves _ _ ih => exact ih

theorem Watched.follower {calm : Cfg → WorkflowState → Prop} {cfg : Cfg} {x : Snapshots}
    (h : Watched rt config taskId calm cfg x) : Follower taskId cfg.state.store x := by
  induction h with
  | opens => exact ⟨rfl, fun _ e => (by cases e), fun _ e => (by cases e), fun _ e => (by cases e)⟩
  | steps h hs ih => exact ih.later (step_later (reachable_storeOk lawful_univ h.reachable) hs) (step_log hs)
  | loads h _ ih => exact ih.load (reachable_storeOk lawful_univ h.reachable)
  | lists _ hl _ ih => exact ih.list hl
  | leaves _ _ ih => exact ⟨ih.previous, ih.last, fun _ e => (by cases e), fun _ e => (by cases e)⟩

/-- A stream whose last turn reads the events when no operation is between its save of the
    checkpoint read and its event about it ends with the full story, in every state reached. -/
theorem stream_ends_told (rt : WorkflowRuntime) (config : Settings) (taskId : String) {cfg : Cfg} {x : Snapshots}
    (h : Watched rt config taskId (fun cfg st => ∀ i, ¬ Owes cfg i st) cfg x) : FullStory taskId cfg x := by
  suffices hend : ∀ st, x.loop = .finished st → ∃ frame, x.sent.getLast? = some frame ∧ frame.state = st ∧
      Ended taskId cfg st frame by
    intro st hst
    obtain ⟨frame, hlast, hstate, hended⟩ := hend st hst
    exact ⟨frame, hlast, hstate, hended.told⟩
  induction h with
  | opens => exact fun _ e => by cases e
  | steps h hs ih =>
    intro st hst
    obtain ⟨frame, hlast, hstate, hended⟩ := ih st hst
    exact ⟨frame, hlast, hstate, ended_step h.reachable hs (h.follower.finished st hst) hended⟩
  | @loads cfg x h ht ih =>
    intro st hst
    cases hg : cfg.state.store.getWorkflow taskId <;> rw [hg] at hst <;> cases hst
  | @lists cfg x state h hl hcalm ih =>
    intro st hst
    have hst : (if state.terminal = true then Loop.finished state else .turning) = .finished st := hst
    split at hst <;> cases hst
    exact ⟨_, h.follower.list_last hl, rfl, fun i ep hep _ => told_log h.reachable hep, hcalm ‹_›⟩
  | leaves => exact fun _ e => by cases e

theorem Watched.run {calm : Cfg → WorkflowState → Prop} {cfg cfg' : Cfg} {x : Snapshots}
    (h : Watched rt config taskId calm cfg x)
    (hr : Run { rt with engine := anyEngine, backend := anyBackend } config .free cfg cfg') :
    Watched rt config taskId calm cfg' x := by
  induction hr with
  | refl => exact h
  | tail _ hs ih => exact .steps ih hs

/-- A stream that opens on a terminal checkpoint has one turn. -/
theorem Watched.lastTurn (rt : WorkflowRuntime) (config : Settings) (calm : Cfg → WorkflowState → Prop) {cfg : Cfg} {st : WorkflowState}
    (h : Reachable { rt with engine := anyEngine, backend := anyBackend } config .free cfg)
    (hst : cfg.state.store.getWorkflow taskId = some st) (hterm : st.terminal = true) (hcalm : calm cfg st) :
    ∃ x, Watched rt config taskId calm cfg x ∧ x.loop = .finished st ∧
      x.sent.getLast? = some ⟨st, cfg.state.store.eventsOf taskId⟩ := by
  have hopen : Watched rt config taskId calm cfg {} := .opens h (by rw [hst]; simp)
  have hload := hopen.loads rfl
  rw [hst] at hload
  refine ⟨_, hload.lists rfl fun _ => hcalm, ?_, hload.follower.list_last rfl⟩
  exact if_pos hterm

/-! ## Schedules -/

/-- A worker completes the workflow, up to its save. -/
def savesCompleted : List (Move ThreadId Operation Answer) :=
  createsIncident ++ begins 1 (.runOnce "w") 4 ++ decides 1 completeDecision ++ continues 1 2

/-- It records `WORKFLOW_COMPLETED` and settles the delivery. -/
def recordsCompleted : List (Move ThreadId Operation Answer) := continues 1 4 ++ [.leave 1]

/-- The stored checkpoint is terminal. -/
def isTerminal (cfg : Cfg) : Bool := (cfg.state.store.getWorkflow "t").any (·.terminal)

theorem recordsCompleted_plays : ((freePlayer {} {}).play ⟨World.init, fun _ => none⟩ (savesCompleted ++ recordsCompleted)).any
    (fun cfg => (List.range 2).all (fun i => (cfg.pool i).isNone) && isTerminal cfg) = true := by
  decide +kernel

theorem stream_ends_told_completed : ∃ cfg x st, Watched {} {} "t" (fun cfg st => ∀ i, ¬ Owes cfg i st) cfg x ∧
    x.loop = .finished st ∧ FullStory "t" cfg x := by
  obtain ⟨cfg, h, hpool, hterm⟩ := play_settled _ recordsCompleted_plays (by decide)
  obtain ⟨st, hst, hterm⟩ := Option.any_eq_true _ _ |>.mp hterm
  obtain ⟨x, hx, hloop, -⟩ := Watched.lastTurn {} {} (fun cfg st => ∀ i, ¬ Owes cfg i st) h hst hterm fun i hi => hi.1 (hpool i)
  exact ⟨cfg, x, st, hx, hloop, stream_ends_told {} {} "t" hx⟩

/-- Two checkpoints of one task and version. -/
def sameStamp : Option WorkflowState → Option WorkflowState → Bool
  | some st, some st' => decide (st.taskId = st'.taskId ∧ st.version = st'.version)
  | _, _ => false

/-- The worker made the checkpoint that is stored, and records that it completed the workflow only
    after `cfg`. -/
def recordsAfter (cfg cfg' : Cfg) : Bool :=
  isTerminal cfg && sameStamp (cfg.state.store.getWorkflow "t") (cfg'.state.store.getWorkflow "t") &&
    sameStamp (episode 1 cfg'.state.journal).made (cfg'.state.store.getWorkflow "t") &&
    ((episode 1 cfg'.state.journal).told "t").any (fun n => decide (n.event = .workflowCompleted)) &&
    (cfg.state.store.eventsOf "t").all (fun e => decide (e.eventType ≠ .workflowCompleted))

/-- A copy of the stored checkpoint with its stamp is that checkpoint. -/
theorem copy_stamp {s : SQLiteStore} (hs : StoreOk Set.univ s) {o : Option WorkflowState} (hc : ∀ st, o = some st → Copy st s)
    (h : sameStamp o (s.getWorkflow taskId) = true) : o = s.getWorkflow taskId := by
  unfold sameStamp at h
  split at h
  · rename_i st st' hg
    obtain ⟨ht, hv⟩ := of_decide_eq_true h
    obtain ⟨row, hr, rfl⟩ := SQLiteStore.getWorkflow_some hg
    have hver := hs.version _ row hr
    have htask := (hs.state _ row hr).task
    have hrow : s.workflows.get st.taskId = some row := by rw [ht, htask]; exact hr
    rw [hg, (hc st rfl).stored hrow (by omega)]
  · cases h

/-- The checkpoint an operation made is the one that was read. -/
theorem made_read (rt : WorkflowRuntime) (config : Settings) {cfg cfg' : Cfg}
    (h : Reachable { rt with engine := anyEngine, backend := anyBackend } config env cfg)
    (hr : Run { rt with engine := anyEngine, backend := anyBackend } config env cfg cfg') {i : ThreadId} {ep : Episode}
    (hep : ep ∈ episodes i cfg'.state.journal)
    (hread : sameStamp (cfg.state.store.getWorkflow taskId) (cfg'.state.store.getWorkflow taskId) = true)
    (hmade : sameStamp ep.made (cfg'.state.store.getWorkflow taskId) = true) : ep.made = cfg.state.store.getWorkflow taskId := by
  have hok := reachable_storeOk lawful_univ h
  have hok' := reachable_storeOk lawful_univ (h.run hr)
  have hstored : cfg.state.store.getWorkflow taskId = cfg'.state.store.getWorkflow taskId := by
    refine copy_stamp hok' (fun st hst => ?_) hread
    obtain ⟨row, hrow, rfl⟩ := SQLiteStore.getWorkflow_some hst
    have hcopy : Copy row.stateJson cfg.state.store :=
      ⟨row, by rw [(hok.state _ row hrow).task]; exact hrow, (hok.version _ row hrow).ge, fun _ => rfl⟩
    exact hcopy.later (run_later lawful_univ h hr)
  rw [hstored]
  exact copy_stamp hok' (fun st hst => made_copy (h.run hr) hep hst) hmade

theorem savesCompleted_plays : ((freePlayer {} {}).play ⟨World.init, fun _ => none⟩ savesCompleted).any (fun cfg =>
    ((freePlayer {} {}).play cfg recordsCompleted).any (recordsAfter cfg)) = true := by
  decide +kernel

/-- The last turn falls between the worker's save and its record: the last frame lacks `WORKFLOW_COMPLETED`. -/
theorem stream_ends_early : ∃ cfg x, Watched {} {} "t" (fun _ _ => True) cfg x ∧ ¬ FullStory "t" cfg x := by
  obtain ⟨cfg, h, hplay⟩ := (freePlayer {} {}).play_exists savesCompleted_plays
  obtain ⟨cfg', hrun, hc⟩ := (freePlayer {} {}).play_continues hplay
  simp only [recordsAfter, Bool.and_eq_true] at hc
  obtain ⟨⟨⟨⟨hterm, hsame⟩, hmade⟩, htold⟩, hlog⟩ := hc
  obtain ⟨st, hst, hterm⟩ := Option.any_eq_true _ _ |>.mp hterm
  obtain ⟨x, hx, hloop, hlast⟩ := Watched.lastTurn {} {} (fun _ _ => True) h hst hterm trivial
  refine ⟨cfg', x, hx.run hrun, fun hfull => ?_⟩
  obtain ⟨frame, hframe, -, hstory⟩ := hfull st hloop
  obtain rfl := Option.some.inj (hlast.symm.trans hframe)
  have hmem : episode 1 cfg'.state.journal ∈ episodes 1 cfg'.state.journal := by
    rcases episode_mem 1 cfg'.state.journal with hm | hm
    · exact hm
    · rw [hm] at htold; cases htold
  have hmade : (episode 1 cfg'.state.journal).made = some st := (made_read {} {} h hrun hmem hsame hmade).trans hst
  obtain ⟨n, hn, hevent⟩ := List.any_eq_true.mp htold
  obtain ⟨e, he, hne⟩ := List.mem_map.mp ((hstory 1 _ hmem hmade).subset hn)
  have hnot := of_decide_eq_true (List.all_eq_true.mp hlog e he)
  subst hne
  exact hnot (of_decide_eq_true hevent)

end AgentResilience.LiveStream
