/-
  AgentResilience.AwsEvents — the audit log in DynamoDB (`record_event` and `list_events` of
  aws_store.py), down to the text of the attributes: an event is one item under
  `EVENT#<created>#<uuid>`, and listing is one query.

  A query answers in sort-key order and stops at one megabyte; `list_events` does not ask
  for what comes after it. An item over 400 kilobytes is refused, and `record_event` raises.

  - `run_table`: the table holds the recorded events in recording order.
  - `log_whole_iff`: the log is listed whole exactly when the task's events fit one page.
    `log_cut`: three tool results of 399000 characters do not.
-/
import AgentResilience.AwsStore
import AgentResilience.Lib.JsonRoundTrip

namespace AgentResilience.EventLog

/-! ## The items -/

/-- A call of `record_event`, with what the clock and `uuid4` gave it. -/
structure RecordCall where
  taskId : String
  eventType : String
  payload : Option (Dict Json)
  created : DateTime
  hex : String
  created_ok : created.Valid
  payload_ok : ∀ d ∈ payload, (Json.obj d).WellFormed

/-- `payload or {}`. -/
def RecordCall.body (c : RecordCall) : Json := .obj (c.payload.getD [])

def RecordCall.eventId (c : RecordCall) : String := c.created.isoformat ++ "#" ++ c.hex

structure EventItem where
  pk : String
  sk : String
  entityType : String
  eventId : String
  taskId : String
  eventType : String
  payloadJson : String
  createdAt : String

def eventItem (c : RecordCall) : EventItem where
  pk := AWSDurableStore.workflowPk c.taskId
  sk := "EVENT#" ++ c.eventId
  entityType := "EVENT"
  eventId := c.eventId
  taskId := c.taskId
  eventType := c.eventType
  payloadJson := c.body.dumps Json.plain
  createdAt := c.created.isoformat

/-- The bytes of the attributes' names and values. -/
def EventItem.size (item : EventItem) : Nat :=
  ([("pk", item.pk), ("sk", item.sk), ("entity_type", item.entityType), ("event_id", item.eventId), ("task_id", item.taskId),
    ("event_type", item.eventType), ("payload_json", item.payloadJson), ("created_at", item.createdAt)].map
    fun a => a.1.utf8ByteSize + a.2.utf8ByteSize).sum

/-! ## The table -/

/-- The items whose sort key starts with `EVENT#`; no other item comes up in a query for events. -/
abbrev EventTable := List EventItem

def maxItemSize : Nat := 409600

def pageSize : Nat := 1048576

/-- `put_item`: replaces the item of that key. -/
def putItem (table : EventTable) (item : EventItem) : Option EventTable :=
  if item.size ≤ maxItemSize then some (table.filter (fun x => decide (x.pk ≠ item.pk ∨ x.sk ≠ item.sk)) ++ [item]) else none

/-- The items a query returns before its page is full. -/
def page : Nat → List EventItem → List EventItem
  | _, [] => []
  | room, item :: items => if item.size ≤ room then item :: page (room - item.size) items else []

def query (table : EventTable) (pk : String) : List EventItem :=
  page pageSize ((table.filter fun x => decide (x.pk = pk)).insertionSort fun a b => a.sk ≤ b.sk)

/-! ## The store -/

structure EventRecord where
  id : String
  taskId : String
  eventType : String
  payload : Json
  createdAt : DateTime

def recordEvent (table : EventTable) (c : RecordCall) : Except PyError EventTable :=
  match putItem table (eventItem c) with
  | some table => .ok table
  | none => .error (awsError "record audit event" "ValidationException")

def readItem (taskId : String) (item : EventItem) : Option EventRecord := do
  let payload ← Json.loads item.payloadJson
  let createdAt ← DateTime.fromisoformat item.createdAt
  pure ⟨item.eventId, taskId, item.eventType, payload, createdAt⟩

/-- `none` is a payload or a timestamp that does not parse. -/
def listEvents (table : EventTable) (taskId : String) : Option (List EventRecord) :=
  (query table (AWSDurableStore.workflowPk taskId)).mapM (readItem taskId)

/-- The table after the calls; one that raises leaves it. -/
def run (calls : List RecordCall) : EventTable :=
  calls.foldl (fun table c => match recordEvent table c with | .ok table' => table' | .error _ => table) []

/-- The calls that return. -/
def recorded (calls : List RecordCall) : List RecordCall := calls.filter fun c => decide ((eventItem c).size ≤ maxItemSize)

/-- What was recorded of a task. -/
def logOf (calls : List RecordCall) (taskId : String) : List RecordCall :=
  (recorded calls).filter fun c => decide (c.taskId = taskId)

def RecordCall.record (c : RecordCall) : EventRecord := ⟨c.eventId, c.taskId, c.eventType, c.body, c.created⟩

/-- The clock goes forward between two calls for one task. -/
def Ticking (calls : List RecordCall) : Prop := calls.Pairwise fun a b => a.taskId = b.taskId → a.created < b.created

/-! ## The table holds what was recorded -/

theorem isoformat_ne {a b : DateTime} (hb : b.Valid) (h : a < b) (x y : List Char) :
    a.isoformat.toList ++ x ≠ b.isoformat.toList ++ y := by
  intro e
  have hlt := ((DateTime.below_isoformat hb h).append x y).lt
  rw [e] at hlt
  exact List.lt_irrefl _ hlt

theorem workflowPk_inj {a b : String} (h : AWSDurableStore.workflowPk a = AWSDurableStore.workflowPk b) : a = b := by
  have := congrArg String.toList h
  simp only [AWSDurableStore.workflowPk, String.toList_append, List.append_cancel_left_eq] at this
  exact String.toList_inj.mp this

/-- The sort key of an event goes on from its timestamp. -/
theorem toList_sk (c : RecordCall) : (eventItem c).sk.toList =
    "EVENT#".toList ++ (c.created.isoformat.toList ++ ("#".toList ++ c.hex.toList)) := by
  simp [eventItem, RecordCall.eventId]

theorem sk_ne {a b : RecordCall} (h : a.created < b.created) : (eventItem a).sk ≠ (eventItem b).sk := by
  intro e
  have := congrArg String.toList e
  rw [toList_sk, toList_sk, List.append_cancel_left_eq] at this
  exact isoformat_ne b.created_ok h _ _ this

theorem sk_le {a b : RecordCall} (h : a.created < b.created) : (eventItem a).sk ≤ (eventItem b).sk := by
  have hlt := (((DateTime.below_isoformat b.created_ok h).append ("#".toList ++ a.hex.toList) ("#".toList ++ b.hex.toList)).prepend
    "EVENT#".toList).lt
  rw [← toList_sk, ← toList_sk] at hlt
  exact fun hgt => List.lt_asymm hlt hgt

/-- After any calls the table holds the recorded events, in recording order. -/
theorem run_table {calls : List RecordCall} (h : Ticking calls) : run calls = (recorded calls).map eventItem := by
  induction calls using List.reverseRecOn with
  | nil => rfl
  | append_singleton calls c ih =>
    obtain ⟨hcalls, -, hlast⟩ := List.pairwise_append.mp h
    have hlast : ∀ a ∈ calls, a.taskId = c.taskId → a.created < c.created := fun a ha => hlast a ha c (List.mem_singleton_self c)
    have hrun : run (calls ++ [c]) = match recordEvent (run calls) c with | .ok table => table | .error _ => run calls := by
      simp [run]
    have hkept : (run calls).filter (fun x => decide (x.pk ≠ (eventItem c).pk ∨ x.sk ≠ (eventItem c).sk)) = run calls := by
      rw [List.filter_eq_self]
      intro x hx
      rw [ih hcalls] at hx
      obtain ⟨a, ha, rfl⟩ := List.mem_map.mp hx
      rw [decide_eq_true_eq]
      by_cases htask : a.taskId = c.taskId
      · exact .inr (sk_ne (hlast a (List.mem_of_mem_filter ha) htask))
      · exact .inl fun e => htask (workflowPk_inj e)
    rw [hrun]
    unfold recordEvent putItem recorded
    by_cases hsize : (eventItem c).size ≤ maxItemSize
    · rw [if_pos hsize, hkept, ih hcalls, recorded]
      simp [hsize]
    · rw [if_neg hsize, ih hcalls, recorded]
      simp [hsize]

/-! ## One page -/

theorem page_take (room : Nat) (items : List EventItem) : ∃ k, page room items = items.take k := by
  induction items generalizing room with
  | nil => exact ⟨0, rfl⟩
  | cons item items ih =>
    by_cases h : item.size ≤ room
    · obtain ⟨k, hk⟩ := ih (room - item.size)
      exact ⟨k + 1, by simp [page, h, hk]⟩
    · exact ⟨0, by simp [page, h]⟩

theorem page_eq_iff (room : Nat) (items : List EventItem) : page room items = items ↔ (items.map EventItem.size).sum ≤ room := by
  induction items generalizing room with
  | nil => simp [page]
  | cons item items ih =>
    by_cases h : item.size ≤ room
    · simp only [page, h, if_true, List.cons.injEq, true_and, ih, List.map_cons, List.sum_cons]
      omega
    · simp only [page, h, if_false, List.map_cons, List.sum_cons]
      constructor
      · intro e; cases e
      · intro hsum; omega

/-- A query for a task's events answers with a page of them, in recording order. -/
theorem query_run {calls : List RecordCall} (h : Ticking calls) (taskId : String) :
    query (run calls) (AWSDurableStore.workflowPk taskId) = page pageSize ((logOf calls taskId).map eventItem) := by
  have hfilter : (run calls).filter (fun x => decide (x.pk = AWSDurableStore.workflowPk taskId)) = (logOf calls taskId).map eventItem := by
    rw [run_table h, List.filter_map, logOf]
    congr 1
    refine List.filter_congr fun c _ => ?_
    simp only [Function.comp, eventItem]
    exact decide_eq_decide.mpr ⟨workflowPk_inj, fun e => e ▸ rfl⟩
  have hsorted : ((logOf calls taskId).map eventItem).Pairwise fun a b => a.sk ≤ b.sk := by
    have hticking : (logOf calls taskId).Pairwise fun a b => a.taskId = b.taskId → a.created < b.created :=
      h.sublist (List.filter_sublist.trans List.filter_sublist)
    rw [List.pairwise_map]
    refine hticking.imp_of_mem fun ha hb hlt => sk_le (hlt ?_)
    rw [of_decide_eq_true (List.mem_filter.mp ha).2, of_decide_eq_true (List.mem_filter.mp hb).2]
  unfold query
  rw [hfilter, hsorted.insertionSort_eq]

theorem readItem_eventItem (c : RecordCall) : readItem c.taskId (eventItem c) = some c.record := by
  have hbody : c.body.WellFormed := by
    have hok := c.payload_ok
    unfold RecordCall.body
    cases hp : c.payload with
    | none => simp [Json.WellFormed, Json.WellFormedFields, Dict.keys]
    | some d => exact hok d hp
  unfold readItem
  rw [show (eventItem c).payloadJson = c.body.dumps Json.plain from rfl, Json.loads_dumps Json.plain_spaced hbody,
    show (eventItem c).createdAt = c.created.isoformat from rfl, DateTime.fromisoformat_isoformat c.created_ok]
  rfl

theorem mapM_readItem {calls : List RecordCall} {taskId : String} (h : ∀ c ∈ calls, c.taskId = taskId) :
    (calls.map eventItem).mapM (readItem taskId) = some (calls.map RecordCall.record) := by
  induction calls with
  | nil => rfl
  | cons c calls ih =>
    have hc := readItem_eventItem c
    rw [h c List.mem_cons_self] at hc
    rw [List.map_cons, List.mapM_cons, hc, ih fun x hx => h x (List.mem_cons_of_mem _ hx)]
    rfl

/-- A listing is some of the task's first events, all of them exactly when they fit one page. -/
theorem listEvents_run {calls : List RecordCall} (h : Ticking calls) (taskId : String) :
    ∃ k, listEvents (run calls) taskId = some (((logOf calls taskId).take k).map RecordCall.record) ∧
      ((logOf calls taskId).length ≤ k ↔ (((logOf calls taskId).map eventItem).map EventItem.size).sum ≤ pageSize) := by
  obtain ⟨k, hk⟩ := page_take pageSize ((logOf calls taskId).map eventItem)
  have htask : ∀ c ∈ (logOf calls taskId).take k, c.taskId = taskId := fun c hc =>
    of_decide_eq_true (List.mem_filter.mp (List.mem_of_mem_take hc)).2
  refine ⟨k, ?_, ?_⟩
  · unfold listEvents
    rw [query_run h, hk, ← List.map_take, mapM_readItem htask]
  · rw [← page_eq_iff, hk, List.take_eq_self_iff, List.length_map]

/-- The whole log is listed, each event once and in order, exactly when it fits one page. -/
theorem log_whole_iff {calls : List RecordCall} (h : Ticking calls) (taskId : String) :
    listEvents (run calls) taskId = some ((logOf calls taskId).map RecordCall.record) ↔
      (((logOf calls taskId).map eventItem).map EventItem.size).sum ≤ pageSize := by
  obtain ⟨k, hlist, hk⟩ := listEvents_run h taskId
  rw [← hk, hlist, Option.some.injEq]
  constructor
  · intro e
    have := congrArg List.length e
    simp only [List.length_map, List.length_take] at this
    omega
  · intro hle
    rw [List.take_of_length_le hle]

/-- The record of a tool result of `n` characters. -/
def toolResult (n second : Nat) (hsecond : second ≤ 59) : RecordCall where
  taskId := "t"
  eventType := "TOOL_COMPLETED"
  payload := some [("logs", .str (String.ofList (List.replicate n 'x')))]
  created := ⟨2026, 1, 1, 0, 0, second, 0⟩
  hex := "0123456789abcdef0123456789abcdef"
  created_ok := by constructor <;> simp [hsecond]
  payload_ok := by simp [Json.WellFormed, Json.WellFormedFields, Dict.keys]

theorem utf8ByteSize_text (n : Nat) :
    ((Json.obj [("logs", .str (String.ofList (List.replicate n 'x')))]).dumps Json.plain).utf8ByteSize = n + 12 := by
  have hx : ∀ n, (String.ofList (List.replicate n 'x')).utf8ByteSize = n := by
    intro n
    induction n with
    | zero => rfl
    | succ n ih =>
      rw [List.replicate_succ', String.ofList_append, String.utf8ByteSize_append, ih]
      rfl
  have hquote : Json.quote (String.ofList (List.replicate n 'x')) = "\"" ++ String.ofList (List.replicate n 'x') ++ "\"" := by
    have hflat : ∀ n, (List.replicate n 'x').flatMap Json.escapeChar = List.replicate n 'x' := by
      intro n
      induction n with
      | zero => rfl
      | succ n ih =>
        rw [List.replicate_succ, List.flatMap_cons, ih]
        rfl
    rw [Json.quote, Json.chars_eq, String.toList_ofList, hflat, String.ofList_append, String.ofList_append]
  have htext : (Json.obj [("logs", .str (String.ofList (List.replicate n 'x')))]).dumps Json.plain =
      "\x7b\"logs\": " ++ ("\"" ++ String.ofList (List.replicate n 'x') ++ "\"") ++ "\x7d" := by
    rw [← hquote]
    simp only [Json.dumps, Json.dumpsFields, Json.sortFields, Json.plain, Bool.false_eq_true, if_false, List.map_cons, List.map_nil,
      String.intercalate_singleton]
    rw [show Json.quote "logs" = "\"logs\"" from by decide]
    simp only [← String.append_assoc]
    rfl
  rw [htext]
  simp only [String.utf8ByteSize_append, hx]
  have h1 : "\x7b\"logs\": ".utf8ByteSize = 9 := by decide
  have h2 : "\"".utf8ByteSize = 1 := by decide
  have h3 : "\x7d".utf8ByteSize = 1 := by decide
  omega

theorem size_toolResult (n second : Nat) (hsecond : second ≤ 59) :
    (eventItem (toolResult n second hsecond)).size = (eventItem (toolResult 0 second hsecond)).size + n := by
  have hn := utf8ByteSize_text n
  have h0 := utf8ByteSize_text 0
  simp only [EventItem.size, eventItem, toolResult, RecordCall.body, Option.getD_some, List.map_cons, List.map_nil, List.sum_cons,
    List.sum_nil, RecordCall.eventId, hn, h0]
  omega

/-- Three tool results, a second apart. -/
def toolResults (n : Nat) : List RecordCall :=
  [toolResult n 0 (by decide), toolResult n 1 (by decide), toolResult n 2 (by decide)]

theorem toolResults_ticking (n : Nat) : Ticking (toolResults n) := by
  simp only [Ticking, toolResults, List.pairwise_cons, List.mem_cons, List.not_mem_nil, or_false, forall_eq_or_imp, forall_eq]
  refine ⟨⟨fun _ => ?_, fun _ => ?_⟩, fun _ => ?_, ?_⟩
  · show (⟨2026, 1, 1, 0, 0, 0, 0⟩ : DateTime) < ⟨2026, 1, 1, 0, 0, 1, 0⟩
    decide
  · show (⟨2026, 1, 1, 0, 0, 0, 0⟩ : DateTime) < ⟨2026, 1, 1, 0, 0, 2, 0⟩
    decide
  · show (⟨2026, 1, 1, 0, 0, 1, 0⟩ : DateTime) < ⟨2026, 1, 1, 0, 0, 2, 0⟩
    decide
  · simp

theorem size_toolResults {n : Nat} : ∀ c ∈ toolResults n, (eventItem c).size = 251 + n := by
  have h0 : ∀ second : Fin 3, (eventItem (toolResult 0 second (by omega))).size = 251 := by decide +kernel
  intro c hc
  simp only [toolResults, List.mem_cons, List.not_mem_nil, or_false] at hc
  rcases hc with rfl | rfl | rfl <;> rw [size_toolResult]
  · exact congrArg (· + n) (h0 0)
  · exact congrArg (· + n) (h0 1)
  · exact congrArg (· + n) (h0 2)

/-- The results are recorded when each fits an item. -/
theorem logOf_toolResults {n : Nat} (hn : 251 + n ≤ maxItemSize) : logOf (toolResults n) "t" = toolResults n := by
  unfold logOf recorded
  rw [List.filter_filter, List.filter_eq_self]
  intro c hc
  have hsize := size_toolResults c hc
  have htask : c.taskId = "t" := by
    simp only [toolResults, List.mem_cons, List.not_mem_nil, or_false] at hc
    rcases hc with rfl | rfl | rfl <;> rfl
  simp [htask, hsize, hn]

theorem sum_toolResults (n : Nat) : (((toolResults n).map eventItem).map EventItem.size).sum = 3 * (251 + n) := by
  have hsize := @size_toolResults n
  simp only [toolResults, List.mem_cons, List.not_mem_nil, or_false, forall_eq_or_imp, forall_eq] at hsize
  simp only [toolResults, List.map_cons, List.map_nil, hsize, List.sum_cons, List.sum_nil]
  omega

/-- Three results of 1000 characters are listed. -/
theorem log_whole_results : (logOf (toolResults 1000) "t").length = 3 ∧
    listEvents (run (toolResults 1000)) "t" = some ((logOf (toolResults 1000) "t").map RecordCall.record) := by
  have hlog := logOf_toolResults (n := 1000) (by decide)
  refine ⟨by rw [hlog]; rfl, (log_whole_iff (toolResults_ticking 1000) "t").mpr ?_⟩
  rw [hlog, sum_toolResults]
  decide

/-- Three tool results of 399000 characters: the last is recorded and not listed. -/
theorem log_cut : listEvents (run (toolResults 399000)) "t" ≠ some ((logOf (toolResults 399000) "t").map RecordCall.record) := by
  have hlog := logOf_toolResults (n := 399000) (by decide)
  obtain ⟨k, hlist, hk⟩ := listEvents_run (toolResults_ticking 399000) "t"
  rw [hlog, sum_toolResults] at hk
  intro e
  rw [hlist, Option.some.injEq, hlog] at e
  have hlength := congrArg List.length e
  simp only [List.length_map, List.length_take] at hlength
  have hfits := hk.mp (by omega)
  simp [pageSize] at hfits

end AgentResilience.EventLog
