/-
  AgentResilience.Dashboard — the dashboard's summary (`dashboard_summary` of api.py) and the
  evaluation report's latency (`evaluate` of run_local.py). Both take the element of the sorted
  latencies at `int(len * 0.95) - 1`, in binary64.

  - `percentile_iff`: it is a 95th percentile if the index reaches the rank of one, or the
    latencies at the two sorted positions are equal; the index reaches it for one latency and for
    multiples of twenty. `percentile_short`: for two latencies it is the smaller one.
-/
import Mathlib.Tactic.IntervalCases
import AgentResilience.Lib.Binary64
import AgentResilience.Listing

namespace AgentResilience

open Binary64 (nearest roundEven)

/-! ## Latencies -/

/-- `max(0, int(n * 0.95) - 1)`. -/
def p95Index (n : Nat) : Nat := (max 0 (⌊nearest (nearest n * nearest (95 / 100))⌋ - 1)).toNat

/-- `(end - start).total_seconds()`. -/
def totalSeconds (start stop : Timestamp) : ℚ := nearest ((stop - start : Int) / 1000000)

/-- `sorted(latencies)`. -/
def ascending (latencies : List ℚ) : List ℚ := latencies.insertionSort (· ≤ ·)

/-- `latencies[max(0, int(len(latencies) * 0.95) - 1)] if latencies else 0.0`. -/
def p95LatencySeconds (latencies : List ℚ) : ℚ :=
  if latencies.isEmpty then 0 else ((ascending latencies)[p95Index latencies.length]?).getD 0

/-- `sorted(latencies)[max(0, int(len(latencies) * 0.95) - 1)]` of the evaluation. -/
def evaluationP95 (latencies : List ℚ) : Except PyError ℚ :=
  match (ascending latencies)[p95Index latencies.length]? with
  | some latency => .ok latency
  | none => .error (.other "IndexError")

/-! ## The summary -/

/-- `round(a / b, 4)`. -/
def rate (a b : Nat) : ℚ := nearest (roundEven (nearest (a / b) * 10000) / 10000)

def isToolFailure (event : EventRecord) : Bool :=
  event.eventType = .toolRetryableFailure ||
    event.eventType = .workflowFailed && (match event.payload.field "category" with
      | some (.str category) => category = "tool"
      | _ => false)

def allStatuses : List WorkflowStatus :=
  [.queued, .running, .waitingForApproval, .completed, .failed, .deadLettered, .loopStopped, .humanRejected]

/-- All of it but `average_latency_seconds`, whose float sum no law here is about. -/
structure Summary where
  totalIncidents : Nat
  activeIncidents : Nat
  successRate : ℚ
  totalRetries : Nat
  modelTokens : Nat
  toolFailures : Nat
  loopDetections : Nat
  p95LatencySeconds : ℚ
  queue : List (QueueStatus × Nat)
  statuses : List (WorkflowStatus × Nat)

def dashboardSummary (s : SQLiteStore) : Summary :=
  let workflows := s.listWorkflows 500 none
  let terminal := workflows.filter (·.terminal)
  let completed := terminal.filter (·.status = .completed)
  let latencies := terminal.map fun item => totalSeconds item.createdAt item.updatedAt
  let events := workflows.flatMap fun item => s.events.filter (·.taskId = item.taskId)
  let count := fun (status : WorkflowStatus) => workflows.countP (·.status = status)
  { totalIncidents := workflows.length
    activeIncidents := workflows.countP (!·.terminal)
    successRate := if terminal.isEmpty then 0 else rate completed.length terminal.length
    totalRetries := (workflows.map (·.retries)).sum
    modelTokens := (workflows.map fun item => item.inputTokens + item.outputTokens).sum
    toolFailures := events.countP isToolFailure
    loopDetections := count .loopStopped
    p95LatencySeconds := p95LatencySeconds latencies
    queue := s.queueCounts
    statuses := allStatuses.map fun status => (status, count status) }

/-- Every incident of the summary is counted under one status. -/
theorem summary_statuses (s : SQLiteStore) :
    ((dashboardSummary s).statuses.map (·.2)).sum = (dashboardSummary s).totalIncidents := by
  have hcount : ∀ l : List WorkflowState,
      ((allStatuses.map fun status => (status, l.countP (·.status = status))).map (·.2)).sum = l.length := by
    intro l
    induction l with
    | nil => rfl
    | cons x l ih =>
      simp only [allStatuses, List.map_cons, List.map_nil, List.sum_cons, List.sum_nil, List.countP_cons,
        List.length_cons] at ih ⊢
      cases x.status <;> simp <;> omega
  exact hcount _

/-- An incident is active or ended. -/
theorem summary_active (s : SQLiteStore) : (dashboardSummary s).activeIncidents +
    ((s.listWorkflows 500 none).filter (·.terminal)).length = (dashboardSummary s).totalIncidents := by
  show (s.listWorkflows 500 none).countP (!·.terminal) + ((s.listWorkflows 500 none).filter (·.terminal)).length = _
  rw [← List.countP_eq_length_filter, Nat.add_comm]
  have hall : ∀ l : List WorkflowState, l.countP (·.terminal) + l.countP (!·.terminal) = l.length := by
    intro l
    induction l with
    | nil => rfl
    | cons x l ih =>
      rw [List.countP_cons, List.countP_cons, List.length_cons]
      cases x.terminal <;> simp <;> omega
  exact hall _

/-! ## The index -/

theorem nearest_length {n : Nat} (hn : n < 2 ^ 53) : nearest n = n := by
  have h := Binary64.nearest_intCast (n := n) (by rw [abs_of_nonneg (by omega)]; exact_mod_cast hn)
  exact_mod_cast h

/-- The float `0.95`. -/
theorem nearest_ninetyfive : nearest (95 / 100) = 8556839292003942 / 2 ^ 53 := by
  rw [Binary64.nearest_eq (n := 8556839292003942) (k := -1)]
  · norm_num
  · norm_num [abs_of_pos]
  · norm_num [abs_of_pos]
  · norm_num
  · norm_num [abs_lt]

/-- The product, before it is rounded. -/
theorem product_eq {n : Nat} (hn : n < 2 ^ 53) : nearest n * nearest (95 / 100) = 19 * n / 20 - 2 * n / 5 / 2 ^ 53 := by
  rw [nearest_length hn, nearest_ninetyfive]
  ring

/-- For every length a list can have in practice the index is the exact one. -/
theorem floor_product {n : Nat} (h0 : 0 < n) (hn : n < 2 ^ 49) :
    ⌊nearest (nearest n * nearest (95 / 100))⌋ = (19 * n / 20 : Nat) := by
  have hpos : (0 : ℚ) < n := by exact_mod_cast h0
  have hlt : (n : ℚ) < 2 ^ 49 := by exact_mod_cast hn
  have hone : (1 : ℚ) ≤ n := by exact_mod_cast h0
  rw [product_eq (by omega)]
  generalize hp : (19 * n / 20 - 2 * n / 5 / 2 ^ 53 : ℚ) = p
  have hp0 : 0 < p := by rw [← hp]; linarith
  -- the whole part of the exact product is within 19/20 below it
  have hfloor : 20 * (19 * n / 20) ≤ 19 * n ∧ 19 * n ≤ 20 * (19 * n / 20) + 19 := by omega
  generalize 19 * n / 20 = f at hfloor ⊢
  have hlow : (20 * f : ℚ) ≤ 19 * n := by exact_mod_cast hfloor.1
  have hhigh : (19 * n : ℚ) ≤ 20 * f + 19 := by exact_mod_cast hfloor.2
  rw [Int.floor_eq_iff]
  constructor
  · have hquantum := Binary64.lt_quantum p
    have h53 : (2 : ℚ) ^ (-53 : ℤ) = 1 / 2 ^ 53 := by norm_num
    rw [abs_of_pos hp0, h53] at hquantum
    have hclose : ((f : ℤ) : ℚ) - p < Binary64.quantum p / 2 := by
      push_cast
      linarith
    exact Binary64.intCast_le_nearest (by rw [abs_of_pos hp0]; linarith) hclose
  · have herror := (abs_le.mp (Binary64.abs_nearest_sub_le (x := p) (by
      rw [abs_of_pos hp0]
      calc (2 : ℚ) ^ (-1022 : ℤ) ≤ 2 ^ (-1 : ℤ) := zpow_le_zpow_right₀ (by norm_num) (by norm_num)
        _ ≤ p := by rw [← hp]; norm_num; linarith))).2
    have h53 : (2 : ℚ) ^ (-53 : ℤ) = 1 / 2 ^ 53 := by norm_num
    rw [abs_of_pos hp0, h53] at herror
    push_cast
    linarith

/-- A rounding makes a number of at least one half larger by at most one part in a million. -/
theorem nearest_le {x : ℚ} (hx : 1 / 2 ≤ x) : nearest x ≤ x * (1 + 1 / 1000000) ∧ x * (1 - 1 / 1000000) ≤ nearest x := by
  have hx0 : 0 < x := by linarith
  have herror := abs_le.mp (Binary64.abs_nearest_sub_le (x := x) (by
    rw [abs_of_pos hx0]
    calc (2 : ℚ) ^ (-1022 : ℤ) ≤ 2 ^ (-1 : ℤ) := zpow_le_zpow_right₀ (by norm_num) (by norm_num)
      _ ≤ x := by norm_num; linarith))
  have h53 : (2 : ℚ) ^ (-53 : ℤ) = 1 / 2 ^ 53 := by norm_num
  rw [abs_of_pos hx0, h53] at herror
  constructor <;> linarith [herror.1, herror.2]

/-- The index is one of the list, whatever its length. -/
theorem p95Index_lt {n : Nat} (h0 : 0 < n) : p95Index n < n := by
  have hone : (1 : ℚ) ≤ n := by exact_mod_cast h0
  obtain ⟨hn, hn'⟩ := nearest_le (by linarith : 1 / 2 ≤ (n : ℚ))
  have hc : nearest (95 / 100) ≤ 96 / 100 ∧ 94 / 100 ≤ nearest (95 / 100) := by
    rw [nearest_ninetyfive]
    norm_num
  have hupper : nearest n * nearest (95 / 100) ≤ n * (1 + 1 / 1000000) * (96 / 100) :=
    mul_le_mul hn hc.1 (by linarith) (by positivity)
  have hlower : n * (1 - 1 / 1000000) * (94 / 100) ≤ nearest n * nearest (95 / 100) :=
    mul_le_mul hn' hc.2 (by norm_num) (by linarith)
  obtain ⟨hp, -⟩ := nearest_le (x := nearest n * nearest (95 / 100)) (by linarith)
  have hle : nearest (nearest n * nearest (95 / 100)) ≤ n := by linarith
  have hfloor : ⌊nearest (nearest n * nearest (95 / 100))⌋ ≤ n := by
    have := Int.floor_le_floor hle
    rwa [Int.floor_natCast] at this
  unfold p95Index
  omega

/-! ## The percentile -/

/-- An element of the list with at least 95 percent of the elements at most it. -/
structure IsP95 (latencies : List ℚ) (v : ℚ) : Prop where
  mem : v ∈ latencies
  covers : 95 * latencies.length ≤ 100 * latencies.countP (fun x => decide (x ≤ v))

/-- The least rank of such an element, of `n`, counted from one: `⌈95 n / 100⌉`. -/
def p95Rank (n : Nat) : Nat := (95 * n + 99) / 100

variable {latencies : List ℚ} {i r : Nat} {v u : ℚ}

theorem ascending_perm (latencies : List ℚ) : (ascending latencies).Perm latencies := List.perm_insertionSort ..

theorem ascending_pairwise (latencies : List ℚ) : (ascending latencies).Pairwise (· ≤ ·) := List.pairwise_insertionSort ..

/-- As many elements as its rank are at most an element of a sorted list. -/
theorem lt_countP {l : List ℚ} (hl : l.Pairwise (· ≤ ·)) (hv : l[i]? = some v) : i < l.countP fun x => decide (x ≤ v) := by
  induction l generalizing i with
  | nil => cases hv
  | cons x l ih =>
    rw [List.pairwise_cons] at hl
    cases i with
    | zero =>
      obtain rfl : x = v := by simpa using hv
      simp
    | succ i =>
      have hmem : v ∈ l := List.mem_of_getElem? (by simpa using hv)
      have := ih hl.2 (by simpa using hv)
      rw [List.countP_cons, if_pos (decide_eq_true (hl.1 v hmem))]
      omega

/-- No more than come before a larger one. -/
theorem countP_le {l : List ℚ} (hl : l.Pairwise (· ≤ ·)) (hu : l[r]? = some u) (hlt : v < u) :
    l.countP (fun x => decide (x ≤ v)) ≤ r := by
  induction l generalizing r with
  | nil => cases hu
  | cons x l ih =>
    rw [List.pairwise_cons] at hl
    cases r with
    | zero =>
      obtain rfl : x = u := by simpa using hu
      rw [Nat.le_zero, List.countP_eq_zero]
      intro y hy
      rw [decide_eq_true_eq, not_le]
      rcases List.mem_cons.mp hy with rfl | hy
      · exact hlt
      · exact lt_of_lt_of_le hlt (hl.1 y hy)
    | succ r =>
      have := ih hl.2 (by simpa using hu)
      rw [List.countP_cons]
      split <;> omega

/-- A sorted list does not decrease. -/
theorem pairwise_get {l : List ℚ} (hl : l.Pairwise (· ≤ ·)) (hv : l[i]? = some v) (hu : l[r]? = some u) (h : i < r) : v ≤ u := by
  obtain ⟨hi, rfl⟩ := List.getElem?_eq_some_iff.mp hv
  obtain ⟨hr, rfl⟩ := List.getElem?_eq_some_iff.mp hu
  exact List.pairwise_iff_getElem.mp hl i r hi hr h

theorem p95Index_eq {n : Nat} (h0 : 0 < n) (hn : n < 2 ^ 49) : p95Index n = 19 * n / 20 - 1 := by
  unfold p95Index
  rw [floor_product h0 hn]
  omega

/-- The index reaches the rank for a single latency and for multiples of twenty. -/
theorem p95Rank_le {n : Nat} (h0 : 0 < n) (hn : n < 2 ^ 49) : p95Rank n ≤ p95Index n + 1 ↔ n = 1 ∨ 20 ∣ n := by
  rw [p95Index_eq h0 hn]
  unfold p95Rank
  have hdiv := Nat.div_add_mod n 20
  have hmod := Nat.mod_lt n (by norm_num : 20 > 0)
  generalize n / 20 = q at hdiv
  generalize n % 20 = m at hdiv hmod
  interval_cases m <;> omega

theorem p95_get (hne : latencies ≠ []) : ∃ v, (ascending latencies)[p95Index latencies.length]? = some v := by
  have hlt := p95Index_lt (List.length_pos_of_ne_nil hne)
  rw [← (ascending_perm latencies).length_eq] at hlt ⊢
  exact ⟨_, List.getElem?_eq_getElem hlt⟩

/-- The reported latency is in the list; it is a 95th percentile exactly if the index reaches the
    rank of one or the sorted latencies at the two positions are equal. The rank is reached by one
    latency and by a multiple of twenty, and by no other number of latencies up to `2 ^ 49`. -/
theorem percentile_iff (latencies : List ℚ) (hne : latencies ≠ []) :
    p95Index latencies.length < latencies.length ∧
    evaluationP95 latencies = .ok (p95LatencySeconds latencies) ∧
    (IsP95 latencies (p95LatencySeconds latencies) ↔ p95Rank latencies.length ≤ p95Index latencies.length + 1 ∨
      (ascending latencies)[p95Rank latencies.length - 1]? = (ascending latencies)[p95Index latencies.length]?) ∧
    (latencies.length < 2 ^ 49 →
      (p95Rank latencies.length ≤ p95Index latencies.length + 1 ↔ latencies.length = 1 ∨ 20 ∣ latencies.length)) := by
  have hpos := List.length_pos_of_ne_nil hne
  obtain ⟨v, hv⟩ := p95_get hne
  have hreport : p95LatencySeconds latencies = v := by
    unfold p95LatencySeconds
    rw [hv, if_neg (by simpa using hne)]
    rfl
  refine ⟨p95Index_lt hpos, ?_, ?_, fun hsmall => ?_⟩
  · unfold evaluationP95
    rw [hv, hreport]
  · rw [hreport, hv]
    have hsorted := ascending_pairwise latencies
    have hmem : v ∈ latencies := (ascending_perm latencies).mem_iff.mp (List.mem_of_getElem? hv)
    have hcount := lt_countP hsorted hv
    have hrank : p95Rank latencies.length - 1 < (ascending latencies).length := by
      rw [(ascending_perm latencies).length_eq]
      unfold p95Rank
      omega
    have hcover : 95 * latencies.length ≤ 100 * latencies.countP (fun x => decide (x ≤ v)) ↔
        p95Rank latencies.length ≤ (ascending latencies).countP fun x => decide (x ≤ v) := by
      rw [(ascending_perm latencies).countP_eq]
      unfold p95Rank
      omega
    constructor
    · rintro ⟨-, hc⟩
      have hc := hcover.mp hc
      by_contra hno
      obtain ⟨hlow, hdiff⟩ := not_or.mp hno
      have hu := List.getElem?_eq_getElem hrank
      have hle : v ≤ (ascending latencies)[p95Rank latencies.length - 1] :=
        pairwise_get hsorted hv hu (by omega)
      have hlt : v < (ascending latencies)[p95Rank latencies.length - 1] := by
        refine lt_of_le_of_ne hle fun e => hdiff ?_
        rw [hu, e]
      have := countP_le hsorted hu hlt
      omega
    · rintro (hreach | htie)
      · exact ⟨hmem, hcover.mpr (by omega)⟩
      · have := lt_countP hsorted htie
        exact ⟨hmem, hcover.mpr (by omega)⟩
  · exact p95Rank_le hpos hsmall

/-- Twenty latencies, the longest first. -/
def twentyLatencies : List ℚ := (List.range 20).map fun k => 10 - k / 2

/-- Of twenty latencies the one reported is a 95th percentile. -/
theorem percentile_twenty : IsP95 twentyLatencies (p95LatencySeconds twentyLatencies) := by
  have hlength : twentyLatencies.length = 20 := by simp [twentyLatencies]
  obtain ⟨-, -, hiff, hreach⟩ := percentile_iff twentyLatencies (List.ne_nil_of_length_eq_add_one hlength)
  exact hiff.mpr (.inl ((hreach (by omega)).mpr (.inr ⟨1, hlength⟩)))

/-- Of two latencies the smaller one is reported, which half of them exceed. -/
theorem percentile_short : p95LatencySeconds [1, 2] = 1 ∧ ¬ IsP95 [1, 2] (p95LatencySeconds [1, 2]) := by
  have hsorted : ascending [1, 2] = [1, 2] := by
    refine List.Pairwise.insertionSort_eq ?_
    norm_num
  have hreport : p95LatencySeconds [1, 2] = 1 := by
    unfold p95LatencySeconds
    rw [hsorted, List.length_cons, List.length_singleton, p95Index_eq (by norm_num) (by norm_num)]
    rfl
  refine ⟨hreport, fun h => ?_⟩
  have := h.covers
  rw [hreport] at this
  norm_num at this

end AgentResilience
