/-
  AgentResilience.Cloudwatch — what `_inspect_metrics` makes of CloudWatch's answer. A plain
  statistic is a field of the datapoint, a percentile is in its `ExtendedStatistics`; the code
  looks for both among the fields, and takes what is missing for zero.

  `evidence_iff`: the error rate reported is the latest one; the latency is, if there is none
  or it is zero. `latency_lost`: a latency of 250 ms is reported as 0.
-/
import AgentResilience.AwsTools
import AgentResilience.Lib.JsonText

namespace AgentResilience

open Interaction

/-- What CloudWatch knows of a metric in one period. -/
structure Reading where
  timestamp : Timestamp
  unit : String
  value : String → Decimal

/-- The documented datapoint: the statistics asked for as fields, the extended ones in a map. -/
def Reading.datapoint (statistics extended : List String) (reading : Reading) : Datapoint where
  timestamp := reading.timestamp
  fields := statistics.map (fun name => (name, .float (reading.value name))) ++
    (if extended.isEmpty then []
      else [("ExtendedStatistics", .obj (extended.map fun name => (name, .float (reading.value name))))]) ++
    [("Unit", .str reading.unit)]

/-- CloudWatch, by the readings it returns for a metric, in any order. -/
def cloudwatch (readings : String → List Reading) : Service Call Call.Ret PyError Unit
  | .aws (.getMetricStatistics _ metric _ _ _ _ statistics extended), _, r, _ =>
    r = .ok ((readings metric).map (·.datapoint statistics extended))
  | .clock, _, r, _ => ∃ t, r = .ok t
  | _, _, _, _ => True

/-- The reading no other one is later than. -/
def IsLatest (readings : List Reading) (reading : Reading) : Prop :=
  reading ∈ readings ∧ ∀ other ∈ readings, other.timestamp ≤ reading.timestamp

/-- The number reported is the latest reading's statistic, and nothing is reported of no reading. -/
def Reports (readings : List Reading) (statistic : String) (reported : Option Decimal) : Prop :=
  (reported = none ↔ readings = []) ∧
    ∀ reading, IsLatest readings reading → ∃ d, reported = some d ∧ d.value = (reading.value statistic).value

variable {readings : List Reading} {statistic : String} {statistics extended : List String}

/-! ## The latest datapoint -/

theorem latestValue_nil : AWSOperationsBackend.latestValue statistic [] = .ok none := rfl

/-- The value taken is the latest datapoint's. -/
theorem latestValue_latest {reading : Reading} (hdistinct : (readings.map (·.timestamp)).Nodup) (hlatest : IsLatest readings reading) :
    AWSOperationsBackend.latestValue statistic (readings.map (·.datapoint statistics extended)) =
      (AWSOperationsBackend.toFloat (((reading.datapoint statistics extended).fields.get? statistic).getD
        (((reading.datapoint statistics extended).fields.get? "Average").getD (.int 0)))).map some := by
  obtain ⟨hmem, hmax⟩ := hlatest
  have hpoint : (readings.map (·.datapoint statistics extended)).argmax (·.timestamp) = some (reading.datapoint statistics extended) := by
    cases h : (readings.map (·.datapoint statistics extended)).argmax (·.timestamp) with
    | none =>
      rw [List.argmax_eq_none, List.map_eq_nil_iff] at h
      rw [h] at hmem
      cases hmem
    | some point =>
      obtain ⟨other, hother, rfl⟩ := List.mem_map.mp (List.argmax_mem h)
      have hle : reading.timestamp ≤ other.timestamp :=
        Int.not_lt.mp (List.not_lt_of_mem_argmax (f := fun point : Datapoint => point.timestamp) (List.mem_map_of_mem hmem) h)
      rw [List.inj_on_of_nodup_map hdistinct hother hmem (le_antisymm (hmax other hother) hle)]
  unfold AWSOperationsBackend.latestValue
  rw [hpoint]

theorem latest_exists (hne : readings ≠ []) : ∃ reading, IsLatest readings reading := by
  cases h : readings.argmax (·.timestamp) with
  | none => exact absurd (List.argmax_eq_none.mp h) hne
  | some reading =>
    exact ⟨reading, List.argmax_mem h, fun other hother => Int.not_lt.mp (List.not_lt_of_mem_argmax hother h)⟩

/-- A statistic that is a field of the datapoints is reported. -/
theorem latestValue_average (hdistinct : (readings.map (·.timestamp)).Nodup) :
    ∃ reported, AWSOperationsBackend.latestValue "Average" (readings.map (·.datapoint ["Average"] [])) = .ok reported ∧
      Reports readings "Average" reported := by
  by_cases hne : readings = []
  · subst hne
    exact ⟨none, latestValue_nil, by simp, fun reading h => absurd h.1 List.not_mem_nil⟩
  · obtain ⟨reading, hlatest⟩ := latest_exists hne
    refine ⟨some (reading.value "Average"), latestValue_latest hdistinct hlatest, by simp [hne], fun other hother => ?_⟩
    have hsame := List.inj_on_of_nodup_map hdistinct hother.1 hlatest.1 (le_antisymm (hlatest.2 other hother.1) (hother.2 reading hlatest.1))
    exact ⟨_, rfl, by rw [hsame]⟩

/-- Of a percentile zero is reported. -/
theorem latestValue_p95 (hdistinct : (readings.map (·.timestamp)).Nodup) :
    ∃ reported, AWSOperationsBackend.latestValue "p95" (readings.map (·.datapoint [] ["p95"])) = .ok reported ∧
      (Reports readings "p95" reported ↔ ∀ reading, IsLatest readings reading → (reading.value "p95").value = 0) := by
  by_cases hne : readings = []
  · subst hne
    refine ⟨none, latestValue_nil, fun _ reading h => absurd h.1 List.not_mem_nil, fun _ => ⟨by simp, ?_⟩⟩
    exact fun reading h => absurd h.1 List.not_mem_nil
  · obtain ⟨reading, hlatest⟩ := latest_exists hne
    have hzero : Decimal.value ⟨false, 0, 0⟩ = 0 := by simp [Decimal.value]
    refine ⟨some ⟨false, 0, 0⟩, latestValue_latest hdistinct hlatest, fun h other hother => ?_, fun h => ⟨by simp [hne], ?_⟩⟩
    · obtain ⟨d, hd, hvalue⟩ := h.2 other hother
      cases hd
      rw [← hvalue, hzero]
    · intro other hother
      exact ⟨_, rfl, by rw [hzero, h other hother]⟩

/-! ## The two metrics -/

theorem metricValue_wp {config : AwsConfig} {readings : String → List Reading} {dimensions : List (String × String)} {start stop : Timestamp}
    {metric : String} {reported : Option Decimal} {Q : Except PyError (Option Decimal) → Unit → Prop} (extended : Bool)
    (hextended : statistic.startsWith "p" = extended)
    (h : AWSOperationsBackend.latestValue statistic ((readings metric).map (·.datapoint
      (if extended then [] else [statistic]) (if extended then [statistic] else []))) = .ok reported)
    (hQ : ∀ u, Q (.ok reported) u) :
    wp (cloudwatch readings) (AWSOperationsBackend.metricValue config dimensions start stop metric statistic) Q () := by
  subst hextended
  refine wp_bind.mpr (wp_perform.mpr fun r u hr => ?_)
  have hr : r = .ok _ := hr
  subst hr
  show wp _ (Prog.ofExcept (AWSOperationsBackend.latestValue statistic _)) Q u
  rw [h]
  exact hQ u

/-- The evidence is what the two metrics' datapoints give. -/
theorem inspectMetrics_runs {config : AwsConfig} {arguments : Arguments} {readings : String → List Reading} {errorRate latency : Option Decimal}
    (herror : AWSOperationsBackend.latestValue "Average" ((readings "ErrorRate").map (·.datapoint ["Average"] [])) = .ok errorRate)
    (hlatency : AWSOperationsBackend.latestValue "p95" ((readings "Latency").map (·.datapoint [] ["p95"])) = .ok latency)
    {o : Except PyError AWSOperationsBackend.Metrics} {u : Unit}
    (hr : Runs (cloudwatch readings) (AWSOperationsBackend.inspectMetrics config arguments) () o u) :
    ∃ service environment, o = .ok ⟨service, environment, errorRate, latency⟩ := by
  refine wp_sound (Q := fun o _ => ∃ service environment, o = .ok ⟨service, environment, errorRate, latency⟩) ?_ hr
  refine wp_bind.mpr (wp_perform.mpr fun r u hclock => ?_)
  obtain ⟨t, rfl⟩ := hclock
  refine wp_bind.mpr (metricValue_wp false (by decide +kernel) herror fun _ => ?_)
  refine wp_bind.mpr (metricValue_wp true (by decide +kernel) hlatency fun _ => ?_)
  exact ⟨_, _, rfl⟩

/-- The evidence reported is CloudWatch's exactly if the latest p95 is zero, or there is none: the
    error rate always is, the latency is taken for zero. -/
theorem evidence_iff (config : AwsConfig) (arguments : Arguments) (readings : String → List Reading)
    (herrors : ((readings "ErrorRate").map (·.timestamp)).Nodup) (hlatencies : ((readings "Latency").map (·.timestamp)).Nodup)
    {o : Except PyError AWSOperationsBackend.Metrics} {u : Unit}
    (hr : Runs (cloudwatch readings) (AWSOperationsBackend.inspectMetrics config arguments) () o u) :
    ∃ metrics, o = .ok metrics ∧ Reports (readings "ErrorRate") "Average" metrics.errorRate ∧
      (Reports (readings "ErrorRate") "Average" metrics.errorRate ∧ Reports (readings "Latency") "p95" metrics.latency ↔
        ∀ reading, IsLatest (readings "Latency") reading → (reading.value "p95").value = 0) := by
  obtain ⟨errorRate, herror, hreports⟩ := latestValue_average herrors
  obtain ⟨latency, hlatency, hiff⟩ := latestValue_p95 hlatencies
  obtain ⟨service, environment, rfl⟩ := inspectMetrics_runs herror hlatency hr
  exact ⟨_, rfl, hreports, fun h => hiff.mp h.2, fun h => ⟨hreports, hiff.mpr h⟩⟩

/-! ## A latency that is lost -/

/-- One reading of each metric: an error rate of half a percent, a latency of `ms`. -/
def singleReading (ms : Nat) (metric : String) : List Reading :=
  [{ timestamp := 0
     unit := if metric = "Latency" then "Milliseconds" else "Percent"
     value := fun _ => if metric = "Latency" then ⟨false, ms, 0⟩ else ⟨false, 5, -1⟩ }]

theorem cloudwatch_answers (readings : String → List Reading) (c : Call) (u : Unit) : ∃ r u', cloudwatch readings c u r u' := by
  cases c with
  | aws c =>
    cases c with
    | getMetricStatistics => exact ⟨_, u, rfl⟩
    | _ => exact ⟨.error (.other ""), u, trivial⟩
  | clock => exact ⟨.ok 0, u, 0, rfl⟩
  | _ => exact ⟨.error (.other ""), u, trivial⟩

/-- A reading of 250 ms and half a percent, and after it one of `ms` and two and a half percent, listed first. -/
def laterReading (ms : Nat) (metric : String) : List Reading :=
  { timestamp := 60000000
    unit := if metric = "Latency" then "Milliseconds" else "Percent"
    value := fun _ => if metric = "Latency" then ⟨false, ms, 0⟩ else ⟨false, 25, -1⟩ } :: singleReading 250 metric

theorem laterReading_distinct (ms : Nat) (metric : String) : ((laterReading ms metric).map (·.timestamp)).Nodup := by
  simp [laterReading, singleReading]

/-- The later reading is the latest. -/
theorem laterReading_latest {ms : Nat} {metric : String} {reading : Reading} (h : IsLatest (laterReading ms metric) reading) :
    reading = (laterReading ms metric).head (by simp [laterReading]) := by
  obtain ⟨hmem, hmax⟩ := h
  rcases List.mem_cons.mp hmem with rfl | hmem
  · rfl
  · obtain rfl := List.mem_singleton.mp hmem
    have hle : (60000000 : Timestamp) ≤ 0 := hmax _ List.mem_cons_self
    exact absurd hle (by decide)

/-- An error rate of two and a half percent is reported, and a latency that has fallen to zero. -/
theorem evidence_fallen : ∃ metrics u rate, Runs (cloudwatch (laterReading 0)) (AWSOperationsBackend.inspectMetrics {} []) () (.ok metrics) u ∧
    metrics.errorRate = some rate ∧ rate.value = 5 / 2 ∧ Reports (laterReading 0 "Latency") "p95" metrics.latency := by
  obtain ⟨o, u, hr⟩ := runs_exists (cloudwatch_answers (laterReading 0)) (AWSOperationsBackend.inspectMetrics {} []) ()
  obtain ⟨metrics, rfl, -, hiff⟩ :=
    evidence_iff {} [] (laterReading 0) (laterReading_distinct 0 _) (laterReading_distinct 0 _) hr
  obtain ⟨hrate, hlatency⟩ := hiff.mpr fun reading h => by
    rw [laterReading_latest h]
    simp [laterReading, Decimal.value]
  obtain ⟨reading, hlatest⟩ : ∃ reading, IsLatest (laterReading 0 "ErrorRate") reading := latest_exists (by simp [laterReading])
  obtain ⟨rate, hsome, hvalue⟩ := hrate.2 reading hlatest
  refine ⟨metrics, u, rate, hr, hsome, ?_, hlatency⟩
  rw [hvalue, laterReading_latest hlatest]
  simp only [laterReading, List.head_cons, if_neg (show "ErrorRate" ≠ "Latency" by decide), Decimal.value]
  norm_num

theorem singleReading_error : AWSOperationsBackend.latestValue "Average" ((singleReading 250 "ErrorRate").map (·.datapoint ["Average"] [])) =
    .ok (some ⟨false, 5, -1⟩) := rfl

theorem singleReading_latency : AWSOperationsBackend.latestValue "p95" ((singleReading 250 "Latency").map (·.datapoint [] ["p95"])) =
    .ok (some ⟨false, 0, 0⟩) := rfl

/-- One of 250 ms is not. -/
theorem latency_lost : ∃ metrics u, Runs (cloudwatch (singleReading 250)) (AWSOperationsBackend.inspectMetrics {} []) () (.ok metrics) u ∧
    metrics.latency = some ⟨false, 0, 0⟩ ∧ ¬ Reports (singleReading 250 "Latency") "p95" metrics.latency := by
  obtain ⟨o, u, hr⟩ := runs_exists (cloudwatch_answers (singleReading 250)) (AWSOperationsBackend.inspectMetrics {} []) ()
  obtain ⟨service, environment, rfl⟩ := inspectMetrics_runs singleReading_error singleReading_latency hr
  refine ⟨_, u, hr, rfl, fun h => ?_⟩
  obtain ⟨d, hd, hvalue⟩ := h.2 _ ⟨List.mem_singleton_self _, fun other hother => by rw [List.mem_singleton.mp hother]⟩
  cases hd
  simp [Decimal.value] at hvalue

end AgentResilience
