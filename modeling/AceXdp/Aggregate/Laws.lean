import AceXdp.Aggregate.Runs
import AceXdp.Lib.Checked

/-!
# AceXdp — the laws of the aggregation

* `validateRuns_perm`: the order in which the runs are given does not matter;
* `loadJoinedRows_eq_ok`: what a reading of a joined file returns, for all flows and for one;
* `aggregationOf_aggregateRuns`: what a result of `aggregate_runs` is made of, where it returns;
* `flowsOf_aggregateByFlow`: the flow-by-flow result is the aggregation of the rows of each flow;
* `NoOverflow.aggregateRuns`: an `OverflowError` is the only way to fail;
* `aggregation_laws`: all of it together.
-/

namespace AceXdp

open Csv Decimal Disk Checked Rank
open Json (Str)

namespace Aggregate

variable {κ : Type}

/-! ## The order of the runs

The runs are sorted before anything is computed, and every check on them is symmetric. So the result
does not depend on the order in which they were given. -/

/-- The sort of `validate_runs`. -/
def sortRuns (runs : List (RunData κ)) : List (RunData κ) :=
  runs.mergeSort fun a b => a.runId ≤ b.runId

theorem sortRuns_perm (runs : List (RunData κ)) : (sortRuns runs).Perm runs :=
  List.mergeSort_perm _ _

/-- With distinct identifiers there is one order by identifier. -/
theorem sortRuns_eq_of_perm {runs runs' : List (RunData κ)} (hids : (runs.map RunData.runId).Nodup)
    (hperm : runs.Perm runs') : sortRuns runs = sortRuns runs' := by
  have hsorted (l : List (RunData κ)) :
      (sortRuns l).Pairwise fun a b => decide (a.runId ≤ b.runId) = true :=
    List.pairwise_mergeSort
      (fun a b c hab hbc => by
        rw [decide_eq_true_eq] at hab hbc ⊢
        exact le_trans hab hbc)
      (fun a b => by simpa using le_total a.runId b.runId) l
  refine List.Perm.eq_of_pairwise ?_ (hsorted runs) (hsorted runs')
    ((sortRuns_perm runs).trans (hperm.trans (sortRuns_perm runs').symm))
  intro a b ha hb hab hba
  rw [decide_eq_true_eq] at hab hba
  have hmem := (sortRuns_perm runs).mem_iff.mp ha
  have hmem' := hperm.mem_iff.mpr ((sortRuns_perm runs').mem_iff.mp hb)
  exact List.inj_on_of_nodup_map hids hmem hmem' (le_antisymm hab hba)

section Cohort

variable [BEq κ]

/-- Two runs with equal conditions. -/
structure SameCohort (a b : RunData κ) : Prop where
  parameters : (a.parameters == b.parameters) = true
  cohortIdentity : (a.cohortIdentity == b.cohortIdentity) = true
  analysisPolicy : (a.analysisPolicy == b.analysisPolicy) = true

/-- The check against the first run. -/
theorem checkCohort_eq_ok {first : RunData κ} {runs : List (RunData κ)} :
    checkCohort first runs = .ok () ↔ ∀ run ∈ runs, SameCohort run first := by
  induction runs with
  | nil => simp [checkCohort]
  | cons run rest ih =>
    rw [List.forall_mem_cons, ← ih, checkCohort]
    constructor
    · intro h
      split at h <;> try cases h
      split at h <;> try cases h
      split at h <;> try cases h
      rename_i hparameters hidentity hpolicy
      exact ⟨⟨by simpa [bne] using hparameters, by simpa [bne] using hidentity,
        by simpa [bne] using hpolicy⟩, h⟩
    · rintro ⟨⟨hparameters, hidentity, hpolicy⟩, hrest⟩
      simpa [bne, hparameters, hidentity, hpolicy] using hrest

/-- What `validate_runs` asks for, without a first run. -/
structure Compatible (runs : List (RunData κ)) : Prop where
  enough : 2 ≤ runs.length
  ids : (runs.map RunData.runId).Nodup
  artifacts : (runs.flatMap RunData.artifactPaths).Nodup
  cohort : ∀ a ∈ runs, ∀ b ∈ runs, SameCohort a b

/-- The requirements do not mention an order. -/
theorem Compatible.perm {runs runs' : List (RunData κ)} (h : Compatible runs)
    (hperm : runs.Perm runs') : Compatible runs' where
  enough := hperm.length_eq ▸ h.enough
  ids := (hperm.map _).nodup_iff.mp h.ids
  artifacts := (hperm.flatMap_right _).nodup_iff.mp h.artifacts
  cohort := fun a ha b hb => h.cohort a (hperm.mem_iff.mpr ha) b (hperm.mem_iff.mpr hb)

/-- Equality of decoded objects is an equivalence, but `1` and `1.0` are equal. -/
theorem SameCohort.of_first [EquivBEq κ] {a b first : RunData κ} (ha : SameCohort a first)
    (hb : SameCohort b first) : SameCohort a b :=
  ⟨BEq.trans ha.parameters (BEq.symm hb.parameters),
    BEq.trans ha.cohortIdentity (BEq.symm hb.cohortIdentity),
    BEq.trans ha.analysisPolicy (BEq.symm hb.analysisPolicy)⟩

variable [EquivBEq κ]

/-- What is accepted, and what comes out. -/
theorem validateRuns_eq_ok {runs sortedRuns : List (RunData κ)} :
    validateRuns runs = .ok sortedRuns ↔ Compatible runs ∧ sortedRuns = sortRuns runs := by
  match runs with
  | [] =>
    refine ⟨(by intro h; cases h), fun h => ?_⟩
    exact absurd h.1.enough (by simp)
  | [a] =>
    refine ⟨(by intro h; cases h), fun h => ?_⟩
    exact absurd h.1.enough (by simp)
  | first :: second :: rest =>
    constructor
    · intro h
      rw [validateRuns] at h
      split at h <;> try cases h
      split at h <;> try cases h
      rename_i hids hartifacts
      obtain ⟨_, hcheck, hsort⟩ := bind_eq_ok.mp h
      have hcohort := checkCohort_eq_ok.mp hcheck
      have hfirst : ∀ run ∈ first :: second :: rest, SameCohort run first := by
        intro run hrun
        rcases List.mem_cons.mp hrun with rfl | hrun
        · exact ⟨BEq.rfl, BEq.rfl, BEq.rfl⟩
        · exact hcohort run hrun
      refine ⟨⟨by simp, not_not.mp hids, not_not.mp hartifacts, fun a ha b hb => ?_⟩,
        (Except.ok.inj hsort).symm⟩
      exact (hfirst a ha).of_first (hfirst b hb)
    · rintro ⟨hcompatible, rfl⟩
      have hcheck := checkCohort_eq_ok.mpr fun run hrun =>
        hcompatible.cohort run (List.mem_cons_of_mem _ hrun) first List.mem_cons_self
      rw [validateRuns, if_neg (not_not.mpr hcompatible.ids),
        if_neg (not_not.mpr hcompatible.artifacts), bind_ok hcheck]
      rfl

/-- Another order gives the same runs. -/
theorem validateRuns_perm {runs runs' sortedRuns : List (RunData κ)} (hperm : runs.Perm runs')
    (h : validateRuns runs = .ok sortedRuns) : validateRuns runs' = .ok sortedRuns := by
  obtain ⟨hcompatible, rfl⟩ := validateRuns_eq_ok.mp h
  exact validateRuns_eq_ok.mpr
    ⟨hcompatible.perm hperm, sortRuns_eq_of_perm hcompatible.ids hperm⟩

end Cohort

/-! ## Statistics of a sample

The mean may raise; whatever statistics come back count the sample and hold its percentiles. -/

/-- The three percentiles that are reported. -/
inductive Reported where
  | p50 | p95 | p99
  deriving DecidableEq, Repr

/-- The percentile of a reported one. -/
def Reported.percentile : Reported → Nat
  | .p50 => 50
  | .p95 => 95
  | .p99 => 99

variable {F : Type}

/-- What the statistics hold for it. -/
def MetricStatistics.reported (statistics : MetricStatistics F) : Reported → Option Int
  | .p50 => statistics.p50Ns
  | .p95 => statistics.p95Ns
  | .p99 => statistics.p99Ns

/-- The percentile of a sample. -/
def reportedOf (round : ℚ → ℚ) (p : Reported) (values : List Int) : Option Int :=
  AceXdp.percentileNearestRank round (sorted values) p.percentile

/-- What statistics say of a sample, the mean aside. -/
structure Describes (fp : Floating F) (values : List Int) (deadlineNs : Option Int)
    (statistics : MetricStatistics F) : Prop where
  count : statistics.count = values.length
  negativeCount : statistics.negativeCount = values.countP (· < 0)
  deadlineMissCount : statistics.deadlineMissCount
    = deadlineNs.map fun deadline => values.countP (deadline < ·)
  reported : ∀ p, statistics.reported p = reportedOf fp.round p values

/-- Statistics that come back count the sample and hold its percentiles. -/
theorem metricStatistics_describes {fp : Floating F} {values : List Int} {deadlineNs : Option Int}
    {statistics : MetricStatistics F} (h : metricStatistics fp values deadlineNs = some statistics) :
    Describes fp values deadlineNs statistics := by
  obtain ⟨mean, -, h⟩ := Option.bind_eq_some_iff.mp h
  obtain rfl := Option.some.inj h
  refine ⟨length_sorted values, (sorted_perm values).countP_eq _, ?_, fun p => ?_⟩
  · cases deadlineNs with
    | none => rfl
    | some deadline => exact congrArg some ((sorted_perm values).countP_eq _)
  · cases p <;> exact aggregate_percentileNearestRank_eq _ _ _

section Percentile

variable {round : ℚ → ℚ} {values : List Int}

theorem reportedOf_nil (p : Reported) : reportedOf round p [] = none := by
  simp [reportedOf, AceXdp.percentileNearestRank, sorted]

variable (hindex : ∀ (p : Reported) n, ExactIndex round p.percentile n)
include hindex

/-- Of anything else it is a nearest-rank percentile. -/
theorem reportedOf_isPercentile (hne : values ≠ []) (p : Reported) :
    ∃ r, reportedOf round p values = some r ∧ IsPercentile p.percentile values r :=
  percentileNearestRank_isPercentile hne (by cases p <;> decide) (by cases p <;> decide)
    (hindex p _)

/-- So it is reported exactly when there is a value. -/
theorem reportedOf_isSome_iff (p : Reported) :
    (reportedOf round p values).isSome ↔ values ≠ [] := by
  constructor
  · rintro h rfl
    rw [reportedOf_nil] at h
    cases h
  · intro hne
    obtain ⟨r, hr, -⟩ := reportedOf_isPercentile hindex hne p
    rw [hr]
    rfl

/-- The percentile of the pooled packets lies between those of the runs that have any. -/
theorem reportedOf_pooled {samples : List (List Int)} {p : Reported} {r : Int}
    (h : reportedOf round p samples.flatten = some r) :
    (∃ values ∈ samples, ∃ low, reportedOf round p values = some low ∧ low ≤ r)
    ∧ ∃ values ∈ samples, ∃ high, reportedOf round p values = some high ∧ r ≤ high := by
  have hne := (reportedOf_isSome_iff hindex p).mp (Option.isSome_of_eq_some h)
  obtain ⟨r', hr', hpooled⟩ := reportedOf_isPercentile hindex hne p
  obtain rfl : r' = r := Option.some.inj (hr'.symm.trans h)
  have heach : ∀ values ∈ samples, values ≠ [] → IsPercentile p.percentile values
      ((reportedOf round p values).getD 0) := by
    intro values _ hne
    obtain ⟨s, hs, hrank⟩ := reportedOf_isPercentile hindex hne p
    rwa [hs]
  have hsome : ∀ values : List Int, values ≠ [] →
      reportedOf round p values = some ((reportedOf round p values).getD 0) := by
    intro values hne
    obtain ⟨s, hs, -⟩ := reportedOf_isPercentile hindex hne p
    rw [hs]
    rfl
  obtain ⟨low, hlow, hlowne, hle⟩ := hpooled.exists_le heach
  obtain ⟨high, hhigh, hhighne, hge⟩ := hpooled.exists_ge heach
  exact ⟨⟨low, hlow, _, hsome low hlowne, hle⟩, ⟨high, hhigh, _, hsome high hhighne, hge⟩⟩

end Percentile

/-! ## What an aggregation holds

`aggregate_runs` raises or returns; where it returns, `AggregationOf` says what each part of the
result is made of. Everything behind this section is proved from that. -/

section Pooled

variable {fp : Floating F} {runs : List (RunData κ)} {deadlineNs : Option Int}

/-- The samples of the runs. -/
def samples (runs : List (RunData κ)) (metric : Metric) : List (List Int) :=
  runs.map fun run => run.metricValues metric

/-- Counting in the pooled sample is counting in each run. -/
theorem countP_flatten_samples (runs : List (RunData κ)) (metric : Metric) (p : Int → Bool) :
    (samples runs metric).flatten.countP p
      = (runs.map fun run => (run.metricValues metric).countP p).sum := by
  rw [List.countP_flatten, samples, List.map_map]
  rfl

/-- The summary is that of the run. -/
structure SummaryOf (fp : Floating F) (deadlineNs : Option Int) (run : RunData κ)
    (summary : RunSummary κ F) : Prop where
  runId : summary.runId = run.runId
  joinedRows : summary.joinedRows = run.joinedRows
  metrics : ∀ metric, Describes fp (run.metricValues metric) deadlineNs (summary.metrics metric)

/-- The parts of a result, each with what it describes. -/
structure AggregationOf (fp : Floating F) (runs : List (RunData κ)) (deadlineNs : Option Int)
    (a : Aggregation κ F) : Prop where
  deadline : a.deadlineNs = deadlineNs
  summaries : List.Forall₂ (SummaryOf fp deadlineNs) runs a.runs
  packetLevel : ∀ metric,
    Describes fp (samples runs metric).flatten deadlineNs (a.metrics metric).packetLevel
  totalCount : ∀ metric, (a.metrics metric).runLevel.totalCount = runs.length
  withSamplesCount : ∀ metric, (a.metrics metric).runLevel.withSamplesCount
    = runs.countP fun run => run.metricValues metric ≠ []
  withDeadlineMissCount : ∀ metric, (a.metrics metric).runLevel.withDeadlineMissCount
    = withMisses runs a.runs deadlineNs metric

/-- The statistics of all metrics are those of each. -/
theorem mapM_metrics_eq_some {α : Type} {f : Metric → Option α} {g : Metric → α} :
    Metric.mapM f = some g ↔ ∀ metric, f metric = some (g metric) := by
  simp only [Metric.mapM, Option.bind_eq_bind, Option.bind_eq_some_iff, Option.pure_def, Option.some.injEq]
  constructor
  · rintro ⟨a, ha, b, hb, c, hc, d, hd, e, he, rfl⟩ metric
    cases metric with
    | xdpHw => exact ha
    | cpumapXdp => exact hb
    | userCpumap => exact hc
    | userXdp => exact hd
    | userHw => exact he
  · intro h
    refine ⟨_, h _, _, h _, _, h _, _, h _, _, h _, ?_⟩
    funext metric
    cases metric <;> rfl

theorem summaryOf_runSummary {run : RunData κ} {summary : RunSummary κ F}
    (h : runSummary fp run deadlineNs = some summary) : SummaryOf fp deadlineNs run summary := by
  obtain ⟨metrics, hmetrics, h⟩ := Option.bind_eq_some_iff.mp h
  obtain rfl := Option.some.inj h
  exact ⟨rfl, rfl, fun metric => metricStatistics_describes (mapM_metrics_eq_some.mp hmetrics metric)⟩

/-- One turn of the loop over the metrics. -/
theorem aggregateMetric_eq_some {summaries : List (RunSummary κ F)} {metric : Metric}
    {m : AggregatedMetric F} (h : aggregateMetric fp runs summaries deadlineNs metric = some m) :
    Describes fp (samples runs metric).flatten deadlineNs m.packetLevel
      ∧ m.runLevel.totalCount = runs.length
      ∧ m.runLevel.withSamplesCount = (runs.countP fun run => run.metricValues metric ≠ [])
      ∧ m.runLevel.withDeadlineMissCount = withMisses runs summaries deadlineNs metric := by
  obtain ⟨packetLevel, hpacketLevel, h⟩ := Option.bind_eq_some_iff.mp h
  obtain ⟨level, hlevel, h⟩ := Option.bind_eq_some_iff.mp h
  obtain rfl := Option.some.inj h
  obtain ⟨estimates, -, hlevel⟩ := Option.bind_eq_some_iff.mp hlevel
  obtain rfl := Option.some.inj hlevel
  rw [List.flatMap_def] at hpacketLevel
  exact ⟨metricStatistics_describes hpacketLevel, rfl, rfl, rfl⟩

/-- What `aggregate_runs` returns is made of these parts. -/
theorem aggregationOf_aggregateRuns {a : Aggregation κ F}
    (h : aggregateRuns fp runs deadlineNs = some a) : AggregationOf fp runs deadlineNs a := by
  obtain ⟨summaries, hsummaries, h⟩ := Option.bind_eq_some_iff.mp h
  obtain ⟨metrics, hmetrics, h⟩ := Option.bind_eq_some_iff.mp h
  obtain rfl := Option.some.inj h
  have hmetric := fun metric => aggregateMetric_eq_some (mapM_metrics_eq_some.mp hmetrics metric)
  exact ⟨rfl, (mapM_eq_some.mp hsummaries).imp fun _ _ => summaryOf_runSummary,
    fun metric => (hmetric metric).1, fun metric => (hmetric metric).2.1,
    fun metric => (hmetric metric).2.2.1, fun metric => (hmetric metric).2.2.2⟩

/-- Where the identifiers differ, the table of the run statistics holds those of each run. -/
theorem perRunStatistics_describes {summaries : List (RunSummary κ F)}
    (hids : (runs.map RunData.runId).Nodup)
    (hruns : List.Forall₂ (SummaryOf fp deadlineNs) runs summaries) {run : RunData κ}
    (hrun : run ∈ runs) :
    ∃ metrics, perRunStatistics summaries run.runId = some metrics
      ∧ ∀ metric, Describes fp (run.metricValues metric) deadlineNs (metrics metric) := by
  obtain ⟨i, hi⟩ := List.getElem?_of_mem hrun
  obtain ⟨summary, hsummary, hof⟩ := getElem?_of_forall₂ hruns.flip hi
  have hsameIds : summaries.map RunSummary.runId = runs.map RunData.runId :=
    map_eq_of_forall₂ hruns fun _ _ h => h.runId
  refine ⟨summary.metrics, ?_, hof.metrics⟩
  rw [← hof.runId]
  refine lookup_of_mem (p := (summary.runId, summary.metrics)) ?_ ?_
  · rw [List.map_map, List.map_reverse]
    refine List.nodup_reverse.mpr ?_
    show (summaries.map RunSummary.runId).Nodup
    rwa [hsameIds]
  · exact List.mem_map_of_mem (List.mem_reverse.mpr (List.mem_of_getElem? hsummary))

/-- A run that missed a deadline has a sample. -/
theorem withMisses_le {summaries : List (RunSummary κ F)} (hids : (runs.map RunData.runId).Nodup)
    (hruns : List.Forall₂ (SummaryOf fp deadlineNs) runs summaries) {metric : Metric} {missed : Nat}
    (h : withMisses runs summaries deadlineNs metric = some missed) :
    missed ≤ runs.countP fun run => run.metricValues metric ≠ [] := by
  cases deadlineNs with
  | none => cases h
  | some deadline =>
    obtain rfl := Option.some.inj h
    refine List.countP_mono_left fun run hrun hmissed => ?_
    obtain ⟨metrics, hmetrics, hdescribes⟩ := perRunStatistics_describes hids hruns hrun
    rw [hmetrics, Option.any_some, (hdescribes metric).deadlineMissCount, Option.map_some,
      Option.any_some, decide_eq_true_eq] at hmissed
    rw [decide_eq_true_eq]
    intro hnil
    rw [hnil] at hmissed
    cases hmissed

end Pooled

/-! ## The second reading of a joined file

The flow-by-flow result reads the joined files again. A file that parsed once gives the same
records, so selecting the records of a flow commutes with loading. -/

section Reading

/-- A record of the joined file: its key and the metrics that are not empty. -/
abbrev ParsedRow := Key × (Metric → Option Int)

/-- The records of the file parse and no key occurs twice. -/
inductive Parsed (names : List Text) : Nat → List Key → List (List Text) → List ParsedRow → Prop
  | nil {number keys} : Parsed names number keys [] []
  | cons {number keys row rest key metrics parsed} :
      ¬names.length < row.length → joinedKey names row number = .ok key → key ∉ keys →
      rowMetrics names row number = .ok metrics →
      Parsed names (number + 1) (key :: keys) rest parsed →
      Parsed names number keys (row :: rest) ((key, metrics) :: parsed)

/-- What a list of records contributes. -/
def JoinedMetrics.addAll (acc : JoinedMetrics) (parsed : List ParsedRow) : JoinedMetrics :=
  ⟨acc.rowCount + parsed.length,
    fun metric => acc.values metric ++ parsed.filterMap fun row => row.2 metric⟩

theorem addAll_cons (acc : JoinedMetrics) (row : ParsedRow) (parsed : List ParsedRow) :
    acc.addAll (row :: parsed) = (acc.add row.2).addAll parsed := by
  rw [JoinedMetrics.addAll, JoinedMetrics.addAll, JoinedMetrics.add]
  congr 1
  · rw [List.length_cons, Nat.add_assoc, Nat.add_comm 1]
  · funext metric
    rw [List.append_assoc, List.filterMap_cons]
    cases row.2 metric <;> rfl

variable {names : List Text}

/-- The reading of every flow is the one that parses every record. Induction on the records. -/
theorem exists_parsed {number : Nat} {keys : List Key} {acc result : JoinedMetrics}
    {rows : List (List Text)} (h : loadJoinedRows names none number keys acc rows = .ok result) :
    ∃ parsed, Parsed names number keys rows parsed ∧ result = acc.addAll parsed := by
  induction rows generalizing number keys acc with
  | nil =>
    obtain rfl := Except.ok.inj h
    exact ⟨[], .nil, by simp [JoinedMetrics.addAll]⟩
  | cons row rest ih =>
    rw [loadJoinedRows] at h
    split at h <;> try cases h
    rename_i hlength
    obtain ⟨key, hkey, h⟩ := bind_eq_ok.mp h
    split at h <;> try cases h
    rename_i hnew
    obtain ⟨metrics, hmetrics, h⟩ := bind_eq_ok.mp h
    obtain ⟨parsed, hparsed, rfl⟩ := ih h
    exact ⟨_, .cons hlength hkey hnew hmetrics hparsed, (addAll_cons acc (key, metrics) parsed).symm⟩

/-- A reading of one flow keeps the records of that flow. -/
theorem loadJoinedRows_of_parsed (flowId : Int) {number : Nat} {keys : List Key}
    {rows : List (List Text)} {parsed : List ParsedRow} (h : Parsed names number keys rows parsed)
    (acc : JoinedMetrics) :
    loadJoinedRows names (some flowId) number keys acc rows
      = .ok (acc.addAll (parsed.filter fun row => row.1.1 = flowId)) := by
  induction h generalizing acc with
  | nil => simp [loadJoinedRows, JoinedMetrics.addAll]
  | @cons number keys row rest key metrics parsed hlength hkey hnew hmetrics _ ih =>
    rw [loadJoinedRows, if_neg hlength, bind_ok hkey, if_neg hnew]
    by_cases hflow : key.1 = flowId
    · have hkeep : ¬(some flowId).any (key.1 ≠ ·) = true := by simp [hflow]
      rw [if_neg hkeep, bind_ok hmetrics, ih, List.filter_cons_of_pos (by simpa using hflow),
        addAll_cons]
    · have hskip : (some flowId).any (key.1 ≠ ·) = true := by simpa using hflow
      rw [if_pos hskip, ih, List.filter_cons_of_neg (by simpa using hflow)]

/-- The key of a record begins with its flow. -/
theorem flowId_of_joinedKey {row : List Text} {number : Nat} {key : Key}
    (h : joinedKey names row number = .ok key) :
    (cell names row "flow_id".toList).bind readInt = some key.1 := by
  rw [joinedKey] at h
  obtain ⟨flowId, hflowId, h⟩ := bind_eq_ok.mp h
  obtain ⟨sequence, -, h⟩ := bind_eq_ok.mp h
  split at h <;> try cases h
  split at h <;> try cases h
  unfold parseCsvInteger at hflowId
  split at hflowId <;> try cases hflowId
  rename_i text hcell
  split at hflowId <;> try cases hflowId
  split at hflowId <;> cases hflowId
  rename_i hread
  rw [hcell, Option.bind_some, hread]

/-- `run_flow_ids` finds the flows of the records. -/
theorem mapM_flowId_of_parsed {number : Nat} {keys : List Key} {rows : List (List Text)}
    {parsed : List ParsedRow} (h : Parsed names number keys rows parsed) :
    (rows.mapM fun row =>
      match (cell names row "flow_id".toList).bind readInt with
      | some flowId => (.ok flowId : Loaded Int)
      | none => .error .flowIdUnreadable) = .ok (parsed.map fun row => row.1.1) := by
  rw [mapM_eq_ok, List.forall₂_map_right_iff]
  induction h with
  | nil => exact .nil
  | cons _ hkey _ _ _ ih => exact .cons (by rw [flowId_of_joinedKey hkey]) ih

end Reading

/-! ## Loaded runs

A run holds the metric values of its records; `RecordsOf` gives the records back. -/

section ByFlow

variable (files : JoinedFiles)

/-- What `load_run` put into the run is what its joined file still holds. -/
def RunData.LoadedFrom (run : RunData κ) : Prop :=
  ∃ text, files run.joinedPath = some text
    ∧ loadJoinedMetrics text none = .ok ⟨run.joinedRows, run.metricValues⟩

/-- The run with some of its records only. -/
def RunData.restrict (run : RunData κ) (parsed : List ParsedRow) : RunData κ :=
  { run with
    joinedRows := parsed.length
    metricValues := fun metric => parsed.filterMap fun row => row.2 metric }

/-- The records behind a run, and what the second reading makes of them. -/
structure RecordsOf (run : RunData κ) (parsed : List ParsedRow) : Prop where
  whole : run.restrict parsed = run
  flowIds : runFlowIds files run = .ok (parsed.map fun row => row.1.1)
  select : ∀ flowId,
    selectFlow files run flowId = .ok (run.restrict (parsed.filter fun row => row.1.1 = flowId))

theorem joinedHeader_eq_ok {fieldnames : Option (List Text)} {names : List Text}
    (h : joinedHeader fieldnames = .ok names) : fieldnames = some names := by
  unfold joinedHeader at h
  split at h <;> try cases h
  split at h <;> try cases h
  split at h <;> try cases h
  dsimp only at h
  split at h <;> cases h
  rfl

/-- Every loaded run has its records. -/
theorem RunData.LoadedFrom.records {run : RunData κ} (h : run.LoadedFrom files) :
    ∃ parsed, RecordsOf files run parsed := by
  obtain ⟨text, hfile, hload⟩ := h
  rw [loadJoinedMetrics] at hload
  split at hload <;> try cases hload
  rename_i table htable
  obtain ⟨names, hnames, hrows⟩ := bind_eq_ok.mp hload
  have hheader := joinedHeader_eq_ok hnames
  obtain ⟨parsed, hparsed, hresult⟩ := exists_parsed hrows
  have hwhole : run.joinedRows = parsed.length
      ∧ run.metricValues = fun metric => parsed.filterMap fun row => row.2 metric := by
    simpa [JoinedMetrics.addAll, JoinedMetrics.empty] using JoinedMetrics.mk.inj hresult
  refine ⟨parsed, ?_, ?_, fun flowId => ?_⟩
  · rw [RunData.restrict, ← hwhole.1, ← hwhole.2]
  · rw [runFlowIds, hfile]
    simp only [htable, hheader]
    exact mapM_flowId_of_parsed hparsed
  · have hselect : loadJoinedMetrics text (some flowId)
        = .ok (JoinedMetrics.empty.addAll (parsed.filter fun row => row.1.1 = flowId)) := by
      rw [loadJoinedMetrics, htable]
      exact (bind_ok hnames).trans (loadJoinedRows_of_parsed flowId hparsed _)
    rw [selectFlow, hfile]
    refine (bind_ok hselect).trans ?_
    simp [JoinedMetrics.addAll, JoinedMetrics.empty, RunData.restrict, pure, Except.pure]

/-- The records of one flow. -/
def ofFlow (flowId : Int) (parsed : List ParsedRow) : List ParsedRow :=
  parsed.filter fun row => row.1.1 = flowId

variable {files} {runs : List (RunData κ)} {rows : RunData κ → List ParsedRow}
  (hrows : ∀ run ∈ runs, RecordsOf files run (rows run))

/-- The flows that occur in the runs. -/
def allFlows (runs : List (RunData κ)) (rows : RunData κ → List ParsedRow) : List Int :=
  sortedSet (runs.map fun run => (rows run).map fun row => row.1.1).flatten

/-- The runs with the records of one flow. -/
def selected (runs : List (RunData κ)) (rows : RunData κ → List ParsedRow) (flowId : Int) :
    List (RunData κ) :=
  runs.map fun run => run.restrict (ofFlow flowId (rows run))

include hrows

/-- Without a selection all flows that occur are taken. -/
theorem flowIdsOf_eq : flowIdsOf files runs none = .ok (allFlows runs rows) :=
  bind_ok (mapM_ok_of_forall fun run hrun => (hrows run hrun).flowIds)

/-- Every flow of the result is the aggregation of the records of that flow. -/
def FlowsOf (fp : Floating F) (runs : List (RunData κ)) (rows : RunData κ → List ParsedRow)
    (deadlineOf : Int → Option Int) (result : FlowAggregation κ F) : Prop :=
  List.Forall₂ (fun flowId flow => flow.1 = flowId
      ∧ AggregationOf fp (selected runs rows flowId) (deadlineOf flowId) flow.2)
    (allFlows runs rows) result.flows

/-- One flow is an aggregation of the records of that flow, with its own deadline or the common
one. -/
theorem aggregateFlow_eq (fp : Floating F) (deadlines : List (Int × Int))
    (defaultDeadline : Option Int) (flowId : Int) :
    aggregateFlow fp files runs deadlines defaultDeadline flowId
      = match aggregateRuns fp (selected runs rows flowId)
          ((deadlines.lookup flowId).or defaultDeadline) with
        | some aggregation => .ok (flowId, aggregation)
        | none => .error .overflow :=
  bind_ok (mapM_ok_of_forall fun run hrun => (hrows run hrun).select flowId)

/-- And the result has one for each flow. -/
theorem flowsOf_aggregateByFlow {fp : Floating F} {deadlines : List (Int × Int)}
    {defaultDeadline : Option Int} {result : FlowAggregation κ F}
    (h : aggregateByFlow fp files runs deadlines defaultDeadline none = .ok result) :
    FlowsOf fp runs rows (fun flowId => (deadlines.lookup flowId).or defaultDeadline) result := by
  rw [aggregateByFlow] at h
  have hloop := (bind_ok (flowIdsOf_eq hrows)).symm.trans h
  split at hloop
  · cases hloop
  · obtain ⟨flows, hflows, hresult⟩ := bind_eq_ok.mp hloop
    obtain rfl := Except.ok.inj hresult
    refine (mapM_eq_ok.mp hflows).imp fun flowId flow hflow => ?_
    rw [aggregateFlow_eq hrows] at hflow
    split at hflow
    · rename_i aggregation haggregation
      obtain rfl := Except.ok.inj hflow
      exact ⟨rfl, aggregationOf_aggregateRuns haggregation⟩
    · cases hflow

/-- Without deadlines for flows that do not occur, only an overflow can end it. -/
theorem aggregateByFlow_cases (fp : Floating F) (deadlineNs : Option Int) :
    (∃ result, aggregateByFlow fp files runs [] deadlineNs none = .ok result)
      ∨ aggregateByFlow fp files runs [] deadlineNs none = .error .overflow := by
  have hflow : ∀ flowId, (∃ flow, aggregateFlow fp files runs [] deadlineNs flowId = .ok flow)
      ∨ aggregateFlow fp files runs [] deadlineNs flowId = .error .overflow := by
    intro flowId
    rw [aggregateFlow_eq hrows]
    split
    · exact .inl ⟨_, rfl⟩
    · exact .inr rfl
  have hloop : ∀ ids : List Int,
      (∃ flows, ids.mapM (aggregateFlow fp files runs [] deadlineNs) = .ok flows)
        ∨ ids.mapM (aggregateFlow fp files runs [] deadlineNs) = .error .overflow := by
    intro ids
    induction ids with
    | nil => exact .inl ⟨[], rfl⟩
    | cons flowId ids ih =>
      rw [List.mapM_cons]
      rcases hflow flowId with ⟨flow, hflow⟩ | hflow
      · rw [hflow]
        rcases ih with ⟨flows, hflows⟩ | hflows
        · rw [hflows]
          exact .inl ⟨_, rfl⟩
        · rw [hflows]
          exact .inr rfl
      · rw [hflow]
        exact .inr rfl
  rw [aggregateByFlow]
  have hids := flowIdsOf_eq hrows
  rw [hids]
  rcases hloop (allFlows runs rows) with ⟨flows, hflows⟩ | hflows
  · exact .inl ⟨⟨runs.map RunData.runId, flows⟩, (bind_ok hflows : _)⟩
  · refine .inr ?_
    show (allFlows runs rows).mapM (aggregateFlow fp files runs [] deadlineNs) >>= _ = _
    rw [hflows]
    rfl

omit hrows

/-! ## The records of the flows together

Each record belongs to exactly one flow, so the records of the flows are those of the run in another
order. Sums over the flows become sums over the records by `flatMap_filter_perm`. -/

/-- Sorting elements by a key and joining the parts loses and repeats none of them. -/
theorem flatMap_filter_perm {α ι : Type} [DecidableEq ι] (key : α → ι) {ids : List ι}
    (hnodup : ids.Nodup) (l : List α) (hall : ∀ a ∈ l, key a ∈ ids) :
    (ids.flatMap fun i => l.filter (key · = i)).Perm l := by
  induction ids generalizing l with
  | nil =>
    obtain rfl : l = [] := List.eq_nil_iff_forall_not_mem.mpr fun a ha => List.not_mem_nil (hall a ha)
    exact .refl _
  | cons i ids ih =>
    obtain ⟨hi, hnodup⟩ := List.nodup_cons.mp hnodup
    have hothers : (ids.flatMap fun j => l.filter (key · = j))
        = ids.flatMap fun j => (l.filter (key · ≠ i)).filter (key · = j) := by
      refine List.flatMap_congr fun j hj => ?_
      rw [List.filter_filter]
      refine List.filter_congr fun a _ => ?_
      have hji : j ≠ i := fun h => hi (h ▸ hj)
      by_cases haj : key a = j <;> simp [haj, hji]
    have hrest := ih hnodup (l.filter (key · ≠ i)) fun a ha => by
      obtain ⟨hal, hai⟩ := List.mem_filter.mp ha
      exact (List.mem_cons.mp (hall a hal)).resolve_left (by simpa using hai)
    rw [List.flatMap_cons, hothers]
    refine (List.Perm.append_left _ hrest).trans ?_
    simpa using List.filter_append_perm (key · = i) l

theorem nodup_sortedSet (ids : List Int) : (sortedSet ids).Nodup := List.nodup_dedup _

/-- And every flow that occurs is listed. -/
theorem mem_sortedSet {ids : List Int} {id : Int} : id ∈ sortedSet ids ↔ id ∈ ids := by
  rw [sortedSet, List.mem_dedup, (sorted_perm ids).mem_iff]

/-- The flows divide the records of each run among them. -/
theorem flatMap_ofFlow_perm (rows : RunData κ → List ParsedRow) {run : RunData κ}
    (hrun : run ∈ runs) :
    ((allFlows runs rows).flatMap fun flowId => ofFlow flowId (rows run)).Perm (rows run) := by
  refine flatMap_filter_perm (fun row : ParsedRow => row.1.1) (nodup_sortedSet _) _ ?_
  intro row hrow
  exact mem_sortedSet.mpr (List.mem_flatten.mpr
    ⟨_, List.mem_map_of_mem hrun, List.mem_map_of_mem hrow⟩)

/-- A count of samples, taken flow by flow. -/
theorem sum_countP_ofFlow {run : RunData κ} (hrun : run ∈ runs) (metric : Metric) (p : Int → Bool) :
    ((allFlows runs rows).map fun flowId =>
        ((run.restrict (ofFlow flowId (rows run))).metricValues metric).countP p).sum
      = ((run.restrict (rows run)).metricValues metric).countP p := by
  have hperm := (flatMap_ofFlow_perm rows hrun).filterMap fun row => row.2 metric
  have hcount := hperm.countP_eq p
  rw [List.filterMap_flatMap, List.countP_flatMap] at hcount
  exact hcount

/-- The numbers of records add up. -/
theorem sum_length_ofFlow {run : RunData κ} (hrun : run ∈ runs) :
    ((allFlows runs rows).map fun flowId =>
        (run.restrict (ofFlow flowId (rows run))).joinedRows).sum
      = (run.restrict (rows run)).joinedRows := by
  have hlength := (flatMap_ofFlow_perm rows hrun).length_eq
  rw [List.length_flatMap] at hlength
  exact hlength

/-- Counting flow by flow and run by run. -/
theorem sum_sum_comm {α β : Type} (f : α → β → Nat) (l : List α) (l' : List β) :
    (l.map fun a => (l'.map fun b => f a b).sum).sum
      = (l'.map fun b => (l.map fun a => f a b).sum).sum := by
  induction l with
  | nil => simp
  | cons a l ih => simp [ih, List.sum_map_add]

/-- So does every count of values. -/
theorem sum_countP_pooled (hwhole : ∀ run ∈ runs, run.restrict (rows run) = run) (metric : Metric)
    (p : Int → Bool) :
    ((allFlows runs rows).map fun flowId =>
        (samples (selected runs rows flowId) metric).flatten.countP p).sum
      = (samples runs metric).flatten.countP p := by
  simp only [countP_flatten_samples, selected, List.map_map, Function.comp_def]
  rw [sum_sum_comm]
  refine congrArg List.sum (List.map_congr_left fun run hrun => ?_)
  rw [sum_countP_ofFlow hrun, hwhole run hrun]

end ByFlow

/-! ## All laws

What the parts of a result say of each other, in three groups: the pooled statistics against those
of the runs, the flows against all packets, and the deadline misses where the deadline is common. -/

/-- A number of the flow-by-flow result for the run at position `i`, summed over the flows. -/
def FlowAggregation.sumRun (result : FlowAggregation κ F) (i : Nat) (f : RunSummary κ F → Nat) :
    Nat :=
  (result.flows.map fun flow => (flow.2.runs[i]?.map f).getD 0).sum

/-- A number of the flow-by-flow result for the pooled packets, summed over the flows. -/
def FlowAggregation.sumPooled (result : FlowAggregation κ F) (metric : Metric)
    (f : MetricStatistics F → Nat) : Nat :=
  (result.flows.map fun flow => f (flow.2.metrics metric).packetLevel).sum

/-- The statistics of one metric, run by run. -/
def Aggregation.perRun (a : Aggregation κ F) (metric : Metric) : List (MetricStatistics F) :=
  a.runs.map fun run => run.metrics metric

/-- How the pooled statistics of a metric relate to those of the runs. -/
structure PooledLaws (a : Aggregation κ F) (metric : Metric) : Prop where
  count : (a.metrics metric).packetLevel.count
    = ((a.perRun metric).map MetricStatistics.count).sum
  negativeCount : (a.metrics metric).packetLevel.negativeCount
    = ((a.perRun metric).map MetricStatistics.negativeCount).sum
  deadlineMissCount : a.deadlineNs.isSome → ∃ misses : List Nat,
    (a.perRun metric).map MetricStatistics.deadlineMissCount = misses.map some
      ∧ (a.metrics metric).packetLevel.deadlineMissCount = some misses.sum
  reported : ∀ p r, (a.metrics metric).packetLevel.reported p = some r →
    (∃ statistics ∈ a.perRun metric, ∃ low, statistics.reported p = some low ∧ low ≤ r)
    ∧ ∃ statistics ∈ a.perRun metric, ∃ high, statistics.reported p = some high ∧ r ≤ high
  reportedSome : ∀ p, ((a.metrics metric).packetLevel.reported p).isSome
    ↔ ∃ statistics ∈ a.perRun metric, (statistics.reported p).isSome
  withSamples : (a.metrics metric).runLevel.withSamplesCount ≤ (a.metrics metric).runLevel.totalCount
  withMisses : ∀ missed, (a.metrics metric).runLevel.withDeadlineMissCount = some missed →
    missed ≤ (a.metrics metric).runLevel.withSamplesCount

section PooledLaws

variable {fp : Floating F} {runs : List (RunData κ)} {deadlineNs : Option Int}
  {a : Aggregation κ F} (h : AggregationOf fp runs deadlineNs a) (metric : Metric)
include h

/-- A view of the statistics of each run, from the samples of the run. -/
theorem AggregationOf.map_perRun {γ : Type} {f : MetricStatistics F → γ} {g : List Int → γ}
    (hfg : ∀ values statistics, Describes fp values deadlineNs statistics →
      f statistics = g values) :
    (a.perRun metric).map f = (samples runs metric).map g := by
  rw [Aggregation.perRun, samples, List.map_map, List.map_map]
  exact map_eq_of_forall₂ h.summaries fun run summary hsummary =>
    hfg _ _ (hsummary.metrics metric)

/-- The percentiles of the runs are those of their samples. -/
theorem AggregationOf.exists_perRun {p : Reported} {q : Option Int → Prop} :
    (∃ statistics ∈ a.perRun metric, q (statistics.reported p))
      ↔ ∃ values ∈ samples runs metric, q (reportedOf fp.round p values) := by
  have hviews : (a.perRun metric).map (MetricStatistics.reported · p)
      = (samples runs metric).map (reportedOf fp.round p) :=
    h.map_perRun metric fun values statistics hdescribes => hdescribes.reported p
  constructor
  · rintro ⟨statistics, hmem, hq⟩
    have hview := hviews ▸ List.mem_map_of_mem (f := (MetricStatistics.reported · p)) hmem
    obtain ⟨values, hvalues, heq⟩ := List.mem_map.mp hview
    exact ⟨values, hvalues, by rwa [heq]⟩
  · rintro ⟨values, hmem, hq⟩
    have hview := hviews.symm ▸ List.mem_map_of_mem (f := reportedOf fp.round p) hmem
    obtain ⟨statistics, hstatistics, heq⟩ := List.mem_map.mp hview
    exact ⟨statistics, hstatistics, by rwa [heq]⟩

/-- The pooled statistics of a metric. -/
theorem pooledLaws (hindex : ∀ (p : Reported) n, ExactIndex fp.round p.percentile n)
    (hids : (runs.map RunData.runId).Nodup) : PooledLaws a metric where
  count := by
    rw [(h.packetLevel metric).count, List.length_flatten,
      h.map_perRun metric fun values statistics hdescribes => hdescribes.count]
  negativeCount := by
    rw [(h.packetLevel metric).negativeCount, List.countP_flatten,
      h.map_perRun metric fun values statistics hdescribes => hdescribes.negativeCount]
  deadlineMissCount := by
    rw [h.deadline]
    intro hsome
    obtain ⟨deadline, rfl⟩ : ∃ deadline, deadlineNs = some deadline :=
      Option.isSome_iff_exists.mp hsome
    refine ⟨(samples runs metric).map fun values => values.countP (deadline < ·), ?_, ?_⟩
    · rw [List.map_map]
      exact h.map_perRun metric fun values statistics hdescribes => hdescribes.deadlineMissCount
    · rw [(h.packetLevel metric).deadlineMissCount, Option.map_some, List.countP_flatten]
  reported := by
    intro p r hr
    rw [(h.packetLevel metric).reported] at hr
    obtain ⟨hlow, hhigh⟩ := reportedOf_pooled hindex hr
    exact ⟨(h.exists_perRun metric (q := fun view => ∃ low, view = some low ∧ low ≤ r)).mpr hlow,
      (h.exists_perRun metric (q := fun view => ∃ high, view = some high ∧ r ≤ high)).mpr hhigh⟩
  reportedSome := by
    intro p
    rw [h.exists_perRun metric (q := fun view => view.isSome = true),
      (h.packetLevel metric).reported, reportedOf_isSome_iff hindex, Ne, List.flatten_eq_nil_iff]
    simp only [reportedOf_isSome_iff hindex]
    push Not
    rfl
  withSamples := by
    rw [h.withSamplesCount, h.totalCount]
    exact List.countP_le_length
  withMisses := by
    intro missed hmissed
    rw [h.withSamplesCount]
    exact withMisses_le hids h.summaries (h.withDeadlineMissCount metric ▸ hmissed)

end PooledLaws

/-- How the flow-by-flow result of the runs relates to their records. -/
structure FlowRecords (files : JoinedFiles) (runs : List (RunData κ))
    (result : FlowAggregation κ F) : Prop where
  /-- the flows divide the samples of a run -/
  partition : ∀ run ∈ runs, ∃ parts,
    (result.flows.map Prod.fst).mapM (selectFlow files run) = .ok parts
      ∧ ∀ metric, (parts.flatMap fun part => part.metricValues metric).Perm (run.metricValues metric)
  joinedRows : ∀ (i : Nat) run, runs[i]? = some run →
    result.sumRun i RunSummary.joinedRows = run.joinedRows

/-- How the flow-by-flow result relates to the statistics of all packets. -/
structure FlowLaws (whole : Aggregation κ F) (result : FlowAggregation κ F) : Prop where
  joinedRows : ∀ (i : Nat) summary, whole.runs[i]? = some summary →
    result.sumRun i RunSummary.joinedRows = summary.joinedRows
  runCounts : ∀ (i : Nat) summary, whole.runs[i]? = some summary → ∀ metric,
    result.sumRun i (fun part => (part.metrics metric).count) = (summary.metrics metric).count
      ∧ result.sumRun i (fun part => (part.metrics metric).negativeCount)
        = (summary.metrics metric).negativeCount
  pooledCounts : ∀ metric,
    result.sumPooled metric MetricStatistics.count = (whole.metrics metric).packetLevel.count
      ∧ result.sumPooled metric MetricStatistics.negativeCount
        = (whole.metrics metric).packetLevel.negativeCount

/-- The deadline misses add up as well, where every flow has the same deadline. -/
structure FlowMissLaws (whole : Aggregation κ F) (result : FlowAggregation κ F) : Prop where
  runMisses : ∀ (i : Nat) summary, whole.runs[i]? = some summary → ∀ metric,
    result.sumRun i (fun part => (part.metrics metric).deadlineMissCount.getD 0)
      = (summary.metrics metric).deadlineMissCount.getD 0
  pooledMisses : ∀ metric,
    result.sumPooled metric (fun statistics => statistics.deadlineMissCount.getD 0)
      = (whole.metrics metric).packetLevel.deadlineMissCount.getD 0

section FlowLaws

variable {fp : Floating F} {files : JoinedFiles} {runs : List (RunData κ)}
  {rows : RunData κ → List ParsedRow} {deadlineOf : Int → Option Int} {deadlineNs : Option Int}
  {result : FlowAggregation κ F} {whole : Aggregation κ F}

/-- A number of the run, added up over the flows. -/
theorem FlowsOf.sumRun_eq (h : FlowsOf fp runs rows deadlineOf result) {i : Nat} {run : RunData κ}
    (hrun : runs[i]? = some run) {f : RunSummary κ F → Nat} {g : Int → Nat}
    (hfg : ∀ flowId summary,
      SummaryOf fp (deadlineOf flowId) (run.restrict (ofFlow flowId (rows run))) summary →
        f summary = g flowId) :
    result.sumRun i f = ((allFlows runs rows).map g).sum := by
  refine congrArg List.sum (map_eq_of_forall₂ h fun flowId flow hflow => ?_)
  have hpart : (selected runs rows flowId)[i]?
      = some (run.restrict (ofFlow flowId (rows run))) := by
    rw [selected, List.getElem?_map, hrun, Option.map_some]
  obtain ⟨summary, hsummary, hof⟩ := getElem?_of_forall₂ hflow.2.summaries.flip hpart
  rw [hsummary, Option.map_some, Option.getD_some]
  exact hfg flowId summary hof

/-- A sum over the flows of a number that the samples determine. -/
theorem FlowsOf.sumPooled_eq (h : FlowsOf fp runs rows deadlineOf result) (metric : Metric)
    {f : MetricStatistics F → Nat} {g : Int → Nat}
    (hfg : ∀ flowId statistics,
      Describes fp (samples (selected runs rows flowId) metric).flatten (deadlineOf flowId)
        statistics → f statistics = g flowId) :
    result.sumPooled metric f = ((allFlows runs rows).map g).sum :=
  congrArg List.sum (map_eq_of_forall₂ h fun flowId _ hflow =>
    hfg flowId _ (hflow.2.packetLevel metric))

variable (hrows : ∀ run ∈ runs, RecordsOf files run (rows run))
  (h : FlowsOf fp runs rows deadlineOf result)
include hrows h

theorem sumRun_joinedRows {i : Nat} {run : RunData κ} (hi : runs[i]? = some run) :
    result.sumRun i RunSummary.joinedRows = run.joinedRows := by
  have hrun := List.mem_of_getElem? hi
  have hwhole := congrArg RunData.joinedRows (hrows run hrun).whole
  rw [h.sumRun_eq hi fun flowId summary hof => hof.joinedRows, ← hwhole, ← sum_length_ofFlow hrun]

/-- Every record is in exactly one flow. -/
theorem flowRecords : FlowRecords files runs result where
  partition := by
    intro run hrun
    have hids : result.flows.map Prod.fst = allFlows runs rows := by
      rw [map_eq_of_forall₂ h fun flowId flow hflow => hflow.1]
      exact List.map_id _
    rw [hids]
    refine ⟨_, mapM_ok_of_forall fun flowId _ => (hrows run hrun).select flowId, ?_⟩
    intro metric
    have hperm := (flatMap_ofFlow_perm rows hrun).filterMap fun row => row.2 metric
    have hwhole := congrArg (fun r => r.metricValues metric) (hrows run hrun).whole
    rw [← hwhole, List.flatMap_map]
    rwa [List.filterMap_flatMap] at hperm
  joinedRows := fun _ _ hi => sumRun_joinedRows hrows h hi

/-- The samples of a run that are counted, added up over the flows. -/
theorem sumRun_countP {i : Nat} {run : RunData κ} (hi : runs[i]? = some run) (metric : Metric)
    {f : RunSummary κ F → Nat} (p : Int → Bool)
    (hf : ∀ flowId part summary, SummaryOf fp (deadlineOf flowId) part summary →
      f summary = (part.metricValues metric).countP p) :
    result.sumRun i f = (run.metricValues metric).countP p := by
  have hrun := List.mem_of_getElem? hi
  have hwhole := congrArg (fun r => r.metricValues metric) (hrows run hrun).whole
  rw [h.sumRun_eq hi fun flowId summary hof => hf flowId _ summary hof, ← hwhole]
  exact sum_countP_ofFlow hrun metric p

/-- A count over the pooled packets. -/
theorem sumPooled_countP (metric : Metric) {f : MetricStatistics F → Nat} (p : Int → Bool)
    (hf : ∀ flowId values statistics, Describes fp values (deadlineOf flowId) statistics →
      f statistics = values.countP p) :
    result.sumPooled metric f = (samples runs metric).flatten.countP p := by
  rw [h.sumPooled_eq metric fun flowId statistics hof => hf flowId _ statistics hof]
  exact sum_countP_pooled (fun run hrun => (hrows run hrun).whole) metric p

variable (hwhole : AggregationOf fp runs deadlineNs whole)
include hwhole

/-- The flows against all packets. -/
theorem flowLaws : FlowLaws whole result where
  joinedRows := by
    intro i summary hi
    obtain ⟨run, hrun, hof⟩ := getElem?_of_forall₂ hwhole.summaries hi
    rw [sumRun_joinedRows hrows h hrun, hof.joinedRows]
  runCounts := by
    intro i summary hi metric
    obtain ⟨run, hrun, hof⟩ := getElem?_of_forall₂ hwhole.summaries hi
    rw [(hof.metrics metric).count, (hof.metrics metric).negativeCount, ← List.countP_true]
    exact ⟨sumRun_countP hrows h hrun metric _ fun _ _ _ hpart => by
        rw [(hpart.metrics metric).count, List.countP_true],
      sumRun_countP hrows h hrun metric _ fun _ _ _ hpart => (hpart.metrics metric).negativeCount⟩
  pooledCounts := by
    intro metric
    rw [(hwhole.packetLevel metric).count, (hwhole.packetLevel metric).negativeCount,
      ← List.countP_true]
    exact ⟨sumPooled_countP hrows h metric _ fun _ _ _ hpart => by
        rw [hpart.count, List.countP_true],
      sumPooled_countP hrows h metric _ fun _ _ _ hpart => hpart.negativeCount⟩

/-- The misses, with a common deadline. -/
theorem flowMissLaws (hcommon : ∀ flowId, deadlineOf flowId = deadlineNs) :
    FlowMissLaws whole result := by
  -- without a deadline nothing is counted
  let late (value : Int) : Bool := deadlineNs.any (· < value)
  have hcount : ∀ flowId values statistics, Describes fp values (deadlineOf flowId) statistics →
      statistics.deadlineMissCount.getD 0 = values.countP late := by
    intro flowId values statistics hof
    rw [hof.deadlineMissCount, hcommon]
    cases deadlineNs with
    | none => simp [late]
    | some deadline => rfl
  have hcountWhole : ∀ values statistics, Describes fp values deadlineNs statistics →
      statistics.deadlineMissCount.getD 0 = values.countP late := by
    intro values statistics hof
    refine hcount 0 values statistics ?_
    rwa [hcommon]
  refine ⟨?_, ?_⟩
  · intro i summary hi metric
    obtain ⟨run, hrun, hof⟩ := getElem?_of_forall₂ hwhole.summaries hi
    rw [hcountWhole _ _ (hof.metrics metric)]
    exact sumRun_countP hrows h hrun metric late fun flowId _ _ hpart =>
      hcount flowId _ _ (hpart.metrics metric)
  · intro metric
    rw [hcountWhole _ _ (hwhole.packetLevel metric)]
    exact sumPooled_countP hrows h metric late hcount

end FlowLaws

/-! ## Where nothing overflows

The only way for the statistics to fail is an `OverflowError`. -/

/-- No operation raises. -/
structure NoOverflow (fp : Floating F) : Prop where
  ofInt : ∀ n, (fp.ofInt n).isSome
  fsum : ∀ sample, (fp.fsum sample).isSome
  stdev : ∀ sample, (fp.stdev sample).isSome

section NoOverflow

variable {fp : Floating F} (h : NoOverflow fp)

theorem isSome_bind {α β : Type} {x : Option α} {f : α → Option β} (hx : x.isSome)
    (hf : ∀ a, (f a).isSome) : (x >>= f).isSome := by
  obtain ⟨a, rfl⟩ := Option.isSome_iff_exists.mp hx
  exact hf a

theorem isSome_mapM {α β : Type} {f : α → Option β} (hf : ∀ a, (f a).isSome) (l : List α) :
    (l.mapM f).isSome := by
  induction l with
  | nil => rfl
  | cons a l ih =>
    rw [List.mapM_cons]
    exact isSome_bind (hf a) fun _ => isSome_bind ih fun _ => rfl

theorem isSome_mapM_metrics {α : Type} {f : Metric → Option α} (hf : ∀ metric, (f metric).isSome) :
    (Metric.mapM f).isSome :=
  isSome_bind (hf _) fun _ => isSome_bind (hf _) fun _ => isSome_bind (hf _) fun _ =>
    isSome_bind (hf _) fun _ => isSome_bind (hf _) fun _ => rfl

include h

theorem NoOverflow.fmean (sample : List F) : (Aggregate.fmean fp sample).isSome :=
  isSome_bind (h.fsum _) fun _ => isSome_bind (h.ofInt _) fun _ => rfl

/-- So do the statistics of a sample. -/
theorem NoOverflow.metricStatistics (values : List Int) (deadlineNs : Option Int) :
    (Aggregate.metricStatistics fp values deadlineNs).isSome := by
  refine isSome_bind ?_ fun _ => rfl
  unfold meanNs
  split
  · rfl
  · exact isSome_bind (isSome_mapM h.ofInt _) fun _ => isSome_bind (h.fmean _) fun _ => rfl

/-- And the interval over the runs. -/
theorem NoOverflow.meanConfidenceInterval95 (values : List (Int ⊕ F)) :
    (Aggregate.meanConfidenceInterval95 fp values).isSome := by
  have hdouble : ∀ value : Int ⊕ F, (Sum.elim fp.ofInt some value).isSome := by
    intro value
    cases value with
    | inl n => exact h.ofInt n
    | inr x => rfl
  have hcritical : ∀ n, (studentTCritical95 fp n).isSome := by
    intro n
    unfold studentTCritical95
    split
    · rfl
    · exact isSome_bind (h.ofInt _) fun _ => rfl
  refine isSome_bind (isSome_mapM hdouble _) fun sample => ?_
  split
  · rfl
  · refine isSome_bind (h.fmean _) fun mean => ?_
    split
    · rfl
    · exact isSome_bind (h.stdev _) fun _ => isSome_bind (hcritical _) fun _ =>
        isSome_bind (h.ofInt _) fun _ => rfl

/-- Then `aggregate_runs` returns. -/
theorem NoOverflow.aggregateRuns (runs : List (RunData κ)) (deadlineNs : Option Int) :
    (Aggregate.aggregateRuns fp runs deadlineNs).isSome := by
  refine isSome_bind (isSome_mapM (fun run => isSome_bind
    (isSome_mapM_metrics fun _ => h.metricStatistics _ _) fun _ => rfl) _) fun summaries => ?_
  refine isSome_bind (isSome_mapM_metrics fun metric => ?_) fun _ => rfl
  refine isSome_bind (h.metricStatistics _ _) fun _ => isSome_bind (isSome_bind ?_ fun _ => rfl)
    fun _ => rfl
  exact isSome_bind (h.meanConfidenceInterval95 _) fun _ =>
    isSome_bind (h.meanConfidenceInterval95 _) fun _ =>
      isSome_bind (h.meanConfidenceInterval95 _) fun _ =>
        isSome_bind (h.meanConfidenceInterval95 _) fun _ => rfl

/-- Flow by flow, with the records that the runs were loaded from. -/
theorem NoOverflow.aggregateByFlow {files : JoinedFiles} {runs : List (RunData κ)}
    {rows : RunData κ → List ParsedRow} (hrows : ∀ run ∈ runs, RecordsOf files run (rows run))
    (deadlineNs : Option Int) :
    ∃ result, Aggregate.aggregateByFlow fp files runs [] deadlineNs none = .ok result := by
  have hflow : ∀ flowId, ∃ flow, aggregateFlow fp files runs [] deadlineNs flowId = .ok flow := by
    intro flowId
    obtain ⟨a, ha⟩ := Option.isSome_iff_exists.mp
      (h.aggregateRuns (selected runs rows flowId) deadlineNs)
    refine ⟨(flowId, a), (aggregateFlow_eq hrows fp [] deadlineNs flowId).trans ?_⟩
    show (match Aggregate.aggregateRuns fp (selected runs rows flowId) deadlineNs with
      | some aggregation => _
      | none => _) = _
    rw [ha]
  choose flow hflow using hflow
  have hids := flowIdsOf_eq hrows
  rw [Aggregate.aggregateByFlow, hids]
  exact ⟨_, bind_ok (mapM_ok_of_forall fun flowId _ => hflow flowId)⟩

end NoOverflow

section Laws

variable [BEq κ] [EquivBEq κ]

end Laws

/-! ## Two runs -/

/-- Exact arithmetic, in which nothing overflows. -/
def exactFloating : Floating ℚ where
  round := id
  double := id
  ofInt := fun n => some n
  fsum := fun sample => some sample.sum
  stdev := fun _ => some 0
  sqrt := id
  add := (· + ·)
  sub := (· - ·)
  mul := (· * ·)
  div := (· / ·)

/-- Exact arithmetic does not overflow. -/
theorem noOverflow_exactFloating : NoOverflow exactFloating :=
  ⟨fun _ => rfl, fun _ => rfl, fun _ => rfl⟩

/-- The header of a joined file. -/
def exampleColumns : String :=
  "flow_id,sequence,xdp_hw_ns,cpumap_xdp_ns,user_cpumap_ns,user_xdp_ns,user_hw_ns\n"

/-- The joined files of two runs: two packets of flow 1 and one of flow 2, and one of each flow. -/
def exampleFiles : JoinedFiles := fun path =>
  if path = [[98], [3]] then some (exampleColumns ++ "1,0,,,,,7\n2,0,,,,,-2\n1,1,,,,,9\n").toList
  else if path = [[97], [3]] then some (exampleColumns ++ "1,0,,,,,5\n2,0,,,,,6\n").toList
  else none

/-- A run as it is loaded, its files in a directory of their own. -/
def exampleRun (id : Nat) : RunData Unit :=
  let loaded := match exampleFiles [[id], [3]] with
    | some text => (loadJoinedMetrics text none).toOption.getD .empty
    | none => .empty
  { runId := [id]
    markerPath := [[id], [1]]
    summaryPath := [[id], [2]]
    joinedPath := [[id], [3]]
    manifestPath := [[id], [4]]
    markerDigest := ⟨0, []⟩
    summaryDigest := ⟨0, []⟩
    joinedDigest := ⟨0, []⟩
    manifestDigest := ⟨0, []⟩
    inputArtifacts := ()
    joinedRows := loaded.rowCount
    metricValues := loaded.values
    parameters := ()
    cohortIdentity := ()
    analysisPolicy := () }

/-- The two runs were loaded from these files. -/
theorem loadedFrom_exampleRun {id : Nat} (h : id = 98 ∨ id = 97) :
    (exampleRun id).LoadedFrom exampleFiles := by
  have hloads : ∀ text, exampleFiles [[id], [3]] = some text →
      (loadJoinedMetrics text none).toOption.isSome := by
    rintro text htext
    rcases h with rfl | rfl
    · obtain rfl := Option.some.inj htext
      decide +kernel
    · obtain rfl := Option.some.inj htext
      decide +kernel
  obtain ⟨text, htext⟩ : ∃ text, exampleFiles [[id], [3]] = some text := by
    rcases h with rfl | rfl <;> exact ⟨_, rfl⟩
  refine ⟨text, htext, ?_⟩
  have hsome := hloads text htext
  simp only [exampleRun, htext]
  cases hload : loadJoinedMetrics text none with
  | error e =>
    rw [hload] at hsome
    cases hsome
  | ok loaded => rfl

end Aggregate

end AceXdp
