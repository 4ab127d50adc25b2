import AceXdp.Aggregate.Statistics
import AceXdp.Join.Output

/-!
# AceXdp — `aggregate_runs.py`

The runs of an experiment in one table: what a run contributes is read from its joined CSV
(`load_joined_metrics`), the runs must belong together (`validate_runs`), and their statistics are
computed for each run and for the pooled packets (`aggregate_runs`), over all packets or flow by
flow from a second reading of the files (`aggregate_by_flow`). The metrics are integers of any size,
so that each mean may raise an `OverflowError`.
-/

namespace AceXdp

open Csv Decimal Disk
open Json (Str)

/-- The keys of `METRIC_FIELDS`. -/
inductive Metric where
  | xdpHw | cpumapXdp | userCpumap | userXdp | userHw
  deriving DecidableEq, Repr

namespace Metric

def all : List Metric := [.xdpHw, .cpumapXdp, .userCpumap, .userXdp, .userHw]

def name : Metric → String
  | .xdpHw => "xdp-hw"
  | .cpumapXdp => "cpumap-xdp"
  | .userCpumap => "user-cpumap"
  | .userXdp => "user-xdp"
  | .userHw => "user-hw"

/-- The values of `METRIC_FIELDS`. -/
def field : Metric → Text
  | .xdpHw => "xdp_hw_ns".toList
  | .cpumapXdp => "cpumap_xdp_ns".toList
  | .userCpumap => "user_cpumap_ns".toList
  | .userXdp => "user_xdp_ns".toList
  | .userHw => "user_hw_ns".toList

/-- The metrics in their order; the first error ends it. -/
def mapM {m : Type → Type} [Monad m] {α : Type} (f : Metric → m α) : m (Metric → α) := do
  let xdpHw ← f .xdpHw
  let cpumapXdp ← f .cpumapXdp
  let userCpumap ← f .userCpumap
  let userXdp ← f .userXdp
  let userHw ← f .userHw
  return fun
    | .xdpHw => xdpHw
    | .cpumapXdp => cpumapXdp
    | .userCpumap => userCpumap
    | .userXdp => userXdp
    | .userHw => userHw

end Metric

namespace Aggregate

/-- The `InputError` of the aggregator by what it reports, and what `run_flow_ids`, the reader of the
CSV and the statistics raise themselves. -/
inductive AggregateError where
  | cannotOpen (path : Path)
  | csvSyntax
  | headerMissing
  | emptyColumn
  | duplicateColumn
  | missingColumns (names : List Text)
  | extraFields (row : Nat)
  | invalidField (row : Nat) (field : Text)
  | invalidInteger (row : Nat) (field value : Text)
  | missingField (row : Nat) (field : Text)
  | outsideType (row : Nat) (field type : Text)
  | duplicateKey (row : Nat) (key : Key)
  | flowIdUnreadable
  | tooFewRuns
  | duplicateRunId
  | artifactReused
  | mixedParameters (first other : Str)
  | mixedCohort (first other : Str)
  | mixedPolicy (first other : Str)
  | deadlineForAbsentFlow
  /-- the `OverflowError` of a mean -/
  | overflow
  deriving DecidableEq, Repr

abbrev Loaded (α : Type) := Except AggregateError α

/-! ## `load_joined_metrics` -/

/-- `str.strip`. -/
def strip (text : Text) : Text := ((text.dropWhile isSpace).reverse.dropWhile isSpace).reverse

def parseCsvInteger (raw : Option Text) (row : Nat) (field : Text) : Loaded Int :=
  match raw with
  | none => .error (.invalidField row field)
  | some text =>
    if text = [] ∨ strip text ≠ text then .error (.invalidField row field)
    else match readInt text with
      | some n => .ok n
      | none => .error (.invalidInteger row field text)

/-- `row.get(field)`: of several columns of one name the last one counts, a field the record does
not reach is `None`. -/
def cell (names row : List Text) (field : Text) : Option Text :=
  (names.zip row).reverse.lookup field

/-- `flow_id` and `sequence` of a record. -/
def joinedKey (names row : List Text) (number : Nat) : Loaded Key := do
  let flowId ← parseCsvInteger (cell names row "flow_id".toList) number "flow_id".toList
  let sequence ← parseCsvInteger (cell names row "sequence".toList) number "sequence".toList
  if ¬(0 ≤ flowId ∧ flowId ≤ 0xffffffff) then
    .error (.outsideType number "flow_id".toList "uint32".toList)
  else if ¬(0 ≤ sequence ∧ sequence ≤ 0xffffffffffffffff) then
    .error (.outsideType number "sequence".toList "uint64".toList)
  else .ok (flowId, sequence)

/-- An empty metric is one that could not be observed; it is no sample. -/
def metricCell (names row : List Text) (number : Nat) (metric : Metric) : Loaded (Option Int) :=
  match cell names row metric.field with
  | none => .error (.missingField number metric.field)
  | some raw =>
    if raw = [] then .ok none
    else (parseCsvInteger (some raw) number metric.field).map some

/-- The inner loop of a record. -/
def rowMetrics (names row : List Text) (number : Nat) : Loaded (Metric → Option Int) :=
  Metric.mapM (metricCell names row number)

/-- `row_count` and `values`. -/
structure JoinedMetrics where
  rowCount : Nat
  values : Metric → List Int

def JoinedMetrics.empty : JoinedMetrics := ⟨0, fun _ => []⟩

def JoinedMetrics.add (acc : JoinedMetrics) (metrics : Metric → Option Int) : JoinedMetrics :=
  ⟨acc.rowCount + 1, fun metric => acc.values metric ++ (metrics metric).toList⟩

/-- The loop from record `number` on, with the keys seen so far. -/
def loadJoinedRows (names : List Text) (selectedFlow : Option Int) (number : Nat) (keys : List Key)
    (acc : JoinedMetrics) : List (List Text) → Loaded JoinedMetrics
  | [] => .ok acc
  | row :: rest =>
    if names.length < row.length then .error (.extraFields number)
    else do
      let key ← joinedKey names row number
      if key ∈ keys then .error (.duplicateKey number key)
      else if selectedFlow.any (key.1 ≠ ·) then
        loadJoinedRows names selectedFlow (number + 1) (key :: keys) acc rest
      else do
        let metrics ← rowMetrics names row number
        loadJoinedRows names selectedFlow (number + 1) (key :: keys) (acc.add metrics) rest

/-- The columns that must be there, in the order of the message. -/
def joinedRequired : List Text :=
  ["cpumap_xdp_ns", "flow_id", "sequence", "user_cpumap_ns", "user_hw_ns", "user_xdp_ns",
    "xdp_hw_ns"].map String.toList

def joinedHeader (fieldnames : Option (List Text)) : Loaded (List Text) :=
  match fieldnames with
  | none => .error .headerMissing
  | some names =>
    if [] ∈ names then .error .emptyColumn
    else if ¬names.Nodup then .error .duplicateColumn
    else
      let missing := joinedRequired.filter (· ∉ names)
      if missing ≠ [] then .error (.missingColumns missing) else .ok names

def loadJoinedMetrics (text : Text) (selectedFlow : Option Int) : Loaded JoinedMetrics :=
  match readTable (splitLines text) with
  | none => .error .csvSyntax
  | some file => do
    let names ← joinedHeader file.fieldnames
    loadJoinedRows names selectedFlow 2 [] .empty file.rows

/-! ## Runs -/

/-- A run that `load_run` accepted. `κ` holds the decoded JSON objects, which are only compared. -/
structure RunData (κ : Type) where
  runId : Str
  markerPath : Path
  summaryPath : Path
  joinedPath : Path
  manifestPath : Path
  markerDigest : Digest
  summaryDigest : Digest
  joinedDigest : Digest
  manifestDigest : Digest
  inputArtifacts : κ
  joinedRows : Nat
  metricValues : Metric → List Int
  parameters : κ
  cohortIdentity : κ
  analysisPolicy : κ

variable {κ : Type} [BEq κ]

def RunData.artifactPaths (run : RunData κ) : List Path :=
  [run.markerPath, run.summaryPath, run.joinedPath, run.manifestPath]

/-- The loop of `validate_runs`. -/
def checkCohort (first : RunData κ) : List (RunData κ) → Loaded Unit
  | [] => .ok ()
  | run :: rest =>
    if run.parameters != first.parameters then .error (.mixedParameters first.runId run.runId)
    else if run.cohortIdentity != first.cohortIdentity then
      .error (.mixedCohort first.runId run.runId)
    else if run.analysisPolicy != first.analysisPolicy then
      .error (.mixedPolicy first.runId run.runId)
    else checkCohort first rest

def validateRuns (runs : List (RunData κ)) : Loaded (List (RunData κ)) :=
  match runs with
  | first :: second :: rest =>
    if ¬(runs.map RunData.runId).Nodup then .error .duplicateRunId
    else if ¬(runs.flatMap RunData.artifactPaths).Nodup then .error .artifactReused
    else do
      checkCohort first (second :: rest)
      return runs.mergeSort fun a b => a.runId ≤ b.runId
  | _ => .error .tooFewRuns

/-! ## `aggregate_runs` -/

/-- An element of `run_summaries`. -/
structure RunSummary (κ F : Type) where
  runId : Str
  completionMarker : Path × Digest
  summaryJson : Path × Digest
  joinedCsv : Path × Digest
  manifest : Path × Digest
  inputArtifacts : κ
  joinedRows : Nat
  metrics : Metric → MetricStatistics F

structure RunEstimates (F : Type) where
  p50Ns : ConfidenceInterval F
  p95Ns : ConfidenceInterval F
  p99Ns : ConfidenceInterval F
  deadlineMissRate : ConfidenceInterval F
  deriving DecidableEq, Repr

structure RunLevel (F : Type) where
  totalCount : Nat
  withSamplesCount : Nat
  withoutSamplesCount : Int
  withDeadlineMissCount : Option Nat
  withDeadlineMissRate : Option F
  independentRunEstimates : RunEstimates F
  deriving DecidableEq, Repr

/-- An element of `aggregated_metrics`. A row of `metric_rows` lays the same values out in
columns. -/
structure AggregatedMetric (F : Type) where
  deadlineNs : Option Int
  runLevel : RunLevel F
  packetLevel : MetricStatistics F
  deriving DecidableEq, Repr

/-- The parts of the summary that depend on the runs. -/
structure Aggregation (κ F : Type) where
  runIds : List Str
  deadlineNs : Option Int
  /-- the parameters, the identity and the policy of the first run -/
  cohort : Option (κ × κ × κ)
  runs : List (RunSummary κ F)
  metrics : Metric → AggregatedMetric F

variable {F : Type} (fp : Floating F)

def runMetrics (run : RunData κ) (deadlineNs : Option Int) :
    Option (Metric → MetricStatistics F) :=
  Metric.mapM fun metric => metricStatistics fp (run.metricValues metric) deadlineNs

def runSummary (run : RunData κ) (deadlineNs : Option Int) : Option (RunSummary κ F) := do
  let metrics ← runMetrics fp run deadlineNs
  return {
    runId := run.runId
    completionMarker := (run.markerPath, run.markerDigest)
    summaryJson := (run.summaryPath, run.summaryDigest)
    joinedCsv := (run.joinedPath, run.joinedDigest)
    manifest := (run.manifestPath, run.manifestDigest)
    inputArtifacts := run.inputArtifacts
    joinedRows := run.joinedRows
    metrics := metrics }

/-- `per_run_statistics[run_id]`: of two runs with one identifier the later would count. -/
def perRunStatistics (summaries : List (RunSummary κ F)) (runId : Str) :
    Option (Metric → MetricStatistics F) :=
  (summaries.reverse.map fun summary => (summary.runId, summary.metrics)).lookup runId

/-- One field of the statistics of every run that has it. -/
def runValues (runs : List (RunData κ)) (summaries : List (RunSummary κ F)) (metric : Metric)
    (field : MetricStatistics F → Option (Int ⊕ F)) : List (Int ⊕ F) :=
  runs.filterMap fun run =>
    (perRunStatistics summaries run.runId).bind fun metrics => field (metrics metric)

def withMisses (runs : List (RunData κ)) (summaries : List (RunSummary κ F))
    (deadlineNs : Option Int) (metric : Metric) : Option Nat :=
  deadlineNs.map fun _ =>
    runs.countP fun run =>
      (perRunStatistics summaries run.runId).any fun metrics =>
        (metrics metric).deadlineMissCount.any (0 < ·)

def runEstimates (runs : List (RunData κ)) (summaries : List (RunSummary κ F)) (metric : Metric) :
    Option (RunEstimates F) := do
  let estimate (field : MetricStatistics F → Option (Int ⊕ F)) :=
    meanConfidenceInterval95 fp (runValues runs summaries metric field)
  let p50Ns ← estimate fun statistics => statistics.p50Ns.map .inl
  let p95Ns ← estimate fun statistics => statistics.p95Ns.map .inl
  let p99Ns ← estimate fun statistics => statistics.p99Ns.map .inl
  let deadlineMissRate ← estimate fun statistics => statistics.deadlineMissRate.map .inr
  return ⟨p50Ns, p95Ns, p99Ns, deadlineMissRate⟩

def runLevel (runs : List (RunData κ)) (summaries : List (RunSummary κ F))
    (deadlineNs : Option Int) (metric : Metric) : Option (RunLevel F) := do
  let withSamples := runs.countP fun run => run.metricValues metric ≠ []
  let missed := withMisses runs summaries deadlineNs metric
  let estimates ← runEstimates fp runs summaries metric
  return {
    totalCount := runs.length
    withSamplesCount := withSamples
    withoutSamplesCount := runs.length - withSamples
    withDeadlineMissCount := missed
    withDeadlineMissRate :=
      if withSamples = 0 then none
      else missed.map fun count => fp.nearest (count / withSamples : ℚ)
    independentRunEstimates := estimates }

/-- One turn of the loop over the metrics. -/
def aggregateMetric (runs : List (RunData κ)) (summaries : List (RunSummary κ F))
    (deadlineNs : Option Int) (metric : Metric) : Option (AggregatedMetric F) := do
  let pooled := runs.flatMap fun run => run.metricValues metric
  let packetLevel ← metricStatistics fp pooled deadlineNs
  let runLevel ← runLevel fp runs summaries deadlineNs metric
  return ⟨deadlineNs, runLevel, packetLevel⟩

/-- `none` is the `OverflowError`. The callers pass at least one run, so that `runs[0]` is there. -/
def aggregateRuns (runs : List (RunData κ)) (deadlineNs : Option Int) :
    Option (Aggregation κ F) := do
  let summaries ← runs.mapM fun run => runSummary fp run deadlineNs
  let metrics ← Metric.mapM (aggregateMetric fp runs summaries deadlineNs)
  return {
    runIds := runs.map RunData.runId
    deadlineNs := deadlineNs
    cohort := runs.head?.map fun run => (run.parameters, run.cohortIdentity, run.analysisPolicy)
    runs := summaries
    metrics := metrics }

/-! ## `aggregate_by_flow` -/

/-- The joined files as text, where they can be read. -/
abbrev JoinedFiles := Path → Option Text

/-- `run_flow_ids`, in the order of the file. -/
def runFlowIds (files : JoinedFiles) (run : RunData κ) : Loaded (List Int) :=
  match files run.joinedPath with
  | none => .error (.cannotOpen run.joinedPath)
  | some text =>
    match readTable (splitLines text) with
    | none => .error .csvSyntax
    | some file =>
      file.rows.mapM fun row =>
        match (cell (file.fieldnames.getD []) row "flow_id".toList).bind readInt with
        | some flowId => .ok flowId
        | none => .error .flowIdUnreadable

def selectFlow (files : JoinedFiles) (run : RunData κ) (flowId : Int) : Loaded (RunData κ) :=
  match files run.joinedPath with
  | none => .error (.cannotOpen run.joinedPath)
  | some text => do
    let selected ← loadJoinedMetrics text (some flowId)
    return { run with joinedRows := selected.rowCount, metricValues := selected.values }

/-- `sorted(set(...))`. -/
def sortedSet (ids : List Int) : List Int := (sorted ids).dedup

def flowIdsOf (files : JoinedFiles) (runs : List (RunData κ)) (flowIds : Option (List Int)) :
    Loaded (List Int) :=
  match flowIds with
  | some ids => .ok (sortedSet ids)
  | none => do
    let ids ← runs.mapM (runFlowIds files)
    return sortedSet ids.flatten

structure FlowAggregation (κ F : Type) where
  runIds : List Str
  flows : List (Int × Aggregation κ F)

/-- One turn of the loop over the flows; `deadlines.get(flow_id, default_deadline)` is its
deadline. -/
def aggregateFlow (files : JoinedFiles) (runs : List (RunData κ)) (deadlines : List (Int × Int))
    (defaultDeadline : Option Int) (flowId : Int) : Loaded (Int × Aggregation κ F) := do
  let selected ← runs.mapM fun run => selectFlow files run flowId
  match aggregateRuns fp selected ((deadlines.lookup flowId).or defaultDeadline) with
  | some aggregation => return (flowId, aggregation)
  | none => .error .overflow

def aggregateByFlow (files : JoinedFiles) (runs : List (RunData κ)) (deadlines : List (Int × Int))
    (defaultDeadline : Option Int) (flowIds : Option (List Int)) :
    Loaded (FlowAggregation κ F) := do
  let ids ← flowIdsOf files runs flowIds
  if deadlines.any fun entry => entry.1 ∉ ids then .error .deadlineForAbsentFlow
  else do
    let flows ← ids.mapM (aggregateFlow fp files runs deadlines defaultDeadline)
    return ⟨runs.map RunData.runId, flows⟩

end Aggregate

end AceXdp
