import AceXdp.Join.Analyze
import AceXdp.Join.Output
import AceXdp.Join.Summary

/-!
# AceXdp — `build_summary` of the analyser

The record of one analysis: what was read and its digests, how many packets each source saw, and the
statistics of every metric, over all rows and for each flow. How a double is printed belongs to the
language and is the parameter `repr`.

* `BuildSummary.artifacts`, `BuildSummary.version`: the two members that `write_outputs` looks up.
-/

namespace AceXdp

open Disk Json

/-- `Manifest`. -/
structure Manifest where
  path : Path
  runDirectory : Path
  version : Int
  runId : Str

/-- A value of `input_paths`: a path, several, or `None`. -/
inductive InputPath where
  | absent
  | one (path : Path)
  | many (paths : List Path)
  deriving DecidableEq, Repr

def InputPath.ofOption : Option Path → InputPath
  | some path => .one path
  | none => .absent

def InputPath.paths : InputPath → List Path
  | .absent => []
  | .one path => [path]
  | .many paths => paths

/-- `args` as `validate_arguments` leaves them behind: the manifest loaded, every path resolved. -/
structure Arguments where
  manifest : Manifest
  ingress : Path
  cpumap : Option Path
  afxdp : Option Path
  /-- a single receiver file is a path and not a list -/
  udpNative : InputPath
  phcCalibration : List Path
  allowEndpointClamp : Bool
  outputCsv : Path
  summaryJson : Path
  completionMarker : Path

/-- The inputs that are joined, by their names in `input_paths`. -/
def Arguments.joined (args : Arguments) : List (String × InputPath) :=
  [("ingress", .one args.ingress), ("cpumap", .ofOption args.cpumap),
    ("afxdp", .ofOption args.afxdp), ("udp_native", args.udpNative),
    ("phc_calibration", .many args.phcCalibration)]

/-- `input_paths`. -/
def Arguments.inputPaths (args : Arguments) : List (String × InputPath) :=
  ("manifest", .one args.manifest.path) :: args.joined

namespace BuildSummary

/-- A dictionary literal. -/
def dict (members : List (String × Value)) : List (Str × Value) :=
  members.map fun m => (str m.1, m.2)

def text (s : String) : Value := .string (str s)

def count (n : Nat) : Value := .int n

def optionInt : Option Int → Value
  | some n => .int n
  | none => .null

/-! ## Cells of a row -/

/-- `row[field]`. -/
def cell (row : RowDict) (field : String) : Cell := (row.lookup field.toList).getD .none

/-- The number in a cell, if it is one. -/
def number (row : RowDict) (field : String) : Option Int :=
  match cell row field with
  | .int n => some n
  | _ => none

def isText (row : RowDict) (field value : String) : Bool := cell row field = .text value.toList

/-- The truth value of a text cell. -/
def filledText (row : RowDict) (field : String) : Option Text :=
  match cell row field with
  | .text t => if t = [] then none else some t
  | _ => none

/-- `bool(row["inconsistency_flags"] & bit)`. -/
def hasFlag (bit : Nat) (row : RowDict) : Bool :=
  ((number row "inconsistency_flags").getD 0).toNat &&& bit ≠ 0

/-! ## The parts -/

/-- `lookup_summary`. -/
def lookupSummary (rows : List RowDict) (prefixes : List String) : List (String × Value) :=
  let lookups := rows.flatMap fun row => prefixes.map fun point => (row, "calibration_" ++ point)
  let positions := lookups.filterMap fun p => filledText p.1 (p.2 ++ "_position")
  let distances := (lookups.filter fun p => number p.1 (p.2 ++ "_out_of_range") = some 1).filterMap
    fun p => number p.1 (p.2 ++ "_distance_ns")
  [("total", count positions.length),
    ("before", count (positions.count "before".toList)),
    ("inside", count (positions.count "inside".toList)),
    ("exact", count (positions.count "exact".toList)),
    ("after", count (positions.count "after".toList)),
    ("out_of_range", count distances.length),
    ("max_distance_ns", optionInt distances.max?)]

/-- `decomposition_summary`. -/
def decompositionSummary (rows : List RowDict) : Value :=
  let residuals := rows.filterMap fun row => number row "segment_residual_ns"
  .obj (dict [("equation", text "user-hw = d1 + d2 + d3"),
    ("mapping", .obj (dict [("d1", text "xdp-hw"),
      ("d2", text "cpumap-xdp for CPUMAP; 0 for PASS/AF_XDP"),
      ("d3", text "user-cpumap for CPUMAP; user-xdp for PASS/AF_XDP")])),
    ("residual_definition", text "user-hw - (d1 + d2 + d3)"),
    ("counts", .obj (dict (["complete", "incomplete", "invalid", "mismatch"].map fun status =>
      (status, count (rows.countP fun row => isText row "segment_status" status))))),
    ("checked_count", count residuals.length),
    ("nonzero_residual_count", count (residuals.countP (· ≠ 0))),
    ("max_abs_residual_ns", optionInt ((residuals.map fun r => (r.natAbs : Int)).max?))])

/-- `METRIC_FIELDS`. -/
def metricFields : List (String × String) :=
  [("xdp-hw", "xdp_hw_ns"), ("cpumap-xdp", "cpumap_xdp_ns"), ("user-cpumap", "user_cpumap_ns"),
    ("user-xdp", "user_xdp_ns"), ("user-hw", "user_hw_ns")]

/-- The values of one metric over the rows. -/
def metricValues (rows : List RowDict) (field : String) : List Int :=
  rows.filterMap fun row => number row field

section

variable (round : ℚ → ℚ) (repr : ℚ → List Char)

/-- `statistics.median`: the value in the middle as it is, or the mean of the two. -/
def medianValue (values : List Int) (medianNs : ℚ) : Value :=
  if values.length % 2 = 1 then .int ((sorted values).getD (values.length / 2) 0)
  else .float (repr medianNs)

/-- `summarize_metric`. -/
def metricSummary (values : List Int) (joinedRows : Nat) : Value :=
  let s := summarizeMetric round values joinedRows
  .obj (dict ([("unit", text "ns"), ("count", count s.count),
    ("missing_count", .int s.missingCount), ("negative_count", count s.negativeCount)] ++
    match s.distribution with
    | none => ["min_ns", "max_ns", "mean_ns", "median_ns", "p95_ns", "p99_ns"].map (·, .null)
    | some d =>
      [("min_ns", .int d.minNs), ("max_ns", .int d.maxNs), ("mean_ns", .float (repr d.meanNs)),
        ("median_ns", medianValue repr values d.medianNs), ("p95_ns", optionInt d.p95Ns),
        ("p99_ns", optionInt d.p99Ns)]))

/-- The statistics of each metric over some rows. -/
def metrics (rows : List RowDict) : Value :=
  .obj (dict (metricFields.map fun m =>
    (m.1, metricSummary round repr (metricValues rows m.2) rows.length)))

/-- The section of one flow. -/
def flowSection (rows : List RowDict) (flowId : Int) : Str × Value :=
  let own := rows.filter fun row => number row "flow_id" = some flowId
  ((Decimal.intText flowId).map Char.toNat,
    .obj (dict [("joined_rows", count own.length), ("decomposition", decompositionSummary own),
      ("metrics", metrics round repr own)]))

end

/-- `INCONSISTENCY_BITS`. -/
def inconsistencyBits : List (String × Nat) :=
  [("ingress_path", inconsistentIngressPath),
    ("cpumap_ingress_path", inconsistentCpumapIngressPath),
    ("cpumap_path", inconsistentCpumapPath), ("cpumap_flags", inconsistentCpumapFlags),
    ("udp_path", inconsistentUdpPath), ("afxdp_path", inconsistentAfXdpPath),
    ("afxdp_metadata", inconsistentAfXdpMetadata), ("ambiguous_user", inconsistentAmbiguousUser),
    ("ingress_flags", inconsistentIngressFlags), ("udp_flags", inconsistentUdpFlags)]

def pathText (path : Path) : Value := .string path.text

/-- A value of `serialized_inputs`. -/
def serializedInput : InputPath → Value
  | .absent => .null
  | .one path => pathText path
  | .many paths => .arr (paths.map pathText)

def sourceValue (s : SourceSummary) : Value :=
  .obj (dict [("provided", .bool s.provided), ("rows", count s.rows),
    ("unique_keys", count s.uniqueKeys), ("duplicate_rows", count s.duplicateRows),
    ("conflicting_duplicate_rows", count s.conflictingDuplicateRows)])

/-- The sources by their names. -/
def sources (a : Analysis) : List (String × SourceSummary) :=
  [("ingress", a.ingress), ("cpumap", a.cpumap), ("afxdp", a.afxdp), ("udp", a.udp)]

/-- `HW_TIMESTAMP_POLICY`. -/
def hwTimestampPolicy : String := "one-hw-monotonic-per-packet:xdp-reference-else-user"

def calibrationSection (rows : List RowDict) (c : LoadedCalibration) (clamp : Bool) : Value :=
  .obj (dict [("files", .arr (c.files.map fun file => .obj (dict [("path", pathText file.path),
      ("rows", count file.rows), ("selected_rows", count file.selectedRows)]))),
    ("rows", count c.rows), ("selected_rows", count c.selectedRows),
    ("unique_selected_times", count c.points.length),
    ("duplicate_selected_times", count c.duplicateSelectedTimes),
    ("first_monotonic_ns", optionInt (c.points.head?.map CalibrationPoint.monotonicNs)),
    ("last_monotonic_ns", optionInt (c.points.getLast?.map CalibrationPoint.monotonicNs)),
    ("outside_range_policy",
      text (if clamp then "endpoint-clamp" else "exclude-clock-crossing-metrics")),
    ("inside_range_policy", text "linear-interpolation"),
    ("hw_timestamp_policy", text hwTimestampPolicy),
    ("diagnostic_lookups",
      text "xdp/user lookups describe coverage; hw_calibration_* records the one selected offset"),
    ("lookups", .obj (dict (lookupSummary rows ["xdp", "user"] ++
      [("xdp", .obj (dict (lookupSummary rows ["xdp"]))),
        ("user", .obj (dict (lookupSummary rows ["user"])))])))])

def missingSection (rows : List RowDict) : Value :=
  .obj (dict ((["ingress", "cpumap", "afxdp", "udp"].map fun name =>
      (name, count (rows.countP fun row => number row (name ++ "_present") = some 0)))
    ++ [("user", count (rows.countP fun row => (filledText row "user_source").isNone)),
      ("ambiguous_user", count (rows.countP fun row => isText row "user_source" "ambiguous"))]))

def inconsistencySection (rows : List RowDict) : Value :=
  let counts := inconsistencyBits.map fun b => (b.1, rows.countP (hasFlag b.2))
  .obj (dict ((counts.map fun c => (c.1, count c.2))
    ++ [("rows", count (rows.countP fun row => number row "inconsistency_flags" ≠ some 0)),
      ("total", count (counts.map Prod.snd).sum)]))

/-- `sorted({row["flow_id"] for row in rows})`. -/
def flowIds (rows : List RowDict) : List Int :=
  (sorted (rows.filterMap fun row => number row "flow_id")).dedup

end BuildSummary

open BuildSummary in
/-- `build_summary`. -/
def buildSummary (round : ℚ → ℚ) (repr : ℚ → List Char) (args : Arguments) (a : Analysis)
    (c : LoadedCalibration) (artifacts : List (Str × Value)) : List (Str × Value) :=
  dict [("schema_version", .int 4),
    ("run", .obj (dict [("manifest", pathText args.manifest.path),
      ("manifest_version", .int args.manifest.version),
      ("run_directory", pathText args.manifest.runDirectory),
      ("run_id", .string args.manifest.runId)])),
    ("join_key", .arr [text "flow_id", text "sequence"]),
    ("joined_rows", count a.rows.length),
    ("inputs", .obj (dict (args.inputPaths.map fun item => (item.1, serializedInput item.2)))),
    ("input_artifacts", .obj artifacts),
    ("completion_marker", pathText args.completionMarker),
    ("sources", .obj (dict ((sources a).map fun s => (s.1, sourceValue s.2)))),
    ("calibration", calibrationSection a.rows c args.allowEndpointClamp),
    ("duplicates", .obj (dict (((sources a).map fun s => (s.1, count s.2.duplicateRows))
      ++ [("total", count ((sources a).map fun s => s.2.duplicateRows).sum)]))),
    ("missing", missingSection a.rows),
    ("inconsistency_bit_definitions",
      .obj (dict (inconsistencyBits.map fun b => (b.1, count b.2)))),
    ("inconsistencies", inconsistencySection a.rows),
    ("negative", .obj (dict (metricFields.map fun m =>
      (m.1, count ((metricValues a.rows m.2).countP (· < 0)))))),
    ("metrics", metrics round repr a.rows),
    ("decomposition", decompositionSummary a.rows),
    ("flows", .obj ((flowIds a.rows).map (flowSection round repr a.rows)))]

namespace BuildSummary

variable {round : ℚ → ℚ} {repr : ℚ → List Char} {args : Arguments} {a : Analysis}
variable {c : LoadedCalibration} {recorded : List (Str × Value)}

theorem nodup :
    ((buildSummary round repr args a c recorded).map Prod.fst).Nodup := by
  have hkeys : (["schema_version", "run", "join_key", "joined_rows", "inputs", "input_artifacts",
      "completion_marker", "sources", "calibration", "duplicates", "missing",
      "inconsistency_bit_definitions", "inconsistencies", "negative", "metrics", "decomposition",
      "flows"].map str).Nodup :=
    List.Nodup.map str_injective (by decide)
  simpa only [buildSummary, dict, List.map_cons, List.map_nil] using hkeys

theorem artifacts :
    field (buildSummary round repr args a c recorded) "input_artifacts" = some (.obj recorded) :=
  field_of_mem nodup (by simp [buildSummary, dict])

theorem version :
    field (buildSummary round repr args a c recorded) "schema_version" = some (.int 4) :=
  field_of_mem nodup (by simp [buildSummary, dict])

end BuildSummary

end AceXdp
