import AceXdp.Join.CalibrationMerge
import AceXdp.Join.RowDict

/-!
# AceXdp — `analyze` of the analyser

The full outer join: the four tables are loaded, the receiver files of UDP merged into one, and every
key of any table gets a row. The inputs are the contents of the files; the paths, the digests of the
inputs and the statistics of the summary are left out.
-/

namespace AceXdp

/-- What the arguments name. A source may not be given; there may be several UDP files. -/
structure AnalyzeInput where
  ingress : Text
  cpumap : Option Text
  afxdp : Option Text
  udpNative : Option (List (List UInt8))
  phcCalibration : List CalibrationInput
  allowEndpointClamp : Bool

inductive AnalyzeError where
  | input (error : InputError)
  | udpOverlap (key : Key)
  | calibration (error : CalibrationError)
  deriving DecidableEq, Repr

/-- The order of two tuples. -/
def keyLe (a b : Key) : Bool := a.1 < b.1 || (a.1 = b.1 && a.2 ≤ b.2)

/-- `min(overlap)`. -/
def leastKey (first : Key) (rest : List Key) : Key :=
  rest.foldl (fun a b => if keyLe a b then a else b) first

/-! ## `load_udp_sources` -/

/-- One more receiver file. -/
def mergeUdp (merged : SourceTable) (contents : List UInt8) : Except AnalyzeError SourceTable := do
  let table ← (loadUdpRecords contents).mapError .input
  match merged.keys.filter (· ∈ table.keys) with
  | key :: rest => throw (.udpOverlap (leastKey key rest))
  | [] => return {
      records := merged.records ++ table.records
      rows := merged.rows + table.rows
      duplicateRows := merged.duplicateRows + table.duplicateRows
      conflictingDuplicateRows :=
        merged.conflictingDuplicateRows + table.conflictingDuplicateRows }

def loadUdpSources : Option (List (List UInt8)) → Except AnalyzeError SourceTable
  | none => .ok emptyTable
  | some files => files.foldlM mergeUdp emptyTable

/-! ## The join -/

structure SourceTables where
  ingress : SourceTable
  cpumap : SourceTable
  afxdp : SourceTable
  udp : SourceTable

/-- A CSV source that need not be given. -/
def optionalTable (text : Option Text) (required : List Text) : Except AnalyzeError SourceTable :=
  match text with
  | none => .ok emptyTable
  | some text => (loadCsvTable text required).mapError .input

def loadSources (input : AnalyzeInput) : Except AnalyzeError SourceTables := do
  let ingress ← (loadCsvTable input.ingress ingressRequired).mapError .input
  let cpumap ← optionalTable input.cpumap cpumapRequired
  let afxdp ← optionalTable input.afxdp afxdpRequired
  let udp ← loadUdpSources input.udpNative
  return ⟨ingress, cpumap, afxdp, udp⟩

namespace SourceTables

variable (t : SourceTables)

/-- `sorted(keys)`, the union of the keys. -/
def sortedKeys : List Key :=
  (t.ingress.keys ++ t.cpumap.keys ++ t.afxdp.keys ++ t.udp.keys).dedup.mergeSort keyLe

/-- What the tables hold for a key. -/
def recordsOf (key : Key) : RecordSources where
  ingress := t.ingress.records.lookup key
  cpumap := t.cpumap.records.lookup key
  afxdp := t.afxdp.records.lookup key
  udp := t.udp.records.lookup key

end SourceTables

/-- `source_summary`. -/
structure SourceSummary where
  provided : Bool
  rows : Nat
  uniqueKeys : Nat
  duplicateRows : Nat
  conflictingDuplicateRows : Nat
  deriving DecidableEq, Repr

def sourceSummary (table : SourceTable) (provided : Bool) : SourceSummary where
  provided := provided
  rows := table.rows
  uniqueKeys := table.records.length
  duplicateRows := table.duplicateRows
  conflictingDuplicateRows := table.conflictingDuplicateRows

/-- The rows, and the summaries of the four sources. -/
structure Analysis where
  rows : List RowDict
  ingress : SourceSummary
  cpumap : SourceSummary
  afxdp : SourceSummary
  udp : SourceSummary

def joinTables (input : AnalyzeInput) (t : SourceTables) (c : Calibration) : Analysis where
  rows := t.sortedKeys.map fun key => joinedDict key (t.recordsOf key) c input.allowEndpointClamp
  ingress := sourceSummary t.ingress true
  cpumap := sourceSummary t.cpumap input.cpumap.isSome
  afxdp := sourceSummary t.afxdp input.afxdp.isSome
  udp := sourceSummary t.udp input.udpNative.isSome

def analyze (input : AnalyzeInput) : Except AnalyzeError Analysis := do
  let t ← loadSources input
  match hc : loadCalibration input.phcCalibration with
  | .error error => throw (.calibration error)
  | .ok _ => return joinTables input t (calibrationOf hc)

end AceXdp
