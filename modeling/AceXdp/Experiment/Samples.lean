import Mathlib.Algebra.BigOperators.Group.Finset.Basic
import Mathlib.Data.Rat.Defs
import Mathlib.Data.Fintype.Basic
import AceXdp.Aggregate.Runs
import AceXdp.Lib.Interpolant

/-!
# AceXdp — CPU and network samples over the measurement window

`receiver_measurement_window`, `measurement_cpu_summary` and `measurement_network_summary` of the
experiment analysis. Both summaries read a CSV of cumulative counters, group it by CPU or
interface, and weigh the counter differences of adjacent samples by their overlap with the window.
Floating-point numbers are rational here. A division by zero is the one exception that the
summaries do not turn into a status.
-/

namespace AceXdp

namespace Samples

open Csv Decimal Interpolant

/-! ## `receiver_measurement_window` -/

/-- The window: its status, and the first and last observation. -/
inductive MeasurementWindow where
  | available (startNs endNs : Int) (lt : startNs < endNs)
  | unavailable (startNs endNs : Option Int)
  deriving DecidableEq, Repr

/-- What the function raises itself: the reader of the CSV, `int`, and `load_udp_records`. -/
inductive WindowError where
  | csvSyntax
  | invalidInteger
  | udpRecords (err : InputError)
  deriving DecidableEq, Repr

/-- `first` and `last`. -/
structure Bounds where
  first : Option Int := none
  last : Option Int := none
  deriving DecidableEq, Repr

def Bounds.lower (b : Bounds) (t : Int) : Bounds :=
  { b with first := some (b.first.elim t (min · t)) }

def Bounds.raise (b : Bounds) (t : Int) : Bounds := { b with last := some (b.last.elim t (max · t)) }

/-- `int(row[field]) if row.get(field) else 0`. -/
def optionalInteger (names row : List Text) (field : String) : Except WindowError Int :=
  match Aggregate.cell names row field.toList with
  | none => .ok 0
  | some text =>
    if text = [] then .ok 0
    else match readInt text with
      | some n => .ok n
      | none => .error .invalidInteger

def Bounds.addRow (names : List Text) (b : Bounds) (row : List Text) : Except WindowError Bounds := do
  let ingress ← optionalInteger names row "initial_xdp_ns"
  let user ← optionalInteger names row "user_rx_mono_ns"
  let cpumap ← optionalInteger names row "cpumap_ns"
  let b := if ingress > 0 then (b.lower ingress).raise ingress else b
  let b := if cpumap > 0 then b.raise cpumap else b
  let source := Aggregate.cell names row "user_source".toList
  return if user > 0 ∧ (source = some "udp".toList ∨ source = some "afxdp".toList) then b.raise user
    else b

def Bounds.addRecord (b : Bounds) (record : Record) : Bounds :=
  let timestamp := (record.lookup "user_rx_mono_ns".toList).getD 0
  if timestamp > 0 then (b.lower timestamp).raise timestamp else b

/-- One UDP capture. -/
def Bounds.addCapture (b : Bounds) (content : List UInt8) : Except WindowError Bounds :=
  match loadUdpRecords content with
  | .error err => .error (.udpRecords err)
  | .ok table => .ok (table.records.foldl (fun b entry => b.addRecord entry.2) b)

def Bounds.window (b : Bounds) : MeasurementWindow :=
  match b.first, b.last with
  | some first, some last =>
    if h : last > first then .available first last h else .unavailable b.first b.last
  | _, _ => .unavailable b.first b.last

/-- Where the observations come from: the joined CSV of an accepted run, or else the UDP captures
in the order of their names. -/
inductive WindowSource where
  | run (joined : Text)
  | captures (contents : List (List UInt8))

def receiverMeasurementWindow : WindowSource → Except WindowError MeasurementWindow
  | .run joined =>
    match readTable (splitLines joined) with
    | none => .error .csvSyntax
    | some file => do
      let b ← file.rows.foldlM (Bounds.addRow (file.fieldnames.getD [])) {}
      return b.window
  | .captures contents => do
    let b ← contents.foldlM Bounds.addCapture {}
    return b.window

/-! ## Samples -/

/-- `CPU_COUNTERS`. -/
inductive CpuCounter where
  | user | nice | system | idle | iowait | irq | softirq | steal
  deriving DecidableEq, Repr

instance : Fintype CpuCounter where
  elems := {.user, .nice, .system, .idle, .iowait, .irq, .softirq, .steal}
  complete i := by cases i <;> decide

/-- `NETWORK_COUNTERS`. -/
inductive NetworkCounter where
  | rxBytes | rxPackets | rxErrors | rxDropped | txBytes | txPackets | txErrors | txDropped
  deriving DecidableEq, Repr

instance : Fintype NetworkCounter where
  elems := {.rxBytes, .rxPackets, .rxErrors, .rxDropped, .txBytes, .txPackets, .txErrors, .txDropped}
  complete i := by cases i <;> decide

/-- The column of a counter; the time and the identifier stand in front. -/
def CpuCounter.column : CpuCounter → Nat
  | .user => 2
  | .nice => 3
  | .system => 4
  | .idle => 5
  | .iowait => 6
  | .irq => 7
  | .softirq => 8
  | .steal => 9

def NetworkCounter.column : NetworkCounter → Nat
  | .rxBytes => 2
  | .rxPackets => 3
  | .rxErrors => 4
  | .rxDropped => 5
  | .txBytes => 6
  | .txPackets => 7
  | .txErrors => 8
  | .txDropped => 9

def cpuColumns : List Text :=
  ["monotonic_ns", "cpu", "user", "nice", "system", "idle", "iowait", "irq", "softirq",
    "steal"].map String.toList

def networkColumns : List Text :=
  ["monotonic_ns", "interface", "rx_bytes", "rx_packets", "rx_errors", "rx_dropped", "tx_bytes",
    "tx_packets", "tx_errors", "tx_dropped"].map String.toList

/-- The name of a counter, as the header has it. -/
def CpuCounter.name : CpuCounter → String
  | .user => "user"
  | .nice => "nice"
  | .system => "system"
  | .idle => "idle"
  | .iowait => "iowait"
  | .irq => "irq"
  | .softirq => "softirq"
  | .steal => "steal"

def NetworkCounter.name : NetworkCounter → String
  | .rxBytes => "rx_bytes"
  | .rxPackets => "rx_packets"
  | .rxErrors => "rx_errors"
  | .rxDropped => "rx_dropped"
  | .txBytes => "tx_bytes"
  | .txPackets => "tx_packets"
  | .txErrors => "tx_errors"
  | .txDropped => "tx_dropped"

/-- The columns stand where their names are. -/
def ColumnsNamed {ι : Type} (columns : List Text) (identifier : String) (name : ι → String)
    (column : ι → Nat) : Prop :=
  columns.Nodup ∧ columns[0]? = some "monotonic_ns".toList
    ∧ columns[1]? = some identifier.toList ∧ ∀ i, columns[column i]? = some (name i).toList

theorem cpuColumns_named : ColumnsNamed cpuColumns "cpu" CpuCounter.name CpuCounter.column :=
  ⟨by decide, rfl, rfl, fun i => by cases i <;> rfl⟩

theorem networkColumns_named :
    ColumnsNamed networkColumns "interface" NetworkCounter.name NetworkCounter.column :=
  ⟨by decide, rfl, rfl, fun i => by cases i <;> rfl⟩

/-- `reason` of an invalid file; the last one is `ZeroDivisionError`, which is not caught. -/
inductive SampleError where
  | csvSyntax
  | invalidWindow
  | unexpectedColumns
  | invalidIdentifier
  | notCounters
  | exceedsUint64
  | timesNotIncreasing
  | counterDecreased
  | tooFewSnapshots
  | incompleteSnapshot
  | noIntervals
  | zeroDivision
  deriving DecidableEq, Repr

structure Sample (ι : Type) where
  time : Nat
  counters : ι → Nat

/-- The samples by CPU or interface, and the identifiers seen at each time. -/
structure SampleTable (ι : Type) where
  byKey : List (Text × List (Sample ι))
  snapshots : List (Nat × Finset Text)

def SampleTable.empty (ι : Type) : SampleTable ι := ⟨[], []⟩

/-- `by_cpu.setdefault(cpu, []).append(sample)`. -/
def appendSample {ι : Type} (key : Text) (sample : Sample ι) :
    List (Text × List (Sample ι)) → List (Text × List (Sample ι))
  | [] => [(key, [sample])]
  | (k, samples) :: rest =>
    if k = key then (k, samples ++ [sample]) :: rest
    else (k, samples) :: appendSample key sample rest

/-- `snapshots.setdefault(timestamp, set()).add(cpu)`. -/
def addSnapshot (time : Nat) (key : Text) : List (Nat × Finset Text) → List (Nat × Finset Text)
  | [] => [(time, {key})]
  | (t, keys) :: rest =>
    if t = time then (t, insert key keys) :: rest else (t, keys) :: addSnapshot time key rest

def SampleTable.add {ι : Type} (t : SampleTable ι) (key : Text) (sample : Sample ι) : SampleTable ι :=
  ⟨appendSample key sample t.byKey, addSnapshot sample.time key t.snapshots⟩

def SampleTable.last {ι : Type} (t : SampleTable ι) (key : Text) : Option (Sample ι) :=
  (t.byKey.lookup key).bind List.getLast?

def SampleTable.keys {ι : Type} (t : SampleTable ι) : Finset Text := (t.byKey.map Prod.fst).toFinset

/-- `value.isascii() and value.isdigit()`, then `int(value)`. -/
def digits (value : Option Text) : Option Nat :=
  value.bind fun text => if text ≠ [] ∧ text.all Char.isDigit then readUnsigned text else none

/-- The time and the counters of a record, all of them digits. -/
def readSample {ι : Type} [Fintype ι] (column : ι → Nat) (row : List Text) : Option (Sample ι) :=
  (digits row[0]?).bind fun time =>
    if ∀ i, (digits row[column i]?).isSome then some ⟨time, fun i => (digits row[column i]?).getD 0⟩
    else none

def isCpuId (cpu : Text) : Bool := cpu = "all".toList || (cpu ≠ [] && cpu.all Char.isDigit)

def addCpuRow (t : SampleTable CpuCounter) (row : List Text) :
    Except SampleError (SampleTable CpuCounter) :=
  match row[1]? with
  | none => .error .invalidIdentifier
  | some cpu =>
    if ¬isCpuId cpu then .error .invalidIdentifier
    else match readSample CpuCounter.column row with
      | none => .error .notCounters
      | some sample =>
        if (t.last cpu).any fun last => sample.time ≤ last.time then .error .timesNotIncreasing
        else .ok (t.add cpu sample)

/-- `[A-Za-z0-9_.:-]{1,15}`. -/
def isInterface (name : Text) : Bool :=
  1 ≤ name.length && name.length ≤ 15 &&
    name.all fun c => c.isAlphanum || c = '_' || c = '.' || c = ':' || c = '-'

def uint64Max : Nat := 2 ^ 64 - 1

def addNetworkRow (t : SampleTable NetworkCounter) (row : List Text) :
    Except SampleError (SampleTable NetworkCounter) :=
  match row[1]? with
  | none => .error .invalidIdentifier
  | some interface =>
    if ¬isInterface interface then .error .invalidIdentifier
    else if networkColumns.length < row.length then .error .notCounters
    else match readSample NetworkCounter.column row with
      | none => .error .notCounters
      | some sample =>
        if uint64Max < sample.time ∨ ∃ i, uint64Max < sample.counters i then .error .exceedsUint64
        else if (t.last interface).any fun last => sample.time ≤ last.time then
          .error .timesNotIncreasing
        else if (t.last interface).any fun last => ∃ i, sample.counters i < last.counters i then
          .error .counterDecreased
        else .ok (t.add interface sample)

/-- The end of both loaders: at least two snapshots, each with a row of every identifier. -/
def checkSnapshots {ι : Type} (t : SampleTable ι) : Except SampleError (SampleTable ι) :=
  if t.snapshots.length < 2 then .error .tooFewSnapshots
  else if ∃ snapshot ∈ t.snapshots, snapshot.2 ≠ t.keys then .error .incompleteSnapshot
  else .ok t

def loadCpuSamples (text : Text) : Except SampleError (SampleTable CpuCounter) :=
  match readTable (splitLines text) with
  | none => .error .csvSyntax
  | some file =>
    if file.fieldnames ≠ some cpuColumns then .error .unexpectedColumns
    else do
      let t ← file.rows.foldlM addCpuRow (.empty CpuCounter)
      if "all".toList ∉ t.keys then .error .tooFewSnapshots else checkSnapshots t

def loadNetworkSamples (text : Text) : Except SampleError (SampleTable NetworkCounter) :=
  match readTable (splitLines text) with
  | none => .error .csvSyntax
  | some file =>
    if file.fieldnames ≠ some networkColumns then .error .unexpectedColumns
    else do
      let t ← file.rows.foldlM addNetworkRow (.empty NetworkCounter)
      if t.byKey = [] then .error .tooFewSnapshots else checkSnapshots t

/-! ## One CPU, one interface -/

/-- A division of the source. -/
def divide (a b : ℚ) : Except SampleError ℚ := if b = 0 then .error .zeroDivision else .ok (a / b)

def overlapNs (startNs endNs : Int) (before after : Nat) : Int :=
  max 0 (min endNs after - max startNs before)

/-- `totals` and `covered`. -/
structure Accumulated (ι : Type) where
  totals : ι → ℚ
  coveredNs : Int

def Accumulated.zero (ι : Type) : Accumulated ι := ⟨fun _ => 0, 0⟩

/-- Add the differences of an interval in proportion to its overlap. -/
def Accumulated.add {ι : Type} (acc : Accumulated ι) (overlap elapsed : Int) (delta : ι → Int) :
    Except SampleError (Accumulated ι) := do
  let ratio ← divide overlap elapsed
  return ⟨fun i => acc.totals i + delta i * ratio, acc.coveredNs + overlap⟩

section Interval

variable {ι : Type}

def elapsed (pair : Sample ι × Sample ι) : Int := pair.2.time - pair.1.time

def delta (pair : Sample ι × Sample ι) (i : ι) : Int := pair.2.counters i - pair.1.counters i

variable (startNs endNs : Int)

/-- An interval of the CPU summary. One without a tick is not counted as covered. -/
def addCpuInterval (acc : Accumulated CpuCounter) (pair : Sample CpuCounter × Sample CpuCounter) :
    Except SampleError (Accumulated CpuCounter) :=
  let overlap := overlapNs startNs endNs pair.1.time pair.2.time
  if overlap = 0 then .ok acc
  else if ∃ i, delta pair i < 0 then .error .counterDecreased
  else if ∑ i, delta pair i ≤ 0 then .ok acc
  else acc.add overlap (elapsed pair) (delta pair)

/-- An interval of the network summary. -/
def addNetworkInterval (acc : Accumulated NetworkCounter)
    (pair : Sample NetworkCounter × Sample NetworkCounter) :
    Except SampleError (Accumulated NetworkCounter) :=
  let overlap := overlapNs startNs endNs pair.1.time pair.2.time
  if overlap = 0 then .ok acc else acc.add overlap (elapsed pair) (delta pair)

structure Coverage where
  coveredNs : Int
  fraction : ℚ
  deriving DecidableEq, Repr

def coverageOf (coveredNs : Int) : Except SampleError Coverage := do
  let fraction ← divide coveredNs (endNs - startNs : Int)
  return ⟨coveredNs, fraction⟩

/-- The eight percentages and `busy_pct`. -/
structure CpuPercentages where
  share : CpuCounter → ℚ
  busyPct : ℚ

def cpuPercentages (totals : CpuCounter → ℚ) : Except SampleError CpuPercentages :=
  let total := ∑ i, totals i
  if total = 0 then .error .zeroDivision
  else .ok
    { share := fun i => totals i * 100 / total
      busyPct := (total - totals .idle - totals .iowait) * 100 / total }

def summarizeCpu (samples : List (Sample CpuCounter)) :
    Except SampleError (Coverage × Option CpuPercentages) := do
  let acc ← (pairs samples).foldlM (addCpuInterval startNs endNs) (.zero CpuCounter)
  let coverage ← coverageOf startNs endNs acc.coveredNs
  if acc.coveredNs = endNs - startNs then do
    let percentages ← cpuPercentages acc.totals
    return (coverage, some percentages)
  else return (coverage, none)

/-- The totals and the rates. -/
structure NetworkValues where
  totals : NetworkCounter → ℚ
  rxBps : ℚ
  rxPps : ℚ
  txBps : ℚ
  txPps : ℚ

def networkValues (totals : NetworkCounter → ℚ) : Except SampleError NetworkValues := do
  let rxBps ← divide (totals .rxBytes * 8000000000) (endNs - startNs : Int)
  let rxPps ← divide (totals .rxPackets * 1000000000) (endNs - startNs : Int)
  let txBps ← divide (totals .txBytes * 8000000000) (endNs - startNs : Int)
  let txPps ← divide (totals .txPackets * 1000000000) (endNs - startNs : Int)
  return ⟨totals, rxBps, rxPps, txBps, txPps⟩

def summarizeNetwork (samples : List (Sample NetworkCounter)) :
    Except SampleError (Coverage × Option NetworkValues) := do
  let acc ← (pairs samples).foldlM (addNetworkInterval startNs endNs) (.zero NetworkCounter)
  let coverage ← coverageOf startNs endNs acc.coveredNs
  if acc.coveredNs = endNs - startNs then do
    let values ← networkValues startNs endNs acc.totals
    return (coverage, some values)
  else return (coverage, none)

end Interval

/-! ## The summaries -/

inductive SummaryStatus where
  | missingSamples
  | unavailableWindow
  | complete
  | partialCoverage
  | invalidSamples (reason : SampleError)
  deriving DecidableEq, Repr

/-- The parts of `detail` that depend on the input. -/
structure SampleDetail where
  status : SummaryStatus
  window : MeasurementWindow
  sampleIntervalNs : Option (Int × Int) := none
  coverage : List (Text × Coverage) := []
  snapshotCount : Option Nat := none

/-- `coverage`, `result` and `intervals` while the loop over the identifiers runs. -/
structure SummaryState (β : Type) where
  coverage : List (Text × Coverage) := []
  result : List (Text × β) := []
  intervals : List Int := []

section Summary

variable {ι β : Type} (summarize : List (Sample ι) → Except SampleError (Coverage × Option β))

/-- The loop over the identifiers. An exception leaves what was entered before. -/
def summarizeAll (st : SummaryState β) :
    List (Text × List (Sample ι)) → SummaryState β × Except SampleError Unit
  | [] => (st, .ok ())
  | (key, samples) :: rest =>
    match summarize samples with
    | .error err => (st, .error err)
    | .ok (coverage, value) =>
      summarizeAll
        { coverage := st.coverage ++ [(key, coverage)]
          result := st.result ++ (value.map fun v => (key, v)).toList
          intervals := st.intervals ++ (pairs samples).map elapsed } rest

/-- The `try` block and its handler. -/
def summarizeTable (window : MeasurementWindow) (loaded : Except SampleError (SampleTable ι)) :
    Except SampleError (List (Text × β) × SampleDetail) :=
  match loaded with
  | .error reason => .ok ([], { status := .invalidSamples reason, window })
  | .ok t =>
    match summarizeAll summarize {} t.byKey with
    | (_, .error .zeroDivision) => .error .zeroDivision
    | (st, .error reason) =>
      .ok ([], { status := .invalidSamples reason, window, coverage := st.coverage })
    | (st, .ok ()) =>
      match st.intervals.min?, st.intervals.max? with
      | some low, some high =>
        .ok (st.result,
          { status := if st.result.length = t.byKey.length then .complete else .partialCoverage
            window
            sampleIntervalNs := some (low, high)
            coverage := st.coverage
            snapshotCount := some t.snapshots.length })
      | _, _ => .ok ([], { status := .invalidSamples .noIntervals, window, coverage := st.coverage })

end Summary

/-- `measurement_cpu_summary`; the file may be missing. An error is the exception it lets through. -/
def measurementCpuSummary (file : Option Text) (window : MeasurementWindow) :
    Except SampleError (List (Text × CpuPercentages) × SampleDetail) :=
  match file, window with
  | none, window => .ok ([], { status := .missingSamples, window })
  | some _, .unavailable s e =>
    .ok ([], { status := .unavailableWindow, window := .unavailable s e })
  | some text, .available startNs endNs h =>
    summarizeTable (summarizeCpu startNs endNs) (.available startNs endNs h) (loadCpuSamples text)

/-- `measurement_network_summary`. -/
def measurementNetworkSummary (file : Option Text) (window : MeasurementWindow) :
    Except SampleError (List (Text × NetworkValues) × SampleDetail) :=
  match file, window with
  | none, window => .ok ([], { status := .missingSamples, window })
  | some _, .unavailable s e =>
    .ok ([], { status := .unavailableWindow, window := .unavailable s e })
  | some text, .available startNs endNs h =>
    summarizeTable (summarizeNetwork startNs endNs) (.available startNs endNs h)
      (if startNs < 0 ∨ endNs < 0 ∨ endNs ≤ startNs then .error .invalidWindow
        else loadNetworkSamples text)

end Samples

end AceXdp
