import AceXdp.Export
import Mathlib.Data.List.Basic

/-!
# AceXdp — the PHC capture programs

`collect_batch` of `ace_phc.h` reads the system clock, the PHC and the system clock again, several
times in one `ioctl`. `phc_calibrate` takes a number of batches and marks the sample with the
shortest span of each; `phc_track` takes one every 100 ms until it is stopped and marks the median.
Both write every valid sample as a row of a CSV.

Nanoseconds are `int64_t`: sums and differences wrap at 64 bits.
-/

namespace AceXdp

open Csv Decimal

def wrapInt64 (x : Int) : Int := x.bmod (2 ^ 64)

/-- `struct ptp_clock_time`. -/
structure PtpClockTime where
  sec : Int64
  nsec : UInt32
  deriving DecidableEq

/-- One row of `ts`: the system clock before, the PHC and the system clock after. -/
structure PtpReading where
  before : PtpClockTime
  phc : PtpClockTime
  after : PtpClockTime
  deriving DecidableEq

/-- The guard of `ptp_time_to_ns`; the last bound is `INT64_MAX / 1000000000`. -/
def PtpClockTime.valid (t : PtpClockTime) : Bool :=
  0 ≤ t.sec.toInt && t.nsec.toNat < 1000000000 && t.sec.toInt ≤ 9223372036

/-- The time in nanoseconds, before it is stored. -/
def PtpClockTime.ns (t : PtpClockTime) : Int := t.sec.toInt * 1000000000 + t.nsec.toNat

def ptpTimeToNs (t : PtpClockTime) : Option Int :=
  if t.valid then some (wrapInt64 t.ns) else none

/-- A `struct result` whose `valid` is set. What an invalid reading leaves in its record is never
read. -/
structure PhcSample where
  beforeNs : Int
  phcNs : Int
  afterNs : Int
  spanNs : Int
  offsetNs : Int
  deriving DecidableEq, Repr

/-- One turn of the loop of `collect_batch`. -/
def readSample (reading : PtpReading) : Option PhcSample := do
  let before ← ptpTimeToNs reading.before
  let phc ← ptpTimeToNs reading.phc
  let after ← ptpTimeToNs reading.after
  if after < before then none
  else
    let span := wrapInt64 (after - before)
    return ⟨before, phc, after, span, wrapInt64 (phc - wrapInt64 (before + span.tdiv 2))⟩

def int64Max : Int := 0x7fffffffffffffff

/-- The loop of `collect_batch` from index `i` on: the results and `*best_index`. -/
def scanBatch (i : Nat) (bestSpan : Int) (bestIndex : Nat) :
    List PtpReading → List (Option PhcSample) × Nat
  | [] => ([], bestIndex)
  | reading :: rest =>
    match readSample reading with
    | none =>
      let scan := scanBatch (i + 1) bestSpan bestIndex rest
      (none :: scan.1, scan.2)
    | some sample =>
      let scan :=
        if sample.spanNs < bestSpan then scanBatch (i + 1) sample.spanNs i rest
        else scanBatch (i + 1) bestSpan bestIndex rest
      (some sample :: scan.1, scan.2)

/-- `collect_batch` behind the `ioctl`; it fails when no reading is valid. -/
def collectBatch (readings : List PtpReading) : Option (List (Option PhcSample) × Nat) :=
  let scan := scanBatch 0 int64Max 0 readings
  if scan.1.all Option.isNone then none else some scan

/-! ## Rows -/

/-- The results of a batch and the index of the one to mark. -/
structure Observation where
  samples : List (Option PhcSample)
  selected : Nat
  deriving DecidableEq, Repr

/-- The valid samples with their indices. -/
def validSamples (samples : List (Option PhcSample)) : List (Nat × PhcSample) :=
  samples.zipIdx.filterMap fun entry => entry.1.map fun sample => (entry.2, sample)

def sampleFields (iteration index : Nat) (sample : PhcSample) (selected : Bool) :
    List (List Char) :=
  [natText iteration, natText index, intText sample.beforeNs, intText sample.phcNs,
    intText sample.afterNs, intText sample.spanNs, intText sample.offsetNs,
    natText selected.toNat]

def Observation.rows (o : Observation) (iteration : Nat) : List (List (List Char)) :=
  (validSamples o.samples).map fun entry =>
    sampleFields iteration entry.1 entry.2 (entry.1 = o.selected)

def phcColumns : List (List Char) :=
  ["iteration", "sample", "system_before_ns", "phc_ns", "system_after_ns", "span_ns", "offset_ns",
    "selected"].map String.toList

/-- The rows of the iterations, in order. -/
def captureRows (observations : List Observation) : List (List (List Char)) :=
  observations.zipIdx.flatMap fun entry => entry.1.rows entry.2

def captureText (comment : List Char) (observations : List Observation) : List Char :=
  comment ++ (csvLine phcColumns ++ (captureRows observations).flatMap csvLine)

/-! ## `phc_calibrate` -/

/-- The path of a device node: the default, one that the interface names, or one that was given. -/
structure PhcDevice where
  path : List Char
  oneLine : ∀ c ∈ path, c ≠ '\n' ∧ c ≠ '\r'

def calibrateComment (device : PhcDevice) : List Char :=
  "# device=".toList ++ device.path
    ++ " clock=CLOCK_MONOTONIC offset=phc-minus-monotonic\n".toList

/-- The observations up to the first batch that fails, which ends the program. -/
def calibrateLoop : List (List PtpReading) → List Observation × Bool
  | [] => ([], true)
  | readings :: rest =>
    match collectBatch readings with
    | none => ([], false)
    | some (samples, bestIndex) =>
      let following := calibrateLoop rest
      (⟨samples, bestIndex⟩ :: following.1, following.2)

/-- The file, and whether the program succeeds. -/
def phcCalibrate (device : PhcDevice) (batches : List (List PtpReading)) : List Char × Bool :=
  let capture := calibrateLoop batches
  (captureText (calibrateComment device) capture.1, capture.2)

/-! ## `phc_track` -/

/-- `a` comes behind `b`: by offset, then by span. -/
def PhcSample.behind (a b : PhcSample) : Bool :=
  b.offsetNs < a.offsetNs || (a.offsetNs = b.offsetNs && b.spanNs < a.spanNs)

/-- The inner loop of `median_sample`: from the end, entries that come behind the new one move up. -/
def insertOrder (order : List (Nat × PhcSample)) (entry : Nat × PhcSample) :
    List (Nat × PhcSample) :=
  let behind (other : Nat × PhcSample) := other.2.behind entry.2
  (order.reverse.dropWhile behind).reverse ++ entry :: (order.reverse.takeWhile behind).reverse

/-- `order`, each index with its sample. -/
def medianOrder (samples : List (Option PhcSample)) : List (Nat × PhcSample) :=
  (validSamples samples).foldl insertOrder []

/-- `collect_batch` has found a valid sample, so that `order[n / 2]` was written. -/
def medianSample (samples : List (Option PhcSample)) : Nat :=
  let order := medianOrder samples
  (order[order.length / 2]?.map Prod.fst).getD 0

/-- What happens in one turn of the loop. -/
structure TrackTurn where
  /-- the readings, if there is a device and the `ioctl` succeeds -/
  readings : Option (List PtpReading)
  clocksRead : Bool
  readyPublished : Bool
  slept : Bool

/-- The loop of `main`: the turns until the stop, with the observations kept so far and whether
`ready` is set. -/
def trackLoop (capacity : Nat) (ready : Bool) (kept : List Observation) :
    List TrackTurn → List Observation
  | [] => kept
  | turn :: rest =>
    if capacity ≤ kept.length then kept
    else
      match turn.readings.bind collectBatch with
      | none => if turn.slept then trackLoop capacity ready kept rest else kept
      | some (samples, _) =>
        if !turn.clocksRead then kept
        else
          let kept := kept ++ [⟨samples, medianSample samples⟩]
          if !ready && !turn.readyPublished then kept
          else if turn.slept then trackLoop capacity true kept rest
          else kept

def trackComment : List Char :=
  "# clock=CLOCK_MONOTONIC offset=phc-minus-monotonic selection=median-offset-observed-sample".toList
    ++ " interval_ms=100\n".toList

/-- The CSV of the observations kept; the capacity comes from the time budget. -/
def phcTrack (budgetMs : Nat) (turns : List TrackTurn) : List Char :=
  captureText trackComment (trackLoop (budgetMs / 100 + 3) false [] turns)

end AceXdp
