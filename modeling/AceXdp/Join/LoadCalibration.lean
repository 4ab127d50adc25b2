import AceXdp.Join.Calibration
import AceXdp.Join.Table
import AceXdp.Lib.Checked
import AceXdp.Lib.Disk

/-!
# AceXdp — `load_calibration` of the analyser

`load_calibration_file` reads one PHC capture, checks every row and keeps the selected samples;
`load_calibration` merges the samples of several captures into the points of a `Calibration`: sorted
by time, equal times once, and refused when two samples of one time disagree.
-/

namespace AceXdp

open Csv Decimal Disk

inductive CalibrationError where
  /-- an error any source of the analyser can have -/
  | input (error : InputError)
  | cannotOpen (path : Path)
  | negativeIndex (row : Nat)
  | indexOutsideUint32 (row : Nat)
  | outsideInt64 (row : Nat) (field : Text)
  | inconsistentSpan (row : Nat)
  | inconsistentOffset (row : Nat)
  | selectedNotBool (row : Nat)
  | noSelectedSamples (path : Path)
  | noFiles
  | conflictingOffsets (monotonicNs : Int) (first second : Path)
  deriving DecidableEq, Repr

abbrev Calibrating (α : Type) := Except CalibrationError α

/-! ## One capture -/

/-- The values of a row. -/
structure CalibrationRow where
  iteration : Int
  sample : Int
  systemBeforeNs : Int
  phcNs : Int
  systemAfterNs : Int
  spanNs : Int
  offsetNs : Int
  selected : Int
  deriving DecidableEq, Repr

/-- `CALIBRATION_FIELDS`, sorted. -/
def calibrationFields : List Text :=
  ["iteration", "offset_ns", "phc_ns", "sample", "selected", "span_ns", "system_after_ns",
    "system_before_ns"].map String.toList

def calibrationValue (names row : List Text) (number : Nat) (field : String) : Calibrating Int :=
  (parseInteger ((names.zip row).lookup field.toList) number field.toList).mapError .input

/-- The comprehension over the set of fields has no fixed order; which of several unreadable fields
is reported is left to it. -/
def parseCalibrationRow (names row : List Text) (number : Nat) : Calibrating CalibrationRow := do
  let iteration ← calibrationValue names row number "iteration"
  let sample ← calibrationValue names row number "sample"
  let before ← calibrationValue names row number "system_before_ns"
  let phc ← calibrationValue names row number "phc_ns"
  let after ← calibrationValue names row number "system_after_ns"
  let span ← calibrationValue names row number "span_ns"
  let offset ← calibrationValue names row number "offset_ns"
  let selected ← calibrationValue names row number "selected"
  return ⟨iteration, sample, before, phc, after, span, offset, selected⟩

namespace CalibrationRow

variable (r : CalibrationRow)

/-- The middle of the two readings of the system clock. -/
def midpoint : Int := r.systemBeforeNs + r.spanNs / 2

def point : CalibrationPoint := ⟨r.midpoint, r.phcNs - r.midpoint⟩

/-- The fields checked against int64, in the order of the check. -/
def int64Fields : List (String × Int) :=
  [("system_before_ns", r.systemBeforeNs), ("phc_ns", r.phcNs),
    ("system_after_ns", r.systemAfterNs), ("span_ns", r.spanNs), ("offset_ns", r.offsetNs)]

def inInt64 (value : Int) : Bool := -0x8000000000000000 ≤ value && value ≤ 0x7fffffffffffffff

def check (number : Nat) : Calibrating Unit :=
  if r.iteration < 0 ∨ r.sample < 0 then .error (.negativeIndex number)
  else if 0xffffffff < r.iteration ∨ 0xffffffff < r.sample then
    .error (.indexOutsideUint32 number)
  else match r.int64Fields.find? fun field => !inInt64 field.2 with
    | some field => .error (.outsideInt64 number field.1.toList)
    | none =>
      if r.systemBeforeNs < 0 ∨ r.systemAfterNs < r.systemBeforeNs
          ∨ r.spanNs ≠ r.systemAfterNs - r.systemBeforeNs then
        .error (.inconsistentSpan number)
      else if r.offsetNs ≠ r.phcNs - r.midpoint then .error (.inconsistentOffset number)
      else if r.selected ≠ 0 ∧ r.selected ≠ 1 then .error (.selectedNotBool number)
      else .ok ()

/-- The point of a selected row. -/
def selectedPoint : Option CalibrationPoint := if r.selected ≠ 0 then some r.point else none

end CalibrationRow

/-- One turn of the loop: the point of the row, if it is selected. -/
def calibrationRow (names row : List Text) (number : Nat) :
    Calibrating (Option CalibrationPoint) :=
  if names.length < row.length then .error (.input (.extraFields number))
  else do
    let values ← parseCalibrationRow names row number
    values.check number
    return values.selectedPoint

/-- The loop from row `number` on. -/
def loadCalibrationRows (names : List Text) (number : Nat) (selected : List CalibrationPoint) :
    List (List Text) → Calibrating (List CalibrationPoint)
  | [] => .ok selected
  | row :: rest => do
    let point ← calibrationRow names row number
    loadCalibrationRows names (number + 1) (selected ++ point.toList) rest

structure CalibrationFile where
  path : Path
  rows : Nat
  selectedRows : Nat
  deriving DecidableEq, Repr

/-- A capture: its path and its text, if it can be opened. -/
structure CalibrationInput where
  path : Path
  text : Option Text
  deriving DecidableEq, Repr

/-- The rows behind the header. -/
def loadCalibrationTable (path : Path) (file : Table) :
    Calibrating (CalibrationFile × List CalibrationPoint) := do
  let names ← (validateCsvHeader file.fieldnames calibrationFields).mapError .input
  let selected ← loadCalibrationRows names 2 [] file.rows
  if selected = [] then .error (.noSelectedSamples path)
  else .ok (⟨path, file.rows.length, selected.length⟩, selected)

def loadCalibrationFile (input : CalibrationInput) :
    Calibrating (CalibrationFile × List CalibrationPoint) :=
  match input.text with
  | none => .error (.cannotOpen input.path)
  | some text =>
    match readTable ((splitLines text).filter isDataLine) with
    | none => .error (.input .csvSyntax)
    | some file => loadCalibrationTable input.path file

/-! ## Several captures -/

/-- A selected sample and the capture it comes from. -/
abbrev SourcedPoint := CalibrationPoint × Path

/-- The scan of the sorted samples; the last of `unique` is the point of the time before. -/
def mergeSelected (unique : List SourcedPoint) (duplicateTimes : Nat) :
    List SourcedPoint → Calibrating (List SourcedPoint × Nat)
  | [] => .ok (unique, duplicateTimes)
  | sample :: rest =>
    match unique.getLast? with
    | some last =>
      if sample.1.monotonicNs = last.1.monotonicNs then
        if sample.1.offsetNs ≠ last.1.offsetNs then
          .error (.conflictingOffsets sample.1.monotonicNs last.2 sample.2)
        else mergeSelected unique (duplicateTimes + 1) rest
      else mergeSelected (unique ++ [sample]) duplicateTimes rest
    | none => mergeSelected (unique ++ [sample]) duplicateTimes rest

/-- `Calibration` with the bookkeeping of its files. -/
structure LoadedCalibration where
  points : List CalibrationPoint
  files : List CalibrationFile
  rows : Nat
  selectedRows : Nat
  duplicateSelectedTimes : Nat
  deriving DecidableEq, Repr

def LoadedCalibration.times (c : LoadedCalibration) : List Int :=
  c.points.map CalibrationPoint.monotonicNs

/-- `all_selected`: the samples of each capture under its path. -/
def sourcedPoints (loaded : List (CalibrationFile × List CalibrationPoint)) : List SourcedPoint :=
  loaded.flatMap fun file => file.2.map fun point => (point, file.1.path)

/-- The sort by time is stable. -/
def sortByTime (samples : List SourcedPoint) : List SourcedPoint :=
  samples.mergeSort fun a b => a.1.monotonicNs ≤ b.1.monotonicNs

def loadCalibration (inputs : List CalibrationInput) : Calibrating LoadedCalibration :=
  if inputs = [] then .error .noFiles
  else do
    let loaded ← inputs.mapM loadCalibrationFile
    let merged ← mergeSelected [] 0 (sortByTime (sourcedPoints loaded))
    return {
      points := merged.1.map Prod.fst
      files := loaded.map Prod.fst
      rows := (loaded.map fun file => file.1.rows).sum
      selectedRows := (loaded.map fun file => file.1.selectedRows).sum
      duplicateSelectedTimes := merged.2 }

end AceXdp
