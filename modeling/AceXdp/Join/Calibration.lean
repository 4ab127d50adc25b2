import Mathlib.Data.List.Basic
import Mathlib.Data.Int.Basic

/-!
# AceXdp — the PHC calibration of the analyser

`Calibration.lookup` of `join_results.py`: the PHC-minus-MONOTONIC offset at a MONOTONIC time,
linearly interpolated between the calibration points around it. What `load_calibration`
guarantees (at least one point, strictly increasing times) are fields of `Calibration`, so the
lookup never indexes an empty tuple and never divides by a span that is not positive.
-/

namespace AceXdp

structure CalibrationPoint where
  monotonicNs : Int
  offsetNs : Int
  deriving DecidableEq, Repr

/-- The merged calibration points; the bookkeeping of the input files is left out. -/
structure Calibration where
  points : List CalibrationPoint
  nonempty : points ≠ []
  increasing : points.Pairwise fun p q => p.monotonicNs < q.monotonicNs

/-- Where a time lies relative to the calibration points. -/
inductive CalibrationPosition where
  | before | exact | inside | after
  deriving DecidableEq, Repr

structure CalibrationLookup where
  offsetNs : Option Int
  position : CalibrationPosition
  outOfRange : Bool
  distanceNs : Int
  deriving DecidableEq, Repr

/-- `round_ratio`: nearest integer, exact halves away from zero. The `denominator <= 0` guard
raises in the source; `lookup` passes a positive span (`Calibration.span_pos`). -/
def roundRatio (numerator denominator : Int) : Int :=
  if 0 ≤ numerator then (2 * numerator + denominator) / (2 * denominator)
  else -((2 * -numerator + denominator) / (2 * denominator))

/-- `bisect.bisect_right` on increasing times: how many of them are at most `t`. -/
def bisectRight (points : List CalibrationPoint) (t : Int) : Nat :=
  (points.takeWhile fun p => p.monotonicNs ≤ t).length

def interpolate (left following : CalibrationPoint) (t : Int) : Int :=
  let span := following.monotonicNs - left.monotonicNs
  roundRatio
    (left.offsetNs * span + (following.offsetNs - left.offsetNs) * (t - left.monotonicNs)) span

/-- `Calibration.lookup`. The split of the points at `bisect_right` decides the case: nothing to
the left, nothing to the right, or a point on each side. -/
def Calibration.lookup (c : Calibration) (t : Int) (allowEndpointClamp : Bool) :
    CalibrationLookup :=
  let right := bisectRight c.points t
  if right = 0 then
    let first := c.points.head c.nonempty
    ⟨if allowEndpointClamp then some first.offsetNs else none, .before, true,
      first.monotonicNs - t⟩
  else if right = c.points.length then
    let last := c.points.getLast c.nonempty
    if t = last.monotonicNs then ⟨some last.offsetNs, .exact, false, 0⟩
    else ⟨if allowEndpointClamp then some last.offsetNs else none, .after, true,
      t - last.monotonicNs⟩
  else match c.points[right - 1]?, c.points[right]? with
    | some left, some following =>
      if t = left.monotonicNs then ⟨some left.offsetNs, .exact, false, 0⟩
      else ⟨some (interpolate left following t), .inside, false, 0⟩
    | _, _ => ⟨none, .inside, false, 0⟩

end AceXdp
