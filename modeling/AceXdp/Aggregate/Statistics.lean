import AceXdp.Join.Summary

/-!
# AceXdp — the statistics of the aggregator

`percentile_nearest_rank`, `metric_statistics`, `student_t_critical_95` and
`mean_confidence_interval_95` of `aggregate_runs.py`. The joiner has a percentile of its own; both
are the percentile by counting (`percentileNearestRank_isPercentile`), so they agree.
-/

namespace AceXdp

open Rounding Rank

/-- The doubles, and what the aggregator does with them. `none` is an `OverflowError`: the
conversion of an integer, `math.fsum` and `statistics.stdev` raise it where the result is out of
range. An operator returns an infinity there, which is a double. -/
structure Floating (F : Type) where
  /-- the rounding of a number in range -/
  round : ℚ → ℚ
  /-- the double of a rounded number -/
  double : ℚ → F
  /-- `float(n)` -/
  ofInt : Int → Option F
  fsum : List F → Option F
  stdev : List F → Option F
  sqrt : F → F
  add : F → F → F
  sub : F → F → F
  mul : F → F → F
  div : F → F → F

/-- A literal, or the quotient of two counts. -/
def Floating.nearest {F : Type} (fp : Floating F) (q : ℚ) : F := fp.double (fp.round q)

namespace Aggregate

variable {F : Type} (fp : Floating F)

/-- `statistics.fmean`. -/
def fmean (sample : List F) : Option F := do
  let total ← fp.fsum sample
  let n ← fp.ofInt sample.length
  return fp.div total n

/-- `none` is the `ValueError` of an empty list, or the `IndexError` behind it. -/
def percentileNearestRank (round : ℚ → ℚ) (sortedValues : List Int) (percentile : Nat) :
    Option Int :=
  if sortedValues = [] then none
  else sortedValues[percentileIndex round percentile sortedValues.length]?

structure MetricStatistics (F : Type) where
  count : Nat
  negativeCount : Nat
  p50Ns : Option Int
  p95Ns : Option Int
  p99Ns : Option Int
  maxNs : Option Int
  meanNs : Option F
  deadlineMissCount : Option Nat
  deadlineMissRate : Option F
  deriving DecidableEq, Repr

/-- The mean of integers, each of which becomes a double first. -/
def meanNs (ordered : List Int) : Option (Option F) :=
  if ordered = [] then some none
  else do
    let sample ← ordered.mapM fp.ofInt
    let mean ← fmean fp sample
    return some mean

/-- Only what exceeds the deadline misses it. -/
def metricStatistics (values : List Int) (deadlineNs : Option Int) :
    Option (MetricStatistics F) := do
  let ordered := sorted values
  let misses := deadlineNs.map fun deadline => ordered.countP (deadline < ·)
  let mean ← meanNs fp ordered
  return {
    count := ordered.length
    negativeCount := ordered.countP (· < 0)
    p50Ns := percentileNearestRank fp.round ordered 50
    p95Ns := percentileNearestRank fp.round ordered 95
    p99Ns := percentileNearestRank fp.round ordered 99
    maxNs := ordered.getLast?
    meanNs := mean
    deadlineMissCount := misses
    deadlineMissRate :=
      if ordered = [] then none
      else misses.map fun missed => fp.nearest (missed / ordered.length : ℚ) }

/-- `T_CRITICAL_95`. -/
def tCritical95 : List ℚ :=
  [0, 12.7062047364, 4.30265272975, 3.18244630528, 2.77644510520, 2.57058183564, 2.44691184879,
    2.36462425101, 2.30600413503, 2.26215716285, 2.22813885196, 2.20098516009, 2.17881282966,
    2.16036865646, 2.14478668792, 2.13144954556, 2.11990529922, 2.10981557783, 2.10092204024,
    2.09302405441, 2.08596344727, 2.07961384473, 2.07387306790, 2.06865761042, 2.06389856163,
    2.05953855275, 2.05552943864, 2.05183051648, 2.04840714180, 2.04522964213, 2.04227245630]

/-- `student_t_critical_95` of at least one degree of freedom. -/
def studentTCritical95 (degreesOfFreedom : Nat) : Option F :=
  match tCritical95[degreesOfFreedom]? with
  | some value => some (fp.nearest value)
  | none => do
    let z := fp.nearest 1.959963984540054
    let df ← fp.ofInt degreesOfFreedom
    let z2 := fp.mul z z
    let z3 := fp.mul z2 z
    let z5 := fp.mul z3 z2
    let z7 := fp.mul z5 z2
    let times (n : ℚ) (x : F) := fp.mul (fp.nearest n) x
    let second := fp.div (fp.add z3 z) (times 4 df)
    let third := fp.div (fp.add (fp.add (times 5 z5) (times 16 z3)) (times 3 z))
      (fp.mul (times 96 df) df)
    let fourth :=
      fp.div (fp.sub (fp.add (fp.add (times 3 z7) (times 19 z5)) (times 17 z3)) (times 15 z))
        (fp.mul (fp.mul (times 384 df) df) df)
    return fp.add (fp.add (fp.add z second) third) fourth

structure ConfidenceInterval (F : Type) where
  sampleCount : Nat
  mean : Option F
  sampleStddev : Option F
  ci95Low : Option F
  ci95High : Option F
  deriving DecidableEq, Repr

/-- `mean_confidence_interval_95` of integers and doubles. -/
def meanConfidenceInterval95 (values : List (Int ⊕ F)) : Option (ConfidenceInterval F) := do
  let sample ← values.mapM (Sum.elim fp.ofInt some)
  if sample.isEmpty then return ⟨0, none, none, none, none⟩
  else
    let mean ← fmean fp sample
    if sample.length < 2 then return ⟨sample.length, some mean, none, none, none⟩
    else
      let sampleStddev ← fp.stdev sample
      let critical ← studentTCritical95 fp (sample.length - 1)
      let n ← fp.ofInt sample.length
      let margin := fp.div (fp.mul critical sampleStddev) (fp.sqrt n)
      return ⟨sample.length, some mean, some sampleStddev, some (fp.sub mean margin),
        some (fp.add mean margin)⟩

end Aggregate

/-! ## The percentile -/

/-- The index is that of exact arithmetic. -/
def ExactIndex (round : ℚ → ℚ) (percentile n : Nat) : Prop :=
  percentileIndex round percentile n = percentileIndex id percentile n

section Percentile

variable {round : ℚ → ℚ} {values : List Int} {percentile : Nat} (hne : values ≠ [])
include hne

theorem percentileIndex_lt (hp : 0 < percentile) (hp100 : percentile ≤ 100)
    (hindex : ExactIndex round percentile values.length) :
    percentileIndex round percentile values.length < values.length := by
  have hn : 0 < values.length := List.length_pos_iff.mpr hne
  have hbounds := percentileIndex_bounds hp hn
  have hle : percentile * values.length ≤ 100 * values.length := Nat.mul_le_mul_right _ hp100
  rw [hindex]
  omega

/-- What the function finds, on any list that is not empty. -/
theorem percentileNearestRank_isPercentile (hp : 0 < percentile) (hp100 : percentile ≤ 100)
    (hindex : ExactIndex round percentile values.length) :
    ∃ r, percentileNearestRank round (sorted values) percentile = some r
      ∧ IsPercentile percentile values r := by
  have hn : 0 < values.length := List.length_pos_iff.mpr hne
  have hbounds := percentileIndex_bounds hp hn
  have hlt : percentileIndex id percentile values.length < (sorted values).length := by
    rw [length_sorted, ← hindex]
    exact percentileIndex_lt hne hp hp100 hindex
  have hrank := isPercentile_getElem (pairwise_sorted values) hlt
    (by rw [length_sorted]; exact hbounds.1) (by rw [length_sorted]; exact hbounds.2)
  refine ⟨_, ?_, hrank.perm (sorted_perm values)⟩
  rw [percentileNearestRank, length_sorted, hindex]
  exact List.getElem?_eq_getElem hlt

omit hne in
/-- The two modules agree. -/
theorem aggregate_percentileNearestRank_eq (round : ℚ → ℚ) (sortedValues : List Int)
    (percentile : Nat) :
    Aggregate.percentileNearestRank round sortedValues percentile
      = percentileNearestRank round sortedValues percentile := by
  unfold Aggregate.percentileNearestRank percentileNearestRank
  split
  case isTrue hnil => simp [hnil]
  case isFalse => rfl

end Percentile

theorem exactIndex_binary64 {percentile n : Nat} (hp100 : percentile ≤ 100) (hn : n < 2 ^ 40) :
    ExactIndex binary64 percentile n := by
  refine percentileIndex_binary64 ?_
  have : percentile * n ≤ 100 * n := Nat.mul_le_mul_right _ hp100
  omega

/-- The percentile of the program, computed with doubles: both modules return the same observation,
`percentile` in a hundred observations are at most it and fewer are below it. A higher percentile is
no smaller, the order of the observations does not matter, and the index is in range. -/
theorem nearest_rank_percentile (values : List Int) (percentile : Nat) (hne : values ≠ [])
    (hlength : values.length < 2 ^ 40) (hp : 0 < percentile) (hp100 : percentile ≤ 100) :
    percentileIndex binary64 percentile values.length < values.length
    ∧ ∃ r ∈ values, percentileNearestRank binary64 (sorted values) percentile = some r
      ∧ Aggregate.percentileNearestRank binary64 (sorted values) percentile = some r
      ∧ percentile * values.length ≤ 100 * values.countP (· ≤ r)
      ∧ 100 * values.countP (· < r) < percentile * values.length
      ∧ (∀ higher r', percentile ≤ higher → higher ≤ 100 →
          percentileNearestRank binary64 (sorted values) higher = some r' → r ≤ r')
      ∧ ∀ values', values.Perm values' →
          percentileNearestRank binary64 (sorted values') percentile = some r := by
  have hindex := exactIndex_binary64 hp100 hlength
  obtain ⟨r, hr, hrank⟩ := percentileNearestRank_isPercentile hne hp hp100 hindex
  refine ⟨percentileIndex_lt hne hp hp100 hindex, r, hrank.mem, hr, ?_, hrank.enough,
    hrank.notBelow, ?_, ?_⟩
  · rw [aggregate_percentileNearestRank_eq, hr]
  · intro higher r' hle hle100 hr'
    obtain ⟨s, hs, hsrank⟩ := percentileNearestRank_isPercentile hne (by omega) hle100
      (exactIndex_binary64 hle100 hlength)
    obtain rfl : s = r' := Option.some.inj (hs.symm.trans hr')
    exact hrank.mono hsrank hle
  · intro values' hperm
    rw [← sorted_eq_of_perm hperm, hr]

/-- The median of four observations, two of them equal. -/
theorem nearest_rank_median :
    ∃ r ∈ [7, 1, 7, 3], percentileNearestRank binary64 (sorted [7, 1, 7, 3]) 50 = some r
      ∧ 50 * 4 ≤ 100 * [7, 1, 7, 3].countP (· ≤ r) := by
  obtain ⟨-, r, hmem, hr, -, henough, -⟩ :=
    nearest_rank_percentile [7, 1, 7, 3] 50 (by decide) (by decide) (by decide) (by decide)
  exact ⟨r, hmem, hr, henough⟩

end AceXdp
