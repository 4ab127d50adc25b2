import AceXdp.Lib.Binary64
import AceXdp.Lib.Rank

/-!
# AceXdp — the statistics of one metric

`percentile_nearest_rank` and `summarize_metric` of `join_results.py`. Division and `fmean` are those
of doubles: their results go through `round`, which is `binary64` on the machine and `id` in exact
arithmetic.
-/

namespace AceXdp

open Rounding Rank

variable (round : ℚ → ℚ)

/-- `sorted`. -/
def sorted (values : List Int) : List Int := values.mergeSort

/-- `max(0, math.ceil(percentile * n / 100) - 1)`. -/
def percentileIndex (percentile n : Nat) : Nat :=
  (max 0 (⌈round ((percentile * n : ℕ) / (100 : ℕ) : ℚ)⌉ - 1)).toNat

/-- `none` is the `IndexError` of an index beyond the list. -/
def percentileNearestRank (sortedValues : List Int) (percentile : Nat) : Option Int :=
  sortedValues[percentileIndex round percentile sortedValues.length]?

/-- `statistics.fmean`: the exact sum of the values as doubles, rounded, over their number. The
values are differences of 64-bit times, so that neither they nor their sum leave the range of a
double; the aggregator, which reads integers of any size, has a mean of its own. -/
def fmean (values : List ℚ) : ℚ := round (round (values.map round).sum / values.length)

/-- `statistics.median` of sorted values that are not empty. -/
def median (sortedValues : List Int) : ℚ :=
  let half := sortedValues.length / 2
  if sortedValues.length % 2 = 1 then sortedValues.getD half 0
  else round ((sortedValues.getD (half - 1) 0 + sortedValues.getD half 0 : ℤ) / 2)

/-- The statistics that exist only for a sample that is not empty. -/
structure MetricDistribution where
  minNs : Int
  maxNs : Int
  meanNs : ℚ
  medianNs : ℚ
  p95Ns : Option Int
  p99Ns : Option Int
  deriving DecidableEq, Repr

structure MetricSummary where
  count : Nat
  missingCount : Int
  negativeCount : Nat
  -- every field is `null` when it is `none`
  distribution : Option MetricDistribution
  deriving DecidableEq, Repr

def summarizeMetric (values : List Int) (joinedRows : Nat) : MetricSummary :=
  let ordered := sorted values
  { count := ordered.length
    missingCount := joinedRows - ordered.length
    negativeCount := ordered.countP (· < 0)
    distribution :=
      if ordered = [] then none
      else some
        { minNs := ordered.headD 0
          maxNs := ordered.getLastD 0
          meanNs := fmean round (ordered.map Int.cast)
          medianNs := median round ordered
          p95Ns := percentileNearestRank round ordered 95
          p99Ns := percentileNearestRank round ordered 99 } }

/-! ## The index -/

theorem pairwise_sorted (values : List Int) : (sorted values).Pairwise (· ≤ ·) :=
  List.pairwise_mergeSort' _ _

theorem sorted_perm (values : List Int) : (sorted values).Perm values := List.mergeSort_perm _ _

@[simp]
theorem length_sorted (values : List Int) : (sorted values).length = values.length :=
  (sorted_perm values).length_eq

theorem sorted_eq_of_perm {values values' : List Int} (h : values.Perm values') :
    sorted values = sorted values' :=
  ((sorted_perm values).trans (h.trans (sorted_perm values').symm)).eq_of_pairwise'
    (pairwise_sorted values) (pairwise_sorted values')

theorem percentileIndex_binary64 {percentile n : Nat} (h : percentile * n < 2 ^ 53) :
    percentileIndex binary64 percentile n = percentileIndex id percentile n := by
  rw [percentileIndex, percentileIndex, ceil_binary64_div (by norm_num) h]
  rfl

/-- The index in exact arithmetic: `percentile` in a hundred, rounded up, less one. -/
theorem percentileIndex_bounds {percentile n : Nat} (hp : 0 < percentile) (hn : 0 < n) :
    100 * percentileIndex id percentile n < percentile * n
      ∧ percentile * n ≤ 100 * (percentileIndex id percentile n + 1) := by
  have hceil : ⌈id ((percentile * n : ℕ) / (100 : ℕ) : ℚ)⌉
      = (((percentile * n + 99) / 100 : ℕ) : ℤ) := by
    rw [id, Int.ceil_eq_iff]
    have hdiv := Nat.div_add_mod (percentile * n + 99) 100
    have hmod := Nat.mod_lt (percentile * n + 99) (by norm_num : 0 < 100)
    generalize (percentile * n + 99) / 100 = k at *
    constructor
    · rw [lt_div_iff₀ (by norm_num)]
      have : 100 * k < percentile * n + 100 := by omega
      have hQ : (100 * k : ℚ) < (percentile * n : ℕ) + 100 := by exact_mod_cast this
      push_cast at hQ ⊢
      linarith
    · rw [div_le_iff₀ (by norm_num)]
      have : percentile * n ≤ k * 100 := by omega
      exact_mod_cast this
  have hpos : 0 < percentile * n := Nat.mul_pos hp hn
  rw [percentileIndex, hceil]
  omega

end AceXdp
