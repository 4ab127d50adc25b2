import Mathlib.Data.Rat.Floor
import Mathlib.Algebra.Order.Round
import Mathlib.Data.Int.ConditionallyCompleteOrder
import Mathlib.Tactic.Linarith

/-!
# Rounding to the nearest integer, halves away from zero

Mathlib's `round` takes a half up. Measurement code that treats signed quantities alike takes it
away from zero, so that rounding commutes with negation.

* **`nearestAway_roundAway`**, **`NearestAway.unique`** — `roundAway q` is the one integer that the
  specification `NearestAway` allows;
* **`roundAway_monotone`** — rounding keeps the order, so a rounded value stays between the
  integers its argument lies between.
-/

namespace Rounding

/-- `n` is nearest to `q`; of two equally near integers it is the one farther from zero. -/
structure NearestAway (q : ℚ) (n : ℤ) : Prop where
  near : |q - n| ≤ 1 / 2
  away : |q - n| = 1 / 2 → |q| < |(n : ℚ)|

def roundAway (q : ℚ) : ℤ := if 0 ≤ q then ⌊q + 1 / 2⌋ else -⌊-q + 1 / 2⌋

theorem roundAway_of_nonneg {q : ℚ} (h : 0 ≤ q) : roundAway q = ⌊q + 1 / 2⌋ := if_pos h

theorem roundAway_neg (q : ℚ) : roundAway (-q) = -roundAway q := by
  rcases lt_trichotomy q 0 with hq | rfl | hq
  · rw [roundAway, if_pos (by linarith), roundAway, if_neg (by linarith), neg_neg]
  · norm_num [roundAway]
  · rw [roundAway, if_neg (by linarith), roundAway, if_pos hq.le, neg_neg]

@[simp]
theorem roundAway_intCast (n : ℤ) : roundAway n = n := by
  have hfloor (m : ℤ) : ⌊(m : ℚ) + 1 / 2⌋ = m := by
    rw [Int.floor_eq_iff]
    constructor <;> linarith
  by_cases h : 0 ≤ (n : ℚ)
  · rw [roundAway, if_pos h, hfloor]
  · rw [roundAway, if_neg h, ← Int.cast_neg, hfloor, neg_neg]

/-! ## The specification -/

theorem NearestAway.neg {q : ℚ} {n : ℤ} (h : NearestAway q n) : NearestAway (-q) (-n) := by
  have hdist : |(-q) - ((-n : ℤ) : ℚ)| = |q - n| := by
    rw [Int.cast_neg, ← neg_sub_neg, ← abs_neg]
    congr 1
    ring
  refine ⟨hdist ▸ h.near, fun hhalf => ?_⟩
  have haway := h.away (hdist ▸ hhalf)
  rwa [abs_neg, Int.cast_neg, abs_neg]

theorem nearestAway_of_nonneg {q : ℚ} (hq : 0 ≤ q) : NearestAway q ⌊q + 1 / 2⌋ := by
  have hle : (⌊q + 1 / 2⌋ : ℚ) ≤ q + 1 / 2 := Int.floor_le _
  have hlt : q + 1 / 2 < ⌊q + 1 / 2⌋ + 1 := Int.lt_floor_add_one _
  refine ⟨abs_le.mpr ⟨by linarith, by linarith⟩, fun hhalf => ?_⟩
  -- at distance exactly one half the floor lies above `q`, which is not negative
  have habove : (⌊q + 1 / 2⌋ : ℚ) = q + 1 / 2 := by
    rcases abs_eq (by norm_num : (0 : ℚ) ≤ 1 / 2) |>.mp hhalf with h | h <;> linarith
  rw [habove, abs_of_nonneg hq, abs_of_nonneg (by linarith)]
  linarith

theorem nearestAway_roundAway (q : ℚ) : NearestAway q (roundAway q) := by
  by_cases hq : 0 ≤ q
  · rw [roundAway_of_nonneg hq]
    exact nearestAway_of_nonneg hq
  · have hneg := (nearestAway_of_nonneg (q := -q) (by linarith)).neg
    rw [roundAway, if_neg hq]
    rwa [neg_neg] at hneg

/-- Two integers both within one half of `q` are equal or the two neighbours of a half, and then
only one of them is farther from zero. -/
theorem NearestAway.unique {q : ℚ} {m n : ℤ} (hm : NearestAway q m) (hn : NearestAway q n) :
    m = n := by
  wlog hle : m ≤ n generalizing m n
  · exact (this hn hm (le_of_not_ge hle)).symm
  obtain ⟨hm1, hm2⟩ := abs_le.mp hm.near
  obtain ⟨hn1, hn2⟩ := abs_le.mp hn.near
  by_contra hne
  have hsucc : m + 1 ≤ n := by omega
  have hsuccQ : (m : ℚ) + 1 ≤ n := by exact_mod_cast hsucc
  have hqm : q - m = 1 / 2 := by linarith
  have hqn : q - n = -(1 / 2) := by linarith
  have hawaym := hm.away (by rw [hqm]; norm_num)
  have hawayn := hn.away (by rw [hqn]; norm_num)
  -- `q` is between two neighbours, so both being farther from zero needs `m < 0 < n`
  rcases le_or_gt 0 m with hm0 | hm0
  · have hm0Q : (0 : ℚ) ≤ m := by exact_mod_cast hm0
    rw [abs_of_nonneg hm0Q, abs_of_nonneg (by linarith)] at hawaym
    linarith
  · have hn0Q : (n : ℚ) ≤ 0 := by
      have : (m : ℚ) ≤ -1 := by exact_mod_cast (by omega : m ≤ -1)
      linarith
    rw [abs_of_nonpos hn0Q, abs_of_nonpos (by linarith)] at hawayn
    linarith

/-! ## Order -/

theorem roundAway_nonneg {q : ℚ} (hq : 0 ≤ q) : 0 ≤ roundAway q := by
  rw [roundAway_of_nonneg hq]
  exact Int.floor_nonneg.mpr (by linarith)

theorem roundAway_monotone : Monotone roundAway := by
  have hpos {a b : ℚ} (ha : 0 ≤ a) (hab : a ≤ b) : roundAway a ≤ roundAway b := by
    rw [roundAway_of_nonneg ha, roundAway_of_nonneg (ha.trans hab)]
    exact Int.floor_le_floor (by linarith)
  intro a b hab
  by_cases ha : 0 ≤ a
  · exact hpos ha hab
  · by_cases hb : 0 ≤ b
    · have hna := roundAway_nonneg (q := -a) (by linarith)
      rw [roundAway_neg] at hna
      have hnb := roundAway_nonneg hb
      omega
    · -- both negative: mirror the nonnegative case
      have hmirror := hpos (a := -b) (b := -a) (by linarith) (by linarith)
      rw [roundAway_neg, roundAway_neg] at hmirror
      omega

theorem le_roundAway {q : ℚ} {m : ℤ} (h : (m : ℚ) ≤ q) : m ≤ roundAway q := by
  have hmono := roundAway_monotone h
  rwa [roundAway_intCast] at hmono

theorem roundAway_le {q : ℚ} {m : ℤ} (h : q ≤ m) : roundAway q ≤ m := by
  have hmono := roundAway_monotone h
  rwa [roundAway_intCast] at hmono

end Rounding
