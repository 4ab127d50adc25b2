import AceXdp.Lib.Rounding
import Mathlib.Data.Int.Log
import Mathlib.Tactic.FieldSimp
import Mathlib.Tactic.Positivity

/-!
# Rounding to binary64

The correctly rounded result of a floating-point operation on a double: 53 significant bits, nearest,
halves to even. Overflow and gradual underflow are left out, so the numbers are those a double can
reach in magnitude.

* **`ceil_binary64_div`** — the ceiling of a rounded quotient of integers is the ceiling of the exact
  one, as long as the quotient is small enough for the spacing of doubles to be finer than the
  denominator.
-/

namespace Rounding

/-! ## Halves to even -/

def roundEven (q : ℚ) : ℤ :=
  if q - ⌊q⌋ < 1 / 2 then ⌊q⌋
  else if 1 / 2 < q - ⌊q⌋ then ⌊q⌋ + 1
  else if ⌊q⌋ % 2 = 0 then ⌊q⌋ else ⌊q⌋ + 1

theorem roundEven_near (q : ℚ) : |q - roundEven q| ≤ 1 / 2 := by
  have hle := Int.floor_le q
  have hlt := Int.lt_floor_add_one q
  unfold roundEven
  split_ifs with hbelow habove
  · exact abs_le.mpr ⟨by linarith, by linarith⟩
  all_goals
    push_cast
    exact abs_le.mpr ⟨by linarith, by linarith⟩

/-- An integer above the number stays above its rounding, one below it below. -/
theorem roundEven_le {q : ℚ} {n : ℤ} (h : q ≤ n) : roundEven q ≤ n := by
  have hnear := (abs_le.mp (roundEven_near q)).1
  have hlt : (roundEven q : ℚ) < ((n + 1 : ℤ) : ℚ) := by
    push_cast
    linarith
  exact Int.lt_add_one_iff.mp (by exact_mod_cast hlt)

theorem le_roundEven {q : ℚ} {n : ℤ} (h : n ≤ q) : n ≤ roundEven q := by
  have hnear := (abs_le.mp (roundEven_near q)).2
  have hlt : ((n - 1 : ℤ) : ℚ) < roundEven q := by
    push_cast
    linarith
  exact Int.le_of_sub_one_lt (by exact_mod_cast hlt)

/-! ## Doubles -/

/-- The distance between the doubles around `q`. -/
def ulp (q : ℚ) : ℚ := 2 ^ (Int.log 2 |q| - 52)

def binary64 (q : ℚ) : ℚ := roundEven (q / ulp q) * ulp q

theorem ulp_pos (q : ℚ) : 0 < ulp q := zpow_pos (by norm_num) _

theorem binary64_near (q : ℚ) : |q - binary64 q| ≤ ulp q / 2 := by
  have hpos := ulp_pos q
  have hscaled : q - binary64 q = (q / ulp q - roundEven (q / ulp q)) * ulp q := by
    rw [binary64, sub_mul, div_mul_cancel₀ _ hpos.ne']
  rw [hscaled, abs_mul, abs_of_pos hpos]
  calc |q / ulp q - roundEven (q / ulp q)| * ulp q
      ≤ 1 / 2 * ulp q := mul_le_mul_of_nonneg_right (roundEven_near _) hpos.le
    _ = ulp q / 2 := by ring

section Positive

variable {q : ℚ} (hq : 0 < q)
include hq

theorem ulp_mul_le : ulp q * 2 ^ 52 ≤ q := by
  have hlog := Int.zpow_log_le_self (b := 2) (by norm_num) hq
  rw [ulp, abs_of_pos hq, zpow_sub₀ (by norm_num)]
  norm_num at hlog ⊢
  exact hlog

/-- Below `2 ^ 53` the doubles are at most one apart and every integer is one of them. -/
theorem exists_ulp_mul_eq (hlt : q < 2 ^ 53) (k : ℤ) : ∃ m : ℤ, (m : ℚ) * ulp q = k := by
  have hlog := Int.zpow_log_le_self (b := 2) (by norm_num) hq
  have hexp : Int.log 2 q < 53 := by
    by_contra hge
    have hpow : (2 : ℚ) ^ (53 : ℤ) ≤ 2 ^ Int.log 2 q :=
      zpow_le_zpow_right₀ (by norm_num) (not_lt.mp hge)
    norm_num at hlog hpow hlt
    linarith
  refine ⟨k * 2 ^ (52 - Int.log 2 q).toNat, ?_⟩
  have hinv : (2 : ℚ) ^ (52 - Int.log 2 q).toNat * ulp q = 1 := by
    rw [ulp, abs_of_pos hq, ← zpow_natCast, Int.toNat_of_nonneg (by omega),
      ← zpow_add₀ (by norm_num)]
    norm_num
  push_cast
  rw [mul_assoc, hinv, mul_one]

/-- Rounding does not pass an integer. -/
theorem binary64_le (hlt : q < 2 ^ 53) {k : ℤ} (hk : q ≤ k) : binary64 q ≤ k := by
  obtain ⟨m, hm⟩ := exists_ulp_mul_eq hq hlt k
  have hpos := ulp_pos q
  have hround : roundEven (q / ulp q) ≤ m := roundEven_le (by rwa [div_le_iff₀ hpos, hm])
  have hroundQ : (roundEven (q / ulp q) : ℚ) ≤ m := by exact_mod_cast hround
  calc binary64 q ≤ m * ulp q := mul_le_mul_of_nonneg_right hroundQ hpos.le
    _ = k := hm

theorem le_binary64 (hlt : q < 2 ^ 53) {k : ℤ} (hk : k ≤ q) : k ≤ binary64 q := by
  obtain ⟨m, hm⟩ := exists_ulp_mul_eq hq hlt k
  have hpos := ulp_pos q
  have hround : m ≤ roundEven (q / ulp q) := le_roundEven (by rwa [le_div_iff₀ hpos, hm])
  have hroundQ : (m : ℚ) ≤ roundEven (q / ulp q) := by exact_mod_cast hround
  calc (k : ℚ) = m * ulp q := hm.symm
    _ ≤ binary64 q := mul_le_mul_of_nonneg_right hroundQ hpos.le

end Positive

@[simp]
theorem binary64_zero : binary64 0 = 0 := by
  have hround : roundEven 0 = 0 := by norm_num [roundEven]
  rw [binary64, zero_div, hround, Int.cast_zero, zero_mul]

/-- A quotient above an integer is above it by at least one part in the denominator, which the
rounding cannot bridge. -/
theorem ceil_binary64_div {a d : ℕ} (hd : 0 < d) (ha : a < 2 ^ 53) :
    ⌈binary64 (a / d : ℚ)⌉ = ⌈(a / d : ℚ)⌉ := by
  rcases Nat.eq_zero_or_pos a with rfl | hpos
  · simp
  have hdQ : (1 : ℚ) ≤ d := by exact_mod_cast hd
  have haQ : (a : ℚ) < 2 ^ 53 := by exact_mod_cast ha
  have hqpos : (0 : ℚ) < a / d := by positivity
  have hqlt : (a / d : ℚ) < 2 ^ 53 := lt_of_le_of_lt (div_le_self (by positivity) hdQ) haQ
  have hstep : ((⌈(a / d : ℚ)⌉ : ℚ) - 1) + 1 / d ≤ a / d := by
    have hlt : ((⌈(a / d : ℚ)⌉ : ℚ) - 1) * d < a := by
      rw [← lt_div_iff₀ (by positivity)]
      linarith [Int.ceil_lt_add_one (a / d : ℚ)]
    have hint : (⌈(a / d : ℚ)⌉ - 1) * (d : ℤ) + 1 ≤ a := by exact_mod_cast hlt
    have hintQ : ((⌈(a / d : ℚ)⌉ : ℚ) - 1) * d + 1 ≤ a := by exact_mod_cast hint
    rw [← sub_nonneg]
    have hsplit : (a / d : ℚ) - (((⌈(a / d : ℚ)⌉ : ℚ) - 1) + 1 / d)
        = (a - (((⌈(a / d : ℚ)⌉ : ℚ) - 1) * d + 1)) / d := by
      field_simp
    rw [hsplit]
    exact div_nonneg (by linarith) (by positivity)
  have herror : ulp (a / d : ℚ) / 2 < 1 / d := by
    have hulp := ulp_mul_le hqpos
    rw [le_div_iff₀ (by positivity)] at hulp
    rw [lt_div_iff₀ (by positivity)]
    linarith
  rw [Int.ceil_eq_iff]
  have hnear := (abs_le.mp (binary64_near (a / d : ℚ))).2
  exact ⟨by linarith, binary64_le hqpos hqlt (Int.le_ceil _)⟩

end Rounding
