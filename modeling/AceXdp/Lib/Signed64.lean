import Mathlib.Data.Int.Order.Basic
import Mathlib.Tactic.Linarith

/-!
# Signed 64-bit arithmetic against exact integers

A sum, difference or product of `Int64`s is the exact one as long as that one fits (`Fits`); `bmod`
is what a result that does not fit becomes.

* `bmod_eq_self`, `toInt_add_exact` and its like: a value that fits is exact;
* **`units_le_iff`** — a guard that compares the number of whole units with `M / u` leaves the last
  unit open: there the sum is at most `M` only up to the remainder of `M`.
-/

namespace Signed64

/-- The values of an `int64_t`. -/
def Fits (x : Int) : Prop := -2 ^ 63 ≤ x ∧ x < 2 ^ 63

instance (x : Int) : Decidable (Fits x) := inferInstanceAs (Decidable (_ ∧ _))

theorem bmod_eq_self {x : Int} (h : Fits x) : x.bmod (2 ^ 64) = x := by
  obtain ⟨hlow, hhigh⟩ := h
  exact Int.bmod_eq_of_le_mul_two (by push_cast; omega) (by push_cast; omega)

section

variable {a b : Int64} {x y : Int} (ha : a.toInt = x) (hb : b.toInt = y)

include ha hb

theorem toInt_add_exact (hlow : -2 ^ 63 ≤ x + y) (hhigh : x + y < 2 ^ 63) :
    (a + b).toInt = x + y := by
  rw [Int64.toInt_add, ha, hb]
  exact bmod_eq_self ⟨hlow, hhigh⟩

theorem toInt_sub_exact (hlow : -2 ^ 63 ≤ x - y) (hhigh : x - y < 2 ^ 63) :
    (a - b).toInt = x - y := by
  rw [Int64.toInt_sub, ha, hb]
  exact bmod_eq_self ⟨hlow, hhigh⟩

theorem toInt_mul_exact (hlow : -2 ^ 63 ≤ x * y) (hhigh : x * y < 2 ^ 63) :
    (a * b).toInt = x * y := by
  rw [Int64.toInt_mul, ha, hb]
  exact bmod_eq_self ⟨hlow, hhigh⟩

end

theorem toInt_toInt64 {x : UInt64} (h : x.toNat < 2 ^ 63) : x.toInt64.toInt = x.toNat := by
  have hbits : x.toInt64.toInt = x.toBitVec.toInt := rfl
  have hsmall : 2 * x.toBitVec.toNat < 2 ^ 64 := by
    have hnat : x.toBitVec.toNat = x.toNat := rfl
    omega
  rw [hbits, BitVec.toInt_eq_toNat_of_lt hsmall]
  rfl

theorem toNat_toUInt64 {a : Int64} (h : 0 ≤ a.toInt) : (a.toUInt64.toNat : Int) = a.toInt := by
  have hsmall := a.toInt_lt
  have hlt := a.toUInt64.toNat_lt
  have hbits : a.toInt = (a.toUInt64.toNat : Int).bmod (2 ^ 64) :=
    BitVec.toInt_eq_toNat_bmod a.toBitVec
  rw [Int.bmod_def] at hbits
  omega

/-- Whole units and a part of one, under a guard on the units alone. -/
theorem units_le_iff {u M q r : Int} (hu : 0 < u) (hguard : q ≤ M / u) (hpart : r < u) :
    q * u + r ≤ M ↔ q < M / u ∨ r ≤ M % u := by
  have hdiv := Int.mul_ediv_add_emod M u
  have hrem := Int.emod_nonneg M hu.ne'
  rcases lt_or_eq_of_le hguard with hlt | rfl
  · have hmul : (q + 1) * u ≤ M / u * u := Int.mul_le_mul_of_nonneg_right hlt hu.le
    constructor
    · exact fun _ => .inl hlt
    · intro _
      nlinarith
  · constructor
    · intro h
      right
      nlinarith
    · rintro (h | h)
      · exact absurd h (lt_irrefl _)
      · nlinarith

end Signed64
