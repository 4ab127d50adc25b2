import Mathlib.Order.Basic

/-!
# Plateaus — how long a sequence has not changed

A poller that compares each value with the one before can only count repetitions. What it wants
to know is a statement about the whole past, `Flat s k n`: nothing has changed from index `k` to
index `n`. The two meet in the start of the constant run that ends at `n`.
-/

namespace Plateau

variable {α : Type} {s : Nat → α} {k n : Nat}

/-- The values at the indices from `k` to `n` are all the one at `n`. -/
def Flat (s : Nat → α) (k n : Nat) : Prop := ∀ i, k ≤ i → i ≤ n → s i = s n

theorem flat_self (s : Nat → α) (n : Nat) : Flat s n n := by
  intro i hlo hhi
  rw [Nat.le_antisymm hhi hlo]

/-- One more equal value extends a flat stretch. -/
theorem Flat.succ (h : Flat s k n) (heq : s (n + 1) = s n) : Flat s k (n + 1) := by
  intro i hlo hhi
  rcases Nat.lt_or_eq_of_le hhi with hlt | rfl
  · rw [h i hlo (by omega), heq]
  · rfl

theorem Flat.of_succ (h : Flat s k (n + 1)) (hk : k ≤ n) : s (n + 1) = s n ∧ Flat s k n := by
  have hn := h n hk (Nat.le_succ n)
  exact ⟨hn.symm, fun i hlo hhi => (h i hlo (by omega)).trans hn.symm⟩

variable [DecidableEq α]

instance (s : Nat → α) (k n : Nat) : Decidable (Flat s k n) :=
  decidable_of_iff (∀ i < n + 1, k ≤ i → s i = s n)
    ⟨fun h i hlo hhi => h i (by omega) hlo, fun h i hhi hlo => h i hlo (by omega)⟩

/-- The index at which the constant run that ends at `n` begins. -/
def start (s : Nat → α) : Nat → Nat
  | 0 => 0
  | n + 1 => if s (n + 1) = s n then start s n else n + 1

theorem start_succ_eq (h : s (n + 1) = s n) : start s (n + 1) = start s n := by
  rw [start, if_pos h]

theorem start_succ_ne (h : s (n + 1) ≠ s n) : start s (n + 1) = n + 1 := by
  rw [start, if_neg h]

theorem start_le (s : Nat → α) : ∀ n, start s n ≤ n
  | 0 => Nat.le_refl 0
  | n + 1 => by
    have ih := start_le s n
    by_cases h : s (n + 1) = s n
    · rw [start_succ_eq h]; omega
    · exact Nat.le_of_eq (start_succ_ne h)

/-- **The run reaches back to `k` exactly when nothing has changed since `k`.** -/
theorem start_le_iff : ∀ {n}, k ≤ n → (start s n ≤ k ↔ Flat s k n)
  | 0, hk => by
    obtain rfl : k = 0 := by omega
    exact iff_of_true (Nat.le_refl 0) (flat_self s 0)
  | n + 1, hk => by
    rcases Nat.lt_or_eq_of_le hk with hlt | rfl
    · have hkn : k ≤ n := by omega
      by_cases h : s (n + 1) = s n
      · rw [start_succ_eq h, start_le_iff hkn]
        exact ⟨fun hf => hf.succ h, fun hf => (hf.of_succ hkn).2⟩
      · rw [start_succ_ne h]
        exact iff_of_false (by omega) fun hf => h (hf.of_succ hkn).1
    · exact iff_of_true (start_le s (n + 1)) (flat_self s (n + 1))

end Plateau
