import Mathlib.Data.List.Count
import Mathlib.Data.List.Sort
import Mathlib.Algebra.BigOperators.Group.List.Basic
import Mathlib.Algebra.Order.BigOperators.Group.List
import Mathlib.Tactic.Linarith

/-!
# Percentiles by counting

A percentile of a list of observations, by how many of them lie at or below it and how many strictly
below it. Nothing is said of how it is found, so two programs that find it agree
(`IsPercentile.unique`), whatever order the observations come in (`IsPercentile.perm`).

* **`isPercentile_getElem`** — in a sorted list the element at the nearest rank is a percentile;
* **`IsPercentile.exists_le`**, **`IsPercentile.exists_ge`** — a percentile of pooled samples lies
  between the percentiles of the samples.
-/

namespace Rank

section Counting

variable {α : Type} {p : Nat} {samples : List (List α)} {q : α → Bool}

theorem countP_flatten_le (hall : ∀ l ∈ samples, 100 * l.countP q ≤ p * l.length) :
    100 * samples.flatten.countP q ≤ p * samples.flatten.length := by
  induction samples with
  | nil => simp
  | cons l samples ih =>
    have hl := hall l List.mem_cons_self
    have hrest := ih fun l' hl' => hall l' (List.mem_cons_of_mem _ hl')
    rw [List.flatten_cons, List.countP_append, List.length_append]
    linarith

theorem le_countP_flatten (hall : ∀ l ∈ samples, p * l.length ≤ 100 * l.countP q) :
    p * samples.flatten.length ≤ 100 * samples.flatten.countP q := by
  induction samples with
  | nil => simp
  | cons l samples ih =>
    have hl := hall l List.mem_cons_self
    have hrest := ih fun l' hl' => hall l' (List.mem_cons_of_mem _ hl')
    rw [List.flatten_cons, List.countP_append, List.length_append]
    linarith

/-- Short of `p` in a hundred in one sample and not above it in any, short of it in the pool. -/
theorem countP_flatten_lt (hall : ∀ l ∈ samples, 100 * l.countP q ≤ p * l.length) {l : List α}
    (hl : l ∈ samples) (hlt : 100 * l.countP q < p * l.length) :
    100 * samples.flatten.countP q < p * samples.flatten.length := by
  obtain ⟨before, after, rfl⟩ := List.append_of_mem hl
  have hbefore := countP_flatten_le fun l' hl' => hall l' (List.mem_append_left _ hl')
  have hafter := countP_flatten_le fun l' hl' =>
    hall l' (List.mem_append_right _ (List.mem_cons_of_mem _ hl'))
  rw [List.flatten_append, List.flatten_cons, List.countP_append, List.countP_append,
    List.length_append, List.length_append]
  linarith

end Counting

variable {α : Type} [LinearOrder α] {l l' : List α} {p p' : Nat} {r r' : α}

/-- `r` is one of the observations, at least `p` in a hundred of them are at most `r`, and fewer are
below it. -/
structure IsPercentile (p : Nat) (l : List α) (r : α) : Prop where
  mem : r ∈ l
  enough : p * l.length ≤ 100 * l.countP (· ≤ r)
  notBelow : 100 * l.countP (· < r) < p * l.length

theorem countP_le_le_countP_lt (l : List α) (h : r < r') :
    l.countP (· ≤ r) ≤ l.countP (· < r') :=
  List.countP_mono_left fun x _ hx => by
    simp only [decide_eq_true_eq] at hx ⊢
    exact lt_of_le_of_lt hx h

theorem IsPercentile.mono (h : IsPercentile p l r) (h' : IsPercentile p' l r') (hpp : p ≤ p') :
    r ≤ r' := by
  by_contra hlt
  have hcount := countP_le_le_countP_lt l (not_le.mp hlt)
  have hlen : p * l.length ≤ p' * l.length := Nat.mul_le_mul_right _ hpp
  have := h.notBelow
  have := h'.enough
  omega

theorem IsPercentile.unique (h : IsPercentile p l r) (h' : IsPercentile p l r') : r = r' :=
  le_antisymm (h.mono h' le_rfl) (h'.mono h le_rfl)

theorem IsPercentile.perm (h : IsPercentile p l r) (hperm : l.Perm l') : IsPercentile p l' r where
  mem := hperm.mem_iff.mp h.mem
  enough := by rw [← hperm.length_eq, ← hperm.countP_eq]; exact h.enough
  notBelow := by rw [← hperm.length_eq, ← hperm.countP_eq]; exact h.notBelow

/-! ## The nearest rank of a sorted list -/

section Sorted

variable (hsorted : l.Pairwise (· ≤ ·)) {i : Nat} (hi : i < l.length)
include hsorted

/-- The element at index `i` and those before it are at most itself. -/
theorem lt_countP_le_getElem : i < l.countP (· ≤ l[i]) := by
  have hall : ∀ x ∈ l.take (i + 1), decide (x ≤ l[i]) = true := by
    intro x hx
    obtain ⟨j, hj, rfl⟩ := List.mem_take_iff_getElem.mp hx
    rw [decide_eq_true_eq]
    rcases Nat.lt_or_ge j i with hlt | hge
    · exact List.pairwise_iff_getElem.mp hsorted j i _ _ hlt
    · have : j = i := by omega
      subst this
      exact le_rfl
  have htake : (l.take (i + 1)).countP (· ≤ l[i]) = i + 1 := by
    rw [List.countP_eq_length.mpr hall, List.length_take]
    omega
  have hsub := (List.take_sublist (i + 1) l).countP_le (p := (· ≤ l[i]))
  omega

/-- Only elements before index `i` are below the one there. -/
theorem countP_lt_getElem_le : l.countP (· < l[i]) ≤ i := by
  have hnone : ∀ x ∈ l.drop i, ¬decide (x < l[i]) = true := by
    intro x hx
    obtain ⟨j, hj, rfl⟩ := List.mem_drop_iff_getElem.mp hx
    rw [decide_eq_true_eq, not_lt]
    rcases Nat.eq_zero_or_pos j with rfl | hpos
    · exact le_rfl
    · exact List.pairwise_iff_getElem.mp hsorted i (i + j) _ _ (by omega)
  calc l.countP (· < l[i])
      = (l.take i).countP (· < l[i]) + (l.drop i).countP (· < l[i]) := by
        rw [← List.countP_append, List.take_append_drop]
    _ = (l.take i).countP (· < l[i]) := by rw [List.countP_eq_zero.mpr hnone, Nat.add_zero]
    _ ≤ (l.take i).length := List.countP_le_length
    _ ≤ i := List.length_take_le _ _

/-- The nearest-rank rule: the index is one less than `p` in a hundred of the length, rounded up. -/
theorem isPercentile_getElem (hlow : 100 * i < p * l.length)
    (hhigh : p * l.length ≤ 100 * (i + 1)) : IsPercentile p l l[i] where
  mem := List.getElem_mem hi
  enough := by
    have := lt_countP_le_getElem hsorted hi
    omega
  notBelow := by
    have := countP_lt_getElem_le hsorted hi
    omega

end Sorted

/-! ## Pooled samples -/

section Pool

variable {samples : List (List α)} {percentile : List α → α}
  (hall : ∀ l ∈ samples, l ≠ [] → IsPercentile p l (percentile l))
include hall

/-- Were every sample's percentile above `r`, fewer than `p` in a hundred of the pool would be at
most `r`. -/
theorem IsPercentile.exists_le (h : IsPercentile p samples.flatten r) :
    ∃ l ∈ samples, l ≠ [] ∧ percentile l ≤ r := by
  by_contra hnone
  push Not at hnone
  have hshort : ∀ l ∈ samples, l ≠ [] → 100 * l.countP (· ≤ r) < p * l.length := by
    intro l hl hne
    have hcount := countP_le_le_countP_lt l (hnone l hl hne)
    have := (hall l hl hne).notBelow
    omega
  obtain ⟨l, hl, hr⟩ := List.mem_flatten.mp h.mem
  have hpool := countP_flatten_lt (p := p) (q := (· ≤ r))
    (fun l' hl' => by
      by_cases hne : l' = []
      · simp [hne]
      · exact (hshort l' hl' hne).le)
    hl (hshort l hl (List.ne_nil_of_mem hr))
  exact absurd h.enough (not_le.mpr hpool)

theorem IsPercentile.exists_ge (h : IsPercentile p samples.flatten r) :
    ∃ l ∈ samples, l ≠ [] ∧ r ≤ percentile l := by
  by_contra hnone
  push Not at hnone
  have hpool := le_countP_flatten (p := p) (q := (· < r)) fun l hl => by
    by_cases hne : l = []
    · simp [hne]
    · have hcount := countP_le_le_countP_lt l (hnone l hl hne)
      have := (hall l hl hne).enough
      omega
  exact absurd h.notBelow (not_lt.mpr hpool)

end Pool

end Rank
