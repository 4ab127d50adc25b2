import Mathlib.Algebra.Order.BigOperators.Group.List
import Mathlib.Algebra.Order.Field.Basic
import Mathlib.Tactic.Linarith
import Mathlib.Tactic.FieldSimp
import Mathlib.Tactic.Ring

/-!
# Counters sampled over time — windows, overlaps and the interpolant

A list of samples, each with a time and a value. A window `[s, e]` is measured interval by
interval: each pair of adjacent samples contributes in proportion to its overlap with the window.

* **`sum_overlap`** — the overlaps add up to the part of the window the samples cover;
* **`sum_overlap_eq_iff`** — they add up to the whole window exactly when the samples bracket it;
* **`sum_overlap_filter_eq_iff`** — the same when only some of the intervals count;
* **`sum_gain`** — over a bracketed window the contributions add up to the difference of the
  piecewise-linear interpolant at its ends.
-/

namespace Interpolant

variable {α : Type}

/-- Adjacent elements. -/
def pairs (l : List α) : List (α × α) := l.zip l.tail

@[simp]
theorem pairs_nil : pairs ([] : List α) = [] := rfl

@[simp]
theorem pairs_singleton (p : α) : pairs [p] = [] := rfl

@[simp]
theorem pairs_cons_cons (p q : α) (l : List α) : pairs (p :: q :: l) = (p, q) :: pairs (q :: l) :=
  rfl

/-- Adjacent elements of an ordered list are ordered. -/
theorem rel_of_mem_pairs {R : α → α → Prop} {l : List α} (h : l.Pairwise R) :
    ∀ pq ∈ pairs l, R pq.1 pq.2 := by
  induction l with
  | nil => simp
  | cons p l ih =>
    cases l with
    | nil => simp
    | cons q l =>
      obtain ⟨hp, hl⟩ := List.pairwise_cons.mp h
      rw [pairs_cons_cons]
      intro pq hpq
      rcases List.mem_cons.mp hpq with rfl | hpq
      · exact hp q List.mem_cons_self
      · exact ih hl pq hpq

variable {K : Type} [Field K] [LinearOrder K]

/-- How much of the window `[s, e]` lies in `[a, b]`. -/
def overlap (s e a b : K) : K := max 0 (min e b - max s a)

theorem overlap_nonneg (s e a b : K) : 0 ≤ overlap s e a b := le_max_left _ _

/-- Behind `a` the window may as well start at `a`. -/
theorem overlap_start {s s' e a b : K} (hs : s ≤ a) (hs' : s' ≤ a) :
    overlap s e a b = overlap s' e a b := by
  unfold overlap
  rw [max_eq_right hs, max_eq_right hs']

variable [IsStrictOrderedRing K]

theorem overlap_eq_zero {s e a b : K} (h : min e b ≤ max s a) : overlap s e a b = 0 :=
  max_eq_left (sub_nonpos.mpr h)

theorem overlap_eq_sub {s e a b : K} (h : max s a ≤ min e b) :
    overlap s e a b = min e b - max s a :=
  max_eq_right (sub_nonneg.mpr h)

section Samples

variable (time : α → K)

/-- The overlaps of a window with the sampling intervals, added up. -/
def covered (s e : K) (l : List α) : K :=
  ((pairs l).map fun pq => overlap s e (time pq.1) (time pq.2)).sum

variable {time}

/-- **The overlaps add up** to what lies between the first and the last sample. Induction on the
samples; the interval in front joins the rest without a gap. -/
theorem sum_overlap {s e : K} (hse : s ≤ e) (p : α) :
    ∀ {l : List α}, (p :: l).Pairwise (fun a b => time a < time b) →
      covered time s e (p :: l)
        = overlap s e (time p) (time ((p :: l).getLast (List.cons_ne_nil p l)))
  | [], _ => by
    have hnil : overlap s e (time p) (time p) = 0 := by
      refine overlap_eq_zero ?_
      exact (min_le_right _ _).trans (le_max_right _ _)
    simp [covered, hnil]
  | q :: l, h => by
    obtain ⟨hp, hl⟩ := List.pairwise_cons.mp h
    have hpq := hp q List.mem_cons_self
    have hqlast : time q ≤ time ((q :: l).getLast (List.cons_ne_nil q l)) := by
      rcases List.mem_cons.mp (List.getLast_mem (List.cons_ne_nil q l)) with hq | hq
      · rw [hq]
      · exact ((List.pairwise_cons.mp hl).1 _ hq).le
    have hrest := sum_overlap hse q hl
    rw [List.getLast_cons (List.cons_ne_nil q l)]
    unfold covered at hrest ⊢
    rw [pairs_cons_cons, List.map_cons, List.sum_cons, hrest]
    generalize time ((q :: l).getLast (List.cons_ne_nil q l)) = z at hqlast
    unfold overlap
    dsimp only
    -- where `q` lies relative to the window decides each maximum
    rcases le_total (time q) s with hqs | hqs
    · rw [max_eq_left hqs, max_eq_left (hpq.le.trans hqs),
        max_eq_left (show min e (time q) - s ≤ 0 from by
          linarith [min_le_right e (time q)]), zero_add]
    · rcases le_total e (time q) with heq | heq
      · rw [min_eq_left heq, min_eq_left (heq.trans hqlast),
          max_eq_left (show e - max s (time q) ≤ 0 from by
            linarith [le_max_right s (time q)]), add_zero]
      · rw [min_eq_right heq, max_eq_right hqs]
        have hfirst : max s (time p) ≤ time q := max_le hqs hpq.le
        have hlast : time q ≤ min e z := le_min heq hqlast
        rw [max_eq_right (sub_nonneg.mpr hfirst), max_eq_right (sub_nonneg.mpr hlast),
          max_eq_right (sub_nonneg.mpr (hfirst.trans hlast))]
        ring

/-- The samples bracket the window. -/
def Brackets (time : α → K) (s e : K) (l : List α) : Prop :=
  ∃ first last, l.head? = some first ∧ l.getLast? = some last ∧ time first ≤ s ∧ e ≤ time last

/-- **Full coverage is bracketing.** -/
theorem sum_overlap_eq_iff {s e : K} (hse : s < e) {l : List α}
    (h : l.Pairwise fun a b => time a < time b) :
    covered time s e l = e - s ↔ Brackets time s e l := by
  cases l with
  | nil =>
    have hpos : (0 : K) ≠ e - s := (sub_pos.mpr hse).ne
    simp [covered, Brackets, hpos]
  | cons p l =>
    rw [sum_overlap hse.le p h]
    have hbrackets : Brackets time s e (p :: l)
        ↔ time p ≤ s ∧ e ≤ time ((p :: l).getLast (List.cons_ne_nil p l)) := by
      constructor
      · rintro ⟨first, last, hfirst, hlast, hs, he⟩
        rw [List.getLast?_eq_some_getLast (List.cons_ne_nil p l)] at hlast
        cases hfirst
        cases hlast
        exact ⟨hs, he⟩
      · rintro ⟨hs, he⟩
        exact ⟨p, _, rfl, List.getLast?_eq_some_getLast (List.cons_ne_nil p l), hs, he⟩
    rw [hbrackets]
    generalize time ((p :: l).getLast (List.cons_ne_nil p l)) = z
    constructor
    · intro hfull
      have hpos : 0 < overlap s e (time p) z := by rw [hfull]; exact sub_pos.mpr hse
      have hsub : overlap s e (time p) z = min e z - max s (time p) := by
        refine overlap_eq_sub (le_of_lt ?_)
        by_contra hle
        rw [overlap_eq_zero (not_lt.mp hle)] at hpos
        exact lt_irrefl _ hpos
      rw [hsub] at hfull
      have h1 := min_le_left e z
      have h2 := min_le_right e z
      have h3 := le_max_left s (time p)
      have h4 := le_max_right s (time p)
      constructor <;> linarith
    · rintro ⟨hs, he⟩
      rw [overlap, min_eq_left he, max_eq_left hs, max_eq_right (sub_nonneg.mpr hse.le)]

theorem overlap_le {s e a b : K} (hse : s ≤ e) : overlap s e a b ≤ e - s := by
  refine max_le (sub_nonneg.mpr hse) ?_
  have h1 := min_le_left e b
  have h2 := le_max_left s a
  linarith

theorem covered_le {s e : K} (hse : s ≤ e) {l : List α}
    (h : l.Pairwise fun a b => time a < time b) : covered time s e l ≤ e - s := by
  cases l with
  | nil => simpa [covered] using hse
  | cons p l =>
    rw [sum_overlap hse p h]
    exact overlap_le hse

/-- **Full coverage by selected intervals.** If only the intervals of `P` count, the window is
covered exactly when the samples bracket it and every interval that overlaps it counts. -/
theorem sum_overlap_filter_eq_iff {s e : K} (hse : s < e) {l : List α}
    (h : l.Pairwise fun a b => time a < time b) (P : α × α → Bool) :
    (((pairs l).filter P).map fun pq => overlap s e (time pq.1) (time pq.2)).sum = e - s
      ↔ Brackets time s e l
        ∧ ∀ pq ∈ pairs l, 0 < overlap s e (time pq.1) (time pq.2) → P pq = true := by
  set f : α × α → K := fun pq => overlap s e (time pq.1) (time pq.2) with hf
  have hsplit : (((pairs l).filter P).map f).sum + (((pairs l).filter fun pq => !P pq).map f).sum
      = covered time s e l := by
    rw [← List.sum_append, ← List.map_append]
    exact ((List.filter_append_perm P (pairs l)).map f).sum_eq
  have hskip : 0 ≤ (((pairs l).filter fun pq => !P pq).map f).sum := by
    refine List.sum_nonneg fun x hx => ?_
    obtain ⟨pq, _, rfl⟩ := List.mem_map.mp hx
    exact overlap_nonneg _ _ _ _
  have hle := covered_le hse.le h
  constructor
  · intro hfull
    have hcov : covered time s e l = e - s := by linarith
    have hzero : (((pairs l).filter fun pq => !P pq).map f).sum = 0 := by linarith
    refine ⟨(sum_overlap_eq_iff hse h).mp hcov, fun pq hpq hpos => ?_⟩
    by_contra hP
    have hmem : f pq ∈ ((pairs l).filter fun pq => !P pq).map f :=
      List.mem_map_of_mem (List.mem_filter.mpr ⟨hpq, by simpa using hP⟩)
    have hsingle := List.single_le_sum (fun x hx => by
      obtain ⟨pq, _, rfl⟩ := List.mem_map.mp hx
      exact overlap_nonneg _ _ _ _) _ hmem
    rw [hzero] at hsingle
    exact absurd hpos (not_lt.mpr hsingle)
  · rintro ⟨hbr, hall⟩
    have hcov := (sum_overlap_eq_iff hse h).mpr hbr
    have hzero : (((pairs l).filter fun pq => !P pq).map f).sum = 0 := by
      refine List.sum_eq_zero fun x hx => ?_
      obtain ⟨pq, hpq, rfl⟩ := List.mem_map.mp hx
      obtain ⟨hmem, hP⟩ := List.mem_filter.mp hpq
      by_contra hne
      have hpos : 0 < f pq := lt_of_le_of_ne (overlap_nonneg _ _ _ _) (Ne.symm hne)
      rw [hall pq hmem hpos] at hP
      cases hP
    linarith

variable (time) (value : α → K)

/-- The piecewise-linear interpolant through the samples, for times between the first and the
last. -/
def interpolant (x : K) : List α → K
  | [] => 0
  | [p] => value p
  | p :: q :: l =>
    if x ≤ time q then
      value p + (value q - value p) * ((x - time p) / (time q - time p))
    else interpolant x (q :: l)

/-- What a pair of samples contributes to a window: its difference, weighted by the overlap. -/
def contribution (s e : K) (pq : α × α) : K :=
  (value pq.2 - value pq.1) * (overlap s e (time pq.1) (time pq.2) / (time pq.2 - time pq.1))

def gain (s e : K) (l : List α) : K := ((pairs l).map (contribution time value s e)).sum

variable {time} {value}

omit [IsStrictOrderedRing K] in
theorem interpolant_first {p : α} {l : List α} (h : (p :: l).Pairwise fun a b => time a < time b) :
    interpolant time value (time p) (p :: l) = value p := by
  cases l with
  | nil => rfl
  | cons q l =>
    have hpq := (List.pairwise_cons.mp h).1 q List.mem_cons_self
    rw [interpolant, if_pos hpq.le, sub_self, zero_div, mul_zero, add_zero]

/-- A window that ends before the first sample gains nothing. -/
theorem gain_before {s e : K} {p : α} {l : List α}
    (h : (p :: l).Pairwise fun a b => time a < time b) (he : e ≤ time p) :
    gain time value s e (p :: l) = 0 := by
  refine List.sum_eq_zero fun x hx => ?_
  obtain ⟨pq, hpq, rfl⟩ := List.mem_map.mp hx
  have hle : time p ≤ time pq.1 := by
    rcases List.mem_cons.mp (List.of_mem_zip hpq).1 with hp | hp
    · rw [hp]
    · exact ((List.pairwise_cons.mp h).1 _ hp).le
  have hzero : overlap s e (time pq.1) (time pq.2) = 0 := by
    refine overlap_eq_zero ?_
    exact (min_le_left _ _).trans ((he.trans hle).trans (le_max_right _ _))
  rw [contribution, hzero, zero_div, mul_zero]

omit [IsStrictOrderedRing K] in
/-- Before the first sample the window may as well start there. -/
theorem gain_start {s s' e : K} {p : α} {l : List α}
    (h : (p :: l).Pairwise fun a b => time a < time b) (hs : s ≤ time p) (hs' : s' ≤ time p) :
    gain time value s e (p :: l) = gain time value s' e (p :: l) := by
  refine congrArg List.sum (List.map_congr_left fun pq hpq => ?_)
  have hle : time p ≤ time pq.1 := by
    rcases List.mem_cons.mp (List.of_mem_zip hpq).1 with hp | hp
    · rw [hp]
    · exact ((List.pairwise_cons.mp h).1 _ hp).le
  rw [contribution, contribution, overlap_start (hs.trans hle) (hs'.trans hle)]

/-- **The contributions add up to the difference of the interpolant.** Induction on the samples;
the window starts and ends in the first interval, leaves it, or lies behind it. -/
theorem sum_gain {e : K} : ∀ {p : α} {l : List α} {s : K},
    (p :: l).Pairwise (fun a b => time a < time b) → time p ≤ s → s ≤ e →
    e ≤ time ((p :: l).getLast (List.cons_ne_nil p l)) →
    gain time value s e (p :: l)
      = interpolant time value e (p :: l) - interpolant time value s (p :: l)
  | p, [], s, _, hs, hse, he => by
    simp [gain, interpolant]
  | p, q :: l, s, h, hs, hse, he => by
    obtain ⟨hp, hl⟩ := List.pairwise_cons.mp h
    have hpq := hp q List.mem_cons_self
    have hne : time q - time p ≠ 0 := (sub_pos.mpr hpq).ne'
    rw [List.getLast_cons (List.cons_ne_nil q l)] at he
    have hsplit : gain time value s e (p :: q :: l)
        = contribution time value s e (p, q) + gain time value s e (q :: l) := by
      rw [gain, gain, pairs_cons_cons, List.map_cons, List.sum_cons]
    rw [hsplit, interpolant, interpolant]
    rcases le_or_gt e (time q) with heq | heq
    -- the window ends in the first interval
    · rw [gain_before hl heq, if_pos heq, if_pos (hse.trans heq), contribution,
        overlap, min_eq_left heq, max_eq_left hs, max_eq_right (sub_nonneg.mpr hse)]
      field_simp
      ring
    · rw [if_neg (not_le.mpr heq)]
      rcases le_or_gt s (time q) with hsq | hsq
      -- it starts there and goes on
      · have hrest := sum_gain hl le_rfl heq.le he
        rw [interpolant_first hl] at hrest
        rw [gain_start hl hsq le_rfl, hrest, if_pos hsq, contribution, overlap,
          min_eq_right heq.le, max_eq_left hs, max_eq_right (sub_nonneg.mpr hsq)]
        field_simp
        ring
      -- it lies behind
      · have hzero : overlap s e (time p) (time q) = 0 := by
          refine overlap_eq_zero ?_
          exact (min_le_right _ _).trans (hsq.le.trans (le_max_left _ _))
        rw [sum_gain hl hsq.le hse he, if_neg (not_le.mpr hsq), contribution, hzero, zero_div,
          mul_zero, zero_add]

theorem gain_of_brackets {s e : K} {l : List α} (h : l.Pairwise fun a b => time a < time b)
    (hse : s ≤ e) (hb : Brackets time s e l) :
    gain time value s e l = interpolant time value e l - interpolant time value s l := by
  obtain ⟨first, last, hfirst, hlast, hs, he⟩ := hb
  cases l with
  | nil => cases hfirst
  | cons p l =>
    rw [List.getLast?_eq_some_getLast (List.cons_ne_nil p l)] at hlast
    cases hfirst
    rw [← Option.some.inj hlast] at he
    exact sum_gain h hs hse he

omit [Field K] [IsStrictOrderedRing K] in
theorem Brackets.ne_nil {s e : K} {l : List α} (h : Brackets time s e l) : l ≠ [] := by
  obtain ⟨first, _, hfirst, _⟩ := h
  rintro rfl
  cases hfirst

omit [Field K] [IsStrictOrderedRing K] in
/-- A smaller window is bracketed too. -/
theorem Brackets.mono {s s' e e' : K} {l : List α} (h : Brackets time s e l) (hs : s ≤ s')
    (he : e' ≤ e) : Brackets time s' e' l := by
  obtain ⟨first, last, hfirst, hlast, hs₀, he₀⟩ := h
  exact ⟨first, last, hfirst, hlast, hs₀.trans hs, he.trans he₀⟩

end Samples

end Interpolant
