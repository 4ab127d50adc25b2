import AceXdp.Join.Calibration
import AceXdp.Lib.Rounding

/-!
# AceXdp — what `Calibration.lookup` returns

The lookup against its specification: the rational value of the line through the two points around
a time, rounded to nearest with halves away from zero.

* `roundRatio_eq_roundAway`: the sign-split integer arithmetic of `round_ratio` is that rounding;
* `Calibration.lookup_before`, `lookup_after`, `lookup_exact`, `lookup_inside`: the four answers, by
  where the time lies among the points;
* `lookup_interpolates`: all of it together.
-/

namespace AceXdp

open Rounding

/-! ## `round_ratio`

Rounding to the nearest integer, halves away from zero, in integer arithmetic. -/

theorem floor_ratio_add_half (numerator : Int) {denominator : Int} (hd : 0 < denominator) :
    ⌊(numerator : ℚ) / denominator + 1 / 2⌋
      = (2 * numerator + denominator) / (2 * denominator) := by
  lift denominator to ℕ using hd.le
  have hdQ : (denominator : ℚ) ≠ 0 := by exact_mod_cast hd.ne'
  have hratio : (numerator : ℚ) / (denominator : ℤ) + 1 / 2
      = ((2 * numerator + denominator : ℤ) : ℚ) / ((2 * denominator : ℕ) : ℚ) := by
    push_cast
    field_simp
  rw [hratio, Rat.floor_intCast_div_natCast]
  push_cast
  rfl

theorem roundRatio_eq_roundAway (numerator : Int) {denominator : Int} (hd : 0 < denominator) :
    roundRatio numerator denominator = roundAway (numerator / denominator : ℚ) := by
  have hdQ : (0 : ℚ) < denominator := by exact_mod_cast hd
  by_cases hn : 0 ≤ numerator
  · have hnQ : (0 : ℚ) ≤ numerator := by exact_mod_cast hn
    rw [roundRatio, if_pos hn, roundAway_of_nonneg (div_nonneg hnQ hdQ.le),
      floor_ratio_add_half numerator hd]
  · -- the source negates, rounds and negates back
    have hnQ : (0 : ℚ) ≤ ((-numerator : ℤ) : ℚ) := by exact_mod_cast (by omega : 0 ≤ -numerator)
    have hneg : (numerator / denominator : ℚ) = -(((-numerator : ℤ) : ℚ) / denominator) := by
      push_cast
      ring
    rw [roundRatio, if_neg hn, hneg, roundAway_neg, roundAway_of_nonneg (div_nonneg hnQ hdQ.le),
      floor_ratio_add_half (-numerator) hd]

/-! ## The line through two points

Exact in rational numbers, rounded once at the end. -/

/-- The exact offset at `t` on the line through two calibration points. -/
def lineThrough (left following : CalibrationPoint) (t : Int) : ℚ :=
  left.offsetNs + (following.offsetNs - left.offsetNs : ℚ) * (t - left.monotonicNs)
    / (following.monotonicNs - left.monotonicNs)

theorem lineThrough_left (a b : CalibrationPoint) :
    lineThrough a b a.monotonicNs = a.offsetNs := by
  simp [lineThrough]

section Line

variable {a b : CalibrationPoint} (hab : a.monotonicNs < b.monotonicNs)
include hab

theorem span_rat_pos : (0 : ℚ) < b.monotonicNs - a.monotonicNs := by
  have : (a.monotonicNs : ℚ) < b.monotonicNs := by exact_mod_cast hab
  linarith

theorem interpolate_eq_roundAway (t : Int) :
    interpolate a b t = roundAway (lineThrough a b t) := by
  have hspan := span_rat_pos hab
  have hpos : 0 < b.monotonicNs - a.monotonicNs := by omega
  rw [interpolate, roundRatio_eq_roundAway _ hpos]
  congr 1
  push_cast [lineThrough]
  field_simp

theorem lineThrough_right : lineThrough a b b.monotonicNs = b.offsetNs := by
  have hspan := span_rat_pos hab
  rw [lineThrough, mul_div_assoc, div_self hspan.ne']
  ring

theorem lineThrough_le_of_le {t t' : Int} (htt : t ≤ t') (hoff : a.offsetNs ≤ b.offsetNs) :
    lineThrough a b t ≤ lineThrough a b t' := by
  have hspan := span_rat_pos hab
  have httQ : (t : ℚ) ≤ t' := by exact_mod_cast htt
  have hoffQ : (0 : ℚ) ≤ b.offsetNs - a.offsetNs := by
    have : (a.offsetNs : ℚ) ≤ b.offsetNs := by exact_mod_cast hoff
    linarith
  unfold lineThrough
  gcongr

theorem lineThrough_ge_of_ge {t t' : Int} (htt : t ≤ t') (hoff : b.offsetNs ≤ a.offsetNs) :
    lineThrough a b t' ≤ lineThrough a b t := by
  have hspan := span_rat_pos hab
  have httQ : (t : ℚ) ≤ t' := by exact_mod_cast htt
  have hoffQ : (b.offsetNs - a.offsetNs : ℚ) ≤ 0 := by
    have : (b.offsetNs : ℚ) ≤ a.offsetNs := by exact_mod_cast hoff
    linarith
  have hmul := mul_le_mul_of_nonpos_left (sub_le_sub_right httQ (a.monotonicNs : ℚ)) hoffQ
  unfold lineThrough
  gcongr

/-- The rounded line stays between the two offsets: rounding keeps the order and fixes integers. -/
theorem roundAway_lineThrough_mem {t : Int} (ha : a.monotonicNs ≤ t) (hb : t ≤ b.monotonicNs) :
    min a.offsetNs b.offsetNs ≤ roundAway (lineThrough a b t)
      ∧ roundAway (lineThrough a b t) ≤ max a.offsetNs b.offsetNs := by
  rcases le_total a.offsetNs b.offsetNs with hoff | hoff
  · have hlow := lineThrough_le_of_le hab ha hoff
    have hhigh := lineThrough_le_of_le hab hb hoff
    rw [lineThrough_left a b] at hlow
    rw [lineThrough_right hab] at hhigh
    rw [min_eq_left hoff, max_eq_right hoff]
    exact ⟨le_roundAway hlow, roundAway_le hhigh⟩
  · have hhigh := lineThrough_ge_of_ge hab ha hoff
    have hlow := lineThrough_ge_of_ge hab hb hoff
    rw [lineThrough_left a b] at hhigh
    rw [lineThrough_right hab] at hlow
    rw [min_eq_right hoff, max_eq_left hoff]
    exact ⟨le_roundAway hlow, roundAway_le hhigh⟩

end Line

/-! ## Where a time lies

`bisect_right` splits an increasing list; every case of the lookup is a property of the split. -/

/-- `bisect_right` counts the points up to the split of the times at `t`. -/
theorem bisectRight_append (before after : List CalibrationPoint) {t : Int}
    (hbefore : ∀ p ∈ before, p.monotonicNs ≤ t) (hafter : ∀ p ∈ after, t < p.monotonicNs) :
    bisectRight (before ++ after) t = before.length := by
  unfold bisectRight
  rw [List.takeWhile_append_of_pos (by simpa using hbefore)]
  cases after with
  | nil => simp
  | cons p rest =>
    have hp : ¬p.monotonicNs ≤ t := by have := hafter p List.mem_cons_self; omega
    rw [List.takeWhile_cons_of_neg (by simpa using hp), List.append_nil]

/-- Every time is before the first point, after the last, at a point or between two neighbours.
Induction on the points. -/
theorem locate_time (t : Int) : ∀ (points : List CalibrationPoint) (hne : points ≠ []),
    t < (points.head hne).monotonicNs ∨ (points.getLast hne).monotonicNs < t
    ∨ (∃ p ∈ points, t = p.monotonicNs)
    ∨ ∃ before a b after, points = before ++ a :: b :: after ∧ a.monotonicNs < t
        ∧ t < b.monotonicNs
  | [p], _ => by
    rcases lt_trichotomy t p.monotonicNs with h | h | h
    · exact .inl h
    · exact .inr (.inr (.inl ⟨p, List.mem_cons_self, h⟩))
    · exact .inr (.inl h)
  | p :: q :: rest, _ => by
    rcases lt_trichotomy t p.monotonicNs with h | h | h
    · exact .inl h
    · exact .inr (.inr (.inl ⟨p, List.mem_cons_self, h⟩))
    · rcases locate_time t (q :: rest) (List.cons_ne_nil _ _) with hq | hlast | hpoint | hpair
      · exact .inr (.inr (.inr ⟨[], p, q, rest, rfl, h, hq⟩))
      · exact .inr (.inl (by rwa [List.getLast_cons (List.cons_ne_nil _ _)]))
      · obtain ⟨r, hr, hat⟩ := hpoint
        exact .inr (.inr (.inl ⟨r, List.mem_cons_of_mem _ hr, hat⟩))
      · obtain ⟨before, a, b, after, heq, hat, htb⟩ := hpair
        exact .inr (.inr (.inr ⟨p :: before, a, b, after, by rw [heq]; rfl, hat, htb⟩))

namespace Calibration

variable (c : Calibration) {t : Int} (allowEndpointClamp : Bool)

/-- The points on either side of one of them, from the strict increase. -/
theorem split_increasing {before after : List CalibrationPoint} {p : CalibrationPoint}
    (hsplit : c.points = before ++ p :: after) :
    (∀ q ∈ before, q.monotonicNs < p.monotonicNs) ∧ ∀ q ∈ after, p.monotonicNs < q.monotonicNs := by
  have hinc := c.increasing
  rw [hsplit, List.pairwise_append, List.pairwise_cons] at hinc
  exact ⟨fun q hq => hinc.2.2 q hq p List.mem_cons_self, fun q hq => hinc.2.1.1 q hq⟩

theorem bisectRight_split {before after : List CalibrationPoint} {p : CalibrationPoint}
    (hsplit : c.points = before ++ p :: after) (hp : p.monotonicNs ≤ t)
    (hafter : ∀ q ∈ after, t < q.monotonicNs) :
    bisectRight c.points t = before.length + 1 := by
  have hbefore := (c.split_increasing hsplit).1
  have hcount := bisectRight_append (before ++ [p]) after
    (by
      intro q hq
      rcases List.mem_append.mp hq with hq | hq
      · exact (hbefore q hq).le.trans hp
      · rwa [List.mem_singleton.mp hq])
    hafter
  rwa [List.append_assoc, List.singleton_append, ← hsplit, List.length_append] at hcount

theorem head_le {p : CalibrationPoint} (hp : p ∈ c.points) :
    (c.points.head c.nonempty).monotonicNs ≤ p.monotonicNs := by
  obtain ⟨q, rest, hcons⟩ := List.exists_cons_of_ne_nil c.nonempty
  have hafter := (c.split_increasing (hcons.trans (List.nil_append _).symm)).2
  have hmem : p ∈ q :: rest := hcons ▸ hp
  have hhead : c.points.head c.nonempty = q := by simp [hcons]
  rw [hhead]
  rcases List.mem_cons.mp hmem with rfl | hrest
  · exact le_rfl
  · exact (hafter p hrest).le

theorem le_getLast {p : CalibrationPoint} (hp : p ∈ c.points) :
    p.monotonicNs ≤ (c.points.getLast c.nonempty).monotonicNs := by
  have hsplit : c.points = c.points.dropLast ++ c.points.getLast c.nonempty :: [] :=
    (List.dropLast_append_getLast c.nonempty).symm
  have hbefore := (c.split_increasing hsplit).1
  rw [hsplit] at hp
  rcases List.mem_append.mp hp with hp | hp
  · exact (hbefore p hp).le
  · rw [List.mem_singleton.mp hp]

/-! ## The four answers

At a point, between two, before the first and behind the last. -/

theorem lookup_before (h : t < (c.points.head c.nonempty).monotonicNs) :
    c.lookup t allowEndpointClamp
      = ⟨if allowEndpointClamp then some (c.points.head c.nonempty).offsetNs else none, .before,
          true, (c.points.head c.nonempty).monotonicNs - t⟩ := by
  have hright : bisectRight c.points t = 0 :=
    bisectRight_append [] c.points (by simp) fun p hp => lt_of_lt_of_le h (c.head_le hp)
  rw [Calibration.lookup, if_pos hright]

theorem bisectRight_of_last_le (h : (c.points.getLast c.nonempty).monotonicNs ≤ t) :
    bisectRight c.points t = c.points.length := by
  have hcount := bisectRight_append c.points [] (t := t)
    (fun p hp => (c.le_getLast hp).trans h) (by simp)
  rwa [List.append_nil] at hcount

theorem lookup_of_last_le (h : (c.points.getLast c.nonempty).monotonicNs ≤ t) :
    c.lookup t allowEndpointClamp
      = if t = (c.points.getLast c.nonempty).monotonicNs then
          ⟨some (c.points.getLast c.nonempty).offsetNs, .exact, false, 0⟩
        else ⟨if allowEndpointClamp then some (c.points.getLast c.nonempty).offsetNs else none,
          .after, true, t - (c.points.getLast c.nonempty).monotonicNs⟩ := by
  have hright := c.bisectRight_of_last_le h
  have hpos : bisectRight c.points t ≠ 0 := by
    rw [hright]
    exact (List.length_pos_iff.mpr c.nonempty).ne'
  rw [Calibration.lookup, if_neg hpos, if_pos hright]

theorem lookup_after (h : (c.points.getLast c.nonempty).monotonicNs < t) :
    c.lookup t allowEndpointClamp
      = ⟨if allowEndpointClamp then some (c.points.getLast c.nonempty).offsetNs else none, .after,
          true, t - (c.points.getLast c.nonempty).monotonicNs⟩ := by
  rw [c.lookup_of_last_le allowEndpointClamp h.le, if_neg h.ne']

/-- With a point on each side of the split, the lookup reads the two points there. -/
theorem lookup_split {before after : List CalibrationPoint} {a b : CalibrationPoint}
    (hsplit : c.points = before ++ a :: b :: after) (ha : a.monotonicNs ≤ t)
    (hb : t < b.monotonicNs) :
    c.lookup t allowEndpointClamp
      = if t = a.monotonicNs then ⟨some a.offsetNs, .exact, false, 0⟩
        else ⟨some (interpolate a b t), .inside, false, 0⟩ := by
  have hsplit' : c.points = (before ++ [a]) ++ b :: after := by simp [hsplit]
  have hafter : ∀ q ∈ b :: after, t < q.monotonicNs := by
    intro q hq
    rcases List.mem_cons.mp hq with rfl | hq
    · exact hb
    · exact hb.trans ((c.split_increasing hsplit').2 q hq)
  have hright := c.bisectRight_split hsplit ha hafter
  have hlen : c.points.length = before.length + (after.length + 2) := by simp [hsplit]
  have hleft : c.points[before.length + 1 - 1]? = some a := by simp [hsplit]
  have hfollowing : c.points[before.length + 1]? = some b := by simp [hsplit']
  simp only [Calibration.lookup, hright, hleft, hfollowing]
  rw [if_neg (by omega), if_neg (by omega)]

theorem lookup_exact {p : CalibrationPoint} (hp : p ∈ c.points) :
    c.lookup p.monotonicNs allowEndpointClamp = ⟨some p.offsetNs, .exact, false, 0⟩ := by
  obtain ⟨before, after, hsplit⟩ := List.append_of_mem hp
  cases after with
  | nil =>
    have hlast : c.points.getLast c.nonempty = p := by simp [hsplit]
    rw [c.lookup_of_last_le allowEndpointClamp (by rw [hlast]), hlast, if_pos rfl]
  | cons b after =>
    have hb := (c.split_increasing hsplit).2 b List.mem_cons_self
    rw [c.lookup_split allowEndpointClamp hsplit le_rfl hb, if_pos rfl]

theorem lookup_inside {before after : List CalibrationPoint} {a b : CalibrationPoint}
    (hsplit : c.points = before ++ a :: b :: after) (ha : a.monotonicNs < t)
    (hb : t < b.monotonicNs) :
    c.lookup t allowEndpointClamp
      = ⟨some (roundAway (lineThrough a b t)), .inside, false, 0⟩ := by
  rw [c.lookup_split allowEndpointClamp hsplit ha.le hb, if_neg ha.ne',
    interpolate_eq_roundAway (ha.trans hb)]

/-- Between two neighbours, the ends included, the offset is the rounded line. -/
theorem lookup_between {before after : List CalibrationPoint} {a b : CalibrationPoint}
    (hsplit : c.points = before ++ a :: b :: after) (ha : a.monotonicNs ≤ t)
    (hb : t ≤ b.monotonicNs) :
    (c.lookup t allowEndpointClamp).offsetNs = some (roundAway (lineThrough a b t)) := by
  have hab : a.monotonicNs < b.monotonicNs :=
    (c.split_increasing hsplit).2 b List.mem_cons_self
  rcases ha.eq_or_lt with rfl | ha
  · rw [c.lookup_exact allowEndpointClamp (by simp [hsplit]), lineThrough_left a b,
      roundAway_intCast]
  · rcases hb.eq_or_lt with rfl | hb
    · rw [c.lookup_exact allowEndpointClamp (by simp [hsplit]), lineThrough_right hab,
        roundAway_intCast]
    · rw [c.lookup_inside allowEndpointClamp hsplit ha hb]

theorem outOfRange_eq_false_iff :
    (c.lookup t allowEndpointClamp).outOfRange = false
      ↔ (c.points.head c.nonempty).monotonicNs ≤ t
        ∧ t ≤ (c.points.getLast c.nonempty).monotonicNs := by
  rcases locate_time t c.points c.nonempty with h | h | ⟨p, hp, rfl⟩ | ⟨before, a, b, after, hsplit,
    ha, hb⟩
  · rw [c.lookup_before allowEndpointClamp h]
    simp [h]
  · rw [c.lookup_after allowEndpointClamp h]
    simp [h]
  · rw [c.lookup_exact allowEndpointClamp hp]
    simp [c.head_le hp, c.le_getLast hp]
  · rw [c.lookup_inside allowEndpointClamp hsplit ha hb]
    have hfirst := c.head_le (p := a) (by simp [hsplit])
    have hlast := c.le_getLast (p := b) (by simp [hsplit])
    simp only [true_iff]
    exact ⟨hfirst.trans ha.le, hb.le.trans hlast⟩

end Calibration

/-- **The lookup is exact rounded linear interpolation.** In range means between the first and the
last time; a point gives its own offset; strictly between two neighbours the answer is the one
integer nearest to the line through them, halves away from zero, which lies between their offsets
and moves with the line; outside there is no offset unless clamping is allowed, and the distance is
the one to the nearest end. -/
theorem lookup_interpolates (c : Calibration) (t : Int) (clamp : Bool) :
    ((c.lookup t clamp).outOfRange = false
      ↔ (c.points.head c.nonempty).monotonicNs ≤ t
        ∧ t ≤ (c.points.getLast c.nonempty).monotonicNs)
    ∧ (∀ p ∈ c.points, t = p.monotonicNs →
        c.lookup t clamp = ⟨some p.offsetNs, .exact, false, 0⟩)
    ∧ (∀ before a b after, c.points = before ++ a :: b :: after → a.monotonicNs < t →
        t < b.monotonicNs →
        ∃ o, c.lookup t clamp = ⟨some o, .inside, false, 0⟩
          ∧ (∀ n, NearestAway (lineThrough a b t) n ↔ n = o)
          ∧ min a.offsetNs b.offsetNs ≤ o ∧ o ≤ max a.offsetNs b.offsetNs)
    ∧ (∀ before a b after, c.points = before ++ a :: b :: after →
        ∀ t', a.monotonicNs ≤ t → t ≤ t' → t' ≤ b.monotonicNs →
        ∃ o o', (c.lookup t clamp).offsetNs = some o ∧ (c.lookup t' clamp).offsetNs = some o'
          ∧ (a.offsetNs ≤ b.offsetNs → o ≤ o') ∧ (b.offsetNs ≤ a.offsetNs → o' ≤ o))
    ∧ (t < (c.points.head c.nonempty).monotonicNs →
        c.lookup t clamp
            = ⟨if clamp then some (c.points.head c.nonempty).offsetNs else none, .before, true,
                (c.points.head c.nonempty).monotonicNs - t⟩
          ∧ 0 < (c.lookup t clamp).distanceNs)
    ∧ ((c.points.getLast c.nonempty).monotonicNs < t →
        c.lookup t clamp
            = ⟨if clamp then some (c.points.getLast c.nonempty).offsetNs else none, .after, true,
                t - (c.points.getLast c.nonempty).monotonicNs⟩
          ∧ 0 < (c.lookup t clamp).distanceNs) := by
  refine ⟨c.outOfRange_eq_false_iff clamp, ?_, ?_, ?_, ?_, ?_⟩
  · rintro p hp rfl
    exact c.lookup_exact clamp hp
  · intro before a b after hsplit ha hb
    have hnear := nearestAway_roundAway (lineThrough a b t)
    refine ⟨_, c.lookup_inside clamp hsplit ha hb, fun n => ⟨fun hn => hn.unique hnear, ?_⟩,
      roundAway_lineThrough_mem (ha.trans hb) ha.le hb.le⟩
    rintro rfl
    exact hnear
  · intro before a b after hsplit t' ha htt hb
    have hab := (c.split_increasing hsplit).2 b List.mem_cons_self
    exact ⟨_, _, c.lookup_between clamp hsplit ha (htt.trans hb),
      c.lookup_between clamp hsplit (ha.trans htt) hb,
      fun hoff => roundAway_monotone (lineThrough_le_of_le hab htt hoff),
      fun hoff => roundAway_monotone (lineThrough_ge_of_ge hab htt hoff)⟩
  · intro h
    rw [c.lookup_before clamp h]
    exact ⟨rfl, by simpa using h⟩
  · intro h
    rw [c.lookup_after clamp h]
    exact ⟨rfl, by simpa using h⟩

end AceXdp
