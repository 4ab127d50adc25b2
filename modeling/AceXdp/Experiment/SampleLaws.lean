import Mathlib.Algebra.BigOperators.Field
import Mathlib.Algebra.Order.BigOperators.Group.Finset
import AceXdp.Experiment.Samples
import AceXdp.Lib.Checked

/-!
# AceXdp — what the sample summaries report

The loaders group the rows of a file by identifier, with increasing times (`Grouped`). Over such a
group the loops of the summaries are sums over adjacent samples, and the general facts on overlaps
and interpolation apply:

* `network_window_accounting`: an interface is reported when its samples bracket the window, and
  its totals are differences of the interpolated counters;
* `cpu_summary_well_defined`: no division by zero, and percentages that are percentages.
-/

namespace AceXdp

namespace Samples

open Csv Interpolant Checked

variable {ι : Type}

/-! ## Loading

The samples of a file are grouped by identifier, in file order. A file in which time goes back is
refused. -/

/-- The samples of one identifier in a file, in file order. -/
def rowsOf [Fintype ι] (column : ι → Nat) (key : Text) (rows : List (List Text)) :
    List (Sample ι) :=
  rows.filterMap fun row => if row[1]? = some key then readSample column row else none

/-- A column is found by its name or by its place. -/
theorem cell_of_getElem? {names row : List Text} (hnodup : names.Nodup) {k : Nat} {field : Text}
    (hfield : names[k]? = some field) : Aggregate.cell names row field = row[k]? := by
  unfold Aggregate.cell
  cases hcell : row[k]? with
  | some text =>
    have hkeys : ((names.zip row).reverse.map Prod.fst).Nodup := by
      rw [List.map_reverse, List.nodup_reverse, List.zip_eq_zip_take_min,
        List.map_fst_zip (by simp)]
      exact hnodup.sublist (List.take_sublist _ _)
    refine lookup_of_mem (p := (field, text)) hkeys (List.mem_reverse.mpr ?_)
    exact List.mem_of_getElem? (List.getElem?_zip_eq_some.mpr ⟨hfield, hcell⟩)
  | none =>
    rw [List.lookup_eq_none_iff]
    rintro ⟨name, text⟩ hmem
    obtain ⟨j, hj⟩ := List.mem_iff_getElem?.mp (List.mem_reverse.mp hmem)
    obtain ⟨hname, htext⟩ := List.getElem?_zip_eq_some.mp hj
    rw [bne_iff_ne]
    rintro rfl
    -- the names are different ones, so `j` is the same place
    obtain ⟨hjlt, -⟩ := List.getElem?_eq_some_iff.mp hname
    have hplace := (List.getElem?_inj hjlt hnodup).mp (hname.trans hfield.symm)
    rw [hplace, hcell] at htext
    cases htext

theorem readSample_eq_some [Fintype ι] {column : ι → Nat} {row : List Text} {sample : Sample ι}
    (h : readSample column row = some sample) :
    digits row[0]? = some sample.time ∧ ∀ i, digits row[column i]? = some (sample.counters i) := by
  obtain ⟨time, htime, hsample⟩ := Option.bind_eq_some_iff.mp h
  split at hsample
  · rename_i hall
    obtain rfl := Option.some.inj hsample
    refine ⟨htime, fun i => ?_⟩
    obtain ⟨n, hn⟩ := Option.isSome_iff_exists.mp (hall i)
    dsimp only
    rw [hn, Option.getD_some]
  · cases hsample

/-- **The samples of an identifier, by the names of the columns**: each stands in a row whose
identifier it is, with the time and the counters in the columns of their names. -/
theorem mem_rowsOf_named [Fintype ι] {columns : List Text} {identifier : String}
    {name : ι → String} {column : ι → Nat} (hnamed : ColumnsNamed columns identifier name column)
    {key : Text} {rows : List (List Text)} {sample : Sample ι} (h : sample ∈ rowsOf column key rows) :
    ∃ row ∈ rows, Aggregate.cell columns row identifier.toList = some key
      ∧ digits (Aggregate.cell columns row "monotonic_ns".toList) = some sample.time
      ∧ ∀ i, digits (Aggregate.cell columns row (name i).toList) = some (sample.counters i) := by
  obtain ⟨hnodup, htime, hidentifier, hcolumn⟩ := hnamed
  obtain ⟨row, hrow, hread⟩ := List.mem_filterMap.mp h
  split at hread
  · rename_i hkey
    obtain ⟨htimeRead, hcounters⟩ := readSample_eq_some hread
    refine ⟨row, hrow, (cell_of_getElem? hnodup hidentifier).trans hkey, ?_, fun i => ?_⟩
    · rwa [cell_of_getElem? hnodup htime]
    · rw [cell_of_getElem? hnodup (hcolumn i)]
      exact hcounters i
  · cases hread

theorem lookup_appendSample (key : Text) (sample : Sample ι) (k : Text) :
    ∀ l : List (Text × List (Sample ι)), (appendSample key sample l).lookup k
      = if k = key then some ((l.lookup key).getD [] ++ [sample]) else l.lookup k
  | [] => by
    by_cases hk : k = key
    · simp [appendSample, hk]
    · simp [appendSample, hk]
  | (k', samples) :: rest => by
    have ih := lookup_appendSample key sample k rest
    unfold appendSample
    by_cases hk' : k' = key
    · subst hk'
      rw [if_pos rfl, List.lookup_cons, List.lookup_cons, List.lookup_cons]
      by_cases hk : k = k'
      · simp [hk]
      · rw [beq_false_of_ne hk, if_neg hk]
    · rw [if_neg hk', List.lookup_cons, ih, List.lookup_cons, List.lookup_cons,
        beq_false_of_ne (Ne.symm hk')]
      by_cases hkk : k = k'
      · subst hkk
        simp [hk']
      · rw [beq_false_of_ne hkk]

theorem keys_appendSample (key : Text) (sample : Sample ι) :
    ∀ l : List (Text × List (Sample ι)), (appendSample key sample l).map Prod.fst
      = if key ∈ l.map Prod.fst then l.map Prod.fst else l.map Prod.fst ++ [key]
  | [] => rfl
  | (k', samples) :: rest => by
    have ih := keys_appendSample key sample rest
    unfold appendSample
    by_cases hk' : k' = key
    · simp [hk']
    · rw [if_neg hk', List.map_cons, ih, List.map_cons]
      by_cases hmem : key ∈ rest.map Prod.fst
      · rw [if_pos hmem, if_pos (List.mem_cons_of_mem _ hmem)]
      · rw [if_neg hmem, if_neg (by simpa [Ne.symm hk'] using hmem), List.cons_append]

/-- The table of the rows so far: every identifier once, its samples in file order and in the
order `R`. -/
structure Grouped [Fintype ι] (column : ι → Nat) (R : Sample ι → Sample ι → Prop)
    (rows : List (List Text)) (t : SampleTable ι) : Prop where
  nodup : (t.byKey.map Prod.fst).Nodup
  samples : ∀ key, (t.byKey.lookup key).getD [] = rowsOf column key rows
  ordered : ∀ key, (rowsOf column key rows).Pairwise R

theorem grouped_empty [Fintype ι] (column : ι → Nat) (R : Sample ι → Sample ι → Prop) :
    Grouped column R [] (.empty ι) :=
  ⟨List.nodup_nil, fun _ => rfl, fun _ => List.Pairwise.nil⟩

/-- A sample that may follow the last one of its identifier. -/
theorem Grouped.add [Fintype ι] {column : ι → Nat} {R : Sample ι → Sample ι → Prop}
    (htrans : ∀ a b c, R a b → R b c → R a c) {rows : List (List Text)} {t : SampleTable ι}
    (h : Grouped column R rows t) {row : List Text} {key : Text} {sample : Sample ι}
    (hkey : row[1]? = some key) (hsample : readSample column row = some sample)
    (hlast : ∀ last, t.last key = some last → R last sample) :
    Grouped column R (rows ++ [row]) (t.add key sample) := by
  have hrows : ∀ k, rowsOf column k (rows ++ [row])
      = rowsOf column k rows ++ if k = key then [sample] else [] := by
    intro k
    rw [rowsOf, rowsOf, List.filterMap_append]
    congr 1
    by_cases hk : k = key
    · rw [if_pos hk]
      simp [hkey, hsample, hk]
    · rw [if_neg hk]
      simp [hkey, Ne.symm hk]
  refine ⟨?_, fun k => ?_, fun k => ?_⟩
  · show ((appendSample key sample t.byKey).map Prod.fst).Nodup
    rw [keys_appendSample]
    split
    · exact h.nodup
    · rename_i hnew
      exact List.nodup_append.mpr ⟨h.nodup, List.nodup_singleton key, fun a ha b hb heq =>
        hnew (List.mem_singleton.mp hb ▸ heq ▸ ha)⟩
  · show ((appendSample key sample t.byKey).lookup k).getD [] = _
    rw [lookup_appendSample, hrows]
    by_cases hk : k = key
    · rw [if_pos hk, if_pos hk, Option.getD_some, h.samples, hk]
    · rw [if_neg hk, if_neg hk, List.append_nil, h.samples]
  · rw [hrows]
    by_cases hk : k = key
    · rw [if_pos hk, hk]
      refine List.pairwise_append.mpr ⟨h.ordered key, List.pairwise_singleton _ _, ?_⟩
      intro a ha b hb
      rw [List.mem_singleton.mp hb]
      have hlist := h.samples key
      obtain ⟨before, last, hsplit⟩ : ∃ before last, rowsOf column key rows = before ++ [last] :=
        ⟨_, _, (List.dropLast_append_getLast (List.ne_nil_of_mem ha)).symm⟩
      have hl : R last sample := by
        refine hlast last ?_
        rw [SampleTable.last]
        cases hlook : t.byKey.lookup key with
        | none =>
          rw [hlook, hsplit] at hlist
          exact absurd hlist.symm (by simp)
        | some samples =>
          rw [hlook, Option.getD_some, hsplit] at hlist
          rw [hlist, Option.bind_some, List.getLast?_concat]
      rw [hsplit] at ha
      rcases List.mem_append.mp ha with ha | ha
      · have hord := h.ordered key
        rw [hsplit] at hord
        exact htrans a last sample ((List.pairwise_append.mp hord).2.2 a ha last (by simp)) hl
      · rwa [List.mem_singleton.mp ha]
    · rw [if_neg hk, List.append_nil]
      exact h.ordered k

/-- Later in time. -/
def Sample.Before (a b : Sample ι) : Prop := a.time < b.time

/-- Later in time, and no counter went back. -/
def Sample.Grows (a b : Sample ι) : Prop := a.time < b.time ∧ ∀ i, a.counters i ≤ b.counters i

theorem addCpuRow_grouped {rows : List (List Text)} {row : List Text}
    {t t' : SampleTable CpuCounter} (h : Grouped CpuCounter.column Sample.Before rows t)
    (hrow : addCpuRow t row = .ok t') :
    Grouped CpuCounter.column Sample.Before (rows ++ [row]) t' := by
  unfold addCpuRow at hrow
  cases hkey : row[1]? with
  | none => rw [hkey] at hrow; cases hrow
  | some cpu =>
    rw [hkey] at hrow
    dsimp only at hrow
    split at hrow
    · cases hrow
    · cases hsample : readSample CpuCounter.column row with
      | none => rw [hsample] at hrow; cases hrow
      | some sample =>
        rw [hsample] at hrow
        dsimp only at hrow
        split at hrow
        · cases hrow
        · rename_i htime
          cases hrow
          refine h.add (fun a b c (hab : a.Before b) hbc => Nat.lt_trans hab hbc) hkey hsample
            fun last hlast => ?_
          rw [hlast] at htime
          exact Nat.lt_of_not_le (by simpa using htime)

theorem addNetworkRow_grouped {rows : List (List Text)} {row : List Text}
    {t t' : SampleTable NetworkCounter} (h : Grouped NetworkCounter.column Sample.Grows rows t)
    (hrow : addNetworkRow t row = .ok t') :
    Grouped NetworkCounter.column Sample.Grows (rows ++ [row]) t' := by
  unfold addNetworkRow at hrow
  cases hkey : row[1]? with
  | none => rw [hkey] at hrow; cases hrow
  | some interface =>
    rw [hkey] at hrow
    dsimp only at hrow
    split at hrow
    · cases hrow
    · split at hrow
      · cases hrow
      · cases hsample : readSample NetworkCounter.column row with
        | none => rw [hsample] at hrow; cases hrow
        | some sample =>
          rw [hsample] at hrow
          dsimp only at hrow
          split at hrow
          · cases hrow
          · split at hrow
            · cases hrow
            · rename_i htime
              split at hrow
              · cases hrow
              · rename_i hcounters
                cases hrow
                refine h.add (fun a b c hab hbc => ⟨hab.1.trans hbc.1, fun i =>
                  (hab.2 i).trans (hbc.2 i)⟩) hkey hsample fun last hlast => ?_
                rw [hlast] at htime hcounters
                exact ⟨Nat.lt_of_not_le (by simpa using htime), by simpa using hcounters⟩

/-- The records of a file. -/
def fileRows (text : Text) : List (List Text) :=
  ((readTable (splitLines text)).map Table.rows).getD []

theorem checkSnapshots_ok {t t' : SampleTable ι} (h : checkSnapshots t = .ok t') : t' = t := by
  unfold checkSnapshots at h
  split at h
  · cases h
  · split at h
    · cases h
    · exact (Except.ok.inj h).symm

theorem loadCpuSamples_grouped {text : Text} {t : SampleTable CpuCounter}
    (h : loadCpuSamples text = .ok t) :
    Grouped CpuCounter.column Sample.Before (fileRows text) t := by
  unfold loadCpuSamples at h
  unfold fileRows
  cases hfile : readTable (splitLines text) with
  | none => rw [hfile] at h; cases h
  | some file =>
    rw [hfile] at h
    dsimp only at h
    split at h
    · cases h
    · obtain ⟨t₁, hload, h⟩ := bind_eq_ok.mp h
      split at h
      · cases h
      · rw [checkSnapshots_ok h]
        exact foldlM_ok (fun _ _ _ _ => addCpuRow_grouped) (grouped_empty _ _) hload

theorem loadNetworkSamples_grouped {text : Text} {t : SampleTable NetworkCounter}
    (h : loadNetworkSamples text = .ok t) :
    Grouped NetworkCounter.column Sample.Grows (fileRows text) t := by
  unfold loadNetworkSamples at h
  unfold fileRows
  cases hfile : readTable (splitLines text) with
  | none => rw [hfile] at h; cases h
  | some file =>
    rw [hfile] at h
    dsimp only at h
    split at h
    · cases h
    · obtain ⟨t₁, hload, h⟩ := bind_eq_ok.mp h
      split at h
      · cases h
      · rw [checkSnapshots_ok h]
        exact foldlM_ok (fun _ _ _ _ => addNetworkRow_grouped) (grouped_empty _ _) hload

/-- The entries of a table are the samples of the file. -/
theorem Grouped.mem_iff [Fintype ι] {column : ι → Nat} {R : Sample ι → Sample ι → Prop}
    {rows : List (List Text)} {t : SampleTable ι} (h : Grouped column R rows t) {key : Text}
    {samples : List (Sample ι)} (hmem : (key, samples) ∈ t.byKey) :
    samples = rowsOf column key rows := by
  rw [← h.samples key, lookup_of_mem h.nodup hmem, Option.getD_some]

/-- A file with samples of an identifier has an entry for it. -/
theorem Grouped.exists_mem [Fintype ι] {column : ι → Nat} {R : Sample ι → Sample ι → Prop}
    {rows : List (List Text)} {t : SampleTable ι} (h : Grouped column R rows t) {key : Text}
    (hne : rowsOf column key rows ≠ []) : (key, rowsOf column key rows) ∈ t.byKey := by
  have hsamples := h.samples key
  cases hlook : t.byKey.lookup key with
  | none =>
    rw [hlook] at hsamples
    exact absurd hsamples.symm hne
  | some samples =>
    rw [hlook, Option.getD_some] at hsamples
    rw [← hsamples]
    obtain ⟨before, after, hsplit, -⟩ := List.lookup_eq_some_iff.mp hlook
    rw [hsplit]
    simp

/-! ## The loops over the intervals

An interval between two samples contributes its overlap with the window. The loops add up these
shares. -/

/-- The time of a sample, as a rational. -/
def Sample.at (s : Sample ι) : ℚ := s.time

/-- One of its counters. -/
def Sample.count (i : ι) (s : Sample ι) : ℚ := s.counters i

theorem overlapNs_cast (startNs endNs : Int) (pair : Sample ι × Sample ι) :
    (overlapNs startNs endNs pair.1.time pair.2.time : ℚ)
      = overlap (startNs : ℚ) endNs pair.1.at pair.2.at := by
  unfold overlapNs overlap Sample.at
  push_cast
  rfl

theorem overlapNs_eq_zero_iff {startNs endNs : Int} {pair : Sample ι × Sample ι} :
    overlapNs startNs endNs pair.1.time pair.2.time = 0
      ↔ overlap (startNs : ℚ) endNs pair.1.at pair.2.at = 0 := by
  rw [← overlapNs_cast, Int.cast_eq_zero]

section Intervals

variable {startNs endNs : Int} {pair : Sample ι × Sample ι}

/-- The overlap of an interval with the window. -/
def overlapAt (startNs endNs : Int) (pair : Sample ι × Sample ι) : ℚ :=
  overlap (startNs : ℚ) endNs pair.1.at pair.2.at

/-- What an interval adds to a counter's total. -/
def share (startNs endNs : Int) (i : ι) (pair : Sample ι × Sample ι) : ℚ :=
  contribution Sample.at (Sample.count i) startNs endNs pair

theorem share_eq_zero (i : ι) (h : overlapAt startNs endNs pair = 0) :
    share startNs endNs i pair = 0 := by
  unfold overlapAt at h
  rw [share, contribution, h, zero_div, mul_zero]

/-- Adding an interval of positive length succeeds. -/
theorem accumulated_add (acc : Accumulated ι) (h : pair.1.time < pair.2.time) :
    ∃ acc', acc.add (overlapNs startNs endNs pair.1.time pair.2.time) (elapsed pair) (delta pair)
        = .ok acc'
      ∧ (∀ i, acc'.totals i = acc.totals i + share startNs endNs i pair)
      ∧ (acc'.coveredNs : ℚ) = acc.coveredNs + overlapAt startNs endNs pair := by
  have hne : ((elapsed pair : Int) : ℚ) ≠ 0 := by
    have hpos : elapsed pair ≠ 0 := by
      unfold elapsed
      omega
    exact_mod_cast hpos
  refine ⟨_, by rw [Accumulated.add, divide, if_neg hne]; rfl, fun i => ?_, ?_⟩
  · dsimp only
    rw [overlapNs_cast, share, contribution, delta, elapsed, Sample.count, Sample.count, Sample.at,
      Sample.at]
    push_cast
    rfl
  · dsimp only
    rw [overlapAt, ← overlapNs_cast]
    push_cast
    rfl

end Intervals

/-- **The loop of the network summary** is a sum over the intervals. -/
theorem networkIntervals_eq (startNs endNs : Int)
    {l : List (Sample NetworkCounter × Sample NetworkCounter)}
    (h : ∀ pair ∈ l, pair.1.time < pair.2.time) (acc : Accumulated NetworkCounter) :
    ∃ acc', l.foldlM (addNetworkInterval startNs endNs) acc = .ok acc'
      ∧ (∀ i, acc'.totals i = acc.totals i + (l.map (share startNs endNs i)).sum)
      ∧ (acc'.coveredNs : ℚ) = acc.coveredNs + (l.map (overlapAt startNs endNs)).sum := by
  induction l generalizing acc with
  | nil => exact ⟨acc, rfl, by simp, by simp⟩
  | cons pair l ih =>
    have hstep : ∃ acc₁, addNetworkInterval startNs endNs acc pair = .ok acc₁
        ∧ (∀ i, acc₁.totals i = acc.totals i + share startNs endNs i pair)
        ∧ (acc₁.coveredNs : ℚ) = acc.coveredNs + overlapAt startNs endNs pair := by
      unfold addNetworkInterval
      dsimp only
      by_cases hzero : overlapNs startNs endNs pair.1.time pair.2.time = 0
      · have hov : overlapAt startNs endNs pair = 0 := overlapNs_eq_zero_iff.mp hzero
        refine ⟨acc, if_pos hzero, fun i => ?_, ?_⟩
        · rw [share_eq_zero i hov, add_zero]
        · rw [hov, add_zero]
      · rw [if_neg hzero]
        exact accumulated_add acc (h pair List.mem_cons_self)
    obtain ⟨acc₁, hadd, htotals₁, hcovered₁⟩ := hstep
    obtain ⟨acc', hrest, htotals, hcovered⟩ :=
      ih (fun pair hpair => h pair (List.mem_cons_of_mem _ hpair)) acc₁
    refine ⟨acc', ?_, fun i => ?_, ?_⟩
    · rw [List.foldlM_cons, bind_ok hadd, hrest]
    · rw [htotals, htotals₁, List.map_cons, List.sum_cons, add_assoc]
    · rw [hcovered, hcovered₁, List.map_cons, List.sum_cons, add_assoc]

/-- The interval has a positive number of ticks. -/
def ticks (pair : Sample CpuCounter × Sample CpuCounter) : Bool := 0 < ∑ i, delta pair i

/-- What the loop of the CPU summary has computed when it succeeds: the sums over the intervals
with ticks, and no counter went back where the window is touched. -/
structure CpuSums (startNs endNs : Int) (l : List (Sample CpuCounter × Sample CpuCounter))
    (acc acc' : Accumulated CpuCounter) : Prop where
  nonneg : ∀ pair ∈ l, overlapAt startNs endNs pair ≠ 0 → ∀ i, 0 ≤ delta pair i
  totals : ∀ i, acc'.totals i = acc.totals i + ((l.filter ticks).map (share startNs endNs i)).sum
  covered : (acc'.coveredNs : ℚ)
    = acc.coveredNs + ((l.filter ticks).map (overlapAt startNs endNs)).sum

/-- One interval: an error other than a division by zero, or its part of the sums. -/
theorem addCpuInterval_cases (startNs endNs : Int) (acc : Accumulated CpuCounter)
    {pair : Sample CpuCounter × Sample CpuCounter} (h : pair.1.time < pair.2.time) :
    addCpuInterval startNs endNs acc pair = .error .counterDecreased
      ∨ ∃ acc', addCpuInterval startNs endNs acc pair = .ok acc'
        ∧ CpuSums startNs endNs [pair] acc acc' := by
  unfold addCpuInterval
  dsimp only
  by_cases hzero : overlapNs startNs endNs pair.1.time pair.2.time = 0
  · have hov : overlapAt startNs endNs pair = 0 := overlapNs_eq_zero_iff.mp hzero
    refine Or.inr ⟨acc, if_pos hzero, ?_, fun i => ?_, ?_⟩
    · intro p hp hne
      exact absurd (List.mem_singleton.mp hp ▸ hov) hne
    · cases ht : ticks pair <;> simp [ht, share_eq_zero i hov]
    · cases ht : ticks pair <;> simp [ht, hov]
  · rw [if_neg hzero]
    by_cases hneg : ∃ i, delta pair i < 0
    · exact Or.inl (if_pos hneg)
    · rw [if_neg hneg]
      have hnonneg : ∀ p ∈ [pair], overlapAt startNs endNs p ≠ 0 → ∀ i, 0 ≤ delta p i := by
        intro p hp _ i
        rw [List.mem_singleton.mp hp]
        exact not_lt.mp fun hi => hneg ⟨i, hi⟩
      by_cases hticks : ∑ i, delta pair i ≤ 0
      · have ht : ticks pair = false := by simpa [ticks] using hticks
        exact Or.inr ⟨acc, if_pos hticks, hnonneg, by simp [ht], by simp [ht]⟩
      · have ht : ticks pair = true := by simpa [ticks] using hticks
        obtain ⟨acc', hadd, htotals, hcovered⟩ := accumulated_add acc h
        exact Or.inr ⟨acc', by rw [if_neg hticks, hadd], hnonneg, by simpa [ht] using htotals,
          by simpa [ht] using hcovered⟩

/-- **The loop of the CPU summary.** -/
theorem cpuIntervals_cases (startNs endNs : Int)
    {l : List (Sample CpuCounter × Sample CpuCounter)}
    (h : ∀ pair ∈ l, pair.1.time < pair.2.time) (acc : Accumulated CpuCounter) :
    l.foldlM (addCpuInterval startNs endNs) acc = .error .counterDecreased
      ∨ ∃ acc', l.foldlM (addCpuInterval startNs endNs) acc = .ok acc'
        ∧ CpuSums startNs endNs l acc acc' := by
  induction l generalizing acc with
  | nil => exact Or.inr ⟨acc, rfl, by simp, by simp, by simp⟩
  | cons pair l ih =>
    rw [List.foldlM_cons]
    rcases addCpuInterval_cases startNs endNs acc (h pair List.mem_cons_self) with
      herr | ⟨acc₁, hadd, hfirst⟩
    · rw [herr]
      exact Or.inl rfl
    · rw [bind_ok hadd]
      rcases ih (fun pair hpair => h pair (List.mem_cons_of_mem _ hpair)) acc₁ with
        herr | ⟨acc', hrest, hsums⟩
      · exact Or.inl herr
      · have hfilter : (pair :: l).filter ticks = [pair].filter ticks ++ l.filter ticks := by
          rw [← List.filter_append, List.singleton_append]
        refine Or.inr ⟨acc', hrest, ?_, fun i => ?_, ?_⟩
        · intro p hp
          rcases List.mem_cons.mp hp with rfl | hp
          · exact hfirst.nonneg p (List.mem_singleton_self p)
          · exact hsums.nonneg p hp
        · rw [hsums.totals, hfirst.totals, hfilter, List.map_append, List.sum_append, add_assoc]
        · rw [hsums.covered, hfirst.covered, hfilter, List.map_append, List.sum_append, add_assoc]

/-! ## One identifier

Coverage and totals of one interface or CPU. -/

theorem coverageOf_eq {startNs endNs : Int} (h : startNs < endNs) (coveredNs : Int) :
    coverageOf startNs endNs coveredNs = .ok ⟨coveredNs, coveredNs / (endNs - startNs : Int)⟩ := by
  have hne : ((endNs - startNs : Int) : ℚ) ≠ 0 := by
    have hpos : endNs - startNs ≠ 0 := by omega
    exact_mod_cast hpos
  rw [coverageOf, divide, if_neg hne]
  rfl

theorem at_lt {samples : List (Sample ι)} (h : samples.Pairwise Sample.Before) :
    samples.Pairwise fun a b => a.at < b.at :=
  h.imp fun hab => Nat.cast_lt.mpr hab

theorem span_eq_iff {startNs endNs coveredNs : Int} :
    coveredNs = endNs - startNs ↔ (coveredNs : ℚ) = (endNs : ℚ) - startNs := by
  rw [← Int.cast_sub, Int.cast_inj]

/-- **One interface.** It is reported when its samples bracket the window; its totals are the gains
of its counters. -/
theorem summarizeNetwork_spec {startNs endNs : Int} (h : startNs < endNs)
    {samples : List (Sample NetworkCounter)} (hord : samples.Pairwise Sample.Before) :
    ∃ coverage value, summarizeNetwork startNs endNs samples = .ok (coverage, value)
      ∧ (value.isSome ↔ Brackets Sample.at (startNs : ℚ) endNs samples)
      ∧ ∀ v, value = some v → ∀ i,
        v.totals i = gain Sample.at (Sample.count i) (startNs : ℚ) endNs samples := by
  obtain ⟨acc, hacc, htotals, hcovered⟩ := networkIntervals_eq startNs endNs
    (rel_of_mem_pairs hord) (.zero NetworkCounter)
  have hspan : acc.coveredNs = endNs - startNs
      ↔ Brackets Sample.at (startNs : ℚ) endNs samples := by
    rw [span_eq_iff, hcovered]
    show ((0 : Int) : ℚ) + covered Sample.at (startNs : ℚ) endNs samples = _ ↔ _
    rw [Int.cast_zero, zero_add]
    exact sum_overlap_eq_iff (Int.cast_lt.mpr h) (at_lt hord)
  have hrates : ∃ values, networkValues startNs endNs acc.totals = .ok values
      ∧ values.totals = acc.totals := by
    have hne : ((endNs - startNs : Int) : ℚ) ≠ 0 := by
      have hpos : endNs - startNs ≠ 0 := by omega
      exact_mod_cast hpos
    unfold networkValues divide
    simp only [if_neg hne]
    exact ⟨_, rfl, rfl⟩
  obtain ⟨values, hvalues, hsame⟩ := hrates
  unfold summarizeNetwork
  rw [bind_ok hacc, bind_ok (coverageOf_eq h _)]
  by_cases hfull : acc.coveredNs = endNs - startNs
  · rw [if_pos hfull, bind_ok hvalues]
    refine ⟨_, some values, rfl, ⟨fun _ => hspan.mp hfull, fun _ => rfl⟩, ?_⟩
    intro v hv i
    rw [← Option.some.inj hv, hsame, htotals]
    show (0 : ℚ) + gain Sample.at (Sample.count i) (startNs : ℚ) endNs samples = _
    rw [zero_add]
  · rw [if_neg hfull]
    refine ⟨_, none, rfl, ?_, fun v hv => by cases hv⟩
    exact ⟨fun hsome => absurd hsome (by simp), fun hb => absurd (hspan.mpr hb) hfull⟩

/-- Percentages that are percentages. -/
structure CpuPercentages.Valid (pct : CpuPercentages) : Prop where
  share : ∀ i, 0 ≤ pct.share i ∧ pct.share i ≤ 100
  busy : 0 ≤ pct.busyPct ∧ pct.busyPct ≤ 100
  sum : ∑ i, pct.share i = 100
  busy_eq : pct.busyPct = 100 - pct.share .idle - pct.share .iowait

theorem cpuPercentages_valid {totals : CpuCounter → ℚ} (hnonneg : ∀ i, 0 ≤ totals i)
    (hpos : 0 < ∑ i, totals i) :
    ∃ pct, cpuPercentages totals = .ok pct ∧ pct.Valid := by
  unfold cpuPercentages
  dsimp only
  rw [if_neg hpos.ne']
  generalize htotal : ∑ i, totals i = total at hpos
  have hle : ∀ i, totals i ≤ total := by
    intro i
    rw [← htotal]
    exact Finset.single_le_sum (fun j _ => hnonneg j) (Finset.mem_univ i)
  have hshare : ∀ i, 0 ≤ totals i * 100 / total ∧ totals i * 100 / total ≤ 100 := by
    intro i
    refine ⟨div_nonneg (mul_nonneg (hnonneg i) (by norm_num)) hpos.le, ?_⟩
    rw [div_le_iff₀ hpos]
    linarith [hle i]
  have hidle : totals .idle + totals .iowait ≤ total := by
    rw [← htotal, ← Finset.sum_pair (show CpuCounter.idle ≠ .iowait from by decide)]
    exact Finset.sum_le_sum_of_subset_of_nonneg (Finset.subset_univ _) fun i _ _ => hnonneg i
  have hbusy : (total - totals .idle - totals .iowait) * 100 / total
      = 100 - totals .idle * 100 / total - totals .iowait * 100 / total := by
    field_simp
  refine ⟨_, rfl, ⟨hshare, ⟨?_, ?_⟩, ?_, hbusy⟩⟩
  · exact div_nonneg (by linarith) hpos.le
  · dsimp only
    rw [hbusy]
    linarith [(hshare .idle).1, (hshare .iowait).1]
  · dsimp only
    rw [← Finset.sum_div, ← Finset.sum_mul, htotal]
    field_simp

theorem share_eq_delta (startNs endNs : Int) (i : ι) (pair : Sample ι × Sample ι) :
    share startNs endNs i pair
      = delta pair i * (overlapAt startNs endNs pair / (pair.2.at - pair.1.at)) := by
  rw [share, contribution, delta, Sample.count, Sample.count]
  push_cast
  rfl

/-- A loop that covered the whole window has nonnegative totals with a positive sum: some interval
in it has a tick. -/
theorem CpuSums.positive {startNs endNs : Int} (h : startNs < endNs)
    {l : List (Sample CpuCounter × Sample CpuCounter)} (hl : ∀ pair ∈ l, pair.1.at < pair.2.at)
    {acc : Accumulated CpuCounter} (hs : CpuSums startNs endNs l (.zero CpuCounter) acc)
    (hfull : acc.coveredNs = endNs - startNs) :
    (∀ i, 0 ≤ acc.totals i) ∧ 0 < ∑ i, acc.totals i := by
  have hshare : ∀ i, ∀ x ∈ (l.filter ticks).map (share startNs endNs i), 0 ≤ x := by
    intro i x hx
    obtain ⟨pair, hpair, rfl⟩ := List.mem_map.mp hx
    have hmem := (List.mem_filter.mp hpair).1
    by_cases hov : overlapAt startNs endNs pair = 0
    · rw [share_eq_zero i hov]
    · rw [share_eq_delta]
      refine mul_nonneg (by exact_mod_cast hs.nonneg pair hmem hov i) ?_
      exact div_nonneg (overlap_nonneg _ _ _ _) (sub_nonneg.mpr (hl pair hmem).le)
  have htotals : ∀ i, acc.totals i = ((l.filter ticks).map (share startNs endNs i)).sum := by
    intro i
    rw [hs.totals]
    exact zero_add _
  have hnonneg : ∀ i, 0 ≤ acc.totals i := fun i => by
    rw [htotals]
    exact List.sum_nonneg (hshare i)
  refine ⟨hnonneg, ?_⟩
  -- an interval with ticks that overlaps the window
  obtain ⟨pair, hpair, hov⟩ : ∃ pair ∈ l.filter ticks, overlapAt startNs endNs pair ≠ 0 := by
    by_contra hnone
    push Not at hnone
    have hzero : ((l.filter ticks).map (overlapAt startNs endNs)).sum = 0 := by
      refine List.sum_eq_zero fun x hx => ?_
      obtain ⟨pair, hpair, rfl⟩ := List.mem_map.mp hx
      exact hnone pair hpair
    have hcov := hs.covered
    rw [hzero, add_zero, hfull] at hcov
    have hspan : endNs - startNs = 0 := by exact_mod_cast hcov
    omega
  obtain ⟨hmem, hticks⟩ := List.mem_filter.mp hpair
  have hsum : 0 < ∑ i, delta pair i := by simpa [ticks] using hticks
  obtain ⟨i, -, hi⟩ := Finset.exists_lt_of_sum_lt (s := Finset.univ)
    (f := fun _ => (0 : Int)) (g := delta pair) (by simpa using hsum)
  have hpos : 0 < share startNs endNs i pair := by
    rw [share_eq_delta]
    refine mul_pos (by exact_mod_cast hi) (div_pos ?_ (sub_pos.mpr (hl pair hmem)))
    exact lt_of_le_of_ne (overlap_nonneg _ _ _ _) (Ne.symm hov)
  calc (0 : ℚ) < share startNs endNs i pair := hpos
    _ ≤ acc.totals i := by
      rw [htotals]
      exact List.single_le_sum (hshare i) _ (List.mem_map_of_mem hpair)
    _ ≤ ∑ i, acc.totals i := Finset.single_le_sum (fun j _ => hnonneg j) (Finset.mem_univ i)

/-- **One CPU.** A counter went back inside the window, or the CPU is summarized: it is reported
when its samples bracket the window and every interval that overlaps it has ticks, and then with
valid percentages. -/
theorem summarizeCpu_spec {startNs endNs : Int} (h : startNs < endNs)
    {samples : List (Sample CpuCounter)} (hord : samples.Pairwise Sample.Before) :
    summarizeCpu startNs endNs samples = .error .counterDecreased
      ∨ ∃ coverage value, summarizeCpu startNs endNs samples = .ok (coverage, value)
        ∧ (value.isSome ↔ Brackets Sample.at (startNs : ℚ) endNs samples
          ∧ ∀ pair ∈ pairs samples, 0 < overlapAt startNs endNs pair → 0 < ∑ i, delta pair i)
        ∧ ∀ pct, value = some pct → pct.Valid := by
  unfold summarizeCpu
  rcases cpuIntervals_cases startNs endNs (rel_of_mem_pairs hord) (.zero CpuCounter) with
    herr | ⟨acc, hacc, hsums⟩
  · rw [herr]
    exact Or.inl rfl
  · right
    have hspan : acc.coveredNs = endNs - startNs
        ↔ Brackets Sample.at (startNs : ℚ) endNs samples
          ∧ ∀ pair ∈ pairs samples, 0 < overlapAt startNs endNs pair → 0 < ∑ i, delta pair i := by
      rw [span_eq_iff, hsums.covered]
      show ((0 : Int) : ℚ) + _ = _ ↔ _
      rw [Int.cast_zero, zero_add]
      refine (sum_overlap_filter_eq_iff (Int.cast_lt.mpr h) (at_lt hord) ticks).trans ?_
      simp only [ticks, decide_eq_true_eq]
      rfl
    rw [bind_ok hacc, bind_ok (coverageOf_eq h _)]
    by_cases hfull : acc.coveredNs = endNs - startNs
    · obtain ⟨hnonneg, hpos⟩ := hsums.positive h (rel_of_mem_pairs (at_lt hord)) hfull
      obtain ⟨pct, hpct, hvalid⟩ := cpuPercentages_valid hnonneg hpos
      rw [if_pos hfull, bind_ok hpct]
      refine ⟨_, some pct, rfl, ⟨fun _ => hspan.mp hfull, fun _ => rfl⟩, ?_⟩
      intro pct' heq
      rw [← Option.some.inj heq]
      exact hvalid
    · rw [if_neg hfull]
      refine ⟨_, none, rfl, ?_, fun pct heq => by cases heq⟩
      exact ⟨fun hsome => absurd hsome (by simp), fun hb => absurd (hspan.mpr hb) hfull⟩

/-! ## All identifiers

The result has one entry for each identifier, or an error for the whole file. -/

section All

variable {β : Type} {summarize : List (Sample ι) → Except SampleError (Coverage × Option β)}

/-- An error of the loop is that of an identifier. -/
theorem summarizeAll_error {err : SampleError} :
    ∀ {l : List (Text × List (Sample ι))} {st : SummaryState β},
      (summarizeAll summarize st l).2 = .error err → ∃ entry ∈ l, summarize entry.2 = .error err
  | [], st, h => by cases h
  | (key, samples) :: rest, st, h => by
    unfold summarizeAll at h
    cases hs : summarize samples with
    | error e =>
      rw [hs] at h
      cases h
      exact ⟨(key, samples), List.mem_cons_self, hs⟩
    | ok r =>
      obtain ⟨coverage, value⟩ := r
      rw [hs] at h
      obtain ⟨entry, hmem, herr⟩ := summarizeAll_error h
      exact ⟨entry, List.mem_cons_of_mem _ hmem, herr⟩

/-- A loop that ends well has summarized every identifier, and its result has what they
reported. -/
theorem mem_summarizeAll {key : Text} {v : β} :
    ∀ {l : List (Text × List (Sample ι))} {st : SummaryState β},
      (summarizeAll summarize st l).2 = .ok () →
      ((key, v) ∈ (summarizeAll summarize st l).1.result ↔ (key, v) ∈ st.result
        ∨ ∃ samples coverage, (key, samples) ∈ l ∧ summarize samples = .ok (coverage, some v))
  | [], st, _ => by simp [summarizeAll]
  | (k, samples) :: rest, st, h => by
    unfold summarizeAll at h ⊢
    cases hs : summarize samples with
    | error e => rw [hs] at h; cases h
    | ok r =>
      obtain ⟨coverage, value⟩ := r
      rw [hs] at h
      dsimp only at h ⊢
      rw [mem_summarizeAll h, List.mem_append, or_assoc]
      refine or_congr_right ?_
      constructor
      · rintro (hv | ⟨samples', coverage', hmem, hs'⟩)
        · rw [Option.mem_toList, Option.map_eq_some_iff] at hv
          obtain ⟨v', rfl, heq⟩ := hv
          cases heq
          exact ⟨samples, coverage, List.mem_cons_self, hs⟩
        · exact ⟨samples', coverage', List.mem_cons_of_mem _ hmem, hs'⟩
      · rintro ⟨samples', coverage', hmem, hs'⟩
        rcases List.mem_cons.mp hmem with heq | hmem
        · cases heq
          rw [hs] at hs'
          cases hs'
          exact Or.inl (by simp)
        · exact Or.inr ⟨samples', coverage', hmem, hs'⟩

/-- A loop whose identifiers all can be summarized ends well. -/
theorem summarizeAll_ok {l : List (Text × List (Sample ι))} (st : SummaryState β)
    (h : ∀ entry ∈ l, ∃ r, summarize entry.2 = .ok r) : (summarizeAll summarize st l).2 = .ok () := by
  cases hall : (summarizeAll summarize st l).2 with
  | ok _ => rfl
  | error err =>
    obtain ⟨entry, hmem, herr⟩ := summarizeAll_error hall
    obtain ⟨r, hr⟩ := h entry hmem
    rw [hr] at herr
    cases herr

/-- The identifiers of a loop that ends well all could be summarized. -/
theorem summarizeAll_all_ok :
    ∀ {l : List (Text × List (Sample ι))} {st : SummaryState β},
      (summarizeAll summarize st l).2 = .ok () → ∀ entry ∈ l, ∃ r, summarize entry.2 = .ok r
  | [], st, _ => by simp
  | (key, samples) :: rest, st, h => by
    unfold summarizeAll at h
    cases hs : summarize samples with
    | error e => rw [hs] at h; cases h
    | ok r =>
      rw [hs] at h
      intro entry hmem
      rcases List.mem_cons.mp hmem with rfl | hmem
      · exact ⟨r, hs⟩
      · exact summarizeAll_all_ok h entry hmem

/-- The intervals do not depend on the window. -/
theorem summarizeAll_intervals :
    ∀ {l : List (Text × List (Sample ι))} {st : SummaryState β},
      (summarizeAll summarize st l).2 = .ok () →
      (summarizeAll summarize st l).1.intervals
        = st.intervals ++ l.flatMap fun entry => (pairs entry.2).map elapsed
  | [], st, _ => by simp [summarizeAll]
  | (key, samples) :: rest, st, h => by
    unfold summarizeAll at h ⊢
    cases hs : summarize samples with
    | error e => rw [hs] at h; cases h
    | ok r =>
      rw [hs] at h
      dsimp only at h ⊢
      rw [summarizeAll_intervals h, List.flatMap_cons, List.append_assoc]

theorem exists_of_mem_keys {β : Type} {key : Text} {result : List (Text × β)}
    (h : key ∈ result.map Prod.fst) : ∃ v, (key, v) ∈ result := by
  obtain ⟨⟨k, v⟩, hmem, rfl⟩ := List.mem_map.mp h
  exact ⟨v, hmem⟩

/-- **What a loop over a grouped table reports**, from what is known of one identifier. -/
theorem Grouped.result [Fintype ι] {column : ι → Nat} {R : Sample ι → Sample ι → Prop}
    {rows : List (List Text)} {t : SampleTable ι} (h : Grouped column R rows t)
    {Reported : Text → Prop} {Valid : Text → β → Prop}
    (hspec : ∀ key coverage value,
      summarize (rowsOf column key rows) = .ok (coverage, value) →
      (value.isSome ↔ Reported key) ∧ ∀ v, value = some v → Valid key v)
    (hne : ∀ key, Reported key → rowsOf column key rows ≠ [])
    (hall : (summarizeAll summarize {} t.byKey).2 = .ok ()) (key : Text) :
    (key ∈ (summarizeAll summarize {} t.byKey).1.result.map Prod.fst ↔ Reported key)
    ∧ ∀ v, (key, v) ∈ (summarizeAll summarize {} t.byKey).1.result → Valid key v := by
  have hmem : ∀ v, (key, v) ∈ (summarizeAll summarize {} t.byKey).1.result →
      Reported key ∧ Valid key v := by
    intro v hv
    rcases (mem_summarizeAll hall).mp hv with hv | ⟨samples, coverage, hmem, hs⟩
    · cases hv
    · rw [h.mem_iff hmem] at hs
      obtain ⟨hsome, hvalid⟩ := hspec key coverage (some v) hs
      exact ⟨hsome.mp rfl, hvalid v rfl⟩
  refine ⟨⟨fun hkey => ?_, fun hreported => ?_⟩, fun v hv => (hmem v hv).2⟩
  · obtain ⟨v, hv⟩ := exists_of_mem_keys hkey
    exact (hmem v hv).1
  · have hentry := h.exists_mem (hne key hreported)
    obtain ⟨⟨coverage, value⟩, hok⟩ := summarizeAll_all_ok hall _ hentry
    obtain ⟨v, rfl⟩ := Option.isSome_iff_exists.mp ((hspec key coverage value hok).1.mpr hreported)
    exact List.mem_map_of_mem ((mem_summarizeAll hall).mpr (Or.inr ⟨_, _, hentry, hok⟩))

/-- The file was accepted. -/
def SampleDetail.Accepted (detail : SampleDetail) : Prop :=
  detail.status = .complete ∨ detail.status = .partialCoverage

theorem not_accepted_invalid (reason : SampleError) (window : MeasurementWindow)
    (coverage : List (Text × Coverage)) :
    ¬SampleDetail.Accepted { status := .invalidSamples reason, window, coverage } := by
  rintro (h | h)
  · cases h
  · cases h

/-- The intervals of a table. -/
def SampleTable.intervals (t : SampleTable ι) : List Int :=
  t.byKey.flatMap fun entry => (pairs entry.2).map elapsed

/-- **What a summary returns**: the exception of its loop, nothing with a reason, or what the loop
over a loaded table with an interval has reported. -/
theorem summarizeTable_cases (window : MeasurementWindow)
    (loaded : Except SampleError (SampleTable ι)) :
    (∃ t, loaded = .ok t ∧ (summarizeAll summarize {} t.byKey).2 = .error .zeroDivision
      ∧ summarizeTable summarize window loaded = .error .zeroDivision)
    ∨ (∃ detail, summarizeTable summarize window loaded = .ok ([], detail) ∧ ¬detail.Accepted
      ∧ ∀ t, loaded = .ok t → (summarizeAll summarize {} t.byKey).2 = .ok () → t.intervals = [])
    ∨ ∃ t detail, loaded = .ok t ∧ (summarizeAll summarize {} t.byKey).2 = .ok ()
      ∧ t.intervals ≠ [] ∧ detail.Accepted
      ∧ summarizeTable summarize window loaded
        = .ok ((summarizeAll summarize {} t.byKey).1.result, detail) := by
  unfold summarizeTable
  cases loaded with
  | error reason =>
    exact Or.inr (Or.inl ⟨_, rfl, not_accepted_invalid reason window [], fun t ht => by cases ht⟩)
  | ok t =>
    dsimp only
    rcases hout : summarizeAll summarize {} t.byKey with ⟨st, outcome⟩
    cases outcome with
    | error reason =>
      by_cases hzero : reason = .zeroDivision
      · exact Or.inl ⟨t, rfl, by rw [hout, hzero], by rw [hzero]⟩
      · refine Or.inr (Or.inl ⟨{ status := .invalidSamples reason, window, coverage := st.coverage },
          ?_, not_accepted_invalid reason window _, ?_⟩)
        · cases reason <;> first | rfl | exact absurd rfl hzero
        · rintro t' ⟨⟩ hok
          rw [hout] at hok
          cases hok
    | ok _ =>
      have hintervals : st.intervals = t.intervals := by
        have hall := summarizeAll_intervals (congrArg Prod.snd hout)
        rwa [hout] at hall
      dsimp only
      rw [hintervals]
      cases hlow : t.intervals.min? with
      | none =>
        refine Or.inr (Or.inl ⟨_, rfl, not_accepted_invalid _ window _, ?_⟩)
        rintro t' ⟨⟩ -
        exact List.min?_eq_none_iff.mp hlow
      | some low =>
        have hne : t.intervals ≠ [] := by
          intro hnil
          rw [hnil] at hlow
          cases hlow
        obtain ⟨high, hhigh⟩ := Option.ne_none_iff_exists'.mp (mt List.max?_eq_none_iff.mp hne)
        rw [hhigh]
        refine Or.inr (Or.inr ⟨t, _, rfl, by rw [hout], hne, ?_, by rw [hout]⟩)
        unfold SampleDetail.Accepted
        dsimp only
        split
        · exact Or.inl rfl
        · exact Or.inr rfl

/-- An accepted file has been loaded and summarized to its end, and has an interval. -/
theorem summarizeTable_accepted {window : MeasurementWindow}
    {loaded : Except SampleError (SampleTable ι)} {result : List (Text × β)}
    {detail : SampleDetail} (hrun : summarizeTable summarize window loaded = .ok (result, detail))
    (haccepted : detail.Accepted) :
    ∃ t, loaded = .ok t ∧ (summarizeAll summarize {} t.byKey).2 = .ok ()
      ∧ result = (summarizeAll summarize {} t.byKey).1.result ∧ t.intervals ≠ [] := by
  rcases summarizeTable_cases window loaded with
    ⟨-, -, -, herr⟩ | ⟨_, hempty, hnot, -⟩ | ⟨t, _, hload, hall, hne, -, hok⟩
  · rw [hrun] at herr
    cases herr
  · rw [hrun] at hempty
    cases hempty
    exact absurd haccepted hnot
  · rw [hrun] at hok
    cases hok
    exact ⟨t, hload, hall, rfl, hne⟩

end All

/-! ## The window

Only times above zero are observed, by either source, so the window begins above zero: the test of
the network summary for a window that is none never fails for a window of the receiver. -/

/-- What the loops keep. -/
def Bounds.Positive (b : Bounds) : Prop := ∀ t, b.first = some t → 0 < t

theorem Bounds.Positive.lower {b : Bounds} {t : Int} (hb : b.Positive) (ht : 0 < t) :
    (b.lower t).Positive := by
  intro u hu
  have hlower : b.first.elim t (min · t) = u := Option.some.inj hu
  cases hfirst : b.first with
  | none =>
    rw [hfirst] at hlower
    exact hlower ▸ ht
  | some first =>
    rw [hfirst] at hlower
    exact hlower ▸ lt_min (hb first hfirst) ht

theorem Bounds.Positive.raise {b : Bounds} {t : Int} (hb : b.Positive) : (b.raise t).Positive := hb

theorem Bounds.Positive.addRow {names row : List Text} {b b' : Bounds} (hb : b.Positive)
    (h : b.addRow names row = .ok b') : b'.Positive := by
  unfold Bounds.addRow at h
  obtain ⟨ingress, -, h⟩ := bind_eq_ok.mp h
  obtain ⟨user, -, h⟩ := bind_eq_ok.mp h
  obtain ⟨cpumap, -, h⟩ := bind_eq_ok.mp h
  have hingress : (if ingress > 0 then (b.lower ingress).raise ingress else b).Positive := by
    split
    · rename_i hpos
      exact (hb.lower hpos).raise
    · exact hb
  generalize (if ingress > 0 then (b.lower ingress).raise ingress else b) = b₁ at h hingress
  have hcpumap : (if cpumap > 0 then b₁.raise cpumap else b₁).Positive := by
    split <;> exact hingress
  cases h
  split
  · exact hcpumap.raise
  · exact hcpumap

theorem Bounds.Positive.addCapture {content : List UInt8} {b b' : Bounds} (hb : b.Positive)
    (h : b.addCapture content = .ok b') : b'.Positive := by
  unfold Bounds.addCapture at h
  split at h
  · cases h
  · cases h
    refine List.foldlRecOn _ _ hb fun b hb entry _ => ?_
    unfold Bounds.addRecord
    dsimp only
    split
    · rename_i hpos
      exact (hb.lower hpos).raise
    · exact hb

theorem Bounds.Positive.window {b : Bounds} (hb : b.Positive) {startNs endNs : Int}
    {h : startNs < endNs} (hwindow : b.window = .available startNs endNs h) : 0 < startNs := by
  unfold Bounds.window at hwindow
  split at hwindow
  · rename_i first last hfirst hlast
    split at hwindow
    · cases hwindow
      exact hb _ hfirst
    · cases hwindow
  · cases hwindow

/-- **The window of the receiver begins above zero.** -/
theorem receiverMeasurementWindow_pos {source : WindowSource} {startNs endNs : Int}
    {h : startNs < endNs}
    (hwindow : receiverMeasurementWindow source = .ok (.available startNs endNs h)) :
    0 < startNs := by
  have hempty : Bounds.Positive {} := nofun
  cases source with
  | run joined =>
    unfold receiverMeasurementWindow at hwindow
    dsimp only at hwindow
    split at hwindow
    · cases hwindow
    · obtain ⟨b, hb, hresult⟩ := bind_eq_ok.mp hwindow
      have hpositive : b.Positive :=
        foldlM_ok (P := fun _ b => b.Positive) (fun _ _ _ _ => Bounds.Positive.addRow) hempty hb
      exact Bounds.Positive.window hpositive (Except.ok.inj hresult)
  | captures contents =>
    obtain ⟨b, hb, hresult⟩ := bind_eq_ok.mp hwindow
    have hpositive : b.Positive :=
      foldlM_ok (P := fun _ b => b.Positive) (fun _ _ _ _ => Bounds.Positive.addCapture) hempty hb
    exact Bounds.Positive.window hpositive (Except.ok.inj hresult)

/-! ## The network summary

The totals are the differences of the interpolated counters at the ends of the window. -/

/-- The samples of an interface in a file. -/
def networkSamples (text : Text) (interface : Text) : List (Sample NetworkCounter) :=
  rowsOf NetworkCounter.column interface (fileRows text)

theorem mem_networkSamples {text interface : Text} {sample : Sample NetworkCounter}
    (h : sample ∈ networkSamples text interface) :
    ∃ row ∈ fileRows text, Aggregate.cell networkColumns row "interface".toList = some interface
      ∧ digits (Aggregate.cell networkColumns row "monotonic_ns".toList) = some sample.time
      ∧ ∀ i : NetworkCounter,
        digits (Aggregate.cell networkColumns row i.name.toList) = some (sample.counters i) :=
  mem_rowsOf_named networkColumns_named h

/-- **What is reported of a loaded table.** -/
theorem mem_networkResult {text : Text} {t : SampleTable NetworkCounter}
    (hload : loadNetworkSamples text = .ok t) {startNs endNs : Int} (h : startNs < endNs) :
    (summarizeAll (summarizeNetwork startNs endNs) {} t.byKey).2 = .ok ()
    ∧ ∀ interface, (interface
          ∈ (summarizeAll (summarizeNetwork startNs endNs) {} t.byKey).1.result.map Prod.fst
        ↔ Brackets Sample.at (startNs : ℚ) endNs (networkSamples text interface))
      ∧ ∀ v, (interface, v) ∈ (summarizeAll (summarizeNetwork startNs endNs) {} t.byKey).1.result →
        ∀ i, v.totals i
          = gain Sample.at (Sample.count i) (startNs : ℚ) endNs (networkSamples text interface) := by
  have hgrouped := loadNetworkSamples_grouped hload
  have hord : ∀ key, (rowsOf NetworkCounter.column key (fileRows text)).Pairwise Sample.Before :=
    fun key => (hgrouped.ordered key).imp And.left
  have hall : (summarizeAll (summarizeNetwork startNs endNs) {} t.byKey).2 = .ok () := by
    refine summarizeAll_ok _ fun entry hmem => ?_
    obtain ⟨key, samples⟩ := entry
    obtain ⟨coverage, value, hok, -⟩ := summarizeNetwork_spec h (hord key)
    exact ⟨_, (hgrouped.mem_iff hmem) ▸ hok⟩
  refine ⟨hall, hgrouped.result (fun key coverage value hs => ?_) (fun _ => Brackets.ne_nil) hall⟩
  obtain ⟨coverage', value', hok, hsome, htotals⟩ := summarizeNetwork_spec h (hord key)
  rw [hok] at hs
  cases hs
  exact ⟨hsome, htotals⟩

theorem gain_nonneg {startNs endNs : Int} {samples : List (Sample ι)}
    (hord : samples.Pairwise Sample.Grows) (i : ι) :
    0 ≤ gain Sample.at (Sample.count i) (startNs : ℚ) endNs samples := by
  refine List.sum_nonneg fun x hx => ?_
  obtain ⟨pair, hpair, rfl⟩ := List.mem_map.mp hx
  obtain ⟨htime, hcounters⟩ := rel_of_mem_pairs hord pair hpair
  refine mul_nonneg (sub_nonneg.mpr (Nat.cast_le.mpr (hcounters i))) ?_
  exact div_nonneg (overlap_nonneg _ _ _ _) (sub_nonneg.mpr (Nat.cast_le.mpr htime.le))

/-- A file accepted for a window is loaded. -/
theorem measurementNetworkSummary_accepted {text : Text} {startNs endNs : Int}
    {h : startNs < endNs} {result : List (Text × NetworkValues)} {detail : SampleDetail}
    (hrun : measurementNetworkSummary (some text) (.available startNs endNs h) = .ok (result, detail))
    (haccepted : detail.Accepted) :
    ∃ t, loadNetworkSamples text = .ok t ∧ 0 ≤ startNs
      ∧ result = (summarizeAll (summarizeNetwork startNs endNs) {} t.byKey).1.result
      ∧ t.intervals ≠ [] := by
  obtain ⟨t, hload, -, hresult, hne⟩ := summarizeTable_accepted hrun haccepted
  split at hload
  · cases hload
  · rename_i hwindow
    exact ⟨t, hload, by omega, hresult, hne⟩

/-- Over a window of the receiver, only the file decides how the summary ends. -/
theorem measurementNetworkSummary_of_window {source : WindowSource} {startNs endNs : Int}
    {h : startNs < endNs}
    (hwindow : receiverMeasurementWindow source = .ok (.available startNs endNs h)) (text : Text) :
    measurementNetworkSummary (some text) (.available startNs endNs h)
      = summarizeTable (summarizeNetwork startNs endNs) (.available startNs endNs h)
        (loadNetworkSamples text) := by
  have hpos := receiverMeasurementWindow_pos hwindow
  rw [measurementNetworkSummary, if_neg (by omega)]

/-- What the summary of a loaded file with an interval is. -/
theorem measurementNetworkSummary_ok {text : Text} {t : SampleTable NetworkCounter}
    (hload : loadNetworkSamples text = .ok t) (hne : t.intervals ≠ []) {startNs endNs : Int}
    (hstart : 0 ≤ startNs) (h : startNs < endNs) :
    ∃ detail, measurementNetworkSummary (some text) (.available startNs endNs h)
        = .ok ((summarizeAll (summarizeNetwork startNs endNs) {} t.byKey).1.result, detail)
      ∧ detail.Accepted := by
  have hwindow : ¬(startNs < 0 ∨ endNs < 0 ∨ endNs ≤ startNs) := by omega
  have hall := (mem_networkResult hload h).1
  rw [measurementNetworkSummary, if_neg hwindow]
  rcases summarizeTable_cases (.available startNs endNs h) (loadNetworkSamples text) with
    ⟨t', hload', herr, -⟩ | ⟨_, -, -, hnil⟩ | ⟨t', detail, hload', -, -, haccepted, hok⟩
  · rw [Except.ok.inj (hload'.symm.trans hload), hall] at herr
    cases herr
  · exact absurd (hnil t hload hall) hne
  · rw [Except.ok.inj (hload'.symm.trans hload)] at hok
    exact ⟨detail, hok, haccepted⟩

/-- Two snapshots of one interface. -/
def networkFile : Text :=
  ("monotonic_ns,interface,rx_bytes,rx_packets,rx_errors,rx_dropped,"
    ++ "tx_bytes,tx_packets,tx_errors,tx_dropped\n"
    ++ "100,eth0,10,1,0,0,20,2,0,0\n200,eth0,30,3,0,0,20,2,0,0\n").toList

/-- The samples of a CPU in a file. -/
def cpuSamples (text : Text) (cpu : Text) : List (Sample CpuCounter) :=
  rowsOf CpuCounter.column cpu (fileRows text)

theorem mem_cpuSamples {text cpu : Text} {sample : Sample CpuCounter}
    (h : sample ∈ cpuSamples text cpu) :
    ∃ row ∈ fileRows text, Aggregate.cell cpuColumns row "cpu".toList = some cpu
      ∧ digits (Aggregate.cell cpuColumns row "monotonic_ns".toList) = some sample.time
      ∧ ∀ i : CpuCounter,
        digits (Aggregate.cell cpuColumns row i.name.toList) = some (sample.counters i) :=
  mem_rowsOf_named cpuColumns_named h

/-- A table of CPU samples is summarized without a division by zero; if to its end, then with valid
percentages of the CPUs whose samples bracket the window without an idle gap. -/
theorem mem_cpuResult {text : Text} {t : SampleTable CpuCounter}
    (hload : loadCpuSamples text = .ok t) {startNs endNs : Int} (h : startNs < endNs) :
    (summarizeAll (summarizeCpu startNs endNs) {} t.byKey).2 ≠ .error .zeroDivision
    ∧ ((summarizeAll (summarizeCpu startNs endNs) {} t.byKey).2 = .ok () →
      ∀ cpu, (cpu ∈ (summarizeAll (summarizeCpu startNs endNs) {} t.byKey).1.result.map Prod.fst
          ↔ Brackets Sample.at (startNs : ℚ) endNs (cpuSamples text cpu)
            ∧ ∀ pair ∈ pairs (cpuSamples text cpu), 0 < overlapAt startNs endNs pair →
              0 < ∑ i, delta pair i)
        ∧ ∀ pct, (cpu, pct) ∈ (summarizeAll (summarizeCpu startNs endNs) {} t.byKey).1.result →
          pct.Valid) := by
  have hgrouped := loadCpuSamples_grouped hload
  have hspec := fun key => summarizeCpu_spec h (hgrouped.ordered key)
  constructor
  · intro herror
    obtain ⟨⟨key, samples⟩, hmem, hs⟩ := summarizeAll_error herror
    rw [hgrouped.mem_iff hmem] at hs
    rcases hspec key with herr | ⟨coverage, value, hok, -⟩
    · rw [herr] at hs
      cases hs
    · rw [hok] at hs
      cases hs
  · refine hgrouped.result (fun key coverage value hs => ?_) (fun _ hb => hb.1.ne_nil)
    rcases hspec key with herr | ⟨coverage', value', hok, hsome, hvalid⟩
    · rw [herr] at hs
      cases hs
    · rw [hok] at hs
      cases hs
      exact ⟨hsome, hvalid⟩

/-- Two snapshots of one CPU. -/
def cpuFile : Text :=
  ("monotonic_ns,cpu,user,nice,system,idle,iowait,irq,softirq,steal\n"
    ++ "100,all,5,0,2,10,0,0,1,0\n200,all,6,0,2,13,0,0,1,0\n").toList

end Samples

end AceXdp
