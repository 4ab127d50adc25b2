import AceXdp.Join.LoadCalibration
import Mathlib.Algebra.BigOperators.Group.List.Basic

/-!
# AceXdp — merging PHC captures

* `calibrationRow_eq_ok`: which rows are accepted and what they contribute, whatever their number;
* `mergeSelected_spec`: the scan of the sorted samples keeps every point once, or finds two that
  disagree;
* `loadCalibration_merges`: the merge is sound and does not depend on the order of the files or of
  their rows.
-/

namespace AceXdp

open Csv Decimal Disk Checked

/-! ## Rows

A row of a calibration file is a point, a row that was not selected, or an error; which of them it
is depends on the row alone. -/

/-- A cell as an integer. -/
def readCell (names row : List Text) (field : String) : Option Int :=
  ((names.zip row).lookup field.toList).bind fun text =>
    if text.all isSpace then none else readInt text

theorem calibrationValue_eq_ok {names row : List Text} {number : Nat} {field : String} {z : Int} :
    calibrationValue names row number field = .ok z ↔ readCell names row field = some z := by
  unfold calibrationValue readCell parseInteger
  cases (names.zip row).lookup field.toList with
  | none => simp [Except.mapError]
  | some text =>
    dsimp only [Option.bind_some]
    split
    case isTrue => simp [Except.mapError]
    case isFalse =>
      cases readInt text <;> simp [Except.mapError]

/-- The cells of a row hold the values. -/
structure ReadsAs (names row : List Text) (r : CalibrationRow) : Prop where
  iteration : readCell names row "iteration" = some r.iteration
  sample : readCell names row "sample" = some r.sample
  systemBeforeNs : readCell names row "system_before_ns" = some r.systemBeforeNs
  phcNs : readCell names row "phc_ns" = some r.phcNs
  systemAfterNs : readCell names row "system_after_ns" = some r.systemAfterNs
  spanNs : readCell names row "span_ns" = some r.spanNs
  offsetNs : readCell names row "offset_ns" = some r.offsetNs
  selected : readCell names row "selected" = some r.selected

theorem parseCalibrationRow_eq_ok {names row : List Text} {number : Nat} {r : CalibrationRow} :
    parseCalibrationRow names row number = .ok r ↔ ReadsAs names row r := by
  unfold parseCalibrationRow
  simp only [bind_eq_ok, calibrationValue_eq_ok]
  constructor
  · rintro ⟨iteration, hiteration, sample, hsample, before, hbefore, phc, hphc, after, hafter, span,
      hspan, offset, hoffset, selected, hselected, hr⟩
    obtain rfl := Except.ok.inj hr
    exact ⟨hiteration, hsample, hbefore, hphc, hafter, hspan, hoffset, hselected⟩
  · intro h
    exact ⟨_, h.iteration, _, h.sample, _, h.systemBeforeNs, _, h.phcNs, _, h.systemAfterNs, _,
      h.spanNs, _, h.offsetNs, _, h.selected, rfl⟩

/-- What the loop asks of the values of a row. -/
structure CalibrationRow.Valid (r : CalibrationRow) : Prop where
  iteration : 0 ≤ r.iteration ∧ r.iteration ≤ 0xffffffff
  sample : 0 ≤ r.sample ∧ r.sample ≤ 0xffffffff
  int64 : ∀ field ∈ r.int64Fields, CalibrationRow.inInt64 field.2 = true
  span : 0 ≤ r.systemBeforeNs ∧ r.systemBeforeNs ≤ r.systemAfterNs
    ∧ r.spanNs = r.systemAfterNs - r.systemBeforeNs
  offset : r.offsetNs = r.phcNs - r.midpoint
  selected : r.selected = 0 ∨ r.selected = 1

theorem CalibrationRow.check_eq_ok {r : CalibrationRow} {number : Nat} :
    r.check number = .ok () ↔ r.Valid := by
  constructor
  · intro h
    unfold check at h
    split at h <;> try cases h
    split at h <;> try cases h
    split at h <;> try cases h
    rename_i hfind
    split at h <;> try cases h
    split at h <;> try cases h
    split at h <;> try cases h
    rename_i hindex hbound hspan hoffset hselected
    exact ⟨by omega, by omega,
      fun field hfield => by simpa using List.find?_eq_none.mp hfind field hfield, by omega,
      not_not.mp hoffset, by omega⟩
  · intro h
    obtain ⟨hiteration, hsample, hint64, hspan, hoffset, hselected⟩ := h
    have hfind : r.int64Fields.find? (fun field => !inInt64 field.2) = none :=
      List.find?_eq_none.mpr fun field hfield => by simp [hint64 field hfield]
    rw [check, if_neg (by omega), if_neg (by omega), hfind]
    dsimp only
    rw [if_neg (by omega), if_neg (not_not.mpr hoffset), if_neg (by omega)]

/-- A row that is accepted, with the point it contributes. -/
def Accepts (names row : List Text) (point : Option CalibrationPoint) : Prop :=
  row.length ≤ names.length ∧ ∃ r, ReadsAs names row r ∧ r.Valid ∧ point = r.selectedPoint

theorem calibrationRow_eq_ok {names row : List Text} {number : Nat}
    {point : Option CalibrationPoint} :
    calibrationRow names row number = .ok point ↔ Accepts names row point := by
  unfold calibrationRow Accepts
  split
  case isTrue hlong =>
    constructor
    · intro h
      cases h
    · intro h
      omega
  case isFalse hshort =>
    simp only [bind_eq_ok, parseCalibrationRow_eq_ok]
    constructor
    · rintro ⟨r, hreads, ⟨⟩, hcheck, hpoint⟩
      exact ⟨by omega, r, hreads, CalibrationRow.check_eq_ok.mp hcheck,
        (Except.ok.inj hpoint).symm⟩
    · rintro ⟨-, r, hreads, hvalid, rfl⟩
      exact ⟨r, hreads, (), CalibrationRow.check_eq_ok.mpr hvalid, rfl⟩

theorem loadCalibrationRows_eq_ok {names : List Text} {number : Nat}
    {selected result : List CalibrationPoint} {rows : List (List Text)} :
    loadCalibrationRows names number selected rows = .ok result
      ↔ ∃ points, List.Forall₂ (Accepts names) rows points
          ∧ result = selected ++ points.flatMap Option.toList := by
  induction rows generalizing number selected with
  | nil =>
    simp [loadCalibrationRows, eq_comm]
  | cons row rest ih =>
    rw [loadCalibrationRows, bind_eq_ok]
    constructor
    · rintro ⟨point, hpoint, hrest⟩
      obtain ⟨points, hpoints, rfl⟩ := ih.mp hrest
      refine ⟨point :: points, .cons (calibrationRow_eq_ok.mp hpoint) hpoints, ?_⟩
      rw [List.append_assoc, List.flatMap_cons]
    · rintro ⟨points, hpoints, rfl⟩
      cases hpoints with
      | cons hpoint hrest =>
        rename_i point points
        refine ⟨point, calibrationRow_eq_ok.mpr hpoint, ih.mpr ⟨points, hrest, ?_⟩⟩
        rw [List.append_assoc, List.flatMap_cons]

/-! ## Captures

A file is read row by row. It is accepted when every row is, and then its points are those of its
selected rows. -/

/-- The table of a capture is accepted with these selected samples. -/
structure AcceptsTable (file : Table) (selected : List CalibrationPoint) : Prop where
  nonempty : selected ≠ []
  rows : ∃ names, validateCsvHeader file.fieldnames calibrationFields = .ok names
    ∧ ∃ points, List.Forall₂ (Accepts names) file.rows points
      ∧ selected = points.flatMap Option.toList

theorem mapError_eq_ok {ε ε' α : Type} {x : Except ε α} {f : ε → ε'} {a : α} :
    x.mapError f = .ok a ↔ x = .ok a := by
  cases x <;> simp [Except.mapError]

theorem loadCalibrationTable_eq_ok {path : Path} {file : Table}
    {result : CalibrationFile × List CalibrationPoint} :
    loadCalibrationTable path file = .ok result
      ↔ ∃ selected, AcceptsTable file selected
          ∧ result = (⟨path, file.rows.length, selected.length⟩, selected) := by
  unfold loadCalibrationTable
  simp only [bind_eq_ok, mapError_eq_ok, loadCalibrationRows_eq_ok, List.nil_append]
  constructor
  · rintro ⟨names, hnames, selected, ⟨points, hpoints, hselected⟩, h⟩
    split at h <;> cases h
    rename_i hne
    exact ⟨selected, ⟨hne, names, hnames, points, hpoints, hselected⟩, rfl⟩
  · rintro ⟨selected, ⟨hne, names, hnames, points, hpoints, hselected⟩, rfl⟩
    exact ⟨names, hnames, selected, ⟨points, hpoints, hselected⟩, if_neg hne⟩

/-- The table in the text of a capture. -/
def CalibrationInput.table (input : CalibrationInput) : Option Table :=
  input.text.bind fun text => readTable ((splitLines text).filter isDataLine)

theorem loadCalibrationFile_eq_ok {input : CalibrationInput}
    {result : CalibrationFile × List CalibrationPoint} :
    loadCalibrationFile input = .ok result
      ↔ ∃ file, input.table = some file ∧ loadCalibrationTable input.path file = .ok result := by
  unfold loadCalibrationFile CalibrationInput.table
  cases input.text with
  | none => simp
  | some text =>
    dsimp only [Option.bind_some]
    cases readTable ((splitLines text).filter isDataLine) <;> simp

/-- The same capture with its rows in another order. -/
structure RowsPermuted (a b : CalibrationInput) : Prop where
  path : a.path = b.path
  table : ∃ file file', a.table = some file ∧ b.table = some file'
    ∧ file.fieldnames = file'.fieldnames ∧ file.rows.Perm file'.rows

theorem AcceptsTable.perm {file file' : Table} {selected : List CalibrationPoint}
    (h : AcceptsTable file selected) (hnames : file.fieldnames = file'.fieldnames)
    (hrows : file.rows.Perm file'.rows) :
    ∃ selected', selected.Perm selected' ∧ AcceptsTable file' selected' := by
  obtain ⟨hne, names, hheader, points, hpoints, rfl⟩ := h
  obtain ⟨points', hpoints', hperm⟩ := List.perm_comp_forall₂ hrows.symm hpoints
  have hselected := hperm.symm.flatMap_right Option.toList
  refine ⟨_, hselected, ?_, names, hnames ▸ hheader, points', hpoints', rfl⟩
  intro hnil
  rw [hnil] at hselected
  exact hne hselected.eq_nil

theorem RowsPermuted.symm {a b : CalibrationInput} (h : RowsPermuted a b) : RowsPermuted b a := by
  obtain ⟨hpath, file, file', hfile, hfile', hnames, hrows⟩ := h
  exact ⟨hpath.symm, file', file, hfile', hfile, hnames.symm, hrows.symm⟩

/-- The results of two readings of the same rows. -/
def SameFile (a b : CalibrationFile × List CalibrationPoint) : Prop :=
  a.1 = b.1 ∧ a.2.Perm b.2

theorem RowsPermuted.load {a b : CalibrationInput} (h : RowsPermuted a b)
    {result : CalibrationFile × List CalibrationPoint} (ha : loadCalibrationFile a = .ok result) :
    ∃ result', loadCalibrationFile b = .ok result' ∧ SameFile result result' := by
  obtain ⟨hpath, file, file', hfile, hfile', hnames, hrows⟩ := h
  obtain ⟨table, htable, hload⟩ := loadCalibrationFile_eq_ok.mp ha
  obtain rfl : file = table := Option.some.inj (hfile.symm.trans htable)
  obtain ⟨selected, haccepts, rfl⟩ := loadCalibrationTable_eq_ok.mp hload
  obtain ⟨selected', hperm, haccepts'⟩ := haccepts.perm hnames hrows
  refine ⟨_, loadCalibrationFile_eq_ok.mpr
    ⟨file', hfile', loadCalibrationTable_eq_ok.mpr ⟨selected', haccepts', rfl⟩⟩, ?_, hperm⟩
  rw [hpath, hrows.length_eq, hperm.length_eq]

/-! ## The scan

The points of all files are merged by their system time. Two points with one time agree or conflict;
nothing else can go wrong here. -/

/-- Two samples of one time that disagree. -/
def Conflict (samples : List CalibrationPoint) : Prop :=
  ∃ p ∈ samples, ∃ q ∈ samples, p.monotonicNs = q.monotonicNs ∧ p.offsetNs ≠ q.offsetNs

theorem Conflict.mono {samples samples' : List CalibrationPoint} (h : Conflict samples)
    (hsub : samples ⊆ samples') : Conflict samples' := by
  obtain ⟨p, hp, q, hq, hne⟩ := h
  exact ⟨p, hsub hp, q, hsub hq, hne⟩

/-- Points with strictly increasing times are told apart by their times. -/
theorem nodup_times {points : List CalibrationPoint}
    (h : points.Pairwise fun p q => p.monotonicNs < q.monotonicNs) :
    (points.map CalibrationPoint.monotonicNs).Nodup :=
  List.pairwise_map.mpr (h.imp fun hlt => hlt.ne)

theorem not_conflict_of_increasing {points : List CalibrationPoint}
    (h : points.Pairwise fun p q => p.monotonicNs < q.monotonicNs) : ¬Conflict points := by
  rintro ⟨p, hp, q, hq, htime, hoffset⟩
  exact hoffset (congrArg _ (List.inj_on_of_nodup_map (nodup_times h) hp hq htime))

/-- What the scan returns: every sample's point once and in order, or two samples that disagree. -/
def ScanResult (samples : List SourcedPoint) (seen : Nat) :
    Calibrating (List SourcedPoint × Nat) → Prop
  | .ok (unique, duplicateTimes) =>
    unique.Pairwise (fun p q => p.1.monotonicNs < q.1.monotonicNs)
      ∧ (∀ p, p ∈ unique.map Prod.fst ↔ p ∈ samples.map Prod.fst)
      ∧ duplicateTimes + unique.length = seen
  | .error e =>
    (∃ t first second, e = .conflictingOffsets t first second) ∧ Conflict (samples.map Prod.fst)

theorem ScanResult.congr {samples samples' : List SourcedPoint} {seen : Nat}
    (hmem : ∀ p, p ∈ samples.map Prod.fst ↔ p ∈ samples'.map Prod.fst)
    {result : Calibrating (List SourcedPoint × Nat)} (h : ScanResult samples seen result) :
    ScanResult samples' seen result := by
  cases result with
  | ok result => exact ⟨h.1, fun p => (h.2.1 p).trans (hmem p), h.2.2⟩
  | error e => exact ⟨h.1, h.2.mono fun p hp => (hmem p).mp hp⟩

/-- Induction on the samples left. The points kept so far lie before them in time, so a new time is
later than all of them and an equal one is that of the last. -/
theorem mergeSelected_spec {rest : List SourcedPoint}
    (hrest : rest.Pairwise fun p q => p.1.monotonicNs ≤ q.1.monotonicNs) :
    ∀ (unique : List SourcedPoint) (duplicateTimes : Nat),
      unique.Pairwise (fun p q => p.1.monotonicNs < q.1.monotonicNs) →
      (∀ u ∈ unique, ∀ r ∈ rest, u.1.monotonicNs ≤ r.1.monotonicNs) →
      ScanResult (unique ++ rest) (duplicateTimes + unique.length + rest.length)
        (mergeSelected unique duplicateTimes rest) := by
  induction rest with
  | nil =>
    intro unique duplicateTimes hunique _
    exact ⟨hunique, fun p => by rw [List.append_nil], rfl⟩
  | cons sample rest ih =>
    intro unique duplicateTimes hunique hcross
    obtain ⟨hsample, hrest⟩ := List.pairwise_cons.mp hrest
    have hkeep (hlater : ∀ u ∈ unique, u.1.monotonicNs < sample.1.monotonicNs) :
        ScanResult (unique ++ sample :: rest) (duplicateTimes + unique.length + (rest.length + 1))
          (mergeSelected (unique ++ [sample]) duplicateTimes rest) := by
      have hstep := ih hrest (unique ++ [sample]) duplicateTimes
        (List.pairwise_append.mpr ⟨hunique, List.pairwise_singleton _ _,
          fun u hu v hv => List.mem_singleton.mp hv ▸ hlater u hu⟩)
        (fun u hu r hr => by
          rcases List.mem_append.mp hu with hu | hu
          · exact hcross u hu r (List.mem_cons_of_mem _ hr)
          · exact List.mem_singleton.mp hu ▸ hsample r hr)
      rw [List.append_assoc, List.singleton_append, List.length_append] at hstep
      convert hstep using 1
      simp only [List.length_cons, List.length_nil]
      omega
    rw [mergeSelected, List.length_cons]
    cases hlast : unique.getLast? with
    | none =>
      refine hkeep fun u hu => ?_
      rw [List.getLast?_eq_none_iff.mp hlast] at hu
      cases hu
    | some last =>
      obtain ⟨before, rfl⟩ := List.getLast?_eq_some_iff.mp hlast
      have hmem : last ∈ before ++ [last] := List.mem_append_right _ List.mem_cons_self
      have hle := hcross last hmem sample List.mem_cons_self
      dsimp only
      split
      case isFalse hne =>
        refine hkeep fun u hu => ?_
        rcases List.mem_append.mp hu with hu | hu
        · have := (List.pairwise_append.mp hunique).2.2 u hu last List.mem_cons_self
          omega
        · obtain rfl := List.mem_singleton.mp hu
          omega
      case isTrue htime =>
        split
        case isTrue hoffset =>
          refine ⟨⟨_, _, _, rfl⟩, sample.1, ?_, last.1, ?_, htime, hoffset⟩
          · exact List.mem_map_of_mem (List.mem_append_right _ List.mem_cons_self)
          · exact List.mem_map_of_mem (List.mem_append_left _ hmem)
        case isFalse hoffset =>
          -- the sample is the point of the last one again
          have hsame : sample.1 = last.1 := by
            have := not_not.mp hoffset
            cases hs : sample.1
            cases hl : last.1
            simp_all
          have hstep := ih hrest (before ++ [last]) (duplicateTimes + 1) hunique
            fun u hu r hr => hcross u hu r (List.mem_cons_of_mem _ hr)
          have hcount : duplicateTimes + 1 + (before ++ [last]).length + rest.length
              = duplicateTimes + (before ++ [last]).length + (rest.length + 1) := by omega
          rw [hcount] at hstep
          refine hstep.congr fun p => ?_
          simp only [List.map_append, List.map_cons, List.mem_append, List.mem_cons, hsame]
          tauto

/-! ## The merge

So the merge succeeds exactly when no two selected rows disagree, and it holds each point once, in
increasing order. -/

/-- The point of a selected row of a capture. -/
def SelectedIn (input : CalibrationInput) (p : CalibrationPoint) : Prop :=
  ∃ file names row r, input.table = some file
    ∧ validateCsvHeader file.fieldnames calibrationFields = .ok names ∧ row ∈ file.rows
    ∧ ReadsAs names row r ∧ r.selected = 1 ∧ p = ⟨r.midpoint, r.offsetNs⟩

/-- The cells of a row have one value each. -/
theorem ReadsAs.unique {names row : List Text} {r r' : CalibrationRow} (h : ReadsAs names row r)
    (h' : ReadsAs names row r') : r = r' := by
  have hiteration := Option.some.inj (h.iteration.symm.trans h'.iteration)
  have hsample := Option.some.inj (h.sample.symm.trans h'.sample)
  have hbefore := Option.some.inj (h.systemBeforeNs.symm.trans h'.systemBeforeNs)
  have hphc := Option.some.inj (h.phcNs.symm.trans h'.phcNs)
  have hafter := Option.some.inj (h.systemAfterNs.symm.trans h'.systemAfterNs)
  have hspan := Option.some.inj (h.spanNs.symm.trans h'.spanNs)
  have hoffset := Option.some.inj (h.offsetNs.symm.trans h'.offsetNs)
  have hselected := Option.some.inj (h.selected.symm.trans h'.selected)
  cases r
  cases r'
  simp_all

/-- A valid row contributes its point exactly when it is selected. -/
theorem CalibrationRow.Valid.selectedPoint_eq {r : CalibrationRow} (h : r.Valid)
    (p : CalibrationPoint) :
    r.selectedPoint = some p ↔ r.selected = 1 ∧ p = ⟨r.midpoint, r.offsetNs⟩ := by
  have hpoint : r.point = ⟨r.midpoint, r.offsetNs⟩ := by rw [point, h.offset]
  rw [selectedPoint, hpoint]
  rcases h.selected with h0 | h1
  · simp [h0]
  · simp [h1, eq_comm]

theorem mem_selected_iff {input : CalibrationInput} {file : CalibrationFile}
    {selected : List CalibrationPoint} (h : loadCalibrationFile input = .ok (file, selected))
    (p : CalibrationPoint) : p ∈ selected ↔ SelectedIn input p := by
  obtain ⟨table, htable, hload⟩ := loadCalibrationFile_eq_ok.mp h
  obtain ⟨_, haccepts, heq⟩ := loadCalibrationTable_eq_ok.mp hload
  obtain ⟨-, rfl⟩ := Prod.mk.inj heq
  obtain ⟨-, names, hnames, points, hpoints, rfl⟩ := haccepts
  rw [List.mem_flatMap]
  constructor
  · rintro ⟨point, hpoint, hp⟩
    obtain ⟨row, hrow, -, r, hreads, hvalid, rfl⟩ := exists_of_mem_right hpoints hpoint
    have hsome := (hvalid.selectedPoint_eq p).mp (Option.mem_toList.mp hp)
    exact ⟨table, names, row, r, htable, hnames, hrow, hreads, hsome.1, hsome.2⟩
  · rintro ⟨table', names', row, r, htable', hnames', hrow, hreads, hselected, hp⟩
    obtain rfl : table = table' := Option.some.inj (htable.symm.trans htable')
    obtain rfl : names = names' := Except.ok.inj (hnames.symm.trans hnames')
    obtain ⟨point, hpoint, -, r', hreads', hvalid, rfl⟩ := exists_of_mem_left hpoints hrow
    obtain rfl := hreads.unique hreads'
    exact ⟨_, hpoint, Option.mem_toList.mpr ((hvalid.selectedPoint_eq p).mpr ⟨hselected, hp⟩)⟩

/-- The files of a list are each valid. -/
def AllValid (inputs : List CalibrationInput) : Prop :=
  ∀ input ∈ inputs, ∃ result, loadCalibrationFile input = .ok result

theorem AllValid.load {inputs : List CalibrationInput} (h : AllValid inputs) :
    ∃ loaded, inputs.mapM loadCalibrationFile = .ok loaded := by
  induction inputs with
  | nil => exact ⟨[], rfl⟩
  | cons input inputs ih =>
    obtain ⟨result, hresult⟩ := h input List.mem_cons_self
    obtain ⟨loaded, hloaded⟩ := ih fun input hinput => h input (List.mem_cons_of_mem _ hinput)
    exact ⟨result :: loaded, mapM_eq_ok.mpr (.cons hresult (mapM_eq_ok.mp hloaded))⟩

/-- The samples of the captures without their paths. -/
def allSelected (loaded : List (CalibrationFile × List CalibrationPoint)) : List CalibrationPoint :=
  loaded.flatMap Prod.snd

theorem map_fst_sourcedPoints (loaded : List (CalibrationFile × List CalibrationPoint)) :
    (sourcedPoints loaded).map Prod.fst = allSelected loaded := by
  simp [sourcedPoints, allSelected, List.map_flatMap, Function.comp_def]

theorem mem_allSelected_iff {inputs : List CalibrationInput}
    {loaded : List (CalibrationFile × List CalibrationPoint)}
    (h : inputs.mapM loadCalibrationFile = .ok loaded) (p : CalibrationPoint) :
    p ∈ allSelected loaded ↔ ∃ input ∈ inputs, SelectedIn input p := by
  have hforall := mapM_eq_ok.mp h
  rw [allSelected, List.mem_flatMap]
  constructor
  · rintro ⟨file, hfile, hp⟩
    obtain ⟨input, hinput, hload⟩ := exists_of_mem_right hforall hfile
    exact ⟨input, hinput, (mem_selected_iff hload p).mp hp⟩
  · rintro ⟨input, hinput, hp⟩
    obtain ⟨file, hfile, hload⟩ := exists_of_mem_left hforall hinput
    exact ⟨file, hfile, (mem_selected_iff hload p).mpr hp⟩

/-- The scan of the samples of some captures. -/
theorem merge_spec (loaded : List (CalibrationFile × List CalibrationPoint)) :
    ScanResult (sourcedPoints loaded) (allSelected loaded).length
      (mergeSelected [] 0 (sortByTime (sourcedPoints loaded))) := by
  have hperm : (sortByTime (sourcedPoints loaded)).Perm (sourcedPoints loaded) :=
    List.mergeSort_perm _ _
  have hsorted : (sortByTime (sourcedPoints loaded)).Pairwise fun p q =>
      decide (p.1.monotonicNs ≤ q.1.monotonicNs) = true :=
    List.pairwise_mergeSort
      (fun a b c hab hbc => by
        rw [decide_eq_true_eq] at hab hbc ⊢
        omega)
      (fun a b => by simpa using le_total a.1.monotonicNs b.1.monotonicNs) _
  have hscan := mergeSelected_spec (hsorted.imp fun h => of_decide_eq_true h) []
    0 .nil fun u hu => absurd hu List.not_mem_nil
  rw [List.nil_append] at hscan
  have hlength : 0 + ([] : List SourcedPoint).length + (sortByTime (sourcedPoints loaded)).length
      = (allSelected loaded).length := by
    rw [hperm.length_eq, ← map_fst_sourcedPoints, List.length_map]
    simp
  rw [hlength] at hscan
  exact hscan.congr fun p => (hperm.map Prod.fst).mem_iff

/-- `selected_rows` counts the samples. -/
theorem selectedRows_eq {inputs : List CalibrationInput}
    {loaded : List (CalibrationFile × List CalibrationPoint)}
    (h : inputs.mapM loadCalibrationFile = .ok loaded) :
    (loaded.map fun file => file.1.selectedRows).sum = (allSelected loaded).length := by
  rw [allSelected, List.length_flatMap]
  refine congrArg List.sum (List.map_congr_left fun file hfile => ?_)
  obtain ⟨input, -, hload⟩ := exists_of_mem_right (mapM_eq_ok.mp h) hfile
  obtain ⟨table, -, htable⟩ := loadCalibrationFile_eq_ok.mp hload
  obtain ⟨selected, -, rfl⟩ := loadCalibrationTable_eq_ok.mp htable
  rfl

/-- What `load_calibration` does with files that are each valid. -/
theorem loadCalibration_of_loaded {inputs : List CalibrationInput} (hne : inputs ≠ [])
    {loaded : List (CalibrationFile × List CalibrationPoint)}
    (h : inputs.mapM loadCalibrationFile = .ok loaded) :
    (∃ c, loadCalibration inputs = .ok c
      ∧ c.points.Pairwise (fun p q => p.monotonicNs < q.monotonicNs)
      ∧ (∀ p, p ∈ c.points ↔ p ∈ allSelected loaded)
      ∧ c.rows = (loaded.map fun file => file.1.rows).sum
      ∧ c.selectedRows = (allSelected loaded).length
      ∧ c.duplicateSelectedTimes + c.points.length = (allSelected loaded).length)
    ∨ (∃ t first second, loadCalibration inputs = .error (.conflictingOffsets t first second))
      ∧ Conflict (allSelected loaded) := by
  have hspec := merge_spec loaded
  rw [loadCalibration, if_neg hne]
  cases hmerge : mergeSelected [] 0 (sortByTime (sourcedPoints loaded)) with
  | ok merged =>
    rw [hmerge] at hspec
    obtain ⟨hincreasing, hmem, hcount⟩ := hspec
    rw [map_fst_sourcedPoints] at hmem
    refine .inl ⟨_, (bind_ok h).trans (bind_ok hmerge), List.pairwise_map.mpr hincreasing, hmem, rfl,
      selectedRows_eq h, ?_⟩
    rwa [← List.length_map (f := Prod.fst)] at hcount
  | error e =>
    rw [hmerge] at hspec
    obtain ⟨⟨t, first, second, rfl⟩, hconflict⟩ := hspec
    rw [map_fst_sourcedPoints] at hconflict
    refine .inr ⟨⟨t, first, second, (bind_ok h).trans ?_⟩, hconflict⟩
    rw [hmerge]
    rfl

/-- What a loaded calibration is made of. -/
theorem loadCalibration_loaded {inputs : List CalibrationInput} {c : LoadedCalibration}
    (hc : loadCalibration inputs = .ok c) :
    ∃ loaded, inputs.mapM loadCalibrationFile = .ok loaded ∧ inputs ≠ []
      ∧ c.points.Pairwise (fun p q => p.monotonicNs < q.monotonicNs)
      ∧ (∀ p, p ∈ c.points ↔ p ∈ allSelected loaded)
      ∧ c.rows = (loaded.map fun file => file.1.rows).sum
      ∧ c.selectedRows = (allSelected loaded).length
      ∧ c.duplicateSelectedTimes + c.points.length = (allSelected loaded).length := by
  have hne : inputs ≠ [] := by
    rintro rfl
    cases hc
  have hloads := hc
  rw [loadCalibration, if_neg hne] at hloads
  obtain ⟨loaded, hloaded, -⟩ := bind_eq_ok.mp hloads
  rcases loadCalibration_of_loaded hne hloaded with hok | ⟨⟨t, first, second, herror⟩, -⟩
  · obtain ⟨c₀, hc₀, hspec⟩ := hok
    obtain rfl : c = c₀ := Except.ok.inj (hc.symm.trans hc₀)
    exact ⟨loaded, hloaded, hne, hspec⟩
  · cases hc.symm.trans herror

theorem loadCalibration_nonempty {inputs : List CalibrationInput} {c : LoadedCalibration}
    (hc : loadCalibration inputs = .ok c) : c.points ≠ [] := by
  obtain ⟨loaded, hloaded, hne, -, hmem, -⟩ := loadCalibration_loaded hc
  obtain ⟨input, hinput⟩ := List.exists_mem_of_ne_nil inputs hne
  obtain ⟨file, hfile, hload⟩ := exists_of_mem_left (mapM_eq_ok.mp hloaded) hinput
  obtain ⟨table, -, htable⟩ := loadCalibrationFile_eq_ok.mp hload
  obtain ⟨selected, haccepts, rfl⟩ := loadCalibrationTable_eq_ok.mp htable
  obtain ⟨p, hp⟩ := List.exists_mem_of_ne_nil selected haccepts.nonempty
  exact List.ne_nil_of_mem ((hmem p).mpr (List.mem_flatMap.mpr ⟨_, hfile, hp⟩))

/-- The calibration that the rows are joined with. -/
def calibrationOf {inputs : List CalibrationInput} {c : LoadedCalibration}
    (hc : loadCalibration inputs = .ok c) : Calibration where
  points := c.points
  nonempty := loadCalibration_nonempty hc
  increasing := (loadCalibration_loaded hc).elim fun _ h => h.2.2.1

/-! ## The order of the files and of their rows

The condition and the set of points do not mention an order, and an increasing list is determined by
its elements. -/

/-- The captures in another order, the rows of each in another order. -/
def Rearranged (inputs inputs' : List CalibrationInput) : Prop :=
  ∃ permuted, inputs.Perm permuted
    ∧ List.Forall₂ (fun a b => a = b ∨ RowsPermuted a b) permuted inputs'

theorem Rearranged.symm {inputs inputs' : List CalibrationInput} (h : Rearranged inputs inputs') :
    Rearranged inputs' inputs := by
  obtain ⟨permuted, hperm, hrows⟩ := h
  have hback : List.Forall₂ (fun a b => a = b ∨ RowsPermuted a b) inputs' permuted :=
    hrows.flip.imp fun _ _ hab => hab.imp Eq.symm RowsPermuted.symm
  have hcomp : Relation.Comp (List.Forall₂ fun a b => a = b ∨ RowsPermuted a b) List.Perm
      inputs' inputs := ⟨permuted, hback, hperm.symm⟩
  rw [List.forall₂_comp_perm_eq_perm_comp_forall₂] at hcomp
  exact hcomp

theorem Rearranged.ne_nil {inputs inputs' : List CalibrationInput} (h : Rearranged inputs inputs')
    (hne : inputs ≠ []) : inputs' ≠ [] := by
  obtain ⟨permuted, hperm, hrows⟩ := h
  rintro rfl
  cases hrows
  exact hne hperm.eq_nil

theorem loadCalibrationFile_of_same {a b : CalibrationInput} (h : a = b ∨ RowsPermuted a b)
    {result : CalibrationFile × List CalibrationPoint} (ha : loadCalibrationFile a = .ok result) :
    ∃ result', loadCalibrationFile b = .ok result' ∧ SameFile result result' := by
  rcases h with rfl | h
  · exact ⟨result, ha, rfl, .refl _⟩
  · exact h.load ha

/-- The rearranged captures load to the same samples, in some order. -/
theorem Rearranged.load {inputs inputs' : List CalibrationInput} (h : Rearranged inputs inputs')
    {loaded : List (CalibrationFile × List CalibrationPoint)}
    (hload : inputs.mapM loadCalibrationFile = .ok loaded) :
    ∃ loaded', inputs'.mapM loadCalibrationFile = .ok loaded'
      ∧ (allSelected loaded).Perm (allSelected loaded')
      ∧ (loaded.map fun file => file.1.rows).sum = (loaded'.map fun file => file.1.rows).sum := by
  obtain ⟨permuted, hperm, hrows⟩ := h
  obtain ⟨middle, hmiddle, hback⟩ := List.perm_comp_forall₂ hperm.symm (mapM_eq_ok.mp hload)
  have hsums : (loaded.map fun file => file.1.rows).sum = (middle.map fun file => file.1.rows).sum :=
    (hback.symm.map _).sum_eq
  have hselected : (allSelected loaded).Perm (allSelected middle) := hback.symm.flatMap_right _
  suffices ∃ loaded', List.Forall₂ (fun a b => loadCalibrationFile a = .ok b) inputs' loaded'
      ∧ (allSelected middle).Perm (allSelected loaded')
      ∧ (middle.map fun file => file.1.rows).sum = (loaded'.map fun file => file.1.rows).sum by
    obtain ⟨loaded', hloaded', hsame, hcount⟩ := this
    exact ⟨loaded', mapM_eq_ok.mpr hloaded', hselected.trans hsame, hsums.trans hcount⟩
  clear hback hsums hselected hload hperm
  induction hrows generalizing middle with
  | nil =>
    cases hmiddle
    exact ⟨[], .nil, .refl _, rfl⟩
  | cons hab _ ih =>
    cases hmiddle with
    | cons ha hrest =>
      obtain ⟨result', hresult', hfile, hsame⟩ := loadCalibrationFile_of_same hab ha
      obtain ⟨loaded', hloaded', hselected, hsum⟩ := ih _ hrest
      refine ⟨result' :: loaded', .cons hresult' hloaded', ?_, ?_⟩
      · exact hsame.append hselected
      · rw [List.map_cons, List.map_cons, List.sum_cons, List.sum_cons, hfile, hsum]

/-- A list of points with increasing times is determined by its points. -/
theorem points_eq_of_mem_iff {points points' : List CalibrationPoint}
    (h : points.Pairwise fun p q => p.monotonicNs < q.monotonicNs)
    (h' : points'.Pairwise fun p q => p.monotonicNs < q.monotonicNs)
    (hmem : ∀ p, p ∈ points ↔ p ∈ points') : points = points' := by
  have hnodup (l : List CalibrationPoint) (hl : l.Pairwise fun p q => p.monotonicNs < q.monotonicNs) :
      l.Nodup := (nodup_times hl).of_map
  refine List.Perm.eq_of_pairwise (fun p q _ _ hpq hqp => absurd hpq (by omega)) h h' ?_
  exact (List.perm_ext_iff_of_nodup (hnodup _ h) (hnodup _ h')).mpr hmem

/-- A successful merge, rearranged. -/
theorem Rearranged.loadCalibration_eq {inputs inputs' : List CalibrationInput}
    (h : Rearranged inputs inputs') {c : LoadedCalibration} (hc : loadCalibration inputs = .ok c) :
    ∃ c', loadCalibration inputs' = .ok c' ∧ c'.points = c.points ∧ c'.rows = c.rows
      ∧ c'.selectedRows = c.selectedRows
      ∧ c'.duplicateSelectedTimes = c.duplicateSelectedTimes := by
  obtain ⟨loaded, hloaded, hne, hincreasing, hmem, hcrows, hselected, hcount⟩ :=
    loadCalibration_loaded hc
  obtain ⟨loaded', hloaded', hperm, hrows⟩ := h.load hloaded
  rcases loadCalibration_of_loaded (h.ne_nil hne) hloaded' with hok' | ⟨-, hconflict⟩
  · obtain ⟨c', hc', hincreasing', hmem', hrows', hselected', hcount'⟩ := hok'
    have hpoints : c'.points = c.points :=
      points_eq_of_mem_iff hincreasing' hincreasing fun p => by
        rw [hmem', hmem, hperm.mem_iff]
    refine ⟨c', hc', hpoints, by rw [hrows', hcrows, hrows], ?_, ?_⟩
    · rw [hselected', hselected, hperm.length_eq]
    · rw [hpoints] at hcount'
      have := hperm.length_eq
      omega
  · refine absurd (hconflict.mono fun p hp => ?_) (not_conflict_of_increasing hincreasing)
    exact (hmem p).mpr (hperm.mem_iff.mpr hp)

/-- Merging captures. Files that are each valid are refused for conflicting offsets exactly when two
selected rows anywhere share a midpoint and differ in offset, and are merged otherwise. The merged
times increase strictly, the points are those of the selected rows, every selected row is a point or
a duplicate, and neither the order of the files nor that of their rows changes the outcome. -/
theorem loadCalibration_merges (inputs : List CalibrationInput) :
    (AllValid inputs →
      ((∃ t first second, loadCalibration inputs = .error (.conflictingOffsets t first second))
        ↔ ∃ input ∈ inputs, ∃ p, SelectedIn input p ∧ ∃ input' ∈ inputs, ∃ q, SelectedIn input' q
            ∧ p.monotonicNs = q.monotonicNs ∧ p.offsetNs ≠ q.offsetNs)
      ∧ (inputs ≠ [] → (∃ c, loadCalibration inputs = .ok c)
        ∨ ∃ t first second, loadCalibration inputs = .error (.conflictingOffsets t first second)))
    ∧ (∀ c, loadCalibration inputs = .ok c →
      c.times.Pairwise (· < ·)
      ∧ (∀ p, p ∈ c.points ↔ ∃ input ∈ inputs, SelectedIn input p)
      ∧ c.selectedRows = c.points.length + c.duplicateSelectedTimes)
    ∧ ∀ inputs', Rearranged inputs inputs' →
      ((∃ c, loadCalibration inputs = .ok c) ↔ ∃ c', loadCalibration inputs' = .ok c')
      ∧ ∀ c c', loadCalibration inputs = .ok c → loadCalibration inputs' = .ok c' →
        c'.points = c.points ∧ c'.rows = c.rows ∧ c'.selectedRows = c.selectedRows
        ∧ c'.duplicateSelectedTimes = c.duplicateSelectedTimes := by
  refine ⟨?_, ?_, ?_⟩
  · intro hvalid
    obtain ⟨loaded, hloaded⟩ := hvalid.load
    have hmem := mem_allSelected_iff hloaded
    by_cases hne : inputs = []
    · subst hne
      refine ⟨⟨?_, ?_⟩, fun h => absurd rfl h⟩
      · rintro ⟨t, first, second, h⟩
        cases h
      · rintro ⟨input, hinput, -⟩
        cases hinput
    rcases loadCalibration_of_loaded hne hloaded with ⟨c, hc, hincreasing, hpoints, -⟩ | hconflict
    · refine ⟨⟨?_, ?_⟩, fun _ => .inl ⟨c, hc⟩⟩
      · rintro ⟨t, first, second, h⟩
        cases hc.symm.trans h
      · rintro ⟨input, hinput, p, hp, input', hinput', q, hq, hdiffer⟩
        refine absurd ⟨p, ?_, q, ?_, hdiffer⟩ (not_conflict_of_increasing hincreasing)
        · exact (hpoints p).mpr ((hmem p).mpr ⟨input, hinput, hp⟩)
        · exact (hpoints q).mpr ((hmem q).mpr ⟨input', hinput', hq⟩)
    · obtain ⟨herror, p, hp, q, hq, hdiffer⟩ := hconflict
      obtain ⟨input, hinput, hp⟩ := (hmem p).mp hp
      obtain ⟨input', hinput', hq⟩ := (hmem q).mp hq
      exact ⟨⟨fun _ => ⟨input, hinput, p, hp, input', hinput', q, hq, hdiffer⟩, fun _ => herror⟩,
        fun _ => .inr herror⟩
  · intro c hc
    obtain ⟨loaded, hloaded, -, hincreasing, hmem, -, hselected, hcount⟩ :=
      loadCalibration_loaded hc
    refine ⟨List.pairwise_map.mpr hincreasing, fun p => ?_, by omega⟩
    rw [hmem, mem_allSelected_iff hloaded]
  · intro inputs' hrearranged
    refine ⟨⟨?_, ?_⟩, ?_⟩
    · rintro ⟨c, hc⟩
      obtain ⟨c', hc', -⟩ := hrearranged.loadCalibration_eq hc
      exact ⟨c', hc'⟩
    · rintro ⟨c', hc'⟩
      obtain ⟨c, hc, -⟩ := hrearranged.symm.loadCalibration_eq hc'
      exact ⟨c, hc⟩
    · intro c c' hc hc'
      obtain ⟨c'', hc'', hsame⟩ := hrearranged.loadCalibration_eq hc
      obtain rfl : c' = c'' := Except.ok.inj (hc'.symm.trans hc'')
      exact hsame

end AceXdp
