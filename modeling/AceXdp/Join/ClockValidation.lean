import Mathlib.Data.Rat.Defs
import AceXdp.Aggregate.Runs
import AceXdp.Join.CalibrationMerge
import AceXdp.Join.RowDict
import AceXdp.Lib.Interpolant

/-!
# AceXdp — `validate_clock`

The check of a joined CSV against its continuous calibration, `clock_validation.py`: every packet
between calibration points, every received one with a complete decomposition.

* `clock_validation_sound`: what an accepted report says about every row of the file.
-/

namespace AceXdp

open Csv Decimal Interpolant Checked

/-! ## `validate_clock`

A report over the joined rows: counts, the first and the last time of a packet, and the gaps of the
calibration in between. -/

/-- What the function lets through: the errors of the loader, of the reader and of `int`, and a
column that is missing. -/
inductive ClockError where
  | calibration (error : CalibrationError)
  | csvSyntax
  | missingColumn (field : String)
  | invalidInteger (field : String)
  deriving DecidableEq, Repr

/-- `row[field]`. -/
def clockField (names row : List Text) (field : String) : Except ClockError (Option Text) :=
  if field.toList ∈ names then .ok (Aggregate.cell names row field.toList)
  else .error (.missingColumn field)

/-- A cell that is neither `None` nor empty. -/
def filled (cell : Option Text) : Option Text := cell.filter (· ≠ [])

/-- `int(row[field])` of a filled cell. -/
def clockInteger (names row : List Text) (field : String) : Except ClockError (Option Int) := do
  let cell ← clockField names row field
  match filled cell with
  | none => return none
  | some text =>
    match readInt text with
    | some n => return some n
    | none => throw (.invalidInteger field)

/-- The counters of `report`, and `first` and `last`. -/
structure ClockState where
  packets : Nat := 0
  receivedPackets : Nat := 0
  unreceivedPackets : Nat := 0
  missingTotal : Nat := 0
  negativeD1 : Nat := 0
  negativeTotal : Nat := 0
  invalidDecomposition : Nat := 0
  first : Option Int := none
  last : Option Int := none
  deriving DecidableEq, Repr

/-- `int(...)` of a truth value, as it is added to a counter. -/
def tally (b : Bool) : Nat := if b then 1 else 0

/-- The statuses that are no fault. -/
def allowedStatus (received : Bool) : List (Option Text) :=
  if received then [some "complete".toList] else [some "complete".toList, some "incomplete".toList]

/-- `received and not row["user_hw_ns"]`. -/
def missesTotal (names row : List Text) (received : Bool) : Except ClockError Bool :=
  if received then (clockField names row "user_hw_ns").map fun cell => (filled cell).isNone
  else .ok false

/-- One turn of the loop over the rows. -/
def ClockState.addRow (names : List Text) (st : ClockState) (row : List Text) :
    Except ClockError ClockState := do
  let initial ← clockInteger names row "initial_xdp_ns"
  let user ← clockInteger names row "user_rx_mono_ns"
  let timestamps := initial.toList ++ user.toList
  let received := user.isSome
  let missing ← missesTotal names row received
  let d1 ← clockInteger names row "xdp_hw_ns"
  let total ← clockInteger names row "user_hw_ns"
  let status ← clockField names row "segment_status"
  return {
    packets := st.packets + 1
    receivedPackets := st.receivedPackets + tally received
    unreceivedPackets := st.unreceivedPackets + tally !received
    missingTotal := st.missingTotal + tally missing
    negativeD1 := st.negativeD1 + tally (d1.any (· < 0))
    negativeTotal := st.negativeTotal + tally (total.any (· < 0))
    invalidDecomposition := st.invalidDecomposition + tally (status ∉ allowedStatus received)
    first := if timestamps = [] then st.first else (timestamps ++ st.first.toList).min?
    last := if timestamps = [] then st.last else (timestamps ++ st.last.toList).max? }

/-- Half a second. -/
def maxGapNs : Int := 500000000

/-- The distances of adjacent points around the capture. -/
def gapsInCapture (points : List CalibrationPoint) (st : ClockState) : List Int :=
  match st.first, st.last with
  | some first, some last =>
    ((pairs points).filter fun pair =>
      first ≤ pair.2.monotonicNs && pair.1.monotonicNs ≤ last).map fun pair =>
        pair.2.monotonicNs - pair.1.monotonicNs
  | _, _ => []

def coversCapture (c : Calibration) (st : ClockState) : Bool :=
  match st.first, st.last with
  | some first, some last =>
    (c.points.head c.nonempty).monotonicNs ≤ first && first ≤ last
      && last ≤ (c.points.getLast c.nonempty).monotonicNs
  | _, _ => false

structure ClockReport where
  counts : ClockState
  covered : Bool
  maxGapInCaptureMs : Option ℚ
  accepted : Bool
  deriving DecidableEq, Repr

def clockReport (c : Calibration) (st : ClockState) : ClockReport where
  counts := st
  covered := coversCapture c st
  maxGapInCaptureMs := (gapsInCapture c.points st).max?.map fun gap => (gap : ℚ) / 1000000
  accepted := st.receivedPackets ≠ 0 && coversCapture c st
    && (gapsInCapture c.points st).max?.any (· ≤ maxGapNs)
    && st.missingTotal = 0 && st.negativeD1 = 0 && st.negativeTotal = 0
    && st.invalidDecomposition = 0

def validateClock (joined : Text) (calibration : CalibrationInput) :
    Except ClockError ClockReport :=
  match hc : loadCalibration [calibration] with
  | .error error => .error (.calibration error)
  | .ok _ =>
    match readTable (splitLines joined) with
    | none => .error .csvSyntax
    | some file => do
      let st ← file.rows.foldlM (ClockState.addRow (file.fieldnames.getD [])) {}
      return clockReport (calibrationOf hc) st

/-! ## The loop over the rows

One pass accumulates the counts and the two times; it raises at the first row that cannot be
read. -/

/-- The integer in a cell. -/
def integerAt (names row : List Text) (field : String) : Option Int :=
  (filled (Aggregate.cell names row field.toList)).bind readInt

theorem clockField_ok {names row : List Text} {field : String} {cell : Option Text}
    (h : clockField names row field = .ok cell) :
    cell = Aggregate.cell names row field.toList := by
  unfold clockField at h
  split at h
  · exact (Except.ok.inj h).symm
  · cases h

/-- A cell that the loop could read is filled when it has an integer. -/
theorem clockInteger_ok {names row : List Text} {field : String} {value : Option Int}
    (h : clockInteger names row field = .ok value) :
    value = integerAt names row field
      ∧ value.isSome = (filled (Aggregate.cell names row field.toList)).isSome := by
  obtain ⟨cell, hcell, h⟩ := bind_eq_ok.mp h
  rw [clockField_ok hcell] at h
  unfold integerAt
  cases hfilled : filled (Aggregate.cell names row field.toList) with
  | none =>
    rw [hfilled] at h
    cases h
    exact ⟨rfl, rfl⟩
  | some text =>
    rw [hfilled] at h
    dsimp only at h
    cases hread : readInt text with
    | none => rw [hread] at h; cases h
    | some n =>
      rw [hread] at h
      cases h
      exact ⟨hread.symm, rfl⟩

section Row

variable (names row : List Text)

def receivedAt : Bool := (integerAt names row "user_rx_mono_ns").isSome

/-- The times of a row. -/
def timestampsAt : List Int :=
  (integerAt names row "initial_xdp_ns").toList ++ (integerAt names row "user_rx_mono_ns").toList

/-- What a row adds to the counters. -/
def ClockState.after (st : ClockState) : ClockState where
  packets := st.packets + 1
  receivedPackets := st.receivedPackets + tally (receivedAt names row)
  unreceivedPackets := st.unreceivedPackets + tally !receivedAt names row
  missingTotal := st.missingTotal
    + tally (receivedAt names row && (integerAt names row "user_hw_ns").isNone)
  negativeD1 := st.negativeD1 + tally ((integerAt names row "xdp_hw_ns").any (· < 0))
  negativeTotal := st.negativeTotal + tally ((integerAt names row "user_hw_ns").any (· < 0))
  invalidDecomposition := st.invalidDecomposition
    + tally (Aggregate.cell names row "segment_status".toList ∉ allowedStatus (receivedAt names row))
  first := if timestampsAt names row = [] then st.first
    else (timestampsAt names row ++ st.first.toList).min?
  last := if timestampsAt names row = [] then st.last
    else (timestampsAt names row ++ st.last.toList).max?

end Row

/-- **One turn of the loop.** -/
theorem ClockState.addRow_ok {names row : List Text} {st st' : ClockState}
    (h : st.addRow names row = .ok st') : st' = st.after names row := by
  obtain ⟨initial, hinitial, h⟩ := bind_eq_ok.mp h
  obtain ⟨user, huser, h⟩ := bind_eq_ok.mp h
  obtain ⟨missing, hmissing, h⟩ := bind_eq_ok.mp h
  obtain ⟨d1, hd1, h⟩ := bind_eq_ok.mp h
  obtain ⟨total, htotal, h⟩ := bind_eq_ok.mp h
  obtain ⟨status, hstatus, h⟩ := bind_eq_ok.mp h
  obtain ⟨rfl, -⟩ := clockInteger_ok hinitial
  obtain ⟨rfl, -⟩ := clockInteger_ok huser
  obtain ⟨rfl, -⟩ := clockInteger_ok hd1
  obtain ⟨rfl, hfilled⟩ := clockInteger_ok htotal
  obtain rfl := clockField_ok hstatus
  have hmiss : missing = (receivedAt names row && (integerAt names row "user_hw_ns").isNone) := by
    unfold missesTotal at hmissing
    unfold receivedAt
    cases hreceived : (integerAt names row "user_rx_mono_ns").isSome with
    | false =>
      rw [hreceived] at hmissing
      exact (Except.ok.inj hmissing).symm
    | true =>
      rw [hreceived, if_pos rfl] at hmissing
      obtain ⟨cell, hcell, rfl⟩ := map_eq_ok.mp hmissing
      rw [clockField_ok hcell, Bool.true_and, ← Option.not_isSome, ← Option.not_isSome, hfilled]
  rw [hmiss] at h
  exact (Except.ok.inj h).symm

/-- The counters count rows, and the times of the rows lie between `first` and `last`. -/
structure ClockScan (names : List Text) (rows : List (List Text)) (st : ClockState) : Prop where
  received : st.receivedPackets = rows.countP (receivedAt names ·)
  missing : st.missingTotal
    = rows.countP fun row => receivedAt names row && (integerAt names row "user_hw_ns").isNone
  d1 : st.negativeD1 = rows.countP fun row => (integerAt names row "xdp_hw_ns").any (· < 0)
  total : st.negativeTotal = rows.countP fun row => (integerAt names row "user_hw_ns").any (· < 0)
  decomposition : st.invalidDecomposition = rows.countP fun row =>
    Aggregate.cell names row "segment_status".toList ∉ allowedStatus (receivedAt names row)
  bounds : ∀ row ∈ rows, ∀ t ∈ timestampsAt names row,
    ∃ first last, st.first = some first ∧ st.last = some last ∧ first ≤ t ∧ t ≤ last

theorem countP_concat {α : Type} (p : α → Bool) (l : List α) (a : α) :
    (l ++ [a]).countP p = l.countP p + tally (p a) := by
  rw [List.countP_append, List.countP_singleton, tally]

theorem min?_le {ts : List Int} (hne : ts ≠ []) (o : Option Int) :
    ∃ m, (ts ++ o.toList).min? = some m ∧ (∀ t ∈ ts, m ≤ t) ∧ ∀ t, o = some t → m ≤ t := by
  obtain ⟨m, hm⟩ := Option.isSome_iff_exists.mp
    (List.isSome_min?_of_ne_nil (List.append_ne_nil_of_left_ne_nil hne o.toList))
  have hle := (List.min?_eq_some_iff.mp hm).2
  exact ⟨m, hm, fun t ht => hle t (List.mem_append_left _ ht),
    fun t ht => hle t (List.mem_append_right _ (by simp [ht]))⟩

theorem le_max? {ts : List Int} (hne : ts ≠ []) (o : Option Int) :
    ∃ m, (ts ++ o.toList).max? = some m ∧ (∀ t ∈ ts, t ≤ m) ∧ ∀ t, o = some t → t ≤ m := by
  obtain ⟨m, hm⟩ := Option.isSome_iff_exists.mp
    (List.isSome_max?_of_ne_nil (List.append_ne_nil_of_left_ne_nil hne o.toList))
  have hle := (List.max?_eq_some_iff.mp hm).2
  exact ⟨m, hm, fun t ht => hle t (List.mem_append_left _ ht),
    fun t ht => hle t (List.mem_append_right _ (by simp [ht]))⟩

theorem ClockScan.after {names : List Text} {rows : List (List Text)} {st : ClockState}
    (h : ClockScan names rows st) (row : List Text) :
    ClockScan names (rows ++ [row]) (st.after names row) := by
  refine ⟨?_, ?_, ?_, ?_, ?_, ?_⟩
  · rw [countP_concat, ← h.received]
    rfl
  · rw [countP_concat, ← h.missing]
    rfl
  · rw [countP_concat, ← h.d1]
    rfl
  · rw [countP_concat, ← h.total]
    rfl
  · rw [countP_concat, ← h.decomposition]
    rfl
  unfold ClockState.after
  dsimp only
  intro row' hrow' t ht
  by_cases hempty : timestampsAt names row = []
  -- a row without times leaves the bounds alone
  · rw [if_pos hempty, if_pos hempty]
    rcases List.mem_append.mp hrow' with hold | hnew
    · exact h.bounds row' hold t ht
    · rw [List.mem_singleton.mp hnew, hempty] at ht
      cases ht
  · rw [if_neg hempty, if_neg hempty]
    obtain ⟨first, hfirst, hnewfirst, holdfirst⟩ := min?_le hempty st.first
    obtain ⟨last, hlast, hnewlast, holdlast⟩ := le_max? hempty st.last
    refine ⟨first, last, hfirst, hlast, ?_⟩
    rcases List.mem_append.mp hrow' with hold | hnew
    · obtain ⟨first₀, last₀, hfirst₀, hlast₀, hle, hge⟩ := h.bounds row' hold t ht
      exact ⟨(holdfirst first₀ hfirst₀).trans hle, hge.trans (holdlast last₀ hlast₀)⟩
    · rw [List.mem_singleton.mp hnew] at ht
      exact ⟨hnewfirst t ht, hnewlast t ht⟩

/-- **The loop over the rows.** -/
theorem clockScan_of_ok {names : List Text} {rows : List (List Text)} {st : ClockState}
    (h : rows.foldlM (ClockState.addRow names) {} = .ok st) : ClockScan names rows st := by
  refine foldlM_ok (fun seen row st₀ st₁ hscan hrow => ?_) ?_ h
  · rw [ClockState.addRow_ok hrow]
    exact hscan.after row
  · exact ⟨rfl, rfl, rfl, rfl, rfl, fun _ hrow => absurd hrow List.not_mem_nil⟩

/-! ## The gaps

The distances between neighbouring points of the calibration, as far as they touch the capture. -/

/-- A time between the first and the last of at least two points lies between two adjacent ones. -/
theorem exists_pair_around {t : Int} :
    ∀ {points : List CalibrationPoint} (hne : points ≠ []), pairs points ≠ [] →
      (points.head hne).monotonicNs ≤ t → t ≤ (points.getLast hne).monotonicNs →
      ∃ pair ∈ pairs points, pair.1.monotonicNs ≤ t ∧ t ≤ pair.2.monotonicNs
  | [p], _, hpairs, _, _ => absurd rfl hpairs
  | p :: q :: rest, _, _, hfirst, hlast => by
    rw [pairs_cons_cons]
    rcases le_or_gt t q.monotonicNs with hq | hq
    · exact ⟨(p, q), List.mem_cons_self, hfirst, hq⟩
    · rw [List.getLast_cons (List.cons_ne_nil q rest)] at hlast
      cases rest with
      | nil => exact absurd hlast (not_le.mpr hq)
      | cons r rest =>
        obtain ⟨pair, hpair, hbetween⟩ := exists_pair_around (List.cons_ne_nil q (r :: rest))
          (by simp) hq.le hlast
        exact ⟨pair, List.mem_cons_of_mem _ hpair, hbetween⟩

/-- Within a covered capture whose gaps are short, every time lies in a short gap. -/
theorem exists_short_gap {c : Calibration} {st : ClockState} (hcovers : coversCapture c st = true)
    (hgap : (gapsInCapture c.points st).max?.any (· ≤ maxGapNs) = true) {first last t : Int}
    (hfirst : st.first = some first) (hlast : st.last = some last) (hle : first ≤ t)
    (hge : t ≤ last) :
    ∃ pair ∈ pairs c.points, pair.1.monotonicNs ≤ t ∧ t ≤ pair.2.monotonicNs
      ∧ pair.2.monotonicNs - pair.1.monotonicNs ≤ maxGapNs := by
  unfold coversCapture at hcovers
  unfold gapsInCapture at hgap
  rw [hfirst, hlast] at hcovers hgap
  dsimp only at hcovers hgap
  simp only [Bool.and_eq_true, decide_eq_true_eq] at hcovers
  obtain ⟨⟨hhead, -⟩, htail⟩ := hcovers
  obtain ⟨gap, hmax, hshort⟩ := (Option.any_eq_true _ _).mp hgap
  have hpairs : pairs c.points ≠ [] := by
    intro hnil
    rw [hnil] at hmax
    cases hmax
  obtain ⟨pair, hpair, hbefore, hafter⟩ :=
    exists_pair_around c.nonempty hpairs (hhead.trans hle) (hge.trans htail)
  refine ⟨pair, hpair, hbefore, hafter, ?_⟩
  have hcounted : pair.2.monotonicNs - pair.1.monotonicNs ≤ gap := by
    refine (List.max?_eq_some_iff.mp hmax).2 _ (List.mem_map_of_mem (List.mem_filter.mpr ⟨hpair, ?_⟩))
    rw [Bool.and_eq_true, decide_eq_true_eq, decide_eq_true_eq]
    exact ⟨hle.trans hafter, hbefore.trans hge⟩
  exact hcounted.trans (of_decide_eq_true hshort)

/-! ## Accepted captures

A capture that is accepted lies between the points of its calibration, meets no larger gap, and
every received packet has its decomposition. -/

theorem filled_intText (n : Int) : filled (some (intText n)) = some (intText n) :=
  Option.filter_some_pos (decide_eq_true (intText_ne_nil n))

section Cells

variable {row : RowDict} (h : IsJoined row)

include h

theorem IsJoined.mem_joinedFields {name : Text} {cell : Cell}
    (hlookup : row.lookup name = some cell) : name ∈ joinedFields := by
  obtain ⟨key, r, c, clamp, rfl⟩ := h
  obtain ⟨before, after, hsplit, -⟩ := List.lookup_eq_some_iff.mp hlookup
  have hmem : (name, cell) ∈ joinedDict key r c clamp := by
    rw [hsplit]
    simp
  exact joinedDict_fields key r c clamp hmem

/-- A column of the row is read back under its name. -/
theorem IsJoined.cell {name : Text} {cell : Cell} (hlookup : row.lookup name = some cell) :
    Aggregate.cell joinedFields (writtenCells row) name = some cell.str := by
  rw [Aggregate.cell, cell_writtenCells row (h.mem_joinedFields hlookup), writtenCell, hlookup,
    Option.getD_some]

theorem IsJoined.integer {name : String} {n : Option Int}
    (hlookup : row.lookup name.toList = some (.ofOption n)) :
    integerAt joinedFields (writtenCells row) name = n := by
  rw [integerAt, h.cell hlookup]
  cases n with
  | none => rfl
  | some n =>
    show (filled (some (intText n))).bind readInt = some n
    rw [filled_intText, Option.bind_some, readInt_intText]

/-- The columns that the check reads. -/
theorem IsJoined.columns :
    (∀ name ∈ ["initial_xdp_ns", "user_rx_mono_ns", "xdp_hw_ns", "user_hw_ns"],
      ∃ n, row.lookup name.toList = some (.ofOption n))
    ∧ ∃ status, row.lookup "segment_status".toList = some (.text status) := by
  obtain ⟨key, r, c, clamp, rfl⟩ := h
  simp only [lookup_joinedDict, List.forall_mem_cons]
  exact ⟨⟨⟨_, rfl⟩, ⟨_, rfl⟩, ⟨_, rfl⟩, ⟨_, rfl⟩, by simp⟩, ⟨_, rfl⟩⟩

end Cells

theorem Cell.ofOption_eq_int {o : Option Int} {n : Int} : Cell.ofOption o = .int n ↔ o = some n := by
  cases o <;> simp [Cell.ofOption]

/-- The integer of a column of a joined row, read back. -/
theorem IsJoined.integer_iff {row : RowDict} (h : IsJoined row) {name : String}
    (hname : name ∈ ["initial_xdp_ns", "user_rx_mono_ns", "xdp_hw_ns", "user_hw_ns"]) (n : Int) :
    integerAt joinedFields (writtenCells row) name = some n
      ↔ row.lookup name.toList = some (.int n) := by
  obtain ⟨o, ho⟩ := h.columns.1 name hname
  rw [h.integer ho, ho, Option.some.injEq, Cell.ofOption_eq_int]

theorem IsJoined.received_iff {row : RowDict} (h : IsJoined row) :
    receivedAt joinedFields (writtenCells row) = true
      ↔ ∃ t, row.lookup "user_rx_mono_ns".toList = some (.int t) := by
  rw [receivedAt, Option.isSome_iff_exists]
  exact exists_congr (h.integer_iff (by decide))

theorem IsJoined.mem_timestampsAt {row : RowDict} (h : IsJoined row) {name : String}
    (hname : name ∈ ["initial_xdp_ns", "user_rx_mono_ns"]) {t : Int}
    (ht : row.lookup name.toList = some (.int t)) :
    t ∈ timestampsAt joinedFields (writtenCells row) := by
  have hinteger : integerAt joinedFields (writtenCells row) name = some t :=
    (h.integer_iff (List.mem_append_left ["xdp_hw_ns", "user_hw_ns"] hname) t).mpr ht
  rcases List.mem_cons.mp hname with rfl | hname
  · exact List.mem_append_left _ (by simp [hinteger])
  · rw [List.mem_singleton.mp hname] at hinteger
    exact List.mem_append_right _ (by simp [hinteger])

theorem IsJoined.status_of_cell {row : RowDict} (h : IsJoined row) {status : Text}
    (hcell : Aggregate.cell joinedFields (writtenCells row) "segment_status".toList = some status) :
    row.lookup "segment_status".toList = some (.text status) := by
  obtain ⟨text, htext⟩ := h.columns.2
  rw [h.cell htext] at hcell
  rw [htext, ← Option.some.inj hcell]
  rfl

/-- What the report is made of. -/
theorem validateClock_ok {joined : Text} {calibration : CalibrationInput} {report : ClockReport}
    (hrun : validateClock joined calibration = .ok report) :
    ∃ loaded, ∃ hc : loadCalibration [calibration] = .ok loaded, ∃ file st,
      readTable (splitLines joined) = some file
      ∧ file.rows.foldlM (ClockState.addRow (file.fieldnames.getD [])) {} = .ok st
      ∧ report = clockReport (calibrationOf hc) st := by
  unfold validateClock at hrun
  split at hrun
  · cases hrun
  · rename_i loaded hc
    cases hfile : readTable (splitLines joined) with
    | none => rw [hfile] at hrun; cases hrun
    | some file =>
      rw [hfile] at hrun
      obtain ⟨st, hst, hrun⟩ := bind_eq_ok.mp hrun
      exact ⟨loaded, hc, file, st, rfl, hst, (Except.ok.inj hrun).symm⟩

/-- The check can read every row of the joiner. -/
theorem IsJoined.addRow {row : RowDict} (h : IsJoined row) (st : ClockState) :
    st.addRow joinedFields (writtenCells row) = .ok (st.after joinedFields (writtenCells row)) := by
  have hfield : ∀ {name : String} {cell : Cell}, row.lookup name.toList = some cell →
      clockField joinedFields (writtenCells row) name = .ok (some cell.str) := by
    intro name cell hlookup
    rw [clockField, if_pos (h.mem_joinedFields hlookup), h.cell hlookup]
  have hinteger : ∀ name ∈ ["initial_xdp_ns", "user_rx_mono_ns", "xdp_hw_ns", "user_hw_ns"],
      clockInteger joinedFields (writtenCells row) name
        = .ok (integerAt joinedFields (writtenCells row) name) := by
    intro name hname
    obtain ⟨n, hn⟩ := h.columns.1 name hname
    rw [h.integer hn, clockInteger, bind_ok (hfield hn)]
    cases n with
    | none => rfl
    | some n =>
      simp only [Cell.ofOption, Cell.str, filled_intText, readInt_intText]
      rfl
  obtain ⟨status, hstatus⟩ := h.columns.2
  obtain ⟨total, htotal⟩ := h.columns.1 "user_hw_ns" (by decide)
  have hmissing : ∃ missing, missesTotal joinedFields (writtenCells row)
      (integerAt joinedFields (writtenCells row) "user_rx_mono_ns").isSome = .ok missing := by
    unfold missesTotal
    split
    · exact ⟨_, by rw [hfield htotal]; rfl⟩
    · exact ⟨false, rfl⟩
  obtain ⟨missing, hmissing⟩ := hmissing
  obtain ⟨st', hst'⟩ : ∃ st', st.addRow joinedFields (writtenCells row) = .ok st' := by
    unfold ClockState.addRow
    rw [bind_ok (hinteger _ (by decide)), bind_ok (hinteger _ (by decide)), bind_ok hmissing,
      bind_ok (hinteger _ (by decide)), bind_ok (hinteger _ (by decide)), bind_ok (hfield hstatus)]
    exact ⟨_, rfl⟩
  rw [hst', ClockState.addRow_ok hst']

/-- **The check returns on every file of the joiner**, once the calibration can be loaded. -/
theorem validateClock_joined {rows : List RowDict} (hrows : ∀ row ∈ rows, IsJoined row)
    {text : Text} (htext : joinedText rows = some text) {calibration : CalibrationInput}
    {loaded : LoadedCalibration} (hc : loadCalibration [calibration] = .ok loaded) :
    validateClock text calibration = .ok (clockReport (calibrationOf hc)
      (rows.foldl (fun st row => st.after joinedFields (writtenCells row)) {})) := by
  have hfold : ∀ (l : List RowDict) (st : ClockState), (∀ row ∈ l, IsJoined row) →
      (l.map writtenCells).foldlM (ClockState.addRow joinedFields) st
        = .ok (l.foldl (fun st row => st.after joinedFields (writtenCells row)) st) := by
    intro l
    induction l with
    | nil => exact fun st _ => rfl
    | cons row l ih =>
      intro st hl
      rw [List.map_cons, List.foldlM_cons, bind_ok ((hl row List.mem_cons_self).addRow st),
        ih _ fun row' hrow => hl row' (List.mem_cons_of_mem _ hrow), List.foldl_cons]
  unfold validateClock
  split
  · rename_i error herror
    cases hc.symm.trans herror
  · rename_i loaded' hc'
    obtain rfl : loaded = loaded' := Except.ok.inj (hc.symm.trans hc')
    rw [readTable_joinedText hrows htext]
    exact bind_ok (hfold rows {} hrows)

/-- **Clock validation is sound.** When the check accepts a CSV of the joiner, a packet was received,
every time in it lies between two calibration points at most half a second apart, every received
row has a complete decomposition with a latency that is not negative, and no row has a negative
first stage or a status that is a fault. -/
theorem clock_validation_sound {rows : List RowDict} (hrows : ∀ row ∈ rows, IsJoined row)
    {text : Text} (htext : joinedText rows = some text) {calibration : CalibrationInput}
    {report : ClockReport} (hrun : validateClock text calibration = .ok report)
    (haccepted : report.accepted = true) :
    ∃ loaded, loadCalibration [calibration] = .ok loaded
      ∧ (∃ row ∈ rows, ∃ t, row.lookup "user_rx_mono_ns".toList = some (.int t))
      ∧ (∀ row ∈ rows, ∀ name ∈ ["initial_xdp_ns", "user_rx_mono_ns"], ∀ t,
        row.lookup name.toList = some (.int t) →
        ∃ pair ∈ pairs loaded.points, pair.1.monotonicNs ≤ t ∧ t ≤ pair.2.monotonicNs
          ∧ pair.2.monotonicNs - pair.1.monotonicNs ≤ 500000000)
      ∧ (∀ row ∈ rows, ∀ t, row.lookup "user_rx_mono_ns".toList = some (.int t) →
        (∃ total, row.lookup "user_hw_ns".toList = some (.int total) ∧ 0 ≤ total)
        ∧ row.lookup "segment_status".toList = some (.text "complete".toList))
      ∧ ∀ row ∈ rows, (∀ d1, row.lookup "xdp_hw_ns".toList = some (.int d1) → 0 ≤ d1)
        ∧ (row.lookup "segment_status".toList = some (.text "complete".toList)
          ∨ row.lookup "segment_status".toList = some (.text "incomplete".toList)) := by
  obtain ⟨loaded, hc, file, st, hfile, hst, rfl⟩ := validateClock_ok hrun
  rw [readTable_joinedText hrows htext] at hfile
  cases hfile
  have hscan : ClockScan joinedFields (rows.map writtenCells) st := clockScan_of_ok hst
  simp only [clockReport, Bool.and_eq_true, decide_eq_true_eq] at haccepted
  obtain ⟨⟨⟨⟨⟨⟨hreceived, hcovers⟩, hgap⟩, hmissing⟩, hd1⟩, htotal⟩, hstatus⟩ := haccepted
  rw [hscan.received] at hreceived
  rw [hscan.missing] at hmissing
  rw [hscan.d1] at hd1
  rw [hscan.total] at htotal
  rw [hscan.decomposition] at hstatus
  have hclean : ∀ {p : List Text → Bool}, (rows.map writtenCells).countP p = 0 →
      ∀ row ∈ rows, p (writtenCells row) = false := fun hzero row hrow =>
    eq_false_of_ne_true (List.countP_eq_zero.mp hzero _ (List.mem_map_of_mem hrow))
  have hallowed : ∀ row ∈ rows, Aggregate.cell joinedFields (writtenCells row) "segment_status".toList
      ∈ allowedStatus (receivedAt joinedFields (writtenCells row)) := fun row hrow =>
    not_not.mp (of_decide_eq_false (hclean hstatus row hrow))
  refine ⟨loaded, hc, ?_, ?_, ?_, ?_⟩
  · obtain ⟨cells, hcells, hrow⟩ := List.countP_pos_iff.mp (Nat.pos_of_ne_zero hreceived)
    obtain ⟨row, hmem, rfl⟩ := List.mem_map.mp hcells
    exact ⟨row, hmem, (hrows row hmem).received_iff.mp hrow⟩
  · intro row hrow name hname t ht
    have htime : t ∈ timestampsAt joinedFields (writtenCells row) :=
      (hrows row hrow).mem_timestampsAt hname ht
    obtain ⟨first, last, hfirst, hlast, hle, hge⟩ :=
      hscan.bounds _ (List.mem_map_of_mem hrow) t htime
    exact exists_short_gap hcovers hgap hfirst hlast hle hge
  · intro row hrow t ht
    have hj := hrows row hrow
    have hrec := hj.received_iff.mpr ⟨t, ht⟩
    have hmiss := hclean hmissing row hrow
    have hneg := hclean htotal row hrow
    have hstat := hallowed row hrow
    rw [hrec, Bool.true_and, ← Option.not_isSome, Bool.not_eq_false'] at hmiss
    obtain ⟨total, htotal⟩ := Option.isSome_iff_exists.mp hmiss
    rw [htotal, Option.any_some, decide_eq_false_iff_not, not_lt] at hneg
    refine ⟨⟨total, (hj.integer_iff (by decide) total).mp htotal, hneg⟩, ?_⟩
    rw [hrec] at hstat
    exact hj.status_of_cell (List.mem_singleton.mp hstat)
  · intro row hrow
    have hj := hrows row hrow
    have hneg := hclean hd1 row hrow
    refine ⟨fun d1 hlookup => ?_, ?_⟩
    · rw [(hj.integer_iff (by decide) d1).mpr hlookup, Option.any_some, decide_eq_false_iff_not,
        not_lt] at hneg
      exact hneg
    · have hstat := hallowed row hrow
      unfold allowedStatus at hstat
      split at hstat
      · exact Or.inl (hj.status_of_cell (List.mem_singleton.mp hstat))
      · rcases List.mem_cons.mp hstat with hstat | hstat
        · exact Or.inl (hj.status_of_cell hstat)
        · exact Or.inr (hj.status_of_cell (List.mem_singleton.mp hstat))

/-- Two readings, nine nanoseconds apart. -/
def clockCapture : CalibrationInput where
  path := []
  text := some
    ("iteration,sample,system_before_ns,phc_ns,system_after_ns,span_ns,offset_ns,selected\n"
      ++ "0,0,0,0,0,0,0,1\n1,0,9,9,9,0,0,1\n").toList

theorem loadCalibration_clockCapture :
    ∃ loaded, loadCalibration [clockCapture] = .ok loaded ∧ loaded.points = [⟨0, 0⟩, ⟨9, 0⟩] := by
  have hload : [clockCapture].mapM loadCalibrationFile
      = .ok [(⟨[], 2, 2⟩, [⟨0, 0⟩, ⟨9, 0⟩])] := by
    decide +kernel
  refine ⟨⟨[⟨0, 0⟩, ⟨9, 0⟩], [⟨[], 2, 2⟩], 2, 2, 0⟩, (bind_ok hload).trans ?_, rfl⟩
  rw [sortByTime, List.mergeSort_of_pairwise (by decide)]
  rfl

/-- A packet seen at the ingress and by the UDP receiver. -/
def receivedPacket : RecordSources where
  ingress := some (ingressDict ⟨1, 0, 7⟩
    { flowId := 1, rxQueue := 0, sequence := 7, hwRxNs := 1, initialXdpNs := 2
      flags := metaHwtsValid ||| metaPacketIdValid ||| metaPathRequested
      requestedPath := acePathPass, timestampError := 0 })
  cpumap := none
  afxdp := none
  udp := some (udpRecord
    { seq := 7, txNs := 0, userRxMonoNs := 3, userRxRealNs := 3, hwRxNs := 1, flowId := 1, len := 32
      flags := sampleHwtsValid, reserved16 := 0, reserved32 := 0 })

def receivedRow : RowDict :=
  joinedDict (1, 7) receivedPacket ⟨[⟨0, 0⟩, ⟨9, 0⟩], by simp, by simp⟩ false

theorem clock_validation_sound_one_packet :
    ∃ text report, joinedText [receivedRow] = some text
      ∧ validateClock text clockCapture = .ok report ∧ report.accepted = true
      ∧ ∃ total, receivedRow.lookup "user_hw_ns".toList = some (.int total) ∧ 0 ≤ total := by
  have hj : IsJoined receivedRow := ⟨_, _, _, _, rfl⟩
  have hrows : ∀ row ∈ [receivedRow], IsJoined row := fun row hrow =>
    List.mem_singleton.mp hrow ▸ hj
  have hinteger : ∀ (name : String) (n : Int),
      name ∈ ["initial_xdp_ns", "user_rx_mono_ns", "xdp_hw_ns", "user_hw_ns"] →
      (joinedColumns (1, 7) receivedPacket ⟨[⟨0, 0⟩, ⟨9, 0⟩], by simp, by simp⟩ false).lookup name
        = some (.int n) →
      integerAt joinedFields (writtenCells receivedRow) name = some n := fun name n hname hn =>
    (hj.integer_iff hname n).mpr ((lookup_joinedDict _ _ _ _ name).trans hn)
  have hinitial := hinteger "initial_xdp_ns" 2 (by decide) (by decide +kernel)
  have huser := hinteger "user_rx_mono_ns" 3 (by decide) (by decide +kernel)
  have hd1 := hinteger "xdp_hw_ns" 1 (by decide) (by decide +kernel)
  have htotal := hinteger "user_hw_ns" 2 (by decide) (by decide +kernel)
  have hcomplete : receivedRow.lookup "segment_status".toList = some (.text "complete".toList) :=
    (lookup_joinedDict _ _ _ _ "segment_status").trans (by decide +kernel)
  have hstatus : Aggregate.cell joinedFields (writtenCells receivedRow) "segment_status".toList
      = some "complete".toList := hj.cell hcomplete
  have hafter : ({} : ClockState).after joinedFields (writtenCells receivedRow)
      = { packets := 1, receivedPackets := 1, first := some 2, last := some 3 } := by
    unfold ClockState.after receivedAt timestampsAt
    rw [hinitial, huser, hd1, htotal, hstatus]
    decide +kernel
  obtain ⟨loaded, hc, hpoints⟩ := loadCalibration_clockCapture
  have htext := joinedText_eq hrows
  have hrun := validateClock_joined hrows htext hc
  have hreport : ∀ c : Calibration, c.points = [⟨0, 0⟩, ⟨9, 0⟩] →
      (clockReport c { packets := 1, receivedPackets := 1, first := some 2, last := some 3 }).accepted
        = true := by
    rintro ⟨points, hne, hlt⟩ rfl
    rfl
  have haccepted : (clockReport (calibrationOf hc) ([receivedRow].foldl
      (fun st row => st.after joinedFields (writtenCells row)) {})).accepted = true := by
    rw [List.foldl_cons, List.foldl_nil, hafter]
    exact hreport _ hpoints
  obtain ⟨loaded', -, -, -, hreceived, -⟩ := clock_validation_sound hrows htext hrun haccepted
  exact ⟨_, _, htext, hrun, haccepted, (hreceived receivedRow (List.mem_singleton_self _) 3
    ((hj.integer_iff (by decide) 3).mp huser)).1⟩

end AceXdp
