import AceXdp.Join.CalibrationMerge
import AceXdp.Join.TableRoundTrip
import AceXdp.Lib.Signed64
import AceXdp.Phc.Capture
import Mathlib.Data.Prod.Lex

/-!
# AceXdp — PHC captures are accepted by the analyser

* `readSample_sound`: a valid reading below `2 ^ 62` ns gives the span and the offset of exact
  arithmetic;
* `accepts_sampleFields`: the row of such a sample is accepted;
* `bestIndex_spec`, `medianSample_spec`: the marked index is that of a valid sample, with the
  shortest span or at the upper median;
* `loadCalibrationFile_capture`: the file of a capture is read back as one point for each iteration;
* `phc_capture_accepted`: both programs.
-/

namespace AceXdp

open Csv Decimal Disk Checked

/-! ## Samples

Three clock values of a sample make a span and an offset. Below `2 ^ 62` ns the 64-bit arithmetic is
exact. -/

theorem wrapInt64_eq_self {x : Int} (hlow : -2 ^ 63 ≤ x) (hhigh : x < 2 ^ 63) : wrapInt64 x = x :=
  Signed64.bmod_eq_self ⟨hlow, hhigh⟩

/-- A clock value below `2 ^ 62` ns, if it is one at all. -/
def PtpClockTime.Bounded (t : PtpClockTime) : Prop := t.valid → t.ns < 2 ^ 62

def PtpReading.Bounded (r : PtpReading) : Prop :=
  r.before.Bounded ∧ r.phc.Bounded ∧ r.after.Bounded

theorem PtpClockTime.ns_nonneg {t : PtpClockTime} (h : t.valid) : 0 ≤ t.ns := by
  simp only [valid, Bool.and_eq_true, decide_eq_true_eq] at h
  unfold ns
  omega

theorem ptpTimeToNs_eq_some {t : PtpClockTime} (h : t.Bounded) {ns : Int} :
    ptpTimeToNs t = some ns ↔ t.valid ∧ ns = t.ns := by
  unfold ptpTimeToNs
  split
  case isTrue hvalid =>
    have hlow := t.ns_nonneg hvalid
    have hhigh := h hvalid
    rw [wrapInt64_eq_self (by omega) (by omega)]
    simp [hvalid, eq_comm]
  case isFalse hinvalid => simp [hinvalid]

/-- A sample in exact arithmetic. -/
structure PhcSample.Sound (s : PhcSample) : Prop where
  before : 0 ≤ s.beforeNs ∧ s.beforeNs ≤ s.afterNs
  after : s.afterNs < 2 ^ 62
  phc : 0 ≤ s.phcNs ∧ s.phcNs < 2 ^ 62
  span : s.spanNs = s.afterNs - s.beforeNs
  offset : s.offsetNs = s.phcNs - (s.beforeNs + s.spanNs / 2)

/-- The sample is that of the reading. -/
structure PhcSample.Of (s : PhcSample) (r : PtpReading) : Prop where
  valid : r.before.valid ∧ r.phc.valid ∧ r.after.valid
  before : s.beforeNs = r.before.ns
  phc : s.phcNs = r.phc.ns
  after : s.afterNs = r.after.ns

theorem readSample_sound {r : PtpReading} (hr : r.Bounded) {s : PhcSample}
    (h : readSample r = some s) : s.Sound ∧ s.Of r := by
  obtain ⟨hb, hp, ha⟩ := hr
  simp only [readSample, Option.bind_eq_bind, Option.bind_eq_some_iff, ptpTimeToNs_eq_some hb,
    ptpTimeToNs_eq_some hp, ptpTimeToNs_eq_some ha] at h
  obtain ⟨before, ⟨hbvalid, rfl⟩, phc, ⟨hpvalid, rfl⟩, after, ⟨havalid, rfl⟩, h⟩ := h
  have hb0 := r.before.ns_nonneg hbvalid
  have hp0 := r.phc.ns_nonneg hpvalid
  have hb62 := hb hbvalid
  have hp62 := hp hpvalid
  have ha62 := ha havalid
  split at h <;> cases h
  rename_i hle
  have hspan : wrapInt64 (r.after.ns - r.before.ns) = r.after.ns - r.before.ns :=
    wrapInt64_eq_self (by omega) (by omega)
  have hhalf : (r.after.ns - r.before.ns).tdiv 2 = (r.after.ns - r.before.ns) / 2 :=
    Int.tdiv_eq_ediv_of_nonneg (by omega)
  have hmid : wrapInt64 (r.before.ns + (r.after.ns - r.before.ns) / 2)
      = r.before.ns + (r.after.ns - r.before.ns) / 2 := wrapInt64_eq_self (by omega) (by omega)
  refine ⟨⟨⟨hb0, by dsimp only; omega⟩, ha62, ⟨hp0, hp62⟩, hspan, ?_⟩,
    ⟨⟨hbvalid, hpvalid, havalid⟩, rfl, rfl, rfl⟩⟩
  dsimp only
  rw [hspan, hhalf, hmid, wrapInt64_eq_self (by omega) (by omega)]

/-! ## One row

A sample is printed as eight numbers; the analyser reads them back and checks the span and the
offset again. -/

/-- The point a sample stands for. -/
def PhcSample.point (s : PhcSample) : CalibrationPoint := ⟨s.beforeNs + s.spanNs / 2, s.offsetNs⟩

def sampleValues (iteration index : Nat) (s : PhcSample) (selected : Bool) : CalibrationRow :=
  ⟨iteration, index, s.beforeNs, s.phcNs, s.afterNs, s.spanNs, s.offsetNs, selected.toNat⟩

theorem readInteger_intText (z : Int) :
    (if (intText z).all isSpace then none else readInt (intText z)) = some z := by
  obtain ⟨c, rest, hcons⟩ := List.exists_cons_of_ne_nil (intText_ne_nil z)
  have hc : isSpace c = false := isSpace_of_mem_intText (z := z) (hcons ▸ List.mem_cons_self)
  have hblank : (intText z).all isSpace = false := by rw [hcons, List.all_cons, hc]; rfl
  rw [hblank, readInt_intText]
  rfl

theorem readsAs_sampleFields (iteration index : Nat) (s : PhcSample) (selected : Bool) :
    ReadsAs phcColumns (sampleFields iteration index s selected)
      (sampleValues iteration index s selected) := by
  have hcell (field : String) (z : Int)
      (h : (phcColumns.zip (sampleFields iteration index s selected)).lookup field.toList
        = some (intText z)) :
      readCell phcColumns (sampleFields iteration index s selected) field = some z := by
    rw [readCell, h, Option.bind_some, readInteger_intText]
  exact ⟨hcell _ _ rfl, hcell _ _ rfl, hcell _ _ rfl, hcell _ _ rfl, hcell _ _ rfl, hcell _ _ rfl,
    hcell _ _ rfl, hcell _ _ rfl⟩

theorem PhcSample.Sound.valid {s : PhcSample} (h : s.Sound) {iteration index : Nat}
    (hiteration : iteration ≤ 0xffffffff) (hindex : index ≤ 0xffffffff) (selected : Bool) :
    (sampleValues iteration index s selected).Valid := by
  obtain ⟨hbefore, hafter, hphc, hspan, hoffset⟩ := h
  refine ⟨?_, ?_, ?_, ?_, hoffset, ?_⟩
  · dsimp only [sampleValues]; omega
  · dsimp only [sampleValues]; omega
  · intro field hfield
    simp only [CalibrationRow.int64Fields, sampleValues, List.mem_cons, List.not_mem_nil,
      or_false] at hfield
    rcases hfield with rfl | rfl | rfl | rfl | rfl <;>
      simp only [CalibrationRow.inInt64, Bool.and_eq_true, decide_eq_true_eq] <;> omega
  · dsimp only [sampleValues]; omega
  · cases selected <;> simp [sampleValues]

theorem accepts_sampleFields {s : PhcSample} (h : s.Sound) {iteration index : Nat}
    (hiteration : iteration ≤ 0xffffffff) (hindex : index ≤ 0xffffffff) (selected : Bool) :
    Accepts phcColumns (sampleFields iteration index s selected)
      (if selected then some s.point else none) := by
  refine ⟨le_rfl, _, readsAs_sampleFields iteration index s selected,
    h.valid hiteration hindex selected, ?_⟩
  have hpoint : (sampleValues iteration index s selected).point = s.point := by
    rw [CalibrationRow.point, PhcSample.point, h.offset]
    rfl
  rw [CalibrationRow.selectedPoint, hpoint]
  cases selected <;> rfl

/-! ## The file

The rows of all iterations behind the header. -/

theorem sampleFields_eq (iteration index : Nat) (s : PhcSample) (selected : Bool) :
    sampleFields iteration index s selected
      = ([(iteration : Int), index, s.beforeNs, s.phcNs, s.afterNs, s.spanNs, s.offsetNs,
          selected.toNat] : List Int).map intText := rfl

theorem mem_captureRows {observations : List Observation} {row : List Text}
    (h : row ∈ captureRows observations) :
    ∃ iteration index s selected, row = sampleFields iteration index s selected := by
  obtain ⟨entry, -, hrow⟩ := List.mem_flatMap.mp h
  obtain ⟨sample, -, rfl⟩ := List.mem_map.mp hrow
  exact ⟨_, _, _, _, rfl⟩

theorem plainRow_of_mem_captureRows (observations : List Observation) :
    ∀ row ∈ captureRows observations, PlainRow row := by
  intro row hrow
  obtain ⟨iteration, index, s, selected, rfl⟩ := mem_captureRows hrow
  rw [sampleFields_eq]
  exact plainRow_intText _ _

theorem plainRow_phcColumns : PlainRow phcColumns := by
  constructor
  · decide
  · decide

/-- A comment line in front of the columns is skipped. -/
theorem readTable_captureText {comment : Text} (hline : ∀ c ∈ comment, c ≠ '\n' ∧ c ≠ '\r')
    (hcomment : comment.head? = some '#') (observations : List Observation) :
    readTable ((splitLines (captureText (comment ++ ['\n']) observations)).filter isDataLine)
      = some ⟨some phcColumns, captureRows observations⟩ := by
  have hplain := plainRow_of_mem_captureRows observations
  have htext : captureText (comment ++ ['\n']) observations
      = (comment :: (phcColumns :: captureRows observations).map joinFields).flatMap
          fun body => body ++ ['\n'] := by
    simp only [captureText, csvLine, List.map_cons, List.flatMap_cons, List.flatMap_map]
    rfl
  have hbodies : ∀ body ∈ comment :: (phcColumns :: captureRows observations).map joinFields,
      ∀ c ∈ body, c ≠ '\n' ∧ c ≠ '\r' := by
    intro body hbody
    rcases List.mem_cons.mp hbody with rfl | hbody
    · exact hline
    · obtain ⟨row, hrow, rfl⟩ := List.mem_map.mp hbody
      rcases List.mem_cons.mp hrow with rfl | hrow
      · exact isPlain_joinFields plainRow_phcColumns.plain
      · exact isPlain_joinFields (hplain row hrow).plain
  have hskip : isDataLine (comment ++ ['\n']) = false := by
    obtain ⟨rest, rfl⟩ := List.head?_eq_some_iff.mp hcomment
    rfl
  have hkeep : ∀ line ∈ ((phcColumns :: captureRows observations).map joinFields).map
      (fun body => body ++ ['\n']), isDataLine line = true := by
    intro line hline
    obtain ⟨body, hbody, rfl⟩ := List.mem_map.mp hline
    obtain ⟨row, hrow, rfl⟩ := List.mem_map.mp hbody
    rcases List.mem_cons.mp hrow with rfl | hrow
    · decide
    · obtain ⟨iteration, index, s, selected, rfl⟩ := mem_captureRows hrow
      rw [sampleFields_eq]
      exact isDataLine_intText _ _
  rw [htext, splitLines_lines .lf hbodies, List.map_cons, List.filter_cons_of_neg (by simp [hskip]),
    List.filter_eq_self.mpr hkeep, List.map_map]
  exact readTable_plain .lf plainRow_phcColumns hplain

/-! ## The marked sample

One sample of each iteration is marked, and the analyser wants exactly one. -/

theorem mem_validSamples {samples : List (Option PhcSample)} {index : Nat} {s : PhcSample} :
    (index, s) ∈ validSamples samples ↔ samples[index]? = some (some s) := by
  simp [validSamples, List.mem_filterMap, List.mem_zipIdx_iff_getElem?, Option.map_eq_some_iff]

theorem pairwise_validSamples (samples : List (Option PhcSample)) :
    (validSamples samples).Pairwise fun a b => a.1 < b.1 := by
  have hindices : samples.zipIdx.Pairwise fun a b => a.2 < b.2 := by
    rw [← List.pairwise_map (f := Prod.snd) (R := (· < ·)), List.zipIdx_map_snd]
    exact List.pairwise_lt_range'
  refine hindices.filterMap _ fun a b hab x hx y hy => ?_
  obtain ⟨s, -, rfl⟩ := Option.map_eq_some_iff.mp hx
  obtain ⟨s', -, rfl⟩ := Option.map_eq_some_iff.mp hy
  exact hab

/-- The index of a valid sample marks exactly its row. -/
theorem filter_selected {samples : List (Option PhcSample)} {index : Nat} {s : PhcSample}
    (h : samples[index]? = some (some s)) :
    (validSamples samples).filter (fun entry => entry.1 = index) = [(index, s)] := by
  have hmem := mem_validSamples.mpr h
  obtain ⟨before, after, hsplit⟩ := List.append_of_mem hmem
  have hpairwise := pairwise_validSamples samples
  rw [hsplit, List.pairwise_append, List.pairwise_cons] at hpairwise
  obtain ⟨-, ⟨hafter, -⟩, hbefore⟩ := hpairwise
  rw [hsplit, List.filter_append, List.filter_cons_of_pos (by simp)]
  have hleft : before.filter (fun entry => entry.1 = index) = [] :=
    List.filter_eq_nil_iff.mpr fun entry hentry => by
      have := hbefore entry hentry _ List.mem_cons_self
      simp only [decide_eq_true_eq]
      omega
  have hright : after.filter (fun entry => entry.1 = index) = [] :=
    List.filter_eq_nil_iff.mpr fun entry hentry => by
      have := hafter entry hentry
      simp only [decide_eq_true_eq]
      omega
  rw [hleft, hright, List.nil_append]

/-- An observation as the programs make them: sound samples, and the mark on one of them. -/
structure Observation.Marks (o : Observation) (s : PhcSample) : Prop where
  chosen : o.samples[o.selected]? = some (some s)
  sound : ∀ entry ∈ validSamples o.samples, entry.2.Sound
  length : o.samples.length ≤ 0x100000000

theorem index_lt_of_mem_validSamples {samples : List (Option PhcSample)} {entry : Nat × PhcSample}
    (h : entry ∈ validSamples samples) : entry.1 < samples.length := by
  obtain ⟨hlt, -⟩ := List.getElem?_eq_some_iff.mp (mem_validSamples.mp h)
  exact hlt

/-- The rows of one iteration are accepted and contribute the point of the marked sample. -/
theorem accepts_rows {o : Observation} {s : PhcSample} (h : o.Marks s) (iteration : Nat)
    (hiteration : iteration ≤ 0xffffffff) :
    ∃ points, List.Forall₂ (Accepts phcColumns) (o.rows iteration) points
      ∧ points.flatMap Option.toList = [s.point] := by
  refine ⟨(validSamples o.samples).map fun entry =>
    if decide (entry.1 = o.selected) then some entry.2.point else none, ?_, ?_⟩
  · rw [Observation.rows, List.forall₂_map_left_iff, List.forall₂_map_right_iff, List.forall₂_same]
    intro entry hentry
    have := index_lt_of_mem_validSamples hentry
    have := h.length
    exact accepts_sampleFields (h.sound entry hentry) hiteration (by omega) _
  · have hselected : ∀ entries : List (Nat × PhcSample),
        (entries.map fun entry => if decide (entry.1 = o.selected) then some entry.2.point else none
          ).flatMap Option.toList
        = (entries.filter fun entry => entry.1 = o.selected).map fun entry => entry.2.point := by
      intro entries
      induction entries with
      | nil => rfl
      | cons entry entries ih =>
        rw [List.map_cons, List.flatMap_cons, ih]
        by_cases heq : entry.1 = o.selected
        · simp [heq]
        · simp [heq]
    rw [hselected, filter_selected h.chosen]
    rfl

/-- **The file of a capture is read back**, one point for each iteration. -/
theorem loadCalibrationRows_capture {observations : List Observation} {chosen : List PhcSample}
    (h : List.Forall₂ Observation.Marks observations chosen) :
    ∀ first, first + observations.length ≤ 0x100000000 →
      ∃ points, List.Forall₂ (Accepts phcColumns)
          ((observations.zipIdx first).flatMap fun entry => entry.1.rows entry.2) points
        ∧ points.flatMap Option.toList = chosen.map PhcSample.point := by
  induction h with
  | nil => exact fun _ _ => ⟨[], .nil, rfl⟩
  | cons hmarks _ ih =>
    intro first hbound
    rw [List.length_cons] at hbound
    obtain ⟨points, hpoints, hpoint⟩ := accepts_rows hmarks first (by omega)
    obtain ⟨rest, hrest, hchosen⟩ := ih (first + 1) (by omega)
    refine ⟨points ++ rest, ?_, ?_⟩
    · rw [List.zipIdx_cons, List.flatMap_cons]
      exact List.rel_append hpoints hrest
    · rw [List.flatMap_append, hpoint, hchosen]
      rfl

theorem loadCalibrationFile_capture {comment : Text}
    (hline : ∀ c ∈ comment, c ≠ '\n' ∧ c ≠ '\r') (hcomment : comment.head? = some '#')
    {observations : List Observation} {chosen : List PhcSample}
    (h : List.Forall₂ Observation.Marks observations chosen) (hne : observations ≠ [])
    (hbound : observations.length ≤ 0x100000000) (path : Path) :
    loadCalibrationFile ⟨path, some (captureText (comment ++ ['\n']) observations)⟩
      = .ok (⟨path, (captureRows observations).length, observations.length⟩,
          chosen.map PhcSample.point) := by
  obtain ⟨points, hpoints, hchosen⟩ := loadCalibrationRows_capture h 0 (by omega)
  have hlength := h.length_eq
  have hchosenne : chosen.map PhcSample.point ≠ [] := by
    intro hnil
    rw [List.map_eq_nil_iff] at hnil
    subst hnil
    exact hne (List.eq_nil_of_length_eq_zero hlength)
  refine loadCalibrationFile_eq_ok.mpr
    ⟨_, readTable_captureText hline hcomment observations,
      loadCalibrationTable_eq_ok.mpr
        ⟨_, ⟨hchosenne, phcColumns, ?_, points, hpoints, hchosen.symm⟩, ?_⟩⟩
  · rfl
  · rw [List.length_map, hlength]

/-! ## The shortest span

`phc_calibrate` keeps the first of the samples with the shortest span. -/

/-- Induction on the readings. The best index is the one handed in while no span is shorter than the
best one, else that of the shortest span. -/
theorem scanBatch_spec (readings : List PtpReading) (i : Nat) (bestSpan : Int) (bestIndex : Nat) :
    (scanBatch i bestSpan bestIndex readings).1 = readings.map readSample
    ∧ (((scanBatch i bestSpan bestIndex readings).2 = bestIndex
          ∧ ∀ s, some s ∈ readings.map readSample → bestSpan ≤ s.spanNs)
      ∨ ∃ k s, (readings.map readSample)[k]? = some (some s)
          ∧ (scanBatch i bestSpan bestIndex readings).2 = i + k ∧ s.spanNs < bestSpan
          ∧ ∀ s', some s' ∈ readings.map readSample → s.spanNs ≤ s'.spanNs) := by
  induction readings generalizing i bestSpan bestIndex with
  | nil => exact ⟨rfl, .inl ⟨rfl, fun s hs => absurd hs List.not_mem_nil⟩⟩
  | cons reading rest ih =>
    rw [List.map_cons, scanBatch]
    cases hread : readSample reading with
    | none =>
      dsimp only
      obtain ⟨hsamples, hindex⟩ := ih (i + 1) bestSpan bestIndex
      refine ⟨by rw [hsamples], ?_⟩
      rcases hindex with ⟨hkeep, hlong⟩ | ⟨k, s, hk, hbest, hshort, hmin⟩
      · refine .inl ⟨hkeep, fun s hs => hlong s ?_⟩
        exact (List.mem_cons.mp hs).resolve_left (by simp)
      · refine .inr ⟨k + 1, s, hk, by rw [hbest]; omega, hshort, fun s' hs' => hmin s' ?_⟩
        exact (List.mem_cons.mp hs').resolve_left (by simp)
    | some sample =>
      dsimp only
      split
      case isTrue hlt =>
        obtain ⟨hsamples, hindex⟩ := ih (i + 1) sample.spanNs i
        refine ⟨by rw [hsamples], .inr ?_⟩
        rcases hindex with ⟨hkeep, hlong⟩ | ⟨k, s, hk, hbest, hshort, hmin⟩
        · refine ⟨0, sample, rfl, hkeep, hlt, fun s' hs' => ?_⟩
          rcases List.mem_cons.mp hs' with heq | hs'
          · rw [Option.some.inj heq]
          · exact hlong s' hs'
        · refine ⟨k + 1, s, hk, by rw [hbest]; omega, by omega, fun s' hs' => ?_⟩
          rcases List.mem_cons.mp hs' with heq | hs'
          · rw [Option.some.inj heq]
            omega
          · exact hmin s' hs'
      case isFalse hge =>
        obtain ⟨hsamples, hindex⟩ := ih (i + 1) bestSpan bestIndex
        refine ⟨by rw [hsamples], ?_⟩
        rcases hindex with ⟨hkeep, hlong⟩ | ⟨k, s, hk, hbest, hshort, hmin⟩
        · refine .inl ⟨hkeep, fun s' hs' => ?_⟩
          rcases List.mem_cons.mp hs' with heq | hs'
          · rw [Option.some.inj heq]
            omega
          · exact hlong s' hs'
        · refine .inr ⟨k + 1, s, hk, by rw [hbest]; omega, hshort, fun s' hs' => ?_⟩
          rcases List.mem_cons.mp hs' with heq | hs'
          · rw [Option.some.inj heq]
            omega
          · exact hmin s' hs'

theorem collectBatch_eq_some {readings : List PtpReading}
    {result : List (Option PhcSample) × Nat} (h : collectBatch readings = some result) :
    result = scanBatch 0 int64Max 0 readings ∧ ∃ s, some s ∈ readings.map readSample := by
  rw [collectBatch] at h
  split at h <;> cases h
  rename_i hsome
  refine ⟨rfl, ?_⟩
  rw [(scanBatch_spec readings 0 int64Max 0).1, List.all_eq_true] at hsome
  push Not at hsome
  obtain ⟨sample, hmem, hsample⟩ := hsome
  cases sample with
  | none => exact absurd rfl hsample
  | some s => exact ⟨s, hmem⟩

/-! ## The median

`phc_track` sorts by offset and takes the one in the middle. -/

/-- The order of `median_sample`. -/
def PhcSample.key (s : PhcSample) : Int ×ₗ Int := toLex (s.offsetNs, s.spanNs)

theorem PhcSample.behind_iff (a b : PhcSample) : a.behind b = true ↔ b.key < a.key := by
  simp only [behind, key, Prod.Lex.toLex_lt_toLex, Bool.or_eq_true, Bool.and_eq_true,
    decide_eq_true_eq]
  constructor
  · rintro (h | ⟨h, h'⟩)
    · exact .inl h
    · exact .inr ⟨h.symm, h'⟩
  · rintro (h | ⟨h, h'⟩)
    · exact .inl h
    · exact .inr ⟨h.symm, h'⟩

/-- The samples in order. -/
def Ordered (order : List (Nat × PhcSample)) : Prop := order.Pairwise fun a b => a.2.key ≤ b.2.key

section Insert

variable {order : List (Nat × PhcSample)} {entry : Nat × PhcSample}

theorem insertOrder_perm (order : List (Nat × PhcSample)) (entry : Nat × PhcSample) :
    (insertOrder order entry).Perm (entry :: order) := by
  have hsplit := congrArg List.reverse
    (List.takeWhile_append_dropWhile (p := fun other => other.2.behind entry.2) (l := order.reverse))
  rw [List.reverse_append, List.reverse_reverse] at hsplit
  refine List.perm_middle.trans ?_
  rw [hsplit]

theorem ordered_insertOrder (h : Ordered order) (entry : Nat × PhcSample) :
    Ordered (insertOrder order entry) := by
  have hsplit := congrArg List.reverse
    (List.takeWhile_append_dropWhile (p := fun other => other.2.behind entry.2) (l := order.reverse))
  rw [List.reverse_append, List.reverse_reverse] at hsplit
  have hpairs := h
  rw [Ordered, ← hsplit, List.pairwise_append] at hpairs
  obtain ⟨hlow, hhigh, hcross⟩ := hpairs
  have hafter : ∀ b ∈ (order.reverse.takeWhile fun other => other.2.behind entry.2).reverse,
      entry.2.key ≤ b.2.key := by
    intro b hb
    have hbehind := List.all_eq_true.mp List.all_takeWhile b (List.mem_reverse.mp hb)
    exact ((PhcSample.behind_iff _ _).mp hbehind).le
  have hbefore : ∀ a ∈ (order.reverse.dropWhile fun other => other.2.behind entry.2).reverse,
      a.2.key ≤ entry.2.key := by
    intro a ha
    have hmem := List.mem_reverse.mp ha
    cases hdrop : order.reverse.dropWhile fun other => other.2.behind entry.2 with
    | nil =>
      rw [hdrop] at hmem
      cases hmem
    | cons last rest =>
      -- the entry before the gap is not behind the new one, and it is the last of its part
      have hlast : last.2.key ≤ entry.2.key := by
        have hhead := List.head_dropWhile_not (fun other : Nat × PhcSample => other.2.behind entry.2)
          (l := order.reverse) (by rw [hdrop]; exact List.cons_ne_nil _ _)
        simp only [hdrop, List.head_cons] at hhead
        exact not_lt.mp fun hlt => by
          rw [(PhcSample.behind_iff last.2 entry.2).mpr hlt] at hhead
          cases hhead
      rw [hdrop] at hmem hlow
      rw [List.reverse_cons, List.pairwise_append] at hlow
      rcases List.mem_cons.mp hmem with rfl | hrest
      · exact hlast
      · exact (hlow.2.2 a (List.mem_reverse.mpr hrest) last List.mem_cons_self).trans hlast
  rw [Ordered, insertOrder, List.pairwise_append, List.pairwise_cons]
  refine ⟨hlow, ⟨hafter, hhigh⟩, fun a ha b hb => ?_⟩
  rcases List.mem_cons.mp hb with rfl | hb
  · exact hbefore a ha
  · exact hcross a ha b hb

end Insert

theorem foldl_insertOrder (entries : List (Nat × PhcSample)) :
    ∀ order : List (Nat × PhcSample), Ordered order →
      Ordered (entries.foldl insertOrder order)
        ∧ (entries.foldl insertOrder order).Perm (order ++ entries) := by
  induction entries with
  | nil => exact fun order h => ⟨h, by simp⟩
  | cons entry entries ih =>
    intro order h
    obtain ⟨hordered, hperm⟩ := ih _ (ordered_insertOrder h entry)
    refine ⟨hordered, hperm.trans ?_⟩
    refine ((insertOrder_perm order entry).append_right entries).trans ?_
    exact List.perm_middle.symm

theorem medianOrder_spec (samples : List (Option PhcSample)) :
    Ordered (medianOrder samples) ∧ (medianOrder samples).Perm (validSamples samples) := by
  have h := foldl_insertOrder (validSamples samples) [] .nil
  rwa [List.nil_append] at h

/-! ## The marked rows

In the file, the row of the marked sample is the only one of its iteration with a mark. -/

/-- A row of an iteration that is marked as selected. -/
def isMarked (iteration : Nat) (row : List Text) : Bool :=
  row.head? = some (natText iteration) && row.getLast? = some (natText 1)

theorem isMarked_sampleFields (iteration iteration' index : Nat) (s : PhcSample) (selected : Bool) :
    isMarked iteration (sampleFields iteration' index s selected)
      = (decide (iteration' = iteration) && selected) := by
  have hiteration : natText iteration' = natText iteration ↔ iteration' = iteration :=
    natText_injective.eq_iff
  have hselected : natText selected.toNat = natText 1 ↔ selected = true := by
    rw [natText_injective.eq_iff]
    cases selected <;> simp
  simp [isMarked, sampleFields, hiteration, hselected]

theorem filter_isMarked_rows {o : Observation} {s : PhcSample} (h : o.Marks s)
    (iteration iteration' : Nat) :
    (o.rows iteration').filter (isMarked iteration)
      = if iteration' = iteration then [sampleFields iteration o.selected s true] else [] := by
  rw [Observation.rows, List.filter_map]
  by_cases heq : iteration' = iteration
  · subst heq
    have hmarked : (isMarked iteration' ∘ fun entry : Nat × PhcSample =>
        sampleFields iteration' entry.1 entry.2 (entry.1 = o.selected))
        = fun entry => decide (entry.1 = o.selected) := by
      funext entry
      simp [isMarked_sampleFields]
    rw [hmarked, filter_selected h.chosen, if_pos rfl]
    simp
  · have hmarked : (isMarked iteration ∘ fun entry : Nat × PhcSample =>
        sampleFields iteration' entry.1 entry.2 (entry.1 = o.selected)) = fun _ => false := by
      funext entry
      simp [isMarked_sampleFields, heq]
    rw [hmarked, if_neg heq]
    simp

/-- Exactly one row of each iteration is marked. Induction on the observations. -/
theorem filter_isMarked_capture {observations : List Observation} {chosen : List PhcSample}
    (h : List.Forall₂ Observation.Marks observations chosen) (iteration : Nat) :
    ∀ first, ((observations.zipIdx first).flatMap fun entry => entry.1.rows entry.2).filter
        (isMarked iteration)
      = if first ≤ iteration then
          match observations[iteration - first]?, chosen[iteration - first]? with
          | some o, some s => [sampleFields iteration o.selected s true]
          | _, _ => []
        else [] := by
  induction h with
  | nil => simp
  | cons hmarks _ ih =>
    intro first
    rw [List.zipIdx_cons, List.flatMap_cons, List.filter_append, ih (first + 1),
      filter_isMarked_rows hmarks iteration first]
    rcases lt_trichotomy first iteration with hlt | rfl | hgt
    · have hnext : iteration - first = (iteration - (first + 1)) + 1 := by omega
      rw [if_neg (by omega), if_pos (by omega), if_pos (by omega), hnext]
      rfl
    · rw [if_pos rfl, if_neg (by omega), if_pos le_rfl, Nat.sub_self]
      rfl
    · rw [if_neg (by omega), if_neg (by omega), if_neg (by omega)]
      rfl

/-! ## Both programs

What the analyser makes of the captures of the two programs. -/

/-- A sample of the batch, in exact arithmetic. -/
def SampleOf (batch : List PtpReading) (s : PhcSample) : Prop :=
  ∃ reading ∈ batch, readSample reading = some s ∧ s.Sound ∧ s.Of reading

/-- What `phc_calibrate` marks. -/
def ShortestSpan (batch : List PtpReading) (s : PhcSample) : Prop :=
  SampleOf batch s ∧ ∀ reading ∈ batch, ∀ s', readSample reading = some s' → s.spanNs ≤ s'.spanNs

/-- What `phc_track` marks: the upper median of the valid samples by offset and span. -/
def UpperMedian (batch : List PtpReading) (s : PhcSample) : Prop :=
  SampleOf batch s ∧ ∃ order : List PhcSample, order.Perm (batch.filterMap readSample)
    ∧ order.Pairwise (fun a b => a.key ≤ b.key) ∧ order[order.length / 2]? = some s

/-- The analyser takes the text: every row is accepted, one row of each iteration is selected, and
the points are those of the chosen samples. -/
structure CaptureLoads (path : Path) (text : Text) (chosen : List PhcSample) : Prop where
  rows : ∃ rows, (CalibrationInput.mk path (some text)).table = some ⟨some phcColumns, rows⟩
    ∧ (∃ points, List.Forall₂ (Accepts phcColumns) rows points)
    ∧ ∀ (iteration : Nat) s, chosen[iteration]? = some s →
      ∃ index, rows.filter (isMarked iteration) = [sampleFields iteration index s true]
  file : chosen ≠ [] → ∃ rows,
    loadCalibrationFile ⟨path, some text⟩
      = .ok (⟨path, rows, chosen.length⟩, chosen.map PhcSample.point)
  merged : chosen ≠ [] → (chosen.map fun s => s.point.monotonicNs).Nodup → ∃ c,
    loadCalibration [⟨path, some text⟩] = .ok c ∧ c.points.Perm (chosen.map PhcSample.point)

theorem captureLoads {comment : Text} (hline : ∀ c ∈ comment, c ≠ '\n' ∧ c ≠ '\r')
    (hcomment : comment.head? = some '#') {observations : List Observation}
    {chosen : List PhcSample} (h : List.Forall₂ Observation.Marks observations chosen)
    (hbound : observations.length ≤ 0x100000000) (path : Path) :
    CaptureLoads path (captureText (comment ++ ['\n']) observations) chosen := by
  have hload (hne : chosen ≠ []) := loadCalibrationFile_capture hline hcomment h
    (fun hnil => by
      subst hnil
      cases h
      exact hne rfl)
    hbound path
  refine ⟨⟨_, readTable_captureText hline hcomment observations, ?_, ?_⟩, ?_, ?_⟩
  · obtain ⟨points, hpoints, -⟩ := loadCalibrationRows_capture h 0 (by omega)
    exact ⟨points, hpoints⟩
  · intro iteration s hs
    obtain ⟨hlt, -⟩ := List.getElem?_eq_some_iff.mp hs
    rw [← h.length_eq] at hlt
    refine ⟨(observations[iteration]).selected, ?_⟩
    have hmarked := filter_isMarked_capture h iteration 0
    rwa [if_pos (Nat.zero_le _), Nat.sub_zero, List.getElem?_eq_getElem hlt, hs] at hmarked
  · intro hne
    exact ⟨_, h.length_eq ▸ hload hne⟩
  · intro hne hdistinct
    have hmap : List.mapM loadCalibrationFile
        [⟨path, some (captureText (comment ++ ['\n']) observations)⟩] = .ok [_] :=
      mapM_eq_ok.mpr (.cons (hload hne) .nil)
    have hselected : allSelected [((⟨path, (captureRows observations).length,
        observations.length⟩ : CalibrationFile), chosen.map PhcSample.point)]
        = chosen.map PhcSample.point := by simp [allSelected]
    rcases loadCalibration_of_loaded (List.cons_ne_nil _ _) hmap with hok | ⟨-, hconflict⟩
    · obtain ⟨c, hc, hincreasing, hmem, -⟩ := hok
      refine ⟨c, hc, (List.perm_ext_iff_of_nodup (nodup_times hincreasing).of_map ?_).mpr ?_⟩
      · refine List.Nodup.of_map CalibrationPoint.monotonicNs ?_
        rwa [List.map_map]
      · intro p
        rw [hmem, hselected]
    · rw [hselected] at hconflict
      obtain ⟨p, hp, q, hq, htime, hoffset⟩ := hconflict
      refine absurd (congrArg CalibrationPoint.offsetNs ?_) hoffset
      refine List.inj_on_of_nodup_map ?_ hp hq htime
      rwa [List.map_map]

/-- A batch as the programs take them. -/
structure BatchOk (batch : List PtpReading) : Prop where
  length : batch.length ≤ 25
  bounded : ∀ reading ∈ batch, reading.Bounded

theorem BatchOk.sampleOf {batch : List PtpReading} (h : BatchOk batch) {s : PhcSample}
    (hs : some s ∈ batch.map readSample) : SampleOf batch s := by
  obtain ⟨reading, hreading, hread⟩ := List.mem_map.mp hs
  obtain ⟨hsound, hof⟩ := readSample_sound (h.bounded reading hreading) hread
  exact ⟨reading, hreading, hread, hsound, hof⟩

theorem BatchOk.marks {batch : List PtpReading} (h : BatchOk batch) {index : Nat} {s : PhcSample}
    (hindex : (batch.map readSample)[index]? = some (some s)) :
    Observation.Marks ⟨batch.map readSample, index⟩ s where
  chosen := hindex
  sound := by
    intro entry hentry
    obtain ⟨-, -, -, hsound, -⟩ := h.sampleOf
      (List.mem_of_getElem? (mem_validSamples.mp (show (entry.1, entry.2) ∈ _ from hentry)))
    exact hsound
  length := by
    have := h.length
    simp only [List.length_map]
    omega

/-- The best index of `collect_batch`. -/
theorem collectBatch_marks {batch : List PtpReading} (h : BatchOk batch)
    {result : List (Option PhcSample) × Nat} (hcollect : collectBatch batch = some result) :
    ∃ s, Observation.Marks ⟨result.1, result.2⟩ s ∧ ShortestSpan batch s := by
  obtain ⟨rfl, valid, hvalid⟩ := collectBatch_eq_some hcollect
  obtain ⟨hsamples, hindex⟩ := scanBatch_spec batch 0 int64Max 0
  rw [hsamples]
  rcases hindex with ⟨-, hlong⟩ | ⟨k, s, hk, hbest, -, hmin⟩
  · obtain ⟨-, -, -, hsound, -⟩ := h.sampleOf hvalid
    have hlongest : 0x7fffffffffffffff ≤ valid.spanNs := hlong valid hvalid
    have := hsound.span
    have := hsound.before
    have := hsound.after
    omega
  · rw [hbest, Nat.zero_add]
    refine ⟨s, h.marks hk, h.sampleOf (List.mem_of_getElem? hk), fun reading hreading s' hs' => ?_⟩
    exact hmin s' (hs' ▸ List.mem_map_of_mem hreading)

theorem map_snd_validSamples (samples : List (Option PhcSample)) :
    (validSamples samples).map Prod.snd = samples.filterMap id := by
  rw [validSamples, List.map_filterMap]
  conv_rhs => rw [← List.zipIdx_map_fst 0 samples, List.filterMap_map]
  refine List.filterMap_congr fun entry _ => ?_
  obtain ⟨sample, index⟩ := entry
  cases sample <;> rfl

/-- The median of a batch with a valid sample. -/
theorem medianSample_marks {batch : List PtpReading} (h : BatchOk batch) {s₀ : PhcSample}
    (hvalid : some s₀ ∈ batch.map readSample) :
    ∃ s, Observation.Marks ⟨batch.map readSample, medianSample (batch.map readSample)⟩ s
      ∧ UpperMedian batch s := by
  obtain ⟨hordered, hperm⟩ := medianOrder_spec (batch.map readSample)
  obtain ⟨k, hk⟩ := List.getElem?_of_mem hvalid
  have hne : 0 < (medianOrder (batch.map readSample)).length := by
    rw [hperm.length_eq]
    exact List.length_pos_of_mem (mem_validSamples.mpr hk)
  have hlt : (medianOrder (batch.map readSample)).length / 2
      < (medianOrder (batch.map readSample)).length := by omega
  have hentry := List.getElem?_eq_getElem hlt
  generalize hmedian : (medianOrder (batch.map readSample))[
    (medianOrder (batch.map readSample)).length / 2] = entry at hentry
  have hmem : entry ∈ validSamples (batch.map readSample) :=
    hperm.mem_iff.mp (List.mem_of_getElem? hentry)
  have hindex : medianSample (batch.map readSample) = entry.1 := by
    rw [medianSample, hentry]
    rfl
  have hchosen := mem_validSamples.mp (show (entry.1, entry.2) ∈ _ from hmem)
  refine ⟨entry.2, hindex ▸ h.marks hchosen, h.sampleOf (List.mem_of_getElem? hchosen),
    (medianOrder (batch.map readSample)).map Prod.snd, ?_, List.pairwise_map.mpr hordered, ?_⟩
  · have hsamples := hperm.map Prod.snd
    rwa [map_snd_validSamples, List.filterMap_map] at hsamples
  · rw [List.length_map, List.getElem?_map, hentry]
    rfl

theorem calibrateLoop_marks {batches : List (List PtpReading)} (hok : ∀ batch ∈ batches, BatchOk batch)
    (hvalid : ∀ batch ∈ batches, ∃ reading ∈ batch, (readSample reading).isSome) :
    (calibrateLoop batches).2 = true ∧ ∃ chosen,
      List.Forall₂ Observation.Marks (calibrateLoop batches).1 chosen
        ∧ List.Forall₂ ShortestSpan batches chosen := by
  induction batches with
  | nil => exact ⟨rfl, [], .nil, .nil⟩
  | cons batch batches ih =>
    obtain ⟨hdone, chosen, hmarks, hshortest⟩ :=
      ih (fun b hb => hok b (List.mem_cons_of_mem _ hb))
        fun b hb => hvalid b (List.mem_cons_of_mem _ hb)
    obtain ⟨reading, hreading, hsome⟩ := hvalid batch List.mem_cons_self
    have hcollect : collectBatch batch = some (scanBatch 0 int64Max 0 batch) := by
      refine if_neg fun hnone => ?_
      rw [(scanBatch_spec batch 0 int64Max 0).1] at hnone
      have := List.all_eq_true.mp hnone _ (List.mem_map_of_mem hreading)
      simp_all
    obtain ⟨s, hs, hspan⟩ := collectBatch_marks (hok batch List.mem_cons_self) hcollect
    rw [calibrateLoop, hcollect]
    exact ⟨hdone, s :: chosen, .cons hs hmarks, .cons hspan hshortest⟩

/-! ### The iterations that `phc_track` keeps

A turn of the loop is kept when its batch has a valid reading and the clocks beside it can be read.
The loop ends behind the first turn that cannot be completed, or when the room is used up; the turns
themselves say which. -/

namespace TrackTurn

variable (turn : TrackTurn)

/-- The readings of the turn, when there is a valid one among them. -/
def batch : Option (List PtpReading) :=
  turn.readings.filter fun readings => readings.any fun reading => (readSample reading).isSome

/-- The batch of an iteration that is kept. -/
def kept : Option (List PtpReading) := if turn.clocksRead then turn.batch else none

/-- The loop goes on: it has slept, and a batch was recorded and reported as ready. -/
def goesOn (ready : Bool) : Bool :=
  turn.slept && (turn.batch.isNone || turn.clocksRead && (ready || turn.readyPublished))

end TrackTurn

/-- The turns up to the one that ends the loop. -/
def turnsTaken (ready : Bool) : List TrackTurn → List TrackTurn
  | [] => []
  | turn :: rest =>
    turn :: if turn.goesOn ready then turnsTaken (ready || turn.kept.isSome) rest else []

/-- The batches of the iterations in the file. -/
def keptBatches (budgetMs : Nat) (turns : List TrackTurn) : List (List PtpReading) :=
  ((turnsTaken false turns).filterMap TrackTurn.kept).take (budgetMs / 100 + 3)

theorem collectBatch_isSome (readings : List PtpReading) :
    (collectBatch readings).isSome = readings.any fun reading => (readSample reading).isSome := by
  have hall : (readings.map readSample).all Option.isNone
      = !readings.any fun reading => (readSample reading).isSome := by
    rw [List.all_map, List.any_eq_not_all_not, Bool.not_not]
    congr 1
    funext reading
    cases hread : readSample reading <;> simp [hread]
  rw [collectBatch, (scanBatch_spec readings 0 int64Max 0).1, hall]
  cases readings.any fun reading => (readSample reading).isSome <;> rfl

theorem TrackTurn.bind_collectBatch_eq_none {turn : TrackTurn} :
    turn.readings.bind collectBatch = none ↔ turn.batch = none := by
  unfold batch
  cases turn.readings with
  | none => simp
  | some readings =>
    rw [Option.bind_some, Option.filter_some, ← collectBatch_isSome]
    cases collectBatch readings <;> simp

theorem TrackTurn.readings_of_batch {turn : TrackTurn} {readings : List PtpReading}
    (h : turn.batch = some readings) : turn.readings = some readings :=
  (Option.filter_eq_some_iff.mp h).1

/-- What a run of the loop adds to the observations: the medians of the batches kept. -/
def TrackKeeps (capacity : Nat) (ready : Bool) (turns : List TrackTurn)
    (kept result : List Observation) : Prop :=
  ∃ new chosen, result = kept ++ new ∧ result.length ≤ capacity
    ∧ List.Forall₂ Observation.Marks new chosen
    ∧ List.Forall₂ UpperMedian
      (((turnsTaken ready turns).filterMap TrackTurn.kept).take (capacity - kept.length)) chosen

section Track

variable {capacity : Nat} {ready : Bool} {turn : TrackTurn} {turns : List TrackTurn}
  {kept result : List Observation}

theorem TrackKeeps.nothing (h : kept.length ≤ capacity)
    (hnone : ((turnsTaken ready turns).filterMap TrackTurn.kept).take (capacity - kept.length) = []) :
    TrackKeeps capacity ready turns kept kept :=
  ⟨[], [], by simp, h, .nil, by rw [hnone]; exact .nil⟩

theorem TrackKeeps.full (h : kept.length ≤ capacity) (hfull : capacity ≤ kept.length) :
    TrackKeeps capacity ready turns kept kept := by
  refine .nothing h ?_
  rw [Nat.sub_eq_zero_of_le hfull, List.take_zero]

/-- A turn without a batch to keep that ends the loop. -/
theorem TrackKeeps.stop (h : kept.length ≤ capacity) (hkept : turn.kept = none)
    (hstop : turn.goesOn ready = false) : TrackKeeps capacity ready (turn :: turns) kept kept := by
  refine .nothing h ?_
  rw [turnsTaken, hstop, List.filterMap_cons_none hkept]
  simp

theorem TrackKeeps.skip (hkept : turn.kept = none) (hgo : turn.goesOn ready = true)
    (h : TrackKeeps capacity ready turns kept result) :
    TrackKeeps capacity ready (turn :: turns) kept result := by
  unfold TrackKeeps
  rw [turnsTaken, hgo, List.filterMap_cons_none hkept, hkept]
  simpa [TrackKeeps] using h

theorem TrackKeeps.observe {batch : List PtpReading} {o : Observation} {s : PhcSample}
    (hroom : kept.length < capacity) (hkept : turn.kept = some batch) (hmarks : o.Marks s)
    (hmedian : UpperMedian batch s)
    (h : if turn.goesOn ready then TrackKeeps capacity true turns (kept ++ [o]) result
      else result = kept ++ [o]) :
    TrackKeeps capacity ready (turn :: turns) kept result := by
  have hleft : capacity - kept.length = capacity - (kept ++ [o]).length + 1 := by
    rw [List.length_append, List.length_singleton]
    omega
  unfold TrackKeeps
  rw [turnsTaken, List.filterMap_cons_some hkept, hkept, hleft, List.take_succ_cons]
  split at h
  · rename_i hgo
    obtain ⟨new, chosen, hnew, hlength, hrest, hmedians⟩ := h
    rw [if_pos hgo, Option.isSome_some, Bool.or_true]
    refine ⟨o :: new, s :: chosen, ?_, hlength, .cons hmarks hrest, .cons hmedian hmedians⟩
    rw [hnew, List.append_assoc, List.singleton_append]
  · rename_i hstop
    rw [if_neg hstop, List.filterMap_nil, List.take_nil]
    refine ⟨[o], [s], h, ?_, .cons hmarks .nil, .cons hmedian .nil⟩
    rw [h, List.length_append, List.length_singleton]
    exact hroom

end Track

theorem trackLoop_keeps (capacity : Nat) {turns : List TrackTurn}
    (hok : ∀ turn ∈ turns, ∀ batch, turn.readings = some batch → BatchOk batch) :
    ∀ ready kept, kept.length ≤ capacity →
      TrackKeeps capacity ready turns kept (trackLoop capacity ready kept turns) := by
  induction turns with
  | nil => exact fun _ _ h => .nothing h (by simp [turnsTaken])
  | cons turn turns ih =>
    intro ready kept hle
    have hrest := ih fun turn hturn => hok turn (List.mem_cons_of_mem _ hturn)
    rw [trackLoop]
    split
    · rename_i hfull
      exact .full hle hfull
    rename_i hroom
    split
    · rename_i hnone
      have hbatch := TrackTurn.bind_collectBatch_eq_none.mp hnone
      have hkept : turn.kept = none := by simp [TrackTurn.kept, hbatch]
      split
      · rename_i hslept
        exact .skip hkept (by simp [TrackTurn.goesOn, hbatch, hslept]) (hrest ready kept hle)
      · rename_i hslept
        exact .stop hle hkept (by simp [TrackTurn.goesOn, hslept])
    · rename_i samples bestIndex hcollect
      have hsome : turn.batch ≠ none := by
        rw [Ne, ← TrackTurn.bind_collectBatch_eq_none, hcollect]
        exact Option.some_ne_none _
      obtain ⟨batch, hbatch⟩ := Option.ne_none_iff_exists'.mp hsome
      have hreadings := TrackTurn.readings_of_batch hbatch
      split
      · rename_i hclocks
        have hclocks : turn.clocksRead = false := by simpa using hclocks
        exact .stop hle (by simp [TrackTurn.kept, hclocks])
          (by simp [TrackTurn.goesOn, hclocks, hbatch])
      rename_i hclocks
      have hclocks : turn.clocksRead = true := by simpa using hclocks
      rw [hreadings, Option.bind_some] at hcollect
      obtain ⟨hresult, s₀, hs₀⟩ := collectBatch_eq_some hcollect
      have hsamples : samples = batch.map readSample := by
        rw [← (scanBatch_spec batch 0 int64Max 0).1, ← hresult]
      subst hsamples
      obtain ⟨s, hs, hmedian⟩ :=
        medianSample_marks (hok turn List.mem_cons_self batch hreadings) hs₀
      have hone (o : Observation) : (kept ++ [o]).length ≤ capacity := by
        rw [List.length_append, List.length_singleton]
        omega
      refine .observe (Nat.lt_of_not_le hroom) (by simp [TrackTurn.kept, hclocks, hbatch]) hs
        hmedian ?_
      dsimp only
      -- the loop ends where the turn does not go on: `ready` was not published, or the sleep failed
      by_cases hready : (!ready && !turn.readyPublished) = true
      · rw [if_pos hready, if_neg (by simp_all [TrackTurn.goesOn])]
      · have hreported : ready = true ∨ turn.readyPublished = true := by
          cases ready <;> simp_all
        rw [if_neg hready]
        cases hslept : turn.slept with
        | false => rw [if_neg (by simp [TrackTurn.goesOn, hslept])]; rfl
        | true =>
          rw [if_pos (by simp [TrackTurn.goesOn, hslept, hbatch, hclocks, hreported])]
          exact hrest true _ (hone _)

/-- The captures of both programs. Every row that `phc_calibrate` and `phc_track` write is accepted
by the analyser; one row of each iteration is selected, a sample with the shortest span or the upper
median of the batch kept; and the points are those of the selected samples. -/
theorem phc_capture_accepted (path : Path) :
    (∀ (device : PhcDevice) (batches : List (List PtpReading)), batches ≠ [] →
      batches.length ≤ 1000000 → (∀ batch ∈ batches, BatchOk batch) →
      (∀ batch ∈ batches, ∃ reading ∈ batch, (readSample reading).isSome) →
      (phcCalibrate device batches).2 = true ∧ ∃ chosen, chosen ≠ []
        ∧ List.Forall₂ ShortestSpan batches chosen
        ∧ CaptureLoads path (phcCalibrate device batches).1 chosen)
    ∧ ∀ (budgetMs : Nat) (turns : List TrackTurn), budgetMs ≤ 172800000 →
      (∀ turn ∈ turns, ∀ batch, turn.readings = some batch → BatchOk batch) →
      ∃ chosen, List.Forall₂ UpperMedian (keptBatches budgetMs turns) chosen
        ∧ CaptureLoads path (phcTrack budgetMs turns) chosen := by
  refine ⟨?_, ?_⟩
  · intro device batches hne hcount hok hvalid
    obtain ⟨hdone, chosen, hmarks, hshortest⟩ := calibrateLoop_marks hok hvalid
    refine ⟨hdone, chosen, ?_, hshortest, ?_⟩
    · rintro rfl
      cases hshortest
      exact hne rfl
    · have hcomment : calibrateComment device = ("# device=".toList ++ device.path
          ++ " clock=CLOCK_MONOTONIC offset=phc-minus-monotonic".toList) ++ ['\n'] := by
        rw [List.append_assoc _ _ ['\n']]
        rfl
      have hstart : ∀ c ∈ "# device=".toList, c ≠ '\n' ∧ c ≠ '\r' := by decide
      have hend : ∀ c ∈ " clock=CLOCK_MONOTONIC offset=phc-minus-monotonic".toList,
          c ≠ '\n' ∧ c ≠ '\r' := by decide
      rw [phcCalibrate, hcomment]
      refine captureLoads ?_ rfl hmarks ?_ path
      · intro c hc
        rcases List.mem_append.mp hc with hc | hc
        · rcases List.mem_append.mp hc with hc | hc
          · exact hstart c hc
          · exact device.oneLine c hc
        · exact hend c hc
      · rw [hmarks.length_eq, ← hshortest.length_eq]
        omega
  · intro budgetMs turns hbudget hok
    obtain ⟨new, chosen, hnew, hlength, hmarks, hmedian⟩ :=
      trackLoop_keeps (budgetMs / 100 + 3) hok false [] (Nat.zero_le _)
    rw [List.nil_append] at hnew
    refine ⟨chosen, hmedian, ?_⟩
    have hcomment : trackComment = ("# clock=CLOCK_MONOTONIC offset=phc-minus-monotonic".toList
        ++ " selection=median-offset-observed-sample interval_ms=100".toList) ++ ['\n'] := by
      decide
    rw [phcTrack, hcomment, hnew]
    refine captureLoads (by decide) (by decide) hmarks ?_ path
    rw [hnew] at hlength
    omega

/-! ## Two captures

The same batch through both programs, with the turns of `phc_track` that record nothing. -/

instance (t : PtpClockTime) : Decidable t.Bounded := inferInstanceAs (Decidable (_ → _))

instance (r : PtpReading) : Decidable r.Bounded := inferInstanceAs (Decidable (_ ∧ _))

/-- The system clock before and after, and the PHC between them, in nanoseconds. -/
def readingOf (before phc after : UInt32) : PtpReading := ⟨⟨0, before⟩, ⟨0, phc⟩, ⟨0, after⟩⟩

/-- Three valid readings with spans of 30, 10 and 20 ns, and one whose nanoseconds are no part of a
second. -/
def mixedBatch : List PtpReading :=
  [readingOf 100 700 130, readingOf 200 800 210, readingOf 5 5 1000000000, readingOf 300 915 320]

def invalidBatch : List PtpReading := [readingOf 9 9 8]

/-- No device at first, a batch without a valid reading, an iteration that is kept and one whose
clocks cannot be read, behind which nothing is taken any more. -/
def trackTurns : List TrackTurn :=
  [⟨none, true, true, true⟩, ⟨some invalidBatch, true, true, true⟩,
    ⟨some mixedBatch, true, true, true⟩, ⟨some mixedBatch, false, true, true⟩,
    ⟨some mixedBatch, true, true, true⟩]

theorem batchOk_mixedBatch : BatchOk mixedBatch := ⟨by decide, by decide⟩

theorem batchOk_trackTurns :
    ∀ turn ∈ trackTurns, ∀ batch, turn.readings = some batch → BatchOk batch := by
  intro turn hturn batch hbatch
  simp only [trackTurns, List.mem_cons, List.not_mem_nil, or_false] at hturn
  rcases hturn with rfl | rfl | rfl | rfl | rfl <;> cases hbatch
  · exact ⟨by decide, by decide⟩
  · exact batchOk_mixedBatch
  · exact batchOk_mixedBatch
  · exact batchOk_mixedBatch

/-- One iteration each: the second reading has the shortest span, and the offsets of the valid
readings are 585, 595 and 605, so that the second is the median as well. -/
theorem phc_capture_accepted_mixedBatch :
    (phcCalibrate ⟨"/dev/ptp0".toList, by decide⟩ [mixedBatch]).2 = true
      ∧ (∃ s, ShortestSpan mixedBatch s
        ∧ CaptureLoads [] (phcCalibrate ⟨"/dev/ptp0".toList, by decide⟩ [mixedBatch]).1 [s])
      ∧ keptBatches 100 trackTurns = [mixedBatch]
      ∧ ∃ s, UpperMedian mixedBatch s ∧ CaptureLoads [] (phcTrack 100 trackTurns) [s] := by
  obtain ⟨hcalibrate, htrack⟩ := phc_capture_accepted []
  have hvalid : ∀ batch ∈ [mixedBatch], ∃ reading ∈ batch, (readSample reading).isSome := by decide
  obtain ⟨hdone, chosen, -, hshortest, hloads⟩ := hcalibrate ⟨"/dev/ptp0".toList, by decide⟩
    [mixedBatch] (List.cons_ne_nil _ _) (by decide)
    (fun batch hbatch => List.mem_singleton.mp hbatch ▸ batchOk_mixedBatch) hvalid
  have hkept : keptBatches 100 trackTurns = [mixedBatch] := by decide
  obtain ⟨medians, hmedian, hmedians⟩ := htrack 100 trackTurns (by decide) batchOk_trackTurns
  rw [hkept] at hmedian
  cases hshortest with
  | cons hs hnil =>
    cases hnil
    cases hmedian with
    | cons hm hnil =>
      cases hnil
      exact ⟨hdone, ⟨_, hs, hloads⟩, hkept, _, hm, hmedians⟩

end AceXdp
