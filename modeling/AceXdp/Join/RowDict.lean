import AceXdp.Join.JoinedCsv
import AceXdp.Join.Row
import AceXdp.Join.TableRoundTrip

/-!
# AceXdp — the rows of the joined CSV

`joined_row` as the analyser calls it: on the dictionaries of the loaded tables, with every column.
The raw columns copy the dictionaries; the computed ones are those of `Join.Row` on the records in
the widths that the loaders have checked.
-/

namespace AceXdp

open Csv

/-! ## From dictionaries to records

The loaders keep dictionaries; the joiner's computations read fields of known names. Both views are
of the same row. -/

/-- `value`. -/
def value (record : Option Record) (name : String) : Option Int :=
  record.bind fun r => r.lookup name.toList

/-- `record[name]`, for the columns that the loaders require. -/
def column (record : Record) (name : String) : Int := (record.lookup name.toList).getD 0

def IngressRecord.ofDict (r : Record) : IngressRecord where
  flowId := UInt32.ofNat (column r "flow_id").toNat
  rxQueue := UInt32.ofNat (column r "rx_queue").toNat
  sequence := UInt64.ofNat (column r "sequence").toNat
  hwRxNs := UInt64.ofNat (column r "hw_rx_ns").toNat
  initialXdpNs := UInt64.ofNat (column r "initial_xdp_ns").toNat
  flags := UInt32.ofNat (column r "flags").toNat
  requestedPath := UInt16.ofNat (column r "requested_path").toNat
  timestampError := Int16.ofInt (column r "timestamp_error")

def CpumapRecord.ofDict (r : Record) : CpumapRecord where
  flowId := UInt32.ofNat (column r "flow_id").toNat
  cpu := UInt32.ofNat (column r "cpu").toNat
  sequence := UInt64.ofNat (column r "sequence").toNat
  cpumapNs := UInt64.ofNat (column r "cpumap_ns").toNat
  flags := UInt32.ofNat (column r "flags").toNat
  requestedPath := UInt16.ofNat (column r "requested_path").toNat
  reserved := 0

def XskUserRecord.ofDict (r : Record) : XskUserRecord where
  flowId := UInt32.ofNat (column r "flow_id").toNat
  rxQueue := UInt32.ofNat (column r "rx_queue").toNat
  sequence := UInt64.ofNat (column r "sequence").toNat
  txRealtimeNs := Int64.ofInt (column r "tx_realtime_ns")
  userRxMonoNs := UInt64.ofNat (column r "user_rx_mono_ns").toNat
  userRxRealNs := Int64.ofInt (column r "user_rx_real_ns")
  hwRxNs := UInt64.ofNat (column r "hw_rx_ns").toNat
  initialXdpNs := UInt64.ofNat (column r "initial_xdp_ns").toNat
  metaFlags := UInt32.ofNat (column r "meta_flags").toNat
  requestedPath := UInt16.ofNat (column r "requested_path").toNat
  timestampError := Int16.ofInt (column r "timestamp_error")
  packetLength := UInt32.ofNat (column r "packet_length").toNat
  validationFlags := UInt32.ofNat (column r "validation_flags").toNat

def SampleRecord.ofDict (r : Record) : SampleRecord where
  seq := UInt64.ofNat (column r "sequence").toNat
  txNs := Int64.ofInt (column r "tx_realtime_ns")
  userRxMonoNs := Int64.ofInt (column r "user_rx_mono_ns")
  userRxRealNs := Int64.ofInt (column r "user_rx_real_ns")
  hwRxNs := Int64.ofInt (column r "hw_rx_ns")
  flowId := UInt32.ofNat (column r "flow_id").toNat
  len := UInt32.ofNat (column r "packet_length").toNat
  flags := UInt16.ofNat (column r "flags").toNat
  reserved16 := 0
  reserved32 := 0

/-- What the four tables hold for a key. -/
structure RecordSources where
  ingress : Option Record
  cpumap : Option Record
  afxdp : Option Record
  udp : Option Record

namespace RecordSources

variable (r : RecordSources)

def sources : Sources where
  ingress := r.ingress.map IngressRecord.ofDict
  cpumap := r.cpumap.map CpumapRecord.ofDict
  afxdp := r.afxdp.map XskUserRecord.ofDict
  udp := r.udp.map SampleRecord.ofDict
  afxdpFlags := (value r.afxdp "flags").map fun flags => UInt32.ofNat flags.toNat

/-- `user`: none when there are two. -/
def user : Option Record :=
  match r.afxdp, r.udp with
  | some _, some _ => none
  | some afxdp, none => some afxdp
  | none, udp => udp

end RecordSources

/-! ## Cells

An absent value is an empty cell. -/

def Cell.ofOption : Option Int → Cell
  | some n => .int n
  | Option.none => .none

/-- `int(...)` of a truth value. -/
def Cell.ofBool (b : Bool) : Cell := .int (if b then 1 else 0)

def UserSource.name : UserSource → String
  | .none => ""
  | .afxdp => "afxdp"
  | .udp => "udp"
  | .ambiguous => "ambiguous"

def XdpSource.name : XdpSource → String
  | .none => ""
  | .ingress => "ingress"
  | .afxdp => "afxdp"
  | .udp => "udp"
  | .ambiguous => "ambiguous"

def SegmentStatus.name : SegmentStatus → String
  | .invalid => "invalid"
  | .incomplete => "incomplete"
  | .complete => "complete"
  | .mismatch => "mismatch"

def CalibrationPosition.name : CalibrationPosition → String
  | .before => "before"
  | .exact => "exact"
  | .inside => "inside"
  | .after => "after"

/-- `lookup_fields`; without a lookup the position is empty and the rest is missing. -/
def lookupFields (lookup : Option CalibrationLookup) (point : String) : List (String × Cell) :=
  [("calibration_offset_at_" ++ point ++ "_ns", .ofOption (lookup.bind (·.offsetNs))),
    ("calibration_" ++ point ++ "_position",
      .text (lookup.elim [] fun l => l.position.name.toList)),
    ("calibration_" ++ point ++ "_out_of_range",
      lookup.elim .none fun l => .ofBool l.outOfRange),
    ("calibration_" ++ point ++ "_distance_ns", .ofOption (lookup.map (·.distanceNs)))]

/-! ## The row

All columns in the order of the header, each with the value that the computations above gave. -/

/-- Where a column is copied from. -/
inductive Origin where
  | ingress | cpumap | afxdp | udp | user
  deriving DecidableEq, Repr

def RecordSources.record (r : RecordSources) : Origin → Option Record
  | .ingress => r.ingress
  | .cpumap => r.cpumap
  | .afxdp => r.afxdp
  | .udp => r.udp
  | .user => r.user

/-- The columns that copy a field, and which. -/
def copiedColumns : List (String × Origin × String) :=
  [("ingress_rx_queue", .ingress, "rx_queue"), ("cpumap_cpu", .cpumap, "cpu"),
    ("afxdp_rx_queue", .afxdp, "rx_queue"), ("packet_length", .user, "packet_length"),
    ("tx_realtime_ns", .user, "tx_realtime_ns"), ("user_rx_mono_ns", .user, "user_rx_mono_ns"),
    ("user_rx_real_ns", .user, "user_rx_real_ns"), ("ingress_hw_rx_ns", .ingress, "hw_rx_ns"),
    ("afxdp_hw_rx_ns", .afxdp, "hw_rx_ns"), ("udp_hw_rx_ns", .udp, "hw_rx_ns"),
    ("ingress_initial_xdp_ns", .ingress, "initial_xdp_ns"),
    ("afxdp_initial_xdp_ns", .afxdp, "initial_xdp_ns"), ("cpumap_ns", .cpumap, "cpumap_ns"),
    ("ingress_flags", .ingress, "flags"), ("ingress_requested_path", .ingress, "requested_path"),
    ("ingress_timestamp_error", .ingress, "timestamp_error"), ("cpumap_flags", .cpumap, "flags"),
    ("cpumap_requested_path", .cpumap, "requested_path"),
    ("afxdp_meta_flags", .afxdp, "meta_flags"),
    ("afxdp_requested_path", .afxdp, "requested_path"),
    ("afxdp_validation_flags", .afxdp, "validation_flags"),
    ("afxdp_timestamp_error", .afxdp, "timestamp_error"), ("udp_flags", .udp, "flags"),
    ("afxdp_tx_realtime_ns", .afxdp, "tx_realtime_ns"),
    ("afxdp_user_rx_mono_ns", .afxdp, "user_rx_mono_ns"),
    ("afxdp_user_rx_real_ns", .afxdp, "user_rx_real_ns"),
    ("afxdp_packet_length", .afxdp, "packet_length"),
    ("udp_tx_realtime_ns", .udp, "tx_realtime_ns"),
    ("udp_user_rx_mono_ns", .udp, "user_rx_mono_ns"),
    ("udp_user_rx_real_ns", .udp, "user_rx_real_ns"),
    ("udp_packet_length", .udp, "packet_length")]

section Columns

variable (key : Key) (r : RecordSources) (c : Calibration) (clamp : Bool)

/-- The columns that say what was there and copy it. -/
def rawColumns : List (String × Cell) :=
  [("flow_id", .int key.1),
    ("sequence", .int key.2),
    ("ingress_present", .ofBool r.ingress.isSome),
    ("cpumap_present", .ofBool r.cpumap.isSome),
    ("afxdp_present", .ofBool r.afxdp.isSome),
    ("udp_present", .ofBool r.udp.isSome)]
    ++ copiedColumns.map fun column => (column.1, .ofOption (value (r.record column.2.1) column.2.2))

/-- The columns that are computed. -/
def computedColumns (s : Sources) : List (String × Cell) :=
  [("user_source", .text s.userSource.name.toList),
    ("requested_path", .ofOption (s.requestedPath.map fun path => (path.toNat : Int))),
    ("initial_xdp_ns", .ofOption s.initialXdp.1),
    ("initial_xdp_source", .text s.initialXdp.2.name.toList),
    ("xdp_hw_ns", .ofOption (s.xdpHwMetric c clamp)),
    ("cpumap_xdp_ns", .ofOption s.cpumapXdpMetric),
    ("user_cpumap_ns", .ofOption s.userCpumapMetric),
    ("user_xdp_ns", .ofOption s.userXdpMetric),
    ("user_hw_ns", .ofOption (s.userHwMetric c clamp)),
    ("hw_rx_mono_ns", .ofOption (s.hwMono c clamp)),
    ("hw_rx_source", .text s.hwSource.name.toList),
    ("hw_calibration_reference",
      .text (if s.hwReferenceNs.isSome then if s.initialXdp.1.isSome then "xdp".toList
        else "user".toList else [])),
    ("hw_calibration_reference_ns", .ofOption s.hwReferenceNs),
    ("hw_calibration_offset_ns", .ofOption (s.hwOffset c clamp)),
    ("d1_ns", .ofOption (s.xdpHwMetric c clamp)),
    ("d2_ns", .ofOption s.d2),
    ("d3_ns", .ofOption s.d3),
    ("segment_sum_ns", .ofOption (s.stageSum c clamp)),
    ("segment_residual_ns", .ofOption (s.residual c clamp)),
    ("segment_status", .text (s.stageStatus c clamp).name.toList),
    ("inconsistency_flags", .int s.inconsistencies)]
    ++ lookupFields (s.xdpLookup c clamp) "xdp"
    ++ lookupFields (s.userLookup c clamp) "user"

/-- The columns of a row. -/
def joinedColumns : List (String × Cell) := rawColumns key r ++ computedColumns c clamp r.sources

/-- `joined_row`. -/
def joinedDict : RowDict := (joinedColumns key r c clamp).map fun column => (column.1.toList, column.2)

theorem joinedColumns_names :
    (joinedColumns key r c clamp).map Prod.fst
      = (joinedColumns (0, 0) ⟨none, none, none, none⟩ ⟨[⟨0, 0⟩], by simp, by simp⟩ false).map
        Prod.fst := rfl

/-- The row has no key that is no column of the CSV. -/
theorem joinedDict_fields {cell : Text × Cell} (h : cell ∈ joinedDict key r c clamp) :
    cell.1 ∈ joinedFields := by
  obtain ⟨column, hcolumn, rfl⟩ := List.mem_map.mp h
  have hname := List.mem_map_of_mem hcolumn (f := Prod.fst)
  rw [joinedColumns_names] at hname
  refine List.mem_map_of_mem ?_
  revert hname
  generalize column.1 = name
  revert name
  decide +kernel

/-- A column of the row is found under its name. -/
theorem lookup_joinedDict (name : String) :
    (joinedDict key r c clamp).lookup name.toList = (joinedColumns key r c clamp).lookup name := by
  unfold joinedDict
  generalize joinedColumns key r c clamp = columns
  induction columns with
  | nil => rfl
  | cons column columns ih =>
    rw [List.map_cons, List.lookup_cons, List.lookup_cons, ih]
    by_cases h : name = column.1
    · simp [h]
    · rw [beq_false_of_ne h, beq_false_of_ne (fun heq => h (String.toList_inj.mp heq))]

end Columns

/-! ## The written file

The row as a line of the CSV file. -/

/-- The header and the rows of the joined CSV. -/
def joinedText (rows : List RowDict) : Option Text :=
  (rows.mapM (dictRow joinedFields)).map fun lines => writeRow joinedFields ++ lines.flatten

/-- The cells of a row as they are written. -/
def writtenCell (row : RowDict) (name : Text) : Text := ((row.lookup name).getD (.text [])).str

def writtenCells (row : RowDict) : List Text := joinedFields.map (writtenCell row)

/-- A row of the joiner. -/
def IsJoined (row : RowDict) : Prop := ∃ key r c clamp, row = joinedDict key r c clamp

def Cell.Plain (cell : Cell) : Prop := ∀ c ∈ cell.str, isPlain c

theorem Cell.plain_int (n : Int) : (Cell.int n).Plain := fun _ h => isPlain_of_mem_intText h

theorem Cell.plain_none : Cell.none.Plain := fun _ h => absurd h List.not_mem_nil

theorem Cell.plain_ofOption (n : Option Int) : (Cell.ofOption n).Plain := by
  cases n with
  | none => exact Cell.plain_none
  | some n => exact Cell.plain_int n

theorem Cell.plain_ofBool (b : Bool) : (Cell.ofBool b).Plain := Cell.plain_int _

theorem UserSource.plain_name (source : UserSource) :
    (Cell.text source.name.toList).Plain := by
  unfold Cell.Plain Cell.str
  cases source <;> decide

theorem XdpSource.plain_name (source : XdpSource) : (Cell.text source.name.toList).Plain := by
  unfold Cell.Plain Cell.str
  cases source <;> decide

theorem SegmentStatus.plain_name (status : SegmentStatus) :
    (Cell.text status.name.toList).Plain := by
  unfold Cell.Plain Cell.str
  cases status <;> decide

theorem CalibrationPosition.plain_name (position : CalibrationPosition) :
    (Cell.text position.name.toList).Plain := by
  unfold Cell.Plain Cell.str
  cases position <;> decide

theorem lookupFields_plain (lookup : Option CalibrationLookup) (point : String) :
    ∀ column ∈ lookupFields lookup point, column.2.Plain := by
  unfold lookupFields
  simp only [List.forall_mem_cons]
  refine ⟨Cell.plain_ofOption _, ?_, ?_, Cell.plain_ofOption _, by simp⟩
  · cases lookup with
    | none => exact Cell.plain_none
    | some l => exact l.position.plain_name
  · cases lookup with
    | none => exact Cell.plain_none
    | some l => exact Cell.plain_ofBool _

theorem rawColumns_plain (key : Key) (r : RecordSources) :
    ∀ column ∈ rawColumns key r, column.2.Plain := by
  unfold rawColumns
  simp only [List.forall_mem_append, List.forall_mem_cons]
  refine ⟨⟨Cell.plain_int _, Cell.plain_int _, Cell.plain_ofBool _, Cell.plain_ofBool _,
    Cell.plain_ofBool _, Cell.plain_ofBool _, by simp⟩, fun column hcolumn => ?_⟩
  obtain ⟨copied, -, rfl⟩ := List.mem_map.mp hcolumn
  exact Cell.plain_ofOption _

theorem computedColumns_plain (c : Calibration) (clamp : Bool) (s : Sources) :
    ∀ column ∈ computedColumns c clamp s, column.2.Plain := by
  unfold computedColumns
  simp only [List.forall_mem_append]
  refine ⟨⟨?_, lookupFields_plain _ _⟩, lookupFields_plain _ _⟩
  simp only [List.forall_mem_cons, Cell.plain_ofOption, Cell.plain_int, UserSource.plain_name,
    XdpSource.plain_name, SegmentStatus.plain_name, true_and]
  refine ⟨?_, by simp⟩
  split
  · split
    · exact (by decide : ∀ c ∈ "xdp".toList, isPlain c)
    · exact (by decide : ∀ c ∈ "user".toList, isPlain c)
  · exact Cell.plain_none

/-- **Nothing in a row of the joiner needs quotes.** -/
theorem IsJoined.plain {row : RowDict} (h : IsJoined row) (name : Text) :
    ∀ c ∈ writtenCell row name, isPlain c := by
  obtain ⟨key, r, c, clamp, rfl⟩ := h
  unfold writtenCell
  cases hlookup : (joinedDict key r c clamp).lookup name with
  | none => exact Cell.plain_none
  | some cell =>
    obtain ⟨before, after, hsplit, -⟩ := List.lookup_eq_some_iff.mp hlookup
    have hmem : (name, cell) ∈ joinedDict key r c clamp := by
      rw [hsplit]
      simp
    obtain ⟨column, hcolumn, heq⟩ := List.mem_map.mp hmem
    cases heq
    rcases List.mem_append.mp hcolumn with hraw | hcomputed
    · exact rawColumns_plain key r column hraw
    · exact computedColumns_plain c clamp r.sources column hcomputed

/-- Commas, quotes and line ends all come before the letters. -/
theorem isPlain_of_gt {c : Char} (h : '.'.val < c.val) : isPlain c := by
  refine ⟨?_, ?_, ?_, ?_⟩
  all_goals
    rintro rfl
    revert h
    decide

theorem joinedFields_plain : ∀ f ∈ joinedFields, ∀ c ∈ f, isPlain c := by
  have hall : joinedFields.all (fun f => f.all fun c => '.'.val < c.val) = true := by
    decide +kernel
  intro f hf c hc
  exact isPlain_of_gt (of_decide_eq_true (List.all_eq_true.mp (List.all_eq_true.mp hall f hf) c hc))

theorem quoteField_plain {field : Text} (h : ∀ c ∈ field, isPlain c) : quoteField field = field := by
  have hquotes : needsQuotes field = false := by
    refine List.any_eq_false.mpr fun c hc => ?_
    obtain ⟨hcomma, hquote, hnl, hcr⟩ := h c hc
    simp [hcomma, hquote, hnl, hcr]
  rw [quoteField, hquotes]
  rfl

theorem writeRow_plain {fields : List Text} (h : ∀ f ∈ fields, ∀ c ∈ f, isPlain c) :
    writeRow fields = joinFields fields ++ ['\r', '\n'] := by
  rw [writeRow, List.map_congr_left fun f hf => quoteField_plain (h f hf), List.map_id']

theorem IsJoined.plain_cells {row : RowDict} (h : IsJoined row) :
    ∀ f ∈ writtenCells row, ∀ c ∈ f, isPlain c := by
  intro f hf
  obtain ⟨name, -, rfl⟩ := List.mem_map.mp hf
  exact h.plain name

theorem IsJoined.dictRow {row : RowDict} (h : IsJoined row) :
    dictRow joinedFields row = some (joinFields (writtenCells row) ++ ['\r', '\n']) := by
  have hfields : ∀ cell ∈ row, cell.1 ∈ joinedFields := by
    obtain ⟨key, r, c, clamp, rfl⟩ := h
    exact fun cell hcell => joinedDict_fields key r c clamp hcell
  have hany : (row.any fun cell => cell.1 ∉ joinedFields) = false :=
    List.any_eq_false.mpr fun cell hcell => by simpa using hfields cell hcell
  rw [AceXdp.dictRow, hany]
  exact congrArg some (writeRow_plain h.plain_cells)

/-- The file of the joiner, line by line. -/
theorem joinedText_eq {rows : List RowDict} (h : ∀ row ∈ rows, IsJoined row) :
    joinedText rows = some ((joinedFields :: rows.map writtenCells).flatMap fun fields =>
      joinFields fields ++ ['\r', '\n']) := by
  have hlines : rows.mapM (dictRow joinedFields)
      = some (rows.map fun row => joinFields (writtenCells row) ++ ['\r', '\n']) := by
    induction rows with
    | nil => rfl
    | cons row rows ih =>
      rw [List.mapM_cons, (h row List.mem_cons_self).dictRow,
        ih fun row' hrow => h row' (List.mem_cons_of_mem _ hrow)]
      rfl
  rw [joinedText, hlines, Option.map_some, writeRow_plain joinedFields_plain, List.flatMap_cons,
    List.flatMap_map, List.flatMap_def]

theorem joinFields_ne_nil (f g : Text) (rest : List Text) : joinFields (f :: g :: rest) ≠ [] := by
  simp [joinFields]

/-- **The joined CSV is read back**: the header and the cells of each row. -/
theorem readTable_joinedText {rows : List RowDict} (h : ∀ row ∈ rows, IsJoined row) {text : Text}
    (htext : joinedText rows = some text) :
    readTable (splitLines text) = some ⟨some joinedFields, rows.map writtenCells⟩ := by
  have hplain : ∀ fields ∈ joinedFields :: rows.map writtenCells, ∀ f ∈ fields, ∀ c ∈ f,
      isPlain c := by
    intro fields hfields
    rcases List.mem_cons.mp hfields with rfl | hfields
    · exact joinedFields_plain
    · obtain ⟨row, hrow, rfl⟩ := List.mem_map.mp hfields
      exact (h row hrow).plain_cells
  have hrow : ∀ fields ∈ joinedFields :: rows.map writtenCells, PlainRow fields := by
    intro fields hfields
    refine ⟨hplain fields hfields, ?_⟩
    rcases List.mem_cons.mp hfields with rfl | hfields
    · exact joinFields_ne_nil _ _ _
    · obtain ⟨row, -, rfl⟩ := List.mem_map.mp hfields
      exact joinFields_ne_nil _ _ _
  rw [joinedText_eq h, Option.some.injEq] at htext
  rw [← htext]
  have hlines : splitLines ((joinedFields :: rows.map writtenCells).flatMap fun fields =>
        joinFields fields ++ ['\r', '\n'])
      = (joinedFields :: rows.map writtenCells).map fun fields =>
        joinFields fields ++ ['\r', '\n'] := by
    have hbodies : ∀ body ∈ (joinedFields :: rows.map writtenCells).map joinFields,
        ∀ c ∈ body, c ≠ '\n' ∧ c ≠ '\r' := by
      intro body hbody
      obtain ⟨fields, hfields, rfl⟩ := List.mem_map.mp hbody
      exact isPlain_joinFields (hplain fields hfields)
    have hsplit := splitLines_lines LineEnd.crlf hbodies
    rwa [List.flatMap_map, List.map_map] at hsplit
  rw [hlines]
  exact readTable_plain .crlf (hrow _ List.mem_cons_self) fun row hmem =>
    hrow row (List.mem_cons_of_mem _ hmem)

/-- A cell of a row that was read back. -/
theorem cell_writtenCells (row : RowDict) {name : Text} (h : name ∈ joinedFields) :
    (joinedFields.zip (writtenCells row)).reverse.lookup name = some (writtenCell row name) := by
  have hlookup : ∀ names : List Text, name ∈ names →
      (names.map fun n => (n, writtenCell row n)).lookup name = some (writtenCell row name) := by
    intro names hmem
    induction names with
    | nil => cases hmem
    | cons n names ih =>
      rw [List.map_cons, List.lookup_cons]
      by_cases hn : name = n
      · rw [hn, beq_self_eq_true]
      · rw [beq_false_of_ne hn]
        exact ih ((List.mem_cons.mp hmem).resolve_left hn)
  have hzip : joinedFields.zip (writtenCells row)
      = joinedFields.map fun n => (n, writtenCell row n) := by
    have hmap := List.zip_map' (l := joinedFields) (f := fun n : Text => n) (g := writtenCell row)
    rwa [List.map_id'] at hmap
  rw [hzip, ← List.map_reverse]
  exact hlookup _ (List.mem_reverse.mpr h)

end AceXdp
