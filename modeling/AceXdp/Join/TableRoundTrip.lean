import AceXdp.Export
import AceXdp.Join.Table

/-!
# AceXdp — what the capture programs export, the analyser loads

The three CSV formats go through one theorem about a table of integers written row by row; the UDP
records through the fixed layout of their struct.

* `SourceTable.addAll_*`: what the two loading loops do to a table, whatever the format;
* `loadCsvTable_text`: a table of in-range integers with distinct keys is loaded as it was written;
* `loadUdpRecords_saveRecords`, `loadUdpRecords_rejects`: the same for the binary records;
* `export_round_trip`: the four formats together.
-/

namespace AceXdp

open ByteView Csv Decimal

/-! ## Filling a table

The first record of a key stays; later ones are counted, and those that differ are counted again. -/

def SourceTable.addAll (table : SourceTable) (entries : List (Key × Record)) : SourceTable :=
  entries.foldl (fun t entry => t.add entry.1 entry.2) table

namespace SourceTable

def keys (table : SourceTable) : List Key := table.records.map Prod.fst

theorem lookup_eq_none_iff (table : SourceTable) (key : Key) :
    table.records.lookup key = none ↔ key ∉ table.keys := by
  rw [List.lookup_eq_none_iff, keys, List.mem_map]
  constructor
  · rintro h ⟨entry, hentry, rfl⟩
    simpa using h entry hentry
  · intro h entry hentry
    have hne : key ≠ entry.1 := fun heq => h ⟨entry, hentry, heq.symm⟩
    simpa using hne

/-- **Distinct new keys.** Every entry becomes a record, nothing is counted twice. -/
theorem addAll_of_nodup (table : SourceTable) (entries : List (Key × Record))
    (hnodup : (entries.map Prod.fst).Nodup) (hnew : ∀ entry ∈ entries, entry.1 ∉ table.keys) :
    table.addAll entries
      = { table with
          records := table.records ++ entries
          rows := table.rows + entries.length } := by
  induction entries generalizing table with
  | nil => simp [addAll]
  | cons entry entries ih =>
    rw [List.map_cons, List.nodup_cons] at hnodup
    have hnone := (table.lookup_eq_none_iff entry.1).mpr (hnew entry List.mem_cons_self)
    have hstep : table.addAll (entry :: entries)
        = SourceTable.addAll { table with
            records := table.records ++ [entry]
            rows := table.rows + 1 } entries := by
      rw [addAll, List.foldl_cons, SourceTable.add, hnone]
      rfl
    rw [hstep, ih _ hnodup.2]
    · simp only [List.append_assoc, List.singleton_append, List.length_cons, Nat.add_assoc,
        Nat.add_comm 1]
    · intro other hother
      simp only [keys, List.map_append, List.map_cons, List.map_nil, List.mem_append,
        List.mem_singleton, not_or]
      refine ⟨hnew other (List.mem_cons_of_mem _ hother), fun heq => hnodup.1 ?_⟩
      rw [← heq]
      exact List.mem_map_of_mem hother

/-- What every table satisfies: each row is a record or a duplicate. -/
structure Counted (table : SourceTable) : Prop where
  nodup : table.keys.Nodup
  rows : table.rows = table.records.length + table.duplicateRows
  conflicts : table.conflictingDuplicateRows ≤ table.duplicateRows

theorem Counted.add {table : SourceTable} (h : table.Counted) (key : Key) (record : Record) :
    (table.add key record).Counted := by
  have hrows := h.rows
  have hconflicts := h.conflicts
  unfold SourceTable.add
  cases hlookup : table.records.lookup key with
  | some previous =>
    refine ⟨h.nodup, ?_, ?_⟩
    · show table.rows + 1 = table.records.length + (table.duplicateRows + 1)
      omega
    · show table.conflictingDuplicateRows + (if previous ≠ record then 1 else 0)
        ≤ table.duplicateRows + 1
      split <;> omega
  | none =>
    refine ⟨?_, ?_, h.conflicts⟩
    · have hnew := (table.lookup_eq_none_iff key).mp hlookup
      rw [keys, List.map_append, List.map_singleton, List.nodup_append]
      refine ⟨h.nodup, List.nodup_singleton key, ?_⟩
      rintro a ha b hb rfl
      rw [List.mem_singleton.mp hb] at ha
      exact hnew ha
    · show table.rows + 1 = (table.records ++ [(key, record)]).length + table.duplicateRows
      rw [List.length_append, List.length_singleton]
      omega

theorem lookup_add (table : SourceTable) (key key' : Key) (record : Record) :
    (table.add key record).records.lookup key'
      = (table.records.lookup key').or (if key = key' then some record else none) := by
  unfold SourceTable.add
  cases hlookup : table.records.lookup key with
  | some previous =>
    by_cases hkey : key = key'
    · subst hkey
      simp [hlookup]
    · simp [hkey]
  | none =>
    simp only [List.lookup_append]
    congr 1
    by_cases hkey : key = key'
    · simp [hkey]
    · rw [List.lookup_cons, beq_false_of_ne (Ne.symm hkey), if_neg hkey]
      rfl

/-- **The first record of a key wins.** Induction on the entries added. -/
theorem lookup_addAll (key : Key) (entries : List (Key × Record)) (table : SourceTable) :
    (table.addAll entries).records.lookup key
      = (table.records.lookup key).or ((entries.find? fun e => e.1 = key).map Prod.snd) := by
  induction entries generalizing table with
  | nil => simp [addAll]
  | cons entry entries ih =>
    have hstep : table.addAll (entry :: entries) = (table.add entry.1 entry.2).addAll entries := rfl
    rw [hstep, ih, lookup_add, Option.or_assoc, List.find?_cons]
    by_cases hkey : entry.1 = key <;> simp [hkey]

theorem counted_addAll {table : SourceTable} (h : table.Counted) (entries : List (Key × Record)) :
    (table.addAll entries).Counted := by
  induction entries generalizing table with
  | nil => exact h
  | cons entry entries ih => exact ih (h.add entry.1 entry.2)

theorem rows_addAll (table : SourceTable) (entries : List (Key × Record)) :
    (table.addAll entries).rows = table.rows + entries.length := by
  induction entries generalizing table with
  | nil => rfl
  | cons entry entries ih =>
    have hrow : (table.add entry.1 entry.2).rows = table.rows + 1 := by
      unfold SourceTable.add
      cases table.records.lookup entry.1 <;> rfl
    have hstep : table.addAll (entry :: entries) = (table.add entry.1 entry.2).addAll entries := rfl
    rw [hstep, ih, hrow, List.length_cons]
    omega

theorem counted_empty : emptyTable.Counted := ⟨List.nodup_nil, rfl, le_rfl⟩

end SourceTable

/-! ## One row

A number is printed in decimal and read back; the reader's range checks are those of the C types. -/

theorem isSpace_of_mem_intText {z : Int} {c : Char} (h : c ∈ intText z) : isSpace c = false := by
  rcases mem_intText h with rfl | h
  · decide
  · have hbounds := isDigit_bounds h
    have hlow : 48 ≤ c.toNat := hbounds.1
    have hhigh : c.toNat ≤ 57 := hbounds.2
    simp only [isSpace, Bool.or_eq_false_iff, Bool.and_eq_false_iff, decide_eq_false_iff_not]
    omega

theorem parseInteger_intText (z : Int) (row : Nat) (field : Text) :
    parseInteger (some (intText z)) row field = .ok z := by
  obtain ⟨c, rest, hcons⟩ := List.exists_cons_of_ne_nil (intText_ne_nil z)
  have hc : isSpace c = false := isSpace_of_mem_intText (z := z) (hcons ▸ List.mem_cons_self)
  have hblank : (intText z).all isSpace = false := by rw [hcons, List.all_cons, hc]; rfl
  simp [parseInteger, hblank, readInt_intText]

theorem mapM_fst_eq_ok {α β ε : Type} {g : α → Except ε (α × β)} {l : List (α × β)}
    (h : ∀ p ∈ l, g p.1 = .ok p) : (l.map Prod.fst).mapM g = .ok l := by
  induction l with
  | nil => rfl
  | cons p l ih =>
    rw [List.map_cons, List.mapM_cons, h p List.mem_cons_self,
      ih fun q hq => h q (List.mem_cons_of_mem _ hq)]
    rfl

/-- A printed row parses to its values under the column names. -/
theorem parseRecord_intText {names : List Text} (hnodup : names.Nodup) (values : List Int)
    (hlen : values.length = names.length) (number : Nat) :
    parseRecord names (values.map intText) number = .ok (names.zip values) := by
  have hfst : (names.zip values).map Prod.fst = names := List.map_fst_zip (by omega)
  unfold parseRecord
  conv_lhs => arg 2; rw [← hfst]
  refine mapM_fst_eq_ok fun p hp => ?_
  have hmem : (p.1, intText p.2) ∈ names.zip (values.map intText) := by
    rw [List.zip_map_right]
    exact List.mem_map_of_mem (f := Prod.map id intText) hp
  have hzip : ((names.zip (values.map intText)).map Prod.fst).Nodup := by
    rwa [List.map_fst_zip (by simp [hlen])]
  have hlookup : (names.zip (values.map intText)).lookup p.1 = some (intText p.2) :=
    lookup_of_mem hzip hmem
  rw [hlookup, parseInteger_intText]
  rfl

def InRange (p : Text × Int) : Prop :=
  ∀ range ∈ csvFieldRanges, range.field = p.1 → range.minimum ≤ p.2 ∧ p.2 ≤ range.maximum

theorem validateCsvRanges_ok {record : Record} (h : ∀ p ∈ record, InRange p) (row : Nat) :
    validateCsvRanges record row = .ok () := by
  have hnone : csvFieldRanges.find? (·.violatedBy record) = none := by
    rw [List.find?_eq_none]
    intro range hrange
    unfold FieldRange.violatedBy
    cases hlookup : record.lookup range.field with
    | none => simp
    | some value =>
      obtain ⟨before, after, hsplit, -⟩ := List.lookup_eq_some_iff.mp hlookup
      have hmem : (range.field, value) ∈ record := by rw [hsplit]; simp
      simpa using h _ hmem range hrange rfl
  rw [validateCsvRanges, hnone]

/-! ## A whole file

The header and the rows are plain texts, so that the CSV reader splits them where the writer joined
them. -/

/-- The columns of an export after the two key columns, and what makes them a header. -/
structure Columns (more : List Text) : Prop where
  plain : ∀ f ∈ more, ∀ c ∈ f, isPlain c
  nonempty : [] ∉ more
  nodup : ("flow_id".toList :: "sequence".toList :: more).Nodup

/-- One row: the key and the values of the other columns. -/
structure ExportRow where
  flowId : UInt32
  sequence : UInt64
  values : List Int

namespace ExportRow

def cells (row : ExportRow) : List Int := row.flowId.toNat :: row.sequence.toNat :: row.values

def key (row : ExportRow) : Key := (row.flowId.toNat, row.sequence.toNat)

def record (names : List Text) (row : ExportRow) : Record :=
  ("flow_id".toList, (row.flowId.toNat : Int)) :: ("sequence".toList, (row.sequence.toNat : Int))
    :: names.zip row.values

end ExportRow

variable {more : List Text}

theorem Columns.plainRow (h : Columns more) :
    PlainRow ("flow_id".toList :: "sequence".toList :: more) := by
  refine ⟨?_, by simp [joinFields]⟩
  intro f hf
  rcases List.mem_cons.mp hf with rfl | hf
  · decide
  · rcases List.mem_cons.mp hf with rfl | hf
    · decide
    · exact h.plain f hf

theorem isPlain_of_mem_intText {z : Int} {c : Char} (h : c ∈ intText z) : isPlain c := by
  have hne {d : Char} (hsign : d ≠ '-') (hdigit : d.isDigit = false) : c ≠ d :=
    fun heq => notMem_intText hsign hdigit z (heq ▸ h)
  exact ⟨hne (by decide) (by decide), hne (by decide) (by decide), hne (by decide) (by decide),
    hne (by decide) (by decide)⟩

theorem joinFields_cons_cons (c : Char) (f : List Char) (rest : List (List Char)) :
    ∃ tail, joinFields ((c :: f) :: rest) = c :: tail := by
  cases rest with
  | nil => exact ⟨f, rfl⟩
  | cons g rest => exact ⟨f ++ ',' :: joinFields (g :: rest), rfl⟩

theorem plainRow_intText (z : Int) (zs : List Int) : PlainRow ((z :: zs).map intText) := by
  constructor
  · intro f hf c hc
    obtain ⟨y, -, rfl⟩ := List.mem_map.mp hf
    exact isPlain_of_mem_intText hc
  · obtain ⟨c, f, hcons⟩ := List.exists_cons_of_ne_nil (intText_ne_nil z)
    obtain ⟨tail, htail⟩ := joinFields_cons_cons c f (zs.map intText)
    rw [List.map_cons, hcons, htail]
    exact List.cons_ne_nil _ _

/-- A line that starts with a visible character other than `#`. -/
theorem isDataLine_of_head {c : Char} {line : Text} (hspace : isSpace c = false) (hhash : c ≠ '#') :
    isDataLine (c :: line) = true := by
  simp [isDataLine, hspace, hhash]

theorem isDataLine_intText (z : Int) (zs : List Int) :
    isDataLine (csvLine ((z :: zs).map intText)) = true := by
  obtain ⟨c, f, hcons⟩ := List.exists_cons_of_ne_nil (intText_ne_nil z)
  have hmem : c ∈ intText z := hcons ▸ List.mem_cons_self
  obtain ⟨tail, htail⟩ := joinFields_cons_cons c f (zs.map intText)
  have hhash : c ≠ '#' := fun heq => notMem_intText (by decide) (by decide) _ (heq ▸ hmem)
  rw [csvLine, List.map_cons, hcons, htail, List.cons_append]
  exact isDataLine_of_head (isSpace_of_mem_intText hmem) hhash

theorem ExportRow.plainRow (row : ExportRow) : PlainRow (row.cells.map intText) :=
  plainRow_intText _ _

theorem ExportRow.isDataLine (row : ExportRow) :
    AceXdp.isDataLine (csvLine (row.cells.map intText)) = true :=
  isDataLine_intText _ _

/-- The text of an export: the header and the rows. -/
def exportText (more : List Text) (rows : List ExportRow) : Text :=
  csvLine ("flow_id".toList :: "sequence".toList :: more)
    ++ rows.flatMap fun row => csvLine (row.cells.map intText)

theorem exportText_eq (more : List Text) (rows : List ExportRow) :
    exportText more rows
      = ((("flow_id".toList :: "sequence".toList :: more) :: rows.map fun row =>
          row.cells.map intText).map joinFields).flatMap fun body => body ++ ['\n'] := by
  simp only [exportText, csvLine, List.map_cons, List.flatMap_cons, List.map_map,
    List.flatMap_map]
  rfl

/-- The reader sees the header and the rows that were written. -/
theorem readTable_exportText (hcolumns : Columns more) (rows : List ExportRow) :
    readTable ((splitLines (exportText more rows)).filter AceXdp.isDataLine)
      = some ⟨some ("flow_id".toList :: "sequence".toList :: more),
          rows.map fun row => row.cells.map intText⟩ := by
  have hplain : ∀ row ∈ rows.map (fun row => row.cells.map intText), PlainRow row := by
    intro row hrow
    obtain ⟨r, -, rfl⟩ := List.mem_map.mp hrow
    exact r.plainRow
  have hbodies : ∀ body ∈ (("flow_id".toList :: "sequence".toList :: more)
      :: rows.map fun row => row.cells.map intText).map joinFields,
      ∀ c ∈ body, c ≠ '\n' ∧ c ≠ '\r' := by
    intro body hbody
    obtain ⟨row, hrow, rfl⟩ := List.mem_map.mp hbody
    rcases List.mem_cons.mp hrow with rfl | hrow
    · exact isPlain_joinFields hcolumns.plainRow.plain
    · exact isPlain_joinFields (hplain row hrow).plain
  -- neither the header nor a row looks like a comment
  have hkeep : ∀ line ∈ ((("flow_id".toList :: "sequence".toList :: more)
      :: rows.map fun row => row.cells.map intText).map joinFields).map (fun body => body ++ ['\n']),
      AceXdp.isDataLine line = true := by
    intro line hline
    obtain ⟨body, hbody, rfl⟩ := List.mem_map.mp hline
    obtain ⟨row, hrow, rfl⟩ := List.mem_map.mp hbody
    rcases List.mem_cons.mp hrow with rfl | hrow
    · obtain ⟨tail, htail⟩ := joinFields_cons_cons 'f' "low_id".toList ("sequence".toList :: more)
      have hhead : joinFields ("flow_id".toList :: "sequence".toList :: more) = 'f' :: tail := htail
      rw [hhead, List.cons_append]
      exact isDataLine_of_head (by decide) (by decide)
    · obtain ⟨r, -, rfl⟩ := List.mem_map.mp hrow
      exact r.isDataLine
  rw [exportText_eq, splitLines_lines .lf hbodies, List.filter_eq_self.mpr hkeep, List.map_map]
  exact readTable_plain .lf hcolumns.plainRow hplain

theorem loadCsvRows_export (hcolumns : Columns more) (number : Nat) (table : SourceTable)
    (rows : List ExportRow) (hlen : ∀ row ∈ rows, row.values.length = more.length)
    (hrange : ∀ row ∈ rows, ∀ p ∈ row.record more, InRange p) :
    loadCsvRows ("flow_id".toList :: "sequence".toList :: more) number table
        (rows.map fun row => row.cells.map intText)
      = .ok (table.addAll (rows.map fun row => (row.key, row.record more))) := by
  induction rows generalizing number table with
  | nil => rfl
  | cons row rows ih =>
    have hlenRow := hlen row List.mem_cons_self
    have hrecord := parseRecord_intText hcolumns.nodup row.cells
      (by simp [ExportRow.cells, hlenRow]) number
    have hzip : ("flow_id".toList :: "sequence".toList :: more).zip row.cells
        = row.record more := rfl
    rw [hzip] at hrecord
    have hflow : (row.record more).lookup "flow_id".toList = some (row.flowId.toNat : Int) := by
      simp [ExportRow.record]
    have hseq : (row.record more).lookup "sequence".toList = some (row.sequence.toNat : Int) := by
      simp [ExportRow.record, List.lookup_cons]
    have hflowLt := row.flowId.toNat_lt
    have hseqLt := row.sequence.toNat_lt
    have hkey : validateKey number row.flowId.toNat row.sequence.toNat = .ok () := by
      rw [validateKey, if_neg (by omega), if_neg (by omega)]
    have hwidth : ¬("flow_id".toList :: "sequence".toList :: more).length
        < (row.cells.map intText).length := by
      simp [ExportRow.cells, hlenRow]
    rw [List.map_cons, loadCsvRows, if_neg hwidth, hrecord]
    simp only [bind, Except.bind, validateCsvRanges_ok (hrange row List.mem_cons_self), hflow, hseq,
      hkey]
    exact ih (number + 1) _ (fun r hr => hlen r (List.mem_cons_of_mem _ hr))
      fun r hr => hrange r (List.mem_cons_of_mem _ hr)

/-- **A table that was exported is loaded.** -/
theorem loadCsvTable_exportText (hcolumns : Columns more) (required : List Text)
    (hrequired : ∀ f ∈ required, f ∈ "flow_id".toList :: "sequence".toList :: more)
    (rows : List ExportRow) (hlen : ∀ row ∈ rows, row.values.length = more.length)
    (hrange : ∀ row ∈ rows, ∀ p ∈ row.record more, InRange p)
    (hkeys : (rows.map ExportRow.key).Nodup) :
    loadCsvTable (exportText more rows) required
      = .ok ⟨rows.map fun row => (row.key, row.record more), rows.length, 0, 0⟩ := by
  have hempty : [] ∉ "flow_id".toList :: "sequence".toList :: more := by
    simpa using hcolumns.nonempty
  have hmissing : required.filter (· ∉ "flow_id".toList :: "sequence".toList :: more) = [] := by
    rw [List.filter_eq_nil_iff]
    intro f hf
    rw [decide_eq_true_eq, not_not]
    exact hrequired f hf
  have hheader : validateCsvHeader (some ("flow_id".toList :: "sequence".toList :: more)) required
      = .ok ("flow_id".toList :: "sequence".toList :: more) := by
    rw [validateCsvHeader, if_neg hempty, if_neg (not_not.mpr hcolumns.nodup)]
    simp only [hmissing]
    rfl
  have hnodup : ((rows.map fun row => (row.key, row.record more)).map Prod.fst).Nodup := by
    rw [List.map_map]
    exact hkeys
  rw [loadCsvTable, readTable_exportText hcolumns rows]
  simp only [bind, Except.bind, hheader, loadCsvRows_export hcolumns 2 emptyTable rows hlen hrange]
  rw [SourceTable.addAll_of_nodup _ _ hnodup (by simp [SourceTable.keys, emptyTable])]
  simp [emptyTable]

/-! ## The three CSV exports

One file for each of the maps and one for the AF_XDP records. -/

theorem intText_natCast (n : Nat) : intText (n : Int) = natText n := rfl

theorem csvFieldRanges_nodup : (csvFieldRanges.map FieldRange.field).Nodup := by
  simp [csvFieldRanges, uint16Range, uint32Range, uint64Range, int16Range, int64Range]

/-- The table names each field once, so one of its entries decides. -/
theorem inRange_of {range : FieldRange} (hrange : range ∈ csvFieldRanges) {value : Int}
    (hlow : range.minimum ≤ value) (hhigh : value ≤ range.maximum) :
    InRange (range.field, value) := by
  intro other hother heq
  rw [List.inj_on_of_nodup_map csvFieldRanges_nodup hother hrange heq]
  exact ⟨hlow, hhigh⟩

section Types

variable {name : String}

theorem inRange_uint16 (x : UInt16) (h : uint16Range name ∈ csvFieldRanges) :
    InRange (name.toList, (x.toNat : Int)) := by
  have hlt := x.toNat_lt
  have hle : (x.toNat : Int) ≤ 0xffff := by omega
  exact inRange_of h (Int.natCast_nonneg _) hle

theorem inRange_uint32 (x : UInt32) (h : uint32Range name ∈ csvFieldRanges) :
    InRange (name.toList, (x.toNat : Int)) := by
  have hlt := x.toNat_lt
  have hle : (x.toNat : Int) ≤ 0xffffffff := by omega
  exact inRange_of h (Int.natCast_nonneg _) hle

theorem inRange_uint64 (x : UInt64) (h : uint64Range name ∈ csvFieldRanges) :
    InRange (name.toList, (x.toNat : Int)) := by
  have hlt := x.toNat_lt
  have hle : (x.toNat : Int) ≤ 0xffffffffffffffff := by omega
  exact inRange_of h (Int.natCast_nonneg _) hle

theorem inRange_int16 (x : Int16) (h : int16Range name ∈ csvFieldRanges) :
    InRange (name.toList, x.toInt) :=
  inRange_of h x.le_toInt (Int.le_of_lt_add_one x.toInt_lt)

theorem inRange_int64 (x : Int64) (h : int64Range name ∈ csvFieldRanges) :
    InRange (name.toList, x.toInt) :=
  inRange_of h x.le_toInt (Int.le_of_lt_add_one x.toInt_lt)

end Types

def PacketKey.joinKey (key : PacketKey) : Key := (key.flowId.toNat, key.sequence.toNat)

def XskUserRecord.joinKey (r : XskUserRecord) : Key := (r.flowId.toNat, r.sequence.toNat)

/-- What the analyser should hold for an ingress record. -/
def ingressDict (key : PacketKey) (r : IngressRecord) : Record :=
  [("flow_id".toList, key.flowId.toNat), ("sequence".toList, key.sequence.toNat),
    ("rx_queue".toList, r.rxQueue.toNat), ("hw_rx_ns".toList, r.hwRxNs.toNat),
    ("initial_xdp_ns".toList, r.initialXdpNs.toNat), ("flags".toList, r.flags.toNat),
    ("requested_path".toList, r.requestedPath.toNat),
    ("timestamp_error".toList, r.timestampError.toInt)]

def cpumapDict (key : PacketKey) (r : CpumapRecord) : Record :=
  [("flow_id".toList, key.flowId.toNat), ("sequence".toList, key.sequence.toNat),
    ("cpu".toList, r.cpu.toNat), ("cpumap_ns".toList, r.cpumapNs.toNat),
    ("flags".toList, r.flags.toNat), ("requested_path".toList, r.requestedPath.toNat)]

def xskDict (r : XskUserRecord) : Record :=
  [("flow_id".toList, r.flowId.toNat), ("sequence".toList, r.sequence.toNat),
    ("rx_queue".toList, r.rxQueue.toNat), ("tx_realtime_ns".toList, r.txRealtimeNs.toInt),
    ("user_rx_mono_ns".toList, r.userRxMonoNs.toNat),
    ("user_rx_real_ns".toList, r.userRxRealNs.toInt), ("hw_rx_ns".toList, r.hwRxNs.toNat),
    ("initial_xdp_ns".toList, r.initialXdpNs.toNat), ("meta_flags".toList, r.metaFlags.toNat),
    ("requested_path".toList, r.requestedPath.toNat),
    ("timestamp_error".toList, r.timestampError.toInt),
    ("packet_length".toList, r.packetLength.toNat),
    ("validation_flags".toList, r.validationFlags.toNat)]

/-- The part of a dictionary behind the two key columns, as a row of the export. -/
def exportRowOf (flowId : UInt32) (sequence : UInt64) (dict : Record) : ExportRow :=
  ⟨flowId, sequence, (dict.drop 2).map Prod.snd⟩

theorem loadCsvTable_exportIngressRecords (entries : List (PacketKey × IngressRecord))
    (hkeys : (entries.map fun e => e.1.joinKey).Nodup) :
    loadCsvTable (exportIngressRecords entries) ingressRequired
      = .ok ⟨entries.map fun e => (e.1.joinKey, ingressDict e.1 e.2), entries.length, 0, 0⟩ := by
  let more := ["rx_queue", "hw_rx_ns", "initial_xdp_ns", "flags", "requested_path",
    "timestamp_error"].map String.toList
  let rows := entries.map fun e => exportRowOf e.1.flowId e.1.sequence (ingressDict e.1 e.2)
  have htext : exportIngressRecords entries = exportText more rows := by
    have hheader : csvLine ("flow_id".toList :: "sequence".toList :: more) = ingressHeader := by
      decide
    rw [exportText, hheader, exportIngressRecords, List.flatMap_map]
    simp only [exportRowOf, ExportRow.cells, ingressDict, List.drop_succ_cons, List.drop_zero,
      List.map_cons, List.map_nil, intText_natCast]
  have hload := loadCsvTable_exportText
    (⟨by decide, by decide, by decide⟩ : Columns more) ingressRequired (by decide) rows
    (by
      intro row hrow
      obtain ⟨e, -, rfl⟩ := List.mem_map.mp hrow
      rfl)
    (by
      intro row hrow
      obtain ⟨⟨key, r⟩, -, rfl⟩ := List.mem_map.mp hrow
      show ∀ p ∈ ingressDict key r, InRange p
      simp only [ingressDict, List.forall_mem_cons, List.not_mem_nil, false_implies, implies_true,
        and_true]
      exact ⟨inRange_uint32 _ (by simp [csvFieldRanges]),
        inRange_uint64 _ (by simp [csvFieldRanges]),
        inRange_uint32 _ (by simp [csvFieldRanges]),
        inRange_uint64 _ (by simp [csvFieldRanges]),
        inRange_uint64 _ (by simp [csvFieldRanges]),
        inRange_uint32 _ (by simp [csvFieldRanges]),
        inRange_uint16 _ (by simp [csvFieldRanges]),
        inRange_int16 _ (by simp [csvFieldRanges])⟩)
    (by rw [List.map_map]; exact hkeys)
  rw [htext, hload]
  simp only [rows, List.map_map, List.length_map]
  rfl

theorem loadCsvTable_exportCpumapRecords (entries : List (PacketKey × CpumapRecord))
    (hkeys : (entries.map fun e => e.1.joinKey).Nodup) :
    loadCsvTable (exportCpumapRecords entries) cpumapRequired
      = .ok ⟨entries.map fun e => (e.1.joinKey, cpumapDict e.1 e.2), entries.length, 0, 0⟩ := by
  let more := ["cpu", "cpumap_ns", "flags", "requested_path"].map String.toList
  let rows := entries.map fun e => exportRowOf e.1.flowId e.1.sequence (cpumapDict e.1 e.2)
  have htext : exportCpumapRecords entries = exportText more rows := by
    have hheader : csvLine ("flow_id".toList :: "sequence".toList :: more) = cpumapHeader := by
      decide
    rw [exportText, hheader, exportCpumapRecords, List.flatMap_map]
    simp only [exportRowOf, ExportRow.cells, cpumapDict, List.drop_succ_cons, List.drop_zero,
      List.map_cons, List.map_nil, intText_natCast]
  have hload := loadCsvTable_exportText
    (⟨by decide, by decide, by decide⟩ : Columns more) cpumapRequired (by decide) rows
    (by
      intro row hrow
      obtain ⟨e, -, rfl⟩ := List.mem_map.mp hrow
      rfl)
    (by
      intro row hrow
      obtain ⟨⟨key, r⟩, -, rfl⟩ := List.mem_map.mp hrow
      show ∀ p ∈ cpumapDict key r, InRange p
      simp only [cpumapDict, List.forall_mem_cons, List.not_mem_nil, false_implies, implies_true,
        and_true]
      exact ⟨inRange_uint32 _ (by simp [csvFieldRanges]),
        inRange_uint64 _ (by simp [csvFieldRanges]),
        inRange_uint32 _ (by simp [csvFieldRanges]),
        inRange_uint64 _ (by simp [csvFieldRanges]),
        inRange_uint32 _ (by simp [csvFieldRanges]),
        inRange_uint16 _ (by simp [csvFieldRanges])⟩)
    (by rw [List.map_map]; exact hkeys)
  rw [htext, hload]
  simp only [rows, List.map_map, List.length_map]
  rfl

theorem loadCsvTable_saveUserRecords (records : List XskUserRecord)
    (hkeys : (records.map XskUserRecord.joinKey).Nodup) :
    loadCsvTable (saveUserRecords records) afxdpRequired
      = .ok ⟨records.map fun r => (r.joinKey, xskDict r), records.length, 0, 0⟩ := by
  let more := ["rx_queue", "tx_realtime_ns", "user_rx_mono_ns", "user_rx_real_ns", "hw_rx_ns",
    "initial_xdp_ns", "meta_flags", "requested_path", "timestamp_error", "packet_length",
    "validation_flags"].map String.toList
  let rows := records.map fun r => exportRowOf r.flowId r.sequence (xskDict r)
  have htext : saveUserRecords records = exportText more rows := by
    have hheader : csvLine ("flow_id".toList :: "sequence".toList :: more) = userHeader := by
      decide +kernel
    rw [exportText, hheader, saveUserRecords, List.flatMap_map]
    simp only [exportRowOf, ExportRow.cells, xskDict, List.drop_succ_cons, List.drop_zero,
      List.map_cons, List.map_nil, intText_natCast]
  have hload := loadCsvTable_exportText
    (⟨by decide, by decide, by decide⟩ : Columns more) afxdpRequired (by decide) rows
    (by
      intro row hrow
      obtain ⟨r, -, rfl⟩ := List.mem_map.mp hrow
      rfl)
    (by
      intro row hrow
      obtain ⟨r, -, rfl⟩ := List.mem_map.mp hrow
      show ∀ p ∈ xskDict r, InRange p
      simp only [xskDict, List.forall_mem_cons, List.not_mem_nil, false_implies, implies_true,
        and_true]
      exact ⟨inRange_uint32 _ (by simp [csvFieldRanges]),
        inRange_uint64 _ (by simp [csvFieldRanges]),
        inRange_uint32 _ (by simp [csvFieldRanges]),
        inRange_int64 _ (by simp [csvFieldRanges]),
        inRange_uint64 _ (by simp [csvFieldRanges]),
        inRange_int64 _ (by simp [csvFieldRanges]),
        inRange_uint64 _ (by simp [csvFieldRanges]),
        inRange_uint64 _ (by simp [csvFieldRanges]),
        inRange_uint32 _ (by simp [csvFieldRanges]),
        inRange_uint16 _ (by simp [csvFieldRanges]),
        inRange_int16 _ (by simp [csvFieldRanges]),
        inRange_uint32 _ (by simp [csvFieldRanges]),
        inRange_uint32 _ (by simp [csvFieldRanges])⟩)
    (by rw [List.map_map]; exact hkeys)
  rw [htext, hload]
  simp only [rows, List.map_map, List.length_map]
  rfl

/-! ## The UDP records

A binary file of fixed records; the only redundancy in them is the reserved fields. -/

/-- **The struct reads back**, field by field. -/
theorem unpackSample_bytes (r : SampleRecord) : unpackSample r.bytes = r := by
  have hbytes : bytesAt (frameView r.bytes) 0 56 = r.bytes := by
    have h := bytesAt_getD [] r.bytes [] 0
    rwa [List.nil_append, List.append_nil, List.length_nil, r.length_bytes] at h
  rw [show 56 = 8 + (8 + (8 + (8 + (8 + (4 + (4 + (2 + (2 + 4)))))))) from rfl, bytesAt_add,
    bytesAt_add, bytesAt_add, bytesAt_add, bytesAt_add, bytesAt_add, bytesAt_add, bytesAt_add,
    bytesAt_add] at hbytes
  simp only [SampleRecord.bytes, Nat.zero_add, Nat.reduceAdd] at hbytes
  obtain ⟨hseq, hbytes⟩ := List.append_inj hbytes (by simp)
  obtain ⟨htx, hbytes⟩ := List.append_inj hbytes (by simp)
  obtain ⟨hmono, hbytes⟩ := List.append_inj hbytes (by simp)
  obtain ⟨hreal, hbytes⟩ := List.append_inj hbytes (by simp)
  obtain ⟨hhw, hbytes⟩ := List.append_inj hbytes (by simp)
  obtain ⟨hflow, hbytes⟩ := List.append_inj hbytes (by simp)
  obtain ⟨hlen, hbytes⟩ := List.append_inj hbytes (by simp)
  obtain ⟨hflags, hbytes⟩ := List.append_inj hbytes (by simp)
  obtain ⟨hres16, hres32⟩ := List.append_inj hbytes (by simp)
  unfold unpackSample SampleRecord.bytes
  simp only [leNat_of_bytesAt hseq, leNat_of_bytesAt htx, leNat_of_bytesAt hmono,
    leNat_of_bytesAt hreal, leNat_of_bytesAt hhw, leNat_of_bytesAt hflow, leNat_of_bytesAt hlen,
    leNat_of_bytesAt hflags, leNat_of_bytesAt hres16, leNat_of_bytesAt hres32]
  simp

/-- The file is cut into the records that were written. -/
theorem udpChunks_saveRecords (records : List SampleRecord) :
    udpChunks (saveRecords records) = records.map SampleRecord.bytes := by
  have hsize : ∀ r ∈ records, r.bytes.length = udpRecordSize := fun r _ => r.length_bytes
  have hlen : (saveRecords records).length = udpRecordSize * records.length :=
    Framing.length_frames hsize
  have hcount : (saveRecords records).length / udpRecordSize = records.length := by
    rw [hlen]
    exact Nat.mul_div_cancel_left _ (by decide)
  unfold udpChunks
  rw [hcount]
  refine List.ext_getElem (by simp) fun k hk hk' => ?_
  have hk : k < records.length := by simpa using hk'
  have hsplit : records = records.take k ++ records[k] :: records.drop (k + 1) := by simp
  have hbefore : (records.take k).length = k := by simp; omega
  have hframes : saveRecords records
      <+: (records.take k ++ records[k] :: records.drop (k + 1)).flatMap SampleRecord.bytes := by
    rw [← hsplit]
    exact List.prefix_rfl
  have hblock : Framing.block udpRecordSize (records.take k).length (saveRecords records)
      = records[k].bytes :=
    Framing.block_eq_frame (fun r _ => r.length_bytes) hframes
      (by rw [hbefore, hlen]; exact Nat.mul_le_mul_left _ hk)
  rw [hbefore] at hblock
  simpa using hblock

theorem validateKey_sample (index : Nat) (r : SampleRecord) :
    validateKey index r.flowId.toNat r.seq.toNat = .ok () := by
  have hflow := r.flowId.toNat_lt
  have hseq := r.seq.toNat_lt
  rw [validateKey, if_neg (by omega), if_neg (by omega)]

/-- The key check never fails on unpacked values. -/
theorem loadUdpChunks_cons (index : Nat) (table : SourceTable) (chunk : List UInt8)
    (rest : List (List UInt8)) (r : SampleRecord) (hr : unpackSample chunk = r) :
    loadUdpChunks index table (chunk :: rest)
      = if r.reserved16 ≠ 0 ∨ r.reserved32 ≠ 0 then .error (.reservedNonzero index)
        else loadUdpChunks (index + 1) (table.add r.key (udpRecord r)) rest := by
  rw [loadUdpChunks, hr]
  simp only [bind, Except.bind, validateKey_sample]

theorem loadUdpChunks_bytes (index : Nat) (table : SourceTable) (records : List SampleRecord)
    (hreserved : ∀ r ∈ records, r.reserved16 = 0 ∧ r.reserved32 = 0) :
    loadUdpChunks index table (records.map SampleRecord.bytes)
      = .ok (table.addAll (records.map fun r => (r.key, udpRecord r))) := by
  induction records generalizing index table with
  | nil => rfl
  | cons r records ih =>
    obtain ⟨h16, h32⟩ := hreserved r List.mem_cons_self
    have hzero : ¬(r.reserved16 ≠ 0 ∨ r.reserved32 ≠ 0) := by simp [h16, h32]
    rw [List.map_cons, loadUdpChunks_cons _ _ _ _ r (unpackSample_bytes r), if_neg hzero]
    exact ih (index + 1) _ fun q hq => hreserved q (List.mem_cons_of_mem _ hq)

/-- **UDP records are loaded as they were saved**, the first one of each key. -/
theorem loadUdpRecords_saveRecords (records : List SampleRecord)
    (hreserved : ∀ r ∈ records, r.reserved16 = 0 ∧ r.reserved32 = 0) :
    ∃ table, loadUdpRecords (saveRecords records) = .ok table
      ∧ table.rows = records.length
      ∧ table.Counted
      ∧ ∀ key, table.records.lookup key = (records.find? fun r => r.key = key).map udpRecord := by
  have hlen : (saveRecords records).length % udpRecordSize = 0 := by
    rw [saveRecords, Framing.length_frames fun r _ => r.length_bytes]
    exact Nat.mul_mod_right _ _
  refine ⟨emptyTable.addAll (records.map fun r => (r.key, udpRecord r)), ?_, ?_,
    SourceTable.counted_addAll SourceTable.counted_empty _, fun key => ?_⟩
  · rw [loadUdpRecords, if_neg (not_not.mpr hlen), udpChunks_saveRecords,
      loadUdpChunks_bytes 1 emptyTable records hreserved]
  · rw [SourceTable.rows_addAll]
    simp [emptyTable]
  · rw [SourceTable.lookup_addAll, List.find?_map, Option.map_map]
    rfl

theorem loadUdpChunks_rejects {chunks : List (List UInt8)}
    (h : ∃ chunk ∈ chunks,
      (unpackSample chunk).reserved16 ≠ 0 ∨ (unpackSample chunk).reserved32 ≠ 0)
    (index : Nat) (table : SourceTable) : ∃ e, loadUdpChunks index table chunks = .error e := by
  induction chunks generalizing index table with
  | nil =>
    obtain ⟨chunk, hmem, -⟩ := h
    cases hmem
  | cons chunk chunks ih =>
    rw [loadUdpChunks_cons index table chunk chunks _ rfl]
    by_cases hhere : (unpackSample chunk).reserved16 ≠ 0 ∨ (unpackSample chunk).reserved32 ≠ 0
    · rw [if_pos hhere]
      exact ⟨_, rfl⟩
    · rw [if_neg hhere]
      obtain ⟨bad, hmem, hbad⟩ := h
      rcases List.mem_cons.mp hmem with rfl | hmem
      · exact absurd hbad hhere
      · exact ih ⟨bad, hmem, hbad⟩ _ _

theorem loadUdpRecords_rejects {contents : List UInt8}
    (h : contents.length % udpRecordSize ≠ 0 ∨ ∃ chunk ∈ udpChunks contents,
      (unpackSample chunk).reserved16 ≠ 0 ∨ (unpackSample chunk).reserved32 ≠ 0) :
    ∃ e, loadUdpRecords contents = .error e := by
  unfold loadUdpRecords
  by_cases hsize : contents.length % udpRecordSize ≠ 0
  · exact ⟨_, if_pos hsize⟩
  · rw [if_neg hsize]
    rcases h with h | h
    · exact absurd h hsize
    · exact loadUdpChunks_rejects h 1 emptyTable

/-- **Exporters and loaders round-trip.** The entries of a map are listed in any order; their keys
are distinct in what the join looks at, since the parser leaves `reserved` zero. -/
theorem export_round_trip :
    (∀ entries : List (PacketKey × IngressRecord), (entries.map fun e => e.1.joinKey).Nodup →
      loadCsvTable (exportIngressRecords entries) ingressRequired
        = .ok ⟨entries.map fun e => (e.1.joinKey, ingressDict e.1 e.2), entries.length, 0, 0⟩)
    ∧ (∀ entries : List (PacketKey × CpumapRecord), (entries.map fun e => e.1.joinKey).Nodup →
      loadCsvTable (exportCpumapRecords entries) cpumapRequired
        = .ok ⟨entries.map fun e => (e.1.joinKey, cpumapDict e.1 e.2), entries.length, 0, 0⟩)
    ∧ (∀ records : List XskUserRecord, (records.map XskUserRecord.joinKey).Nodup →
      loadCsvTable (saveUserRecords records) afxdpRequired
        = .ok ⟨records.map fun r => (r.joinKey, xskDict r), records.length, 0, 0⟩)
    ∧ (∀ records : List SampleRecord, (∀ r ∈ records, r.reserved16 = 0 ∧ r.reserved32 = 0) →
      ∃ table, loadUdpRecords (saveRecords records) = .ok table
        ∧ table.rows = records.length
        ∧ table.rows = table.records.length + table.duplicateRows
        ∧ table.conflictingDuplicateRows ≤ table.duplicateRows
        ∧ (table.records.map Prod.fst).Nodup
        ∧ ∀ key, table.records.lookup key = (records.find? fun r => r.key = key).map udpRecord)
    ∧ ∀ contents : List UInt8,
      (contents.length % udpRecordSize ≠ 0 ∨ ∃ chunk ∈ udpChunks contents,
        (unpackSample chunk).reserved16 ≠ 0 ∨ (unpackSample chunk).reserved32 ≠ 0) →
      ∃ e, loadUdpRecords contents = .error e := by
  refine ⟨loadCsvTable_exportIngressRecords, loadCsvTable_exportCpumapRecords,
    loadCsvTable_saveUserRecords, fun records hreserved => ?_, fun _ => loadUdpRecords_rejects⟩
  obtain ⟨table, hload, hrows, hcounted, hlookup⟩ := loadUdpRecords_saveRecords records hreserved
  exact ⟨table, hload, hrows, hcounted.rows, hcounted.conflicts, hcounted.nodup, hlookup⟩

/-- A repeated key with different timestamps: both rows are counted, the first one is kept. -/
theorem export_round_trip_conflict :
    ∃ table, loadUdpRecords (saveRecords [⟨7, 100, 200, 300, 0, 1, 32, 0, 0, 0⟩,
        ⟨7, 100, 250, 300, 0, 1, 32, 0, 0, 0⟩]) = .ok table ∧ table.rows = 2 := by
  obtain ⟨table, hload, hrows, -⟩ := export_round_trip.2.2.2.1
    [⟨7, 100, 200, 300, 0, 1, 32, 0, 0, 0⟩, ⟨7, 100, 250, 300, 0, 1, 32, 0, 0, 0⟩] (by decide)
  exact ⟨table, hload, hrows⟩

end AceXdp
