import AceXdp.Join.Analyze
import AceXdp.Join.ClockValidation

/-!
# AceXdp — the full outer join loses and invents nothing

What a file says is stated without the loaders: the entries of its rows, in file order
(`csvEntries`, `udpEntries`). A table is loaded from some entries (`LoadedFrom`) when it keeps the
first entry of each key and counts the others; several UDP files are loaded from their entries one
after the other.

* `full_outer_join`: the rows, their keys, presence columns and raw columns, and the counts, against
  the entries of the sources; and that two UDP files must not share a key.
-/

namespace AceXdp

open Csv Decimal Checked

/-! ## The entries of a file -/

/-- A row of a CSV under its column names. -/
def readRecord (names row : List Text) : Record :=
  names.map fun field => (field, (((names.zip row).lookup field).bind readInt).getD 0)

def recordKey (record : Record) : Key := (column record "flow_id", column record "sequence")

def rowEntry (names row : List Text) : Key × Record :=
  (recordKey (readRecord names row), readRecord names row)

/-- The rows of a CSV source, in file order. -/
def csvEntries (text : Text) : List (Key × Record) :=
  match readTable ((splitLines text).filter isDataLine) with
  | some ⟨some names, rows⟩ => rows.map (rowEntry names)
  | _ => []

def sampleEntry (r : SampleRecord) : Key × Record := (r.key, udpRecord r)

/-- The records of a UDP file, in file order. -/
def udpEntries (contents : List UInt8) : List (Key × Record) :=
  (udpChunks contents).map fun chunk => sampleEntry (unpackSample chunk)

/-! ## Loading -/

/-- The table keeps the first entry of each key and counts the rest. -/
structure LoadedFrom (entries : List (Key × Record)) (table : SourceTable) : Prop where
  counted : table.Counted
  rows : table.rows = entries.length
  lookup : ∀ key, table.records.lookup key = entries.lookup key

theorem lookup_eq_find? (key : Key) (entries : List (Key × Record)) :
    entries.lookup key = (entries.find? fun e => e.1 = key).map Prod.snd := by
  induction entries with
  | nil => rfl
  | cons entry entries ih =>
    rw [List.lookup_cons, List.find?_cons, ih]
    by_cases hkey : key = entry.1
    · simp [hkey]
    · rw [beq_false_of_ne hkey, decide_eq_false (Ne.symm hkey)]

theorem loadedFrom_addAll (entries : List (Key × Record)) :
    LoadedFrom entries (emptyTable.addAll entries) := by
  refine ⟨SourceTable.counted_addAll SourceTable.counted_empty entries, ?_, fun key => ?_⟩
  · rw [SourceTable.rows_addAll]
    exact Nat.zero_add _
  · rw [SourceTable.lookup_addAll, lookup_eq_find? key entries]
    rfl

theorem loadedFrom_empty : LoadedFrom [] emptyTable := loadedFrom_addAll []

theorem parseInteger_ok {value : Option Text} {row : Nat} {field : Text} {z : Int}
    (h : parseInteger value row field = .ok z) : (value.bind readInt).getD 0 = z := by
  unfold parseInteger at h
  cases value with
  | none => cases h
  | some text =>
    dsimp only at h
    split at h
    · cases h
    · rw [Option.bind_some]
      cases hread : readInt text with
      | none => rw [hread] at h; cases h
      | some n =>
        rw [hread] at h
        exact Except.ok.inj h

theorem parseRecord_ok {names row : List Text} {number : Nat} {record : Record}
    (h : parseRecord names row number = .ok record) : record = readRecord names row := by
  refine mapM_ok_eq_map (fun field entry hentry => ?_) h
  obtain ⟨z, hz, rfl⟩ := map_eq_ok.mp hentry
  rw [parseInteger_ok hz]

theorem lookup_recordKey {record : Record} {flowId sequence : Int}
    (hflow : record.lookup "flow_id".toList = some flowId)
    (hsequence : record.lookup "sequence".toList = some sequence) :
    recordKey record = (flowId, sequence) := by
  rw [recordKey, column, column, hflow, hsequence]
  rfl

theorem loadCsvRows_ok {names : List Text} :
    ∀ {rows : List (List Text)} {number : Nat} {table table' : SourceTable},
      loadCsvRows names number table rows = .ok table' →
      table' = table.addAll (rows.map (rowEntry names))
  | [], _, _, _, h => (Except.ok.inj h).symm
  | row :: rest, number, table, table', h => by
    unfold loadCsvRows at h
    split at h
    · cases h
    · obtain ⟨record, hrecord, h⟩ := bind_eq_ok.mp h
      obtain ⟨-, -, h⟩ := bind_eq_ok.mp h
      rw [parseRecord_ok hrecord] at h
      split at h
      · rename_i flowId sequence hflow hsequence
        obtain ⟨-, -, h⟩ := bind_eq_ok.mp h
        rw [loadCsvRows_ok h, ← lookup_recordKey hflow hsequence]
        rfl
      · cases h

/-- **A CSV source** is loaded from its rows. -/
theorem loadCsvTable_ok {text : Text} {required : List Text} {table : SourceTable}
    (h : loadCsvTable text required = .ok table) : LoadedFrom (csvEntries text) table := by
  unfold loadCsvTable at h
  unfold csvEntries
  cases hfile : readTable ((splitLines text).filter isDataLine) with
  | none => rw [hfile] at h; cases h
  | some file =>
    rw [hfile] at h
    obtain ⟨names, hnames, h⟩ := bind_eq_ok.mp h
    obtain ⟨fieldnames, rows⟩ := file
    cases fieldnames with
    | none => cases hnames
    | some header =>
      have hheader : names = header := by
        unfold validateCsvHeader at hnames
        dsimp only at hnames
        split_ifs at hnames
        exact (Except.ok.inj hnames).symm
      rw [hheader] at h
      rw [loadCsvRows_ok h]
      exact loadedFrom_addAll _

theorem loadUdpChunks_ok :
    ∀ {chunks : List (List UInt8)} {index : Nat} {table table' : SourceTable},
      loadUdpChunks index table chunks = .ok table' →
      table' = table.addAll (chunks.map fun chunk => sampleEntry (unpackSample chunk))
  | [], _, _, _, h => (Except.ok.inj h).symm
  | chunk :: rest, index, table, table', h => by
    rw [loadUdpChunks] at h
    obtain ⟨-, -, h⟩ := bind_eq_ok.mp h
    split at h
    · cases h
    · rw [loadUdpChunks_ok h]
      rfl

/-- **A UDP file** is loaded from its records. -/
theorem loadUdpRecords_ok {contents : List UInt8} {table : SourceTable}
    (h : loadUdpRecords contents = .ok table) : LoadedFrom (udpEntries contents) table := by
  unfold loadUdpRecords at h
  split at h
  · cases h
  · rw [loadUdpChunks_ok h]
    exact loadedFrom_addAll _

namespace LoadedFrom

variable {entries : List (Key × Record)} {table : SourceTable} (h : LoadedFrom entries table)

include h

/-- The keys of the table are those of the entries. -/
theorem mem_keys (key : Key) : key ∈ table.keys ↔ key ∈ entries.map Prod.fst := by
  rw [← not_iff_not, ← SourceTable.lookup_eq_none_iff, h.lookup, List.lookup_eq_none_iff,
    List.mem_map]
  constructor
  · rintro hall ⟨entry, hentry, rfl⟩
    simpa using hall entry hentry
  · intro hnone entry hentry
    have hne : key ≠ entry.1 := fun heq => hnone ⟨entry, hentry, heq.symm⟩
    simpa using hne

/-- A key has a record exactly when it occurs. -/
theorem lookup_isSome (key : Key) :
    (entries.lookup key).isSome = decide (key ∈ entries.map Prod.fst) := by
  rw [← h.lookup, Bool.eq_iff_iff, decide_eq_true_eq, ← h.mem_keys, ← not_iff_not,
    ← SourceTable.lookup_eq_none_iff, Option.not_isSome_iff_eq_none]

/-- Every key has one record. -/
theorem unique_keys : table.records.length = (entries.map Prod.fst).dedup.length := by
  have hperm : table.keys.Perm (entries.map Prod.fst).dedup := by
    refine (List.perm_ext_iff_of_nodup h.counted.nodup (List.nodup_dedup _)).mpr fun key => ?_
    rw [List.mem_dedup, h.mem_keys]
  rw [← hperm.length_eq, SourceTable.keys, List.length_map]

end LoadedFrom

/-! ## Several UDP files

Each file may repeat its own keys; a key in two files is an error. -/

/-- Two files without a common key. -/
def NoSharedKey (a b : List UInt8) : Prop :=
  ∀ key ∈ (udpEntries a).map Prod.fst, key ∉ (udpEntries b).map Prod.fst

theorem shared_key_free {files : List (List UInt8)} (h : files.Pairwise NoSharedKey) {i j : Nat}
    {a b : List UInt8} (ha : files[i]? = some a) (hb : files[j]? = some b) (hij : i ≠ j) :
    NoSharedKey a b := by
  obtain ⟨hi, rfl⟩ := List.getElem?_eq_some_iff.mp ha
  obtain ⟨hj, rfl⟩ := List.getElem?_eq_some_iff.mp hb
  rcases Nat.lt_or_gt_of_ne hij with hlt | hlt
  · exact List.pairwise_iff_getElem.mp h i j hi hj hlt
  · intro key hki hkj
    exact List.pairwise_iff_getElem.mp h j i hj hi hlt key hkj hki

/-- The merge of the files so far: loaded from their entries, and no key is in two of them. -/
structure Merged (files : List (List UInt8)) (table : SourceTable) : Prop where
  loaded : LoadedFrom (files.flatMap udpEntries) table
  separate : files.Pairwise NoSharedKey

/-- **One more file**: it shares no key with those before, or the merge is refused. -/
theorem Merged.add {files : List (List UInt8)} {merged merged' : SourceTable}
    (h : Merged files merged) {contents : List UInt8}
    (hmerge : mergeUdp merged contents = .ok merged') : Merged (files ++ [contents]) merged' := by
  obtain ⟨table, htable, hmerge⟩ := bind_eq_ok.mp hmerge
  have hfile := loadUdpRecords_ok (mapError_eq_ok.mp htable)
  cases hoverlap : merged.keys.filter (· ∈ table.keys) with
  | cons key rest => rw [hoverlap] at hmerge; cases hmerge
  | nil =>
    rw [hoverlap] at hmerge
    cases hmerge
    have hdisjoint : ∀ key ∈ merged.keys, key ∉ table.keys := by
      intro key hkey hboth
      have hmem : key ∈ merged.keys.filter (· ∈ table.keys) :=
        List.mem_filter.mpr ⟨hkey, decide_eq_true hboth⟩
      rw [hoverlap] at hmem
      cases hmem
    refine ⟨⟨⟨?_, ?_, ?_⟩, ?_, fun key => ?_⟩, ?_⟩
    · show ((merged.records ++ table.records).map Prod.fst).Nodup
      rw [List.map_append, List.nodup_append]
      exact ⟨h.loaded.counted.nodup, hfile.counted.nodup, fun a ha b hb heq =>
        hdisjoint a ha (heq ▸ hb)⟩
    · have hrows := h.loaded.counted.rows
      have hrows' := hfile.counted.rows
      show merged.rows + table.rows = (merged.records ++ table.records).length
        + (merged.duplicateRows + table.duplicateRows)
      rw [List.length_append]
      omega
    · exact Nat.add_le_add h.loaded.counted.conflicts hfile.counted.conflicts
    · show merged.rows + table.rows = _
      rw [h.loaded.rows, hfile.rows, List.flatMap_append, List.length_append,
        List.flatMap_singleton]
    · show (merged.records ++ table.records).lookup key = _
      rw [List.lookup_append, h.loaded.lookup, hfile.lookup, List.flatMap_append,
        List.flatMap_singleton, List.lookup_append]
    · refine List.pairwise_append.mpr ⟨h.separate, List.pairwise_singleton _ _, ?_⟩
      intro file hmem other hother key hkey
      rw [List.mem_singleton.mp hother, ← hfile.mem_keys]
      refine hdisjoint key ((h.loaded.mem_keys key).mpr ?_)
      obtain ⟨entry, hentry, rfl⟩ := List.mem_map.mp hkey
      exact List.mem_map_of_mem (List.mem_flatMap.mpr ⟨file, hmem, hentry⟩)

theorem mergeUdp_ok {files : List (List UInt8)} {table : SourceTable}
    (h : files.foldlM mergeUdp emptyTable = .ok table) : Merged files table :=
  foldlM_ok (fun _ _ _ _ hmerged hadd => hmerged.add hadd) ⟨loadedFrom_empty, List.Pairwise.nil⟩ h

/-! ## The sources of a run

Every table holds the first record of each key of its file. -/

/-- The entries of the four sources. -/
structure SourceEntries where
  ingress : List (Key × Record)
  cpumap : List (Key × Record)
  afxdp : List (Key × Record)
  udp : List (Key × Record)

namespace SourceEntries

variable (e : SourceEntries)

/-- The key is in one of them. -/
def Occurs (key : Key) : Prop :=
  key ∈ e.ingress.map Prod.fst ∨ key ∈ e.cpumap.map Prod.fst ∨ key ∈ e.afxdp.map Prod.fst
    ∨ key ∈ e.udp.map Prod.fst

/-- The first occurrences of a key. -/
def first (key : Key) : RecordSources where
  ingress := e.ingress.lookup key
  cpumap := e.cpumap.lookup key
  afxdp := e.afxdp.lookup key
  udp := e.udp.lookup key

end SourceEntries

/-- What the files say; a source that is not given says nothing. -/
def AnalyzeInput.entries (input : AnalyzeInput) : SourceEntries where
  ingress := csvEntries input.ingress
  cpumap := input.cpumap.elim [] csvEntries
  afxdp := input.afxdp.elim [] csvEntries
  udp := (input.udpNative.getD []).flatMap udpEntries

structure SourcesLoaded (e : SourceEntries) (t : SourceTables) : Prop where
  ingress : LoadedFrom e.ingress t.ingress
  cpumap : LoadedFrom e.cpumap t.cpumap
  afxdp : LoadedFrom e.afxdp t.afxdp
  udp : LoadedFrom e.udp t.udp

theorem optionalTable_ok {text : Option Text} {required : List Text} {table : SourceTable}
    (h : optionalTable text required = .ok table) : LoadedFrom (text.elim [] csvEntries) table := by
  cases text with
  | none =>
    cases h
    exact loadedFrom_empty
  | some text => exact loadCsvTable_ok (mapError_eq_ok.mp h)

theorem loadSources_ok {input : AnalyzeInput} {t : SourceTables} (h : loadSources input = .ok t) :
    SourcesLoaded input.entries t ∧ (input.udpNative.getD []).Pairwise NoSharedKey := by
  obtain ⟨ingress, hingress, h⟩ := bind_eq_ok.mp h
  obtain ⟨cpumap, hcpumap, h⟩ := bind_eq_ok.mp h
  obtain ⟨afxdp, hafxdp, h⟩ := bind_eq_ok.mp h
  obtain ⟨udp, hudp, h⟩ := bind_eq_ok.mp h
  cases h
  have hmerged : Merged (input.udpNative.getD []) udp := by
    cases hfiles : input.udpNative with
    | none =>
      rw [hfiles] at hudp
      cases hudp
      exact ⟨loadedFrom_empty, List.Pairwise.nil⟩
    | some files =>
      rw [hfiles] at hudp
      exact mergeUdp_ok hudp
  exact ⟨⟨loadCsvTable_ok (mapError_eq_ok.mp hingress), optionalTable_ok hcpumap,
    optionalTable_ok hafxdp, hmerged.loaded⟩, hmerged.separate⟩

/-! ## The keys, sorted

The keys of all tables, each once, in increasing order. -/

/-- Before, as tuples. -/
def KeyLt (a b : Key) : Prop := a.1 < b.1 ∨ (a.1 = b.1 ∧ a.2 < b.2)

theorem keyLe_iff {a b : Key} : keyLe a b = true ↔ a.1 < b.1 ∨ (a.1 = b.1 ∧ a.2 ≤ b.2) := by
  simp [keyLe]

theorem KeyLt.of_le_of_ne {a b : Key} (h : keyLe a b = true) (hne : a ≠ b) : KeyLt a b := by
  have hdiffer : a.1 = b.1 → a.2 ≠ b.2 := fun h1 h2 => hne (Prod.ext h1 h2)
  rcases keyLe_iff.mp h with hlt | ⟨heq, hle⟩
  · exact Or.inl hlt
  · exact Or.inr ⟨heq, lt_of_le_of_ne hle (hdiffer heq)⟩

theorem sortedKeys_pairwise (t : SourceTables) : t.sortedKeys.Pairwise KeyLt := by
  have hsorted : t.sortedKeys.Pairwise fun a b => keyLe a b = true := by
    refine List.pairwise_mergeSort (fun a b c hab hbc => ?_) (fun a b => ?_) _
    · rw [keyLe_iff] at hab hbc ⊢
      omega
    · rw [Bool.or_eq_true, keyLe_iff, keyLe_iff]
      omega
  have hnodup : t.sortedKeys.Nodup :=
    ((List.mergeSort_perm _ _).nodup_iff).mpr (List.nodup_dedup _)
  exact hsorted.imp₂ (fun a b hle hne => KeyLt.of_le_of_ne hle hne) hnodup

theorem SourcesLoaded.mem_sortedKeys {e : SourceEntries} {t : SourceTables}
    (h : SourcesLoaded e t) (key : Key) : key ∈ t.sortedKeys ↔ e.Occurs key := by
  rw [SourceTables.sortedKeys, List.mem_mergeSort, List.mem_dedup, List.mem_append, List.mem_append,
    List.mem_append, h.ingress.mem_keys, h.cpumap.mem_keys, h.afxdp.mem_keys, h.udp.mem_keys,
    or_assoc, or_assoc]
  rfl

theorem SourcesLoaded.recordsOf_eq {e : SourceEntries} {t : SourceTables}
    (h : SourcesLoaded e t) (key : Key) : t.recordsOf key = e.first key := by
  rw [SourceTables.recordsOf, SourceEntries.first, h.ingress.lookup, h.cpumap.lookup,
    h.afxdp.lookup, h.udp.lookup]

/-! ## The rows

One row for each key, with the columns of each source that has it. -/

/-- The key a row is of. -/
def RowOf (key : Key) (row : RowDict) : Prop :=
  row.lookup "flow_id".toList = some (.int key.1) ∧ row.lookup "sequence".toList = some (.int key.2)

theorem RowOf.unique {key key' : Key} {row : RowDict} (h : RowOf key row) (h' : RowOf key' row) :
    key = key' := by
  have h1 := h.1.symm.trans h'.1
  have h2 := h.2.symm.trans h'.2
  simp only [Option.some.injEq, Cell.int.injEq] at h1 h2
  exact Prod.ext h1 h2

section Columns

variable (key : Key) (r : RecordSources) (c : Calibration) (clamp : Bool)

theorem rowOf_joinedDict : RowOf key (joinedDict key r c clamp) :=
  ⟨(lookup_joinedDict key r c clamp "flow_id").trans rfl,
    (lookup_joinedDict key r c clamp "sequence").trans rfl⟩

/-- The presence columns. -/
structure Present (row : RowDict) (ingress cpumap afxdp udp : Bool) : Prop where
  ingress : row.lookup "ingress_present".toList = some (.ofBool ingress)
  cpumap : row.lookup "cpumap_present".toList = some (.ofBool cpumap)
  afxdp : row.lookup "afxdp_present".toList = some (.ofBool afxdp)
  udp : row.lookup "udp_present".toList = some (.ofBool udp)

theorem present_joinedDict :
    Present (joinedDict key r c clamp) r.ingress.isSome r.cpumap.isSome r.afxdp.isSome
      r.udp.isSome :=
  ⟨(lookup_joinedDict key r c clamp "ingress_present").trans rfl,
    (lookup_joinedDict key r c clamp "cpumap_present").trans rfl,
    (lookup_joinedDict key r c clamp "afxdp_present").trans rfl,
    (lookup_joinedDict key r c clamp "udp_present").trans rfl⟩

theorem copiedColumns_nodup :
    (["flow_id", "sequence", "ingress_present", "cpumap_present", "afxdp_present", "udp_present"]
      ++ copiedColumns.map Prod.fst).Nodup := by
  decide +kernel

/-- **A copied column holds the field it copies.** -/
theorem lookup_copied {column : String × Origin × String} (hcolumn : column ∈ copiedColumns) :
    (joinedDict key r c clamp).lookup column.1.toList
      = some (.ofOption (value (r.record column.2.1) column.2.2)) := by
  have hraw : (rawColumns key r).lookup column.1
      = some (.ofOption (value (r.record column.2.1) column.2.2)) := by
    have hnodup : ((rawColumns key r).map Prod.fst).Nodup := by
      unfold rawColumns
      rw [List.map_append, List.map_map]
      exact copiedColumns_nodup
    refine lookup_of_mem (p := (column.1, _)) hnodup ?_
    exact List.mem_append_right _ (List.mem_map.mpr ⟨column, hcolumn, rfl⟩)
  rw [lookup_joinedDict, joinedColumns, List.lookup_append, hraw, Option.some_or]

end Columns

/-- What the summary says of a source, against its entries. -/
structure Accounted (entries : List (Key × Record)) (summary : SourceSummary) : Prop where
  rows : summary.rows = entries.length
  unique : summary.uniqueKeys = (entries.map Prod.fst).dedup.length
  balance : summary.rows = summary.uniqueKeys + summary.duplicateRows
  conflicts : summary.conflictingDuplicateRows ≤ summary.duplicateRows

theorem LoadedFrom.accounted {entries : List (Key × Record)} {table : SourceTable}
    (h : LoadedFrom entries table) (provided : Bool) :
    Accounted entries (sourceSummary table provided) :=
  ⟨h.rows, h.unique_keys, h.counted.rows, h.counted.conflicts⟩

theorem analyze_ok {input : AnalyzeInput} {analysis : Analysis}
    (h : analyze input = .ok analysis) :
    ∃ t c, loadSources input = .ok t ∧ analysis = joinTables input t c := by
  obtain ⟨t, ht, h⟩ := bind_eq_ok.mp h
  split at h
  · cases h
  · rename_i loaded hc
    exact ⟨t, calibrationOf hc, ht, (Except.ok.inj h).symm⟩

/-- The raw columns of a row, source by source: the name of the source stands in front of that of
the field, except for the time the CPUMAP program took and for what the user program received. -/
structure RawColumns (row : RowDict) (r : RecordSources) : Prop where
  ingress : ∀ field ∈ ["rx_queue", "hw_rx_ns", "initial_xdp_ns", "flags", "requested_path",
      "timestamp_error"],
    row.lookup ("ingress_" ++ field).toList = some (.ofOption (value r.ingress field))
  cpumap : ∀ field ∈ ["cpu", "flags", "requested_path"],
    row.lookup ("cpumap_" ++ field).toList = some (.ofOption (value r.cpumap field))
  cpumapNs : row.lookup "cpumap_ns".toList = some (.ofOption (value r.cpumap "cpumap_ns"))
  afxdp : ∀ field ∈ ["rx_queue", "hw_rx_ns", "initial_xdp_ns", "meta_flags", "requested_path",
      "validation_flags", "timestamp_error", "tx_realtime_ns", "user_rx_mono_ns",
      "user_rx_real_ns", "packet_length"],
    row.lookup ("afxdp_" ++ field).toList = some (.ofOption (value r.afxdp field))
  udp : ∀ field ∈ ["hw_rx_ns", "flags", "tx_realtime_ns", "user_rx_mono_ns", "user_rx_real_ns",
      "packet_length"],
    row.lookup ("udp_" ++ field).toList = some (.ofOption (value r.udp field))
  user : ∀ field ∈ ["packet_length", "tx_realtime_ns", "user_rx_mono_ns", "user_rx_real_ns"],
    row.lookup field.toList = some (.ofOption (value r.user field))

/-- The table of the joiner has all of them. -/
theorem rawColumns_joinedDict (key : Key) (r : RecordSources) (c : Calibration) (clamp : Bool) :
    RawColumns (joinedDict key r c clamp) r := by
  have hcopied (name : String) (origin : Origin) (field : String)
      (hmem : (name, origin, field) ∈ copiedColumns) :
      (joinedDict key r c clamp).lookup name.toList
        = some (.ofOption (value (r.record origin) field)) := lookup_copied key r c clamp hmem
  have htable : (∀ field ∈ ["rx_queue", "hw_rx_ns", "initial_xdp_ns", "flags", "requested_path",
        "timestamp_error"], ("ingress_" ++ field, .ingress, field) ∈ copiedColumns)
      ∧ (∀ field ∈ ["cpu", "flags", "requested_path"],
        ("cpumap_" ++ field, .cpumap, field) ∈ copiedColumns)
      ∧ (∀ field ∈ ["rx_queue", "hw_rx_ns", "initial_xdp_ns", "meta_flags", "requested_path",
        "validation_flags", "timestamp_error", "tx_realtime_ns", "user_rx_mono_ns",
        "user_rx_real_ns", "packet_length"], ("afxdp_" ++ field, .afxdp, field) ∈ copiedColumns)
      ∧ (∀ field ∈ ["hw_rx_ns", "flags", "tx_realtime_ns", "user_rx_mono_ns", "user_rx_real_ns",
        "packet_length"], ("udp_" ++ field, .udp, field) ∈ copiedColumns)
      ∧ ∀ field ∈ ["packet_length", "tx_realtime_ns", "user_rx_mono_ns", "user_rx_real_ns"],
        (field, .user, field) ∈ copiedColumns := by decide
  obtain ⟨hingress, hcpumap, hafxdp, hudp, huser⟩ := htable
  exact ⟨fun field h => hcopied _ .ingress field (hingress field h),
    fun field h => hcopied _ .cpumap field (hcpumap field h),
    hcopied "cpumap_ns" .cpumap "cpumap_ns" (by decide),
    fun field h => hcopied _ .afxdp field (hafxdp field h),
    fun field h => hcopied _ .udp field (hudp field h),
    fun field h => hcopied _ .user field (huser field h)⟩

/-- **The full outer join.** When the analysis succeeds, its rows increase strictly by key; a key has
a row exactly when it occurs in a source; the presence columns say in which, and the copied columns
come from its first occurrence there; every source's rows are its unique keys and its duplicates, of
which the conflicting ones are a part. It does not succeed when two UDP files share a key. -/
theorem full_outer_join (input : AnalyzeInput) :
    (∀ analysis, analyze input = .ok analysis →
      analysis.rows.Pairwise (fun a b => ∃ k l, RowOf k a ∧ RowOf l b ∧ KeyLt k l)
      ∧ (∀ key, (∃ row ∈ analysis.rows, RowOf key row) ↔ input.entries.Occurs key)
      ∧ (∀ row ∈ analysis.rows, ∀ key, RowOf key row →
        Present row (key ∈ input.entries.ingress.map Prod.fst)
          (key ∈ input.entries.cpumap.map Prod.fst) (key ∈ input.entries.afxdp.map Prod.fst)
          (key ∈ input.entries.udp.map Prod.fst)
        ∧ RawColumns row (input.entries.first key)
        ∧ ∀ column ∈ copiedColumns, row.lookup column.1.toList
          = some (.ofOption (value ((input.entries.first key).record column.2.1) column.2.2)))
      ∧ Accounted input.entries.ingress analysis.ingress
      ∧ Accounted input.entries.cpumap analysis.cpumap
      ∧ Accounted input.entries.afxdp analysis.afxdp
      ∧ Accounted input.entries.udp analysis.udp)
    ∧ ∀ files, input.udpNative = some files → ∀ (i j : Nat) a b, files[i]? = some a →
      files[j]? = some b →
      i ≠ j → ∀ key, key ∈ (udpEntries a).map Prod.fst → key ∈ (udpEntries b).map Prod.fst →
      ∃ error, analyze input = .error error := by
  constructor
  · intro analysis h
    obtain ⟨t, c, ht, rfl⟩ := analyze_ok h
    obtain ⟨hloaded, -⟩ := loadSources_ok ht
    refine ⟨?_, fun key => ?_, fun row hrow key hkey => ?_, hloaded.ingress.accounted _,
      hloaded.cpumap.accounted _, hloaded.afxdp.accounted _, hloaded.udp.accounted _⟩
    · refine List.pairwise_map.mpr ((sortedKeys_pairwise t).imp fun {k l} hlt => ?_)
      exact ⟨k, l, rowOf_joinedDict k _ c _, rowOf_joinedDict l _ c _, hlt⟩
    · rw [← hloaded.mem_sortedKeys]
      constructor
      · rintro ⟨row, hrow, hkey⟩
        obtain ⟨k, hk, rfl⟩ := List.mem_map.mp hrow
        rwa [hkey.unique (rowOf_joinedDict k _ c _)]
      · intro hkey
        exact ⟨_, List.mem_map_of_mem hkey, rowOf_joinedDict key _ c _⟩
    · obtain ⟨k, hk, rfl⟩ := List.mem_map.mp hrow
      obtain rfl := hkey.unique (rowOf_joinedDict k _ c _)
      rw [hloaded.recordsOf_eq]
      refine ⟨?_, rawColumns_joinedDict key _ c _,
        fun column hcolumn => lookup_copied key _ c _ hcolumn⟩
      rw [← hloaded.ingress.lookup_isSome, ← hloaded.cpumap.lookup_isSome,
        ← hloaded.afxdp.lookup_isSome, ← hloaded.udp.lookup_isSome]
      exact present_joinedDict key _ c _
  · intro files hfiles i j a b ha hb hij key hka hkb
    cases hanalyze : analyze input with
    | error error => exact ⟨error, rfl⟩
    | ok analysis =>
      obtain ⟨t, c, ht, -⟩ := analyze_ok hanalyze
      obtain ⟨-, hseparate⟩ := loadSources_ok ht
      rw [hfiles] at hseparate
      exact absurd hkb (shared_key_free hseparate ha hb hij key hka)

/-- One packet: two ingress rows that conflict, and a UDP record. -/
def duplicateInput : AnalyzeInput where
  ingress :=
    ("flow_id,sequence,rx_queue,hw_rx_ns,initial_xdp_ns,flags,requested_path,timestamp_error\n"
      ++ "1,7,0,1,2,19,0,0\n1,7,0,1,3,19,0,0\n").toList
  cpumap := none
  afxdp := none
  udpNative := some [SampleRecord.bytes
    { seq := 7, txNs := 0, userRxMonoNs := 3, userRxRealNs := 3, hwRxNs := 1, flowId := 1, len := 32
      flags := sampleHwtsValid, reserved16 := 0, reserved32 := 0 }]
  phcCalibration := [clockCapture]
  allowEndpointClamp := false

theorem full_outer_join_duplicate :
    ∃ analysis, analyze duplicateInput = .ok analysis ∧ analysis.ingress.duplicateRows = 1
      ∧ ∃ row ∈ analysis.rows, RowOf (1, 7) row := by
  obtain ⟨loaded, hc, -⟩ := loadCalibration_clockCapture
  have hsources : (loadSources duplicateInput).map (fun t =>
      (t.ingress.duplicateRows, decide ((1, 7) ∈ t.ingress.keys))) = .ok (1, true) := by
    decide +kernel
  obtain ⟨t, ht, heq⟩ := map_eq_ok.mp hsources
  obtain ⟨hrows, hkey⟩ := Prod.ext_iff.mp heq
  have hanalyze : analyze duplicateInput = .ok (joinTables duplicateInput t (calibrationOf hc)) := by
    refine (bind_ok ht).trans ?_
    split
    · rename_i error herror
      cases hc.symm.trans herror
    · rename_i loaded' hc'
      obtain rfl : loaded = loaded' := Except.ok.inj (hc.symm.trans hc')
      rfl
  obtain ⟨-, hoccurs, -⟩ := (full_outer_join duplicateInput).1 _ hanalyze
  refine ⟨_, hanalyze, hrows, (hoccurs (1, 7)).mpr (Or.inl ?_)⟩
  exact ((loadSources_ok ht).1.ingress.mem_keys (1, 7)).mp (of_decide_eq_true hkey)

end AceXdp
