import AceXdp.Abi
import AceXdp.Wire
import AceXdp.Lib.Csv
import AceXdp.Lib.Decimal
import AceXdp.Lib.Framing

/-!
# AceXdp — the source tables of the analyser

`load_csv_table` and `load_udp_records` of `join_results.py`: from the text of a CSV export and from
the bytes of a UDP capture to a table of records, first record of a key wins.
-/

namespace AceXdp

open ByteView Csv Decimal

abbrev Text := List Char

/-- `InputError` by what it reports, the `csv.Error` of the reader and the `KeyError` of a missing
key column included. -/
inductive InputError where
  | csvSyntax
  | headerMissing
  | emptyColumn
  | duplicateColumn
  | missingColumns (names : List Text)
  | extraFields (row : Nat)
  | missingField (row : Nat) (field : Text)
  | invalidInteger (row : Nat) (field value : Text)
  | outsideType (row : Nat) (field type : Text)
  | keyColumnMissing
  | badSize (size : Nat)
  | reservedNonzero (record : Nat)
  deriving DecidableEq, Repr

abbrev Key := Int × Int

instance : LawfulBEq Key := inferInstanceAs (LawfulBEq (Int × Int))

/-- `dict[str, int]`, in the order of insertion. -/
abbrev Record := List (Text × Int)

structure SourceTable where
  records : List (Key × Record)
  rows : Nat
  duplicateRows : Nat
  conflictingDuplicateRows : Nat
  deriving DecidableEq, Repr

def emptyTable : SourceTable := ⟨[], 0, 0, 0⟩

/-- The end of both loops: a key that is already there is counted, and counted again when the
record differs. -/
def SourceTable.add (table : SourceTable) (key : Key) (record : Record) : SourceTable :=
  match table.records.lookup key with
  | some previous =>
    { table with
      rows := table.rows + 1
      duplicateRows := table.duplicateRows + 1
      conflictingDuplicateRows :=
        table.conflictingDuplicateRows + if previous ≠ record then 1 else 0 }
  | none => { table with records := table.records ++ [(key, record)], rows := table.rows + 1 }

/-! ## CSV sources -/

/-- `str.isspace`. -/
def isSpace (c : Char) : Bool :=
  let n := c.toNat
  (9 ≤ n && n ≤ 13) || (28 ≤ n && n ≤ 32) || n = 0x85 || n = 0xa0 || n = 0x1680
    || (0x2000 ≤ n && n ≤ 0x200a) || n = 0x2028 || n = 0x2029 || n = 0x202f || n = 0x205f
    || n = 0x3000

/-- `data_lines`: neither blank nor a comment. -/
def isDataLine (line : Text) : Bool :=
  match line.dropWhile isSpace with
  | [] => false
  | c :: _ => c ≠ '#'

def parseInteger (value : Option Text) (row : Nat) (field : Text) : Except InputError Int :=
  match value with
  | none => .error (.missingField row field)
  | some text =>
    if text.all isSpace then .error (.missingField row field)
    else match readInt text with
      | some n => .ok n
      | none => .error (.invalidInteger row field text)

/-- An entry of `CSV_FIELD_RANGES`. -/
structure FieldRange where
  field : Text
  minimum : Int
  maximum : Int
  type : Text
  deriving DecidableEq, Repr

def uint64Range (field : String) : FieldRange :=
  ⟨field.toList, 0, 0xffffffffffffffff, "uint64".toList⟩
def uint32Range (field : String) : FieldRange := ⟨field.toList, 0, 0xffffffff, "uint32".toList⟩
def uint16Range (field : String) : FieldRange := ⟨field.toList, 0, 0xffff, "uint16".toList⟩
def int64Range (field : String) : FieldRange :=
  ⟨field.toList, -0x8000000000000000, 0x7fffffffffffffff, "int64".toList⟩
def int16Range (field : String) : FieldRange := ⟨field.toList, -0x8000, 0x7fff, "int16".toList⟩

def csvFieldRanges : List FieldRange :=
  [uint32Range "flow_id", uint64Range "sequence", uint32Range "rx_queue", uint32Range "cpu",
    uint64Range "hw_rx_ns", uint64Range "initial_xdp_ns", uint64Range "cpumap_ns",
    uint64Range "user_rx_mono_ns", int64Range "tx_realtime_ns", int64Range "user_rx_real_ns",
    uint32Range "flags", uint32Range "meta_flags", uint32Range "validation_flags",
    uint16Range "requested_path", int16Range "timestamp_error", uint32Range "packet_length"]

def FieldRange.violatedBy (range : FieldRange) (record : Record) : Bool :=
  match record.lookup range.field with
  | some value => ¬(range.minimum ≤ value ∧ value ≤ range.maximum)
  | none => false

/-- The first entry of the table that the record violates is reported. -/
def validateCsvRanges (record : Record) (row : Nat) : Except InputError Unit :=
  match csvFieldRanges.find? (·.violatedBy record) with
  | some range => .error (.outsideType row range.field range.type)
  | none => .ok ()

def validateKey (row : Nat) (flowId sequence : Int) : Except InputError Unit :=
  if ¬(0 ≤ flowId ∧ flowId ≤ 0xffffffff) then
    .error (.outsideType row "flow_id".toList "uint32".toList)
  else if ¬(0 ≤ sequence ∧ sequence ≤ 0xffffffffffffffff) then
    .error (.outsideType row "sequence".toList "uint64".toList)
  else .ok ()

/-- `validate_csv_header`; `required` is listed in the sorted order of the message. -/
def validateCsvHeader (fieldnames : Option (List Text)) (required : List Text) :
    Except InputError (List Text) :=
  match fieldnames with
  | none => .error .headerMissing
  | some names =>
    if [] ∈ names then .error .emptyColumn
    else if ¬names.Nodup then .error .duplicateColumn
    else
      let missing := required.filter (· ∉ names)
      if missing ≠ [] then .error (.missingColumns missing) else .ok names

/-- One record of the file under its column names. -/
def parseRecord (names row : List Text) (number : Nat) : Except InputError Record :=
  names.mapM fun field =>
    (parseInteger ((names.zip row).lookup field) number field).map fun value => (field, value)

/-- The loop of `load_csv_table` from row `number` on. -/
def loadCsvRows (names : List Text) (number : Nat) (table : SourceTable) :
    List (List Text) → Except InputError SourceTable
  | [] => .ok table
  | row :: rest =>
    if names.length < row.length then .error (.extraFields number)
    else do
      let record ← parseRecord names row number
      validateCsvRanges record number
      match record.lookup "flow_id".toList, record.lookup "sequence".toList with
      | some flowId, some sequence =>
        validateKey number flowId sequence
        loadCsvRows names (number + 1) (table.add (flowId, sequence) record) rest
      | _, _ => .error .keyColumnMissing

def loadCsvTable (text : Text) (required : List Text) : Except InputError SourceTable :=
  match readTable ((splitLines text).filter isDataLine) with
  | none => .error .csvSyntax
  | some file => do
    let names ← validateCsvHeader file.fieldnames required
    loadCsvRows names 2 emptyTable file.rows

/-- `required_columns`. -/
def ingressRequired : List Text :=
  ["flags", "flow_id", "hw_rx_ns", "initial_xdp_ns", "requested_path", "rx_queue", "sequence",
    "timestamp_error"].map String.toList
def cpumapRequired : List Text :=
  ["cpu", "cpumap_ns", "flags", "flow_id", "requested_path", "sequence"].map String.toList
def afxdpRequired : List Text :=
  ["flow_id", "hw_rx_ns", "initial_xdp_ns", "meta_flags", "packet_length", "requested_path",
    "rx_queue", "sequence", "timestamp_error", "tx_realtime_ns", "user_rx_mono_ns",
    "user_rx_real_ns", "validation_flags"].map String.toList

/-! ## The UDP source -/

/-- `UDP_RECORD.size`. -/
def udpRecordSize : Nat := 56

/-- One unpacked `@QqqqqIIHHI` on a little-endian LP64 host: the native alignment leaves no gap. -/
def unpackSample (chunk : List UInt8) : SampleRecord :=
  let v := frameView chunk
  { seq := UInt64.ofNat (leNat v 0 8)
    txNs := (UInt64.ofNat (leNat v 8 8)).toInt64
    userRxMonoNs := (UInt64.ofNat (leNat v 16 8)).toInt64
    userRxRealNs := (UInt64.ofNat (leNat v 24 8)).toInt64
    hwRxNs := (UInt64.ofNat (leNat v 32 8)).toInt64
    flowId := UInt32.ofNat (leNat v 40 4)
    len := UInt32.ofNat (leNat v 44 4)
    flags := UInt16.ofNat (leNat v 48 2)
    reserved16 := UInt16.ofNat (leNat v 50 2)
    reserved32 := UInt32.ofNat (leNat v 52 4) }

/-- The dictionary made of an unpacked record. -/
def udpRecord (r : SampleRecord) : Record :=
  [("flow_id".toList, r.flowId.toNat), ("sequence".toList, r.seq.toNat),
    ("tx_realtime_ns".toList, r.txNs.toInt), ("user_rx_mono_ns".toList, r.userRxMonoNs.toInt),
    ("user_rx_real_ns".toList, r.userRxRealNs.toInt), ("hw_rx_ns".toList, r.hwRxNs.toInt),
    ("packet_length".toList, r.len.toNat), ("flags".toList, r.flags.toNat)]

def SampleRecord.key (r : SampleRecord) : Key := (r.flowId.toNat, r.seq.toNat)

/-- The loop of `load_udp_records` from record `index` on. -/
def loadUdpChunks (index : Nat) (table : SourceTable) :
    List (List UInt8) → Except InputError SourceTable
  | [] => .ok table
  | chunk :: rest => do
    let r := unpackSample chunk
    validateKey index r.flowId.toNat r.seq.toNat
    if r.reserved16 ≠ 0 ∨ r.reserved32 ≠ 0 then .error (.reservedNonzero index)
    else loadUdpChunks (index + 1) (table.add r.key (udpRecord r)) rest

/-- `iter_unpack`: the file in records. -/
def udpChunks (contents : List UInt8) : List (List UInt8) :=
  (List.range (contents.length / udpRecordSize)).map fun k => Framing.block udpRecordSize k contents

def loadUdpRecords (contents : List UInt8) : Except InputError SourceTable :=
  if contents.length % udpRecordSize ≠ 0 then .error (.badSize contents.length)
  else loadUdpChunks 1 emptyTable (udpChunks contents)

end AceXdp
