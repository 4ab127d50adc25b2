import Mathlib.Data.List.DropRight
import AceXdp.Lib.CText
import AceXdp.Lib.Disk
import AceXdp.Runner.ManifestString

/-!
# AceXdp — the text of the manifest (`ace_manifest.c`)

What is gathered on the machine and the order in which it goes to the stream. The strings are those
of C, so the record of them is generic: the analysis has the same one with the strings it reads.

* **`piecesText_eq`**, **`written_of_piecesText`** — there is a text if and only if every piece has
  one, and it is theirs put together.
-/

namespace AceXdp.Manifest

open CText Decimal Disk Json

/-- A `char *`, by the bytes in front of its NUL. -/
structure CString where
  bytes : Bytes
  noNul : 0 ∉ bytes
  deriving DecidableEq

def CString.ofBuffer (buffer : Bytes) : CString :=
  ⟨cString buffer, fun h => absurd (List.mem_takeWhile_imp h) (by decide)⟩

/-- The characters of a C array, up to its NUL. -/
def CString.ofChars (chars : List Char) : CString := .ofBuffer (encode chars ++ [0])

/-- The memory from the pointer on. -/
def CString.memory (s : CString) : Bytes := s.bytes ++ [0]

inductive Errno where
  | eexist | einval | eilseq | estale | eio
  /-- one that the library or a program behind `capture` sets -/
  | other
  deriving DecidableEq, Repr

/-! ## What is gathered -/

def isAlnum (c : UInt8) : Bool :=
  (0x41 ≤ c && c ≤ 0x5a) || (0x61 ≤ c && c ≤ 0x7a) || (0x30 ≤ c && c ≤ 0x39)

def validRunId (value : CString) : Bool :=
  value.bytes ≠ [] && value.bytes.length ≤ 128
    && value.bytes.zipIdx.all fun p =>
      isAlnum p.1 || (p.2 ≠ 0 && (p.1 = 0x2e || p.1 = 0x5f || p.1 = 0x2d))

def isLineEnd (b : UInt8) : Bool := b = 0x0a || b = 0x0d

/-- `sizeof(buffer)` of `read_optional_text`. -/
def optionalTextSize : Nat := 65536

/-- `read_optional_text` of what the file holds; `none` is `NULL`, also where it cannot be read. -/
def readOptionalText (content : Option Bytes) : Option CString :=
  match content with
  | none => none
  | some content =>
    if optionalTextSize - 1 ≤ content.length then none
    else some (.ofBuffer (content.rdropWhile isLineEnd))

/-- What `git rev-parse` printed, without the end of its line. -/
def trimHead (text : Bytes) : CString := .ofBuffer ((cString text).rdropWhile isLineEnd)

/-- `struct stat`, as far as it is looked at; the times by seconds and nanoseconds. -/
structure Stat where
  isRegular : Bool
  size : Nat
  mtime : Int × Nat
  ctime : Int × Nat
  deriving DecidableEq, Repr

/-- What `open`, the two `fstat` and `sha256sum` between them give. -/
inductive ArtifactView where
  /-- `ENOENT` -/
  | absent
  | unreadable
  | opened (before : Option Stat) (result : Option Bytes) (after : Option Stat)

/-- `struct artifact`: what is known of the file unless it is `missing`. -/
structure Artifact (σ : Type) where
  path : σ
  digest : Option (Nat × σ)
  deriving DecidableEq

def isHexDigit (b : UInt8) : Bool := (0x30 ≤ b && b ≤ 0x39) || (0x61 ≤ b && b ≤ 0x66)

/-- The end of `artifact_digest`, with what `sha256sum` printed. -/
def digestOf (size : Nat) (result : CString) : Except Errno (Nat × CString) :=
  if result.bytes.length < 65 ∨ result.bytes[64]? ≠ some 0x20 then .error .eio
  else if (result.bytes.take 64).all isHexDigit then
    .ok (size, ⟨result.bytes.take 64, fun h => result.noNul (List.mem_of_mem_take h)⟩)
  else .error .eio

def artifactDigest (path : CString) : ArtifactView → Except Errno (Artifact CString)
  | .absent => .ok ⟨path, none⟩
  | .unreadable => .error .other
  | .opened none _ _ => .error .other
  | .opened (some before) result after =>
    if before.isRegular then
      match result, after with
      | some result, some after =>
        -- the file was written to while it was read
        if before.size ≠ after.size ∨ before.mtime ≠ after.mtime ∨ before.ctime ≠ after.ctime then
          .error .estale
        else (digestOf before.size (.ofBuffer result)).map fun digest => ⟨path, some digest⟩
      | _, _ => .error .other
    else .error .einval

/-! ## The record -/

/-- Everything the manifest holds, with strings of the kind `σ`. -/
structure Record (σ : Type) where
  runId : σ
  conditionId : σ
  interface : σ
  kernelRelease : σ
  architecture : σ
  cmdline : Option σ
  realtime : Option σ
  cpuOnline : Option σ
  cpuIsolated : Option σ
  repository : σ
  head : σ
  status : σ
  artifacts : List (Artifact σ)
  deriving DecidableEq

/-- `binaries`. -/
def binaries : List String :=
  ["BPF/xdp_loader", "BPF/afxdp_recv", "udp_socket/bin/sender", "udp_socket/bin/receiver",
    "udp_socket/bin/phc_calibrate", "udp_socket/bin/ace_clock", "udp_socket/bin/cpu_sample",
    "experiment/ace-run"]

/-- What the machine answers: `realpath`, `uname`, the two calls of `git`, the artifacts by their
paths, and the contents of the four optional files. -/
structure Machine where
  realpath : CString → Option CString
  uname : Option (CString × CString)
  head : CString → Option Bytes
  status : CString → Option Bytes
  artifact : CString → ArtifactView
  cmdline : Option Bytes
  realtime : Option Bytes
  cpuOnline : Option Bytes
  cpuIsolated : Option Bytes

/-- A result that may be missing. -/
def orFail {α : Type} : Option α → Except Errno α
  | some a => .ok a
  | none => .error .other

/-- What `ace_write_manifest` gathers before it makes a file. -/
def gather (m : Machine) (runId conditionId interface repo : CString) :
    Except Errno (Record CString) := do
  let repository ← orFail (m.realpath repo)
  let system ← orFail m.uname
  let head ← orFail (m.head repository)
  let status ← orFail (m.status repository)
  let artifacts ← binaries.mapM fun name =>
    let path := CString.ofBuffer (repository.bytes ++ 0x2f :: encode name.toList)
    artifactDigest path (m.artifact path)
  return { runId, conditionId, interface, repository, artifacts
           kernelRelease := system.1
           architecture := system.2
           cmdline := readOptionalText m.cmdline
           realtime := readOptionalText m.realtime
           cpuOnline := readOptionalText m.cpuOnline
           cpuIsolated := readOptionalText m.cpuIsolated
           head := trimHead head
           status := .ofBuffer status }

/-! ## The text -/

/-- What goes to the stream: a text whose write is checked, one whose write is not, and a string
that `json_string` encodes. -/
inductive Piece where
  | checked (text : List Char)
  | unchecked (text : List Char)
  | encoded (value : Option CString)

/-- `FIELD`. -/
def fieldPieces (name : String) (value : Option CString) : List Piece :=
  [.checked ('"' :: (name.toList ++ ['"', ':'])), .encoded value]

def artifactPieces (a : Artifact CString) : List Piece :=
  .unchecked ['\x7b'] :: (fieldPieces "path" (some a.path)
    ++ match a.digest with
      | none => [.unchecked ",\"missing\":true\x7d".toList]
      | some (bytes, digest) =>
        .checked (",\"bytes\":".toList ++ (natText bytes ++ [',']))
          :: (fieldPieces "sha256" (some digest) ++ [.unchecked ['\x7d']]))

def artifactsPieces (artifacts : List (Artifact CString)) : List Piece :=
  artifacts.zipIdx.flatMap fun p =>
    (if p.2 = 0 then [] else [.unchecked [',']]) ++ artifactPieces p.1

/-- The writes of `ace_write_manifest`, up to the flush. -/
def manifestPieces (r : Record CString) (conditionJson : List Char) : List Piece :=
  .checked "\x7b\n\"manifest_version\":1,".toList
    :: (fieldPieces "run_id" (some r.runId)
    ++ .unchecked [','] :: (fieldPieces "condition_id" (some r.conditionId)
    ++ .checked (",\n\"parameters\":".toList
        ++ (conditionJson ++ ",\n\"interface\":\x7b".toList))
    :: (fieldPieces "name" (some r.interface)
    ++ .unchecked "\x7d,\n\"system\":\x7b".toList
    :: (fieldPieces "kernel_release" (some r.kernelRelease)
    ++ .unchecked [','] :: (fieldPieces "architecture" (some r.architecture)
    ++ .unchecked [','] :: (fieldPieces "cmdline" r.cmdline
    ++ .unchecked [','] :: (fieldPieces "realtime" r.realtime
    ++ .unchecked [','] :: (fieldPieces "cpu_online" r.cpuOnline
    ++ .unchecked [','] :: (fieldPieces "cpu_isolated" r.cpuIsolated
    ++ .unchecked "\x7d,\n\"project_repository\":\x7b".toList
    :: (fieldPieces "path" (some r.repository)
    ++ .unchecked [','] :: (fieldPieces "head" (some r.head)
    ++ .unchecked [','] :: (fieldPieces "status" (some r.status)
    ++ .unchecked "\x7d,\n\"artifact_hashes\":[".toList
    :: (artifactsPieces r.artifacts
    ++ [.checked "]\n\x7d\n".toList])))))))))))))

/-- The text of a piece. -/
def Piece.text : Piece → Except Fault (List Char)
  | .checked text => .ok text
  | .unchecked text => .ok text
  | .encoded value => jsonString (value.map CString.memory)

def piecesText (pieces : List Piece) : Except Fault (List Char) :=
  (pieces.mapM Piece.text).map List.flatten

/-- What a stream that takes everything holds in the end. -/
def manifestText (r : Record CString) (conditionJson : List Char) : Except Fault (List Char) :=
  piecesText (manifestPieces r conditionJson)

/-! ## Pieces that are written -/

/-- The text of a string that is written. -/
def literal (value : Option CString) : List Char :=
  match jsonString (value.map CString.memory) with
  | .ok text => text
  | .error _ => []

/-- The text of a piece that is written. -/
def Piece.literal : Piece → List Char
  | .checked text => text
  | .unchecked text => text
  | .encoded value => Manifest.literal value

/-- A piece that is written. -/
def Piece.Written (p : Piece) : Prop := p.text = .ok p.literal

theorem Piece.written_of_text {p : Piece} {text : List Char} (h : p.text = .ok text) :
    p.Written := by
  cases p with
  | checked _ => rfl
  | unchecked _ => rfl
  | encoded value =>
    have hstring : jsonString (value.map CString.memory) = .ok text := h
    simp only [Piece.Written, Piece.text, Piece.literal, Manifest.literal, hstring]

theorem piecesText_eq {pieces : List Piece} (h : ∀ p ∈ pieces, p.Written) :
    piecesText pieces = .ok (pieces.flatMap Piece.literal) := by
  have hmap : pieces.mapM Piece.text = .ok (pieces.map Piece.literal) := by
    induction pieces with
    | nil => rfl
    | cons p pieces ih =>
      have hp : p.text = .ok p.literal := h p List.mem_cons_self
      rw [List.mapM_cons, hp, ih fun q hq => h q (List.mem_cons_of_mem _ hq)]
      rfl
  rw [piecesText, hmap]
  rfl

theorem written_of_piecesText {pieces : List Piece} {text : List Char}
    (h : piecesText pieces = .ok text) : ∀ p ∈ pieces, p.Written := by
  have hmap : ∃ texts, pieces.mapM Piece.text = .ok texts := by
    rw [piecesText] at h
    cases hm : pieces.mapM Piece.text with
    | error e =>
      rw [hm] at h
      cases h
    | ok texts => exact ⟨texts, rfl⟩
  clear h
  induction pieces with
  | nil => nofun
  | cons p pieces ih =>
    obtain ⟨texts, htexts⟩ := hmap
    rw [List.mapM_cons] at htexts
    cases hp : p.text with
    | error e =>
      rw [hp] at htexts
      cases htexts
    | ok t =>
      rw [hp] at htexts
      cases hrest : pieces.mapM Piece.text with
      | error e =>
        rw [hrest] at htexts
        cases htexts
      | ok rest =>
        exact List.forall_mem_cons.mpr ⟨Piece.written_of_text hp, ih ⟨rest, hrest⟩⟩

end AceXdp.Manifest
