import AceXdp.Lib.Fault
import AceXdp.Lib.Disk
import AceXdp.Lib.JsonDump
import AceXdp.Join.JoinedCsv

/-!
# AceXdp — `write_outputs` of the analyser

The joined CSV, the summary and the completion marker are created exclusively, in this order, and
removed again when anything fails. Every operation on the file system may raise, and the process may
be killed at each; a write reaches the disk in parts of any size. The descriptor and the list
`created` are variables of the function that its handler reads, so they are part of the state. Other
programs may be at work on the same files; what they do is up to the instance of `Adversary`.
-/

namespace AceXdp

open Csv Disk Fault Fault.Prog Json

/-- What the analyser takes from its language: the digest, the comparison of a fractional number
with an integer, and the directory relative paths start from. -/
structure Host where
  sha256 : Bytes → Str
  floatEqInt : List Char → Int → Bool
  cwd : Path

/-- The exceptions of `write_outputs`. -/
inductive OutputError where
  /-- refusing to overwrite an already complete output set -/
  | alreadyComplete
  /-- incomplete or corrupt prior output set exists -/
  | incompleteOutputs (existing : List Path)
  | inputArtifactsNotObject
  | emptyArtifactList (name : Str)
  | invalidArtifact (name : Str)
  | invalidArtifactPath (name : Str)
  | artifactChanged (name : Str) (index : Option Nat)
  | extraCsvKeys
  | keyError (key : Str)
  | valueError
  | osError
  deriving DecidableEq, Repr

/-- How the next operation ends. A write buffers some of its bytes and sends some of the buffer to
the disk, whichever way it ends. -/
inductive Decision where
  | proceed (flushed : Nat)
  | fail (buffered flushed : Nat)
  | kill (buffered flushed : Nat)
  deriving DecidableEq, Repr

/-- What decides how operations end and what happens to the files meanwhile. -/
class Adversary (ι : Type) extends Inhabited ι where
  decision : ι → Decision
  /-- what others have done when the operation starts -/
  interfere : ι → FileSystem → FileSystem
  /-- what reading a file in several blocks finds, and what others leave behind meanwhile -/
  reading : ι → FileSystem → Path → Option Bytes × FileSystem

/-- Nobody else is at work. -/
instance : Adversary Decision where
  default := .proceed 0
  decision := id
  interfere _ disk := disk
  reading _ disk path := (disk.read path, disk)

structure Session where
  disk : FileSystem
  /-- `descriptor`, by the path it is open on; `none` is `-1` -/
  descriptor : Option Path
  created : List Path
  /-- the text file of the `with` statement, and what it has buffered -/
  stream : Option (Path × Bytes)
  /-- an operation has raised -/
  failed : Bool
  /-- a call that raised has closed the descriptor, which the variable still names -/
  lost : Bool

/-- The state at the call. -/
def Session.start (disk : FileSystem) : Session := ⟨disk, none, [], none, false, false⟩

abbrev Writing (ι α : Type) : Type := Prog Session ι OutputError α

/-! ## Operations -/

variable {ι : Type} [Adversary ι] {α : Type}

def operation (f : ι → Decision → Session → Outcome OutputError α × Session) : Writing ι α :=
  op fun i s =>
    f i (Adversary.decision i) { s with disk := Adversary.interfere i s.disk }

/-- An operation that raises instead of taking effect. -/
def attempt (f : ι → Session → Outcome OutputError α × Session) : Writing ι α :=
  operation fun i d s =>
    match d with
    | .proceed _ => f i s
    | .fail _ _ => (.raised .osError, { s with failed := true })
    | .kill _ _ => (.killed, s)

def outputExists (path : Path) : Writing ι Bool :=
  attempt fun _ s => (.returned (s.disk path).isSome, s)

def readBytes (path : Path) : Writing ι Bytes :=
  attempt fun i s =>
    match Adversary.reading i s.disk path with
    | (some content, disk) => (.returned content, { s with disk := disk })
    | (none, disk) => (.raised .osError, { s with disk := disk, failed := true })

/-- `path.stat().st_size`. -/
def fileSize (path : Path) : Writing ι Nat :=
  attempt fun _ s =>
    match s.disk.read path with
    | some content => (.returned content.length, s)
    | none => (.raised .osError, { s with failed := true })

structure Digest where
  bytes : Nat
  sha256 : Str
  deriving DecidableEq, Repr

variable (host : Host)

/-- `file_digest`: the size comes from a second look. -/
def fileDigest (path : Path) : Writing ι Digest := do
  let content ← readBytes path
  let size ← fileSize path
  return ⟨size, host.sha256 content⟩

/-- `descriptor = reserve_output(path); created.append(path)`. -/
def reserveOutput (path : Path) : Writing ι Unit := do
  attempt fun _ s =>
    match s.disk path with
    | some _ => (.raised .osError, { s with failed := true })
    | none =>
      (.returned (), { s with
        disk := Function.update s.disk path (some (.file []))
        descriptor := some path })
  modify fun s => { s with created := s.created ++ [path] }

/-- `os.fdopen(descriptor, "w")`, and `descriptor = -1` behind it. The raw file comes first, and the
descriptor stays open when it cannot be made; what fails above it closes the raw file again, and the
descriptor with it. -/
def fdopen (path : Path) : Writing ι Unit := do
  attempt fun _ s => (.returned (), s)
  operation fun _ d s =>
    match d with
    | .proceed _ => (.returned (), { s with descriptor := none, stream := some (path, []) })
    | .fail _ _ => (.raised .osError, { s with lost := true, failed := true })
    | .kill _ _ => (.killed, s)

/-- `n` bytes of the buffer reach the disk. -/
def Session.emit (s : Session) (n : Nat) : Session :=
  match s.stream with
  | some (path, pending) =>
    { s with
      disk := Function.update s.disk path (match s.disk path with
        | some (.file content) => some (.file (content ++ pending.take n))
        | entry => entry)
      stream := some (path, pending.drop n) }
  | none => s

def Session.buffer (s : Session) (bytes : Bytes) : Session :=
  { s with stream := s.stream.map fun p => (p.1, p.2 ++ bytes) }

def writeBytes (bytes : Bytes) : Writing ι Unit :=
  operation fun _ d s =>
    match d with
    | .proceed flushed => (.returned (), (s.buffer bytes).emit flushed)
    | .fail buffered flushed =>
      (.raised .osError, { (s.buffer (bytes.take buffered)).emit flushed with failed := true })
    | .kill buffered flushed => (.killed, (s.buffer (bytes.take buffered)).emit flushed)

def Session.pending (s : Session) : Nat :=
  match s.stream with
  | some (_, pending) => pending.length
  | none => 0

def flushStream : Writing ι Unit :=
  operation fun _ d s =>
    match d with
    | .proceed _ => (.returned (), s.emit s.pending)
    | .fail _ flushed => (.raised .osError, { s.emit flushed with failed := true })
    | .kill _ flushed => (.killed, s.emit flushed)

def fsync : Writing ι Unit := attempt fun _ s => (.returned (), s)

/-- The end of the `with` statement; the descriptor is gone even when the last flush fails. -/
def closeStream : Writing ι Unit :=
  operation fun _ d s =>
    match d with
    | .proceed _ => (.returned (), { s.emit s.pending with stream := none })
    | .fail _ flushed => (.raised .osError, { s.emit flushed with stream := none, failed := true })
    | .kill _ flushed => (.killed, s.emit flushed)

/-- `with os.fdopen(...) as file:` around a body that ends with a flush and an `fsync`. -/
def withStream (path : Path) (body : Writing ι Unit) : Writing ι Unit := do
  fdopen path
  handle (do body; flushStream; fsync) fun e => do
    closeStream
    raise e
  closeStream

/-- `fsync_directories`: each parent once. -/
def fsyncDirectories (paths : List Path) : Writing ι Unit :=
  (paths.map Path.parent).dedup.forM fun _ => do
    attempt fun _ s => (.returned (), s)
    handle fsync fun e => do
      attempt fun _ s => (.returned (), s)
      raise e
    attempt fun _ s => (.returned (), s)

/-! ## The state of the outputs before the call -/

/-- A member of an object; the last one of a key that is repeated. -/
def field (members : List (Str × Value)) (key : String) : Option Value :=
  members.reverse.lookup (str key)

theorem field_of_mem {members : List (Str × Value)} {key : String} {value : Value}
    (hnodup : (members.map Prod.fst).Nodup) (h : (str key, value) ∈ members) :
    field members key = some value := by
  refine Csv.lookup_of_mem (p := (str key, value)) ?_ (List.mem_reverse.mpr h)
  rw [List.map_reverse, List.nodup_reverse]
  exact hnodup

/-- `value == n`. -/
def equalsInt (value : Option Value) (n : Int) : Bool :=
  match value with
  | some (.int m) => m = n
  | some (.bool b) => (if b then 1 else 0) = n
  | some (.float lexeme) => host.floatEqInt lexeme n
  | _ => false

def equalsStr (value : Option Value) (s : Str) : Bool :=
  match value with
  | some (.string t) => t = s
  | _ => false

def asObject (value : Option Value) : Writing ι (List (Str × Value)) :=
  match value with
  | some (.obj members) => pure members
  | _ => raise .valueError

/-- The comparison of a recorded output with the file. -/
def matchesRecord (record : List (Str × Value)) (path : Path) (actual : Digest) : Bool :=
  equalsStr (field record "path") path.text && equalsStr (field record "sha256") actual.sha256
    && equalsInt host (field record "bytes") actual.bytes

def completionSchemaVersion : Int := 2

/-- The `try` of `validate_output_state`. -/
def isComplete (csvPath jsonPath markerPath : Path) (runId : Str) : Writing ι Bool := do
  let content ← readBytes markerPath
  let marker ← asObject ((decode content).bind loads)
  let outputs ← asObject (field marker "outputs")
  let expectedCsv ← asObject (field outputs "joined_csv")
  let expectedJson ← asObject (field outputs "summary_json")
  let actualCsv ← fileDigest host csvPath
  let actualJson ← fileDigest host jsonPath
  return equalsInt host (field marker "completion_schema_version") completionSchemaVersion
    && equalsInt host (field marker "schema_version") completionSchemaVersion
    && equalsStr (field marker "artifact_kind") (str "ace-joined-run")
    && equalsStr (field marker "run_id") runId
    && matchesRecord host expectedCsv csvPath actualCsv
    && matchesRecord host expectedJson jsonPath actualJson

/-- `complete`: only three files can be a complete set, and one that cannot be read is none. -/
def completeSet (csvPath jsonPath markerPath : Path) (runId : Str) (existing : List Path) :
    Writing ι Bool :=
  if existing.length = 3 then
    handle (isComplete host csvPath jsonPath markerPath runId) fun _ => pure false
  else pure false

/-- The end of `validate_output_state`, with something already there. -/
def rejectOutputs (csvPath jsonPath markerPath : Path) (runId : Str) (existing : List Path) :
    Writing ι Unit := do
  let complete ← completeSet host csvPath jsonPath markerPath runId existing
  raise (if complete then .alreadyComplete else .incompleteOutputs existing)

/-- Those of the three paths that exist. -/
def existingOutputs (paths : List (Path × Bool)) : List Path :=
  (paths.filter Prod.snd).map Prod.fst

def validateOutputState (csvPath jsonPath markerPath : Path) (runId : Str) : Writing ι Unit := do
  let hasCsv ← outputExists csvPath
  let hasJson ← outputExists jsonPath
  let hasMarker ← outputExists markerPath
  let existing :=
    existingOutputs [(csvPath, hasCsv), (jsonPath, hasJson), (markerPath, hasMarker)]
  if existing = [] then pure ()
  else rejectOutputs host csvPath jsonPath markerPath runId existing

/-! ## The recorded inputs -/

/-- `Path(text)` from the working directory. -/
def pathOfText (text : Str) : Path :=
  let names := (text.splitOn '/'.toNat).filter fun name => name ≠ [] ∧ name ≠ ['.'.toNat]
  if text.head? = some '/'.toNat then names else host.cwd ++ names

/-- One specification of `verify_input_artifacts`. -/
def verifySpec (name : Str) (index : Option Nat) (spec : Value) : Writing ι Unit :=
  match spec with
  | .obj members =>
    match field members "path" with
    | some (.string path) =>
      if path = [] then raise (.invalidArtifactPath name)
      else do
        let actual ← fileDigest host (pathOfText host path)
        if equalsInt host (field members "bytes") actual.bytes
            && equalsStr (field members "sha256") actual.sha256 then pure ()
        else raise (.artifactChanged name index)
    | _ => raise (.invalidArtifactPath name)
  | _ => raise (.invalidArtifact name)

def verifyInputArtifacts (snapshot : List (Str × Value)) : Writing ι Unit :=
  snapshot.forM fun entry =>
    match entry.2 with
    | .null => pure ()
    | .arr specs =>
      if specs = [] then raise (.emptyArtifactList entry.1)
      else specs.zipIdx.forM fun spec => verifySpec host entry.1 (some spec.2) spec.1
    | spec => verifySpec host entry.1 none spec

/-! ## The three files -/

/-- `writer.writeheader(); writer.writerows(rows)`. -/
def writeRows (rows : List RowDict) : Writing ι Unit := do
  writeBytes (encode (writeRow joinedFields))
  rows.forM fun row =>
    match dictRow joinedFields row with
    | some line => writeBytes (encode line)
    | none => raise .extraCsvKeys

/-- `json.dump(..., indent=2, sort_keys=True)` and the newline behind it. -/
def jsonText (value : Value) : List Char := dumpIndent 0 (sortKeys value) ++ ['\n']

def writeJson (value : Value) : Writing ι Unit := do
  writeBytes (encode (dumpIndent 0 (sortKeys value)))
  writeBytes (encode ['\n'])

def outputRecord (path : Path) (digest : Digest) : Value :=
  .obj [(str "path", .string path.text), (str "bytes", .int digest.bytes),
    (str "sha256", .string digest.sha256)]

def completion (csvPath jsonPath : Path) (runId : Str) (summaryVersion : Value)
    (rawInputs : List (Str × Value)) (csvDigest jsonDigest : Digest) : Value :=
  .obj [(str "schema_version", .int completionSchemaVersion),
    (str "completion_schema_version", .int completionSchemaVersion),
    (str "artifact_kind", .string (str "ace-joined-run")),
    (str "run_id", .string runId),
    (str "summary_schema_version", summaryVersion),
    (str "inputs", .obj rawInputs),
    (str "outputs", .obj [(str "joined_csv", outputRecord csvPath csvDigest),
      (str "summary_json", outputRecord jsonPath jsonDigest)])]

/-- `if descriptor >= 0: os.close(descriptor)` of the handler. A descriptor that is closed already
is refused; a close that fails has released it nevertheless. -/
def closeDescriptor (descriptor : Option Path) : Writing ι Unit :=
  match descriptor with
  | some _ =>
    operation fun _ d s =>
      match d with
      | .proceed _ =>
        if s.lost then (.raised .osError, { s with failed := true })
        else (.returned (), { s with descriptor := none })
      | .fail _ _ => (.raised .osError, { s with lost := true, failed := true })
      | .kill _ _ => (.killed, s)
  | none => pure ()

/-- `path.unlink()`, which is taken to succeed; a file that is gone is no error. -/
def unlink (path : Path) : Writing ι Unit :=
  operation fun _ d s =>
    match d with
    | .kill _ _ => (.killed, s)
    | _ => (.returned (), { s with disk := Function.update s.disk path none })

/-- The handler of `write_outputs`. -/
def discardOutputs (e : OutputError) : Writing ι Unit := do
  let s ← get
  closeDescriptor s.descriptor
  s.created.reverse.forM unlink
  raise e

/-- `summary[key]`. -/
def requireField (members : List (Str × Value)) (key : String) : Writing ι Value :=
  match field members key with
  | some value => pure value
  | none => raise (.keyError (str key))

/-- The `try` of `write_outputs`. -/
def createOutputs (csvPath jsonPath markerPath : Path) (rows : List RowDict)
    (summary : List (Str × Value)) (runId : Str) (rawInputs : List (Str × Value)) :
    Writing ι Unit := do
  reserveOutput csvPath
  withStream csvPath (writeRows rows)
  reserveOutput jsonPath
  withStream jsonPath (writeJson (.obj summary))
  fsyncDirectories [csvPath, jsonPath]
  let summaryVersion ← requireField summary "schema_version"
  let csvDigest ← fileDigest host csvPath
  let jsonDigest ← fileDigest host jsonPath
  reserveOutput markerPath
  withStream markerPath (writeJson
    (completion csvPath jsonPath runId summaryVersion rawInputs csvDigest jsonDigest))
  fsyncDirectories [markerPath]

def writeOutputs (csvPath jsonPath markerPath : Path) (rows : List RowDict)
    (summary : List (Str × Value)) (runId : Str) : Writing ι Unit := do
  validateOutputState host csvPath jsonPath markerPath runId
  match field summary "input_artifacts" with
  | some (.obj rawInputs) => do
    verifyInputArtifacts host rawInputs
    handle (createOutputs host csvPath jsonPath markerPath rows summary runId rawInputs)
      discardOutputs
  | _ => raise .inputArtifactsNotObject

end AceXdp
