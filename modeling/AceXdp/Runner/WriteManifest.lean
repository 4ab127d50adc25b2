import AceXdp.Join.Output
import AceXdp.Runner.ManifestText

/-!
# AceXdp — `ace_write_manifest`

The manifest is written to a temporary file next to its place and linked there when it is complete.
Every operation may fail, the process may be killed at each, and others may work on the same
directory meanwhile. Some writes to the stream are not checked; what they lose is found by `ferror`
behind the flush. The state keeps a record of what each operation of the call itself has done to the
files.
-/

namespace AceXdp.WriteManifest

open Disk Fault Fault.Prog Json
open Manifest (Piece)

/-- `FILE *`: the file it is open on, what it has buffered, and `ferror`. -/
structure CStream where
  path : Path
  pending : Bytes
  error : Bool

structure Preparing where
  disk : FileSystem
  stream : Option CStream
  /-- the files before and after each operation of the call -/
  changes : List (FileSystem × FileSystem)
  /-- removing the temporary file has failed -/
  leftBehind : Bool

def Preparing.start (disk : FileSystem) : Preparing := ⟨disk, none, [], false⟩

abbrev Preparation (ι α : Type) : Type := Prog Preparing ι Manifest.Errno α

variable {ι : Type} [Adversary ι] {α : Type}

/-! ## Operations -/

def Preparing.record (s : Preparing) (before : FileSystem) : Preparing :=
  { s with changes := s.changes ++ [(before, s.disk)] }

/-- Others go first; what the operation itself does to the files is recorded. -/
def step (f : Decision → Preparing → Outcome Manifest.Errno α × Preparing) :
    Preparation ι α :=
  op fun i s =>
    let before := Adversary.interfere i s.disk
    let result := f (Adversary.decision i) { s with disk := before }
    (result.1, result.2.record before)

/-- A call that fails without having done anything. -/
def call (f : Preparing → Outcome Manifest.Errno α × Preparing) : Preparation ι α :=
  step fun d s =>
    match d with
    | .proceed _ => f s
    | .fail _ _ => (.raised .other, s)
    | .kill _ _ => (.killed, s)

/-- `asprintf(&temporary, "%s.tmp.XXXXXX", output)` with what `mkstemp` puts for the `X`. -/
def temporaryPath (output : Path) (suffix : Str) : Path :=
  output.dropLast ++ [output.getLast?.getD [] ++ (str ".tmp." ++ suffix)]

/-- `lstat`; `ENOENT` is what is hoped for. -/
def lstat (output : Path) : Preparation ι Unit :=
  call fun s =>
    match s.disk output with
    | some _ => (.raised .eexist, s)
    | none => (.returned (), s)

def gatherRecord (m : Manifest.Machine) (runId conditionId interface repo : Manifest.CString) :
    Preparation ι (Manifest.Record Manifest.CString) :=
  call fun s =>
    match Manifest.gather m runId conditionId interface repo with
    | .ok record => (.returned record, s)
    | .error e => (.raised e, s)

def mkstemp (temporary : Path) : Preparation ι Unit :=
  call fun s =>
    match s.disk temporary with
    | some _ => (.raised .eexist, s)
    | none => (.returned (), { s with disk := Function.update s.disk temporary (some (.file [])) })

/-- `fchmod`. -/
def fchmod : Preparation ι Unit := call fun s => (.returned (), s)

def fdopen (temporary : Path) : Preparation ι Unit :=
  call fun s => (.returned (), { s with stream := some ⟨temporary, [], false⟩ })

/-- `n` bytes of the buffer reach the disk. -/
def Preparing.emit (s : Preparing) (n : Nat) : Preparing :=
  match s.stream with
  | some file =>
    { s with
      disk := Function.update s.disk file.path (match s.disk file.path with
        | some (.file content) => some (.file (content ++ file.pending.take n))
        | entry => entry)
      stream := some { file with pending := file.pending.drop n } }
  | none => s

def Preparing.buffer (s : Preparing) (bytes : Bytes) : Preparing :=
  { s with stream := s.stream.map fun file => { file with pending := file.pending ++ bytes } }

def Preparing.setError (s : Preparing) : Preparing :=
  { s with stream := s.stream.map fun file => { file with error := true } }

/-- `fputs`, `fputc` or `fprintf`; whether it is `EOF`. -/
def put (text : List Char) : Preparation ι Bool :=
  step fun d s =>
    let bytes := encode text
    match d with
    | .proceed flushed => (.returned false, (s.buffer bytes).emit flushed)
    | .fail buffered flushed =>
      (.returned true, ((s.buffer (bytes.take buffered)).emit flushed).setError)
    | .kill buffered flushed => (.killed, (s.buffer (bytes.take buffered)).emit flushed)

def putChecked (text : List Char) : Preparation ι Unit := do
  let eof ← put text
  if eof then raise .other else pure ()

def putPiece : Piece → Preparation ι Unit
  | .checked text => putChecked text
  | .unchecked text => do
    let _ ← put text
    pure ()
  | .encoded value =>
    match Manifest.jsonString (value.map Manifest.CString.memory) with
    | .ok text => putChecked text
    | .error _ => raise .eilseq

def Preparing.pending (s : Preparing) : Nat :=
  match s.stream with
  | some file => file.pending.length
  | none => 0

def Preparing.hasError (s : Preparing) : Bool :=
  match s.stream with
  | some file => file.error
  | none => false

def fflush : Preparation ι Unit :=
  step fun d s =>
    match d with
    | .proceed _ => (.returned (), s.emit s.pending)
    | .fail _ flushed => (.raised .other, (s.emit flushed).setError)
    | .kill _ flushed => (.killed, s.emit flushed)

/-- `ferror`. -/
def ferror : Preparation ι Unit := do
  let s ← get
  if s.hasError then raise .other else pure ()

def fsync : Preparation ι Unit := call fun s => (.returned (), s)

/-- The stream is gone even when its last flush fails. -/
def fclose : Preparation ι Unit :=
  step fun d s =>
    match d with
    | .proceed _ => (.returned (), { s.emit s.pending with stream := none })
    | .fail _ flushed => (.raised .other, { s.emit flushed with stream := none })
    | .kill _ flushed => (.killed, s.emit flushed)

/-- `link` is atomic and fails with `EEXIST`. -/
def link (temporary output : Path) : Preparation ι Unit :=
  call fun s =>
    match s.disk output with
    | some _ => (.raised .eexist, s)
    | none => (.returned (), { s with disk := Function.update s.disk output (s.disk temporary) })

/-- `if (file) fclose(file);` of the cleanup, which looks at no result. -/
def closeIfOpen : Preparation ι Unit := do
  let s ← get
  if s.stream.isSome then handle fclose fun _ => pure () else pure ()

/-- `unlink(temporary)` of the cleanup. -/
def unlink (temporary : Path) : Preparation ι Unit :=
  step fun d s =>
    match d with
    | .proceed _ => (.returned (), { s with disk := Function.update s.disk temporary none })
    | .fail _ _ => (.returned (), { s with leftBehind := true })
    | .kill _ _ => (.killed, s)

/-! ## `ace_write_manifest` -/

/-- From `mkstemp` to `link`. -/
def publish (output temporary : Path) (record : Manifest.Record Manifest.CString)
    (conditionJson : List Char) : Preparation ι Unit := do
  mkstemp temporary
  fchmod
  fdopen temporary
  (Manifest.manifestPieces record conditionJson).forM putPiece
  fflush
  ferror
  fsync
  fclose
  link temporary output

/-- `out`, with a temporary name. -/
def cleanUp (temporary : Path) : Preparation ι Unit := do
  closeIfOpen
  unlink temporary

def aceWriteManifest (m : Manifest.Machine) (output : Path) (suffix : Str)
    (runId conditionId interface repo : Manifest.CString) (conditionJson : List Char) :
    Preparation ι Unit := do
  if output = [] ∨ ¬Manifest.validRunId runId ∨ interface.bytes = [] ∨ repo.bytes = []
      ∨ conditionJson = [] then
    raise .einval
  lstat output
  let record ← gatherRecord m runId conditionId interface repo
  let temporary := temporaryPath output suffix
  handle (publish output temporary record conditionJson) fun e => do
    cleanUp temporary
    raise e
  cleanUp temporary

end AceXdp.WriteManifest
