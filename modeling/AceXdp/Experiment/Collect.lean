import AceXdp.Lib.FileTree
import AceXdp.Experiment.Descriptor

/-!
# AceXdp — collecting the results of a run (`collect_results`, `inspect_run`)

The artifacts of the receiver and of the sender are copied into a directory that is made for them,
with a list of their digests; a marker comes last. Every operation may raise, and the process may be
killed at each; others may be at work on the same files. `inspect_run` looks at such a directory
before it is analysed. The paths of the three directories are resolved ones.
-/

namespace AceXdp.Collect

open Disk Fault Fault.Prog Json Decimal

/-! ## The state of a collection -/

structure Collecting where
  tree : FileTree
  /-- the open destination and what it has buffered -/
  stream : Option (Path × Bytes)
  /-- the files before and after each operation of the call -/
  changes : List (FileTree × FileTree)
  /-- what reading a file has found -/
  found : List (Path × Bytes)

/-- The state at the call. -/
def Collecting.start (tree : FileTree) : Collecting := ⟨tree, none, [], []⟩

/-- What decides how operations end, and what others do. -/
class Bystander (ι : Type) extends Inhabited ι where
  decision : ι → Decision
  /-- what others have done when the operation starts -/
  interfere : ι → FileTree → FileTree
  /-- what reading a file in several blocks finds -/
  reading : ι → FileTree → Path → Option Bytes

/-- Nobody else is at work. -/
instance : Bystander Decision where
  default := .proceed 0
  decision := id
  interfere _ tree := tree
  reading _ tree path := tree.entry.read path

abbrev Collection (ι α : Type) : Type := Prog Collecting ι ExperimentError α

variable {ι : Type} [Bystander ι] {α : Type}

/-! ## Operations -/

def Collecting.record (s : Collecting) (before : FileTree) : Collecting :=
  { s with changes := s.changes ++ [(before, s.tree)] }

/-- Others go first; what the operation itself does to the files is recorded. -/
def step (f : ι → Decision → Collecting → Outcome ExperimentError α × Collecting) :
    Collection ι α :=
  op fun i s =>
    let before := Bystander.interfere i s.tree
    let result := f i (Bystander.decision i) { s with tree := before }
    (result.1, result.2.record before)

/-- An operation that raises instead of taking effect. -/
def call (f : ι → Collecting → Outcome ExperimentError α × Collecting) : Collection ι α :=
  step fun i d s =>
    match d with
    | .proceed _ => f i s
    | .fail _ _ => (.raised .os, s)
    | .kill _ _ => (.killed, s)

/-- An operation that looks at the files. -/
def look (f : FileTree → Checked α) : Collection ι α :=
  call fun _ s =>
    match f s.tree with
    | .ok a => (.returned a, s)
    | .error e => (.raised e, s)

def lift (result : Checked α) : Collection ι α :=
  match result with
  | .ok a => pure a
  | .error e => raise e

/-- `if condition: raise ExperimentError(message)`. -/
def raiseIf (condition : Bool) (message : String) : Collection ι Unit :=
  if condition then raise (.experiment message) else pure ()

def readFile (path : Path) : Collection ι Bytes :=
  call fun i s =>
    match Bystander.reading i s.tree path with
    | some content => (.returned content, { s with found := s.found ++ [(path, content)] })
    | none => (.raised .os, s)

/-- `path.stat().st_size`. -/
def fileSize (tree : FileTree) (path : Path) : Checked Nat :=
  match tree.entry.read path with
  | some content => .ok content.length
  | none => .error .os

variable (host : Host)

/-- `join.file_digest`. -/
def fileDigest (path : Path) : Collection ι Digest := do
  let content ← readFile path
  let size ← look fun tree => fileSize tree path
  return ⟨size, host.sha256 content⟩

/-- A path as a message shows it. -/
def shown (path : Path) : String := String.ofList (asciiText path.text)

/-- The name of a file below a directory, as `as_posix` gives it. -/
def relativeText (relative : Path) : Str := ['/'.toNat].intercalate relative

def escapes (name : Str) : Checked Path :=
  refuse ("artifact escapes run directory: " ++ String.ofList (asciiText name))

/-- `contained_file`, with the path that the name stands for: it is resolved first, and what it leads
to is tested. -/
def containedFile (tree : FileTree) (directory path : Path) (name : Str) : Checked Path :=
  match tree.resolve path with
  | some target =>
    match tree.entry target with
    | some (.file _) => if directory.isPrefixOf target then .ok target else escapes name
    | _ => escapes name
  | none => .error .os

/-- `read_json`: a file that cannot be read is an `InputError`. -/
def readJson (path : Path) : Collection ι Members := do
  let content ← handle (readFile path) fun _ => raise .input
  lift (loadJson content)

/-- `load_descriptor`, with the flows. -/
def loadDescriptor (directory : Path) : Collection ι (Members × List Members) := do
  let path ← look fun tree => containedFile tree directory (directory ++ [str "run.json"])
    (str "run.json")
  let descriptor ← readJson path
  let checked ← lift (checkDescriptor host descriptor)
  return (descriptor, checked.1)

/-! ## What is collected -/

-- the comparison of two fractional numbers
variable (floatEq : List Char → List Char → Bool)

mutual
/-- `==` of two values, whose objects have each key once. -/
def sameValue : Value → Value → Bool
  | .null, .null => true
  | .string s, .string t => s = t
  | .float l, .float m => floatEq l m
  | .int n, value => equalsInt host (some value) n
  | .bool b, value => equalsInt host (some value) (if b then 1 else 0)
  | .float l, .int n => host.floatEqInt l n
  | .float l, .bool b => host.floatEqInt l (if b then 1 else 0)
  | .arr items, .arr others => sameItems items others
  | .obj members, .obj others =>
    members.length = others.length && sameMembers members others
  | _, _ => false

def sameItems : List Value → List Value → Bool
  | [], [] => true
  | value :: values, other :: others => sameValue value other && sameItems values others
  | _, _ => false

def sameMembers : List (Str × Value) → List (Str × Value) → Bool
  | [], _ => true
  | (key, value) :: members, others =>
    (match others.lookup key with
      | some other => sameValue value other
      | none => false) && sameMembers members others
end

/-- `descriptor.get(key)` of both; what is missing is `None`. -/
def sameField (rx tx : Members) (key : String) : Bool :=
  sameValue host floatEq ((field rx key).getD .null) ((field tx key).getD .null)

/-- The keys of `condition_identity`. -/
def conditionKeys : List String :=
  ["case_id", "mode", "duration_s", "flows", "load", "environment", "config"]

/-- Whether one of the runs is marked complete, in the order of the tests. -/
def isCompleted (directory : Path) (descriptor : Members) : Collection ι Bool := do
  if equalsStr (field descriptor "state") (str "completed") then
    let complete ← look fun tree => .ok (tree.entry.isFile (directory ++ [str ".complete"]))
    if complete then
      let failed ← look fun tree => .ok (tree.entry.present (directory ++ [str ".failed"]))
      return !failed
    else return false
  else return false

/-- A number of a flow that was checked. -/
def flowNumber (flow : Members) (key : String) : Int :=
  match field flow key with
  | some (.int n) => n
  | _ => 0

/-- `sender-flow<id>.json`. -/
def senderFlowName (flow : Members) : Str :=
  str "sender-flow" ++ (intText (flowNumber flow "flow_id")).map Char.toNat ++ str ".json"

/-- `stats.get("flow_id", flow["flow_id"])` against the flow. -/
def sameFlow (stats flow : Members) : Bool :=
  match field stats "flow_id" with
  | none => true
  | some value => equalsInt host (some value) (flowNumber flow "flow_id")

def checkSenderFlow (sender : Path) (flow : Members) : Collection ι Unit := do
  let name := senderFlowName flow
  let path ← look fun tree => containedFile tree sender (sender ++ [name]) name
  let stats ← readJson path
  raiseIf (!sameFlow host stats flow
    || !equalsInt host (field stats "expected_count") (flowNumber flow "count"))
    "sender statistics disagree with run flow"

def analysisNames : List Str := [str "analysis", str "analysis-report"]

/-- What is left out of the copy without being looked at. -/
def isAnalysis (relative : Path) : Bool := relative.head?.any analysisNames.contains

/-- One path of the walk: its destination, when it is copied. -/
def artifactOf (receiver source pre path : Path) : Collection ι (Option (Path × Path)) :=
  let relative := path.drop source.length
  if isAnalysis relative then pure none
  else do
    let symlink ← look fun tree => .ok (tree.entry.isSymlink path)
    raiseIf symlink ("symlink in collection source: " ++ shown path)
    let directory ← look fun tree => .ok (tree.entry.isDir path)
    if directory then pure none
    else do
      let file ← look fun tree => .ok (tree.entry.isFile path)
      raiseIf (!file) ("nonregular collection artifact: " ++ shown path)
      pure (if source = receiver ∧ relative = [str ".complete"] then none
        else some (path, pre ++ relative))

/-- A loop that keeps the results there are. -/
def gatherEach {β γ : Type} (f : β → Collection ι (Option γ)) : List β → Collection ι (List γ)
  | [] => pure []
  | b :: rest => do
    let result ← f b
    let results ← gatherEach f rest
    return result.toList ++ results

/-- The walk over one source. The listing (`rglob`, sorted before any path is examined) is a single
look; each path is then examined on its own, in the tree as it is by then. -/
def walk (receiver source pre : Path) : Collection ι (List (Path × Path)) := do
  let paths ← look fun tree => .ok (tree.below source)
  gatherEach (artifactOf receiver source pre) paths

/-- The sender's statistics of a flow are copied a second time, to the top. -/
def flowArtifact (sender : Path) (flow : Members) : Collection ι (Option (Path × Path)) := do
  let name := senderFlowName flow
  let file ← look fun tree => .ok (tree.entry.isFile (sender ++ [name]))
  if file then
    let path ← look fun tree => containedFile tree sender (sender ++ [name]) name
    return some (path, [name])
  else return none

/-- The names that are the collection's own. -/
def ownNames : List Path := [[str "collection.json"], [str ".collection-failed"]]

/-! ## Making files -/

/-- `output.mkdir(parents=False, exist_ok=False)`. -/
def makeOutput (output : Path) : Collection ι Unit :=
  call fun _ s =>
    if (s.tree.entry output).isSome || !s.tree.entry.isDir output.parent then (.raised .os, s)
    else (.returned (), { s with tree := s.tree.set output (some .directory) })

/-- One directory of `mkdir(parents=True, exist_ok=True)`. -/
def makeDirectory (path : Path) : Collection ι Unit :=
  call fun _ s =>
    if s.tree.entry.isDir path then (.returned (), s)
    else if (s.tree.entry path).isSome then (.raised .os, s)
    else (.returned (), { s with tree := s.tree.set path (some .directory) })

/-- The directories between the output and a destination, from the top. -/
def ancestors (output target : Path) : List Path :=
  (List.range (target.length - 1)).map fun k => output ++ target.take (k + 1)

/-- `open("x")`. -/
def openNew (path : Path) : Collection ι Unit :=
  call fun _ s =>
    if (s.tree.entry path).isSome || !s.tree.entry.isDir path.parent then (.raised .os, s)
    else (.returned (), { s with
      tree := s.tree.set path (some (.file []))
      stream := some (path, []) })

/-- `n` bytes of the buffer reach the disk. -/
def Collecting.emit (s : Collecting) (n : Nat) : Collecting :=
  match s.stream with
  | some (path, pending) =>
    { s with
      tree := s.tree.set path (match s.tree.entry path with
        | some (.file content) => some (.file (content ++ pending.take n))
        | entry => entry)
      stream := some (path, pending.drop n) }
  | none => s

def Collecting.buffer (s : Collecting) (bytes : Bytes) : Collecting :=
  { s with stream := s.stream.map fun p => (p.1, p.2 ++ bytes) }

def Collecting.pending (s : Collecting) : Nat :=
  match s.stream with
  | some (_, pending) => pending.length
  | none => 0

/-- Bytes go to the stream, or some of them. -/
def Collecting.put (s : Collecting) (d : Decision) (bytes : Bytes) :
    Outcome ExperimentError Unit × Collecting :=
  match d with
  | .proceed flushed => (.returned (), (s.buffer bytes).emit flushed)
  | .fail buffered flushed => (.raised .os, (s.buffer (bytes.take buffered)).emit flushed)
  | .kill buffered flushed => (.killed, (s.buffer (bytes.take buffered)).emit flushed)

def writeBytes (bytes : Bytes) : Collection ι Unit := step fun _ d s => s.put d bytes

/-- `shutil.copyfileobj`. -/
def copyFile (source : Path) : Collection ι Unit :=
  step fun i d s =>
    match Bystander.reading i s.tree source with
    | some content => ({ s with found := s.found ++ [(source, content)] }).put d content
    | none =>
      match d with
      | .kill _ _ => (.killed, s)
      | _ => (.raised .os, s)

def flushStream : Collection ι Unit :=
  step fun _ d s =>
    match d with
    | .proceed _ => (.returned (), s.emit s.pending)
    | .fail _ flushed => (.raised .os, s.emit flushed)
    | .kill _ flushed => (.killed, s.emit flushed)

def fsync : Collection ι Unit := call fun _ s => (.returned (), s)

/-- The end of a `with` statement; the stream is gone even when the last flush fails. -/
def closeStream : Collection ι Unit :=
  step fun _ d s =>
    match d with
    | .proceed _ => (.returned (), { s.emit s.pending with stream := none })
    | .fail _ flushed => (.raised .os, { s.emit flushed with stream := none })
    | .kill _ flushed => (.killed, s.emit flushed)

/-- `with path.open("x") as file:` around a body that ends with a flush and an `fsync`. -/
def withNew (path : Path) (body : Collection ι Unit) : Collection ι Unit := do
  openNew path
  handle (do body; flushStream; fsync) fun e => do
    closeStream
    raise e
  closeStream

/-! ## The copy -/

def copyArtifact (output : Path) (file : Path × Path) : Collection ι (Path × Digest) := do
  let expected ← fileDigest host file.1
  let destination := output ++ file.2
  (ancestors output file.2).forM makeDirectory
  look fun tree => if (tree.entry.read file.1).isSome then .ok () else .error .os
  withNew destination (copyFile file.1)
  let copied ← fileDigest host destination
  raiseIf (copied != expected) ("source changed during collection: " ++ shown file.1)
  let again ← fileDigest host file.1
  raiseIf (again != expected) ("source changed during collection: " ++ shown file.1)
  return (file.2, expected)

def copyAll (output : Path) : List (Path × Path) → Collection ι (List (Path × Digest))
  | [] => pure []
  | file :: rest => do
    let hash ← copyArtifact host output file
    let hashes ← copyAll output rest
    return hash :: hashes

/-! ## `collection.json` -/

/-- The characters of a string, unless it has half of a surrogate pair. -/
def plainText (s : Str) : Option (List Char) :=
  if s.all fun n => decide n.isValidChar then some (s.map Char.ofNat) else none

/-- One member as `json.dump(..., ensure_ascii=False)` prints it. -/
def rawMember (key : List Char) (text : List Char) : List Char :=
  quoteRaw key ++ ':' :: ([' '] ++ text)

def boolText (b : Bool) : List Char := (if b then "true" else "false").toList

def hashText (digest : Nat × List Char) : List Char :=
  block '{' '}' 2 [rawMember "bytes".toList (intText digest.1),
    rawMember "sha256".toList (quoteRaw digest.2)]

/-- `json.dump(payload, ensure_ascii=False, indent=2)`, from the texts that go into it. -/
def collectionText (runId receiver sender : List Char) (completed : Bool)
    (hashes : List (List Char × Nat × List Char)) : List Char :=
  block '{' '}' 0 [rawMember "schema_version".toList (intText 1),
    rawMember "run_id".toList (quoteRaw runId),
    rawMember "receiver_source".toList (quoteRaw receiver),
    rawMember "sender_source".toList (quoteRaw sender),
    rawMember "source_runs_completed".toList (boolText completed),
    rawMember "artifacts".toList
      (block '{' '}' 1 (hashes.map fun h => rawMember h.1 (hashText h.2)))]

def plainHash (hash : Path × Digest) : Option (List Char × Nat × List Char) := do
  let name ← plainText (relativeText hash.1)
  let digest ← plainText hash.2.sha256
  return (name, hash.2.bytes, digest)

/-- The text of `collection.json`; there is none when a string cannot be encoded. -/
def collectionJson (runId : Str) (receiver sender : Path) (completed : Bool)
    (hashes : List (Path × Digest)) : Option (List Char) := do
  let runId ← plainText runId
  let receiver ← plainText receiver.text
  let sender ← plainText sender.text
  let hashes ← hashes.mapM plainHash
  return collectionText runId receiver sender completed hashes

def writeCollection (output : Path) (text : Option (List Char)) : Collection ι Unit :=
  withNew (output ++ [str "collection.json"])
    (match text with
    | some text => do
      writeBytes (encode text)
      writeBytes (encode ['\n'])
    | none => raise .language)

/-! ## The markers -/

def incompleteNote : List Char := "source run incomplete or failed\n".toList

/-- The marker of the outcome, unless it has been copied. -/
def writeMarker (receiver output : Path) (completed : Bool) : Collection ι Unit := do
  let marker := output ++ [str (if completed then ".complete" else ".failed")]
  let present ← look fun tree => .ok (tree.entry.present marker)
  if present then pure ()
  else
    withNew marker do
      if completed then
        let content ← readFile (receiver ++ [str ".complete"])
        writeBytes content
      else writeBytes (encode incompleteNote)

def failureNote : List Char := "collection did not complete\n".toList

/-- `open("w")` of the handler. -/
def openOver (path : Path) : Collection ι Unit :=
  call fun _ s =>
    match s.tree.entry path with
    | none =>
      (.returned (), { s with
        tree := s.tree.set path (some (.file []))
        stream := some (path, []) })
    | some (.file _) =>
      (.returned (), { s with
        tree := s.tree.set path (some (.file []))
        stream := some (path, []) })
    | some _ => (.raised .os, s)

/-- `(output / ".collection-failed").write_text(...)`. -/
def markFailed (output : Path) : Collection ι Unit := do
  openOver (output ++ [str ".collection-failed"])
  handle (writeBytes (encode failureNote)) fun e => do
    closeStream
    raise e
  closeStream

/-! ## `collect_results` -/

/-- The `try` of `collect_results`. -/
def fillOutput (receiver sender output : Path) (runId : Str) (completed : Bool)
    (files : List (Path × Path)) : Collection ι Unit := do
  let hashes ← copyAll host output files
  writeCollection output (collectionJson runId receiver sender completed hashes)
  writeMarker receiver output completed

/-- What is copied, and whether both runs are complete. -/
structure Selection where
  runId : Str
  completed : Bool
  files : List (Path × Path)

/-- `rx["run_id"]`, which was checked to be a string. -/
def runIdOf (descriptor : Members) : Str :=
  match field descriptor "run_id" with
  | some (.string s) => s
  | _ => []

/-- The part of `collect_results` in front of `mkdir`. -/
def selectArtifacts (receiver sender output : Path) : Collection ι Selection := do
  raiseIf (receiver.isPrefixOf output || sender.isPrefixOf output)
    "collection output must be outside both source directories"
  let rx ← loadDescriptor host receiver
  let tx ← loadDescriptor host sender
  raiseIf (!sameField host floatEq rx.1 tx.1 "run_id"
    || !conditionKeys.all (sameField host floatEq rx.1 tx.1))
    "receiver and sender run_id/config conditions disagree"
  let rxCompleted ← isCompleted receiver rx.1
  let completed ← (if rxCompleted then isCompleted sender tx.1 else pure false)
  (if completed then rx.2 else []).forM (checkSenderFlow host sender)
  let receiverFiles ← walk receiver receiver []
  let senderFiles ← walk receiver sender [str "sender"]
  let flowFiles ← gatherEach (flowArtifact sender) rx.2
  let files := receiverFiles ++ senderFiles ++ flowFiles
  raiseIf (!decide (files.map Prod.snd).Nodup || (files.map Prod.snd).any ownNames.contains)
    "collection destination names collide"
  return ⟨runIdOf rx.1, completed, files⟩

def collectResults (receiver sender output : Path) : Collection ι Unit := do
  let selection ← selectArtifacts host floatEq receiver sender output
  makeOutput output
  handle (fillOutput host receiver sender output selection.runId selection.completed
    selection.files) fun e => do
    markFailed output
    raise e

/-! ## `inspect_run`

Nobody is at work on a directory that is inspected: its files are those of one tree. -/

def loadJsonFile (tree : FileTree) (path : Path) : Checked Members :=
  match tree.entry.read path with
  | some content => loadJson content
  | none => .error .input

def descriptorOf (tree : FileTree) (directory : Path) : Checked Members := do
  let path ← containedFile tree directory (directory ++ [str "run.json"]) (str "run.json")
  let descriptor ← loadJsonFile tree path
  let _ ← checkDescriptor host descriptor
  return descriptor

/-- `join.file_digest(path) == expected`. -/
def sameDigest (content : Bytes) (expected : Value) : Bool :=
  match expected with
  | .obj members =>
    members.length = 2 && equalsInt host (field members "bytes") content.length
      && equalsStr (field members "sha256") (host.sha256 content)
  | _ => false

/-- `directory / name`. -/
def joinPath (directory : Path) (name : Str) : Path := pathOfText { host with cwd := directory } name

def verifyArtifact (tree : FileTree) (directory : Path) (artifact : Str × Value) : Checked Unit := do
  let path ← containedFile tree directory (joinPath host directory artifact.1) artifact.1
  match tree.entry.read path with
  | some content =>
    if sameDigest host content artifact.2 then return ()
    else refuse ("collected artifact digest mismatch: " ++ String.ofList (asciiText artifact.1))
  | none => .error .os

/-- `verify_collection`. -/
def verifyCollection (tree : FileTree) (directory : Path) : Checked Unit := do
  let name := str "collection.json"
  if tree.entry.present (directory ++ [name]) then
    let path ← containedFile tree directory (directory ++ [name]) name
    let collection ← loadJsonFile tree path
    match field collection "artifacts" with
    | none => return ()
    | some (.obj artifacts) => artifacts.forM (verifyArtifact host tree directory)
    | some _ => .error .language

inductive RunStatus where
  | failed
  | incomplete
  | analysisFailed
  | warmupCompleted
  | smokeCompleted
  | completed
  deriving DecidableEq, Repr

/-- Those of a run whose results are used. -/
def RunStatus.isDone : RunStatus → Bool
  | .warmupCompleted => true
  | .smokeCompleted => true
  | .completed => true
  | _ => false

/-- `inspect_run` behind the tests of the markers. -/
def inspectCompleted (analyse : FileTree → Path → Members → Checked Unit) (tree : FileTree)
    (directory : Path) (descriptor : Members) : RunStatus :=
  match verifyCollection host tree directory with
  | .error _ => .analysisFailed
  | .ok () =>
    if equalsStr (field descriptor "purpose") (str "warmup") then .warmupCompleted
    else
      match analyse tree directory descriptor with
      | .error _ => .analysisFailed
      | .ok () =>
        if equalsStr (field descriptor "mode") (str "socket-only") then .smokeCompleted
        else .completed

/-- `inspect_run`; `analyse` is what it does with the results of a run that is complete. -/
def inspectRun (analyse : FileTree → Path → Members → Checked Unit) (tree : FileTree)
    (directory : Path) : RunStatus :=
  let fs := tree.entry
  let failed := fs.present (directory ++ [str ".failed"])
  if fs.present (directory ++ [str ".collection-failed"]) then .failed
  else if !fs.isFile (directory ++ [str "run.json"]) then
    if failed then .failed else .incomplete
  else
    match descriptorOf host tree directory with
    | .error _ => .analysisFailed
    | .ok descriptor =>
      if failed || equalsStr (field descriptor "state") (str "failed") then .failed
      else if !fs.isFile (directory ++ [str ".complete"])
          || !equalsStr (field descriptor "state") (str "completed") then .incomplete
      else inspectCompleted host analyse tree directory descriptor

end AceXdp.Collect
