import AceXdp.Join.BuildSummary

/-!
# AceXdp — `analyze` of the analyser on its files

`analyze` opens every input twice: what the first reading finds is joined, the second reading gives
the digest that `input_artifacts` records. `write_outputs` reads the files once more and compares
them with the record. Others may be at work on the files all the time. The state carries what a
bystander would note down: which files have been read for the join and are not recorded yet, and
whether others have changed one of them in the meantime.
-/

namespace AceXdp

open Disk Fault Fault.Prog Json

/-- The exceptions of `main`. -/
inductive MainError where
  | cannotOpen (path : Path)
  | notUtf8
  | analysis (error : AnalyzeError)
  | output (error : OutputError)
  | osError
  deriving DecidableEq, Repr

structure AnalysisState where
  disk : FileSystem
  /-- read for the join and not recorded yet, the first one first -/
  unrecorded : List Path
  /-- others have changed one of these files -/
  disturbed : Bool

/-- The state at the call. -/
def AnalysisState.start (disk : FileSystem) : AnalysisState := ⟨disk, [], false⟩

abbrev Analyzing (ι α : Type) : Type := Prog AnalysisState ι MainError α

/-! ## Operations -/

namespace AnalysisState

variable (s : AnalysisState)

/-- Others turn the disk into `disk`. -/
def elapse (disk : FileSystem) : AnalysisState :=
  { s with
    disk := disk
    disturbed := s.disturbed || s.unrecorded.any fun path => disk.read path ≠ s.disk.read path }

/-- `path` is read from here on. -/
def watch (path : Path) : AnalysisState := { s with unrecorded := s.unrecorded ++ [path] }

/-- A reading of `path` has found `content`, and others leave `disk` behind. -/
def found (path : Path) (content : Bytes) (disk : FileSystem) : AnalysisState :=
  { s.elapse disk with
    disturbed := (s.elapse disk).disturbed
      || (path ∈ s.unrecorded && s.disk.read path ≠ some content) }

end AnalysisState

variable {ι : Type} [Adversary ι] {α : Type}

def fileOperation (f : ι → AnalysisState → Outcome MainError α × AnalysisState) : Analyzing ι α :=
  op fun i s =>
    let s := s.elapse (Adversary.interfere i s.disk)
    match Adversary.decision i with
    | .proceed _ => f i s
    | .fail _ _ => (.raised .osError, s)
    | .kill _ _ => (.killed, s)

def readWhole (missing : MainError) (path : Path) (i : ι) (s : AnalysisState) :
    Outcome MainError Bytes × AnalysisState :=
  match Adversary.reading i s.disk path with
  | (some content, disk) => (.returned content, s.found path content disk)
  | (none, disk) => (.raised missing, s.elapse disk)

/-- The reading that is joined. -/
def readInput (path : Path) : Analyzing ι Bytes :=
  fileOperation fun i s => readWhole (.cannotOpen path) path i (s.watch path)

variable (host : Host)

/-- `file_digest`. -/
def inputDigest (path : Path) : Analyzing ι Digest := do
  let content ← fileOperation fun i s => readWhole .osError path i s
  let size ← fileOperation fun _ s =>
    match s.disk.read path with
    | some content => (.returned content.length, s)
    | none => (.raised .osError, s)
  return ⟨size, host.sha256 content⟩

/-- `m` on the files as they are now. -/
def onDisk (m : Writing ι α) : Analyzing ι α := fun script s =>
  match m script (Session.start s.disk) with
  | (.returned a, session, script) => (.returned a, { s with disk := session.disk }, script)
  | (.raised e, session, script) => (.raised (.output e), { s with disk := session.disk }, script)
  | (.killed, session, script) => (.killed, { s with disk := session.disk }, script)

/-! ## The first reading -/

def accept (result : Except AnalyzeError α) : Analyzing ι α :=
  match result with
  | .ok a => pure a
  | .error e => raise (.analysis e)

/-- A file that is text. -/
structure TextFile where
  bytes : Bytes
  text : Text
  decoded : decode bytes = some text

def decodeText (bytes : Bytes) : Analyzing ι TextFile :=
  match h : decode bytes with
  | some text => pure ⟨bytes, text, h⟩
  | none => raise .notUtf8

/-- The file behind `load_csv_table`. -/
def readCsv (required : List Text) (path : Path) : Analyzing ι TextFile := do
  let bytes ← readInput path
  let file ← decodeText bytes
  let _ ← accept ((loadCsvTable file.text required).mapError .input)
  return file

def readOptional (required : List Text) : Option Path → Analyzing ι (Option TextFile)
  | none => pure none
  | some path => do
    let file ← readCsv required path
    return some file

/-- The files behind `load_udp_sources`, which are merged as they come. -/
def readUdpFiles (merged : SourceTable) : List Path → Analyzing ι (List Bytes)
  | [] => pure []
  | path :: rest => do
    let contents ← readInput path
    let merged ← accept (mergeUdp merged contents)
    let more ← readUdpFiles merged rest
    return contents :: more

def readUdpSources (udpNative : InputPath) : Analyzing ι (Option (List Bytes)) :=
  if udpNative = .absent then pure none
  else do
    let files ← readUdpFiles emptyTable udpNative.paths
    return some files

/-- The files behind `load_calibration`; each is checked before the next one is opened. -/
def readCalibrations : List Path → Analyzing ι (List (Path × TextFile))
  | [] => pure []
  | path :: rest => do
    let bytes ← readInput path
    let file ← decodeText bytes
    let _ ← accept ((loadCalibrationFile ⟨path, some file.text⟩).mapError .calibration)
    let more ← readCalibrations rest
    return (path, file) :: more

/-- What has been read for the join. -/
structure InputFiles where
  ingress : TextFile
  cpumap : Option TextFile
  afxdp : Option TextFile
  udpNative : Option (List Bytes)
  phcCalibration : List (Path × TextFile)

namespace InputFiles

variable (files : InputFiles)

def input (allowEndpointClamp : Bool) : AnalyzeInput where
  ingress := files.ingress.text
  cpumap := files.cpumap.map TextFile.text
  afxdp := files.afxdp.map TextFile.text
  udpNative := files.udpNative
  phcCalibration := files.phcCalibration.map fun c => ⟨c.1, some c.2.text⟩
  allowEndpointClamp := allowEndpointClamp

/-- The bytes of each input, in the order of `Arguments.joined`. -/
def contents : List (List Bytes) :=
  [[files.ingress.bytes], files.cpumap.toList.map TextFile.bytes,
    files.afxdp.toList.map TextFile.bytes, files.udpNative.getD [],
    files.phcCalibration.map fun c => c.2.bytes]

end InputFiles

def readInputs (args : Arguments) : Analyzing ι InputFiles := do
  let ingress ← readCsv ingressRequired args.ingress
  let cpumap ← readOptional cpumapRequired args.cpumap
  let afxdp ← readOptional afxdpRequired args.afxdp
  let udpNative ← readUdpSources args.udpNative
  let phcCalibration ← readCalibrations args.phcCalibration
  return ⟨ingress, cpumap, afxdp, udpNative, phcCalibration⟩

/-! ## The second reading -/

def artifactSpec (path : Path) : Analyzing ι Value := do
  let digest ← inputDigest host path
  return outputRecord path digest

/-- The record of a file that has been joined. -/
def joinedSpec (path : Path) : Analyzing ι Value := do
  let spec ← artifactSpec host path
  modify fun s => { s with unrecorded := s.unrecorded.tail }
  return spec

def joinedSpecs : List Path → Analyzing ι (List Value)
  | [] => pure []
  | path :: rest => do
    let spec ← joinedSpec host path
    let more ← joinedSpecs rest
    return spec :: more

def joinedArtifact : InputPath → Analyzing ι Value
  | .absent => pure .null
  | .one path => joinedSpec host path
  | .many paths => do
    let specs ← joinedSpecs host paths
    return .arr specs

def joinedArtifacts : List (String × InputPath) → Analyzing ι (List (Str × Value))
  | [] => pure []
  | (name, paths) :: rest => do
    let value ← joinedArtifact host paths
    let more ← joinedArtifacts rest
    return (str name, value) :: more

/-- `input_artifact_snapshot`. -/
def inputArtifactSnapshot (args : Arguments) : Analyzing ι (List (Str × Value)) := do
  let manifest ← artifactSpec host args.manifest.path
  let joined ← joinedArtifacts host args.joined
  return (str "manifest", manifest) :: joined

/-! ## `analyze` and `main` -/

/-- What `analyze` returns, with the files that it has joined. -/
structure Analyzed where
  files : InputFiles
  analysis : Analysis
  summary : List (Str × Value)

variable (round : ℚ → ℚ) (repr : ℚ → List Char)

def analyzeFiles (args : Arguments) : Analyzing ι Analyzed := do
  let files ← readInputs args
  let input := files.input args.allowEndpointClamp
  let analysis ← accept (analyze input)
  let calibration ← accept ((loadCalibration input.phcCalibration).mapError .calibration)
  let artifacts ← inputArtifactSnapshot host args
  return ⟨files, analysis, buildSummary round repr args analysis calibration artifacts⟩

/-- `main` behind `parse_args`. -/
def joinResults (args : Arguments) : Analyzing ι Analyzed := do
  let result ← analyzeFiles host round repr args
  onDisk (writeOutputs host args.outputCsv args.summaryJson args.completionMarker
    result.analysis.rows result.summary args.manifest.runId)
  return result

end AceXdp
