import AceXdp.Lib.CpuList
import AceXdp.Join.Output

/-!
# AceXdp — the descriptor of a run as the analysis reads it (`load_descriptor`)

`run.json` is loaded strictly, its fields are checked one by one and against each other, and the CPU
sets it names are brought to a canonical form. A descriptor is the list of its members.
-/

namespace AceXdp

open Decimal Disk Json

/-- The exceptions of the experiment analysis. -/
inductive ExperimentError where
  /-- `ExperimentError`, with its text -/
  | experiment (message : String)
  /-- `InputError` of the strict JSON reader -/
  | input
  | os
  /-- a `ValueError`, `KeyError` or `TypeError` of the language -/
  | language
  deriving DecidableEq, Repr

abbrev Checked (α : Type) : Type := Except ExperimentError α

def refuse {α : Type} (message : String) : Checked α := .error (.experiment message)

abbrev Members : Type := List (Str × Value)

/-! ## Loading -/

/-- `load_json`. -/
def loadJson (content : Bytes) : Checked Members :=
  match (decode content).bind loads with
  | some (.obj members) => if (Value.obj members).strict then .ok members else .error .input
  | _ => .error .input

/-! ## Fields -/

def unsigned (value : Option Value) (label : String) : Checked Nat :=
  match value with
  | some (.int n) => if 0 ≤ n then .ok n.toNat else refuse (label ++ " must be a nonnegative integer")
  | _ => refuse (label ++ " must be a nonnegative integer")

/-- A string as characters; half of a surrogate pair is none of those a CPU list may have. -/
def asciiText (s : Str) : List Char := s.map Char.ofNat

/-- The longest digits `int` converts. -/
def maxDigits : Nat := 4300

/-- The complaint about the first field that is not a range of CPUs below 1024. Of a number that is
too long for `int`, it is `int` that complains. -/
def cpuListComplaint (label : String) (text : List Char) : ExperimentError :=
  match (text.splitOn ',').find? fun field =>
      match CpuList.range (some maxDigits) field with
      | some (first, last) => last < first || 1024 ≤ last
      | none => true with
  | some field =>
    if (CpuList.range (some maxDigits) field).isSome then
      .experiment (label ++ " has an out-of-range CPU")
    else if (CpuList.range none field).isSome then .language
    else .experiment (label ++ " has an invalid CPU list")
  | none => .experiment (label ++ " has an invalid CPU list")

/-- `canonical_cpu_list`. -/
def canonicalCpuList (value : Option Value) (label : String) : Checked (List Char) :=
  match value with
  | some (.string s) =>
    if s = [] then refuse (label ++ " must be a CPU list")
    else if s = str "inherit" then .ok "inherit".toList
    else
      match CpuList.parse 1024 (some maxDigits) false (asciiText s) with
      | some cpus => .ok (CpuList.format cpus)
      | none => .error (cpuListComplaint label (asciiText s))
  | _ => refuse (label ++ " must be a CPU list")

variable (host : Host)

/-- `receiver_cpu_list`. -/
def receiverCpuList (flow : Members) : Checked (List Char) :=
  match field flow "rx_cpus" with
  | some value => canonicalCpuList (some value) "rx_cpus"
  | none =>
    match field flow "rx_cpu" with
    | none => .ok "inherit".toList
    | some .null => .ok "inherit".toList
    | some value =>
      if equalsInt host (some value) (-1) then .ok "inherit".toList
      else
        match value with
        | .int n =>
          if 0 ≤ n ∧ n < 1024 then .ok (natText n.toNat)
          else refuse "rx_cpu must be -1 or a valid CPU"
        | _ => refuse "rx_cpu must be -1 or a valid CPU"

/-- A text member of the environment; a missing one is empty. -/
def environmentText (environment : Members) (key : String) : Checked Str :=
  match field environment key with
  | none => .ok []
  | some (.string s) => .ok s
  | some _ => refuse (key ++ " must be a CPU list")

/-- `receiver_shared_cpus` of `receiver_placement`. -/
def sharedCpuList (environment : Members) : Checked (List Char) := do
  let shared ← environmentText environment "receiver_shared_cpus"
  if shared = [] then return []
  let cpus ← canonicalCpuList (some (.string shared)) "receiver_shared_cpus"
  if cpus = "inherit".toList then refuse "receiver_shared_cpus must name its CPUs"
  return cpus

/-- `receiver_cpumap_cpu` of `receiver_placement`. -/
def cpumapTarget (environment : Members) : Checked (Option Nat) :=
  match field environment "receiver_cpumap_cpu" with
  | none => .ok none
  | some .null => .ok none
  | some (.int n) =>
    if 0 ≤ n ∧ n < 1024 then .ok (some n.toNat)
    else refuse "receiver_cpumap_cpu must be a valid CPU"
  | some _ => refuse "receiver_cpumap_cpu must be a valid CPU"

/-- Whether a flow asks for the CPUMAP path. -/
def wantsCpumap (flow : Members) : Bool :=
  equalsInt host (field flow "flow_id") 2
    && equalsStr (field flow "requested_path") (str "cpumap")

def expectedActive (descriptor : Members) (flows : List Members) : Bool :=
  equalsStr (field descriptor "mode") (str "mixed") && flows.any (wantsCpumap host)

/-- The CPUs that stay with everyone else while the target is reserved. -/
def generalCpus (available target : List Char) (active : Bool) : List Char :=
  [','].intercalate ((available.splitOn ',').filter fun cpu => !active || cpu ≠ target)

/-- The flows run where the mode's reservation puts them. -/
def checkFlowCpus (target shared : List Char) (active : Bool) : List Members → Checked Unit
  | [] => .ok ()
  | flow :: flows => do
    let cpus ← receiverCpuList host flow
    let expected := if active && equalsInt host (field flow "flow_id") 2 then target else shared
    if cpus ≠ expected then
      refuse "receiver flow CPU set disagrees with the mode's CPU reservation"
    checkFlowCpus target shared active flows

/-- The part of `receiver_placement` for a receiver with shared CPUs. -/
def checkAvailable (descriptor environment : Members) (flows : List Members) (shared : List Char)
    (target : Option Nat) (available : Str) : Checked (List Char × Bool) := do
  let cpus ← canonicalCpuList (some (.string available)) "receiver_available_cpus"
  match target with
  | none => refuse "receiver_available_cpus must include the CPUMAP CPU"
  | some cpu =>
    if cpus = "inherit".toList ∨ natText cpu ∉ cpus.splitOn ',' then
      refuse "receiver_available_cpus must include the CPUMAP CPU"
    match field environment "receiver_cpumap_active" with
    | some (.bool active) =>
      if active ≠ expectedActive host descriptor flows then
        refuse "receiver_cpumap_active disagrees with active flows"
      if generalCpus cpus (natText cpu) active = [] ∨ shared ≠ generalCpus cpus (natText cpu) active
      then refuse "receiver_shared_cpus disagrees with the mode's CPU reservation"
      checkFlowCpus host (natText cpu) shared active flows
      return (cpus, active)
    | _ => refuse "receiver_cpumap_active disagrees with active flows"

/-- What `receiver_placement` returns. -/
structure Placement where
  sharedCpus : List Char
  cpumapCpu : Option Nat
  /-- `flow_id` and `rx_cpus` of each flow -/
  flows : List (Option Value × List Char)
  /-- `available_cpus` and `cpumap_active`, when there are any -/
  available : Option (List Char × Bool)

/-- `environment or {}`. -/
def environmentMembers (descriptor : Members) : Members :=
  match field descriptor "environment" with
  | some (.obj members) => members
  | _ => []

def flowPlacement (flow : Members) : Checked (Option Value × List Char) := do
  let cpus ← receiverCpuList host flow
  return (field flow "flow_id", cpus)

def receiverPlacement (descriptor : Members) (flows : List Members) : Checked Placement := do
  let environment := environmentMembers descriptor
  let sharedCpus ← sharedCpuList environment
  let cpumapCpu ← cpumapTarget environment
  let placements ← flows.mapM (flowPlacement host)
  let available ← environmentText environment "receiver_available_cpus"
  if available = [] then return ⟨sharedCpus, cpumapCpu, placements, none⟩
  let reservation ← checkAvailable host descriptor environment flows sharedCpus cpumapCpu available
  return ⟨sharedCpus, cpumapCpu, placements, some reservation⟩

/-! ## `load_descriptor` -/

def isAsciiAlphanum (n : Nat) : Bool := n < 128 && (Char.ofNat n).isAlphanum

/-- `RUN_ID_PATTERN.fullmatch`. -/
def isRunId (s : Str) : Bool :=
  s.head?.any isAsciiAlphanum && s.length ≤ 128
    && s.all fun n => isAsciiAlphanum n || n = '.'.toNat || n = '_'.toNat || n = '-'.toNat

def modeNames : List Str :=
  [str "mixed", str "all-pass", str "pass-xsk", str "socket-only"]

/-- `rx_cpu` next to `rx_cpus`. -/
def checkRxCpu (flow : Members) (cpus : List Char) : Checked Unit :=
  match field flow "rx_cpus", field flow "rx_cpu" with
  | some _, some value =>
    let expected : Int :=
      if cpus = "inherit".toList ∨ ',' ∈ cpus then -1 else Nat.ofDigitChars 10 cpus 0
    match value with
    | .int n => if n = expected then .ok () else refuse "rx_cpu disagrees with rx_cpus"
    | _ => refuse "rx_cpu disagrees with rx_cpus"
  | _, _ => .ok ()

/-- `deadline_ns` may be missing. -/
def checkDeadline (flow : Members) : Checked Unit :=
  match field flow "deadline_ns" with
  | none => .ok ()
  | some .null => .ok ()
  | some value => do
    let _ ← unsigned (some value) "deadline_ns"
    return ()

/-- One turn of the loop over the flows, behind the check of the identifier. -/
def checkFlow (flow : Members) : Checked Unit := do
  let _ ← unsigned (field flow "count") "flow count"
  let period ← unsigned (field flow "period_ns") "period_ns"
  if period = 0 then refuse "period_ns must be positive"
  checkDeadline flow
  let cpus ← receiverCpuList host flow
  checkRxCpu flow cpus

/-- The loop over the flows, with the identifiers seen so far. -/
def checkFlows : List Nat → List Value → Checked (List Members)
  | _, [] => .ok []
  | ids, .obj flow :: rest => do
    let flowId ← unsigned (field flow "flow_id") "flow_id"
    if 0xFFFFFFFF < flowId ∨ flowId ∈ ids then refuse "flow_id is repeated or out of range"
    checkFlow host flow
    let flows ← checkFlows (flowId :: ids) rest
    return flow :: flows
  | _, _ :: _ => refuse "flow must be an object"

/-- `flows` of the descriptor. -/
def descriptorFlows (descriptor : Members) : Checked (List Value) :=
  match field descriptor "flows" with
  | some (.arr flows) => if flows = [] then refuse "run.json requires flows" else .ok flows
  | _ => refuse "run.json requires flows"

def checkRunId (descriptor : Members) : Checked Unit :=
  match field descriptor "run_id" with
  | some (.string s) => if isRunId s then .ok () else refuse "invalid run_id"
  | _ => refuse "invalid run_id"

def checkMode (descriptor : Members) : Checked Unit :=
  match field descriptor "mode" with
  | some (.string s) => if s ∈ modeNames then .ok () else refuse "invalid run mode"
  | _ => refuse "invalid run mode"

def checkEnvironment (descriptor : Members) : Checked Unit :=
  match field descriptor "environment" with
  | none => .ok ()
  | some .null => .ok ()
  | some (.obj _) => .ok ()
  | some _ => refuse "environment must be an object"

/-- `load_descriptor` behind the reading of `run.json`; the second part is what `receiver_placement`
returns, which the source drops. -/
def checkDescriptor (descriptor : Members) : Checked (List Members × Placement) := do
  if !equalsInt host (field descriptor "schema_version") 1 then
    refuse "run.json schema_version must be 1"
  checkRunId descriptor
  checkMode descriptor
  checkEnvironment descriptor
  let values ← descriptorFlows descriptor
  let flows ← checkFlows host [] values
  let placement ← receiverPlacement host descriptor flows
  return (flows, placement)

end AceXdp
