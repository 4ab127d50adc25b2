import AceXdp.Lib.Fault
import AceXdp.Lib.CpuList

/-!
# AceXdp — the CPU partition of an experiment (`monitor/cpu_partition.sh`)

`acquire_partition` writes down what it is about to do, enables the cpuset controller of the root
cgroup when it is not enabled yet, makes the group `ace-rx-OWNER` and turns it into an isolated
partition; a trap undoes what was done when it does not come to its end. `release_partition` undoes
the rest from what was written down.

Every command may fail, a signal may be handled before it and the process may be killed before it;
meanwhile the other groups of the machine may start or stop using the controller. The interface
files of a group's cpuset exist while the root enables the controller.
-/

namespace AceXdp

open Decimal Fault Fault.Prog

/-! ## CPU lists of the scripts -/

/-- `parse_cpu_list`; the result is `PARSED_CPUS`. -/
def parseCpuList (list : List Char) : Option (List Nat) := CpuList.parse 4096 (some 4) true list

def canonicalCpus (list : List Char) : Option (List Char) := (parseCpuList list).map CpuList.format

/-- The CPUs of a cgroup: some, and all of them below the limit of the scripts. -/
structure CpuSet where
  cpus : List Nat
  nonempty : cpus ≠ []
  ascending : CpuList.Ascending cpus
  bound : ∀ n ∈ cpus, n < 4096

/-- What the kernel decides: how it prints a list of CPUs, which the scripts can read, and whether
it grants an isolated partition. -/
structure Kernel where
  listText : List Nat → List Char
  parse_listText : ∀ set : CpuSet, parseCpuList (listText set.cpus) = some set.cpus
  grants : Bool

/-! ## The machine -/

/-- What `cpuset.cpus.partition` reads. -/
inductive PartitionState where
  | member
  | isolated
  /-- `isolated invalid (…)` -/
  | invalid
  deriving DecidableEq, Repr

/-- The cpuset files of a child of the root. -/
structure Cpuset where
  /-- `cgroup.subtree_control` names the controller -/
  subtree : Bool
  cpus : List Char
  mems : List Char
  exclusive : List Char
  partition : PartitionState
  deriving DecidableEq, Repr

def Cpuset.fresh : Cpuset := ⟨false, [], [], [], .member⟩

/-- One turn of the loop of `controller_in_use`. -/
def Cpuset.inUse (c : Cpuset) : Bool :=
  c.subtree || c.cpus ≠ [] || c.mems ≠ [] || c.exclusive ≠ [] || c.partition ≠ .member

/-- The cpuset files of the children, while the root enables the controller. -/
structure CpusetController where
  /-- of `ace-rx-OWNER`, when there is such a group -/
  own : Cpuset
  others : List Cpuset
  deriving DecidableEq, Repr

/-- A name in the state directory. -/
inductive StateFile where
  | absent
  | regular (text : List Char)
  /-- a directory or a symbolic link -/
  | special
  deriving DecidableEq, Repr

structure Machine where
  /-- `devices/system/cpu/online` and `…/isolated`, when they can be read -/
  online : Option (List Char)
  isolated : Option (List Char)
  /-- the words of `cgroup.controllers`, when it can be read -/
  controllers : Option (List (List Char))
  /-- the CPUs of the root while no partition has any of them -/
  root : CpuSet
  /-- the other children of the root -/
  groups : List (List Char)
  /-- `none` while the root's `cgroup.subtree_control` does not name cpuset -/
  controller : Option CpusetController
  /-- `ace-rx-OWNER` exists -/
  group : Bool
  /-- the state directory is one, and no symbolic link -/
  stateDir : Bool
  /-- `cpu-partition.state`, `cpu-partition-active.json` and `cpu-partition-restored.json` -/
  state : StateFile
  active : StateFile
  restored : StateFile

namespace Machine

variable (kernel : Kernel) (M : Machine)

/-- The CPUs of an isolated partition. -/
def partitionCpus : List Nat :=
  match M.group, M.controller with
  | true, some c => if c.own.partition = .isolated then (parseCpuList c.own.cpus).getD [] else []
  | _, _ => []

/-- The root's `cpuset.cpus.effective`. -/
def rootEffective : List Nat := M.root.cpus.filter (· ∉ M.partitionCpus)

/-- The group's `cpuset.cpus.effective`. -/
def groupEffective (c : CpusetController) : List Nat :=
  if c.own.cpus = [] then M.rootEffective else (parseCpuList c.own.cpus).getD []

/-- Some other group uses the controller. -/
def usedByOthers : Bool :=
  match M.controller with
  | some c => c.others.any Cpuset.inUse
  | none => false

def controllerInUse : Bool :=
  match M.controller with
  | some c => c.others.any Cpuset.inUse || (M.group && c.own.inUse)
  | none => false

/-! ## The preflight -/

/-- Every requested CPU is online. -/
def allOnline (requested : List Nat) : Bool :=
  match M.online.bind parseCpuList with
  | some online => requested.all (· ∈ online)
  | none => false

/-- No requested CPU was isolated at boot. -/
def noneIsolated (requested : List Nat) : Bool :=
  match M.isolated with
  | some text =>
    if text = [] then true
    else match parseCpuList text with
      | some isolated => requested.all (· ∉ isolated)
      | none => false
  | none => true

def hasController : Bool :=
  match M.controllers with
  | some names => "cpuset".toList ∈ names
  | none => false

/-- The exit status of `check_cpu_availability`. -/
def checkCpuAvailability (available dedicated : List Char) : Nat :=
  match CpuList.number (some 4) dedicated, parseCpuList available with
  | some cpu, some requested =>
    if 1 < requested.length ∧ cpu ∈ requested ∧ M.allOnline requested ∧ M.noneIsolated requested
        ∧ M.hasController
        ∧ canonicalCpus (kernel.listText M.rootEffective) = canonicalCpus available then 0
    else 1
  | _, _ => 2

/-- `validate_owner`. -/
def validateOwner (owner : List Char) : Bool :=
  owner.head?.any (· ∈ "123456789".toList) && owner.all Char.isDigit && owner.length ≤ 10
    && 1 < Nat.ofDigitChars 10 owner 0 && M.stateDir

/-- The checks of `acquire_partition` in front of its traps. -/
def accepted (owner available dedicated : List Char) : Bool :=
  M.validateOwner owner && M.checkCpuAvailability kernel available dedicated = 0 && !M.group
    && M.state = .absent

/-! ## What the kernel does -/

/-- `+cpuset`: every child gets its files. -/
def enable : Machine :=
  match M.controller with
  | some _ => M
  | none => { M with controller := some ⟨.fresh, M.groups.map fun _ => .fresh⟩ }

/-- `-cpuset`: the files of all children are gone. -/
def disable : Machine := { M with controller := none }

/-- `mkdir` and `rmdir` of the group. -/
def setGroup (present : Bool) : Machine :=
  { M with
    group := present
    controller := M.controller.map fun c => { c with own := .fresh } }

/-- A write to a cpuset file of the group. -/
def setOwn (f : Cpuset → Cpuset) : Machine :=
  { M with controller := M.controller.map fun c => { c with own := f c.own } }

/-- The other groups use the controller as `others` says, while there is one. -/
def setOthers (others : List Cpuset) : Machine :=
  { M with controller := M.controller.map fun c => { c with others := others } }

end Machine

/-! ## Commands -/

inductive Signal where
  | int
  | term
  deriving DecidableEq, Repr

/-- `exit 130` and `exit 143` of the traps. -/
def Signal.status : Signal → Nat
  | .int => 130
  | .term => 143

inductive Mishap where
  /-- the command is carried out -/
  | none
  | fails
  /-- the signal is handled before the command -/
  | trap (signal : Signal)
  /-- the process is killed before the command -/
  | kill
  deriving DecidableEq, Repr

/-- What happens up to a command: what the other groups do meanwhile, and how it ends. -/
structure Moment where
  others : Option (List Cpuset)
  mishap : Mishap
  deriving DecidableEq, Repr

instance : Inhabited Moment := ⟨⟨none, .none⟩⟩

/-- The variables of `acquire_partition` that `rollback` reads. -/
structure ReserveProgress where
  committed : Bool
  created : Bool
  enabledAdded : Bool
  deriving DecidableEq, Repr

structure Shell where
  machine : Machine
  progress : ReserveProgress
  /-- What the other groups made of the controller when they last could. No command reads it: it is
  what the end is judged by, also when the controller is gone by then. -/
  used : Bool

def Shell.start (M : Machine) : Shell := ⟨M, ⟨false, false, false⟩, M.usedByOthers⟩

/-- The other groups have had their time. -/
def Shell.turn (s : Shell) (m : Moment) : Shell :=
  match m.others with
  | some others =>
    { s with
      machine := s.machine.setOthers others
      used := if s.machine.controller.isSome then others.any Cpuset.inUse else s.used }
  | none => s

/-- Exceptions are exit statuses. -/
abbrev Script (α : Type) : Type := Prog Shell Moment Nat α

variable {α : Type}

/-- A command behind the traps, or without any, where a signal is the end of the process. -/
def command (traps : Bool) (f : Shell → Except Nat (α × Shell)) : Script α :=
  op fun m s =>
    match m.mishap with
    | .none =>
      match f (s.turn m) with
      | .ok (a, s') => (.returned a, s')
      | .error status => (.raised status, s.turn m)
    | .fails => (.raised 1, s.turn m)
    | .trap signal => if traps then (.raised signal.status, s.turn m) else (.killed, s.turn m)
    | .kill => (.killed, s.turn m)

/-- An assignment, which cannot fail. -/
def assign (f : ReserveProgress → ReserveProgress) : Script Unit :=
  op fun m s =>
    match m.mishap with
    | .none => (.returned (), { s.turn m with progress := f s.progress })
    | .fails => (.returned (), { s.turn m with progress := f s.progress })
    | .trap signal => (.raised signal.status, s.turn m)
    | .kill => (.killed, s.turn m)

/-- A command that changes the machine, when it can. -/
def change (traps : Bool) (f : Machine → Option Machine) : Script Unit :=
  command traps fun s =>
    match f s.machine with
    | some M => .ok ((), { s with machine := M })
    | none => .error 1

/-- A command that looks at the machine. -/
def look (traps : Bool) (f : Machine → Option α) : Script α :=
  command traps fun s =>
    match f s.machine with
    | some a => .ok (a, s)
    | none => .error 1

/-! ## The state directory -/

/-- What `acquire_partition` was asked for, and whether it has to enable the controller. -/
structure Lease where
  owner : List Char
  available : List Nat
  dedicated : Nat
  added : Bool
  deriving DecidableEq, Repr

namespace Lease

variable (lease : Lease)

/-- The CPUs that stay with everyone else. -/
def general : List Nat := lease.available.filter (· ≠ lease.dedicated)

def addedText : List Char := if lease.added then ['1'] else ['0']

/-- `printf '%s\n' "$owner" "$available" "$dedicated" "$added"`. -/
def stateText : List Char :=
  [lease.owner, CpuList.format lease.available, natText lease.dedicated, lease.addedText].flatMap
    (· ++ ['\n'])

/-- `cpu-partition-active.json`. -/
def activeText (actual root : List Char) : List Char :=
  "\x7b\"owner_pid\":".toList ++ lease.owner
    ++ ",\"available_cpus\":\"".toList ++ CpuList.format lease.available
    ++ "\",\"reserved_cpu\":".toList ++ natText lease.dedicated
    ++ ",\"general_cpus\":\"".toList ++ CpuList.format lease.general
    ++ "\",\"partition\":\"isolated\",\"partition_cpus\":\"".toList ++ actual
    ++ "\",\"root_cpus\":\"".toList ++ root
    ++ "\",\"root_cpuset_added\":".toList ++ (if lease.added then "true" else "false").toList
    ++ ",\"verified\":true\x7d\n".toList

/-- `cpu-partition-restored.json`. -/
def restoredText (root : List Char) (enabled : Bool) : List Char :=
  "\x7b\"owner_pid\":".toList ++ lease.owner
    ++ ",\"available_cpus\":\"".toList ++ CpuList.format lease.available
    ++ "\",\"reserved_cpu\":".toList ++ natText lease.dedicated
    ++ ",\"partition\":\"released\",\"root_cpus\":\"".toList ++ root
    ++ "\",\"root_cpuset_enabled\":".toList ++ (if enabled then "true" else "false").toList
    ++ ",\"verified\":true\x7d\n".toList

end Lease

/-- `mapfile -t`. -/
def mapfile (text : List Char) : List (List Char) :=
  let lines := text.splitOn '\n'
  if lines.getLast? = some [] then lines.dropLast else lines

/-- The check of the lines of `cpu-partition.state`. -/
def readLease (owner : List Char) (text : List Char) : Option Lease :=
  match mapfile text with
  | [recorded, cpus, cpu, added] =>
    match parseCpuList cpus, CpuList.number (some 4) cpu with
    | some available, some dedicated =>
      if recorded = owner ∧ (added = ['0'] ∨ added = ['1']) ∧ dedicated ∈ available then
        some ⟨owner, available, dedicated, added = ['1']⟩
      else none
    | _, _ => none
  | _ => none

/-! ## `release_partition` -/

variable (kernel : Kernel)

/-- `if ! controller_in_use; then cg_write … -cpuset`; nobody comes between the look and the
write. -/
def disableUnused : Script Unit :=
  op fun m s =>
    let s := s.turn m
    match m.mishap with
    | .none =>
      (.returned (), if s.machine.controllerInUse then s else { s with machine := s.machine.disable })
    | .fails => if s.machine.controllerInUse then (.returned (), s) else (.raised 1, s)
    | .trap _ => (.killed, s)
    | .kill => (.killed, s)

/-- `cg_write "$group/cpuset.cpus.partition" member` and `cg_rmdir "$group"`: the first needs the
file to be there. -/
def removeGroup : Script Unit := do
  change false fun M =>
    if M.controller.isSome then some (M.setOwn fun c => { c with partition := .member }) else none
  change false fun M => some (M.setGroup false)

/-- `if [[ -d $group ]]`. -/
def removePresent (present : Bool) : Script Unit := if present then removeGroup else pure ()

/-- `[[ $root == "$available" ]]`, where `root` is read. -/
def readRoot (available : List Nat) : Script (List Char) :=
  look false fun M =>
    match canonicalCpus (kernel.listText M.rootEffective) with
    | some root => if root = CpuList.format available then some root else none
    | none => none

/-- A controller that `acquire_partition` did not enable stays. -/
def disableAdded (lease : Lease) (enabled : Bool) : Script Unit :=
  if lease.added ∧ enabled then disableUnused else pure ()

/-- The record of the release, made once. -/
def Machine.addRestored (lease : Lease) (root : List Char) (M : Machine) : Option Machine :=
  match M.restored with
  | .absent => some { M with restored := .regular (lease.restoredText root M.controller.isSome) }
  | .regular _ => some M
  | .special => none

def recordRestored (lease : Lease) (root : List Char) : Script Unit :=
  change false (Machine.addRestored lease root)

/-- `release_partition` behind the check of the ownership state. -/
def releaseOwned (lease : Lease) : Script Unit := do
  let present ← look false fun M => some M.group
  removePresent present
  let root ← readRoot kernel lease.available
  let enabled ← look false fun M => some M.controller.isSome
  disableAdded lease enabled
  recordRestored lease root
  look false fun _ => some ()

/-- `release_partition` behind `validate_owner`; without a state file there must be no group. -/
def releaseState (owner : List Char) : StateFile → Script Unit
  | .absent => look false fun M => if M.group then none else some ()
  | .special => raise 1
  | .regular text =>
    match readLease owner text with
    | some lease => releaseOwned kernel lease
    | none => raise 1

def releasePartition (owner : List Char) : Script Unit := do
  command false fun s => if s.machine.validateOwner owner then .ok ((), s) else .error 2
  let state ← look false fun M => some M.state
  releaseState kernel owner state

/-! ## `acquire_partition` -/

/-- `(set -C; printf … > "$state")`. -/
def recordOwnership (lease : Lease) : Script Unit :=
  change true fun M =>
    if M.state = .absent then some { M with state := .regular lease.stateText } else none

def enableController (lease : Lease) : Script Unit :=
  if lease.added then do
    change true fun M => some M.enable
    assign fun p => { p with enabledAdded := true }
  else pure ()

def makeGroup : Script Unit := do
  change true fun M => if M.group then none else some (M.setGroup true)
  assign fun p => { p with created := true }

/-- The group asks for the dedicated CPU alone. -/
def isolateGroup (lease : Lease) : Script Unit := do
  change true fun M =>
    if M.controller.isSome then some (M.setOwn fun c => { c with cpus := natText lease.dedicated })
    else none
  change true fun M =>
    if M.controller.isSome then
      some (M.setOwn fun c =>
        { c with partition := if kernel.grants then .isolated else .invalid })
    else none

/-- The comparison of what was asked for with what the kernel reports: `actual` and `root`. -/
def verifyPartition (lease : Lease) : Script (List Char × List Char) :=
  look true fun M =>
    match M.controller with
    | some c =>
      match canonicalCpus (kernel.listText (M.groupEffective c)),
          canonicalCpus (kernel.listText M.rootEffective) with
      | some actual, some root =>
        if c.own.partition = .isolated ∧ actual = natText lease.dedicated
            ∧ root = CpuList.format lease.general then some (actual, root)
        else none
      | _, _ => none
    | none => none

def recordActive (lease : Lease) (actual root : List Char) : Script Unit :=
  change true fun M =>
    if M.active = .absent then some { M with active := .regular (lease.activeText actual root) }
    else none

/-- `acquire_partition` behind its traps. -/
def reserve (lease : Lease) : Script Unit := do
  recordOwnership lease
  enableController lease
  makeGroup
  isolateGroup kernel lease
  let report ← verifyPartition kernel lease
  recordActive lease report.1 report.2
  assign fun p => { p with committed := true }
  look true fun _ => some ()

/-- `rollback`, the trap of `EXIT`; from here on no signal is handled. The result is the exit
status. -/
def rollback (lease : Lease) (status : Nat) : Script Nat := do
  let s ← get
  if s.progress.committed then pure status
  else if s.progress.created then
    handle (do releasePartition kernel lease.owner; pure status) fun _ => pure 1
  else if s.progress.enabledAdded then
    handle (do disableUnused; pure status) fun _ => pure 1
  else pure status

/-- What the checks in front of the traps make of the arguments. -/
def Machine.lease (M : Machine) (owner available dedicated : List Char) : Option Lease :=
  if M.accepted kernel owner available dedicated then
    match parseCpuList available, CpuList.number (some 4) dedicated with
    | some cpus, some cpu => some ⟨owner, cpus, cpu, M.controller.isNone⟩
    | _, _ => none
  else none

/-- `acquire_partition`; a check that fails is an exception, everything behind the checks ends with
the rollback. -/
def acquirePartition (owner available dedicated : List Char) : Script Nat := do
  let lease ← look false fun M => M.lease kernel owner available dedicated
  let status ← handle (do reserve kernel lease; pure 0) fun status => pure status
  rollback kernel lease status

end AceXdp
