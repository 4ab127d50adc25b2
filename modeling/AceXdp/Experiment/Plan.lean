import Mathlib.Data.Fin.VecNotation
import AceXdp.Lib.Binary64
import AceXdp.Experiment.Descriptor
import AceXdp.Runner.ConfigFile

/-!
# AceXdp — the plan of the experiment (`build_plan.py`)

`validate` checks a profile, `rows` lists the conditions of the design and `config` prints the file
that both runners read for one of them. A profile that has been checked is a value of `Profile`,
whose fields carry the ranges; what the check pins to one value is a constant.
-/

namespace AceXdp.Plan

open Json Decimal Disk Rounding

/-! ## Errors -/

inductive PlanError where
  /-- `ValueError`, with its text -/
  | value (message : String)
  /-- unresolved experimental choices -/
  | unresolved (keys : List Str)
  /-- `AddressValueError` of the `ipaddress` module -/
  | address
  deriving DecidableEq, Repr

abbrev Validated (α : Type) : Type := Except PlanError α

def reject {α : Type} (message : String) : Validated α := .error (.value message)

/-! ## A checked profile -/

/-- An integer that was checked against a range. -/
abbrev Within (low high : Nat) : Type := {n : Nat // low ≤ n ∧ n ≤ high}

/-- A policy with a priority that it allows. -/
structure Scheduling where
  policy : SchedPolicy
  priority : Within (if policy = .other then 0 else 1) (if policy = .other then 0 else 99)

/-- One number of a dotted quad as `ipaddress` parses it. -/
def parseOctet (text : List Char) : Option Nat :=
  if text = [] then none
  else if ¬text.all Char.isDigit then none
  else if 3 < text.length then none
  else if text ≠ ['0'] ∧ text.head? = some '0' then none
  else if 255 < Nat.ofDigitChars 10 text 0 then none
  else some (Nat.ofDigitChars 10 text 0)

def isDottedQuad (text : List Char) : Bool :=
  (text.splitOn '.').length = 4 && (text.splitOn '.').all fun octet => (parseOctet octet).isSome

/-- What `ipaddress.IPv4Address` takes: an integer stands for an address too. -/
inductive Address where
  | text (chars : List Char) (quad : isDottedQuad chars = true)
  | number (n : Within 0 0xFFFFFFFF)
  | truth (b : Bool)

/-- `str(profile['receiver_address'])`. -/
def Address.chars : Address → List Char
  | .text chars _ => chars
  | .number n => natText n
  | .truth true => "True".toList
  | .truth false => "False".toList

structure Profile where
  address : Address
  receiver : Fin 3 → Scheduling
  sender : Fin 3 → Scheduling
  senderSupervisorCpu : Within 0 3
  networkHighBps : Within 1 1000000000
  settleMs : Within 0 60000
  flowPps : Fin 3 → Within 1 1000000
  loadWorkers : Within 1 64
  xskBusy : Option (Within 0 1)
  phcTracking : Option (Within 0 1)
  rxCoalesceUsecs : Option (Within 0 10000)

/-- `receiver_shared_cpus` and `receiver_cpumap_cpu`. -/
def sharedCpus : List Nat := [0, 1, 2, 3]

def cpumapCpu : Nat := 3

/-! ## `validate` -/

/-- The keys of `profile.example.json`. -/
def expectedKeys : List Str :=
  ["receiver_address", "receiver_shared_cpus", "receiver_cpumap_cpu", "receiver_policies",
    "receiver_priorities", "sender_policies", "sender_priorities", "receiver_supervisor_cpu",
    "sender_supervisor_cpu", "receiver_network_cpu", "network_high_bps", "settle_ms"].map str

def optionalKeys : List Str :=
  ["flow_pps", "load_workers", "xsk_busy", "rx_coalesce_usecs", "phc_tracking"].map str

def isNull : Value → Bool
  | .null => true
  | _ => false

/-- `null`, or a list with a `null` in it. -/
def isUnresolved : Value → Bool
  | .arr items => items.any isNull
  | value => isNull value

/-- The first two checks; the members are those of a dictionary, each key once. -/
def checkKeys (profile : Members) : Validated Unit :=
  let keys := profile.map Prod.fst
  if !expectedKeys.all keys.contains
      || !keys.all fun key => expectedKeys.contains key || optionalKeys.contains key then
    reject "profile keys must match profile.example.json plus supported runtime options"
  else
    let missing := (profile.filter fun entry => isUnresolved entry.2).map Prod.fst
    if missing ≠ [] then .error (.unresolved missing) else .ok ()

/-- `profile[name]` of a key that is there. -/
def member (profile : Members) (name : String) : Value := (field profile name).getD .null

/-- `integer`. -/
def integer (value : Value) (low high : Nat) (name : String) : Validated (Within low high) :=
  let refused := "invalid " ++ name ++ ": expected integer " ++ toString low ++ ".." ++ toString high
  match value with
  | .int n =>
    if h : 0 ≤ n ∧ low ≤ n.toNat ∧ n.toNat ≤ high then .ok ⟨n.toNat, h.2⟩ else reject refused
  | _ => reject refused

/-- `ipaddress.IPv4Address`; no other value prints as a dotted quad. -/
def ipv4Address (value : Value) : Validated Address :=
  match value with
  | .int n =>
    if h : 0 ≤ n ∧ n.toNat ≤ 0xFFFFFFFF then .ok (.number ⟨n.toNat, Nat.zero_le _, h.2⟩)
    else .error .address
  | .bool b => .ok (.truth b)
  | .string s =>
    if h : isDottedQuad (asciiText s) = true then .ok (.text (asciiText s) h) else .error .address
  | _ => .error .address

def threeValues (value : Value) (name : String) : Validated (Fin 3 → Value) :=
  match value with
  | .arr [a, b, c] => .ok ![a, b, c]
  | _ => reject (name ++ " needs three values")

/-- `shared != [0, 1, 2, 3]`. -/
def checkShared (value : Value) : Validated Unit :=
  match value with
  | .arr [.int a, .int b, .int c, .int d] =>
    if a = 0 ∧ b = 1 ∧ c = 2 ∧ d = 3 then .ok ()
    else reject "receiver_shared_cpus must be [0,1,2,3] for the available Pi execution domain"
  | _ => reject "receiver_shared_cpus must be [0,1,2,3] for the available Pi execution domain"

def policyNames : List (Str × SchedPolicy) :=
  [(str "other", .other), (str "rr", .rr), (str "fifo", .fifo)]

def schedPolicy (value : Value) : Validated SchedPolicy :=
  match value with
  | .string s =>
    match policyNames.lookup s with
    | some policy => .ok policy
    | none => reject "invalid scheduler policy"
  | _ => reject "invalid scheduler policy"

/-- One turn of the loop over policies and priorities. -/
def scheduling (policy priority : Value) : Validated Scheduling := do
  let policy ← schedPolicy policy
  let priority ← integer priority (if policy = .other then 0 else 1)
    (if policy = .other then 0 else 99) "scheduler priority"
  return ⟨policy, priority⟩

def schedulings (policies priorities : Fin 3 → Value) : Validated (Fin 3 → Scheduling) := do
  let first ← scheduling (policies 0) (priorities 0)
  let second ← scheduling (policies 1) (priorities 1)
  let third ← scheduling (policies 2) (priorities 2)
  return ![first, second, third]

def checkInherit (profile : Members) (name : String) : Validated Unit :=
  if equalsStr (some (member profile name)) (str "inherit") then .ok ()
  else reject (name ++ " must inherit the shared execution domain")

/-- `profile.get('flow_pps', [1000] * 3)`. -/
def flowRates (profile : Members) : Validated (Fin 3 → Within 1 1000000) :=
  match field profile "flow_pps" with
  | none => .ok fun _ => ⟨1000, by decide⟩
  | some value => do
    let rates ← threeValues value "flow_pps"
    let first ← integer (rates 0) 1 1000000 "flow PPS"
    let second ← integer (rates 1) 1 1000000 "flow PPS"
    let third ← integer (rates 2) 1 1000000 "flow PPS"
    return ![first, second, third]

/-- An option that the configuration has only when the profile has it. -/
def optionalInteger (profile : Members) (key : String) (low high : Nat) (name : String) :
    Validated (Option (Within low high)) :=
  match field profile key with
  | none => .ok none
  | some value => (integer value low high name).map some

def validate (profile : Members) : Validated Profile := do
  checkKeys profile
  let address ← ipv4Address (member profile "receiver_address")
  let receiverPriorities ← threeValues (member profile "receiver_priorities") "receiver_priorities"
  let senderPriorities ← threeValues (member profile "sender_priorities") "sender_priorities"
  let receiverPolicies ← threeValues (member profile "receiver_policies") "receiver_policies"
  let senderPolicies ← threeValues (member profile "sender_policies") "sender_policies"
  checkShared (member profile "receiver_shared_cpus")
  let _ ← integer (member profile "receiver_cpumap_cpu") cpumapCpu cpumapCpu "CPUMAP CPU"
  let receiver ← schedulings receiverPolicies receiverPriorities
  let sender ← schedulings senderPolicies senderPriorities
  let senderSupervisorCpu ← integer (member profile "sender_supervisor_cpu") 0 3
    "sender supervisor CPU"
  checkInherit profile "receiver_network_cpu"
  checkInherit profile "receiver_supervisor_cpu"
  let networkHighBps ← integer (member profile "network_high_bps") 1 1000000000 "network high bps"
  let settleMs ← integer (member profile "settle_ms") 0 60000 "settle ms"
  let flowPps ← flowRates profile
  let loadWorkers ← integer ((field profile "load_workers").getD (.int 3)) 1 64 "load workers"
  let xskBusy ← optionalInteger profile "xsk_busy" 0 1 "xsk_busy"
  let phcTracking ← optionalInteger profile "phc_tracking" 0 1 "phc_tracking"
  let rxCoalesceUsecs ← optionalInteger profile "rx_coalesce_usecs" 0 10000 "RX coalesce usecs"
  return { address, receiver, sender, senderSupervisorCpu, networkHighBps, settleMs, flowPps,
           loadWorkers, xskBusy, phcTracking, rxCoalesceUsecs }

/-! ## `rows` -/

inductive NetworkLoad where
  | none | high
  deriving DecidableEq, Repr

def NetworkLoad.name : NetworkLoad → String
  | .none => "none"
  | .high => "high"

structure Row where
  caseId : List Char
  references : List (List Char)
  passPps : Nat
  cpuPercent : Nat
  network : NetworkLoad
  loadCpus : String
  loadWorkers : Nat
  singleFlow : Option (Fin 3)
  modes : List String

def singleModes : Fin 3 → String := !["all-pass", "mixed", "pass-xsk"]

def singleRow (profile : Profile) (i : Fin 3) : Row where
  caseId := "single-".toList ++ natText (i.val + 1)
  references := ["D01-flow".toList ++ natText (i.val + 1)]
  passPps := profile.flowPps 0
  cpuPercent := 0
  network := .none
  loadCpus := "per-mode-general"
  loadWorkers := profile.loadWorkers
  singleFlow := some i
  modes := [singleModes i]

/-- `add`; the number of the row has two digits. -/
def mainRow (profile : Profile) (number cpu : Nat) (network : NetworkLoad) : Row where
  caseId := "main-".toList ++ (if number < 10 then ['0'] else []) ++ natText number
  references := ["A-cpu".toList ++ natText cpu ++ '-' :: network.name.toList]
  passPps := profile.flowPps 0
  cpuPercent := cpu
  network := network
  loadCpus := "per-mode-general"
  loadWorkers := profile.loadWorkers
  singleFlow := none
  modes := ["all-pass", "pass-xsk", "mixed"]

def mainRows (profile : Profile) : List Row :=
  (([0, 100].flatMap fun cpu => [NetworkLoad.none, .high].map fun network => (cpu, network)).zipIdx).map
    fun condition => mainRow profile (condition.2 + 1) condition.1.1 condition.1.2

def rows (profile : Profile) : List Row :=
  (List.finRange 3).map (singleRow profile) ++ mainRows profile

/-! ## `config` -/

def repeats : Nat := 5

/-- `round(1000000000 / pps)`: a division of floats, and halves to even. -/
def periodNs (pps : Nat) : Int := roundEven (binary64 (1000000000 / pps))

/-- The rate of a flow in one row. -/
def rowPps (profile : Profile) (row : Row) (i : Fin 3) : Nat :=
  match row.singleFlow with
  | some single => if i ≠ single then 0 else profile.flowPps i
  | none => profile.flowPps i

def policyText : SchedPolicy → List Char
  | .other => "other".toList
  | .fifo => "fifo".toList
  | .rr => "rr".toList

/-- The modes in the order that the number of the row asks for. -/
def rotatedModes (modes : List String) (index : Nat) : List String :=
  let offset := index % modes.length
  modes.drop offset ++ modes.take offset

def commaText (texts : List (List Char)) : List Char := [','].intercalate texts

/-- One member of `values`. -/
def entry (key : String) (value : List Char) : List Char × List Char := (key.toList, value)

/-- The literal of `values`. -/
def commonValues (profile : Profile) (row : Row) (index : Nat) : List (List Char × List Char) :=
  [entry "run_id" row.caseId,
    entry "receiver_address" profile.address.chars,
    entry "control_port" (natText 49090),
    entry "repo" "AUTO".toList,
    entry "output_root" "results/experiment".toList,
    entry "interface" "eth0".toList,
    entry "modes" (commaText ((rotatedModes row.modes index).map String.toList)),
    entry "repeats" (natText repeats),
    entry "alternate_mode_order" (natText 1),
    entry "verify_placement" (natText 1),
    entry "duration_ms" (natText 60000),
    entry "warmup_ms" (natText 5000),
    entry "settle_ms" (natText profile.settleMs),
    entry "ready_timeout_ms" (natText 60000),
    entry "stop_timeout_ms" (natText 60000),
    entry "start_delay_ms" (natText 250),
    entry "drain_ms" (natText 100),
    entry "supervisor_cpu" "inherit".toList,
    entry "monitor" (natText 1)]

/-- The first update of `values`. -/
def placementValues (profile : Profile) (row : Row) : List (List Char × List Char) :=
  [entry "receiver.supervisor_cpu" "inherit".toList,
    entry "receiver.shared_cpus" (commaText (sharedCpus.map natText)),
    entry "receiver.cpumap_cpu" (natText cpumapCpu),
    entry "sender.supervisor_cpu" (natText profile.senderSupervisorCpu),
    entry "receiver.network_cpu" "inherit".toList,
    entry "sender.network_cpu" (natText 3),
    entry "environment.governor" "performance".toList,
    entry "environment.rx_irq_cpu" (natText 2),
    entry "load.cpu_percent" (natText row.cpuPercent),
    entry "load.cpu_cpus" (commaText (sharedCpus.map natText)),
    entry "load.cpu_layout" "shared".toList,
    entry "load.cpu_workers" (natText row.loadWorkers),
    entry "load.cpu_method" "all".toList,
    entry "load.memory_workers" (natText 0),
    entry "load.memory_bytes" (natText 0),
    entry "load.io_workers" (natText 0),
    entry "load.io_path" "/tmp".toList,
    entry "load.network_bps"
      (natText (if row.network = .none then 0 else profile.networkHighBps)),
    entry "load.network_protocol" "udp".toList,
    entry "load.network_direction" "forward".toList,
    entry "load.network_port" (natText 5201),
    entry "load.network_parallel" (natText 1),
    entry "load.on_sec" (natText 0),
    entry "load.off_sec" (natText 0)]

/-- `if key in profile: values[native] = profile[key]`. -/
def optionalValue {low high : Nat} (key : String) (value : Option (Within low high)) :
    List (List Char × List Char) :=
  match value with
  | some n => [entry key (natText n)]
  | none => []

def optionalValues (profile : Profile) : List (List Char × List Char) :=
  optionalValue "receiver.xsk_busy" profile.xskBusy
    ++ optionalValue "measurement.phc_tracking" profile.phcTracking
    ++ optionalValue "environment.rx_coalesce_usecs" profile.rxCoalesceUsecs

/-- A key of one flow. -/
def flowEntry (i : Fin 3) (name : String) (value : List Char) : List Char × List Char :=
  ("flow".toList ++ (natText (i.val + 1) ++ '.' :: name.toList), value)

/-- One turn of the loop over the flows. -/
def flowValues (profile : Profile) (row : Row) (i : Fin 3) : List (List Char × List Char) :=
  let pps := rowPps profile row i
  [flowEntry i "enabled" (natText (if 0 < pps then 1 else 0)),
    flowEntry i "period_ns" (if pps ≠ 0 then intText (periodNs pps) else natText 1000000),
    flowEntry i "deadline_ns" (natText (if i = 0 then 0 else 100000)),
    flowEntry i "tx_cpu" (natText i),
    flowEntry i "rx_cpu" "inherit".toList,
    flowEntry i "tx_policy" (policyText (profile.sender i).policy),
    flowEntry i "rx_policy" (policyText (profile.receiver i).policy),
    flowEntry i "tx_priority" (natText (profile.sender i).priority),
    flowEntry i "rx_priority" (natText (profile.receiver i).priority)]

def configValues (profile : Profile) (row : Row) (index : Nat) : List (List Char × List Char) :=
  commonValues profile row index ++ placementValues profile row ++ optionalValues profile
    ++ (List.finRange 3).flatMap (flowValues profile row)

/-- The comment in front. -/
def header : List Char :=
  "# Generated common config: copy identical bytes to both Pis.".toList

def line (value : List Char × List Char) : List Char := value.1 ++ '=' :: value.2 ++ ['\n']

def config (profile : Profile) (row : Row) (index : Nat) : List Char :=
  header ++ '\n' :: (configValues profile row index).flatMap line

end AceXdp.Plan
