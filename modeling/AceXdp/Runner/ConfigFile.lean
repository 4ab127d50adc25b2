import Mathlib.Data.List.DropRight
import AceXdp.Lib.CpuList
import AceXdp.Lib.Json
import AceXdp.Runner.Config

/-!
# AceXdp — the configuration file of `ace-run` (`read_run_config`)

A file of `key=value` lines. The bytes of the file are characters below 256. The C code notes an
error and reads on; a file is accepted when no error was noted, which is what `none` stands for here.
What a value has been checked for is a field of its type: printable texts, CPU masks, the shared CPU
domain, a flow with a period.
-/

namespace AceXdp

open Decimal

/-! ## Keys -/

/-- The fields of `flowN.`. -/
inductive FlowKey where
  | enabled | periodNs | deadlineNs | txCpu | rxCpu | allPassRxCpu | txPolicy | rxPolicy
  | txPriority | rxPriority
  deriving DecidableEq, Repr

def FlowKey.text : FlowKey → List Char
  | .enabled => "enabled".toList
  | .periodNs => "period_ns".toList
  | .deadlineNs => "deadline_ns".toList
  | .txCpu => "tx_cpu".toList
  | .rxCpu => "rx_cpu".toList
  | .allPassRxCpu => "all_pass_rx_cpu".toList
  | .txPolicy => "tx_policy".toList
  | .rxPolicy => "rx_policy".toList
  | .txPriority => "tx_priority".toList
  | .rxPriority => "rx_priority".toList

def FlowKey.all : List FlowKey :=
  [.enabled, .periodNs, .deadlineNs, .txCpu, .rxCpu, .allPassRxCpu, .txPolicy, .rxPolicy,
    .txPriority, .rxPriority]

inductive ConfigKey where
  | runId | receiverAddress | controlPort | repo | outputRoot | interface | modes | repeats
  | alternateModeOrder | verifyPlacement | durationMs | warmupMs | readyTimeoutMs | stopTimeoutMs
  | startDelayMs | drainMs | settleMs | supervisorCpu | monitor | governor | rxIrqCpu
  | rxCoalesceUsecs | xskBusy | phcTracking | receiverSupervisorCpu | senderSupervisorCpu
  | receiverNetworkCpu | senderNetworkCpu | sharedCpus | cpumapCpu | cpuPercent | cpuCpus
  | cpuLayout | cpuWorkers | cpuMethod | memoryWorkers | memoryBytes | ioWorkers | ioPath
  | networkBps | networkProtocol | networkDirection | networkPort | networkParallel | onSec | offSec
  | flow (index : Fin 3) (key : FlowKey)
  deriving DecidableEq, Repr

def ConfigKey.text : ConfigKey → List Char
  | .runId => "run_id".toList
  | .receiverAddress => "receiver_address".toList
  | .controlPort => "control_port".toList
  | .repo => "repo".toList
  | .outputRoot => "output_root".toList
  | .interface => "interface".toList
  | .modes => "modes".toList
  | .repeats => "repeats".toList
  | .alternateModeOrder => "alternate_mode_order".toList
  | .verifyPlacement => "verify_placement".toList
  | .durationMs => "duration_ms".toList
  | .warmupMs => "warmup_ms".toList
  | .readyTimeoutMs => "ready_timeout_ms".toList
  | .stopTimeoutMs => "stop_timeout_ms".toList
  | .startDelayMs => "start_delay_ms".toList
  | .drainMs => "drain_ms".toList
  | .settleMs => "settle_ms".toList
  | .supervisorCpu => "supervisor_cpu".toList
  | .monitor => "monitor".toList
  | .governor => "environment.governor".toList
  | .rxIrqCpu => "environment.rx_irq_cpu".toList
  | .rxCoalesceUsecs => "environment.rx_coalesce_usecs".toList
  | .xskBusy => "receiver.xsk_busy".toList
  | .phcTracking => "measurement.phc_tracking".toList
  | .receiverSupervisorCpu => "receiver.supervisor_cpu".toList
  | .senderSupervisorCpu => "sender.supervisor_cpu".toList
  | .receiverNetworkCpu => "receiver.network_cpu".toList
  | .senderNetworkCpu => "sender.network_cpu".toList
  | .sharedCpus => "receiver.shared_cpus".toList
  | .cpumapCpu => "receiver.cpumap_cpu".toList
  | .cpuPercent => "load.cpu_percent".toList
  | .cpuCpus => "load.cpu_cpus".toList
  | .cpuLayout => "load.cpu_layout".toList
  | .cpuWorkers => "load.cpu_workers".toList
  | .cpuMethod => "load.cpu_method".toList
  | .memoryWorkers => "load.memory_workers".toList
  | .memoryBytes => "load.memory_bytes".toList
  | .ioWorkers => "load.io_workers".toList
  | .ioPath => "load.io_path".toList
  | .networkBps => "load.network_bps".toList
  | .networkProtocol => "load.network_protocol".toList
  | .networkDirection => "load.network_direction".toList
  | .networkPort => "load.network_port".toList
  | .networkParallel => "load.network_parallel".toList
  | .onSec => "load.on_sec".toList
  | .offSec => "load.off_sec".toList
  | .flow index key => "flow".toList ++ (natText (index.val + 1) ++ '.' :: key.text)

def ConfigKey.all : List ConfigKey :=
  [.runId, .receiverAddress, .controlPort, .repo, .outputRoot, .interface, .modes, .repeats,
    .alternateModeOrder, .verifyPlacement, .durationMs, .warmupMs, .readyTimeoutMs, .stopTimeoutMs,
    .startDelayMs, .drainMs, .settleMs, .supervisorCpu, .monitor, .governor, .rxIrqCpu,
    .rxCoalesceUsecs, .xskBusy, .phcTracking, .receiverSupervisorCpu, .senderSupervisorCpu,
    .receiverNetworkCpu, .senderNetworkCpu, .sharedCpus, .cpumapCpu, .cpuPercent, .cpuCpus,
    .cpuLayout, .cpuWorkers, .cpuMethod, .memoryWorkers, .memoryBytes, .ioWorkers, .ioPath,
    .networkBps, .networkProtocol, .networkDirection, .networkPort, .networkParallel, .onSec,
    .offSec] ++ (List.finRange 3).flatMap fun index => FlowKey.all.map (.flow index)

/-- `allowed`, with the key it finds. -/
def ConfigKey.ofText (text : List Char) : Option ConfigKey :=
  ConfigKey.all.find? fun key => key.text = text

/-! ## Lines -/

def isPrintable (c : Char) : Bool := 32 ≤ c.toNat && c.toNat ≤ 126

/-- A value of the file, or a default. -/
structure PrintableText where
  chars : List Char
  printable : ∀ c ∈ chars, isPrintable c
  deriving DecidableEq

def isCSpace (c : Char) : Bool :=
  c = ' ' || c = '\t' || c = '\n' || c = '\x0b' || c = '\x0c' || c = '\r'

def trim (s : List Char) : List Char := (s.dropWhile isCSpace).rdropWhile isCSpace

/-- `fgets(line, sizeof(line), input)`: at most `limit` bytes, up to a newline; the second part is
what is left of the file. -/
def fgets : Nat → List Char → List Char × List Char
  | 0, text => ([], text)
  | _, [] => ([], [])
  | limit + 1, c :: text =>
    if c = '\n' then (['\n'], text)
    else
      let (line, rest) := fgets limit text
      (c :: line, rest)

/-- `sizeof(line) - 1`. -/
def lineLimit : Nat := 8191

/-- A line is cut off at a NUL. It is whole when it has its newline, or when the file ended. -/
def lineText (line : List Char) : Option (List Char) :=
  let text := line.takeWhile (· ≠ '\x00')
  if '\n' ∈ text ∨ (line.length < lineLimit ∧ line.getLast? ≠ some '\n') then some text else none

abbrev ConfigEntry : Type := ConfigKey × PrintableText

/-- What `strcpy` puts into `entries[n].value`. -/
def entryValue (value : List Char) : Option PrintableText :=
  if h : value.length < 4096 ∧ ∀ c ∈ value, isPrintable c then some ⟨value, h.2⟩ else none

/-- `key=value`, blanks around both. -/
def parseEntry (text : List Char) : Option ConfigEntry :=
  if '=' ∈ text then
    match ConfigKey.ofText (trim (text.takeWhile (· ≠ '='))),
        entryValue (trim ((text.dropWhile (· ≠ '=')).drop 1)) with
    | some key, some value => some (key, value)
    | _, _ => none
  else none

/-- One turn of the loop over the lines, with the entries so far. -/
def parseLine (entries : List ConfigEntry) (line : List Char) : Option (List ConfigEntry) :=
  match lineText line with
  | none => none
  | some text =>
    if trim text = [] ∨ (trim text).head? = some '#' then some entries
    else
      match parseEntry (trim text) with
      | none => none
      | some entry =>
        if entries.length < 100 ∧ entry.1 ∉ entries.map Prod.fst then some (entries ++ [entry])
        else none

/-- The loop; every turn takes a byte at least. -/
def parseLines : Nat → List ConfigEntry → List Char → Option (List ConfigEntry)
  | _, entries, [] => some entries
  | 0, _, _ => none
  | fuel + 1, entries, text =>
    match parseLine entries (fgets lineLimit text).1 with
    | none => none
    | some entries => parseLines fuel entries (fgets lineLimit text).2

def parseEntries (content : List Char) : Option (List ConfigEntry) :=
  parseLines content.length [] content

/-! ## Values -/

section Values

variable (p : List ConfigEntry)

def lookupEntry (key : ConfigKey) (fallback : Option PrintableText) : Option PrintableText :=
  match p.lookup key with
  | some value => some value
  | none => fallback

/-- `ace_parse_u64`. -/
def aceParseU64 (text : List Char) (minimum maximum : Nat) : Option Nat :=
  match CpuList.number none text with
  | some n => if n < 2 ^ 64 ∧ minimum ≤ n ∧ n ≤ maximum then some n else none
  | none => none

/-- `number`. -/
def configNumber (key : ConfigKey) (fallback : Option PrintableText) (lo hi : Nat) : Option Nat :=
  (lookupEntry p key fallback).bind fun value => aceParseU64 value.chars lo hi

/-- `string`. -/
def configString (key : ConfigKey) (fallback : Option PrintableText) (size : Nat) :
    Option PrintableText :=
  (lookupEntry p key fallback).bind fun value =>
    if value.chars.length < size ∧ value.chars ≠ [] then some value else none

def inheritText : PrintableText := ⟨"inherit".toList, by decide⟩

/-- `CPU_SETSIZE`. -/
def cpuSetSize : Nat := 1024

/-- A CPU or `inherit`, which is -1. -/
def parseCpu (value : List Char) : Option (Option (Fin cpuSetSize)) :=
  if value = inheritText.chars then some none
  else
    match CpuList.number none value with
    | some n => if h : n < cpuSetSize then some (some ⟨n, h⟩) else none
    | none => none

/-- `cpu`. -/
def configCpu (key : ConfigKey) (fallback : Option PrintableText) :
    Option (Option (Fin cpuSetSize)) :=
  (lookupEntry p key fallback).bind fun value => parseCpu value.chars

inductive SchedPolicy where
  | other | fifo | rr
  deriving DecidableEq, Repr

/-- `SCHED_OTHER`, `SCHED_FIFO` and `SCHED_RR`. -/
def SchedPolicy.code : SchedPolicy → Nat
  | .other => 0
  | .fifo => 1
  | .rr => 2

def parsePolicy (value : List Char) : Option SchedPolicy :=
  if value = "other".toList then some .other
  else if value = "fifo".toList then some .fifo
  else if value = "rr".toList then some .rr
  else none

/-- `policy`. -/
def configPolicy (key : ConfigKey) : Option SchedPolicy :=
  (lookupEntry p key none).bind fun value => parsePolicy value.chars

/-- `number` for a priority, whose range depends on the policy. -/
def configPriority (key : ConfigKey) (policy : SchedPolicy) : Option Nat :=
  configNumber p key none (if policy = .other then 0 else 1) (if policy = .other then 0 else 99)

end Values

/-! ## CPU masks -/

/-- A `cpu_set_t`. -/
structure CpuMask where
  cpus : List Nat
  ascending : CpuList.Ascending cpus
  bound : ∀ n ∈ cpus, n < cpuSetSize

/-- `run_parse_cpus`. -/
def runParseCpus (text : List Char) : Option CpuMask :=
  match h : CpuList.parse cpuSetSize none true text with
  | some cpus => some ⟨cpus, (CpuList.parse_ascending h).1, (CpuList.parse_ascending h).2⟩
  | none => none

/-- `run_format_cpus`, whose buffer has room for every mask. -/
def runFormatCpus (mask : CpuMask) : List Char := CpuList.format mask.cpus

/-- `CPU_CLR`. -/
def CpuMask.clear (mask : CpuMask) (cpu : Nat) : CpuMask where
  cpus := mask.cpus.filter (· ≠ cpu)
  ascending := List.Pairwise.sublist List.filter_sublist mask.ascending
  bound := fun n hn => mask.bound n (List.mem_filter.mp hn).1

/-- `CPU_ZERO`, and `CPU_SET` of one CPU behind it. -/
def CpuMask.empty : CpuMask := ⟨[], List.Pairwise.nil, by simp⟩

def CpuMask.single (cpu : Fin cpuSetSize) : CpuMask :=
  ⟨[cpu.val], List.pairwise_singleton _ _, by simp⟩

/-- The CPUs of the receiver when they are shared; CPU 3 is the CPUMAP target. -/
structure SharedDomain where
  mask : CpuMask
  target : 3 ∈ mask.cpus
  general : 2 ≤ mask.cpus.length

/-! ## The settings -/

/-- `struct run_flow` of an enabled flow. -/
structure FlowSettings where
  periodNs : Nat
  deadlineNs : Nat
  txCpu : Option (Fin cpuSetSize)
  rxCpu : Option (Fin cpuSetSize)
  allPassRxCpu : Option (Fin cpuSetSize)
  txPolicy : SchedPolicy
  rxPolicy : SchedPolicy
  txPriority : Nat
  rxPriority : Nat
  period_pos : 0 < periodNs

/-- `flow_count`. -/
def FlowSettings.flowCount (f : FlowSettings) (durationMs : Nat) : Nat :=
  (durationMs * 1000000 + f.periodNs - 1) / f.periodNs

/-- A name that goes into paths: `run_id`. -/
structure RunName where
  chars : List Char
  start : chars.head?.any Char.isAlphanum
  name : ∀ c ∈ chars, c.isAlphanum ∨ c = '-' ∨ c = '_'
  length_lt : chars.length < 65

/-- `digest`. -/
structure HexDigest where
  chars : List Char
  hex : ∀ c ∈ chars, (Json.hexValue c).isSome

inductive NetworkProtocol where
  | udp | tcp
  deriving DecidableEq, Repr

inductive NetworkDirection where
  | forward | reverse | bidir
  deriving DecidableEq, Repr

structure ControlSettings where
  runId : RunName
  address : PrintableText
  interface : PrintableText
  repo : List Char
  output : PrintableText
  controlPort : Nat
  repeats : Nat
  alternateModeOrder : Nat
  verifyPlacement : Nat
  durationMs : Nat
  warmupMs : Nat
  readyMs : Nat
  stopMs : Nat
  startDelayMs : Nat
  drainMs : Nat
  settleMs : Nat

structure ReceiverSettings where
  xskBusy : Nat
  phcTracking : Nat
  rxCoalesceUsecs : Option Nat
  supervisorCpu : Option (Fin cpuSetSize)
  receiverSupervisorCpu : Option (Fin cpuSetSize)
  senderSupervisorCpu : Option (Fin cpuSetSize)
  receiverNetworkCpu : Option (Fin cpuSetSize)
  senderNetworkCpu : Option (Fin cpuSetSize)
  cpumapCpu : Nat
  /-- `receiver_shared_cpus` and `receiver_shared_mask`; `none` is the empty string -/
  shared : Option SharedDomain
  governor : PrintableText
  rxIrqCpu : Nat
  cpumap_eq : shared.isSome → cpumapCpu = 3

structure LoadSettings where
  monitor : Nat
  cpuPercent : Nat
  cpuLayout : PrintableText
  cpuWorkers : Nat
  cpuCpus : PrintableText
  cpuMethod : PrintableText
  memoryWorkers : Nat
  memoryBytes : PrintableText
  ioWorkers : Nat
  ioPath : PrintableText
  networkBps : Nat
  networkPort : Nat
  networkParallel : Nat
  networkProtocol : NetworkProtocol
  networkDirection : NetworkDirection
  onSec : Nat
  offSec : Nat

/-- `struct run_config`. -/
structure RunSettings extends ControlSettings, ReceiverSettings, LoadSettings where
  modes : List RunMode
  flows : Fin 3 → Option FlowSettings
  digest : HexDigest
  someFlow : ∃ i, (flows i).isSome

/-! ## Reading them -/

/-- What the runner takes from its surroundings: the path of the program, and the line that
`sha256sum` prints for the file. -/
structure RunnerHost where
  exe : Option (List Char)
  sha256sum : List Char → Option (List Char)

section Read

variable (host : RunnerHost) (p : List ConfigEntry)

def literal (text : List Char) (h : ∀ c ∈ text, isPrintable c) : Option PrintableText :=
  some ⟨text, h⟩

/-- One number of a dotted quad. -/
def isOctet (text : List Char) : Bool :=
  text ≠ [] && text.all Char.isDigit && (text = ['0'] || text.head? ≠ some '0')
    && Nat.ofDigitChars 10 text 0 ≤ 255

/-- `inet_pton(AF_INET, …) == 1`. -/
def isIpv4 (text : List Char) : Bool :=
  (text.splitOn '.').length = 4 && (text.splitOn '.').all isOctet

/-- `strrchr` and a NUL there: what stands in front of the last slash. -/
def beforeSlash (path : List Char) : Option (List Char) :=
  if '/' ∈ path then some ((path.rdropWhile (· ≠ '/')).dropLast) else none

/-- `AUTO` stands for the directory above the program's. -/
def resolveRepo (repo : PrintableText) : Option (List Char) :=
  if repo.chars = "AUTO".toList then
    host.exe.bind fun exe => beforeSlash ((beforeSlash exe).getD exe)
  else some repo.chars

def runName (value : PrintableText) : Option RunName :=
  if h : value.chars.head?.any Char.isAlphanum ∧ (∀ c ∈ value.chars, c.isAlphanum ∨ c = '-' ∨ c = '_')
      ∧ value.chars.length < 65 then some ⟨value.chars, h.1, h.2.1, h.2.2⟩
  else none

def readControl : Option ControlSettings := do
  let runId ← (configString p .runId none 65).bind runName
  let address ← configString p .receiverAddress none 64
  guard (isIpv4 address.chars)
  let interface ← configString p .interface (literal "eth0".toList (by decide)) 16
  let repo ← (configString p .repo (literal "AUTO".toList (by decide)) 4096).bind (resolveRepo host)
  let output ← configString p .outputRoot (literal "results/experiment".toList (by decide)) 4096
  let controlPort ← configNumber p .controlPort (literal "49090".toList (by decide)) 1024 65535
  let repeats ← configNumber p .repeats none 1 10000
  let alternateModeOrder ← configNumber p .alternateModeOrder (literal ['0'] (by decide)) 0 1
  let verifyPlacement ← configNumber p .verifyPlacement (literal ['0'] (by decide)) 0 1
  let durationMs ← configNumber p .durationMs none 1 86400000
  let warmupMs ← configNumber p .warmupMs none 0 3600000
  let readyMs ← configNumber p .readyTimeoutMs (literal "60000".toList (by decide)) 100 600000
  let stopMs ← configNumber p .stopTimeoutMs (literal "60000".toList (by decide)) 100 600000
  let startDelayMs ← configNumber p .startDelayMs (literal "250".toList (by decide)) 10 60000
  let drainMs ← configNumber p .drainMs (literal "100".toList (by decide)) 0 60000
  guard (drainMs + 100 ≤ stopMs)
  let settleMs ← configNumber p .settleMs none 0 60000
  return { runId, address, interface, repo, output, controlPort, repeats, alternateModeOrder,
           verifyPlacement, durationMs, warmupMs, readyMs, stopMs, startDelayMs, drainMs, settleMs }

/-- `!strcmp(lookup(…,"keep"),"keep") ? -1 : number(…)`. -/
def readCoalesce : Option (Option Nat) :=
  (lookupEntry p .rxCoalesceUsecs (literal "keep".toList (by decide))).bind fun value =>
    if value.chars = "keep".toList then some none
    else (configNumber p .rxCoalesceUsecs none 0 10000).map some

/-- The shared domain: empty only when neither key is there. -/
def readShared (cpumapCpu : Nat) : Option (Option SharedDomain) :=
  match p.lookup .sharedCpus with
  | some value =>
    if value.chars = [] then none
    else
      (runParseCpus value.chars).bind fun mask =>
        if h : cpumapCpu = 3 ∧ 3 ∈ mask.cpus ∧ 2 ≤ mask.cpus.length then
          some (some ⟨mask, h.2.1, h.2.2⟩)
        else none
  | none =>
    match p.lookup .cpumapCpu with
    | some value => if value.chars = [] then some none else none
    | none => some none

/-- A value that goes into a command line. -/
def isWord (value : PrintableText) : Bool :=
  value.chars.all fun c => c.isAlphanum || c = '_' || c = '-'

/-- The RX interrupt stays with the general CPUs. -/
def irqAllowed (shared : Option SharedDomain) (cpumapCpu rxIrqCpu : Nat) : Bool :=
  match shared with
  | some domain => rxIrqCpu ∈ domain.mask.cpus && rxIrqCpu ≠ cpumapCpu
  | none => true

def readReceiver : Option ReceiverSettings := do
  let xskBusy ← configNumber p .xskBusy (literal ['0'] (by decide)) 0 1
  let phcTracking ← configNumber p .phcTracking (literal ['0'] (by decide)) 0 1
  let rxCoalesceUsecs ← readCoalesce p
  let supervisorCpu ← configCpu p .supervisorCpu (some inheritText)
  let common ← lookupEntry p .supervisorCpu (some inheritText)
  let receiverSupervisorCpu ← configCpu p .receiverSupervisorCpu (some common)
  let senderSupervisorCpu ← configCpu p .senderSupervisorCpu (some common)
  let receiverNetworkCpu ← configCpu p .receiverNetworkCpu (some inheritText)
  let senderNetworkCpu ← configCpu p .senderNetworkCpu (some inheritText)
  let cpumapCpu ← configNumber p .cpumapCpu (literal ['3'] (by decide)) 0 (cpuSetSize - 1)
  let shared ← readShared p cpumapCpu
  guard (shared.isSome → receiverSupervisorCpu = none ∧ receiverNetworkCpu = none)
  let governor ← configString p .governor (literal "performance".toList (by decide)) 32
  guard (isWord governor)
  let rxIrqCpu ← configNumber p .rxIrqCpu (literal ['2'] (by decide)) 0 (cpuSetSize - 1)
  guard (irqAllowed shared cpumapCpu rxIrqCpu)
  if h : shared.isSome → cpumapCpu = 3 then
    return { xskBusy, phcTracking, rxCoalesceUsecs, supervisorCpu, receiverSupervisorCpu,
             senderSupervisorCpu, receiverNetworkCpu, senderNetworkCpu, cpumapCpu, shared, governor,
             rxIrqCpu, cpumap_eq := h }
  else none

/-- `strstr(cpus, ",,")`. -/
def hasEmptyField (cpus : List Char) : Bool :=
  (cpus.zip cpus.tail).any fun pair => pair.1 = ',' && pair.2 = ','

/-- The characters and commas of `load.cpu_cpus`. -/
def isWorkerList (cpus : List Char) : Bool :=
  cpus.all (fun c => c.isDigit || c = ',')
    && (cpus = [] || (cpus.head? ≠ some ',' && cpus.getLast? ≠ some ',' && !hasEmptyField cpus))

/-- The load workers of a shared receiver stay in its domain. -/
def workersAllowed (shared : Option SharedDomain) (cpuPercent : Nat) (sharedLoad : Bool)
    (cpus : List Char) : Bool :=
  match shared with
  | some domain =>
    if cpuPercent ≠ 0 then
      match runParseCpus cpus with
      | some workers => workers.cpus.all (· ∈ domain.mask.cpus) && sharedLoad
      | none => false
    else true
  | none => true

/-- A shared load runs on the whole domain. -/
def sharedLoadAllowed (shared : Option SharedDomain) (sharedLoad : Bool) (cpus : List Char) : Bool :=
  if sharedLoad then
    match shared, runParseCpus cpus with
    | some domain, some workers => workers.cpus = domain.mask.cpus
    | _, _ => false
  else true

def parseProtocol (value : PrintableText) : Option NetworkProtocol :=
  if value.chars = "udp".toList then some .udp
  else if value.chars = "tcp".toList then some .tcp
  else none

def parseDirection (value : PrintableText) : Option NetworkDirection :=
  if value.chars = "forward".toList then some .forward
  else if value.chars = "reverse".toList then some .reverse
  else if value.chars = "bidir".toList then some .bidir
  else none

/-- The ports of the measured flows are taken. -/
def portsAllowed (controlPort networkPort : Nat) : Bool :=
  controlPort ≠ networkPort && !(9000 ≤ controlPort && controlPort ≤ 9002)
    && !(9000 ≤ networkPort && networkPort ≤ 9002)

def isSharedLayout (cpuLayout : PrintableText) : Bool := cpuLayout.chars = "shared".toList

/-- `cpu_layout` is one of two. -/
def layoutAllowed (cpuLayout : PrintableText) : Bool :=
  isSharedLayout cpuLayout || cpuLayout.chars = "pinned".toList

/-- `load.cpu_workers` belongs to the shared layout, which needs a shared receiver. -/
def workerCountAllowed (shared : Option SharedDomain) (sharedLoad : Bool) (cpuWorkers : Nat) : Bool :=
  if sharedLoad then shared.isSome else cpuWorkers = 0

def readLoad (controlPort : Nat) (shared : Option SharedDomain) : Option LoadSettings := do
  let monitor ← configNumber p .monitor none 0 1
  let cpuPercent ← configNumber p .cpuPercent none 0 100
  let cpuLayout ← configString p .cpuLayout (literal "pinned".toList (by decide)) 16
  guard (layoutAllowed cpuLayout)
  let sharedLoad := isSharedLayout cpuLayout
  let cpuWorkers ← configNumber p .cpuWorkers
    (if sharedLoad then none else literal ['0'] (by decide)) (if sharedLoad then 1 else 0) 256
  guard (workerCountAllowed shared sharedLoad cpuWorkers)
  let cpuCpus ← lookupEntry p .cpuCpus (if cpuPercent ≠ 0 then none else literal [] (by decide))
  guard (cpuCpus.chars.length < 256 ∧ isWorkerList cpuCpus.chars
    ∧ (cpuPercent ≠ 0 → cpuCpus.chars ≠ []))
  guard (workersAllowed shared cpuPercent sharedLoad cpuCpus.chars
    ∧ sharedLoadAllowed shared sharedLoad cpuCpus.chars)
  let cpuMethod ← configString p .cpuMethod (literal "all".toList (by decide)) 64
  guard (isWord cpuMethod)
  let memoryWorkers ← configNumber p .memoryWorkers (literal ['0'] (by decide)) 0 256
  let memoryBytes ← configString p .memoryBytes
    (if memoryWorkers ≠ 0 then none else literal ['0'] (by decide)) 64
  let ioWorkers ← configNumber p .ioWorkers (literal ['0'] (by decide)) 0 256
  let ioPath ← configString p .ioPath
    (if ioWorkers ≠ 0 then none else literal "/tmp".toList (by decide)) 4096
  let networkBps ← configNumber p .networkBps none 0 10000000000
  let networkPort ← configNumber p .networkPort (literal "5201".toList (by decide)) 1024 65535
  let networkParallel ← configNumber p .networkParallel (literal ['1'] (by decide)) 1 128
  guard (networkBps ≠ 0 → networkParallel ≤ networkBps)
  let networkProtocol ←
    (configString p .networkProtocol (literal "udp".toList (by decide)) 8).bind parseProtocol
  let networkDirection ←
    (configString p .networkDirection (literal "forward".toList (by decide)) 16).bind parseDirection
  let onSec ← configNumber p .onSec (literal ['0'] (by decide)) 0 3600
  let offSec ← configNumber p .offSec (literal ['0'] (by decide)) 0 3600
  guard (onSec = 0 ↔ offSec = 0)
  guard (portsAllowed controlPort networkPort)
  return { monitor, cpuPercent, cpuLayout, cpuWorkers, cpuCpus, cpuMethod,
           memoryWorkers, memoryBytes, ioWorkers, ioPath, networkBps, networkPort, networkParallel,
           networkProtocol, networkDirection, onSec, offSec }

/-- The name of a mode. -/
def RunMode.chars : RunMode → List Char
  | .mixed => "mixed".toList
  | .allPass => "all-pass".toList
  | .passXsk => "pass-xsk".toList
  | .socketOnly => "socket-only".toList

def parseMode (token : List Char) : Option RunMode :=
  [RunMode.mixed, .allPass, .passXsk, .socketOnly].find? fun mode => mode.chars = token

/-- `strtok_r` over commas: empty tokens are passed over. -/
def readModes : Option (List RunMode) := do
  let value ← configString p .modes none 64
  let modes ← ((value.chars.splitOn ',').filter (· ≠ [])).mapM parseMode
  guard (modes.length ≤ 4 ∧ modes.Nodup ∧ modes ≠ [])
  return modes

/-- `%d`, or `inherit`. -/
def cpuDefault (cpu : Option (Fin cpuSetSize)) : List Char :=
  match cpu with
  | some n => natText n
  | none => inheritText.chars

/-- `cpu` with the common receiver CPU as the default. -/
def allPassCpu (i : Fin 3) (rxCpu : Option (Fin cpuSetSize)) : Option (Option (Fin cpuSetSize)) :=
  match p.lookup (.flow i .allPassRxCpu) with
  | some value => parseCpu value.chars
  | none => parseCpu (cpuDefault rxCpu)

/-- The fields of an enabled flow. -/
def readEnabledFlow (shared : Option SharedDomain) (i : Fin 3) : Option FlowSettings := do
  let periodNs ← configNumber p (.flow i .periodNs) none 1 1000000000000
  let deadlineNs ← configNumber p (.flow i .deadlineNs) (literal ['0'] (by decide)) 0 1000000000000
  let txCpu ← configCpu p (.flow i .txCpu) none
  let rxCpu ← configCpu p (.flow i .rxCpu) none
  let allPassRxCpu ← allPassCpu p i rxCpu
  guard (shared.isSome → rxCpu = none ∧ allPassRxCpu = none)
  let txPolicy ← configPolicy p (.flow i .txPolicy)
  let rxPolicy ← configPolicy p (.flow i .rxPolicy)
  let txPriority ← configPriority p (.flow i .txPriority) txPolicy
  let rxPriority ← configPriority p (.flow i .rxPriority) rxPolicy
  if h : 0 < periodNs then
    return { periodNs, deadlineNs, txCpu, rxCpu, allPassRxCpu, txPolicy, rxPolicy, txPriority,
             rxPriority, period_pos := h }
  else none

def readFlow (shared : Option SharedDomain) (i : Fin 3) : Option (Option FlowSettings) :=
  (configNumber p (.flow i .enabled) none 0 1).bind fun enabled =>
    if enabled = 0 then some none else (readEnabledFlow p shared i).map some

/-- `RUN_MAX_RECORDS`. -/
def runMaxRecords : Nat := 1048576

/-- `total`. -/
def totalRecords (flows : List (Option FlowSettings)) (durationMs : Nat) : Nat :=
  (flows.map fun f => (f.map fun f => f.flowCount durationMs).getD 0).sum

/-- The three flows. -/
def flowTable (f₁ f₂ f₃ : Option FlowSettings) : Fin 3 → Option FlowSettings
  | 0 => f₁
  | 1 => f₂
  | 2 => f₃

/-- `config_hash`: the first 64 characters of what `sha256sum` prints. -/
def configHash (content : List Char) : Option HexDigest :=
  (host.sha256sum content).bind fun line =>
    if h : 64 ≤ line.length ∧ ∀ c ∈ line.take 64, (Json.hexValue c).isSome then
      some ⟨line.take 64, h.2⟩
    else none

def readRunConfig (content : List Char) : Option RunSettings := do
  let p ← parseEntries content
  let control ← readControl host p
  let receiver ← readReceiver p
  let load ← readLoad p control.controlPort receiver.shared
  let modes ← readModes p
  let f₁ ← readFlow p receiver.shared 0
  let f₂ ← readFlow p receiver.shared 1
  let f₃ ← readFlow p receiver.shared 2
  guard (0 < totalRecords [f₁, f₂, f₃] control.durationMs
    ∧ totalRecords [f₁, f₂, f₃] control.durationMs ≤ runMaxRecords)
  let digest ← configHash host content
  if h : ∃ i, (flowTable f₁ f₂ f₃ i).isSome then
    return { toControlSettings := control, toReceiverSettings := receiver, toLoadSettings := load,
             modes, flows := flowTable f₁ f₂ f₃, digest, someFlow := h }
  else none

end Read

end AceXdp
