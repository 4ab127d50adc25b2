import AceXdp.Lib.JsonDump
import AceXdp.Runner.ConfigFile
import AceXdp.Runner.Script

/-!
# AceXdp — `run.json` as the runner writes it (`write_run`, `write_condition`)

The C code prints the text piece by piece; here the pieces are grouped by the members they belong
to. `%.3f` of a number of milliseconds over 1000 prints its thousandths: the quotient is off by less
than half a unit of the last place printed.
-/

namespace AceXdp

open Decimal Json

variable (c : RunSettings)

/-! ## CPU sets of a mode -/

/-- `run_flow_path`. -/
def runFlowPath (mode : RunMode) (i : Fin 3) : List Char :=
  if i = 2 ∧ (mode = .mixed ∨ mode = .passXsk) then "xsk".toList
  else if i = 1 ∧ mode = .mixed then "cpumap".toList
  else "pass".toList

/-- `run_rx_cpu`. -/
def runRxCpu (f : FlowSettings) (mode : RunMode) : Option (Fin cpuSetSize) :=
  if mode = .allPass then f.allPassRxCpu else f.rxCpu

/-- `run_cpumap_active`. -/
def runCpumapActive (mode : RunMode) : Bool :=
  c.shared.isSome && mode = .mixed && (c.flows 1).isSome

/-- `receiver_shared_mask`. -/
def sharedMask : CpuMask :=
  match c.shared with
  | some domain => domain.mask
  | none => .empty

/-- `run_general_cpu_set`. -/
def runGeneralCpuSet (mode : RunMode) : CpuMask :=
  if runCpumapActive c mode then (sharedMask c).clear c.cpumapCpu else sharedMask c

/-- `run_load_cpus`. -/
def runLoadCpus (mode : RunMode) : List Char :=
  if isSharedLayout c.cpuLayout then runFormatCpus (runGeneralCpuSet c mode) else c.cpuCpus.chars

/-- `CPU_SET` of the CPUMAP target. -/
def targetMask (domain : SharedDomain) : CpuMask :=
  ⟨[3], List.pairwise_singleton _ _, fun n hn => by
    rw [List.mem_singleton.mp hn]
    exact domain.mask.bound 3 domain.target⟩

/-- `run_rx_cpu_set`. -/
def runRxCpuSet (i : Fin 3) (f : FlowSettings) (mode : RunMode) : CpuMask :=
  match c.shared with
  | some domain =>
    if i = 1 ∧ runCpumapActive c mode then targetMask domain else runGeneralCpuSet c mode
  | none =>
    match runRxCpu f mode with
    | some cpu => .single cpu
    | none => .empty

/-! ## Text -/

/-- `json_string`. -/
def jsonEscape (ch : Char) : List Char :=
  if ch = '"' ∨ ch = '\\' then ['\\', ch]
  else if ch.toNat < 32 then unicodeEscape ch.toNat
  else [ch]

def jsonString (s : List Char) : List Char := '"' :: (s.flatMap jsonEscape ++ ['"'])

/-- `"%s"` of a text that needs no escapes. -/
def quoted (s : List Char) : List Char := '"' :: (s ++ ['"'])

/-- `%.3f` of thousandths. -/
def milliText (ms : Nat) : List Char :=
  natText (ms / 1000) ++ '.' ::
    [(ms % 1000 / 100).digitChar, (ms % 100 / 10).digitChar, (ms % 10).digitChar]

/-- `%d` of a CPU. -/
def cpuInt (cpu : Option (Fin cpuSetSize)) : Int :=
  match cpu with
  | some n => n.val
  | none => -1

def boolText (b : Bool) : List Char := if b then "true".toList else "false".toList

/-- `rx_cpu`: the CPU of a set with one element. -/
def onlyCpu (mask : CpuMask) : Int :=
  match mask.cpus with
  | [n] => n
  | _ => -1

/-- `*rx_cpus ? rx_cpus : "inherit"`. -/
def rxCpusText (mask : CpuMask) : List Char :=
  if runFormatCpus mask = [] then "inherit".toList else runFormatCpus mask

/-- A flow of `write_condition`. -/
def writeFlow (mode : RunMode) (durationMs : Nat) (i : Fin 3) (f : FlowSettings) : List Char :=
  objectText [
    ("flow_id".toList, natText (i.val + 1)),
    ("port".toList, natText (9000 + i.val)),
    ("count".toList, natText (f.flowCount durationMs)),
    ("period_ns".toList, natText f.periodNs),
    ("deadline_ns".toList, if f.deadlineNs = 0 then "null".toList else natText f.deadlineNs),
    ("requested_path".toList, quoted (runFlowPath mode i)),
    ("tx_cpu".toList, intText (cpuInt f.txCpu)),
    ("rx_cpu".toList, intText (onlyCpu (runRxCpuSet c i f mode))),
    ("rx_cpus".toList, jsonString (rxCpusText (runRxCpuSet c i f mode))),
    ("tx_policy".toList, natText f.txPolicy.code),
    ("rx_policy".toList, natText f.rxPolicy.code),
    ("tx_priority".toList, natText f.txPriority),
    ("rx_priority".toList, natText f.rxPriority)]

def NetworkProtocol.chars : NetworkProtocol → List Char
  | .udp => "udp".toList
  | .tcp => "tcp".toList

def NetworkDirection.chars : NetworkDirection → List Char
  | .forward => "forward".toList
  | .reverse => "reverse".toList
  | .bidir => "bidir".toList

def writeLoad (mode : RunMode) : List Char :=
  objectText [
    ("cpu_percent".toList, natText c.cpuPercent),
    ("cpu_cpus".toList, jsonString (runLoadCpus c mode)),
    ("cpu_layout".toList, jsonString c.cpuLayout.chars),
    ("cpu_workers".toList, natText c.cpuWorkers),
    ("memory_workers".toList, natText c.memoryWorkers),
    ("memory_bytes".toList, jsonString c.memoryBytes.chars),
    ("io_workers".toList, natText c.ioWorkers),
    ("network_bps".toList, natText c.networkBps),
    ("network_protocol".toList, quoted c.networkProtocol.chars),
    ("network_direction".toList, quoted c.networkDirection.chars),
    ("network_parallel".toList, natText c.networkParallel),
    ("on_sec".toList, natText c.onSec),
    ("off_sec".toList, natText c.offSec)]

/-- `receiver_shared_cpus`, the canonical text of the mask. -/
def availableCpus : List Char := runFormatCpus (sharedMask c)

def writeEnvironment (mode : RunMode) : List Char :=
  objectText [
    ("governor".toList, jsonString c.governor.chars),
    ("alternate_mode_order".toList, natText c.alternateModeOrder),
    ("xsk_busy".toList, natText c.xskBusy),
    ("rx_coalesce_usecs".toList, intText (match c.rxCoalesceUsecs with
      | some n => n
      | none => -1)),
    ("phc_tracking".toList, natText c.phcTracking),
    ("receiver_supervisor_cpu".toList, intText (cpuInt c.receiverSupervisorCpu)),
    ("sender_supervisor_cpu".toList, intText (cpuInt c.senderSupervisorCpu)),
    ("receiver_network_cpu".toList, intText (cpuInt c.receiverNetworkCpu)),
    ("sender_network_cpu".toList, intText (cpuInt c.senderNetworkCpu)),
    ("receiver_available_cpus".toList, jsonString (availableCpus c)),
    ("receiver_shared_cpus".toList, jsonString (runFormatCpus (runGeneralCpuSet c mode))),
    ("receiver_cpumap_active".toList, boolText (runCpumapActive c mode)),
    ("receiver_cpumap_cpu".toList,
      if c.shared.isSome then natText c.cpumapCpu else "null".toList),
    ("rx_irq_cpu".toList, natText c.rxIrqCpu)]

def writeConfig : List Char :=
  objectText [
    ("sha256".toList, quoted c.digest.chars),
    ("warmup_ms".toList, natText c.warmupMs),
    ("settle_ms".toList, natText c.settleMs),
    ("drain_ms".toList, natText c.drainMs),
    ("monitor".toList, natText c.monitor)]

/-- The flows that are on, in the order the loops visit them. -/
def enabledFlows : List (Fin 3 × FlowSettings) :=
  (List.finRange 3).filterMap fun i => (c.flows i).map fun f => (i, f)

/-- The members of `write_condition`. -/
def conditionMembers (mode : RunMode) (durationMs : Nat) : List (List Char × List Char) :=
  [("mode".toList, quoted mode.chars),
    ("duration_s".toList, milliText durationMs),
    ("flows".toList, arrayText ((enabledFlows c).map fun e => writeFlow c mode durationMs e.1 e.2)),
    ("load".toList, writeLoad c mode),
    ("environment".toList, writeEnvironment c mode),
    ("config".toList, writeConfig c)]

def writeCondition (mode : RunMode) (durationMs : Nat) : List Char :=
  objectText (conditionMembers c mode durationMs)

inductive RunRole where
  | receiver | sender
  deriving DecidableEq, Repr

def RunRole.chars : RunRole → List Char
  | .receiver => "receiver".toList
  | .sender => "sender".toList

def RunState.chars : RunState → List Char
  | .preparing => "preparing".toList
  | .running => "running".toList
  | .completed => "completed".toList
  | .failed => "failed".toList

/-- `%04u`. -/
def fourDigits (n : Nat) : List Char := List.replicate (4 - (natText n).length) '0' ++ natText n

/-- `x->run_id`. -/
def runIdText (mode : RunMode) (rep : Nat) : List Char :=
  c.runId.chars ++ '-' :: (mode.chars ++ '-' :: 'r' :: fourDigits rep)

def purposeText (mode : RunMode) : List Char :=
  if mode = .socketOnly then "smoke".toList else "measurement".toList

/-- The members in front of those of the condition. -/
def headerMembers (mode : RunMode) (rep : Nat) (role : RunRole) (state : RunState) :
    List (List Char × List Char) :=
  [("schema_version".toList, natText 1),
    ("run_id".toList, quoted (runIdText c mode rep)),
    ("case_id".toList, quoted c.runId.chars),
    ("repeat".toList, natText rep),
    ("role".toList, quoted role.chars),
    ("purpose".toList, quoted (purposeText mode)),
    ("state".toList, quoted state.chars),
    ("warmup_s".toList, milliText c.warmupMs)]

/-- `write_run`: the header up to its last comma, and the condition without its first brace. -/
def writeRun (mode : RunMode) (rep : Nat) (role : RunRole) (state : RunState) : List Char :=
  '{' :: ((headerMembers c mode rep role state).flatMap (fun m => memberText m.1 m.2 ++ [','])
    ++ ((writeCondition c mode c.durationMs).drop 1 ++ ['\n']))

end AceXdp
