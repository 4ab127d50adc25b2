import AceXdp.Kern.Parse
import AceXdp.Lib.WriteOnce
import Mathlib.Algebra.BigOperators.Fin

/-!
# AceXdp — `xdp_dispatch` and `xdp_cpumap_measure`

The two BPF programs as state-passing functions. The state is what outlives a program run: the
per-CPU counters and the two record maps. What the kernel decides during a run (the clock, the
metadata headroom, the timestamp kfunc, whether the redirect map has an entry) is input.
Counters are natural numbers: no packet bumps one twice, so the `__u64`s of the source hold the
same numbers until `2 ^ 64` packets have come.
-/

namespace AceXdp

open WriteOnce

/-! ## Counters -/

abbrev Stats (ncpu : Nat) := Fin ncpu → Stat → Nat

/-- `count_stat` on CPU `cpu`. -/
def countStat {ncpu : Nat} (stats : Stats ncpu) (cpu : Fin ncpu) (id : Stat) : Stats ncpu :=
  fun c i => if c = cpu ∧ i = id then stats c i + 1 else stats c i

def statTotal {ncpu : Nat} (stats : Stats ncpu) (id : Stat) : Nat := ∑ cpu, stats cpu id

/-! ## Program state and inputs -/

/-- The maps the two programs write; both record maps have the loader's capacity `N`. -/
structure KernState (ncpu N : Nat) where
  stats : Stats ncpu
  ingress : BoundedMap PacketKey IngressRecord N
  cpumap : BoundedMap PacketKey CpumapRecord N

def KernState.init {ncpu N : Nat} : KernState ncpu N := ⟨fun _ _ => 0, .empty, .empty⟩

def KernState.count {ncpu N : Nat} (s : KernState ncpu N) (cpu : Fin ncpu) (id : Stat) :
    KernState ncpu N :=
  { s with stats := countStat s.stats cpu id }

/-- One invocation of `xdp_dispatch`: the frame and every answer of the kernel. -/
structure XdpMd (ncpu : Nat) where
  frame : List UInt8
  rxQueueIndex : UInt32
  cpu : Fin ncpu
  -- `bpf_ktime_get_ns` at program entry
  ktimeNs : UInt64
  -- `bpf_xdp_adjust_meta` returned an error
  adjustMetaFails : Bool
  -- `meta + 1 > data` after the adjustment
  metaOutOfBounds : Bool
  -- the `int` the timestamp kfunc returned and the value it stored
  rxTimestampErr : Int
  rxTimestampNs : UInt64
  -- `bpf_redirect_map` answered `XDP_REDIRECT` rather than the `XDP_PASS` fallback
  redirectAccepted : Bool

inductive XdpAction where
  | pass | redirect
  deriving DecidableEq, Repr

/-! ## `record_ingress` and `prepare_measurement_metadata` -/

/-- The record `record_ingress` copies out of the metadata. -/
def ingressRecordOf (key : PacketKey) (rx : RxMeta) : IngressRecord where
  flowId := key.flowId
  rxQueue := rx.rxQueue
  sequence := key.sequence
  hwRxNs := rx.hwRxNs
  initialXdpNs := rx.initialXdpNs
  flags := rx.flags
  requestedPath := rx.requestedPath
  timestampError := rx.timestampError

/-- `record_ingress`: `BPF_NOEXIST`, and one of three counters. -/
def recordIngress {ncpu N : Nat} (s : KernState ncpu N) (cpu : Fin ncpu) (key : PacketKey)
    (rx : RxMeta) : KernState ncpu N :=
  let (err, ingress) := s.ingress.insert key (ingressRecordOf key rx)
  let s := { s with ingress }
  match err with
  | .inserted => s.count cpu .ingressRecorded
  | .present => s.count cpu .ingressDuplicate
  | .full => s.count cpu .ingressUpdateError

/-- The metadata before the timestamp kfunc is asked. -/
def baseMeta {ncpu : Nat} (ctx : XdpMd ncpu) (key : PacketKey) (path : RequestedPath) :
    RxMeta where
  magic := rxMetaMagic
  version := rxMetaVersion
  size := UInt16.ofNat rxMetaSize
  flags := metaPacketIdValid ||| metaPathRequested
  flowId := key.flowId
  sequence := key.sequence
  hwRxNs := 0
  initialXdpNs := ctx.ktimeNs
  cpumapNs := 0
  rxQueue := ctx.rxQueueIndex
  requestedPath := path.code
  timestampError := 0

/-- The metadata a successful preparation leaves in front of the packet. The `(__s16)` of the
error code is `Int16.ofInt`. -/
def measurementMeta {ncpu : Nat} (ctx : XdpMd ncpu) (key : PacketKey) (path : RequestedPath) :
    RxMeta :=
  let base := baseMeta ctx key path
  if ctx.rxTimestampErr = 0 then
    { base with hwRxNs := ctx.rxTimestampNs, flags := base.flags ||| metaHwtsValid }
  else
    { base with
      flags := base.flags ||| metaTimestampError
      timestampError := Int16.ofInt ctx.rxTimestampErr }

/-- `prepare_measurement_metadata`; `none` is the `-1` return. -/
def prepareMeasurementMetadata {ncpu N : Nat} (s : KernState ncpu N) (ctx : XdpMd ncpu)
    (key : PacketKey) (path : RequestedPath) : KernState ncpu N × Option RxMeta :=
  if ctx.adjustMetaFails then (s.count ctx.cpu .metaAdjustError, none)
  else if ctx.metaOutOfBounds then (s.count ctx.cpu .metaBoundsError, none)
  else
    let rx := measurementMeta ctx key path
    let s := s.count ctx.cpu (if ctx.rxTimestampErr = 0 then .hwtsValid else .hwtsError)
    (recordIngress s ctx.cpu key rx, some rx)

/-! ## `dispatch_requested_path` and `xdp_dispatch` -/

def dispatchRequestedPath {ncpu N : Nat} (s : KernState ncpu N) (ctx : XdpMd ncpu) :
    RequestedPath → KernState ncpu N × XdpAction
  | .cpumap =>
    if ctx.redirectAccepted then (s.count ctx.cpu .cpumap, .redirect)
    else ((s.count ctx.cpu .cpumapFallback).count ctx.cpu .pass, .pass)
  | .xsk =>
    if ctx.redirectAccepted then (s.count ctx.cpu .xsk, .redirect)
    else ((s.count ctx.cpu .xskFallback).count ctx.cpu .pass, .pass)
  | .pass => ((s.count ctx.cpu .experimentPass).count ctx.cpu .pass, .pass)

/-- What one run of `xdp_dispatch` hands on: the action and the metadata in front of the
packet, if any was prepared. -/
structure DispatchOut where
  action : XdpAction
  rxMeta : Option RxMeta
  deriving DecidableEq, Repr

/-- The parser as `xdp_dispatch` calls it, on the invocation's frame. -/
def XdpMd.parsed {ncpu : Nat} (ctx : XdpMd ncpu) : ParseResult :=
  parseExperimentPacket (frameView ctx.frame) ctx.frame.length

/-- Bump the counter the parser asks for. -/
def KernState.countParsed {ncpu N : Nat} (s : KernState ncpu N) (cpu : Fin ncpu)
    (r : ParseResult) : KernState ncpu N :=
  match r.counted with
  | none => s
  | some id => s.count cpu id

def xdpDispatch {ncpu N : Nat} (mode : ForwardingMode) (s : KernState ncpu N)
    (ctx : XdpMd ncpu) : KernState ncpu N × DispatchOut :=
  let s := (s.count ctx.cpu .total).countParsed ctx.cpu ctx.parsed
  match ctx.parsed with
  | .experiment key classified =>
    let path := effectiveRequestedPath mode classified
    match prepareMeasurementMetadata s ctx key path with
    | (s, some rx) =>
      let (s, action) := dispatchRequestedPath s ctx path
      (s, ⟨action, some rx⟩)
    | (s, none) => (s.count ctx.cpu .pass, ⟨.pass, none⟩)
  | _ => (s.count ctx.cpu .pass, ⟨.pass, none⟩)

/-- A run of the program over a sequence of packets, on any CPUs. -/
def runDispatch {ncpu N : Nat} (mode : ForwardingMode) (s : KernState ncpu N)
    (packets : List (XdpMd ncpu)) : KernState ncpu N :=
  packets.foldl (fun s ctx => (xdpDispatch mode s ctx).1) s

/-- The arrival of `cpumapFrame` on a CPU: timestamped by the driver and redirected to the
CPUMAP. -/
def cpumapArrival {ncpu : Nat} (cpu : Fin ncpu) : XdpMd ncpu where
  frame := cpumapFrame
  rxQueueIndex := 0
  cpu := cpu
  ktimeNs := 1000
  adjustMetaFails := false
  metaOutOfBounds := false
  rxTimestampErr := 0
  rxTimestampNs := 500
  redirectAccepted := true

/-! ## `xdp_cpumap_measure` -/

/-- The metadata test of the CPUMAP program; `none` is metadata that does not fit before the
packet. -/
def cpumapMetaOk : Option RxMeta → Prop
  | none => False
  | some rx => rx.magic = rxMetaMagic ∧ rx.version = rxMetaVersion ∧
      rx.size = UInt16.ofNat rxMetaSize ∧ rx.flags &&& metaPacketIdValid ≠ 0 ∧
      rx.requestedPath = RequestedPath.cpumap.code

instance (rx : Option RxMeta) : Decidable (cpumapMetaOk rx) := by
  cases rx <;> unfold cpumapMetaOk <;> infer_instance

/-- The record the CPUMAP program stores for valid metadata. -/
def cpumapRecordOf (cpu : UInt32) (cpumapNs : UInt64) (rx : RxMeta) : CpumapRecord where
  flowId := rx.flowId
  cpu := cpu
  sequence := rx.sequence
  cpumapNs := cpumapNs
  flags := rx.flags ||| metaCpumapSeen
  requestedPath := rx.requestedPath
  reserved := 0

/-- `xdp_cpumap_measure` up to its counter: the map update, and the counter that is bumped
next. -/
def cpumapUpdate {ncpu N : Nat} (s : KernState ncpu N) (cpu : Fin ncpu) (ktimeNs : UInt64)
    (rxMeta : Option RxMeta) : KernState ncpu N × Stat :=
  match rxMeta with
  | none => (s, .cpumapMetaInvalid)
  | some rx =>
    if ¬cpumapMetaOk (some rx) then (s, .cpumapMetaInvalid)
    else
      let record := cpumapRecordOf (UInt32.ofNat cpu) ktimeNs rx
      let (err, cpumap) := s.cpumap.insert ⟨rx.flowId, 0, rx.sequence⟩ record
      let s := { s with cpumap }
      match err with
      | .inserted => (s, .cpumapRecorded)
      | .present => (s, .cpumapDuplicate)
      | .full => (s, .cpumapUpdateError)

/-- `xdp_cpumap_measure`, run on CPU `cpu` at `ktimeNs`; the action is always `XDP_PASS`. -/
def xdpCpumapMeasure {ncpu N : Nat} (s : KernState ncpu N) (cpu : Fin ncpu)
    (ktimeNs : UInt64) (rxMeta : Option RxMeta) : KernState ncpu N :=
  let (s, id) := cpumapUpdate s cpu ktimeNs rxMeta
  s.count cpu id

end AceXdp
