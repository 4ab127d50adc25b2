import Mathlib.Data.UInt

/-!
# AceXdp — the shared policy constants and record ABI

`BPF/config.h`, `BPF/metadata.h` and `include/ace_packet_abi.h`: the port policy, the counter
ids, the wire and metadata headers, and the four records the measurement leaves behind. Field
widths are the C ones (`UInt32`, `UInt64`, `Int16`, …), so every value of a record type is one
the capture host can really hold.
-/

namespace AceXdp

/-! ## `config.h` — ports, sizes and counters -/

def passPort : Nat := 9000
def rtPort : Nat := 9001
def xskPort : Nat := 9002

def xskMapMaxEntries : Nat := 64
def recordMaxEntries : Nat := 1048576
def runtimeAbiVersion : UInt32 := 5

/-- `enum ace_xdp_stat_id`: the keys of the per-CPU `stats` map. -/
inductive Stat where
  | pass | cpumap | xsk | total | experimentPass
  | ipv4Invalid | ipv4Fragment | packetHeaderInvalid
  | metaAdjustError | metaBoundsError | hwtsValid | hwtsError
  | ingressRecorded | ingressDuplicate | ingressUpdateError
  | cpumapMetaInvalid | cpumapRecorded | cpumapDuplicate | cpumapUpdateError
  | cpumapFallback | xskFallback
  deriving DecidableEq, Repr

/-! ## `ace_packet_abi.h` — the 32-byte wire header -/

def packetMagic : Nat := 0x41434531
def packetVersion : Nat := 1
def packetHeaderSize : Nat := 32

/-! ## `metadata.h` — keys, paths and flags -/

/-- `struct ace_packet_key`, the whole 16-byte HASH key. -/
@[ext]
structure PacketKey where
  flowId : UInt32
  reserved : UInt32
  sequence : UInt64
  deriving DecidableEq, Repr

inductive RequestedPath where
  | pass | cpumap | xsk
  deriving DecidableEq, Repr

/-- The `__u16` a path is stored as. -/
def RequestedPath.code : RequestedPath → UInt16
  | .pass => 0
  | .cpumap => 1
  | .xsk => 2

inductive ForwardingMode where
  | mixed | allPass | passXsk
  deriving DecidableEq, Repr

def effectiveRequestedPath (mode : ForwardingMode) (classified : RequestedPath) :
    RequestedPath :=
  if mode = .allPass ∨ (mode = .passXsk ∧ classified = .cpumap) then .pass else classified

def metaHwtsValid : UInt32 := 1
def metaPacketIdValid : UInt32 := 2
def metaCpumapSeen : UInt32 := 4
def metaTimestampError : UInt32 := 8
def metaPathRequested : UInt32 := 16

def rxMetaMagic : UInt32 := 0x4143454d
def rxMetaVersion : UInt16 := 1
def rxMetaSize : Nat := 56

/-- `struct ace_rx_meta`, the private metadata in front of the packet. -/
structure RxMeta where
  magic : UInt32
  version : UInt16
  size : UInt16
  flags : UInt32
  flowId : UInt32
  sequence : UInt64
  hwRxNs : UInt64
  initialXdpNs : UInt64
  cpumapNs : UInt64
  rxQueue : UInt32
  requestedPath : UInt16
  timestampError : Int16
  deriving DecidableEq, Repr

structure IngressRecord where
  flowId : UInt32
  rxQueue : UInt32
  sequence : UInt64
  hwRxNs : UInt64
  initialXdpNs : UInt64
  flags : UInt32
  requestedPath : UInt16
  timestampError : Int16
  deriving DecidableEq, Repr

structure CpumapRecord where
  flowId : UInt32
  cpu : UInt32
  sequence : UInt64
  cpumapNs : UInt64
  flags : UInt32
  requestedPath : UInt16
  reserved : UInt16
  deriving DecidableEq, Repr

def xskRecordMetaValid : UInt32 := 1
def xskRecordKeyMatch : UInt32 := 2
def xskRecordPathMatch : UInt32 := 4

structure XskUserRecord where
  flowId : UInt32
  rxQueue : UInt32
  sequence : UInt64
  txRealtimeNs : Int64
  userRxMonoNs : UInt64
  userRxRealNs : Int64
  hwRxNs : UInt64
  initialXdpNs : UInt64
  metaFlags : UInt32
  requestedPath : UInt16
  timestampError : Int16
  packetLength : UInt32
  validationFlags : UInt32
  deriving DecidableEq, Repr

/-- `struct sample_record`, one 56-byte record of the UDP receiver's `samples.bin`. -/
structure SampleRecord where
  seq : UInt64
  txNs : Int64
  userRxMonoNs : Int64
  userRxRealNs : Int64
  hwRxNs : Int64
  flowId : UInt32
  len : UInt32
  flags : UInt16
  reserved16 : UInt16
  reserved32 : UInt32
  deriving DecidableEq, Repr

def sampleHwtsValid : UInt16 := 1
def sampleCmsgTruncated : UInt16 := 2

/-! ## `enum ace_runtime_flags` -/

def runtimeCaptured : UInt32 := 1
def runtimeApplying : UInt32 := 2
def runtimeApplied : UInt32 := 4
def runtimeStopping : UInt32 := 8
def runtimeAllPass : UInt32 := 16
def runtimePassXsk : UInt32 := 32

/-- `struct ace_runtime_config`, shared by the loader, recovery and the AF_XDP receivers. -/
structure RuntimeConfig where
  abiVersion : UInt32
  ifindex : UInt32
  recordCapacity : UInt32
  xdpProgramId : UInt32
  ownerStartTicks : UInt64
  ownerPid : UInt32
  flags : UInt32
  savedFlags : Int32
  savedTxType : Int32
  savedRxFilter : Int32
  effectiveFlags : Int32
  effectiveTxType : Int32
  effectiveRxFilter : Int32
  deriving DecidableEq, Repr

/-- `struct ace_xsk_owner`, one AF_XDP receiver's claim on a queue. -/
structure XskOwner where
  processStartTicks : UInt64
  pid : UInt32
  reserved : UInt32
  deriving DecidableEq, Repr

end AceXdp
