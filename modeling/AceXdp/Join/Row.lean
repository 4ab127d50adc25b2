import AceXdp.Abi
import AceXdp.Join.Calibration

/-!
# AceXdp — `joined_row` of the analyser

One processed row per packet key, from up to four records. The Python function is one long body
over local variables; here each local is a definition on the `Sources` under its own name, in
the order of the source, and `joinedRow` collects them. Record fields have the widths the
loaders enforce (`CSV_FIELD_RANGES`, the `struct` format), so the range tests of the Python on
flags and timestamps hold by type and are not repeated.
-/

namespace AceXdp

/-! ## Flag constants -/

def metaKnownFlags : UInt32 :=
  metaHwtsValid ||| metaPacketIdValid ||| metaCpumapSeen ||| metaTimestampError |||
    metaPathRequested

def metaIngressRequired : UInt32 := metaPacketIdValid ||| metaPathRequested

def cpumapFlagsRequired : UInt32 := metaPacketIdValid ||| metaCpumapSeen ||| metaPathRequested

def afXdpValidationRequired : UInt32 := 7

def udpKnownFlags : UInt16 := sampleHwtsValid ||| sampleCmsgTruncated

def inconsistentIngressPath : Nat := 1
def inconsistentCpumapIngressPath : Nat := 2
def inconsistentCpumapPath : Nat := 4
def inconsistentCpumapFlags : Nat := 8
def inconsistentUdpPath : Nat := 16
def inconsistentAfXdpPath : Nat := 32
def inconsistentAfXdpMetadata : Nat := 64
def inconsistentAmbiguousUser : Nat := 128
def inconsistentIngressFlags : Nat := 256
def inconsistentUdpFlags : Nat := 512

def acePathPass : UInt16 := RequestedPath.pass.code
def acePathCpumap : UInt16 := RequestedPath.cpumap.code
def acePathXsk : UInt16 := RequestedPath.xsk.code

/-- Membership in `VALID_REQUESTED_PATHS`. -/
def validRequestedPath (path : UInt16) : Bool :=
  path == acePathPass || path == acePathCpumap || path == acePathXsk

/-! ## Helpers -/

/-- `positive_value` of a present field. -/
def positiveValue (x : Int) : Option Int := if 0 < x then some x else none

/-- `positive_u64_value` of a present field. -/
def positiveU64Value (x : UInt64) : Option Int :=
  if 0 < x then some (x.toNat : Int) else none

def metadataTimestampCoherent (flags : UInt32) (hwNs : UInt64) (error : Int16) : Bool :=
  if flags &&& ~~~metaKnownFlags != 0 then false
  else if (flags &&& metaTimestampError != 0) != (error != 0) then false
  else if flags &&& metaHwtsValid != 0 then
    decide (0 < hwNs) && !(flags &&& metaTimestampError != 0)
  else hwNs == 0

def optSub (a b : Option Int) : Option Int :=
  match a, b with
  | some a, some b => some (a - b)
  | _, _ => none

/-! ## Validity of single records -/

namespace IngressRecord

def coherent (r : IngressRecord) : Bool :=
  metadataTimestampCoherent r.flags r.hwRxNs r.timestampError

/-- `ingress_core_valid` of a present record. -/
def coreValid (r : IngressRecord) : Bool :=
  validRequestedPath r.requestedPath
    && r.flags &&& metaIngressRequired == metaIngressRequired
    && r.flags &&& metaCpumapSeen == 0
    && r.flags &&& ~~~metaKnownFlags == 0
    && (positiveU64Value r.initialXdpNs).isSome

/-- `ingress_hw_valid` of a present record. -/
def hwValid (r : IngressRecord) : Bool :=
  r.coreValid && r.coherent && r.flags &&& metaHwtsValid != 0

end IngressRecord

def CpumapRecord.flagsOk (r : CpumapRecord) : Bool :=
  r.flags &&& cpumapFlagsRequired == cpumapFlagsRequired && r.flags &&& ~~~metaKnownFlags == 0

/-- `afxdp_core_valid` of a present record. `flags` are those of the coherence check: the check reads
a column `flags` where the table has one, and `meta_flags` otherwise. -/
def XskUserRecord.coreValid (r : XskUserRecord) (flags : UInt32) : Bool :=
  r.validationFlags == afXdpValidationRequired
    && r.metaFlags &&& metaIngressRequired == metaIngressRequired
    && r.metaFlags &&& metaCpumapSeen == 0
    && r.metaFlags &&& ~~~metaKnownFlags == 0
    && r.requestedPath == acePathXsk
    && (positiveU64Value r.initialXdpNs).isSome
    && (positiveValue r.userRxMonoNs.toNat).isSome
    && metadataTimestampCoherent flags r.hwRxNs r.timestampError

/-- The six fields an AF_XDP record repeats from its ingress record. -/
def XskUserRecord.matchesIngress (r : XskUserRecord) (ingress : IngressRecord) : Bool :=
  r.rxQueue == ingress.rxQueue && r.hwRxNs == ingress.hwRxNs
    && r.initialXdpNs == ingress.initialXdpNs && r.metaFlags == ingress.flags
    && r.requestedPath == ingress.requestedPath && r.timestampError == ingress.timestampError

namespace SampleRecord

/-- `udp_hw_valid` of a present record. -/
def hwValid (r : SampleRecord) : Bool :=
  r.flags &&& sampleHwtsValid != 0 && (positiveValue r.hwRxNs.toInt).isSome
    && !(r.flags &&& sampleCmsgTruncated != 0)

/-- `udp_valid` before the cross-check with the ingress record. -/
def selfValid (r : SampleRecord) : Bool :=
  (positiveValue r.userRxMonoNs.toInt).isSome
    && !(r.flags &&& ~~~udpKnownFlags != 0)
    && !(r.flags &&& sampleHwtsValid != 0 && r.flags &&& sampleCmsgTruncated != 0)
    && ((r.flags &&& sampleHwtsValid != 0) == decide (0 < r.hwRxNs.toInt))

end SampleRecord

/-! ## The sources of one key -/

/-- The records of one key, each present or absent, and the `flags` of an AF_XDP table that has such
a column (the receiver's own export has none). -/
structure Sources where
  ingress : Option IngressRecord
  cpumap : Option CpumapRecord
  afxdp : Option XskUserRecord
  udp : Option SampleRecord
  afxdpFlags : Option UInt32 := none
  deriving DecidableEq

inductive UserSource where
  | none | afxdp | udp | ambiguous
  deriving DecidableEq, Repr

/-- `initial_xdp_source`, and `hw_rx_source` with the user sources. -/
inductive XdpSource where
  | none | ingress | afxdp | udp | ambiguous
  deriving DecidableEq, Repr

namespace Sources

variable (s : Sources)

def userSource : UserSource :=
  match s.afxdp, s.udp with
  | some _, some _ => .ambiguous
  | some _, none => .afxdp
  | none, some _ => .udp
  | none, none => .none

def ingressPath : Option UInt16 := s.ingress.map (·.requestedPath)
def cpumapPath : Option UInt16 := s.cpumap.map (·.requestedPath)
def afxdpPath : Option UInt16 := s.afxdp.map (·.requestedPath)

def ingressHwValid : Bool := s.ingress.any (·.hwValid)

def cpumapValid : Bool :=
  s.cpumap.any fun c =>
    c.requestedPath == acePathCpumap && c.flagsOk && (positiveU64Value c.cpumapNs).isSome
      && s.ingress.all fun i =>
        i.coreValid && i.requestedPath == acePathCpumap && c.requestedPath == i.requestedPath

def afxdpCore (a : XskUserRecord) : Bool := a.coreValid (s.afxdpFlags.getD a.metaFlags)

def afxdpCoreValid : Bool := s.afxdp.any s.afxdpCore

def afxdpMetadataConsistent : Bool :=
  s.afxdp.any fun a => s.afxdpCore a && s.ingress.all (a.matchesIngress ·)

def afxdpHwValid : Bool :=
  s.afxdp.any fun a => s.afxdpCore a && a.metaFlags &&& metaHwtsValid != 0

def udpHwValid : Bool := s.udp.any (·.hwValid)

def udpValid : Bool :=
  s.udp.any fun u =>
    u.selfValid && !(u.hwValid && s.ingress.any fun i =>
      i.hwValid && u.hwRxNs.toInt != (i.hwRxNs.toNat : Int))

/-! ## `inconsistencies` -/

/-- `inconsistencies |= b` under a condition. -/
def flagBit (c : Bool) (b : Nat) : Nat := if c then b else 0

def badIngressPath : Bool := s.ingress.any fun i => !validRequestedPath i.requestedPath

def badIngressFlags : Bool := s.ingress.any fun i => !i.coreValid || !i.coherent

def badCpumapPath : Bool := s.cpumap.any fun c => c.requestedPath != acePathCpumap

def badCpumapFlags : Bool := s.cpumap.any fun c => !c.flagsOk

def badCpumapIngressPath : Bool :=
  s.cpumap.any fun c => s.ingress.any fun i =>
    i.requestedPath != acePathCpumap || c.requestedPath != i.requestedPath

def badAfXdpPath : Bool :=
  s.afxdp.any fun a =>
    a.requestedPath != acePathXsk || s.ingress.any fun i => i.requestedPath != acePathXsk

def badAfXdpMetadata : Bool := s.afxdp.isSome && !s.afxdpMetadataConsistent

def badUdpPath : Bool := s.udp.isSome && s.ingress.any fun i => i.requestedPath == acePathXsk

def badUdpFlags : Bool := s.udp.isSome && !s.udpValid

def inconsistencies : Nat :=
  flagBit s.badIngressPath inconsistentIngressPath
    ||| flagBit s.badIngressFlags inconsistentIngressFlags
    ||| flagBit s.badCpumapPath inconsistentCpumapPath
    ||| flagBit s.badCpumapFlags inconsistentCpumapFlags
    ||| flagBit s.badCpumapIngressPath inconsistentCpumapIngressPath
    ||| flagBit s.badAfXdpPath inconsistentAfXdpPath
    ||| flagBit s.badAfXdpMetadata inconsistentAfXdpMetadata
    ||| flagBit s.badUdpPath inconsistentUdpPath
    ||| flagBit s.badUdpFlags inconsistentUdpFlags
    ||| flagBit (s.userSource == .ambiguous) inconsistentAmbiguousUser

/-! ## Times -/

def rawXdpMono : Option Int :=
  match s.ingress with
  | some i => positiveU64Value i.initialXdpNs
  | none => s.afxdp.bind (positiveU64Value ·.initialXdpNs)

/-- `initial_xdp` and `initial_xdp_source`. -/
def initialXdp : Option Int × XdpSource :=
  match s.ingress with
  | some i => if i.coreValid then (positiveU64Value i.initialXdpNs, .ingress) else (none, .none)
  | none =>
    if s.afxdpCoreValid then (s.afxdp.bind (positiveU64Value ·.initialXdpNs), .afxdp)
    else (none, .none)

def cpumapNs : Option Int := s.cpumap.bind (positiveU64Value ·.cpumapNs)

/-- `value(user, "user_rx_mono_ns")`: no user record when the source is ambiguous. -/
def userRxMonoNs : Option Int :=
  match s.userSource with
  | .afxdp => s.afxdp.map fun a => (a.userRxMonoNs.toNat : Int)
  | .udp => s.udp.map (·.userRxMonoNs.toInt)
  | _ => none

def userMono : Option Int := s.userRxMonoNs.bind positiveValue

/-- `positive_value(ingress, "hw_rx_ns")` and its siblings. -/
def ingressHw : Option Int := s.ingress.bind fun i => positiveValue i.hwRxNs.toNat
def afxdpHw : Option Int := s.afxdp.bind fun a => positiveValue a.hwRxNs.toNat
def udpHw : Option Int := s.udp.bind fun u => positiveValue u.hwRxNs.toInt

def xdpHw : Option Int :=
  if s.ingress.isSome then if s.ingressHwValid then s.ingressHw else none
  else if s.afxdpHwValid then s.afxdpHw else none

def userSemanticallyValid : Bool :=
  match s.userSource with
  | .afxdp => s.afxdpMetadataConsistent && s.inconsistencies &&& inconsistentAfXdpPath == 0
  | .udp => s.udpValid && s.inconsistencies &&& inconsistentUdpPath == 0
  | _ => false

def userHw : Option Int :=
  match s.userSource with
  | .afxdp =>
    if s.ingress.isSome then if s.ingressHwValid then s.ingressHw else none
    else if s.afxdpHwValid then s.afxdpHw else none
  | .udp => if s.udpHwValid then s.udpHw else if s.ingressHwValid then s.ingressHw else none
  | _ => none

def requestedPath : Option UInt16 := s.ingressPath.or (s.afxdpPath.or s.cpumapPath)

/-! ## Calibrated hardware time and the metrics -/

variable (c : Calibration) (clamp : Bool)

def xdpLookup : Option CalibrationLookup := s.rawXdpMono.map (c.lookup · clamp)
def userLookup : Option CalibrationLookup := s.userMono.map (c.lookup · clamp)

/-- `hw_reference_ns`: the initial XDP time, else the user time. -/
def hwReferenceNs : Option Int := if s.initialXdp.1.isSome then s.initialXdp.1 else s.userMono

def hwOffset : Option Int :=
  (if s.initialXdp.1.isSome then s.xdpLookup c clamp else s.userLookup c clamp).bind
    (·.offsetNs)

def commonHw : Option Int :=
  if s.xdpHw.isNone && s.userSemanticallyValid then s.userHw else s.xdpHw

def hwSource : XdpSource :=
  if s.xdpHw.isNone && s.userSemanticallyValid then
    if s.userHw.isSome then
      match s.userSource with
      | .afxdp => .afxdp
      | .udp => .udp
      | .ambiguous => .ambiguous
      | .none => .none
    else .none
  else if s.xdpHw.isSome then s.initialXdp.2 else .none

def hwMono : Option Int := optSub s.commonHw (s.hwOffset c clamp)

def xdpHwMetric : Option Int := optSub s.initialXdp.1 (s.hwMono c clamp)

def cpumapXdpMetric : Option Int :=
  if s.cpumapValid then optSub s.cpumapNs s.initialXdp.1 else none

def userXdpMetric : Option Int :=
  if s.userSemanticallyValid then optSub s.userMono s.initialXdp.1 else none

def userCpumapMetric : Option Int :=
  if s.userSemanticallyValid && s.cpumapValid then optSub s.userMono s.cpumapNs else none

def userHwMetric : Option Int :=
  if s.userSemanticallyValid then optSub s.userMono (s.hwMono c clamp) else none

/-! ## The decomposition -/

def d2 : Option Int :=
  if s.requestedPath = some acePathCpumap then s.cpumapXdpMetric
  else if s.requestedPath = some acePathPass ∨ s.requestedPath = some acePathXsk then some 0
  else none

def d3 : Option Int :=
  if s.requestedPath = some acePathCpumap then s.userCpumapMetric
  else if s.requestedPath = some acePathPass ∨ s.requestedPath = some acePathXsk then
    s.userXdpMetric
  else none

def stageSum : Option Int :=
  match s.xdpHwMetric c clamp, s.d2, s.d3 with
  | some a, some b, some d => some (a + b + d)
  | _, _, _ => none

def residual : Option Int := optSub (s.userHwMetric c clamp) (s.stageSum c clamp)

def negative : Bool :=
  [s.xdpHwMetric c clamp, s.d2, s.d3, s.userHwMetric c clamp].any fun item =>
    item.any (· < 0)

end Sources

inductive SegmentStatus where
  | invalid | incomplete | complete | mismatch
  deriving DecidableEq, Repr

def Sources.stageStatus (s : Sources) (c : Calibration) (clamp : Bool) : SegmentStatus :=
  if s.inconsistencies ≠ 0 ∨ s.negative c clamp then .invalid
  else match s.residual c clamp with
    | none => .incomplete
    | some r => if r = 0 then .complete else .mismatch

/-! ## The row -/

/-- The columns `joined_row` computes, and the raw ones its callers relate them to. The other
raw columns copy one record field each and are left out. -/
structure JoinedRow where
  flowId : UInt32
  sequence : UInt64
  ingressPresent : Bool
  cpumapPresent : Bool
  afxdpPresent : Bool
  udpPresent : Bool
  userSource : UserSource
  requestedPath : Option UInt16
  ingressRequestedPath : Option UInt16
  cpumapRequestedPath : Option UInt16
  afxdpRequestedPath : Option UInt16
  userRxMonoNs : Option Int
  initialXdpNs : Option Int
  initialXdpSource : XdpSource
  cpumapNs : Option Int
  xdpLookup : Option CalibrationLookup
  userLookup : Option CalibrationLookup
  xdpHwNs : Option Int
  cpumapXdpNs : Option Int
  userCpumapNs : Option Int
  userXdpNs : Option Int
  userHwNs : Option Int
  hwRxMonoNs : Option Int
  hwRxSource : XdpSource
  hwCalibrationReferenceNs : Option Int
  hwCalibrationOffsetNs : Option Int
  d1Ns : Option Int
  d2Ns : Option Int
  d3Ns : Option Int
  segmentSumNs : Option Int
  segmentResidualNs : Option Int
  segmentStatus : SegmentStatus
  inconsistencyFlags : Nat
  deriving DecidableEq

def joinedRow (key : UInt32 × UInt64) (s : Sources) (c : Calibration) (clamp : Bool) :
    JoinedRow where
  flowId := key.1
  sequence := key.2
  ingressPresent := s.ingress.isSome
  cpumapPresent := s.cpumap.isSome
  afxdpPresent := s.afxdp.isSome
  udpPresent := s.udp.isSome
  userSource := s.userSource
  requestedPath := s.requestedPath
  ingressRequestedPath := s.ingressPath
  cpumapRequestedPath := s.cpumapPath
  afxdpRequestedPath := s.afxdpPath
  userRxMonoNs := s.userRxMonoNs
  initialXdpNs := s.initialXdp.1
  initialXdpSource := s.initialXdp.2
  cpumapNs := s.cpumap.map fun r => (r.cpumapNs.toNat : Int)
  xdpLookup := s.xdpLookup c clamp
  userLookup := s.userLookup c clamp
  xdpHwNs := s.xdpHwMetric c clamp
  cpumapXdpNs := s.cpumapXdpMetric
  userCpumapNs := s.userCpumapMetric
  userXdpNs := s.userXdpMetric
  userHwNs := s.userHwMetric c clamp
  hwRxMonoNs := s.hwMono c clamp
  hwRxSource := s.hwSource
  hwCalibrationReferenceNs := s.hwReferenceNs
  hwCalibrationOffsetNs := s.hwOffset c clamp
  d1Ns := s.xdpHwMetric c clamp
  d2Ns := s.d2
  d3Ns := s.d3
  segmentSumNs := s.stageSum c clamp
  segmentResidualNs := s.residual c clamp
  segmentStatus := s.stageStatus c clamp
  inconsistencyFlags := s.inconsistencies

end AceXdp
