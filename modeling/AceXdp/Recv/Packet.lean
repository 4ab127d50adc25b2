import AceXdp.Wire

/-!
# AceXdp — `packet_udp_info` and `experiment_packet_id`, the AF_XDP receiver's parser

The receiver re-parses the copied frame in UMEM. `length` is the descriptor's `len`; the C
subtractions are on values already known not to underflow, so they are `Nat` subtractions.
-/

namespace AceXdp

/-- `struct udp_packet_info`; `payload` is the offset of the UDP payload in the frame. -/
structure UdpPacketInfo where
  payload : Nat
  payloadLength : Nat
  destinationPort : Nat
  deriving DecidableEq, Repr

/-- `IP_MF | IP_OFFMASK`. -/
def ipMfOrOffset : Nat := 0x2000 ||| 0x1fff

def packetUdpInfo (pkt : Nat → UInt8) (length : Nat) : Option UdpPacketInfo :=
  if length < ethHeaderSize then none
  else if ethProto pkt ≠ ethPIp then none
  else if length < ethHeaderSize + ipHeaderSize then none
  else if ipVersion pkt ≠ 4 ∨ ipHeaderLen pkt < 5 * 4 ∨ ipProtocol pkt ≠ ipprotoUdp then none
  else if ipFragOff pkt &&& ipMfOrOffset ≠ 0 then none
  else if length < ethHeaderSize + ipHeaderLen pkt + udpHeaderSize then none
  else if ipTotLen pkt < ipHeaderLen pkt + udpHeaderSize ∨
      ipTotLen pkt > length - ethHeaderSize then none
  else if udpLen pkt < udpHeaderSize ∨ udpLen pkt > ipTotLen pkt - ipHeaderLen pkt then none
  else some
    { payload := ethHeaderSize + ipHeaderLen pkt + udpHeaderSize
      payloadLength := udpLen pkt - udpHeaderSize
      destinationPort := udpDest pkt }

/-- The identity the receiver decodes from an experiment packet. -/
structure ExperimentId where
  flowId : UInt32
  sequence : UInt64
  txRealtimeNs : Int64
  deriving DecidableEq, Repr

def experimentPacketId (pkt : Nat → UInt8) (info : UdpPacketInfo) : Option ExperimentId :=
  let header := wireHeaderAt pkt info.payload
  if info.payloadLength < packetHeaderSize then none
  else if ¬header.isExperiment then none
  else some ⟨header.flowId, header.sequence, header.txRealtimeNs.toInt64⟩

/-- What `receive_batch` makes of a frame's bytes: malformed, UDP to another port, an
experiment packet, or UDP to the XSK port without a valid experiment header. -/
inductive PacketClass where
  | malformed
  | unexpectedPort
  | experiment (id : ExperimentId)
  | noExperiment
  deriving DecidableEq, Repr

/-- The classification part of the per-packet loop of `receive_batch`. -/
def classifyPacket (pkt : Nat → UInt8) (length : Nat) : PacketClass :=
  match packetUdpInfo pkt length with
  | none => .malformed
  | some info =>
    if info.destinationPort ≠ xskPort then .unexpectedPort
    else match experimentPacketId pkt info with
      | some id => .experiment id
      | none => .noExperiment

end AceXdp
