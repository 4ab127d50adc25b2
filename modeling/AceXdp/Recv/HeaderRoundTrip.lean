import AceXdp.Recv.Classifier
import AceXdp.Recv.Datagram

/-!
# AceXdp — one encoder, three decoders

What `sender.c` writes is what `parse_experiment_packet`, `experiment_packet_id` and the header
check of `receiver.c` read, in any frame that carries it; and what any of them accepts is what a
sender writes.

* `UdpFrame`: a well-formed frame around a UDP payload, with any IPv4 options and padding;
* `AcceptedHeader.eq_senderHeader`: an accepted header is the sender's for the decoded values;
* `header_round_trip`: both directions.
-/

namespace AceXdp

open ByteView

/-- An unfragmented IPv4 frame around `payload`: what stands before it, the trailing padding, and
the declared lengths that make it the UDP payload. -/
structure UdpFrame (payload : List UInt8) where
  headers : List UInt8
  padding : List UInt8
  envelope : UdpEnvelope (frameView (headers ++ (payload ++ padding)))
    (headers ++ (payload ++ padding)).length
  headersLength : headers.length
    = udpOffset (frameView (headers ++ (payload ++ padding))) + udpHeaderSize
  udpLength : udpLen (frameView (headers ++ (payload ++ padding)))
    = udpHeaderSize + payload.length

def UdpFrame.bytes {payload : List UInt8} (frame : UdpFrame payload) : List UInt8 :=
  frame.headers ++ (payload ++ frame.padding)

/-! ## What the sender writes is accepted -/

section Accepted

variable {flowId : UInt32} {seq : UInt64} {txNs : Int64} {payload : PayloadSize}

/-- The header at the front of a datagram, wherever the datagram stands. -/
theorem wireHeaderAt_senderPacket (flowId : UInt32) (seq : UInt64) (txNs : Int64)
    (payload : PayloadSize) (before after : List UInt8) :
    wireHeaderAt (frameView (before ++ (senderPacket flowId seq txNs payload ++ after)))
        before.length
      = ⟨packetMagic, packetVersion, packetHeaderSize, flowId, 0, seq, txNs.toUInt64⟩ := by
  refine wireHeaderAt_of_senderHeader flowId seq txNs ?_
  have hbytes := bytesAt_getD before (senderHeader flowId seq txNs)
    (List.replicate payload.bytes 0 ++ after) 0
  rw [length_senderHeader, ← List.append_assoc (senderHeader flowId seq txNs)] at hbytes
  exact hbytes

variable (frame : UdpFrame (senderPacket flowId seq txNs payload))

theorem UdpFrame.wireHeader :
    wireHeaderAt (frameView frame.bytes) (udpOffset (frameView frame.bytes) + udpHeaderSize)
      = ⟨packetMagic, packetVersion, packetHeaderSize, flowId, 0, seq, txNs.toUInt64⟩ := by
  have hread := wireHeaderAt_senderPacket flowId seq txNs payload frame.headers frame.padding
  rw [frame.headersLength] at hread
  exact hread

theorem UdpFrame.header_fits :
    udpHeaderSize + packetHeaderSize ≤ udpLen (frameView frame.bytes) := by
  have hlen := frame.udpLength
  rw [length_senderPacket] at hlen
  unfold UdpFrame.bytes
  omega

theorem UdpFrame.parse {path : RequestedPath}
    (hport : classifyPort (udpDest (frameView frame.bytes)) = some path) :
    parseExperimentPacket (frameView frame.bytes) frame.bytes.length
      = .experiment ⟨flowId, 0, seq⟩ path := by
  rw [parseExperimentPacket_eq_experiment_iff, frame.wireHeader]
  exact ⟨frame.envelope, hport, frame.header_fits, ⟨rfl, rfl, rfl, rfl⟩, rfl⟩

theorem UdpFrame.packetId :
    ∃ info, packetUdpInfo (frameView frame.bytes) frame.bytes.length = some info
      ∧ experimentPacketId (frameView frame.bytes) info = some ⟨flowId, seq, txNs⟩ := by
  refine ⟨_, (packetUdpInfo_eq_some_iff _ _ _).mpr ⟨frame.envelope, rfl⟩, ?_⟩
  rw [experimentPacketId_eq_some_iff, frame.wireHeader]
  exact ⟨frame.header_fits, ⟨rfl, rfl, rfl, rfl⟩, by simp⟩

theorem receiveDatagram_senderPacket (mono real : Int64) (m : ControlInfo) :
    ∃ record, receiveDatagram ⟨flowId, payload⟩ (senderPacket flowId seq txNs payload) mono real m
        = some record
      ∧ record.flowId = flowId ∧ record.seq = seq ∧ record.txNs = txNs := by
  have hread := wireHeaderAt_senderPacket flowId seq txNs payload [] []
  rw [List.nil_append, List.append_nil, List.length_nil] at hread
  refine ⟨_, (receiveDatagram_eq_some_iff _ _ _ _ _ _).mpr ⟨length_senderPacket .., ?_, ?_, rfl⟩,
    ?_, ?_, ?_⟩
  · rw [hread]
    exact ⟨rfl, rfl, rfl, rfl⟩
  · rw [hread]
  · simp only [sampleRecordOf, hread]
  · simp only [sampleRecordOf, hread]
  · simp only [sampleRecordOf, hread, Int64.toInt64_toUInt64]

end Accepted

/-! ## What is accepted is what a sender writes -/

/-- The 32 bytes one of the decoders accepted, with the values decoded from them. The BPF parser
leaves the transmit time in the header. -/
inductive AcceptedHeader : List UInt8 → UInt32 → UInt64 → Int64 → Prop where
  | kernel {pkt : Nat → UInt8} {len : Nat} {key : PacketKey} {path : RequestedPath}
      (h : parseExperimentPacket pkt len = .experiment key path) :
      AcceptedHeader (bytesAt pkt (udpOffset pkt + udpHeaderSize) packetHeaderSize) key.flowId
        key.sequence (wireHeaderAt pkt (udpOffset pkt + udpHeaderSize)).txRealtimeNs.toInt64
  | afxdp {pkt : Nat → UInt8} {info : UdpPacketInfo} {id : ExperimentId}
      (h : experimentPacketId pkt info = some id) :
      AcceptedHeader (bytesAt pkt info.payload packetHeaderSize) id.flowId id.sequence
        id.txRealtimeNs
  | socket {config : ReceiverConfig} {packet : List UInt8} {mono real : Int64} {m : ControlInfo}
      {record : SampleRecord} (h : receiveDatagram config packet mono real m = some record) :
      AcceptedHeader (bytesAt (frameView packet) 0 packetHeaderSize) record.flowId record.seq
        record.txNs

/-- **An accepted header is the sender's.** -/
theorem AcceptedHeader.eq_senderHeader {header : List UInt8} {flowId : UInt32} {seq : UInt64}
    {txNs : Int64} (h : AcceptedHeader header flowId seq txNs) :
    header = senderHeader flowId seq txNs := by
  cases h with
  | kernel h =>
    obtain ⟨-, -, -, hexp, rfl⟩ := (parseExperimentPacket_eq_experiment_iff _ _ _ _).mp h
    exact bytesAt_of_isExperiment hexp
  | afxdp h =>
    unfold experimentPacketId at h
    dsimp only at h
    split at h; · cases h
    split at h; · cases h
    rename_i hexp
    rw [← Option.some.inj h]
    exact bytesAt_of_isExperiment (not_not.mp hexp)
  | socket h =>
    obtain ⟨-, hexp, -, rfl⟩ := (receiveDatagram_eq_some_iff _ _ _ _ _ _).mp h
    exact bytesAt_of_isExperiment hexp

/-- **The wire header round trip.** In every frame that carries it, the sender's packet is accepted
on the experiment ports by the BPF parser, by the AF_XDP receiver and by a UDP receiver configured
for it, each with the sender's values; and two accepted headers with equal values are the same
bytes. -/
theorem header_round_trip (flowId : UInt32) (seq : UInt64) (txNs : Int64) (payload : PayloadSize)
    (frame : UdpFrame (senderPacket flowId seq txNs payload)) :
    (passPort ≤ udpDest (frameView frame.bytes) ∧ udpDest (frameView frame.bytes) ≤ xskPort →
      ∃ path, classifyPort (udpDest (frameView frame.bytes)) = some path
        ∧ parseExperimentPacket (frameView frame.bytes) frame.bytes.length
          = .experiment ⟨flowId, 0, seq⟩ path)
    ∧ (∃ info, packetUdpInfo (frameView frame.bytes) frame.bytes.length = some info
        ∧ experimentPacketId (frameView frame.bytes) info = some ⟨flowId, seq, txNs⟩)
    ∧ (∀ mono real m, ∃ record,
        receiveDatagram ⟨flowId, payload⟩ (senderPacket flowId seq txNs payload) mono real m
            = some record
          ∧ record.flowId = flowId ∧ record.seq = seq ∧ record.txNs = txNs)
    ∧ ∀ header header' flowId' seq' txNs', AcceptedHeader header flowId' seq' txNs' →
        AcceptedHeader header' flowId' seq' txNs' → header = header' := by
  refine ⟨fun hport => ?_, frame.packetId, receiveDatagram_senderPacket, ?_⟩
  · have hpath : ∃ path, classifyPort (udpDest (frameView frame.bytes)) = some path := by
      obtain ⟨hlow, hhigh⟩ := hport
      simp only [passPort, xskPort] at hlow hhigh
      have hcases : udpDest (frameView frame.bytes) = 9000 ∨ udpDest (frameView frame.bytes) = 9001
          ∨ udpDest (frameView frame.bytes) = 9002 := by omega
      rcases hcases with h | h | h <;> rw [h] <;> exact ⟨_, rfl⟩
    obtain ⟨path, hpath⟩ := hpath
    exact ⟨path, hpath, frame.parse hpath⟩
  · intro header header' flowId' seq' txNs' h h'
    rw [h.eq_senderHeader, h'.eq_senderHeader]

/-- The Ethernet, IPv4 (with one word of options) and UDP headers of a packet to port 9002. -/
def optionsHeaders : List UInt8 :=
  [0, 0, 0, 0, 0, 0, 0, 0, 0, 0, 0, 0, 0x08, 0x00,
    0x46, 0, 0, 68, 0, 0, 0x40, 0, 64, 17, 0, 0, 10, 0, 0, 1, 10, 0, 0, 2, 1, 1, 1, 0,
    0x13, 0x88, 0x23, 0x2a, 0, 44, 0, 0]

/-- Flow 3, the largest sequence, a time with its top byte set; four payload bytes, two of
padding. -/
def optionsFrame : UdpFrame (senderPacket 3 0xffffffffffffffff 0x7fffffff00000001 ⟨4, by decide⟩)
    where
  headers := optionsHeaders
  padding := [0, 0]
  envelope := ⟨by decide +kernel, by decide +kernel, by decide +kernel, by decide +kernel,
    by decide +kernel, by decide +kernel, by decide +kernel, by decide +kernel⟩
  headersLength := by decide +kernel
  udpLength := by decide +kernel

theorem header_round_trip_with_options :
    parseExperimentPacket (frameView optionsFrame.bytes) optionsFrame.bytes.length
      = .experiment ⟨3, 0, 0xffffffffffffffff⟩ .xsk := by
  obtain ⟨path, hpath, hparse⟩ := (header_round_trip 3 0xffffffffffffffff 0x7fffffff00000001
    ⟨4, by decide⟩ optionsFrame).1 (by decide +kernel)
  have hxsk : path = .xsk :=
    Option.some.inj (hpath.symm.trans (by decide +kernel : _ = some RequestedPath.xsk))
  rw [hparse, hxsk]

end AceXdp
