import AceXdp.Send.Packet
import AceXdp.Recv.Sample

/-!
# AceXdp — the header check of the UDP receiver

The part of `receiver.c`'s loop between `recvmsg` and the record: the length filter, the header
copied out of the buffer and its five comparisons.
-/

namespace AceXdp

/-- `struct receiver_config`, as far as the check reads it. -/
structure ReceiverConfig where
  flowId : UInt32
  payloadSize : PayloadSize
  deriving DecidableEq

/-- `expected_packet_size`. -/
def ReceiverConfig.expectedPacketSize (config : ReceiverConfig) : Nat :=
  packetHeaderSize + config.payloadSize.bytes

/-- The five comparisons on the copied header. -/
def ReceiverConfig.headerValid (config : ReceiverConfig) (header : WireHeader) : Prop :=
  header.magic = packetMagic ∧ header.version = packetVersion ∧ header.size = packetHeaderSize
    ∧ header.flowId = config.flowId ∧ header.reserved = 0

instance (config : ReceiverConfig) (header : WireHeader) :
    Decidable (config.headerValid header) :=
  inferInstanceAs (Decidable (_ ∧ _))

/-- One datagram: `none` where the loop counts it as invalid and goes on. The buffer holds
`ACE_MAX_UDP_PAYLOAD` bytes, so a longer datagram comes with `MSG_TRUNC`. -/
def receiveDatagram (config : ReceiverConfig) (packet : List UInt8) (mono real : Int64)
    (m : ControlInfo) : Option SampleRecord :=
  let header := wireHeaderAt (frameView packet) 0
  if maxUdpPayload < packet.length then none
  else if packet.length ≠ config.expectedPacketSize then none
  else if ¬config.headerValid header then none
  else some (sampleRecordOf header (UInt32.ofNat packet.length) mono real m)

theorem receiveDatagram_eq_some_iff (config : ReceiverConfig) (packet : List UInt8)
    (mono real : Int64) (m : ControlInfo) (record : SampleRecord) :
    receiveDatagram config packet mono real m = some record ↔
      packet.length = config.expectedPacketSize
        ∧ (wireHeaderAt (frameView packet) 0).isExperiment
        ∧ (wireHeaderAt (frameView packet) 0).flowId = config.flowId
        ∧ record = sampleRecordOf (wireHeaderAt (frameView packet) 0)
            (UInt32.ofNat packet.length) mono real m := by
  have hmax : maxUdpPayload = 1472 := rfl
  have hsize : packetHeaderSize = 32 := rfl
  unfold receiveDatagram
  dsimp only
  constructor
  · intro h
    split at h; · cases h
    split at h; · cases h
    split at h; · cases h
    rename_i hlong hlen hvalid
    obtain ⟨hmagic, hversion, hheader, hflow, hreserved⟩ := not_not.mp hvalid
    exact ⟨not_not.mp hlen, ⟨hmagic, hversion, hheader, hreserved⟩, hflow,
      (Option.some.inj h).symm⟩
  · rintro ⟨hlen, ⟨hmagic, hversion, hheader, hreserved⟩, hflow, rfl⟩
    have hfits := config.payloadSize.fits
    unfold ReceiverConfig.expectedPacketSize at hlen
    rw [if_neg (by omega), if_neg (by unfold ReceiverConfig.expectedPacketSize; omega),
      if_neg (not_not.mpr ⟨hmagic, hversion, hheader, hflow, hreserved⟩)]

end AceXdp
