import AceXdp.Wire

/-!
# AceXdp — the packet `sender.c` writes

The header encoding of the send loop and the datagram it goes out in: 32 bytes in network order,
then the zeroed payload.

* `wireHeaderAt_of_senderHeader`: wherever the 32 bytes stand, the header struct overlaid there
  holds the sender's values;
* `bytesAt_of_isExperiment`: bytes that pass for a header are those a sender writes.
-/

namespace AceXdp

open ByteView

/-- `ACE_MAX_UDP_PAYLOAD`: one unfragmented Ethernet frame. -/
def maxUdpPayload : Nat := 1472

/-- What `--payload-size` takes, in the sender and in the receiver. -/
structure PayloadSize where
  bytes : Nat
  fits : bytes ≤ maxUdpPayload - packetHeaderSize
  deriving DecidableEq

/-- Nothing behind the header. -/
instance : Inhabited PayloadSize := ⟨0, by decide⟩

/-- The fields as the send loop fills them, each through its `htobe`. -/
def senderHeader (flowId : UInt32) (seq : UInt64) (txNs : Int64) : List UInt8 :=
  beBytes 4 packetMagic ++ (beBytes 2 packetVersion ++ (beBytes 2 packetHeaderSize
    ++ (beBytes 4 flowId.toNat ++ (beBytes 4 0
    ++ (beBytes 8 seq.toNat ++ beBytes 8 txNs.toUInt64.toNat)))))

/-- `packet_size` bytes of the zeroed buffer, the header copied to its front. -/
def senderPacket (flowId : UInt32) (seq : UInt64) (txNs : Int64) (payload : PayloadSize) :
    List UInt8 :=
  senderHeader flowId seq txNs ++ List.replicate payload.bytes 0

section

variable (flowId : UInt32) (seq : UInt64) (txNs : Int64)

@[simp]
theorem length_senderHeader : (senderHeader flowId seq txNs).length = packetHeaderSize := by
  simp [senderHeader, packetHeaderSize]

@[simp]
theorem length_senderPacket (payload : PayloadSize) :
    (senderPacket flowId seq txNs payload).length = packetHeaderSize + payload.bytes := by
  simp [senderPacket]

/-- The 32 bytes at `off` as the seven fields that are read from them. -/
theorem bytesAt_header (pkt : Nat → UInt8) (off : Nat) :
    bytesAt pkt off packetHeaderSize
      = bytesAt pkt off 4 ++ (bytesAt pkt (off + 4) 2 ++ (bytesAt pkt (off + 6) 2
        ++ (bytesAt pkt (off + 8) 4 ++ (bytesAt pkt (off + 12) 4
        ++ (bytesAt pkt (off + 16) 8 ++ bytesAt pkt (off + 24) 8))))) := by
  rw [show packetHeaderSize = 4 + (2 + (2 + (4 + (4 + (8 + 8))))) from rfl, bytesAt_add,
    bytesAt_add, bytesAt_add, bytesAt_add, bytesAt_add, bytesAt_add]

/-- **The header reads back.** One field after the other. -/
theorem wireHeaderAt_of_senderHeader {pkt : Nat → UInt8} {off : Nat}
    (hat : bytesAt pkt off packetHeaderSize = senderHeader flowId seq txNs) :
    wireHeaderAt pkt off
      = ⟨packetMagic, packetVersion, packetHeaderSize, flowId, 0, seq, txNs.toUInt64⟩ := by
  rw [bytesAt_header, senderHeader] at hat
  obtain ⟨hmagic, hat⟩ := List.append_inj hat (by simp)
  obtain ⟨hversion, hat⟩ := List.append_inj hat (by simp)
  obtain ⟨hsize, hat⟩ := List.append_inj hat (by simp)
  obtain ⟨hflow, hat⟩ := List.append_inj hat (by simp)
  obtain ⟨hreserved, hat⟩ := List.append_inj hat (by simp)
  obtain ⟨hseq, htx⟩ := List.append_inj hat (by simp)
  unfold wireHeaderAt
  rw [beNat_of_bytesAt hmagic, beNat_of_bytesAt hversion, beNat_of_bytesAt hsize,
    beNat_of_bytesAt hflow, beNat_of_bytesAt hreserved, beNat_of_bytesAt hseq,
    beNat_of_bytesAt htx]
  simp [packetMagic, packetVersion, packetHeaderSize]

/-- **An accepted header is a sender's.** The envelope fixes the four constant fields, and the other
three are spelled by the values read. -/
theorem bytesAt_of_isExperiment {pkt : Nat → UInt8} {off : Nat}
    (h : (wireHeaderAt pkt off).isExperiment) :
    bytesAt pkt off packetHeaderSize
      = senderHeader (wireHeaderAt pkt off).flowId (wireHeaderAt pkt off).sequence
          (wireHeaderAt pkt off).txRealtimeNs.toInt64 := by
  obtain ⟨hmagic, hversion, hsize, hreserved⟩ := h
  have hflow := beNat_lt pkt (off + 8) 4
  have hseq := beNat_lt pkt (off + 16) 8
  have htx := beNat_lt pkt (off + 24) 8
  simp only [wireHeaderAt] at hmagic hversion hsize hreserved
  rw [bytesAt_header]
  simp only [bytesAt_eq_beBytes, senderHeader, wireHeaderAt, hmagic, hversion, hsize, hreserved,
    UInt64.toUInt64_toInt64, UInt64.toNat_ofNat', UInt32.toNat_ofNat']
  rw [Nat.mod_eq_of_lt (by simpa using hflow), Nat.mod_eq_of_lt (by simpa using hseq),
    Nat.mod_eq_of_lt (by simpa using htx)]

end

end AceXdp
