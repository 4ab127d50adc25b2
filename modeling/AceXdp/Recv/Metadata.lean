import AceXdp.Abi
import AceXdp.Lib.ByteView

/-!
# AceXdp — the metadata in front of a UMEM packet

`xdp_dispatch` stores a `struct ace_rx_meta` directly before the Ethernet header and
`afxdp_recv` reads it back from UMEM (`read_xdp_metadata`, `clear_xdp_metadata`). Both sides run
on one little-endian host, so the struct is stored field by field at its C offset.

* `rxMetaAt_store`: what was stored is what is read;
* `applyMetadata_honest`: metadata written for this packet is taken over as it is.
-/

namespace AceXdp

open ByteView

/-! ## The struct in memory -/

/-- The struct at `addr`, as `memcpy` reads it. -/
def rxMetaAt (mem : Nat → UInt8) (addr : Nat) : RxMeta where
  magic := UInt32.ofNat (leNat mem addr 4)
  version := UInt16.ofNat (leNat mem (addr + 4) 2)
  size := UInt16.ofNat (leNat mem (addr + 6) 2)
  flags := UInt32.ofNat (leNat mem (addr + 8) 4)
  flowId := UInt32.ofNat (leNat mem (addr + 12) 4)
  sequence := UInt64.ofNat (leNat mem (addr + 16) 8)
  hwRxNs := UInt64.ofNat (leNat mem (addr + 24) 8)
  initialXdpNs := UInt64.ofNat (leNat mem (addr + 32) 8)
  cpumapNs := UInt64.ofNat (leNat mem (addr + 40) 8)
  rxQueue := UInt32.ofNat (leNat mem (addr + 48) 4)
  requestedPath := UInt16.ofNat (leNat mem (addr + 52) 2)
  timestampError := (UInt16.ofNat (leNat mem (addr + 54) 2)).toInt16

/-- The stores of `prepare_measurement_metadata` to `addr`. -/
def RxMeta.store (rx : RxMeta) (mem : Nat → UInt8) (addr : Nat) : Nat → UInt8 :=
  let mem := writeLe mem addr 4 rx.magic.toNat
  let mem := writeLe mem (addr + 4) 2 rx.version.toNat
  let mem := writeLe mem (addr + 6) 2 rx.size.toNat
  let mem := writeLe mem (addr + 8) 4 rx.flags.toNat
  let mem := writeLe mem (addr + 12) 4 rx.flowId.toNat
  let mem := writeLe mem (addr + 16) 8 rx.sequence.toNat
  let mem := writeLe mem (addr + 24) 8 rx.hwRxNs.toNat
  let mem := writeLe mem (addr + 32) 8 rx.initialXdpNs.toNat
  let mem := writeLe mem (addr + 40) 8 rx.cpumapNs.toNat
  let mem := writeLe mem (addr + 48) 4 rx.rxQueue.toNat
  let mem := writeLe mem (addr + 52) 2 rx.requestedPath.toNat
  writeLe mem (addr + 54) 2 rx.timestampError.toUInt16.toNat

/-- **Round trip.** The fields are disjoint and each has its own width. -/
theorem rxMetaAt_store (rx : RxMeta) (mem : Nat → UInt8) (addr : Nat) :
    rxMetaAt (rx.store mem addr) addr = rx := by
  cases rx
  simp (disch := omega) only [rxMetaAt, RxMeta.store, leNat_writeLe_disjoint, leNat_writeLe]
  simp

/-! ## `read_xdp_metadata` and `clear_xdp_metadata` -/

def frameSize : Nat := 4096
def numFrames : Nat := 4096
def umemSize : Nat := numFrames * frameSize

def chunkStart (addr : Nat) : Nat := addr / frameSize * frameSize

/-- The address test both functions make; `none` when the metadata would not lie in the
packet's own chunk. -/
def metadataAddr (packetAddr : Nat) : Option Nat :=
  if packetAddr < rxMetaSize then none
  else if packetAddr - rxMetaSize < chunkStart packetAddr ∨
      packetAddr - rxMetaSize > umemSize - rxMetaSize then none
  else some (packetAddr - rxMetaSize)

/-- The envelope test of the receiver. -/
def RxMeta.wellFormed (rx : RxMeta) : Prop :=
  rx.magic = rxMetaMagic ∧ rx.version = rxMetaVersion ∧ rx.size = UInt16.ofNat rxMetaSize ∧
    rx.flags &&& metaPacketIdValid ≠ 0

instance (rx : RxMeta) : Decidable rx.wellFormed := by
  unfold RxMeta.wellFormed; infer_instance

/-- The three validation bits, on top of the record's own. -/
def validationFlagsOf (rx : RxMeta) (flowId : UInt32) (sequence : UInt64) (v : UInt32) : UInt32 :=
  let v := v ||| xskRecordMetaValid
  let v := if rx.flowId = flowId ∧ rx.sequence = sequence then v ||| xskRecordKeyMatch else v
  if rx.requestedPath = RequestedPath.xsk.code then v ||| xskRecordPathMatch else v

/-- The second half of `read_xdp_metadata`: the struct has been copied out of UMEM. The flag is
whether `metadata_invalid_packets` is bumped. -/
def applyMetadata (rx : RxMeta) (flowId : UInt32) (sequence : UInt64) (record : XskUserRecord) :
    Bool × XskUserRecord :=
  if ¬rx.wellFormed then (true, record)
  else
    let v := validationFlagsOf rx flowId sequence record.validationFlags
    if v &&& (xskRecordKeyMatch ||| xskRecordPathMatch)
        ≠ xskRecordKeyMatch ||| xskRecordPathMatch then
      (true, { record with validationFlags := v })
    else (false, { record with
      validationFlags := v
      hwRxNs := rx.hwRxNs
      initialXdpNs := rx.initialXdpNs
      metaFlags := rx.flags
      requestedPath := rx.requestedPath
      timestampError := rx.timestampError })

def readXdpMetadata (mem : Nat → UInt8) (packetAddr : Nat) (flowId : UInt32)
    (sequence : UInt64) (record : XskUserRecord) : Bool × XskUserRecord :=
  match metadataAddr packetAddr with
  | none => (true, record)
  | some addr => applyMetadata (rxMetaAt mem addr) flowId sequence record

def clearXdpMetadata (mem : Nat → UInt8) (packetAddr : Nat) : Nat → UInt8 :=
  match metadataAddr packetAddr with
  | none => mem
  | some addr => fillBytes mem addr rxMetaSize 0

/-- Well-formed metadata for this very packet, with the XSK path, is copied field by field and
all three validation bits are set. -/
theorem applyMetadata_honest (rx : RxMeta) (record : XskUserRecord) (hw : rx.wellFormed)
    (hpath : rx.requestedPath = RequestedPath.xsk.code) (hv : record.validationFlags = 0) :
    applyMetadata rx rx.flowId rx.sequence record = (false, { record with
      validationFlags := xskRecordMetaValid ||| xskRecordKeyMatch ||| xskRecordPathMatch
      hwRxNs := rx.hwRxNs
      initialXdpNs := rx.initialXdpNs
      metaFlags := rx.flags
      requestedPath := rx.requestedPath
      timestampError := rx.timestampError }) := by
  have hflags : validationFlagsOf rx rx.flowId rx.sequence record.validationFlags
      = xskRecordMetaValid ||| xskRecordKeyMatch ||| xskRecordPathMatch := by
    rw [hv, validationFlagsOf, if_pos hpath, if_pos ⟨rfl, rfl⟩]
    rfl
  rw [applyMetadata, if_neg (not_not.mpr hw), hflags]
  rfl

/-- Neither outcome touches the identity the record was given before. -/
theorem applyMetadata_identity (rx : RxMeta) (flowId : UInt32) (sequence : UInt64)
    (record : XskUserRecord) :
    (applyMetadata rx flowId sequence record).2.flowId = record.flowId
      ∧ (applyMetadata rx flowId sequence record).2.sequence = record.sequence := by
  unfold applyMetadata
  by_cases hw : rx.wellFormed
  · rw [if_neg (not_not.mpr hw)]
    dsimp only
    split <;> exact ⟨rfl, rfl⟩
  · rw [if_pos hw]
    exact ⟨rfl, rfl⟩

theorem readXdpMetadata_identity (mem : Nat → UInt8) (packetAddr : Nat) (flowId : UInt32)
    (sequence : UInt64) (record : XskUserRecord) :
    (readXdpMetadata mem packetAddr flowId sequence record).2.flowId = record.flowId
      ∧ (readXdpMetadata mem packetAddr flowId sequence record).2.sequence
          = record.sequence := by
  unfold readXdpMetadata
  cases metadataAddr packetAddr with
  | none => exact ⟨rfl, rfl⟩
  | some addr => exact applyMetadata_identity _ flowId sequence record

end AceXdp
