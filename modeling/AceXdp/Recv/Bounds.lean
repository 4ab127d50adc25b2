import AceXdp.Lib.Footprint
import AceXdp.Recv.Records

/-!
# AceXdp — what the AF_XDP receiver touches in UMEM

The functions of `afxdp_recv.c` that look at UMEM, once more at the level of the machine: addresses
are `__u64`, chunk bases are masked, and every `memcpy` and `memset` is an access of its own. An
address below is the offset from `umem->buffer`.

* `validateRxDescriptor_eq`, `run_packetUdpInfo`, …: these are the functions of `Batch`, `Packet`
  and `Metadata`, so nothing wraps around;
* `rx_descriptor_bounds_accesses`: for a descriptor the validation accepts, the parsers stay inside
  the packet and the metadata functions between the start of its chunk and the packet;
* `results_from_own_chunk`: so UMEM contents that agree on that chunk give the same results, and no
  other chunk is changed.
-/

namespace AceXdp.Machine

open ByteView Footprint Footprint.MemProg

/-! ## Address arithmetic

The arithmetic of the source, in 64 bits and on values that the kernel supplies. -/

/-- `XSK_UNALIGNED_BUF_ADDR_MASK`. -/
def unalignedBufAddrMask : UInt64 := ((1 : UInt64) <<< 48) - 1

def extractAddr (addr : UInt64) : UInt64 := addr &&& unalignedBufAddrMask

def extractOffset (addr : UInt64) : UInt64 := addr >>> 48

def addOffsetToAddr (addr : UInt64) : UInt64 := extractAddr addr + extractOffset addr

/-- `FRAME_SIZE` and `UMEM_SIZE`, converted to `__u64`. -/
def frameSize64 : UInt64 := UInt64.ofNat frameSize
def umemSize64 : UInt64 := UInt64.ofNat umemSize

/-- `addr & ~((__u64)FRAME_SIZE - 1)`. -/
def chunkStart (addr : UInt64) : UInt64 := addr &&& ~~~(frameSize64 - 1)

/-- `XDP_PKT_CONTD`. -/
def xdpPktContd : UInt32 := 1

/-- `validate_rx_descriptor`: `*fill_addr` and `*data_addr`. -/
def validateRxDescriptor (desc : XdpDesc) : Except BatchError (UInt64 × UInt64) :=
  let baseAddr := extractAddr desc.addr
  let packetAddr := addOffsetToAddr desc.addr
  if desc.options &&& xdpPktContd ≠ 0 then .error .badOptions
  else if desc.options ≠ 0 then .error .badOptions
  else if baseAddr ≥ umemSize64 ∨ packetAddr ≥ umemSize64 ∨ desc.len = 0 ∨
      desc.len.toUInt64 > umemSize64 - packetAddr then .error .badAddress
  else
    let chunkStart := chunkStart baseAddr
    let chunkEnd := chunkStart + frameSize64
    if packetAddr < chunkStart ∨ packetAddr ≥ chunkEnd ∨
        desc.len.toUInt64 > chunkEnd - packetAddr then .error .badAddress
    else .ok (chunkStart, packetAddr)

/-! ## The parsers

With every `memcpy` out of the packet as an access of its own. -/

/-- `packet_udp_info` on the packet at `packet`; the payload pointer it stores is an address too. -/
def packetUdpInfo (packet length : Nat) : MemProg (Option UdpPacketInfo) :=
  if length < ethHeaderSize then .done none
  else .copy packet ethHeaderSize fun eth =>
    if beNat eth.view 12 2 ≠ ethPIp then .done none
    else if length < ethHeaderSize + ipHeaderSize then .done none
    else .copy (packet + ethHeaderSize) ipHeaderSize fun ip =>
      let version := (ip.view 0).toNat / 16
      let ihl := (ip.view 0).toNat % 16
      let totLen := beNat ip.view 2 2
      let fragOff := beNat ip.view 6 2
      let protocol := (ip.view 9).toNat
      if version ≠ 4 ∨ ihl < 5 ∨ protocol ≠ ipprotoUdp then .done none
      else if fragOff &&& ipMfOrOffset ≠ 0 then .done none
      else if length < ethHeaderSize + ihl * 4 + udpHeaderSize then .done none
      else if totLen < ihl * 4 + udpHeaderSize ∨ totLen > length - ethHeaderSize then .done none
      else .copy (packet + ethHeaderSize + ihl * 4) udpHeaderSize fun udp =>
        let dest := beNat udp.view 2 2
        let len := beNat udp.view 4 2
        if len < udpHeaderSize ∨ len > totLen - ihl * 4 then .done none
        else .done <| some
          { payload := packet + ethHeaderSize + ihl * 4 + udpHeaderSize
            payloadLength := len - udpHeaderSize
            destinationPort := dest }

/-- `experiment_packet_id`. -/
def experimentPacketId (info : UdpPacketInfo) : MemProg (Option ExperimentId) :=
  if info.payloadLength < packetHeaderSize then .done none
  else .copy info.payload packetHeaderSize fun bytes =>
    let header := wireHeaderAt bytes.view 0
    if ¬header.isExperiment then .done none
    else .done (some ⟨header.flowId, header.sequence, header.txRealtimeNs.toInt64⟩)

/-! ## The metadata functions

Reading and clearing the area in front of the packet. -/

/-- `sizeof(struct ace_rx_meta)`, converted to `__u64`. -/
def rxMetaSize64 : UInt64 := UInt64.ofNat rxMetaSize

/-- The address test of both functions. -/
def metadataAddr (packetAddr : UInt64) : Option UInt64 :=
  if packetAddr < rxMetaSize64 then none
  else
    let metadataAddr := packetAddr - rxMetaSize64
    if metadataAddr < chunkStart packetAddr ∨ metadataAddr > umemSize64 - rxMetaSize64 then none
    else some metadataAddr

/-- `read_xdp_metadata`; the flag is whether `metadata_invalid_packets` is bumped. -/
def readXdpMetadata (packetAddr : UInt64) (flowId : UInt32) (sequence : UInt64)
    (record : XskUserRecord) : MemProg (Bool × XskUserRecord) :=
  match metadataAddr packetAddr with
  | none => .done (true, record)
  | some addr => .copy addr.toNat rxMetaSize fun bytes =>
    .done (applyMetadata (rxMetaAt bytes.view 0) flowId sequence record)

def clearXdpMetadata (packetAddr : UInt64) : MemProg Unit :=
  match metadataAddr packetAddr with
  | none => .done ()
  | some addr => .fill addr.toNat rxMetaSize 0 (.done ())

/-! ## Nothing wraps around

The C expressions and the exact ones agree on descriptors that pass the check. -/

theorem toNat_extractAddr (addr : UInt64) : (extractAddr addr).toNat = AceXdp.extractAddr addr := by
  rw [extractAddr, UInt64.toNat_and, show unalignedBufAddrMask.toNat = 2 ^ 48 - 1 from rfl,
    Nat.and_two_pow_sub_one_eq_mod]
  rfl

theorem toNat_extractOffset (addr : UInt64) :
    (extractOffset addr).toNat = addr.toNat / 2 ^ 48 := by
  rw [extractOffset, UInt64.toNat_shiftRight, show (48 : UInt64).toNat % 64 = 48 from rfl,
    Nat.shiftRight_eq_div_pow]

/-- A 48-bit address and a 16-bit offset add up without a carry out of bit 63. -/
theorem toNat_addOffsetToAddr (addr : UInt64) :
    (addOffsetToAddr addr).toNat = AceXdp.addOffsetToAddr addr := by
  have haddr := addr.toNat_lt
  rw [addOffsetToAddr, UInt64.toNat_add, toNat_extractAddr, toNat_extractOffset]
  refine Nat.mod_eq_of_lt ?_
  unfold AceXdp.extractAddr
  omega

/-- The mask of `chunkStart` keeps the 52 high bits, which is a rounding down. -/
theorem toNat_chunkStart (addr : UInt64) :
    (chunkStart addr).toNat = AceXdp.chunkStart addr.toNat := by
  have haddr := addr.toNat_lt
  have hmask : (~~~(frameSize64 - 1)).toNat = (2 ^ 52 - 1) <<< 12 := by decide
  have hhigh : addr.toNat &&& (2 ^ 52 - 1) <<< 12
      = (addr.toNat >>> 12 &&& (2 ^ 52 - 1)) <<< 12 := by
    refine Nat.eq_of_testBit_eq fun i => ?_
    by_cases hi : 12 ≤ i
    · simp only [Nat.testBit_and, Nat.testBit_shiftLeft, Nat.testBit_shiftRight, hi, decide_true,
        Bool.true_and, Nat.add_sub_cancel' hi]
    · simp only [Nat.testBit_and, Nat.testBit_shiftLeft, hi, decide_false, Bool.false_and,
        Bool.and_false]
  rw [chunkStart, UInt64.toNat_and, hmask, hhigh, Nat.and_two_pow_sub_one_eq_mod,
    Nat.shiftRight_eq_div_pow, Nat.shiftLeft_eq, Nat.mod_eq_of_lt (by omega)]
  rfl

/-- A chunk of an address inside UMEM ends inside UMEM. -/
theorem chunkStart_bounds {addr : Nat} (h : addr < umemSize) :
    AceXdp.chunkStart addr ≤ addr ∧ addr < AceXdp.chunkStart addr + frameSize
      ∧ AceXdp.chunkStart addr + frameSize ≤ umemSize := by
  simp only [AceXdp.chunkStart, umemSize, numFrames, frameSize] at *
  omega

/-- `packet >= limit || … || len > limit - packet`: the difference is only looked at when it is
not negative. -/
theorem exceeds_iff {packet limit : UInt64} (len : UInt32) (p : Prop) :
    (packet ≥ limit ∨ p ∨ len.toUInt64 > limit - packet)
      ↔ (packet.toNat ≥ limit.toNat ∨ p ∨ len.toNat > limit.toNat - packet.toNat) := by
  by_cases hin : packet.toNat < limit.toNat
  · have hle : packet ≤ limit := UInt64.le_iff_toNat_le.mpr (Nat.le_of_lt hin)
    simp only [ge_iff_le, gt_iff_lt, UInt64.le_iff_toNat_le, UInt64.lt_iff_toNat_lt,
      UInt64.toNat_sub_of_le _ _ hle, UInt32.toNat_toUInt64]
  · have hout : limit.toNat ≤ packet.toNat := Nat.le_of_not_lt hin
    exact iff_of_true (Or.inl (UInt64.le_iff_toNat_le.mpr hout)) (Or.inl hout)

/-- **`validate_rx_descriptor` computes what `validateRxDescriptor` says**: behind the tests
before it, each addition and subtraction of two `__u64` is the one of the numbers. -/
theorem validateRxDescriptor_eq (desc : XdpDesc) : validateRxDescriptor desc
    = (AceXdp.validateRxDescriptor desc).map fun a =>
        (UInt64.ofNat a.fillAddr, UInt64.ofNat a.dataAddr) := by
  have hbase := toNat_extractAddr desc.addr
  have hpacket := toNat_addOffsetToAddr desc.addr
  unfold validateRxDescriptor AceXdp.validateRxDescriptor
  dsimp only
  generalize extractAddr desc.addr = base at hbase
  generalize addOffsetToAddr desc.addr = packet at hpacket
  rw [← hbase, ← hpacket]
  by_cases hopt : desc.options = 0
  · have hcontd : ¬(desc.options &&& xdpPktContd ≠ 0) := by rw [hopt]; decide
    have hrange : (base ≥ umemSize64 ∨ packet ≥ umemSize64 ∨ desc.len = 0 ∨
          desc.len.toUInt64 > umemSize64 - packet)
        ↔ (base.toNat ≥ umemSize ∨ packet.toNat ≥ umemSize ∨ desc.len = 0 ∨
          desc.len.toNat > umemSize - packet.toNat) :=
      or_congr UInt64.le_iff_toNat_le (exceeds_iff desc.len _)
    rw [if_neg hcontd, if_neg (not_not.mpr hopt), if_neg (not_not.mpr hopt)]
    by_cases hr : base.toNat ≥ umemSize ∨ packet.toNat ≥ umemSize ∨ desc.len = 0 ∨
        desc.len.toNat > umemSize - packet.toNat
    · rw [if_pos (hrange.mpr hr), if_pos hr]
      rfl
    · have hbase : base.toNat < umemSize := by omega
      obtain ⟨hlo, hhi, hfit⟩ := chunkStart_bounds hbase
      have hstart := toNat_chunkStart base
      have hend : (chunkStart base + frameSize64).toNat
          = AceXdp.chunkStart base.toNat + frameSize := by
        rw [UInt64.toNat_add, hstart, show frameSize64.toNat = frameSize from rfl]
        exact Nat.mod_eq_of_lt (by simp only [umemSize, numFrames, frameSize] at *; omega)
      have hcross : (packet < chunkStart base ∨ packet ≥ chunkStart base + frameSize64 ∨
            desc.len.toUInt64 > chunkStart base + frameSize64 - packet)
          ↔ (packet.toNat < AceXdp.chunkStart base.toNat ∨
            packet.toNat ≥ AceXdp.chunkStart base.toNat + frameSize ∨
            desc.len.toNat > AceXdp.chunkStart base.toNat + frameSize - packet.toNat) := by
        have h : (packet ≥ chunkStart base + frameSize64 ∨ False
            ∨ desc.len.toUInt64 > chunkStart base + frameSize64 - packet) ↔ _ :=
          exceeds_iff desc.len False
        rw [hend, false_or, false_or] at h
        rw [← hstart] at h ⊢
        exact or_congr UInt64.lt_iff_toNat_lt h
      rw [if_neg (mt hrange.mp hr), if_neg hr]
      by_cases hc : packet.toNat < AceXdp.chunkStart base.toNat ∨
          packet.toNat ≥ AceXdp.chunkStart base.toNat + frameSize ∨
          desc.len.toNat > AceXdp.chunkStart base.toNat + frameSize - packet.toNat
      · rw [if_pos (hcross.mpr hc), if_pos hc]
        rfl
      · rw [if_neg (mt hcross.mp hc), if_neg hc]
        simp only [Except.map, ← hstart, UInt64.ofNat_toNat]
  · rw [if_pos hopt]
    split <;> rfl

/-- Both tests of the metadata address agree with the numbers, too. -/
theorem metadataAddr_eq (packetAddr : UInt64) :
    (metadataAddr packetAddr).map UInt64.toNat = AceXdp.metadataAddr packetAddr.toNat := by
  have hstart := toNat_chunkStart packetAddr
  have hsize : rxMetaSize64.toNat = rxMetaSize := rfl
  have hlimit : (umemSize64 - rxMetaSize64).toNat = umemSize - rxMetaSize := by decide
  unfold metadataAddr AceXdp.metadataAddr
  dsimp only
  by_cases hsmall : packetAddr.toNat < rxMetaSize
  · rw [if_pos hsmall, if_pos (UInt64.lt_iff_toNat_lt.mpr (by rwa [hsize]))]
    rfl
  · have hle : rxMetaSize64 ≤ packetAddr := UInt64.le_iff_toNat_le.mpr (by rw [hsize]; omega)
    have hsub : (packetAddr - rxMetaSize64).toNat = packetAddr.toNat - rxMetaSize :=
      UInt64.toNat_sub_of_le _ _ hle
    have hout : (packetAddr - rxMetaSize64 < chunkStart packetAddr ∨
          packetAddr - rxMetaSize64 > umemSize64 - rxMetaSize64)
        ↔ (packetAddr.toNat - rxMetaSize < AceXdp.chunkStart packetAddr.toNat ∨
          packetAddr.toNat - rxMetaSize > umemSize - rxMetaSize) := by
      rw [gt_iff_lt, gt_iff_lt, UInt64.lt_iff_toNat_lt, UInt64.lt_iff_toNat_lt, hsub, hstart,
        hlimit]
    rw [if_neg hsmall, if_neg (by rw [UInt64.lt_iff_toNat_lt, hsize]; exact hsmall)]
    by_cases ho : packetAddr.toNat - rxMetaSize < AceXdp.chunkStart packetAddr.toNat ∨
        packetAddr.toNat - rxMetaSize > umemSize - rxMetaSize
    · rw [if_pos ho, if_pos (hout.mpr ho)]
      rfl
    · rw [if_neg ho, if_neg (mt hout.mp ho), Option.map_some, hsub]

/-! ## Copies show what the views show

The machine copies structures out of memory; the model reads the bytes where they are. -/

theorem beNat_packetView (mem : Nat → UInt8) (packet off n : Nat) :
    beNat (packetView mem packet) off n = beNat mem (packet + off) n :=
  beNat_congr n fun i _ => by rw [packetView, Nat.add_assoc]

/-- A field of a struct copied from `addr` is the field of the packet at `addr - packet`. -/
theorem beNat_copyOut_packet {mem : Nat → UInt8} {packet addr size off field n : Nat}
    (hfit : off + n ≤ size) (haddr : addr + off = packet + field) :
    beNat (copyOut mem addr size).view off n = beNat (packetView mem packet) field n := by
  rw [beNat_copyOut hfit, beNat_packetView, haddr]

theorem byte_copyOut_packet {mem : Nat → UInt8} {packet addr size off field : Nat}
    (hfit : off < size) (haddr : addr + off = packet + field) :
    (copyOut mem addr size).view off = packetView mem packet field := by
  rw [view_copyOut hfit, packetView, haddr]

/-- `packet_udp_info` decodes the packet from its three copies as from the packet itself. -/
theorem run_packetUdpInfo (mem : Nat → UInt8) (packet length : Nat) :
    (packetUdpInfo packet length).run mem
      = ((AceXdp.packetUdpInfo (packetView mem packet) length).map fun info =>
          { info with payload := packet + info.payload }, mem) := by
  generalize hpkt : packetView mem packet = pkt
  have hproto : beNat (copyOut mem packet ethHeaderSize).view 12 2 = ethProto pkt := by
    rw [← hpkt]; exact beNat_copyOut_packet (by decide) rfl
  have hfirst : (copyOut mem (packet + ethHeaderSize) ipHeaderSize).view 0 = pkt 14 := by
    rw [← hpkt]; exact byte_copyOut_packet (by decide) rfl
  have htotLen : beNat (copyOut mem (packet + ethHeaderSize) ipHeaderSize).view 2 2
      = ipTotLen pkt := by
    rw [← hpkt]; exact beNat_copyOut_packet (by decide) rfl
  have hfragOff : beNat (copyOut mem (packet + ethHeaderSize) ipHeaderSize).view 6 2
      = ipFragOff pkt := by
    rw [← hpkt]; exact beNat_copyOut_packet (by decide) rfl
  have hprotocol : (copyOut mem (packet + ethHeaderSize) ipHeaderSize).view 9 = pkt 23 := by
    rw [← hpkt]; exact byte_copyOut_packet (by decide) rfl
  have hudp : ∀ off, off + 2 ≤ udpHeaderSize →
      beNat (copyOut mem (packet + ethHeaderSize + (pkt 14).toNat % 16 * 4) udpHeaderSize).view off 2
        = beNat pkt (udpOffset pkt + off) 2 := by
    intro off hoff
    rw [← hpkt]
    refine beNat_copyOut_packet hoff ?_
    simp only [udpOffset, ipHeaderLen, Nat.add_assoc]
  have hihl : (pkt 14).toNat % 16 < 5 ↔ ipHeaderLen pkt < 5 * 4 := by
    unfold ipHeaderLen
    omega
  have hdest := hudp 2 (by decide)
  have hlen := hudp 4 (by decide)
  unfold packetUdpInfo AceXdp.packetUdpInfo
  refine run_guard Iff.rfl fun _ => ?_
  rw [run, hproto]
  refine run_guard Iff.rfl fun _ => run_guard Iff.rfl fun _ => ?_
  rw [run]
  dsimp only
  rw [hfirst, htotLen, hfragOff, hprotocol]
  refine run_guard (or_congr Iff.rfl (or_congr hihl Iff.rfl)) fun _ => ?_
  refine run_guard Iff.rfl fun _ => run_guard Iff.rfl fun _ => run_guard Iff.rfl fun _ => ?_
  rw [run, hdest, hlen]
  refine run_guard Iff.rfl fun _ => ?_
  rw [run, Option.map_some, ipHeaderLen, ← Nat.add_assoc, ← Nat.add_assoc]
  rfl

theorem run_experimentPacketId (mem : Nat → UInt8) (packet : Nat) (info : UdpPacketInfo) :
    (experimentPacketId { info with payload := packet + info.payload }).run mem
      = (AceXdp.experimentPacketId (packetView mem packet) info, mem) := by
  unfold experimentPacketId AceXdp.experimentPacketId
  dsimp only
  by_cases hlen : info.payloadLength < packetHeaderSize
  · rw [if_pos hlen, if_pos hlen, run]
  · have hheader : wireHeaderAt (copyOut mem (packet + info.payload) packetHeaderSize).view 0
        = wireHeaderAt (packetView mem packet) info.payload := by
      simp (disch := decide) only [wireHeaderAt, beNat_copyOut, beNat_packetView, Nat.zero_add,
        Nat.add_zero, Nat.add_assoc]
    rw [if_neg hlen, if_neg hlen, run, hheader]
    split <;> rw [run]

theorem run_readXdpMetadata (mem : Nat → UInt8) (packetAddr : UInt64) (flowId : UInt32)
    (sequence : UInt64) (record : XskUserRecord) :
    (readXdpMetadata packetAddr flowId sequence record).run mem
      = (AceXdp.readXdpMetadata mem packetAddr.toNat flowId sequence record, mem) := by
  unfold readXdpMetadata AceXdp.readXdpMetadata
  rw [← metadataAddr_eq]
  cases metadataAddr packetAddr with
  | none => rfl
  | some addr =>
    have hmeta : rxMetaAt (copyOut mem addr.toNat rxMetaSize).view 0 = rxMetaAt mem addr.toNat := by
      simp (disch := decide) only [rxMetaAt, leNat_copyOut, Nat.zero_add, Nat.add_zero]
    simp only [Option.map_some, run, hmeta]

theorem run_clearXdpMetadata (mem : Nat → UInt8) (packetAddr : UInt64) :
    (clearXdpMetadata packetAddr).run mem
      = ((), AceXdp.clearXdpMetadata mem packetAddr.toNat) := by
  unfold clearXdpMetadata AceXdp.clearXdpMetadata
  rw [← metadataAddr_eq]
  cases metadataAddr packetAddr with
  | none => rfl
  | some addr => rfl

/-! ## Where the accesses go

The ranges that the parsers and the metadata functions touch, relative to the packet. -/

/-- Each copy comes after the test that its last byte is inside the packet. -/
theorem within_packetUdpInfo (mem : Nat → UInt8) (packet length : Nat) :
    (packetUdpInfo packet length).Within mem packet (packet + length) := by
  unfold packetUdpInfo
  refine within_guard fun heth => within_copy (by omega) (by omega) ?_
  refine within_guard fun _ => within_guard fun hip => ?_
  refine within_copy (by omega) (by omega) (within_guard fun _ => ?_)
  refine within_guard fun _ => within_guard fun hudp => within_guard fun _ => ?_
  refine within_copy (by omega) (by omega) (within_guard fun _ => ?_)
  exact within_done _ mem _ _

/-- The payload `packet_udp_info` reports lies inside the packet. -/
theorem packetUdpInfo_payload {mem : Nat → UInt8} {packet length : Nat} {info : UdpPacketInfo}
    (h : ((packetUdpInfo packet length).run mem).1 = some info) :
    packet ≤ info.payload ∧ info.payload + info.payloadLength ≤ packet + length := by
  rw [run_packetUdpInfo] at h
  obtain ⟨inner, hinner, rfl⟩ := Option.map_eq_some_iff.mp h
  obtain ⟨henv, rfl⟩ := (packetUdpInfo_eq_some_iff _ _ _).mp hinner
  have hlow := henv.udpLenLow
  have hhigh := henv.udpLenHigh
  have htot := henv.totLen
  simp only [udpOffset]
  omega

theorem within_experimentPacketId (mem : Nat → UInt8) (info : UdpPacketInfo) :
    (experimentPacketId info).Within mem info.payload (info.payload + info.payloadLength) := by
  unfold experimentPacketId
  refine within_guard fun hlen => within_copy (Nat.le_refl _) (by omega) ?_
  exact within_guard fun _ => within_done _ mem _ _

/-- The address both metadata functions go to, when there is one. -/
theorem metadataAddr_some {packetAddr addr : UInt64} (h : metadataAddr packetAddr = some addr) :
    AceXdp.chunkStart packetAddr.toNat ≤ addr.toNat
      ∧ addr.toNat + rxMetaSize = packetAddr.toNat := by
  have haddr := metadataAddr_eq packetAddr
  rw [h, Option.map_some, AceXdp.metadataAddr] at haddr
  split at haddr
  · cases haddr
  · split at haddr
    · cases haddr
    · have hsome := Option.some.inj haddr
      omega

theorem within_readXdpMetadata (mem : Nat → UInt8) (packetAddr : UInt64) (flowId : UInt32)
    (sequence : UInt64) (record : XskUserRecord) :
    (readXdpMetadata packetAddr flowId sequence record).Within mem
      (AceXdp.chunkStart packetAddr.toNat) packetAddr.toNat := by
  unfold readXdpMetadata
  cases haddr : metadataAddr packetAddr with
  | none => exact within_done _ mem _ _
  | some addr =>
    obtain ⟨hlo, hhi⟩ := metadataAddr_some haddr
    exact within_copy hlo (Nat.le_of_eq hhi) (within_done _ mem _ _)

theorem within_clearXdpMetadata (mem : Nat → UInt8) (packetAddr : UInt64) :
    (clearXdpMetadata packetAddr).Within mem
      (AceXdp.chunkStart packetAddr.toNat) packetAddr.toNat := by
  unfold clearXdpMetadata
  cases haddr : metadataAddr packetAddr with
  | none => exact within_done _ mem _ _
  | some addr =>
    obtain ⟨hlo, hhi⟩ := metadataAddr_some haddr
    exact within_fill hlo (Nat.le_of_eq hhi) (within_done _ _ _ _)

/-! ## Accepted descriptors

For a descriptor that the validation has accepted these ranges lie between the start of its chunk
and the end of the packet. -/

/-- What the two addresses of an accepted descriptor are: a chunk of UMEM and a packet in it. -/
structure InChunk (fill data : UInt64) (len : UInt32) : Prop where
  aligned : frameSize ∣ fill.toNat
  inUmem : fill.toNat < umemSize
  low : fill.toNat ≤ data.toNat
  high : data.toNat + len.toNat ≤ fill.toNat + frameSize
  nonempty : 0 < len.toNat

theorem validateRxDescriptor_inChunk {desc : XdpDesc} {fill data : UInt64}
    (h : validateRxDescriptor desc = .ok (fill, data)) : InChunk fill data desc.len := by
  rw [validateRxDescriptor_eq] at h
  cases ha : AceXdp.validateRxDescriptor desc with
  | error err => rw [ha] at h; cases h
  | ok a =>
    rw [ha] at h
    cases h
    obtain ⟨hdata, hlow, hhigh, hnonempty⟩ := validateRxDescriptor_inFrame ha
    obtain ⟨hfill, _, hframe⟩ := validateRxDescriptor_ok ha
    have hsize : frameSize = 4096 := rfl
    have hnum : numFrames = 4096 := rfl
    have humem : umemSize = 16777216 := rfl
    rw [hsize] at hlow hhigh hfill
    have hfill64 : (UInt64.ofNat a.fillAddr).toNat = desc.frame * 4096 := by
      rw [UInt64.toNat_ofNat', hfill]
      omega
    have hdata64 : (UInt64.ofNat a.dataAddr).toNat = desc.dataAddr := by
      rw [UInt64.toNat_ofNat', hdata]
      omega
    refine ⟨?_, ?_, ?_, ?_, hnonempty⟩
    · rw [hfill64, hsize]; exact Nat.dvd_mul_left _ _
    · rw [hfill64]; omega
    · rw [hfill64, hdata64]; exact hlow
    · rw [hfill64, hdata64, hsize]; omega

/-- The chunk of the packet is the chunk of the base address: the masks agree. -/
theorem InChunk.chunkStart_eq {fill data : UInt64} {len : UInt32} (h : InChunk fill data len) :
    AceXdp.chunkStart data.toNat = fill.toNat := by
  obtain ⟨⟨k, hk⟩, _, hlo, hhi, hpos⟩ := h
  simp only [AceXdp.chunkStart, frameSize] at *
  omega

/-- **Validation bounds every access.** For every descriptor that passes, the returned fill
address is a chunk of UMEM and the packet lies in that chunk; the two parsers read bytes of the
packet only, and the metadata functions read and write bytes of the chunk before the packet. -/
theorem rx_descriptor_bounds_accesses (desc : XdpDesc) (fill data : UInt64)
    (h : validateRxDescriptor desc = .ok (fill, data)) (mem : Nat → UInt8) :
    data = addOffsetToAddr desc.addr
      ∧ (frameSize ∣ fill.toNat ∧ fill.toNat < umemSize)
      ∧ (fill.toNat ≤ data.toNat ∧ data.toNat + desc.len.toNat ≤ fill.toNat + frameSize)
      ∧ (∀ b, (packetUdpInfo data.toNat desc.len.toNat).Touches mem b →
          data.toNat ≤ b ∧ b < data.toNat + desc.len.toNat)
      ∧ (∀ info, ((packetUdpInfo data.toNat desc.len.toNat).run mem).1 = some info →
          ∀ b, (experimentPacketId info).Touches mem b →
            data.toNat ≤ b ∧ b < data.toNat + desc.len.toNat)
      ∧ (∀ flowId sequence record b, (readXdpMetadata data flowId sequence record).Touches mem b →
          fill.toNat ≤ b ∧ b < data.toNat ∧ b < fill.toNat + frameSize)
      ∧ (∀ b, (clearXdpMetadata data).Touches mem b →
          fill.toNat ≤ b ∧ b < data.toNat ∧ b < fill.toNat + frameSize) := by
  have hchunk := validateRxDescriptor_inChunk h
  have hstart := hchunk.chunkStart_eq
  have hhigh := hchunk.high
  refine ⟨?_, ⟨hchunk.aligned, hchunk.inUmem⟩, ⟨hchunk.low, hhigh⟩, ?_, ?_, ?_, ?_⟩
  · unfold validateRxDescriptor at h
    dsimp only at h
    repeat' split at h
    all_goals cases h
    rfl
  · intro b hb
    exact (within_packetUdpInfo mem _ _).touches hb
  · intro info hinfo b hb
    obtain ⟨hlo, hhi⟩ := packetUdpInfo_payload hinfo
    have hin := (within_experimentPacketId mem info).touches hb
    omega
  · intro flowId sequence record b hb
    have hin := (within_readXdpMetadata mem data flowId sequence record).touches hb
    rw [hstart] at hin
    omega
  · intro b hb
    have hin := (within_clearXdpMetadata mem data).touches hb
    rw [hstart] at hin
    omega

/-- The validation accepts a descriptor with an encoded offset. -/
theorem rx_descriptor_bounds_accesses_offset :
    validateRxDescriptor ⟨0x0100000000003000, 60, 0⟩ = .ok (0x3000, 0x3100)
      ∧ ∀ mem b, (clearXdpMetadata 0x3100).Touches mem b → b < 0x3100 := by
  refine ⟨by decide, fun mem b hb => ?_⟩
  have h := rx_descriptor_bounds_accesses ⟨0x0100000000003000, 60, 0⟩ 0x3000 0x3100 (by decide) mem
  exact (h.2.2.2.2.2.2 b hb).2.1

/-- **The results come from the packet's own chunk.** Two UMEM contents that agree on the chunk a
validated descriptor names give the model's functions the same headers, the same packet identity and
the same record; and the metadata is cleared nowhere but in that chunk. -/
theorem results_from_own_chunk {desc : XdpDesc} {fill data : UInt64}
    (h : validateRxDescriptor desc = .ok (fill, data)) {mem mem' : Nat → UInt8}
    (hmem : ∀ b, fill.toNat ≤ b → b < fill.toNat + frameSize → mem b = mem' b) :
    AceXdp.packetUdpInfo (packetView mem data.toNat) desc.len.toNat
        = AceXdp.packetUdpInfo (packetView mem' data.toNat) desc.len.toNat
      ∧ (∀ info, AceXdp.packetUdpInfo (packetView mem data.toNat) desc.len.toNat = some info →
          AceXdp.experimentPacketId (packetView mem data.toNat) info
            = AceXdp.experimentPacketId (packetView mem' data.toNat) info)
      ∧ (∀ flowId sequence record,
          AceXdp.readXdpMetadata mem data.toNat flowId sequence record
            = AceXdp.readXdpMetadata mem' data.toNat flowId sequence record)
      ∧ ∀ b, ¬(fill.toNat ≤ b ∧ b < fill.toNat + frameSize) →
          AceXdp.clearXdpMetadata mem data.toNat b = mem b := by
  have hchunk := validateRxDescriptor_inChunk h
  have hlow := hchunk.low
  have hhigh := hchunk.high
  have hpos := hchunk.nonempty
  refine ⟨?_, fun info hinfo => ?_, fun flowId sequence record => ?_, fun b hb => ?_⟩
  · have hrun : ((packetUdpInfo data.toNat desc.len.toNat).run mem).1
        = ((packetUdpInfo data.toNat desc.len.toNat).run mem').1 := by
      refine (run_congr _ fun b hb => ?_).1
      have hin := (within_packetUdpInfo mem _ _).touches hb
      exact hmem b (by omega) (by omega)
    rw [run_packetUdpInfo, run_packetUdpInfo] at hrun
    -- the payload is moved by the same address in both
    refine Option.map_injective (fun a b hab => ?_) hrun
    obtain ⟨_, _, _⟩ := a
    obtain ⟨_, _, _⟩ := b
    simpa using hab
  · have hmoved : ((packetUdpInfo data.toNat desc.len.toNat).run mem).1
        = some { info with payload := data.toNat + info.payload } := by
      rw [run_packetUdpInfo, hinfo]
      rfl
    obtain ⟨hlo, hhi⟩ := packetUdpInfo_payload hmoved
    have hrun : ((experimentPacketId { info with payload := data.toNat + info.payload }).run mem).1
        = ((experimentPacketId { info with payload := data.toNat + info.payload }).run mem').1 := by
      refine (run_congr _ fun b hb => ?_).1
      have hin := (within_experimentPacketId mem _).touches hb
      exact hmem b (by omega) (by omega)
    rwa [run_experimentPacketId, run_experimentPacketId] at hrun
  · have hrun : ((readXdpMetadata data flowId sequence record).run mem).1
        = ((readXdpMetadata data flowId sequence record).run mem').1 := by
      refine (run_congr _ fun b hb => ?_).1
      have hin := (within_readXdpMetadata mem data flowId sequence record).touches hb
      rw [hchunk.chunkStart_eq] at hin
      exact hmem b (by omega) (by omega)
    rwa [run_readXdpMetadata, run_readXdpMetadata] at hrun
  · have hout : ¬(clearXdpMetadata data).Touches mem b := by
      intro htouch
      have hin := (within_clearXdpMetadata mem data).touches htouch
      rw [hchunk.chunkStart_eq] at hin
      exact hb ⟨by omega, by omega⟩
    have hrun := run_untouched _ hout
    rwa [run_clearXdpMetadata] at hrun

end AceXdp.Machine
