import AceXdp.Kern.Accounting
import AceXdp.Recv.Batch

/-!
# AceXdp — the two classifiers agree

`parse_experiment_packet` (BPF) and `packet_udp_info` + `experiment_packet_id` (AF_XDP receiver)
check the same envelope in different orders and with different subtractions. Both are brought
to one normal form, `UdpEnvelope`, and compared there:

* `packetUdpInfo_eq_some_iff` and `parseExperimentPacket_eq_experiment_iff`: each parser accepts
  exactly the frames with a good envelope (and, for the BPF parser, port and header);
* `classifiers_agree`: class XSK in the kernel is class experiment in the receiver, same key.
-/

namespace AceXdp

open ByteView

/-! ## The common envelope -/

/-- An unfragmented IPv4/UDP packet whose declared lengths fit into each other and into the
`len` bytes of the frame. Trailing padding is allowed. -/
structure UdpEnvelope (pkt : Nat → UInt8) (len : Nat) : Prop where
  proto : ethProto pkt = ethPIp
  version : ipVersion pkt = 4
  headerLen : ipHeaderSize ≤ ipHeaderLen pkt
  unfragmented : ipFragOff pkt &&& ipv4FragmentMask = 0
  protocol : ipProtocol pkt = ipprotoUdp
  totLen : ethHeaderSize + ipTotLen pkt ≤ len
  udpLenLow : udpHeaderSize ≤ udpLen pkt
  udpLenHigh : ipHeaderLen pkt + udpLen pkt ≤ ipTotLen pkt

theorem ipMfOrOffset_eq : ipMfOrOffset = ipv4FragmentMask := by decide

/-- **`packet_udp_info` accepts exactly the good envelopes.** -/
theorem packetUdpInfo_eq_some_iff (pkt : Nat → UInt8) (len : Nat) (info : UdpPacketInfo) :
    packetUdpInfo pkt len = some info ↔ UdpEnvelope pkt len ∧ info =
      ⟨udpOffset pkt + udpHeaderSize, udpLen pkt - udpHeaderSize, udpDest pkt⟩ := by
  unfold packetUdpInfo
  rw [ipMfOrOffset_eq]
  constructor
  · intro h
    -- the checks in the order of the function; each failed one returns `none`
    split at h; · cases h
    split at h; · cases h
    split at h; · cases h
    split at h; · cases h
    split at h; · cases h
    split at h; · cases h
    split at h; · cases h
    split at h; · cases h
    rename_i hlen hproto hip hver hfrag hudp htot hulen
    simp only [ethHeaderSize, ipHeaderSize, udpHeaderSize] at *
    refine ⟨⟨by omega, by omega, by simp only [ipHeaderSize]; omega, by omega, by omega,
      by simp only [ethHeaderSize]; omega, by simp only [udpHeaderSize]; omega, by omega⟩, ?_⟩
    exact (Option.some.inj h).symm
  · rintro ⟨⟨hproto, hver, hhl, hfrag, hprot, htot, hlow, hhigh⟩, rfl⟩
    have heth : ethHeaderSize = 14 := rfl
    have hip : ipHeaderSize = 20 := rfl
    have hudp : udpHeaderSize = 8 := rfl
    rw [if_neg (show ¬len < ethHeaderSize from by omega), if_neg (not_not.mpr hproto),
      if_neg (show ¬len < ethHeaderSize + ipHeaderSize from by omega),
      if_neg (show ¬(ipVersion pkt ≠ 4 ∨ ipHeaderLen pkt < 5 * 4 ∨ ipProtocol pkt ≠ ipprotoUdp)
        from by omega),
      if_neg (not_not.mpr hfrag),
      if_neg (show ¬len < ethHeaderSize + ipHeaderLen pkt + udpHeaderSize from by omega),
      if_neg (show ¬(ipTotLen pkt < ipHeaderLen pkt + udpHeaderSize ∨
        ipTotLen pkt > len - ethHeaderSize) from by omega),
      if_neg (show ¬(udpLen pkt < udpHeaderSize ∨ udpLen pkt > ipTotLen pkt - ipHeaderLen pkt)
        from by omega)]
    rfl

/-- **`parse_experiment_packet` accepts exactly the good envelopes** with an experiment port and
a valid header inside the UDP payload. -/
theorem parseExperimentPacket_eq_experiment_iff (pkt : Nat → UInt8) (len : Nat)
    (key : PacketKey) (path : RequestedPath) :
    parseExperimentPacket pkt len = .experiment key path ↔
      UdpEnvelope pkt len ∧ classifyPort (udpDest pkt) = some path
        ∧ udpHeaderSize + packetHeaderSize ≤ udpLen pkt
        ∧ (wireHeaderAt pkt (udpOffset pkt + udpHeaderSize)).isExperiment
        ∧ key = ⟨(wireHeaderAt pkt (udpOffset pkt + udpHeaderSize)).flowId, 0,
            (wireHeaderAt pkt (udpOffset pkt + udpHeaderSize)).sequence⟩ := by
  unfold parseExperimentPacket
  constructor
  · intro h
    split at h; · cases h
    split at h; · cases h
    split at h; · cases h
    split at h; · cases h
    split at h; · cases h
    split at h; · cases h
    split at h; · cases h
    split at h; · cases h
    split at h; · cases h
    split at h; · cases h
    -- the ten checks of the envelope have passed
    rename_i hlen hproto hip hver hbounds hfrag hprot htot hudp hulen
    have henv : UdpEnvelope pkt len := by
      simp only [udpOffset, ethHeaderSize, ipHeaderSize, udpHeaderSize] at *
      exact ⟨by omega, by omega, by simp only [ipHeaderSize]; omega, by omega, by omega,
        by simp only [ethHeaderSize]; omega, by simp only [udpHeaderSize]; omega, by omega⟩
    refine ⟨henv, ?_⟩
    split at h
    · cases h
    · rename_i path' hport
      unfold parseUdpPayload at h
      dsimp only at h
      split at h
      · cases h
      · split at h
        · cases h
        · rename_i hsize hexp
          simp only [ParseResult.experiment.injEq] at h
          obtain ⟨hkey, rfl⟩ := h
          exact ⟨hport, by omega, not_not.mp hexp, hkey.symm⟩
  · rintro ⟨⟨hproto, hver, hhl, hfrag, hprot, htot, hlow, hhigh⟩, hport, hsize, hexp, rfl⟩
    have heth : ethHeaderSize = 14 := rfl
    have hip : ipHeaderSize = 20 := rfl
    have hudp : udpHeaderSize = 8 := rfl
    have hoff : udpOffset pkt = ethHeaderSize + ipHeaderLen pkt := rfl
    have hpayload : parseUdpPayload pkt len path = .experiment
        ⟨(wireHeaderAt pkt (udpOffset pkt + udpHeaderSize)).flowId, 0,
          (wireHeaderAt pkt (udpOffset pkt + udpHeaderSize)).sequence⟩ path := by
      unfold parseUdpPayload
      dsimp only
      rw [if_neg (show ¬(udpLen pkt < udpHeaderSize + packetHeaderSize ∨
        len < udpOffset pkt + udpHeaderSize + packetHeaderSize) from by omega),
        if_neg (not_not.mpr hexp)]
    rw [if_neg (show ¬len < ethHeaderSize from by omega), if_neg (not_not.mpr hproto),
      if_neg (show ¬len < ethHeaderSize + ipHeaderSize from by omega),
      if_neg (show ¬(ipVersion pkt ≠ 4 ∨ ipHeaderLen pkt < 5 * 4) from by omega),
      if_neg (show ¬(ipTotLen pkt < ipHeaderLen pkt ∨ len < ethHeaderSize + ipHeaderLen pkt ∨
        len < ethHeaderSize + ipTotLen pkt) from by omega),
      if_neg (not_not.mpr hfrag), if_neg (not_not.mpr hprot),
      if_neg (show ¬ipTotLen pkt < ipHeaderLen pkt + udpHeaderSize from by omega),
      if_neg (show ¬len < udpOffset pkt + udpHeaderSize from by omega),
      if_neg (show ¬(udpLen pkt < udpHeaderSize ∨ udpLen pkt > ipTotLen pkt - ipHeaderLen pkt ∨
        len < udpOffset pkt + udpLen pkt) from by omega), hport]
    exact hpayload

theorem classifyPort_xsk_iff (dest : Nat) : classifyPort dest = some .xsk ↔ dest = xskPort := by
  unfold classifyPort
  split
  · rename_i h; simp [h, passPort, xskPort]
  · split
    · rename_i h; simp [h, rtPort, xskPort]
    · split
      · rename_i h; simp [h]
      · rename_i h; simp [h]

/-! ## Agreement -/

/-- **`experiment_packet_id` on an accepted envelope.** It looks at the same header. -/
theorem experimentPacketId_eq_some_iff (pkt : Nat → UInt8) (id : ExperimentId) :
    experimentPacketId pkt ⟨udpOffset pkt + udpHeaderSize, udpLen pkt - udpHeaderSize, udpDest pkt⟩
        = some id ↔
      udpHeaderSize + packetHeaderSize ≤ udpLen pkt
        ∧ (wireHeaderAt pkt (udpOffset pkt + udpHeaderSize)).isExperiment
        ∧ id = ⟨(wireHeaderAt pkt (udpOffset pkt + udpHeaderSize)).flowId,
            (wireHeaderAt pkt (udpOffset pkt + udpHeaderSize)).sequence,
            (wireHeaderAt pkt (udpOffset pkt + udpHeaderSize)).txRealtimeNs.toInt64⟩ := by
  have hpos : packetHeaderSize = 32 := rfl
  unfold experimentPacketId
  dsimp only
  constructor
  · intro h
    split at h
    · cases h
    · split at h
      · cases h
      · rename_i hlen hexp
        exact ⟨by omega, not_not.mp hexp, (Option.some.inj h).symm⟩
  · rintro ⟨hlen, hexp, rfl⟩
    rw [if_neg (by omega), if_neg (not_not.mpr hexp)]

/-- **The classifiers agree**, on any byte view and any length. -/
theorem parse_xsk_iff (pkt : Nat → UInt8) (len : Nat) (key : PacketKey) :
    parseExperimentPacket pkt len = .experiment key .xsk ↔
      ∃ info id, packetUdpInfo pkt len = some info ∧ info.destinationPort = xskPort
        ∧ experimentPacketId pkt info = some id ∧ key = ⟨id.flowId, 0, id.sequence⟩ := by
  rw [parseExperimentPacket_eq_experiment_iff, classifyPort_xsk_iff]
  constructor
  · rintro ⟨henv, hport, hsize, hexp, rfl⟩
    exact ⟨_, _, (packetUdpInfo_eq_some_iff pkt len _).mpr ⟨henv, rfl⟩, hport,
      (experimentPacketId_eq_some_iff pkt _).mpr ⟨hsize, hexp, rfl⟩, rfl⟩
  · rintro ⟨info, id, hinfo, hport, hid, rfl⟩
    obtain ⟨henv, rfl⟩ := (packetUdpInfo_eq_some_iff pkt len info).mp hinfo
    obtain ⟨hsize, hexp, rfl⟩ := (experimentPacketId_eq_some_iff pkt id).mp hid
    exact ⟨henv, hport, hsize, hexp, rfl⟩

/-- What the kernel parses as class XSK the receive loop classifies as an experiment packet with
the same key. -/
theorem classifyPacket_of_parse_xsk (pkt : Nat → UInt8) (len : Nat) (key : PacketKey)
    (h : parseExperimentPacket pkt len = .experiment key .xsk) :
    ∃ id, classifyPacket pkt len = .experiment id ∧ id.flowId = key.flowId
      ∧ id.sequence = key.sequence := by
  obtain ⟨info, id, hinfo, hport, hid, rfl⟩ := (parse_xsk_iff pkt len key).mp h
  refine ⟨id, ?_, rfl, rfl⟩
  unfold classifyPacket
  rw [hinfo]
  dsimp only
  rw [if_neg (not_not.mpr hport), hid]

/-! ## What the receiver records -/

/-- The header fields of a good envelope lie inside the frame, so any view that agrees with it
on the frame's bytes has the same envelope, port and experiment header. -/
theorem UdpEnvelope.congr {v w : Nat → UInt8} {len : Nat} (h : UdpEnvelope v len)
    (hvw : ∀ i < len, v i = w i) :
    UdpEnvelope w len ∧ udpDest w = udpDest v ∧ udpLen w = udpLen v
      ∧ udpOffset w = udpOffset v
      ∧ (udpHeaderSize + packetHeaderSize ≤ udpLen v →
        wireHeaderAt w (udpOffset w + udpHeaderSize)
          = wireHeaderAt v (udpOffset v + udpHeaderSize)) := by
  obtain ⟨hproto, hver, hhl, hfrag, hprot, htot, hlow, hhigh⟩ := h
  have heth : ethHeaderSize = 14 := rfl
  have hip : ipHeaderSize = 20 := rfl
  have hudp : udpHeaderSize = 8 := rfl
  have hpk : packetHeaderSize = 32 := rfl
  have hread : ∀ off n, off + n ≤ len → beNat w off n = beNat v off n := fun off n hoff =>
    beNat_congr n fun i hi => (hvw (off + i) (by omega)).symm
  have hhdr : ipHeaderLen w = ipHeaderLen v := by
    unfold ipHeaderLen; rw [hvw 14 (by omega)]
  have hoff : udpOffset w = udpOffset v := by unfold udpOffset; rw [hhdr]
  have hoffv : udpOffset v = ethHeaderSize + ipHeaderLen v := rfl
  have hlen : udpLen w = udpLen v := by
    unfold udpLen; rw [hoff, hread _ _ (by omega)]
  have htotal : ipTotLen w = ipTotLen v := hread _ _ (by omega)
  refine ⟨⟨?_, ?_, ?_, ?_, ?_, ?_, ?_, ?_⟩, ?_, hlen, hoff, ?_⟩
  · rw [← hproto]; exact hread _ _ (by omega)
  · rw [← hver]; unfold ipVersion; rw [hvw 14 (by omega)]
  · rw [hhdr]; exact hhl
  · rw [← hfrag, show ipFragOff w = ipFragOff v from hread _ _ (by omega)]
  · rw [← hprot]; unfold ipProtocol; rw [hvw 23 (by omega)]
  · rw [htotal]; exact htot
  · rw [hlen]; exact hlow
  · rw [hlen, htotal, hhdr]; exact hhigh
  · unfold udpDest; rw [hoff, hread _ _ (by omega)]
  · intro hsize
    rw [hoff]
    unfold wireHeaderAt
    simp only [WireHeader.mk.injEq]
    refine ⟨hread _ _ ?_, hread _ _ ?_, hread _ _ ?_, ?_, hread _ _ ?_, ?_, ?_⟩
    · omega
    · omega
    · omega
    · rw [hread _ _ (by omega)]
    · omega
    · rw [hread _ _ (by omega)]
    · rw [hread _ _ (by omega)]

theorem parse_experiment_congr {v w : Nat → UInt8} {len : Nat} (hvw : ∀ i < len, v i = w i)
    {key : PacketKey} {path : RequestedPath}
    (h : parseExperimentPacket v len = .experiment key path) :
    parseExperimentPacket w len = .experiment key path := by
  rw [parseExperimentPacket_eq_experiment_iff] at h ⊢
  obtain ⟨henv, hport, hsize, hexp, rfl⟩ := h
  obtain ⟨henv', hdest, hlen, _, hwire⟩ := henv.congr hvw
  rw [hwire hsize, hdest, hlen]
  exact ⟨henv', hport, hsize, hexp, rfl⟩

theorem effective_xsk (mode : ForwardingMode) (classified : RequestedPath)
    (h : effectiveRequestedPath mode classified = .xsk) : classified = .xsk := by
  unfold effectiveRequestedPath at h
  split at h
  · cases h
  · exact h

/-- The packet loop appends the measured record of an experiment packet when the clocks could be
read and there is room. -/
theorem measurePacket_records (env : BatchEnv) (s : RecvState) (batchError : Option BatchError)
    (i : Nat) (desc : XdpDesc) (a : RxAddresses) {now : UInt64 × Int64} {id : ExperimentId}
    (hclock : env.clock i = .ok now) (hroom : s.records.length < env.recordCapacity)
    (hclass : classifyPacket (packetView s.mem a.dataAddr) desc.len.toNat = .experiment id) :
    (measurePacket env s batchError i desc a).1.records
      = s.records ++ [(measuredRecord env s.mem a.dataAddr id now.1 now.2 desc.len).2] := by
  unfold measurePacket
  rw [hclock]
  dsimp only
  unfold recordPacket
  rw [show classifyPacket (packetView s.mem a.dataAddr) desc.len.toNat = .experiment id from hclass]
  dsimp only
  unfold storeRecord
  rw [if_pos hroom]

/-- **Kernel and user-space classifiers agree.** For every byte string taken as a frame, the BPF
parser returns class XSK exactly when the receiver's parser accepts the same bytes with port
9002 and a valid experiment header, with the same key. And every frame `xdp_dispatch` redirects
to the XSK is recorded under its key by the packet loop: once its bytes stand in UMEM, the
clocks can be read and the record array has room, the loop appends a record with that key. -/
theorem classifiers_agree (bytes : List UInt8) :
    (∀ key, parseExperimentPacket (frameView bytes) bytes.length = .experiment key .xsk ↔
        ∃ info id, packetUdpInfo (frameView bytes) bytes.length = some info
          ∧ info.destinationPort = xskPort
          ∧ experimentPacketId (frameView bytes) info = some id
          ∧ key = ⟨id.flowId, 0, id.sequence⟩)
      ∧ ∀ {ncpu N : Nat} (mode : ForwardingMode) (s : KernState ncpu N) (ctx : XdpMd ncpu),
        ctx.frame = bytes → (xdpDispatch mode s ctx).2.action = .redirect →
        ∀ rx, (xdpDispatch mode s ctx).2.rxMeta = some rx →
        rx.requestedPath = RequestedPath.xsk.code →
        ∃ id, classifyPacket (frameView bytes) bytes.length = .experiment id
          ∧ id.flowId = rx.flowId ∧ id.sequence = rx.sequence
          ∧ ∀ env r batchError i desc a now, env.clock i = .ok now →
            r.records.length < env.recordCapacity → desc.len.toNat = bytes.length →
            (∀ j < bytes.length, packetView r.mem a.dataAddr j = frameView bytes j) →
            ∃ record, (measurePacket env r batchError i desc a).1.records
                = r.records ++ [record]
              ∧ record.flowId = rx.flowId ∧ record.sequence = rx.sequence := by
  refine ⟨fun key => parse_xsk_iff _ _ key, ?_⟩
  intro ncpu N mode s ctx hframe hredirect rx hrx hpath
  obtain ⟨key, classified, hparsed, hmeta, heff⟩ := xdpDispatch_redirect mode s ctx hredirect
  rw [hmeta] at hrx
  obtain ⟨hflow, hseq, hcode⟩ :=
    measurementMeta_key ctx key (effectiveRequestedPath mode classified)
  rw [Option.some.inj hrx] at hflow hseq hcode
  -- the metadata's path code is XSK only for the path XSK
  have hxsk : effectiveRequestedPath mode classified = .xsk := by
    rcases heff with h | h
    · rw [h, hpath] at hcode
      cases hcode
    · exact h
  rw [effective_xsk mode classified hxsk, XdpMd.parsed, hframe] at hparsed
  obtain ⟨id, hclass, hidflow, hidseq⟩ := classifyPacket_of_parse_xsk _ _ _ hparsed
  refine ⟨id, hclass, by rw [hidflow, hflow], by rw [hidseq, hseq], ?_⟩
  intro env r batchError i desc a now hclock hroom hlen hbytes
  have hparsed' := parse_experiment_congr (fun j hj => (hbytes j hj).symm) hparsed
  obtain ⟨id', hclass', hidflow', hidseq'⟩ := classifyPacket_of_parse_xsk _ _ _ hparsed'
  rw [← hlen] at hclass'
  obtain ⟨hrflow, hrseq⟩ := readXdpMetadata_identity r.mem a.dataAddr id'.flowId id'.sequence
    (userRecord env id' now.1 now.2 desc.len)
  refine ⟨_, measurePacket_records env r batchError i desc a hclock hroom hclass', ?_, ?_⟩
  · rw [hflow, ← hidflow']; exact hrflow
  · rw [hseq, ← hidseq']; exact hrseq

end AceXdp
