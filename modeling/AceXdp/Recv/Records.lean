import AceXdp.Lib.Checked
import AceXdp.Recv.Classifier
import AceXdp.Recv.Umem

/-!
# AceXdp — what a batch stores, and which bytes of UMEM it touches

The packet loop of `receive_batch` clears the metadata of every frame while it walks the batch,
and every frame it reads later was not touched by that: a descriptor that passed
`validate_rx_descriptor` keeps to its own chunk, and the frames of a batch are distinct. So the
records of a batch are a function of UMEM as the call found it:

* `classifyPacket_congr`: the receiver's parser reads no byte past the packet;
* `consumeFrames_effect`: the records of a batch, in order, as far as the array has room; what
  it clears; when it reports no error;
* `receiveBatch_effect`: the same for a whole call.
-/

namespace AceXdp

open ByteView

/-! ## The parser stays inside the packet

Its offsets are compared with the length before they are used. -/

theorem packetUdpInfo_congr {v w : Nat → UInt8} {len : Nat} (hvw : ∀ i < len, v i = w i) :
    packetUdpInfo v len = packetUdpInfo w len := by
  have hsome : ∀ {v w : Nat → UInt8}, (∀ i < len, v i = w i) → ∀ info,
      packetUdpInfo v len = some info → packetUdpInfo w len = some info := by
    intro v w hvw info h
    rw [packetUdpInfo_eq_some_iff] at h ⊢
    obtain ⟨henv, rfl⟩ := h
    obtain ⟨henv', hdest, hlen, hoff, _⟩ := henv.congr hvw
    exact ⟨henv', by rw [hdest, hlen, hoff]⟩
  cases hv : packetUdpInfo v len with
  | some info => exact (hsome hvw info hv).symm
  | none =>
    cases hw : packetUdpInfo w len with
    | none => rfl
    | some info =>
      rw [hsome (fun i hi => (hvw i hi).symm) info hw] at hv
      cases hv

/-- **The classification depends on the bytes of the packet only.** -/
theorem classifyPacket_congr {v w : Nat → UInt8} {len : Nat} (hvw : ∀ i < len, v i = w i) :
    classifyPacket v len = classifyPacket w len := by
  unfold classifyPacket
  rw [← packetUdpInfo_congr hvw]
  cases hinfo : packetUdpInfo v len with
  | none => rfl
  | some info =>
    dsimp only
    obtain ⟨henv, rfl⟩ := (packetUdpInfo_eq_some_iff v len info).mp hinfo
    obtain ⟨_, _, _, hoff, hwire⟩ := henv.congr hvw
    have hid : experimentPacketId v ⟨udpOffset v + udpHeaderSize, udpLen v - udpHeaderSize, udpDest v⟩
        = experimentPacketId w
            ⟨udpOffset v + udpHeaderSize, udpLen v - udpHeaderSize, udpDest v⟩ := by
      unfold experimentPacketId
      dsimp only
      by_cases hshort : udpLen v - udpHeaderSize < packetHeaderSize
      · rw [if_pos hshort, if_pos hshort]
      · have hlow := henv.udpLenLow
        rw [← hoff, hwire (by omega), hoff]
    rw [hid]

/-! ## A validated descriptor keeps to its chunk

Address and length together stay in one chunk. -/

/-- Where the packet of a descriptor starts. -/
def XdpDesc.dataAddr (desc : XdpDesc) : Nat := addOffsetToAddr desc.addr

/-- The packet of a descriptor lies in the frame it names. -/
structure InFrame (desc : XdpDesc) : Prop where
  low : desc.frame * frameSize ≤ desc.dataAddr
  high : desc.dataAddr + desc.len.toNat ≤ (desc.frame + 1) * frameSize
  nonempty : 0 < desc.len.toNat

theorem validateRxDescriptor_inFrame {desc : XdpDesc} {a : RxAddresses}
    (h : validateRxDescriptor desc = .ok a) : a.dataAddr = desc.dataAddr ∧ InFrame desc := by
  unfold validateRxDescriptor at h
  dsimp only at h
  split at h
  · cases h
  · split at h
    · cases h
    · rename_i hrange
      split at h
      · cases h
      · rename_i hchunk
        cases h
        have hlen : desc.len.toNat ≠ 0 := fun h0 =>
          hrange (Or.inr (Or.inr (Or.inl (UInt32.toNat_inj.mp h0))))
        have hstart : chunkStart (extractAddr desc.addr) = desc.frame * frameSize := rfl
        rw [hstart] at hchunk
        refine ⟨rfl, ⟨?_, ?_, by omega⟩⟩
        · unfold XdpDesc.dataAddr
          omega
        · unfold XdpDesc.dataAddr
          rw [Nat.add_mul, Nat.one_mul]
          omega

theorem InFrame.div {desc : XdpDesc} (h : InFrame desc) {i : Nat} (hi : i < desc.len.toNat) :
    (desc.dataAddr + i) / frameSize = desc.frame := by
  obtain ⟨hlow, hhigh, _⟩ := h
  unfold frameSize at *
  omega

theorem InFrame.div_dataAddr {desc : XdpDesc} (h : InFrame desc) :
    desc.dataAddr / frameSize = desc.frame :=
  h.div h.nonempty

/-! ## The metadata area

It is in front of the packet and in the same chunk, so no other frame of the batch is touched when
it is cleared. -/

/-- The guard both metadata functions make keeps the area in the packet's frame. -/
theorem metadataAddr_some {addr m : Nat} (h : metadataAddr addr = some m) :
    addr = m + rxMetaSize ∧ ∀ i < rxMetaSize, (m + i) / frameSize = addr / frameSize := by
  have hsize : rxMetaSize = 56 := rfl
  unfold metadataAddr at h
  split at h
  · cases h
  · split at h
    · cases h
    · rename_i hlow hguard
      cases h
      unfold chunkStart at hguard
      refine ⟨by omega, fun i hi => ?_⟩
      unfold frameSize at *
      omega

theorem rxMetaAt_congr {mem mem' : Nat → UInt8} {m : Nat}
    (h : ∀ i < rxMetaSize, mem (m + i) = mem' (m + i)) : rxMetaAt mem m = rxMetaAt mem' m := by
  have hsize : rxMetaSize = 56 := rfl
  have hread : ∀ off n, off + n ≤ rxMetaSize → leNat mem (m + off) n = leNat mem' (m + off) n := by
    intro off n hoff
    refine leNat_congr n fun i hi => ?_
    rw [Nat.add_assoc]
    exact h (off + i) (by omega)
  unfold rxMetaAt
  rw [show leNat mem m 4 = leNat mem' m 4 from hread 0 4 (by omega), hread 4 2 (by omega),
    hread 6 2 (by omega), hread 8 4 (by omega), hread 12 4 (by omega), hread 16 8 (by omega),
    hread 24 8 (by omega), hread 32 8 (by omega), hread 40 8 (by omega), hread 48 4 (by omega),
    hread 52 2 (by omega), hread 54 2 (by omega)]

/-- Two memories with the same bytes in frame `f`. -/
def SameFrame (f : Nat) (mem mem' : Nat → UInt8) : Prop := ∀ j, j / frameSize = f → mem j = mem' j

theorem readXdpMetadata_congr {mem mem' : Nat → UInt8} {addr : Nat}
    (h : SameFrame (addr / frameSize) mem mem') (flowId : UInt32) (sequence : UInt64)
    (record : XskUserRecord) :
    readXdpMetadata mem addr flowId sequence record
      = readXdpMetadata mem' addr flowId sequence record := by
  unfold readXdpMetadata
  cases hm : metadataAddr addr with
  | none => rfl
  | some m =>
    dsimp only
    rw [rxMetaAt_congr fun i hi => h (m + i) ((metadataAddr_some hm).2 i hi)]

theorem clearXdpMetadata_other {mem : Nat → UInt8} {addr f : Nat} (hf : f ≠ addr / frameSize) :
    SameFrame f (clearXdpMetadata mem addr) mem := by
  intro j hj
  unfold clearXdpMetadata
  cases hm : metadataAddr addr with
  | none => rfl
  | some m =>
    refine if_neg fun hin => ?_
    have hdiv := (metadataAddr_some hm).2 (j - m) (by omega)
    rw [show m + (j - m) = j from by omega] at hdiv
    exact hf (hj ▸ hdiv)

/-- The metadata area of a packet at `addr` is all zero. -/
def MetadataClear (mem : Nat → UInt8) (addr : Nat) : Prop :=
  ∀ m, metadataAddr addr = some m → ∀ i < rxMetaSize, mem (m + i) = 0

theorem clearXdpMetadata_clear (mem : Nat → UInt8) (addr : Nat) :
    MetadataClear (clearXdpMetadata mem addr) addr := by
  intro m hm i hi
  unfold clearXdpMetadata
  rw [hm]
  exact if_pos (by omega)

theorem MetadataClear.congr {mem mem' : Nat → UInt8} {addr : Nat} (h : MetadataClear mem addr)
    (hsame : SameFrame (addr / frameSize) mem' mem) : MetadataClear mem' addr := by
  intro m hm i hi
  rw [hsame (m + i) ((metadataAddr_some hm).2 i hi)]
  exact h m hm i hi

/-! ## What the loop offers to the record array

A frame offers at most one record, made from its own bytes and the clocks of the batch. -/

/-- The record the loop offers for the `i`-th packet of a batch: none when its clocks cannot be
read or it is no experiment packet. -/
def offeredRecord (env : BatchEnv) (mem : Nat → UInt8) (i : Nat) (desc : XdpDesc) :
    Option XskUserRecord :=
  match env.clock i with
  | .error _ => none
  | .ok (mono, real) =>
    match classifyPacket (packetView mem desc.dataAddr) desc.len.toNat with
    | .experiment id => some (measuredRecord env mem desc.dataAddr id mono real desc.len).2
    | _ => none

def offeredRecords (env : BatchEnv) (mem : Nat → UInt8) : Nat → List XdpDesc → List XskUserRecord
  | _, [] => []
  | i, desc :: descs =>
    (offeredRecord env mem i desc).toList ++ offeredRecords env mem (i + 1) descs

/-- The clocks of the `n` packets from `i` on could all be read. -/
def ClocksRead (env : BatchEnv) (i n : Nat) : Prop := ∀ j < n, ∃ now, env.clock (i + j) = .ok now

theorem ClocksRead.succ_iff {env : BatchEnv} {i n : Nat} :
    ClocksRead env i (n + 1) ↔ (∃ now, env.clock i = .ok now) ∧ ClocksRead env (i + 1) n := by
  constructor
  · intro h
    refine ⟨h 0 (by omega), fun j hj => ?_⟩
    rw [show i + 1 + j = i + (j + 1) from by omega]
    exact h (j + 1) (by omega)
  · rintro ⟨hnow, h⟩ j hj
    cases j with
    | zero => exact hnow
    | succ j =>
      rw [show i + (j + 1) = i + 1 + j from by omega]
      exact h j (by omega)

theorem offeredRecord_congr {env : BatchEnv} {mem mem' : Nat → UInt8} {i : Nat} {desc : XdpDesc}
    (hin : InFrame desc) (hsame : SameFrame desc.frame mem mem') :
    offeredRecord env mem i desc = offeredRecord env mem' i desc := by
  have hclass : classifyPacket (packetView mem desc.dataAddr) desc.len.toNat
      = classifyPacket (packetView mem' desc.dataAddr) desc.len.toNat :=
    classifyPacket_congr fun j hj => hsame _ (hin.div hj)
  have hread : ∀ id mono real, measuredRecord env mem desc.dataAddr id mono real desc.len
      = measuredRecord env mem' desc.dataAddr id mono real desc.len := by
    intro id mono real
    refine readXdpMetadata_congr ?_ _ _ _
    rw [hin.div_dataAddr]
    exact hsame
  unfold offeredRecord
  simp only [hclass, hread]

theorem offeredRecords_congr {env : BatchEnv} {mem mem' : Nat → UInt8} :
    ∀ {descs : List XdpDesc} (i : Nat), (∀ desc ∈ descs, InFrame desc) →
      (∀ desc ∈ descs, SameFrame desc.frame mem mem') →
      offeredRecords env mem i descs = offeredRecords env mem' i descs
  | [], _, _, _ => rfl
  | desc :: descs, i, hin, hsame => by
    rw [offeredRecords, offeredRecords,
      offeredRecord_congr (hin desc (by simp)) (hsame desc (by simp)),
      offeredRecords_congr (i + 1) (fun d hd => hin d (List.mem_cons_of_mem _ hd))
        (fun d hd => hsame d (List.mem_cons_of_mem _ hd))]

/-! ## The packet loop

The records are stored in order, as long as the array has room. -/

theorem keepFirst_ne_none (batchError : Option BatchError) (err : BatchError) :
    keepFirst batchError err ≠ none := by
  cases batchError <;> simp [keepFirst]

/-- **One packet up to `recycle`.** UMEM is as before; the offered record is stored if there is
room; the error stays clear exactly when the clocks could be read and the record fits. -/
theorem measurePacket_effect (env : BatchEnv) (s : RecvState) (batchError : Option BatchError)
    (i : Nat) (desc : XdpDesc) {a : RxAddresses} (ha : a.dataAddr = desc.dataAddr) :
    let r := measurePacket env s batchError i desc a
    r.1.mem = s.mem
      ∧ r.1.records = s.records
          ++ (offeredRecord env s.mem i desc).toList.take (env.recordCapacity - s.records.length)
      ∧ r.1.counters.receivedPackets = s.counters.receivedPackets + 1
      ∧ (r.2 = none ↔ batchError = none ∧ (∃ now, env.clock i = .ok now)
          ∧ (offeredRecord env s.mem i desc).toList.length
              ≤ env.recordCapacity - s.records.length) := by
  unfold measurePacket offeredRecord
  cases hclock : env.clock i with
  | error errno => simp [keepFirst_ne_none]
  | ok now =>
    obtain ⟨mono, real⟩ := now
    dsimp only
    unfold recordPacket
    rw [ha]
    dsimp only
    cases hclass : classifyPacket (packetView s.mem desc.dataAddr) desc.len.toNat with
    | malformed => simp
    | unexpectedPort => simp
    | noExperiment => simp
    | experiment id =>
      dsimp only
      unfold storeRecord
      dsimp only
      by_cases hroom : s.records.length < env.recordCapacity
      · rw [if_pos hroom, List.take_of_length_le (by simp; omega), ha]
        simp
        omega
      · rw [if_neg hroom, show env.recordCapacity - s.records.length = 0 from by omega]
        simp [keepFirst_ne_none]

theorem recyclePacket_effect (s : RecvState) (batchError : Option BatchError) (a : RxAddresses) :
    let r := recyclePacket s batchError a
    r.1.mem = clearXdpMetadata s.mem a.dataAddr ∧ r.1.records = s.records
      ∧ r.1.counters.receivedPackets = s.counters.receivedPackets := by
  unfold recyclePacket
  dsimp only
  split <;> exact ⟨rfl, rfl, rfl⟩

/-- What the packet loop has done to a state over the packets of `descs`, the first of which has
index `i`. -/
structure BatchEffect (env : BatchEnv) (s s' : RecvState) (i : Nat) (descs : List XdpDesc) :
    Prop where
  records : s'.records = s.records
    ++ (offeredRecords env s.mem i descs).take (env.recordCapacity - s.records.length)
  received : s'.counters.receivedPackets = s.counters.receivedPackets + descs.length
  untouched : ∀ f, (∀ desc ∈ descs, desc.frame ≠ f) → SameFrame f s'.mem s.mem
  cleared : ∀ desc ∈ descs, MetadataClear s'.mem desc.dataAddr

/-- Storing `A` and then `B` into an array with room for `k` more is storing `A ++ B`. -/
theorem stored_append (l A B : List XskUserRecord) (cap : Nat) :
    (l ++ A.take (cap - l.length)) ++ B.take (cap - (l ++ A.take (cap - l.length)).length)
      = l ++ (A ++ B).take (cap - l.length) := by
  rw [List.append_assoc, List.take_append, List.length_append, List.length_take]
  congr 3
  omega

/-- **Spec of the packet loop**, for a batch of distinct, owned frames. Induction on the batch:
the frame cleared first is none of those read later. -/
theorem consumeFrames_effect (env : BatchEnv) (n : Nat) {descs : List XdpDesc}
    {taken : List RxAddresses}
    (hv : List.Forall₂ (fun desc a => validateRxDescriptor desc = .ok a) descs taken) :
    ∀ (s : RecvState) (batchError : Option BatchError) (i : Nat),
      (descs.map XdpDesc.frame).Nodup → (∀ desc ∈ descs, s.frameInKernel desc.frame = false) →
      s.userspaceOwned = n + descs.length →
      let r := consumeFrames env s batchError i (descs.zip taken)
      BatchEffect env s r.1 i descs
        ∧ (r.2 = none ↔ batchError = none ∧ ClocksRead env i descs.length
          ∧ (offeredRecords env s.mem i descs).length
              ≤ env.recordCapacity - s.records.length) := by
  induction hv with
  | nil =>
    intro s batchError i _ _ _
    refine ⟨⟨by simp [consumeFrames, offeredRecords], rfl, fun _ _ _ _ => rfl, by simp⟩, ?_⟩
    simp [consumeFrames, offeredRecords, ClocksRead]
  | @cons desc a descs taken hva hv ih =>
    intro s batchError i hnodup hflags howned
    obtain ⟨ha, hin⟩ := validateRxDescriptor_inFrame hva
    obtain ⟨_, haframe, _⟩ := validateRxDescriptor_ok hva
    obtain ⟨hmem₁, hrec₁, hcount₁, herr₁⟩ := measurePacket_effect env s batchError i desc ha
    have hown₁ := measurePacket_ownership env s batchError i desc a
    have hcons : consumeFrames env s batchError i (List.zip (desc :: descs) (a :: taken))
        = consumeFrames env
            (recyclePacket (measurePacket env s batchError i desc a).1
              (measurePacket env s batchError i desc a).2 a).1
            (recyclePacket (measurePacket env s batchError i desc a).1
              (measurePacket env s batchError i desc a).2 a).2 (i + 1) (descs.zip taken) := rfl
    rw [hcons]
    generalize (measurePacket env s batchError i desc a).1 = s₁ at hmem₁ hrec₁ hcount₁ hown₁
    generalize (measurePacket env s batchError i desc a).2 = b₁ at herr₁
    rw [List.map_cons, List.nodup_cons] at hnodup
    rw [List.length_cons] at howned
    have hflag₁ : s₁.frameInKernel a.frame = false := by
      rw [hown₁.flags, haframe]
      exact hflags desc (by simp)
    obtain ⟨hb₂, _, _, hflags₂, howned₂, _⟩ :=
      recyclePacket_owned s₁ b₁ a hflag₁ (by rw [hown₁.owned]; omega)
    obtain ⟨hmem₂, hrec₂, hcount₂⟩ := recyclePacket_effect s₁ b₁ a
    -- the frame just cleared is none of the remaining ones
    have hne : ∀ d ∈ descs, d.frame ≠ desc.frame := fun d hd heq =>
      hnodup.1 (heq ▸ List.mem_map.mpr ⟨d, hd, rfl⟩)
    have hother : ∀ f, f ≠ desc.frame → SameFrame f (recyclePacket s₁ b₁ a).1.mem s.mem := by
      intro f hf
      rw [hmem₂, hmem₁, ha]
      exact clearXdpMetadata_other (by rwa [hin.div_dataAddr])
    have hinAll : ∀ d ∈ descs, InFrame d := by
      intro d hd
      obtain ⟨b, _, hvb⟩ := Checked.exists_of_mem_left hv hd
      exact (validateRxDescriptor_inFrame hvb).2
    obtain ⟨heff, herr⟩ := ih (recyclePacket s₁ b₁ a).1 (recyclePacket s₁ b₁ a).2 (i + 1)
      hnodup.2
      (by
        intro d hd
        rw [hflags₂, haframe, Function.update_of_ne (hne d hd), hown₁.flags]
        exact hflags d (List.mem_cons_of_mem _ hd))
      (by rw [howned₂, hown₁.owned]; omega)
    have hoff : offeredRecords env (recyclePacket s₁ b₁ a).1.mem (i + 1) descs
        = offeredRecords env s.mem (i + 1) descs :=
      offeredRecords_congr (i + 1) hinAll fun d hd => hother d.frame (hne d hd)
    refine ⟨⟨?_, ?_, ?_, ?_⟩, ?_⟩
    · rw [heff.records, hoff, hrec₂, hrec₁, stored_append, offeredRecords]
    · rw [heff.received, hcount₂, hcount₁, List.length_cons]
      omega
    · intro f hf j hj
      rw [heff.untouched f (fun d hd => hf d (List.mem_cons_of_mem _ hd)) j hj]
      exact hother f (fun heq => hf desc (by simp) heq.symm) j hj
    · intro d hd
      rcases List.mem_cons.mp hd with rfl | hd
      · have hclear : MetadataClear (recyclePacket s₁ b₁ a).1.mem d.dataAddr := by
          rw [hmem₂, ha]
          exact clearXdpMetadata_clear _ _
        refine hclear.congr ?_
        rw [hin.div_dataAddr]
        exact heff.untouched _ hne
      · exact heff.cleared d hd
    · rw [herr, hb₂, herr₁, hoff, hrec₂, hrec₁, List.length_cons, ClocksRead.succ_iff,
        offeredRecords, List.length_append, List.length_append, List.length_take]
      constructor
      · rintro ⟨⟨hb, hnow, hfit⟩, hclocks, hfits⟩
        exact ⟨hb, ⟨hnow, hclocks⟩, by omega⟩
      · rintro ⟨hb, ⟨hnow, hclocks⟩, hfits⟩
        exact ⟨⟨hb, hnow, by omega⟩, hclocks, by omega⟩

/-! ## The whole call

A call appends the records of its batch. -/

/-- The call left UMEM, the rings, the records and the packet counts as they were. -/
structure Unconsumed (s s' : RecvState) : Prop where
  mem : s'.mem = s.mem
  fill : s'.fill = s.fill
  rx : s'.rx = s.rx
  records : s'.records = s.records
  received : s'.counters.receivedPackets = s.counters.receivedPackets
  recycled : s'.counters.recycledFrames = s.counters.recycledFrames

/-- The call consumed the peeked batch. -/
structure Consumed (env : BatchEnv) (s : RecvState) (taken : List RxAddresses) : Prop where
  recycles : Recycled s (receiveBatch env s).1 (s.rx.take rxBatchSize) taken
  distinct : ((s.rx.take rxBatchSize).map XdpDesc.frame).Nodup
  inFrame : ∀ desc ∈ s.rx.take rxBatchSize, InFrame desc
  effect : BatchEffect env s (receiveBatch env s).1 0 (s.rx.take rxBatchSize)
  ok_iff : (∃ n, (receiveBatch env s).2 = .ok n) ↔
    ClocksRead env 0 (s.rx.take rxBatchSize).length
      ∧ (offeredRecords env s.mem 0 (s.rx.take rxBatchSize)).length
          ≤ env.recordCapacity - s.records.length

/-- How many RX entries a call consumes. -/
def consumedCount (env : BatchEnv) (s : RecvState) : Nat :=
  s.rx.length - (receiveBatch env s).1.rx.length

theorem Unconsumed.count {env : BatchEnv} {s : RecvState}
    (h : Unconsumed s (receiveBatch env s).1) : consumedCount env s = 0 := by
  rw [consumedCount, h.rx, Nat.sub_self]

theorem Consumed.count {env : BatchEnv} {s : RecvState} {taken : List RxAddresses}
    (h : Consumed env s taken) : consumedCount env s = (s.rx.take rxBatchSize).length := by
  rw [consumedCount, h.recycles.rx, List.length_drop, List.length_take]
  omega

theorem finishBatch_effect (env : BatchEnv) {s₀ s : RecvState} {descs : List XdpDesc}
    {taken : List RxAddresses} (howned : s₀.userspaceOwned = 0) (ht : Taken s₀ s taken)
    (hv : List.Forall₂ (fun desc a => validateRxDescriptor desc = .ok a) descs taken)
    (hframes : descs.map XdpDesc.frame = taken.map RxAddresses.frame) :
    BatchEffect env s₀ (finishBatch env s descs taken).1 0 descs
      ∧ ((∃ n, (finishBatch env s descs taken).2 = .ok n) ↔
        ClocksRead env 0 descs.length
          ∧ (offeredRecords env s₀.mem 0 descs).length
              ≤ env.recordCapacity - s₀.records.length) := by
  have hlen : descs.length = taken.length := hv.length_eq
  have hflags : ∀ desc ∈ descs, s.frameInKernel desc.frame = false := by
    intro desc hd
    have hmem : desc.frame ∈ taken.map RxAddresses.frame := by
      rw [← hframes]
      exact List.mem_map.mpr ⟨desc, hd, rfl⟩
    rw [ht.flags, decide_eq_true hmem]
    simp
  have hnodup : (descs.map XdpDesc.frame).Nodup := by rw [hframes]; exact ht.distinct
  obtain ⟨heff, herr⟩ := consumeFrames_effect env 0 hv s none 0 hnodup hflags
    (by rw [ht.owned, howned, hlen])
  obtain ⟨-, -, -, -, how, -⟩ := consumeFrames_spec env 0 (descs.zip taken) s none 0
    (by intro e he; cases he) (by rw [zip_frames hlen]; exact ht.distinct) (ht.zip_flags hlen)
    (by rw [ht.owned, howned, List.length_zip]; omega)
  have hs : s.mem = s₀.mem ∧ s.records = s₀.records ∧ s.counters = s₀.counters := by
    rw [ht.rest]
    exact ⟨rfl, rfl, rfl⟩
  unfold finishBatch
  generalize consumeFrames env s none 0 (descs.zip taken) = r at heff herr how
  obtain ⟨s', batchError⟩ := r
  dsimp only at heff herr how ⊢
  rw [if_neg (by simpa using how)]
  rw [hs.1, hs.2.1] at herr
  have heff' : BatchEffect env s₀ { s' with
      rx := s'.rx.drop descs.length, fill := s'.fill ++ taken.map RxAddresses.fillAddr } 0 descs :=
    ⟨by rw [heff.records, hs.1, hs.2.1], by rw [heff.received, hs.2.2],
      by rw [← hs.1]; exact heff.untouched, heff.cleared⟩
  cases batchError with
  | none => exact ⟨heff', ⟨fun _ => (herr.mp rfl).2, fun _ => ⟨_, rfl⟩⟩⟩
  | some err =>
    refine ⟨heff', ?_, ?_⟩
    · rintro ⟨n, hn⟩
      cases hn
    · intro h
      cases herr.mpr ⟨rfl, h⟩

/-- **Inversion of `receive_batch`**, with its records and its UMEM: a call either consumes
nothing, and then reports `0` or a rejected batch, or consumes the whole peeked batch. -/
theorem receiveBatch_effect (env : BatchEnv) (s : RecvState) (h : s.userspaceOwned = 0) :
    (Unconsumed s (receiveBatch env s).1
        ∧ ((receiveBatch env s).2 = .ok 0 ∨ ∃ err, (receiveBatch env s).2 = .error err))
      ∨ ∃ taken, Consumed env s taken := by
  rcases receiveBatch_cases env s h with
    he | ⟨err, _, he⟩ | he | ⟨he, _⟩ | ⟨taken, hr, _, s₁, ht, heq⟩
  · rw [he]
    exact Or.inl ⟨⟨rfl, rfl, rfl, rfl, rfl, rfl⟩, Or.inl rfl⟩
  · rw [he]
    exact Or.inl ⟨⟨rfl, rfl, rfl, rfl, rfl, rfl⟩, Or.inr ⟨_, rfl⟩⟩
  · rw [he]
    exact Or.inl ⟨⟨rfl, rfl, rfl, rfl, rfl, rfl⟩, Or.inr ⟨_, rfl⟩⟩
  · rw [he]
    exact Or.inl ⟨⟨rfl, rfl, rfl, rfl, rfl, rfl⟩, Or.inr ⟨_, rfl⟩⟩
  · right
    have hframes : (s.rx.take rxBatchSize).map XdpDesc.frame = taken.map RxAddresses.frame :=
      taken_frames hr.valid
    obtain ⟨heff, hok⟩ := finishBatch_effect env h ht hr.valid hframes
    rw [← heq] at heff hok
    refine ⟨taken, hr, by rw [hframes]; exact ht.distinct, ?_, heff, hok⟩
    intro desc hd
    obtain ⟨a, _, hva⟩ := Checked.exists_of_mem_left hr.valid hd
    exact (validateRxDescriptor_inFrame hva).2

end AceXdp
