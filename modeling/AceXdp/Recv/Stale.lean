import AceXdp.Recv.Records

/-!
# AceXdp — no stale XDP metadata

Frames are used again and again and keys may repeat, so a record must not take over metadata
that an earlier use left in front of the packet. The system below is `umemSystem` with an honest
kernel, and remembers each use of a frame: what the kernel copied and whether it wrote metadata.

* `UseInv`: a frame that is not on the RX ring has a cleared metadata area, a frame on it has
  what the kernel wrote for this very use;
* `no_stale_metadata`: in every reachable state every record is fresh.
-/

namespace AceXdp

open Transition

/-! ## Uses of a frame

A chunk is used again and again. Each use starts with what the one before has left in it, metadata
included. -/

/-- One use of a frame: its descriptor, the packet bytes the kernel copied, and the metadata it
wrote in front of them, if any. -/
structure FrameUse where
  desc : XdpDesc
  packet : Nat → UInt8
  wrote : Option RxMeta

/-- The kernel uses the frame of `u`: the data goes to a fixed offset of the frame, nothing
outside the frame changes, and of the 56 bytes before the data all are written or none. -/
structure KernelWrites (offset : Nat) (u : FrameUse) (mem mem' : Nat → UInt8) : Prop where
  place : u.desc.dataAddr = u.desc.frame * frameSize + offset
  packet : ∀ i < u.desc.len.toNat, packetView mem' u.desc.dataAddr i = u.packet i
  outside : ∀ f, f ≠ u.desc.frame → SameFrame f mem' mem
  all : ∀ rx, u.wrote = some rx →
    rxMetaSize ≤ offset ∧ rxMetaAt mem' (u.desc.dataAddr - rxMetaSize) = rx
  none : u.wrote = none →
    ∀ j, j < u.desc.dataAddr → u.desc.dataAddr ≤ j + rxMetaSize → mem' j = mem j

/-- The loop offers a record for this use, the `i`-th of its batch. -/
def FrameUse.measured (env : BatchEnv) (i : Nat) (u : FrameUse) : Bool :=
  match env.clock i, classifyPacket u.packet u.desc.len.toNat with
  | .ok _, .experiment _ => true
  | _, _ => false

def measuredUses (env : BatchEnv) : Nat → List FrameUse → List FrameUse
  | _, [] => []
  | i, u :: us => (if u.measured env i then [u] else []) ++ measuredUses env (i + 1) us

/-- The receiver, the frames the kernel holds, and two ghosts: the uses on the RX ring, oldest
first, and the uses a record was stored for, in the order of the records. -/
structure UseSystem where
  recv : RecvState
  held : List Nat
  pending : List FrameUse
  recorded : List FrameUse

/-- The kernel has copied `u` into UMEM and put its descriptor on the RX ring. -/
def UseSystem.deliver (k : UseSystem) (u : FrameUse) (mem : Nat → UInt8) : UseSystem where
  recv := { k.recv with rx := k.recv.rx ++ [u.desc], mem := mem }
  held := k.held.erase u.desc.frame
  pending := k.pending ++ [u]
  recorded := k.recorded

/-- A call of `receive_batch`. Of the uses it consumed, those it measured are recorded as far as
the array had room. -/
def UseSystem.receive (k : UseSystem) (env : BatchEnv) : UseSystem where
  recv := (receiveBatch env k.recv).1
  held := k.held
  pending := k.pending.drop (consumedCount env k.recv)
  recorded := k.recorded
    ++ (measuredUses env 0 (k.pending.take (consumedCount env k.recv))).take
      (env.recordCapacity - k.recv.records.length)

inductive UseAction where
  | take
  | deliver (u : FrameUse)
  | receive (env : BatchEnv)

inductive UseStep (offset : Nat) : UseSystem → UseAction → UseSystem → Prop where
  | take {k : UseSystem} {addr : Nat} {rest : List Nat} (h : k.recv.fill = addr :: rest) :
      UseStep offset k .take
        { k with recv := { k.recv with fill := rest }, held := addr / frameSize :: k.held }
  | deliver {k : UseSystem} (u : FrameUse) {mem : Nat → UInt8} (hheld : u.desc.frame ∈ k.held)
      (hmem : KernelWrites offset u k.recv.mem mem) :
      UseStep offset k (.deliver u) (k.deliver u mem)
  | receive {k : UseSystem} (env : BatchEnv) :
      UseStep offset k (.receive env) (k.receive env)

/-- The uses of the frames, from the zeroed UMEM. -/
def useSystem (offset : Nat) : System UseSystem UseAction where
  init k := fillInitialFrames RecvState.fresh = some k.recv ∧ k.held = [] ∧ k.pending = []
    ∧ k.recorded = []
  step := UseStep offset

/-! ## The system is one of kernel and receiver

The uses are steps of the system in which the frames are conserved. -/

/-- Forgetting the ghosts gives a run with an honest kernel. -/
theorem useSystem_umem {offset : Nat} {k : UseSystem} (hk : (useSystem offset).Reachable k) :
    (umemSystem honestKernel).Reachable ⟨k.recv, k.held⟩ := by
  refine hk.induct (P := fun k => (umemSystem honestKernel).Reachable ⟨k.recv, k.held⟩) ?_ ?_
  · rintro k ⟨hfill, hheld, _⟩
    exact .init ⟨hfill, hheld⟩
  · intro k act k' _ hreach hstep
    cases hstep with
    | take h => exact .step hreach (UmemStep.take h)
    | deliver u hheld hmem => exact .step hreach (UmemStep.deliver u.desc _ ⟨hheld, rfl⟩)
    | receive env => exact .step hreach (UmemStep.receive env)

/-! ## A record and its use

A record is made in one use. It may carry metadata of that use only. -/

/-- All the fields `read_xdp_metadata` copies are still zero. -/
def NoMetadata (r : XskUserRecord) : Prop :=
  r.hwRxNs = 0 ∧ r.initialXdpNs = 0 ∧ r.metaFlags = 0 ∧ r.requestedPath = 0
    ∧ r.timestampError = 0

/-- The kernel wrote metadata for this very use, and it matches the record's packet. -/
def FrameUse.Matches (u : FrameUse) (r : XskUserRecord) : Prop :=
  ∃ rx, u.wrote = some rx ∧ rx.flowId = r.flowId ∧ rx.sequence = r.sequence
    ∧ rx.requestedPath = RequestedPath.xsk.code

/-- `r` is the record of the use `u`: it has the key of the packet, and all three validation
bits with matching metadata of this use, or no metadata at all. -/
structure RecordOf (u : FrameUse) (r : XskUserRecord) : Prop where
  key : ∃ id, classifyPacket u.packet u.desc.len.toNat = .experiment id
    ∧ r.flowId = id.flowId ∧ r.sequence = id.sequence
  fresh : (r.validationFlags = 7 ∧ u.Matches r) ∨ (r.validationFlags ≠ 7 ∧ NoMetadata r)

theorem validationFlagsOf_seven {rx : RxMeta} {flowId : UInt32} {sequence : UInt64}
    (h : validationFlagsOf rx flowId sequence 0 &&& (xskRecordKeyMatch ||| xskRecordPathMatch)
      = xskRecordKeyMatch ||| xskRecordPathMatch) :
    validationFlagsOf rx flowId sequence 0 = 7 ∧ rx.flowId = flowId ∧ rx.sequence = sequence
      ∧ rx.requestedPath = RequestedPath.xsk.code := by
  unfold validationFlagsOf at h ⊢
  dsimp only at h ⊢
  by_cases hkey : rx.flowId = flowId ∧ rx.sequence = sequence
  · by_cases hpath : rx.requestedPath = RequestedPath.xsk.code
    · rw [if_pos hkey, if_pos hpath]
      exact ⟨by decide, hkey.1, hkey.2, hpath⟩
    · rw [if_pos hkey, if_neg hpath] at h
      exact absurd h (by decide)
  · rw [if_neg hkey] at h
    split at h
    · exact absurd h (by decide)
    · exact absurd h (by decide)

/-- **`read_xdp_metadata` on an empty record.** The copied struct is well formed, of this key
and of the XSK path, and all bits are set; or not all bits are set and nothing is copied. -/
theorem applyMetadata_empty (rx : RxMeta) (record : XskUserRecord)
    (hflags : record.validationFlags = 0) (hempty : NoMetadata record) :
    let r := (applyMetadata rx record.flowId record.sequence record).2
    (r.validationFlags = 7 ∧ rx.wellFormed ∧ rx.flowId = record.flowId
        ∧ rx.sequence = record.sequence ∧ rx.requestedPath = RequestedPath.xsk.code)
      ∨ (r.validationFlags ≠ 7 ∧ NoMetadata r) := by
  unfold applyMetadata
  by_cases hw : rx.wellFormed
  · rw [if_neg (not_not.mpr hw)]
    dsimp only
    rw [hflags]
    split
    · rename_i hmiss
      refine Or.inr ⟨?_, hempty⟩
      dsimp only
      intro h7
      rw [h7] at hmiss
      exact hmiss (by decide)
    · rename_i hmatch
      obtain ⟨h7, hflow, hseq, hpath⟩ := validationFlagsOf_seven (not_not.mp hmatch)
      exact Or.inl ⟨h7, hw, hflow, hseq, hpath⟩
  · rw [if_pos hw]
    refine Or.inr ⟨?_, hempty⟩
    rw [hflags]
    decide

/-- Cleared metadata fails the envelope test. -/
theorem rxMetaAt_clear {mem : Nat → UInt8} {m : Nat} (h : ∀ i < rxMetaSize, mem (m + i) = 0) :
    ¬(rxMetaAt mem m).wellFormed := by
  have hzero : rxMetaAt mem m = rxMetaAt (fun _ => 0) m := rxMetaAt_congr h
  rintro ⟨hmagic, _⟩
  rw [hzero] at hmagic
  revert hmagic
  simp [rxMetaAt, ByteView.leNat, rxMetaMagic]

/-- What UMEM holds for a use that is on the RX ring. -/
structure Holds (mem : Nat → UInt8) (u : FrameUse) : Prop where
  packet : ∀ i < u.desc.len.toNat, packetView mem u.desc.dataAddr i = u.packet i
  wrote : ∀ rx, u.wrote = some rx → ∀ m, metadataAddr u.desc.dataAddr = some m → rxMetaAt mem m = rx
  clear : u.wrote = none → MetadataClear mem u.desc.dataAddr

theorem Holds.congr {mem mem' : Nat → UInt8} {u : FrameUse} (h : Holds mem u)
    (hin : InFrame u.desc) (hsame : SameFrame u.desc.frame mem' mem) : Holds mem' u := by
  refine ⟨fun i hi => ?_, fun rx hrx m hm => ?_, fun hnone => ?_⟩
  · rw [← h.packet i hi]
    exact hsame _ (hin.div hi)
  · rw [← h.wrote rx hrx m hm]
    refine rxMetaAt_congr fun i hi => hsame _ ?_
    rw [(metadataAddr_some hm).2 i hi, hin.div_dataAddr]
  · refine (h.clear hnone).congr ?_
    rwa [hin.div_dataAddr]

/-- The record a use leaves, once its packet and metadata stand in UMEM. -/
theorem measuredRecord_recordOf (env : BatchEnv) {mem : Nat → UInt8} {u : FrameUse}
    (h : Holds mem u) {id : ExperimentId}
    (hclass : classifyPacket u.packet u.desc.len.toNat = .experiment id) (mono : UInt64)
    (real : Int64) :
    RecordOf u (measuredRecord env mem u.desc.dataAddr id mono real u.desc.len).2 := by
  obtain ⟨hflow, hseq⟩ := readXdpMetadata_identity mem u.desc.dataAddr id.flowId id.sequence
    (userRecord env id mono real u.desc.len)
  refine ⟨⟨id, hclass, hflow, hseq⟩, ?_⟩
  unfold FrameUse.Matches
  unfold measuredRecord
  rw [hflow, hseq]
  unfold readXdpMetadata
  have hempty : NoMetadata (userRecord env id mono real u.desc.len) := ⟨rfl, rfl, rfl, rfl, rfl⟩
  cases hm : metadataAddr u.desc.dataAddr with
  | none => exact Or.inr ⟨show (0 : UInt32) ≠ 7 from by decide, hempty⟩
  | some m =>
    dsimp only
    rcases applyMetadata_empty (rxMetaAt mem m) (userRecord env id mono real u.desc.len) rfl hempty
      with ⟨h7, hw, hrflow, hrseq, hrpath⟩ | hno
    · refine Or.inl ⟨h7, ?_⟩
      cases hwrote : u.wrote with
      | none => exact absurd hw (rxMetaAt_clear (h.clear hwrote m hm))
      | some rx =>
        rw [h.wrote rx hwrote m hm] at hrflow hrseq hrpath
        exact ⟨rx, rfl, hrflow, hrseq, hrpath⟩
    · exact Or.inr hno

/-- One packet: a record is offered exactly when the use is measured, and it is its record. -/
theorem offeredRecord_recordOf (env : BatchEnv) {mem : Nat → UInt8} {u : FrameUse}
    (h : Holds mem u) (i : Nat) :
    List.Forall₂ RecordOf (if u.measured env i then [u] else [])
      (offeredRecord env mem i u.desc).toList := by
  have hclass : classifyPacket (packetView mem u.desc.dataAddr) u.desc.len.toNat
      = classifyPacket u.packet u.desc.len.toNat := classifyPacket_congr h.packet
  unfold FrameUse.measured offeredRecord
  cases env.clock i with
  | error errno => exact .nil
  | ok now =>
    dsimp only
    rw [hclass]
    cases hu : classifyPacket u.packet u.desc.len.toNat with
    | malformed => exact .nil
    | unexpectedPort => exact .nil
    | noExperiment => exact .nil
    | experiment id => exact .cons (measuredRecord_recordOf env h hu now.1 now.2) .nil

/-- The whole batch. Induction on the uses. -/
theorem offeredRecords_recordOf (env : BatchEnv) {mem : Nat → UInt8} :
    ∀ {us : List FrameUse} (i : Nat), (∀ u ∈ us, Holds mem u) →
      List.Forall₂ RecordOf (measuredUses env i us) (offeredRecords env mem i (us.map FrameUse.desc))
  | [], _, _ => .nil
  | u :: us, i, h => by
    rw [measuredUses, List.map_cons, offeredRecords]
    exact List.rel_append (offeredRecord_recordOf env (h u (by simp)) i)
      (offeredRecords_recordOf env (i + 1) fun v hv => h v (List.mem_cons_of_mem _ hv))

/-! ## The invariant

A frame that is not on the RX ring has a cleared metadata area; one that is on it has what the
kernel wrote for this very use. -/

/-- A frame off the RX ring has a clear metadata area; a frame on it holds what the kernel put
there for this use; the records so far are those of the recorded uses. A packet that does not
fit its frame is never consumed, so nothing is said of it. -/
structure UseInv (offset : Nat) (k : UseSystem) : Prop where
  rx : k.recv.rx = k.pending.map FrameUse.desc
  place : ∀ u ∈ k.pending, u.desc.dataAddr = u.desc.frame * frameSize + offset
  pending : ∀ u ∈ k.pending, InFrame u.desc → Holds k.recv.mem u
  idle : ∀ f, f ∈ k.recv.fill.map (· / frameSize) ∨ f ∈ k.held →
    MetadataClear k.recv.mem (f * frameSize + offset)
  records : List.Forall₂ RecordOf k.recorded k.recv.records

section Steps

variable {offset : Nat} {k : UseSystem}

/-- The three places of the partition are disjoint. -/
theorem FramePartition.disjoint {k : UmemSystem} (h : FramePartition k) :
    (k.held).Nodup ∧ (k.recv.rx.map XdpDesc.frame).Nodup
      ∧ (∀ f ∈ k.recv.fill.map (· / frameSize), f ∉ k.held)
      ∧ ∀ f, f ∈ k.recv.fill.map (· / frameSize) ∨ f ∈ k.held →
          f ∉ k.recv.rx.map XdpDesc.frame := by
  have hnodup := h.nodup_iff.mpr List.nodup_range
  rw [List.nodup_append] at hnodup
  obtain ⟨hleft, hrx, hcross⟩ := hnodup
  rw [List.nodup_append] at hleft
  obtain ⟨_, hheld, hfill⟩ := hleft
  refine ⟨hheld, hrx, fun f hf hf' => hfill f hf f hf' rfl, fun f hf hf' => ?_⟩
  exact hcross f (List.mem_append.mpr hf) f hf' rfl

theorem useInv_init (h : (useSystem offset).init k) : UseInv offset k := by
  obtain ⟨hfill, hheld, hpending, hrecorded⟩ := h
  rw [fillInitialFrames_fresh] at hfill
  have hrecv := (Option.some.inj hfill).symm
  refine ⟨?_, ?_, ?_, ?_, ?_⟩
  · rw [hpending, hrecv]
    rfl
  · rw [hpending]
    exact fun u hu => absurd hu List.not_mem_nil
  · rw [hpending]
    exact fun u hu => absurd hu List.not_mem_nil
  · intro f _ m _ i _
    rw [hrecv]
    rfl
  · rw [hrecorded, hrecv]
    exact .nil

theorem div_place (hoff : offset < frameSize) (f : Nat) :
    (f * frameSize + offset) / frameSize = f := by
  unfold frameSize at *
  omega

/-- The kernel uses a frame it holds. -/
theorem useInv_deliver (hoff : offset < frameSize) (hpart : FramePartition ⟨k.recv, k.held⟩)
    (h : UseInv offset k) (u : FrameUse) {mem : Nat → UInt8} (hheld : u.desc.frame ∈ k.held)
    (hmem : KernelWrites offset u k.recv.mem mem) :
    UseInv offset (k.deliver u mem) := by
  obtain ⟨hnodup, _, hfill, hrx⟩ := hpart.disjoint
  refine ⟨?_, ?_, ?_, ?_, h.records⟩
  · rw [UseSystem.deliver, h.rx, List.map_append]
    rfl
  · intro v hv
    rcases List.mem_append.mp hv with hv | hv
    · exact h.place v hv
    · rw [List.mem_singleton.mp hv]
      exact hmem.place
  · intro v hv hin
    rcases List.mem_append.mp hv with hv | hv
    -- a use already on the ring: another frame
    · have hne : v.desc.frame ≠ u.desc.frame := by
        intro heq
        refine hrx u.desc.frame (Or.inr hheld) ?_
        dsimp only
        rw [h.rx, List.map_map]
        exact List.mem_map.mpr ⟨v, hv, heq⟩
      exact (h.pending v hv hin).congr hin (hmem.outside _ hne)
    -- this use: the area was clear before
    · rw [List.mem_singleton.mp hv] at hin ⊢
      refine ⟨hmem.packet, fun rx hrx m hm => ?_, fun hnone m hm i hi => ?_⟩
      · rw [← (hmem.all rx hrx).2, (metadataAddr_some hm).1, Nat.add_sub_cancel]
        rfl
      · have hclear := h.idle u.desc.frame (Or.inr hheld)
        rw [← hmem.place] at hclear
        have haddr := (metadataAddr_some hm).1
        rw [← hclear m hm i hi]
        exact hmem.none hnone (m + i) (by omega) (by omega)
  · intro f hf
    have hne : f ≠ u.desc.frame := by
      rintro rfl
      rcases hf with hf | hf
      · exact hfill _ hf hheld
      · exact (hnodup.mem_erase_iff.mp hf).1 rfl
    refine (h.idle f (hf.imp_right List.mem_of_mem_erase)).congr ?_
    rw [div_place hoff]
    exact hmem.outside f hne

/-- A call that consumes nothing changes nothing here. -/
theorem useInv_unconsumed (h : UseInv offset k) (env : BatchEnv)
    (hun : Unconsumed k.recv (receiveBatch env k.recv).1) :
    UseInv offset (k.receive env) := by
  have hsame : k.receive env = { k with recv := (receiveBatch env k.recv).1 } := by
    unfold UseSystem.receive
    rw [hun.count, List.drop_zero, List.take_zero, measuredUses, List.take_nil, List.append_nil]
  rw [hsame]
  refine ⟨?_, h.place, ?_, ?_, ?_⟩
  · dsimp only
    rw [hun.rx, h.rx]
  · dsimp only
    rw [hun.mem]
    exact h.pending
  · dsimp only
    rw [hun.mem, hun.fill]
    exact h.idle
  · dsimp only
    rw [hun.records]
    exact h.records

/-- A call that consumes a batch clears the metadata of every frame it puts back, and stores the
records of the uses it measured. -/
theorem useInv_consumed (hoff : offset < frameSize) (hpart : FramePartition ⟨k.recv, k.held⟩)
    (h : UseInv offset k) (env : BatchEnv) {taken : List RxAddresses}
    (hc : Consumed env k.recv taken) : UseInv offset (k.receive env) := by
  obtain ⟨_, hnodup, _, hrx⟩ := hpart.disjoint
  dsimp only at hnodup hrx
  have hcount := hc.count
  have hbatch : (k.pending.take (consumedCount env k.recv)).map FrameUse.desc
      = k.recv.rx.take rxBatchSize := by
    rw [List.map_take, ← h.rx, hcount, List.length_take, ← List.take_take, List.take_length]
  -- the frames that stay on the ring are none of the batch
  have hstay : ∀ u ∈ k.pending.drop (consumedCount env k.recv), ∀ desc ∈ k.recv.rx.take rxBatchSize,
      desc.frame ≠ u.desc.frame := by
    intro u hu desc hd heq
    have hsplit : k.recv.rx.map XdpDesc.frame
        = (k.recv.rx.take rxBatchSize).map XdpDesc.frame
          ++ (k.pending.drop (consumedCount env k.recv)).map (fun u => u.desc.frame) := by
      have hrest : k.recv.rx.drop (k.recv.rx.take rxBatchSize).length
          = (k.pending.drop (consumedCount env k.recv)).map FrameUse.desc := by
        rw [← hcount, List.map_drop, ← h.rx]
      nth_rewrite 1 [← peeked_append_rest k.recv.rx rxBatchSize]
      rw [List.map_append, hrest, List.map_map]
      rfl
    rw [hsplit, List.nodup_append] at hnodup
    exact hnodup.2.2 _ (List.mem_map_of_mem hd) _ (List.mem_map_of_mem hu) heq
  have huses : ∀ u ∈ k.pending.take (consumedCount env k.recv), Holds k.recv.mem u := by
    intro u hu
    refine h.pending u (List.mem_of_mem_take hu) (hc.inFrame u.desc ?_)
    rw [← hbatch]
    exact List.mem_map_of_mem hu
  refine ⟨?_, ?_, ?_, ?_, ?_⟩
  · show (receiveBatch env k.recv).1.rx = _
    rw [hc.recycles.rx, ← hcount, UseSystem.receive, List.map_drop, h.rx]
  · exact fun u hu => h.place u (List.mem_of_mem_drop hu)
  · intro u hu hin
    refine (h.pending u (List.mem_of_mem_drop hu) hin).congr hin ?_
    exact hc.effect.untouched _ (hstay u hu)
  · intro f hf
    have hcase : (f ∈ k.recv.fill.map (· / frameSize) ∨ f ∈ k.held)
        ∨ f ∈ (k.recv.rx.take rxBatchSize).map XdpDesc.frame := by
      unfold UseSystem.receive at hf
      dsimp only at hf
      rw [hc.recycles.fill, List.map_append, fillAddr_frames hc.recycles.valid,
        List.mem_append] at hf
      tauto
    rcases hcase with hidle | hbat
    · refine (h.idle f hidle).congr ?_
      rw [div_place hoff]
      refine hc.effect.untouched f fun desc hd heq => hrx f hidle ?_
      exact List.mem_map.mpr ⟨desc, List.mem_of_mem_take hd, heq⟩
    · obtain ⟨desc, hd, rfl⟩ := List.mem_map.mp hbat
      have hmem := hd
      rw [← hbatch] at hmem
      obtain ⟨u, hu, rfl⟩ := List.mem_map.mp hmem
      rw [← h.place u (List.mem_of_mem_take hu)]
      exact hc.effect.cleared u.desc hd
  · show List.Forall₂ RecordOf _ (receiveBatch env k.recv).1.records
    rw [hc.effect.records, ← hbatch]
    exact List.rel_append h.records (List.forall₂_take _ (offeredRecords_recordOf env 0 huses))

/-- **The invariant holds in every reachable state.** -/
theorem reachable_useInv (hoff : offset < frameSize) (hk : (useSystem offset).Reachable k) :
    UseInv offset k := by
  refine hk.induct (fun _ => useInv_init) ?_
  intro k act k' hreach h hstep
  have humem := useSystem_umem hreach
  have hpart := honest_partition humem
  cases hstep with
  | @take addr rest hfill =>
    refine ⟨h.rx, h.place, h.pending, fun f hf => h.idle f ?_, h.records⟩
    rw [hfill, List.map_cons, List.mem_cons]
    dsimp only at hf
    rw [List.mem_cons] at hf
    tauto
  | deliver u hheld hmem => exact useInv_deliver hoff hpart h u hheld hmem
  | receive env =>
    rcases receiveBatch_effect env k.recv (reachable_clean humem).owned with ⟨hun, _⟩ | ⟨_, hc⟩
    · exact useInv_unconsumed h env hun
    · exact useInv_consumed hoff hpart h env hc

end Steps

/-- **No stale XDP metadata.** The kernel puts packet data at one offset of every frame and, for
each use, writes all the metadata before the data or none. Then in every reachable state each
record is that of its use: all three validation bits are set only with metadata the kernel wrote
for that very use and that matches the packet in key and path, and otherwise every field copied
from metadata is zero. -/
theorem no_stale_metadata {offset : Nat} (hoff : offset < frameSize) {k : UseSystem}
    (hk : (useSystem offset).Reachable k) : List.Forall₂ RecordOf k.recorded k.recv.records :=
  (reachable_useInv hoff hk).records

/-! ## One frame used twice

Frame 0 arrives with metadata, is recycled, and arrives again with the same packet and without
metadata: what the first use left in front of the packet must not be taken for the second. -/

/-- `cpumapFrame` sent to the XSK port. -/
def xskFrame : List UInt8 := cpumapFrame.set 37 0x2a

/-- Metadata of flow 1, sequence 7 and the XSK path, as the BPF program stores it. -/
def xskMetadata : List UInt8 :=
  [0x4d, 0x45, 0x43, 0x41, 1, 0, 56, 0, 2, 0, 0, 0, 1, 0, 0, 0, 7, 0, 0, 0, 0, 0, 0, 0]
    ++ [5, 0, 0, 0, 0, 0, 0, 0, 6, 0, 0, 0, 0, 0, 0, 0]
    ++ [0, 0, 0, 0, 0, 0, 0, 0, 0, 0, 0, 0, 2, 0, 0, 0]

/-- Frame 0 with the packet at the usual headroom of 256 bytes. -/
def xskUse : FrameUse where
  desc := ⟨256, 74, 0⟩
  packet := frameView xskFrame
  wrote := some (rxMetaAt (frameView xskMetadata) 0)

def xskMem : Nat → UInt8 := frameView (List.replicate 200 0 ++ xskMetadata ++ xskFrame)

theorem xskUse_kernelWrites : KernelWrites 256 xskUse (fun _ => 0) xskMem := by
  refine ⟨by decide +kernel, by decide +kernel, ?_, ?_, by intro h; cases h⟩
  · intro f hf j hj
    have hne : j / 4096 ≠ 0 := by
      intro h0
      exact hf (hj.symm.trans h0)
    have hlen : (List.replicate 200 0 ++ xskMetadata ++ xskFrame).length = 330 := by
      decide +kernel
    exact List.getD_eq_default _ _ (by omega)
  · intro rx hrx
    rw [← Option.some.inj hrx]
    exact ⟨by decide, by decide +kernel⟩

/-- The same packet in the same frame, where the kernel wrote no metadata. -/
def xskUseAgain : FrameUse := { xskUse with wrote := none }

/-- The kernel may take any number of frames from the fill ring. Induction on their number. -/
theorem reachable_takes {offset : Nat} {rest : List Nat} (taken : List Nat) :
    ∀ {k : UseSystem}, (useSystem offset).Reachable k → k.recv.fill = taken ++ rest →
      (useSystem offset).Reachable { k with
        recv := { k.recv with fill := rest }
        held := (taken.map (· / frameSize)).reverse ++ k.held } := by
  induction taken with
  | nil =>
    intro k hk hfill
    rw [List.nil_append] at hfill
    rw [← hfill]
    exact hk
  | cons addr taken ih =>
    intro k hk hfill
    have hrest := ih (.step hk (UseStep.take hfill)) rfl
    rw [List.map_cons, List.reverse_cons, List.append_assoc]
    exact hrest

set_option maxRecDepth 100000 in
/-- The kernel takes frame 0 and copies the packet with its metadata, and the receiver stores a
record with all three bits. The kernel then takes every frame, frame 0 among them, and copies the
packet again, now without metadata: the second record has none of the bits. -/
theorem no_stale_metadata_xsk :
    ∃ k, (useSystem 256).Reachable k ∧ k.recorded.map (fun u => u.wrote.isSome) = [true, false]
      ∧ k.recv.records.map XskUserRecord.validationFlags = [7, 0]
      ∧ k.recv.records.map XskUserRecord.hwRxNs = [5, 0]
      ∧ List.Forall₂ RecordOf k.recorded k.recv.records := by
  have hinit : (useSystem 256).Reachable ⟨{ RecvState.fresh with
      fill := (List.range numFrames).map (· * frameSize)
      frameInKernel := fun _ => true }, [], [], []⟩ :=
    .init ⟨fillInitialFrames_fresh, rfl, rfl, rfl⟩
  have hfill : (List.range numFrames).map (· * frameSize)
      = 0 :: ((List.range numFrames).map (· * frameSize)).tail := by
    rw [show numFrames = 4095 + 1 from rfl, List.range_succ_eq_map]
    rfl
  have htake := System.Reachable.step hinit (UseStep.take hfill)
  have hdeliver := System.Reachable.step htake
    (UseStep.deliver xskUse (by decide +kernel) xskUse_kernelWrites)
  have hreceive := System.Reachable.step hdeliver
    (UseStep.receive ⟨0, 8, fun _ => .ok (1000, 2000)⟩)
  have htakes := reachable_takes _ hreceive (List.append_nil _).symm
  have hagain := System.Reachable.step htakes
    (UseStep.deliver xskUseAgain (by decide +kernel)
      ⟨by decide +kernel, by decide +kernel, fun _ _ _ _ => rfl, nofun, fun _ _ _ _ => rfl⟩)
  have hfinal := System.Reachable.step hagain
    (UseStep.receive ⟨0, 8, fun _ => .ok (3000, 4000)⟩)
  exact ⟨_, hfinal, by decide +kernel, by decide +kernel, by decide +kernel,
    no_stale_metadata (by decide) hfinal⟩

end AceXdp
