import AceXdp.Recv.Packet
import AceXdp.Recv.Metadata
import Mathlib.Logic.Function.Basic

/-!
# AceXdp — `receive_batch`, the AF_XDP receive loop body

One call peeks at most `RX_BATCH_SIZE` descriptors, validates all of them, reserves their FILL
slots, copies every packet's measurement into a record and publishes both rings. The rings are
the entries the other side can see: a peek does not consume and a reservation does not publish,
so `xsk_ring_cons__cancel` has nothing to undo here. The kernel works at the other end of both
rings and a call is one step of the receiver.
-/

namespace AceXdp

def rxBatchSize : Nat := 64

/-- `fill_size` of `create_umem`. -/
def fillRingSize : Nat := numFrames

structure XdpDesc where
  addr : UInt64
  len : UInt32
  options : UInt32
  deriving DecidableEq, Repr

/-- The statistics of the receiver. -/
structure RecvCounters where
  receivedPackets : Nat := 0
  receivedUdpPackets : Nat := 0
  receivedExperimentPackets : Nat := 0
  malformedPackets : Nat := 0
  unexpectedPortPackets : Nat := 0
  metadataInvalidPackets : Nat := 0
  recordOverflowPackets : Nat := 0
  recycledFrames : Nat := 0
  umemInvariantErrors : Nat := 0
  deriving DecidableEq, Repr

/-- The receiver: UMEM, its bookkeeping (`struct umem_info`), both rings, the record array up to
`record_count`, and the counters. -/
structure RecvState where
  mem : Nat → UInt8
  fill : List Nat
  rx : List XdpDesc
  frameInKernel : Nat → Bool
  userspaceOwned : Nat
  records : List XskUserRecord
  counters : RecvCounters

/-- The ways a batch can fail, one for each place that sets an error. -/
inductive BatchError where
  -- `-EOPNOTSUPP`: a continuation or any other option bit
  | badOptions
  -- `-ERANGE`: outside UMEM or across a chunk border
  | badAddress
  -- `-EUCLEAN` of the first loop: a frame userspace already owns
  | repeatedFrame
  -- `-ENOSPC` of the FILL reservation
  | noFillSlots
  -- `-errno` of `capture_user_timestamps`
  | clock (errno : Int)
  -- `-ENOSPC` of a full record array
  | recordsFull
  -- `-EUCLEAN` of the recycle step
  | recycleUnclean
  -- `-EUCLEAN` after both rings were published
  | ownedUnclean
  deriving DecidableEq, Repr

/-! ## `validate_rx_descriptor` -/

/-- `xsk_umem__extract_addr`. -/
def extractAddr (addr : UInt64) : Nat := addr.toNat % 2 ^ 48

/-- `xsk_umem__add_offset_to_addr`. -/
def addOffsetToAddr (addr : UInt64) : Nat := extractAddr addr + addr.toNat / 2 ^ 48

/-- The two addresses a valid descriptor yields. -/
structure RxAddresses where
  fillAddr : Nat
  dataAddr : Nat
  deriving DecidableEq, Repr

/-- `validate_rx_descriptor`. `XDP_PKT_CONTD` is an option bit like any other here: both option
tests return `-EOPNOTSUPP`. -/
def validateRxDescriptor (desc : XdpDesc) : Except BatchError RxAddresses :=
  let baseAddr := extractAddr desc.addr
  let packetAddr := addOffsetToAddr desc.addr
  let chunkEnd := chunkStart baseAddr + frameSize
  if desc.options ≠ 0 then .error .badOptions
  else if baseAddr ≥ umemSize ∨ packetAddr ≥ umemSize ∨ desc.len = 0 ∨
      desc.len.toNat > umemSize - packetAddr then .error .badAddress
  else if packetAddr < chunkStart baseAddr ∨ packetAddr ≥ chunkEnd ∨
      desc.len.toNat > chunkEnd - packetAddr then .error .badAddress
  else .ok ⟨chunkStart baseAddr, packetAddr⟩

def RxAddresses.frame (a : RxAddresses) : Nat := a.fillAddr / frameSize

/-! ## The first loop -/

/-- Take a frame over: clear its flag, count it as owned. -/
def RecvState.own (s : RecvState) (frame : Nat) : RecvState :=
  { s with
    frameInKernel := Function.update s.frameInKernel frame false
    userspaceOwned := s.userspaceOwned + 1 }

/-- Give a frame back: set its flag, count it as no longer owned. -/
def RecvState.disown (s : RecvState) (frame : Nat) : RecvState :=
  { s with
    frameInKernel := Function.update s.frameInKernel frame true
    userspaceOwned := s.userspaceOwned - 1 }

/-- The rollback loops: give back every frame taken so far, in order. -/
def RecvState.rollback (s : RecvState) (taken : List RxAddresses) : RecvState :=
  taken.foldl (fun s a => s.disown a.frame) s

def RecvState.invariantError (s : RecvState) : RecvState :=
  { s with counters.umemInvariantErrors := s.counters.umemInvariantErrors + 1 }

/-- The validation loop over the peeked descriptors; `taken` are the addresses so far. An error
comes with the state after its rollback. -/
def takeFrames (s : RecvState) (taken : List RxAddresses) :
    List XdpDesc → Except (BatchError × RecvState) (RecvState × List RxAddresses)
  | [] => .ok (s, taken)
  | desc :: descs =>
    match validateRxDescriptor desc with
    | .error err => .error (err, s.rollback taken)
    | .ok a =>
      if a.frame ≥ numFrames ∨ s.frameInKernel a.frame = false then
        .error (.repeatedFrame, (s.rollback taken).invariantError)
      else takeFrames (s.own a.frame) (taken ++ [a]) descs

/-! ## The second loop -/

/-- Settings of a call: the queue, the record capacity and the clocks of each packet
(`capture_user_timestamps`). -/
structure BatchEnv where
  queueId : UInt32
  recordCapacity : Nat
  clock : Nat → Except Int (UInt64 × Int64)

/-- The record of an experiment packet before its metadata is read. -/
def userRecord (env : BatchEnv) (id : ExperimentId) (mono : UInt64) (real : Int64)
    (len : UInt32) : XskUserRecord where
  flowId := id.flowId
  rxQueue := env.queueId
  sequence := id.sequence
  txRealtimeNs := id.txRealtimeNs
  userRxMonoNs := mono
  userRxRealNs := real
  hwRxNs := 0
  initialXdpNs := 0
  metaFlags := 0
  requestedPath := 0
  timestampError := 0
  packetLength := len
  validationFlags := 0

/-- `if (!batch_error) batch_error = err`. -/
def keepFirst (batchError : Option BatchError) (err : BatchError) : Option BatchError :=
  batchError.or (some err)

/-- The packet as the parsers see it: UMEM from the data address on. -/
def packetView (mem : Nat → UInt8) (dataAddr : Nat) : Nat → UInt8 := fun i => mem (dataAddr + i)

/-- The record of an experiment packet after `read_xdp_metadata`, and whether that found the
metadata invalid. -/
def measuredRecord (env : BatchEnv) (mem : Nat → UInt8) (dataAddr : Nat) (id : ExperimentId)
    (mono : UInt64) (real : Int64) (len : UInt32) : Bool × XskUserRecord :=
  readXdpMetadata mem dataAddr id.flowId id.sequence (userRecord env id mono real len)

/-- Append the record of an experiment packet, or report a full array. -/
def storeRecord (env : BatchEnv) (s : RecvState) (batchError : Option BatchError)
    (id : ExperimentId) (mono : UInt64) (real : Int64) (desc : XdpDesc) (a : RxAddresses) :
    RecvState × Option BatchError :=
  if s.records.length < env.recordCapacity then
    let (invalid, record) := measuredRecord env s.mem a.dataAddr id mono real desc.len
    ({ s with
      records := s.records ++ [record]
      counters.metadataInvalidPackets :=
        s.counters.metadataInvalidPackets + if invalid then 1 else 0 }, batchError)
  else
    ({ s with counters.recordOverflowPackets := s.counters.recordOverflowPackets + 1 },
      keepFirst batchError .recordsFull)

/-- The classification and recording of one packet whose clocks could be read. -/
def recordPacket (env : BatchEnv) (s : RecvState) (batchError : Option BatchError)
    (mono : UInt64) (real : Int64) (desc : XdpDesc) (a : RxAddresses) :
    RecvState × Option BatchError :=
  match classifyPacket (packetView s.mem a.dataAddr) desc.len.toNat with
  | .malformed =>
    ({ s with counters.malformedPackets := s.counters.malformedPackets + 1 }, batchError)
  | .unexpectedPort =>
    ({ s with
      counters.receivedUdpPackets := s.counters.receivedUdpPackets + 1
      counters.unexpectedPortPackets := s.counters.unexpectedPortPackets + 1 }, batchError)
  | .noExperiment =>
    ({ s with counters.receivedUdpPackets := s.counters.receivedUdpPackets + 1 }, batchError)
  | .experiment id =>
    storeRecord env
      { s with
        counters.receivedUdpPackets := s.counters.receivedUdpPackets + 1
        counters.receivedExperimentPackets := s.counters.receivedExperimentPackets + 1 }
      batchError id mono real desc a

/-- The body of the loop up to the `recycle` label. -/
def measurePacket (env : BatchEnv) (s : RecvState) (batchError : Option BatchError) (i : Nat)
    (desc : XdpDesc) (a : RxAddresses) : RecvState × Option BatchError :=
  let s := { s with counters.receivedPackets := s.counters.receivedPackets + 1 }
  match env.clock i with
  | .error errno => (s, keepFirst batchError (.clock errno))
  | .ok (mono, real) => recordPacket env s batchError mono real desc a

/-- From the `recycle` label on: clear the metadata, give the frame back. -/
def recyclePacket (s : RecvState) (batchError : Option BatchError) (a : RxAddresses) :
    RecvState × Option BatchError :=
  let s := { s with mem := clearXdpMetadata s.mem a.dataAddr }
  if s.frameInKernel a.frame = true ∨ s.userspaceOwned = 0 then
    (s.invariantError, keepFirst batchError .recycleUnclean)
  else
    let s := s.disown a.frame
    ({ s with counters.recycledFrames := s.counters.recycledFrames + 1 }, batchError)

/-- The packet loop; `i` is the batch index. The FILL slots it writes are published by the
caller. -/
def consumeFrames (env : BatchEnv) (s : RecvState) (batchError : Option BatchError) :
    Nat → List (XdpDesc × RxAddresses) → RecvState × Option BatchError
  | _, [] => (s, batchError)
  | i, (desc, a) :: rest =>
    let (s, batchError) := measurePacket env s batchError i desc a
    let (s, batchError) := recyclePacket s batchError a
    consumeFrames env s batchError (i + 1) rest

/-- Everything after the FILL reservation. -/
def finishBatch (env : BatchEnv) (s : RecvState) (descs : List XdpDesc)
    (taken : List RxAddresses) : RecvState × Except BatchError Nat :=
  let (s, batchError) := consumeFrames env s none 0 (descs.zip taken)
  let s := { s with
    rx := s.rx.drop descs.length
    fill := s.fill ++ taken.map RxAddresses.fillAddr }
  let (s, batchError) :=
    if s.userspaceOwned ≠ 0 then (s.invariantError, keepFirst batchError .ownedUnclean)
    else (s, batchError)
  match batchError with
  | some err => (s, .error err)
  | none => (s, .ok descs.length)

/-- `receive_batch`. An empty ring returns `0` at once. -/
def receiveBatch (env : BatchEnv) (s : RecvState) : RecvState × Except BatchError Nat :=
  let descs := s.rx.take rxBatchSize
  if descs = [] then (s, .ok 0)
  else match takeFrames s [] descs with
    | .error (err, s) => (s, .error err)
    | .ok (s, taken) =>
      if s.fill.length + descs.length > fillRingSize then
        (s.rollback taken, .error .noFillSlots)
      else finishBatch env s descs taken

/-! ## `create_umem` and `fill_initial_frames` -/

/-- The receiver after `create_umem` and `create_socket`: zeroed UMEM, empty rings. -/
def RecvState.fresh : RecvState where
  mem := fun _ => 0
  fill := []
  rx := []
  frameInKernel := fun _ => false
  userspaceOwned := 0
  records := []
  counters := {}

/-- `fill_initial_frames`; `none` is the `-ENOSPC` return. -/
def fillInitialFrames (s : RecvState) : Option RecvState :=
  if s.fill.length + numFrames > fillRingSize then none
  else some { s with
    fill := s.fill ++ (List.range numFrames).map (· * frameSize)
    frameInKernel := fun _ => true }

end AceXdp
