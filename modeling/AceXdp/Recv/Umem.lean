import AceXdp.Recv.Batch
import AceXdp.Lib.Transition
import Mathlib.Data.List.Perm.Basic

/-!
# AceXdp — UMEM frames are neither lost nor duplicated

Ownership of a frame is tracked in a flag array, a counter and two rings that `receive_batch`
changes in different loops. The argument is one inversion of the whole function,
`receiveBatch_cases`: a call returns with the ring, flags and records it found, or it has moved
a whole batch of distinct frames from RX to FILL and given every flag back. The system of
kernel and receiver steps then only has to move list entries around:

* `receiveBatch_clean`: every return re-establishes the userspace part;
* `honest_partition`: with a kernel that returns only frames it took, FILL, kernel and RX
  partition the frames in every reachable state.
-/

namespace AceXdp

open Transition

/-! ## The userspace part of the invariant

A flag for each frame says whether the kernel has it, and a counter how many the receiver has.
Between two calls the flags, the counter and the rings agree. -/

/-- No frame is owned by userspace: every flag is set and the counter is zero. -/
structure UserspaceClean (s : RecvState) : Prop where
  flags : ∀ f < numFrames, s.frameInKernel f = true
  owned : s.userspaceOwned = 0

/-- `s` is `s₀` with the frames of `taken` taken over, and nothing else changed. -/
structure Taken (s₀ s : RecvState) (taken : List RxAddresses) : Prop where
  flags : ∀ f, s.frameInKernel f = (s₀.frameInKernel f && !decide (f ∈ taken.map RxAddresses.frame))
  owned : s.userspaceOwned = s₀.userspaceOwned + taken.length
  wasInKernel : ∀ a ∈ taken, s₀.frameInKernel a.frame = true
  distinct : (taken.map RxAddresses.frame).Nodup
  rest : s = { s₀ with frameInKernel := s.frameInKernel, userspaceOwned := s.userspaceOwned }

theorem Taken.nil (s : RecvState) : Taken s s [] where
  flags := by simp
  owned := rfl
  wasInKernel := by simp
  distinct := by simp
  rest := rfl

theorem Taken.own {s₀ s : RecvState} {taken : List RxAddresses} (h : Taken s₀ s taken)
    {a : RxAddresses} (ha : s.frameInKernel a.frame = true) :
    Taken s₀ (s.own a.frame) (taken ++ [a]) := by
  have hflag := h.flags a.frame
  rw [ha] at hflag
  -- a frame still in the kernel is none of those taken
  obtain ⟨hwas, hnew⟩ : s₀.frameInKernel a.frame = true
      ∧ a.frame ∉ taken.map RxAddresses.frame := by
    simpa using hflag.symm
  refine ⟨?_, ?_, ?_, ?_, ?_⟩
  · intro f
    by_cases hf : f = a.frame
    · subst hf
      simp [RecvState.own]
    · simp only [RecvState.own, Function.update_of_ne hf, h.flags f]
      simp [hf]
  · simp only [RecvState.own, h.owned, List.length_append, List.length_singleton]
    omega
  · intro b hb
    rcases List.mem_append.mp hb with hb | hb
    · exact h.wasInKernel b hb
    · rw [List.mem_singleton.mp hb]; exact hwas
  · rw [List.map_append, List.nodup_append]
    refine ⟨h.distinct, by simp, ?_⟩
    intro f hf g hg hfg
    rw [List.map_singleton, List.mem_singleton] at hg
    exact hnew (hg ▸ hfg ▸ hf)
  · rw [RecvState.own, h.rest]

/-- What the rollback loop computes: the flags of `taken` are set and the counter goes down by
their number. Induction on `taken`. -/
theorem rollback_eq (taken : List RxAddresses) :
    ∀ s : RecvState, s.rollback taken = { s with
      frameInKernel := fun f =>
        s.frameInKernel f || decide (f ∈ taken.map RxAddresses.frame)
      userspaceOwned := s.userspaceOwned - taken.length } := by
  induction taken with
  | nil => intro s; simp [RecvState.rollback]
  | cons a taken ih =>
    intro s
    rw [RecvState.rollback, List.foldl_cons]
    rw [show taken.foldl (fun s a => s.disown a.frame) (s.disown a.frame)
      = (s.disown a.frame).rollback taken from rfl, ih]
    simp only [RecvState.disown, RecvState.mk.injEq, true_and, and_true, List.length_cons]
    refine ⟨?_, by omega⟩
    funext f
    by_cases hf : f = a.frame
    · subst hf; simp
    · simp [hf]

/-- **Rolling back restores the state before the batch.** -/
theorem Taken.rollback {s₀ s : RecvState} {taken : List RxAddresses} (h : Taken s₀ s taken) :
    s.rollback taken = s₀ := by
  rw [rollback_eq, h.rest, h.owned]
  have hflags : (fun f => s.frameInKernel f || decide (f ∈ taken.map RxAddresses.frame))
      = s₀.frameInKernel := by
    funext f
    rw [h.flags f]
    by_cases hf : f ∈ taken.map RxAddresses.frame
    · obtain ⟨a, ha, rfl⟩ := List.mem_map.mp hf
      simp [hf, h.wasInKernel a ha]
    · simp [hf]
  simp only [hflags, Nat.add_sub_cancel]

/-! ## The first loop

The frames of the batch are taken over one by one. At the first descriptor that is not valid, or
whose frame the kernel does not have, those taken so far are given back and the call fails. -/

/-- The errors a batch is rejected with. -/
def BatchError.rejects : BatchError → Prop
  | .badOptions | .badAddress | .repeatedFrame | .noFillSlots => True
  | _ => False

theorem validateRxDescriptor_error {desc : XdpDesc} {err : BatchError}
    (h : validateRxDescriptor desc = .error err) : err = .badOptions ∨ err = .badAddress := by
  unfold validateRxDescriptor at h
  dsimp only at h
  repeat' split at h
  all_goals cases h
  all_goals simp

/-- The frame a descriptor names: the chunk of its base address. -/
def XdpDesc.frame (desc : XdpDesc) : Nat := extractAddr desc.addr / frameSize

theorem validateRxDescriptor_ok {desc : XdpDesc} {a : RxAddresses}
    (h : validateRxDescriptor desc = .ok a) :
    a.fillAddr = desc.frame * frameSize ∧ a.frame = desc.frame ∧ desc.frame < numFrames := by
  unfold validateRxDescriptor at h
  dsimp only at h
  split at h
  · cases h
  · split at h
    · cases h
    · rename_i hrange
      split at h
      · cases h
      · cases h
        have hbase : extractAddr desc.addr < umemSize := by omega
        refine ⟨rfl, ?_, ?_⟩
        · simp [RxAddresses.frame, chunkStart, XdpDesc.frame, frameSize]
        · exact Nat.div_lt_of_lt_mul (by rwa [Nat.mul_comm])

/-- **Spec of the first loop.** It either rejects, with everything rolled back, or has taken the
frame of every descriptor. Induction on the descriptors. -/
theorem takeFrames_spec {s₀ : RecvState} (descs : List XdpDesc) :
    ∀ {s : RecvState} {taken : List RxAddresses}, Taken s₀ s taken →
      (∃ err, (err = .badOptions ∨ err = .badAddress)
          ∧ takeFrames s taken descs = .error (err, s₀))
        ∨ takeFrames s taken descs = .error (.repeatedFrame, s₀.invariantError)
        ∨ ∃ s' new, takeFrames s taken descs = .ok (s', taken ++ new)
          ∧ List.Forall₂ (fun desc a => validateRxDescriptor desc = .ok a) descs new
          ∧ Taken s₀ s' (taken ++ new) := by
  induction descs with
  | nil =>
    intro s taken h
    exact Or.inr (Or.inr ⟨s, [], by simp [takeFrames], .nil, by simpa using h⟩)
  | cons desc descs ih =>
    intro s taken h
    cases hv : validateRxDescriptor desc with
    | error err =>
      refine Or.inl ⟨err, validateRxDescriptor_error hv, ?_⟩
      rw [takeFrames, hv]
      simp only [h.rollback]
    | ok a =>
      by_cases hbad : a.frame ≥ numFrames ∨ s.frameInKernel a.frame = false
      -- out of range or taken twice: roll back and count it
      · refine Or.inr (Or.inl ?_)
        rw [takeFrames, hv]
        simp only [if_pos hbad, h.rollback]
      · have hin : s.frameInKernel a.frame = true := by
          simpa using fun hf => hbad (Or.inr hf)
        have hstep : takeFrames s taken (desc :: descs)
            = takeFrames (s.own a.frame) (taken ++ [a]) descs := by
          rw [takeFrames, hv]
          simp only [if_neg hbad]
        rw [hstep]
        rcases ih (h.own hin) with herr | hrep | ⟨s', new, hok, hall, ht⟩
        · exact Or.inl herr
        · exact Or.inr (Or.inl hrep)
        · refine Or.inr (Or.inr ⟨s', a :: new, ?_, .cons hv hall, ?_⟩)
          · rw [hok, List.append_assoc, List.singleton_append]
          · rwa [List.append_assoc, List.singleton_append] at ht

/-! ## The second loop

With room in the fill ring, every frame of the batch is looked at, cleared and put on the ring. -/

/-- The errors the packet loop may leave: a clock that failed, or a full record array. -/
def BatchError.ofPacket : BatchError → Prop
  | .clock _ | .recordsFull => True
  | _ => False

/-- The packet loop's error so far, if any, came from a packet. -/
def PacketError (batchError : Option BatchError) : Prop :=
  ∀ err, batchError = some err → err.ofPacket

theorem PacketError.keepFirst {batchError : Option BatchError} (h : PacketError batchError)
    {err : BatchError} (herr : err.ofPacket) : PacketError (keepFirst batchError err) := by
  intro e he
  cases batchError with
  | none => cases he; exact herr
  | some first => exact h e he

/-- The bookkeeping of two states agrees: rings, flags, counter, recycled frames and errors. -/
structure SameOwnership (s s' : RecvState) : Prop where
  fill : s'.fill = s.fill
  rx : s'.rx = s.rx
  flags : s'.frameInKernel = s.frameInKernel
  owned : s'.userspaceOwned = s.userspaceOwned
  recycled : s'.counters.recycledFrames = s.counters.recycledFrames
  errors : s'.counters.umemInvariantErrors = s.counters.umemInvariantErrors

theorem measurePacket_ownership (env : BatchEnv) (s : RecvState)
    (batchError : Option BatchError) (i : Nat) (desc : XdpDesc) (a : RxAddresses) :
    SameOwnership s (measurePacket env s batchError i desc a).1 := by
  unfold measurePacket
  cases env.clock i with
  | error errno => exact ⟨rfl, rfl, rfl, rfl, rfl, rfl⟩
  | ok now =>
    dsimp only
    unfold recordPacket
    split
    · exact ⟨rfl, rfl, rfl, rfl, rfl, rfl⟩
    · exact ⟨rfl, rfl, rfl, rfl, rfl, rfl⟩
    · exact ⟨rfl, rfl, rfl, rfl, rfl, rfl⟩
    · unfold storeRecord
      split <;> exact ⟨rfl, rfl, rfl, rfl, rfl, rfl⟩

theorem measurePacket_packetError (env : BatchEnv) (s : RecvState)
    {batchError : Option BatchError} (hb : PacketError batchError) (i : Nat) (desc : XdpDesc)
    (a : RxAddresses) : PacketError (measurePacket env s batchError i desc a).2 := by
  unfold measurePacket
  cases env.clock i with
  | error errno => exact hb.keepFirst trivial
  | ok now =>
    dsimp only
    unfold recordPacket
    split
    · exact hb
    · exact hb
    · exact hb
    · unfold storeRecord
      split
      · exact hb
      · exact hb.keepFirst trivial

/-- Recycling a frame that is owned gives its flag back and raises no error. -/
theorem recyclePacket_owned (s : RecvState) (batchError : Option BatchError) (a : RxAddresses)
    (hflag : s.frameInKernel a.frame = false) (howned : 0 < s.userspaceOwned) :
    (recyclePacket s batchError a).2 = batchError
      ∧ (recyclePacket s batchError a).1.fill = s.fill
      ∧ (recyclePacket s batchError a).1.rx = s.rx
      ∧ (recyclePacket s batchError a).1.frameInKernel
          = Function.update s.frameInKernel a.frame true
      ∧ (recyclePacket s batchError a).1.userspaceOwned = s.userspaceOwned - 1
      ∧ (recyclePacket s batchError a).1.counters.recycledFrames
          = s.counters.recycledFrames + 1
      ∧ (recyclePacket s batchError a).1.counters.umemInvariantErrors
          = s.counters.umemInvariantErrors := by
  unfold recyclePacket
  dsimp only
  rw [if_neg (by simp [hflag]; omega)]
  exact ⟨rfl, rfl, rfl, rfl, rfl, rfl, rfl⟩

/-- **Spec of the second loop.** If the frames of the remaining packets are distinct, owned and
as many as the counter has on top of `n`, the loop gives all of them back and reports nothing
but packet errors. Induction on the remaining packets. -/
theorem consumeFrames_spec (env : BatchEnv) (n : Nat) (rest : List (XdpDesc × RxAddresses)) :
    ∀ (s : RecvState) (batchError : Option BatchError) (i : Nat), PacketError batchError →
      (rest.map fun p => p.2.frame).Nodup →
      (∀ p ∈ rest, s.frameInKernel p.2.frame = false) →
      s.userspaceOwned = n + rest.length →
      let r := consumeFrames env s batchError i rest
      PacketError r.2 ∧ r.1.fill = s.fill ∧ r.1.rx = s.rx
        ∧ (∀ f, r.1.frameInKernel f
            = (s.frameInKernel f || decide (f ∈ rest.map fun p => p.2.frame)))
        ∧ r.1.userspaceOwned = n
        ∧ r.1.counters.recycledFrames = s.counters.recycledFrames + rest.length
        ∧ r.1.counters.umemInvariantErrors = s.counters.umemInvariantErrors := by
  induction rest with
  | nil =>
    intro s batchError i hb _ _ howned
    exact ⟨hb, rfl, rfl, by simp [consumeFrames], by simpa [consumeFrames] using howned, rfl, rfl⟩
  | cons p rest ih =>
    obtain ⟨desc, a⟩ := p
    intro s batchError i hb hnodup hflags howned
    have hm := measurePacket_ownership env s batchError i desc a
    have hb' := measurePacket_packetError env s hb i desc a
    have hcons : consumeFrames env s batchError i ((desc, a) :: rest)
        = consumeFrames env
            (recyclePacket (measurePacket env s batchError i desc a).1
              (measurePacket env s batchError i desc a).2 a).1
            (recyclePacket (measurePacket env s batchError i desc a).1
              (measurePacket env s batchError i desc a).2 a).2 (i + 1) rest := rfl
    rw [hcons]
    generalize (measurePacket env s batchError i desc a).1 = s₁ at hm
    generalize (measurePacket env s batchError i desc a).2 = b₁ at hb'
    rw [List.map_cons, List.nodup_cons] at hnodup
    rw [List.length_cons] at howned
    have hflag₁ : s₁.frameInKernel a.frame = false := by
      rw [hm.flags]; exact hflags (desc, a) (by simp)
    have howned₁ : 0 < s₁.userspaceOwned := by rw [hm.owned]; omega
    obtain ⟨hb₂, hfill₂, hrx₂, hflags₂, howned₂, hcount₂, herr₂⟩ :=
      recyclePacket_owned s₁ b₁ a hflag₁ howned₁
    -- the frame just given back is none of the remaining ones
    have hrest : ∀ q ∈ rest, (recyclePacket s₁ b₁ a).1.frameInKernel q.2.frame = false := by
      intro q hq
      have hne : q.2.frame ≠ a.frame := fun heq =>
        hnodup.1 (heq ▸ List.mem_map.mpr ⟨q, hq, rfl⟩)
      rw [hflags₂, Function.update_of_ne hne, hm.flags]
      exact hflags q (List.mem_cons_of_mem _ hq)
    obtain ⟨hb₃, hfill₃, hrx₃, hflags₃, howned₃, hcount₃, herr₃⟩ :=
      ih (recyclePacket s₁ b₁ a).1 (recyclePacket s₁ b₁ a).2 (i + 1) (by rw [hb₂]; exact hb')
        hnodup.2 hrest (by rw [howned₂, hm.owned]; omega)
    refine ⟨hb₃, ?_, ?_, ?_, howned₃, ?_, ?_⟩
    · rw [hfill₃, hfill₂, hm.fill]
    · rw [hrx₃, hrx₂, hm.rx]
    · intro f
      rw [hflags₃, hflags₂, hm.flags]
      by_cases hf : f = a.frame
      · subst hf; simp
      · have hmem : f ∈ ((desc, a) :: rest).map (fun p => p.2.frame)
            ↔ f ∈ rest.map fun p => p.2.frame := by
          rw [List.map_cons, List.mem_cons]
          exact or_iff_right hf
        rw [Function.update_of_ne hf, decide_eq_decide.mpr hmem]
    · rw [hcount₃, hcount₂, hm.recycled, List.length_cons]
      omega
    · rw [herr₃, herr₂, hm.errors]

/-! ## The whole call

So a call leaves everything as it was, or it moves a whole batch from RX to FILL. -/

/-- What a batch that was not rejected has done: the frames of the peeked descriptors moved
from RX to FILL, and all bookkeeping is as before. -/
structure Recycled (s s' : RecvState) (descs : List XdpDesc) (taken : List RxAddresses) :
    Prop where
  valid : List.Forall₂ (fun desc a => validateRxDescriptor desc = .ok a) descs taken
  fits : s.fill.length + descs.length ≤ fillRingSize
  fill : s'.fill = s.fill ++ taken.map RxAddresses.fillAddr
  rx : s'.rx = s.rx.drop descs.length
  flags : s'.frameInKernel = s.frameInKernel
  owned : s'.userspaceOwned = 0
  recycled : s'.counters.recycledFrames = s.counters.recycledFrames + descs.length
  errors : s'.counters.umemInvariantErrors = s.counters.umemInvariantErrors

/-- Validated descriptors and their addresses name the same frames. -/
theorem taken_frames {descs : List XdpDesc} {taken : List RxAddresses}
    (h : List.Forall₂ (fun desc a => validateRxDescriptor desc = .ok a) descs taken) :
    descs.map XdpDesc.frame = taken.map RxAddresses.frame := by
  induction h with
  | nil => rfl
  | cons hv _ ih => rw [List.map_cons, List.map_cons, ih, (validateRxDescriptor_ok hv).2.1]

theorem zip_frames {descs : List XdpDesc} {taken : List RxAddresses}
    (h : descs.length = taken.length) :
    (descs.zip taken).map (fun p => p.2.frame) = taken.map RxAddresses.frame := by
  rw [show (fun p : XdpDesc × RxAddresses => p.2.frame) = RxAddresses.frame ∘ Prod.snd from rfl,
    ← List.map_map, List.map_snd_zip (by omega)]

/-- The first loop has taken every frame of the batch, so none is flagged as in the kernel. -/
theorem Taken.zip_flags {s₀ s : RecvState} {descs : List XdpDesc} {taken : List RxAddresses}
    (ht : Taken s₀ s taken) (hlen : descs.length = taken.length) :
    ∀ p ∈ descs.zip taken, s.frameInKernel p.2.frame = false := by
  intro p hp
  have hmem : p.2.frame ∈ taken.map RxAddresses.frame := by
    rw [← zip_frames hlen]
    exact List.mem_map.mpr ⟨p, hp, rfl⟩
  rw [ht.flags, decide_eq_true hmem]
  simp

theorem finishBatch_spec (env : BatchEnv) {s₀ s : RecvState} {descs : List XdpDesc}
    {taken : List RxAddresses} (howned : s₀.userspaceOwned = 0) (ht : Taken s₀ s taken)
    (hv : List.Forall₂ (fun desc a => validateRxDescriptor desc = .ok a) descs taken)
    (hfits : s₀.fill.length + descs.length ≤ fillRingSize) :
    Recycled s₀ (finishBatch env s descs taken).1 descs taken
      ∧ ((finishBatch env s descs taken).2 = .ok descs.length
        ∨ ∃ err, err.ofPacket ∧ (finishBatch env s descs taken).2 = .error err) := by
  have hlen : descs.length = taken.length := hv.length_eq
  have hframes := zip_frames hlen
  obtain ⟨hb, hfill, hrx, hflags, how, hcount, herr⟩ :=
    consumeFrames_spec env 0 (descs.zip taken) s none 0 (by intro e he; cases he)
      (by rw [hframes]; exact ht.distinct) (ht.zip_flags hlen)
      (by rw [ht.owned, howned, List.length_zip]; omega)
  unfold finishBatch
  generalize consumeFrames env s none 0 (descs.zip taken) = r
    at hb hfill hrx hflags how hcount herr
  obtain ⟨s', batchError⟩ := r
  dsimp only at hb hfill hrx hflags how hcount herr ⊢
  have hs : s = { s₀ with frameInKernel := s.frameInKernel, userspaceOwned := s.userspaceOwned } :=
    ht.rest
  -- the loop gave back exactly what the first loop took
  have hsame : s'.frameInKernel = s₀.frameInKernel := by
    funext f
    rw [hflags f, hframes, ht.flags f]
    by_cases hf : f ∈ taken.map RxAddresses.frame
    · obtain ⟨a, ha, rfl⟩ := List.mem_map.mp hf
      rw [decide_eq_true hf, ht.wasInKernel a ha]
      rfl
    · rw [decide_eq_false hf]
      simp
  -- nothing is owned any more, so the final check passes
  rw [if_neg (by simpa using how)]
  have hrec : Recycled s₀ { s' with
      rx := s'.rx.drop descs.length, fill := s'.fill ++ taken.map RxAddresses.fillAddr }
      descs taken := by
    refine ⟨hv, hfits, ?_, ?_, hsame, how, ?_, ?_⟩
    · dsimp only; rw [hfill, hs]
    · dsimp only; rw [hrx, hs]
    · dsimp only; rw [hcount, hs, List.length_zip, ← hlen, Nat.min_self]
    · dsimp only; rw [herr, hs]
  cases batchError with
  | none => exact ⟨hrec, Or.inl rfl⟩
  | some err => exact ⟨hrec, Or.inr ⟨err, hb err rfl, rfl⟩⟩

/-- **Inversion of `receive_batch`.** From a clean state a call finds nothing, rejects the batch
and leaves the state as it was (apart from `umem_invariant_errors` for a repeated frame), or
recycles the whole batch. -/
theorem receiveBatch_cases (env : BatchEnv) (s : RecvState) (h : s.userspaceOwned = 0) :
    (receiveBatch env s = (s, .ok 0))
      ∨ (∃ err, (err = .badOptions ∨ err = .badAddress) ∧ receiveBatch env s = (s, .error err))
      ∨ (receiveBatch env s = (s.invariantError, .error .repeatedFrame))
      ∨ (receiveBatch env s = (s, .error .noFillSlots)
          ∧ s.fill.length + (s.rx.take rxBatchSize).length > fillRingSize)
      ∨ ∃ taken, Recycled s (receiveBatch env s).1 (s.rx.take rxBatchSize) taken
        ∧ ((receiveBatch env s).2 = .ok (s.rx.take rxBatchSize).length
          ∨ ∃ err, err.ofPacket ∧ (receiveBatch env s).2 = .error err)
        ∧ ∃ s₁, Taken s s₁ taken
          ∧ receiveBatch env s = finishBatch env s₁ (s.rx.take rxBatchSize) taken := by
  unfold receiveBatch
  dsimp only
  by_cases hempty : s.rx.take rxBatchSize = []
  · left
    rw [if_pos hempty]
  · right
    rw [if_neg hempty]
    rcases takeFrames_spec (s.rx.take rxBatchSize) (Taken.nil s) with
      ⟨err, herr, he⟩ | he | ⟨s', taken, he, hv, ht⟩
    · exact Or.inl ⟨err, herr, by rw [he]⟩
    · exact Or.inr (Or.inl (by rw [he]))
    · right; right
      rw [List.nil_append] at he ht
      rw [he]
      have hfill : s'.fill = s.fill := by rw [ht.rest]
      by_cases hfits : s'.fill.length + (s.rx.take rxBatchSize).length > fillRingSize
      · left
        simp only [if_pos hfits, ht.rollback]
        exact ⟨trivial, by rwa [hfill] at hfits⟩
      · right
        simp only [if_neg hfits]
        obtain ⟨hr, hres⟩ := finishBatch_spec env h ht hv (by rw [hfill] at hfits; omega)
        exact ⟨taken, hr, hres, s', ht, rfl⟩

/-- **Every return re-establishes the userspace part.** -/
theorem receiveBatch_clean (env : BatchEnv) {s : RecvState} (h : UserspaceClean s) :
    UserspaceClean (receiveBatch env s).1 := by
  rcases receiveBatch_cases env s h.owned with
    he | ⟨_, _, he⟩ | he | ⟨he, _⟩ | ⟨taken, hr, _⟩
  · rw [he]; exact h
  · rw [he]; exact h
  · rw [he]; exact ⟨h.flags, h.owned⟩
  · rw [he]; exact h
  · exact ⟨fun f hf => by rw [hr.flags]; exact h.flags f hf, hr.owned⟩

/-- A rejected batch leaves everything but `umem_invariant_errors` as it was. -/
theorem receiveBatch_rejects (env : BatchEnv) {s : RecvState} (h : s.userspaceOwned = 0)
    {err : BatchError} (herr : (receiveBatch env s).2 = .error err) (hrej : err.rejects) :
    (receiveBatch env s).1 = { s with
      counters.umemInvariantErrors := (receiveBatch env s).1.counters.umemInvariantErrors } := by
  rcases receiveBatch_cases env s h with he | ⟨_, _, he⟩ | he | ⟨he, _⟩ | ⟨taken, _, hok | hpk, _⟩
  · rw [he]
  · rw [he]
  · rw [he]; rfl
  · rw [he]
  · rw [hok] at herr; cases herr
  · obtain ⟨err', hpk, he⟩ := hpk
    rw [he] at herr
    cases herr
    cases err <;> simp_all [BatchError.rejects, BatchError.ofPacket]

/-! ## Kernel and receiver steps

Between two calls an honest kernel takes frames from the fill ring and returns only frames that it
took. -/

/-- The receiver together with the frames the kernel holds: taken from FILL, not yet in RX. -/
structure UmemSystem where
  recv : RecvState
  held : List Nat

/-- Which descriptors a kernel may put on the RX ring, and what it holds afterwards. -/
abbrev KernelPolicy := List Nat → XdpDesc → List Nat → Prop

/-- Any descriptor at all: wrong options, wild addresses, repeated frames. -/
def anyKernel : KernelPolicy := fun _ _ _ => True

/-- Only frames it took from FILL, each once; options, offset and length are still arbitrary. -/
def honestKernel : KernelPolicy := fun held desc held' =>
  desc.frame ∈ held ∧ held' = held.erase desc.frame

inductive UmemAction where
  | take
  | deliver (desc : XdpDesc) (mem : Nat → UInt8)
  | receive (env : BatchEnv)

/-- One step: the kernel consumes the oldest FILL entry, the kernel copies a packet (UMEM may
change anywhere) and appends its descriptor to RX, or the receiver calls `receive_batch`. -/
inductive UmemStep (policy : KernelPolicy) : UmemSystem → UmemAction → UmemSystem → Prop where
  | take {k : UmemSystem} {addr : Nat} {rest : List Nat} (h : k.recv.fill = addr :: rest) :
      UmemStep policy k .take ⟨{ k.recv with fill := rest }, addr / frameSize :: k.held⟩
  | deliver {k : UmemSystem} (desc : XdpDesc) (mem : Nat → UInt8) {held' : List Nat}
      (h : policy k.held desc held') :
      UmemStep policy k (.deliver desc mem)
        ⟨{ k.recv with rx := k.recv.rx ++ [desc], mem := mem }, held'⟩
  | receive {k : UmemSystem} (env : BatchEnv) :
      UmemStep policy k (.receive env) ⟨(receiveBatch env k.recv).1, k.held⟩

/-- The system from the state `fill_initial_frames` leaves. -/
def umemSystem (policy : KernelPolicy) : System UmemSystem UmemAction where
  init k := fillInitialFrames RecvState.fresh = some k.recv ∧ k.held = []
  step := UmemStep policy

/-! ## The partition

Every frame of the UMEM is in exactly one place in every reachable state. -/

/-- Every frame is in exactly one of FILL, kernel and RX. -/
def FramePartition (k : UmemSystem) : Prop :=
  (k.recv.fill.map (· / frameSize) ++ k.held ++ k.recv.rx.map XdpDesc.frame).Perm
    (List.range numFrames)

theorem fillInitialFrames_fresh : fillInitialFrames RecvState.fresh = some { RecvState.fresh with
    fill := (List.range numFrames).map (· * frameSize)
    frameInKernel := fun _ => true } := by
  unfold fillInitialFrames
  rw [if_neg (by simp [RecvState.fresh, fillRingSize]),
    show RecvState.fresh.fill = [] from rfl, List.nil_append]

theorem init_clean {policy : KernelPolicy} {k : UmemSystem} (h : (umemSystem policy).init k) :
    UserspaceClean k.recv := by
  obtain ⟨hfill, _⟩ := h
  rw [fillInitialFrames_fresh] at hfill
  rw [← Option.some.inj hfill]
  exact ⟨fun _ _ => rfl, rfl⟩

theorem init_partition {policy : KernelPolicy} {k : UmemSystem}
    (h : (umemSystem policy).init k) : FramePartition k := by
  obtain ⟨hfill, hheld⟩ := h
  rw [fillInitialFrames_fresh] at hfill
  unfold FramePartition
  rw [hheld, ← Option.some.inj hfill]
  have hdiv : (fun i => i * frameSize / frameSize) = (fun i : Nat => i) := by
    funext i
    exact Nat.mul_div_cancel i (by decide)
  simp only [RecvState.fresh, List.map_map, List.map_nil, List.append_nil]
  rw [show ((· / frameSize) ∘ (· * frameSize)) = (fun i : Nat => i) from hdiv, List.map_id']

theorem reachable_clean {policy : KernelPolicy} {k : UmemSystem}
    (hk : (umemSystem policy).Reachable k) : UserspaceClean k.recv := by
  refine hk.induct (P := fun k => UserspaceClean k.recv) (fun _ => init_clean) ?_
  intro k act k' _ hclean hstep
  cases hstep with
  | take h => exact ⟨hclean.flags, hclean.owned⟩
  | deliver desc mem h => exact ⟨hclean.flags, hclean.owned⟩
  | receive env => exact receiveBatch_clean env hclean

/-- Validated descriptors put back exactly the frames they name. -/
theorem fillAddr_frames {descs : List XdpDesc} {taken : List RxAddresses}
    (h : List.Forall₂ (fun desc a => validateRxDescriptor desc = .ok a) descs taken) :
    (taken.map RxAddresses.fillAddr).map (· / frameSize) = descs.map XdpDesc.frame := by
  induction h with
  | nil => rfl
  | cons hv _ ih =>
    obtain ⟨haddr, _, _⟩ := validateRxDescriptor_ok hv
    rw [List.map_cons, List.map_cons, List.map_cons, ih, haddr,
      Nat.mul_div_cancel _ (by decide)]

theorem peeked_append_rest (rx : List XdpDesc) (n : Nat) :
    rx.take n ++ rx.drop (rx.take n).length = rx := by
  rw [List.length_take]
  rcases Nat.le_total n rx.length with hn | hn
  · rw [Nat.min_eq_left hn, List.take_append_drop]
  · rw [Nat.min_eq_right hn, List.drop_length, List.append_nil, List.take_of_length_le hn]

theorem moved_perm (fill held batch rest : List Nat) :
    (fill ++ batch ++ held ++ rest).Perm (fill ++ held ++ (batch ++ rest)) := by
  simp only [List.append_assoc]
  refine List.Perm.append_left fill ?_
  rw [← List.append_assoc, ← List.append_assoc]
  exact List.Perm.append_right rest List.perm_append_comm

theorem delivered_perm {held : List Nat} (fill rx : List Nat) {f : Nat} (hf : f ∈ held) :
    (fill ++ held.erase f ++ (rx ++ [f])).Perm (fill ++ held ++ rx) := by
  simp only [List.append_assoc]
  refine List.Perm.append_left fill ?_
  have hcons : (held.erase f ++ (rx ++ [f])).Perm (f :: held.erase f ++ rx) := by
    rw [← List.append_assoc]
    exact List.perm_append_singleton f _
  exact hcons.trans (List.Perm.append_right rx (List.perm_cons_erase hf).symm)

/-- `receive_batch` keeps the partition: a recycled batch leaves RX and enters FILL. -/
theorem receive_partition {k : UmemSystem} (hclean : UserspaceClean k.recv)
    (hpart : FramePartition k) (env : BatchEnv) :
    FramePartition ⟨(receiveBatch env k.recv).1, k.held⟩ := by
  rcases receiveBatch_cases env k.recv hclean.owned with
    he | ⟨_, _, he⟩ | he | ⟨he, _⟩ | ⟨taken, hr, _⟩
  · rw [he]; exact hpart
  · rw [he]; exact hpart
  · rw [he]; exact hpart
  · rw [he]; exact hpart
  · refine List.Perm.trans ?_ hpart
    have hsplit : k.recv.rx.map XdpDesc.frame
        = (k.recv.rx.take rxBatchSize).map XdpDesc.frame
          ++ (k.recv.rx.drop (k.recv.rx.take rxBatchSize).length).map XdpDesc.frame := by
      rw [← List.map_append, peeked_append_rest]
    simp only [hr.fill, hr.rx, List.map_append, fillAddr_frames hr.valid, hsplit]
    exact moved_perm _ _ _ _

/-- **The partition holds in every state an honest kernel can reach.** -/
theorem honest_partition {k : UmemSystem} (hk : (umemSystem honestKernel).Reachable k) :
    FramePartition k := by
  refine hk.induct (fun _ => init_partition) ?_
  intro k act k' hreach hpart hstep
  cases hstep with
  | @take addr rest h =>
    refine List.Perm.trans ?_ hpart
    simp only [h, List.map_cons, List.append_assoc, List.cons_append]
    exact List.perm_middle
  | @deliver desc mem held' h =>
    obtain ⟨hmem, rfl⟩ := h
    refine List.Perm.trans ?_ hpart
    simp only [List.map_append, List.map_cons, List.map_nil]
    exact delivered_perm _ _ hmem
  | receive env => exact receive_partition (reachable_clean hreach) hpart env

/-- With an honest kernel the FILL ring always has room for a batch: the peeked frames are on the
RX ring, and all frames together are as many as the ring has slots. -/
theorem honest_fill_room {k : UmemSystem} (hpart : FramePartition k) :
    k.recv.fill.length + (k.recv.rx.take rxBatchSize).length ≤ fillRingSize := by
  have hlen := hpart.length_eq
  simp only [List.length_append, List.length_map, List.length_range] at hlen
  have htake : (k.recv.rx.take rxBatchSize).length ≤ k.recv.rx.length := by
    rw [List.length_take]; exact Nat.min_le_right _ _
  show _ ≤ numFrames
  omega

/-- **UMEM frames are neither lost nor duplicated.** `fill_initial_frames` establishes the whole
invariant. Whatever the kernel delivers, every return of `receive_batch` re-establishes the
userspace part, and a rejected batch leaves rings, flags and records as they were. If the kernel
returns only frames it took from FILL, the partition holds in every reachable state, the
reservation never fails and neither `-EUCLEAN` of the second half is taken: none is returned,
and `umem_invariant_errors`, which both bump, moves only with a repeated frame. -/
theorem umem_frames_conserved :
    (∃ s, fillInitialFrames RecvState.fresh = some s ∧ UserspaceClean s
        ∧ FramePartition ⟨s, []⟩)
      ∧ (∀ k, (umemSystem anyKernel).Reachable k → ∀ env,
          UserspaceClean (receiveBatch env k.recv).1
          ∧ ∀ err, (receiveBatch env k.recv).2 = .error err → err.rejects →
            (receiveBatch env k.recv).1 = { k.recv with counters.umemInvariantErrors :=
              (receiveBatch env k.recv).1.counters.umemInvariantErrors })
      ∧ ∀ k, (umemSystem honestKernel).Reachable k → FramePartition k ∧ ∀ env,
          (receiveBatch env k.recv).2 ≠ .error .noFillSlots
          ∧ (receiveBatch env k.recv).2 ≠ .error .recycleUnclean
          ∧ (receiveBatch env k.recv).2 ≠ .error .ownedUnclean
          ∧ ((receiveBatch env k.recv).2 ≠ .error .repeatedFrame →
            (receiveBatch env k.recv).1.counters.umemInvariantErrors
              = k.recv.counters.umemInvariantErrors) := by
  refine ⟨?_, ?_, ?_⟩
  · have hinit : (umemSystem anyKernel).init ⟨_, []⟩ := ⟨fillInitialFrames_fresh, rfl⟩
    exact ⟨_, fillInitialFrames_fresh, init_clean hinit, init_partition hinit⟩
  · intro k hk env
    have hclean := reachable_clean hk
    exact ⟨receiveBatch_clean env hclean,
      fun err herr hrej => receiveBatch_rejects env hclean.owned herr hrej⟩
  · intro k hk
    have hclean := reachable_clean hk
    have hpart := honest_partition hk
    refine ⟨hpart, fun env => ?_⟩
    have hroom := honest_fill_room hpart
    rcases receiveBatch_cases env k.recv hclean.owned with
      he | ⟨err, herr, he⟩ | he | ⟨_, hfull⟩ | ⟨taken, hr, hok | ⟨err, hpk, he⟩, _⟩
    · rw [he]; simp
    · rw [he]; rcases herr with rfl | rfl <;> simp
    · rw [he]; simp
    · omega
    · rw [hok]; simp [hr.errors]
    · rw [he]; cases err <;> simp_all [BatchError.ofPacket, hr.errors]

end AceXdp
