import AceXdp.Abi

/-!
# AceXdp — the runtime configuration and the HWTSTAMP record in it

`runtime_config` holds one `struct ace_runtime_config`, written by the loader (and by `--recover`
after its death) and read by every AF_XDP receiver. This module has the ways the value is built,
the two validations it is put through, and what the flag operations do to the `STOPPING` bit.
-/

namespace AceXdp

/-! ## `struct hwtstamp_config` and `struct ace_hwtstamp_state` -/

structure HwtstampConfig where
  flags : Int32
  txType : Int32
  rxFilter : Int32
  deriving DecidableEq, Repr

def hwtstampFilterAll : Int32 := 1

/-- `struct ace_hwtstamp_state` of the one interface. -/
structure HwtstampState where
  saved : HwtstampConfig
  effective : HwtstampConfig
  active : Bool
  changed : Bool
  deriving DecidableEq, Repr

namespace RuntimeConfig

def saved (r : RuntimeConfig) : HwtstampConfig := ⟨r.savedFlags, r.savedTxType, r.savedRxFilter⟩

def effective (r : RuntimeConfig) : HwtstampConfig :=
  ⟨r.effectiveFlags, r.effectiveTxType, r.effectiveRxFilter⟩

/-! ## Building the value -/

/-- `runtime_set_hwtstamp`. -/
def setHwtstamp (r : RuntimeConfig) (state : HwtstampState) (applied : Bool) : RuntimeConfig :=
  let captured := (r.flags ||| runtimeCaptured) &&& ~~~(runtimeApplying ||| runtimeApplied)
  { r with
    savedFlags := state.saved.flags
    savedTxType := state.saved.txType
    savedRxFilter := state.saved.rxFilter
    effectiveFlags := state.effective.flags
    effectiveTxType := state.effective.txType
    effectiveRxFilter := state.effective.rxFilter
    flags := if applied then captured ||| runtimeApplied else captured }

/-- `runtime_set_hwtstamp_applying`. -/
def setHwtstampApplying (r : RuntimeConfig) (state : HwtstampState) : RuntimeConfig :=
  let r := r.setHwtstamp state false
  { r with flags := r.flags ||| runtimeApplying }

/-- `runtime.flags |= ACE_RUNTIME_F_STOPPING`. -/
def markStopping (r : RuntimeConfig) : RuntimeConfig :=
  { r with flags := r.flags ||| runtimeStopping }

/-- What recovery makes of the value once the saved configuration is back on the device. -/
def markRestored (r : RuntimeConfig) : RuntimeConfig :=
  { r with
    effectiveFlags := r.savedFlags
    effectiveTxType := r.savedTxType
    effectiveRxFilter := r.savedRxFilter
    flags := r.flags &&& ~~~(runtimeApplying ||| runtimeApplied) }

/-! ## Validating it -/

/-- The flags of `enum ace_runtime_flags` together. -/
def knownFlags : UInt32 :=
  runtimeCaptured ||| runtimeApplying ||| runtimeApplied ||| runtimeStopping ||| runtimeAllPass
    ||| runtimePassXsk

/-- The checks outside the flags, which the receivers and recovery share. -/
def identified (ifindex : UInt32) (r : RuntimeConfig) : Bool :=
  r.abiVersion == runtimeAbiVersion && r.ifindex == ifindex && r.recordCapacity != 0
    && decide (r.recordCapacity.toNat ≤ recordMaxEntries) && r.xdpProgramId != 0
    && r.ownerPid != 0 && r.ownerStartTicks != 0

/-- An AF_XDP receiver goes on with this value: timestamps applied, nobody stopping, and not the
mode that has no AF_XDP path. -/
def receiverAccepts (ifindex : UInt32) (r : RuntimeConfig) : Bool :=
  r.identified ifindex
    && r.flags &&& (runtimeCaptured ||| runtimeApplied) == runtimeCaptured ||| runtimeApplied
    && r.flags &&& (runtimeApplying ||| runtimeStopping) == 0 && r.flags &&& ~~~knownFlags == 0
    && r.effectiveRxFilter == hwtstampFilterAll && r.flags &&& runtimeAllPass == 0

/-- The flags `recover_pinned_measurement` goes on with: a captured configuration, not applying
and applied at once, nothing unknown and not two modes. -/
def recoveryFlags (flags : UInt32) : Bool :=
  flags &&& runtimeCaptured != 0
    && flags &&& (runtimeApplying ||| runtimeApplied) != runtimeApplying ||| runtimeApplied
    && flags &&& ~~~knownFlags == 0
    && flags &&& (runtimeAllPass ||| runtimePassXsk) != runtimeAllPass ||| runtimePassXsk

/-- `recover_pinned_measurement` goes on with this value. -/
def recoveryAccepts (ifindex : UInt32) (r : RuntimeConfig) : Bool :=
  r.identified ifindex && recoveryFlags r.flags

/-! ## The `STOPPING` bit -/

def Stopping (r : RuntimeConfig) : Prop := r.flags &&& runtimeStopping ≠ 0

instance (r : RuntimeConfig) : Decidable r.Stopping := inferInstanceAs (Decidable (_ ≠ _))

theorem or_and_mask (f g m : UInt32) : (f ||| g) &&& m = (f &&& m) ||| (g &&& m) := by
  apply UInt32.toBitVec_inj.1
  simp only [UInt32.toBitVec_and, UInt32.toBitVec_or]
  exact BitVec.and_or_distrib_right

theorem or_and_of_disjoint {f g m : UInt32} (h : g &&& m = 0) : (f ||| g) &&& m = f &&& m := by
  rw [or_and_mask, h, UInt32.or_zero]

theorem and_and_of_covers {f g m : UInt32} (h : g &&& m = m) : (f &&& g) &&& m = f &&& m := by
  rw [UInt32.and_assoc, h]

theorem stopping_congr {r r' : RuntimeConfig}
    (h : r'.flags &&& runtimeStopping = r.flags &&& runtimeStopping) :
    r'.Stopping ↔ r.Stopping := by
  unfold Stopping
  rw [h]

@[simp]
theorem stopping_markStopping (r : RuntimeConfig) : r.markStopping.Stopping := by
  have hbit : (r.flags ||| runtimeStopping) &&& runtimeStopping = runtimeStopping := by
    apply UInt32.toBitVec_inj.1
    simp only [UInt32.toBitVec_and, UInt32.toBitVec_or]
    ext i
    simp only [BitVec.getElem_and, BitVec.getElem_or]
    cases runtimeStopping.toBitVec[i] <;> simp
  show (r.flags ||| runtimeStopping) &&& runtimeStopping ≠ 0
  rw [hbit]
  decide

@[simp]
theorem stopping_setHwtstamp (r : RuntimeConfig) (state : HwtstampState) (applied : Bool) :
    (r.setHwtstamp state applied).Stopping ↔ r.Stopping := by
  have hcaptured : ((r.flags ||| runtimeCaptured) &&& ~~~(runtimeApplying ||| runtimeApplied))
      &&& runtimeStopping = r.flags &&& runtimeStopping := by
    rw [and_and_of_covers (by decide), or_and_of_disjoint (by decide)]
  refine stopping_congr ?_
  cases applied with
  | false => exact hcaptured
  | true => exact (or_and_of_disjoint (by decide)).trans hcaptured

@[simp]
theorem stopping_setHwtstampApplying (r : RuntimeConfig) (state : HwtstampState) :
    (r.setHwtstampApplying state).Stopping ↔ r.Stopping :=
  (stopping_congr (or_and_of_disjoint (by decide))).trans (stopping_setHwtstamp r state false)

@[simp]
theorem stopping_markRestored (r : RuntimeConfig) : r.markRestored.Stopping ↔ r.Stopping :=
  stopping_congr (and_and_of_covers (by decide))

/-- **A receiver that accepted the value saw nobody stopping.** -/
theorem not_stopping_of_receiverAccepts {ifindex : UInt32} {r : RuntimeConfig}
    (h : r.receiverAccepts ifindex = true) : ¬ r.Stopping := by
  unfold receiverAccepts at h
  simp only [Bool.and_eq_true, beq_iff_eq] at h
  have hclear : r.flags &&& (runtimeApplying ||| runtimeStopping) = 0 := h.1.1.1.2
  intro hstop
  apply hstop
  rw [← and_and_of_covers (g := runtimeApplying ||| runtimeStopping) (by decide), hclear]
  decide

/-! ## What recovery accepts stays acceptable -/

theorem knownFlags_lt {flags : UInt32} (h : flags &&& ~~~knownFlags = 0) : flags.toNat < 64 := by
  have hsplit : flags = flags &&& knownFlags := by
    apply UInt32.toBitVec_inj.1
    have hbits : flags.toBitVec &&& ~~~knownFlags.toBitVec = 0 := by
      rw [← UInt32.toBitVec_not, ← UInt32.toBitVec_and, h]
      rfl
    ext i hi
    have hbit := congrArg (fun b => b[i]) hbits
    simp only [BitVec.getElem_and, BitVec.getElem_not] at hbit
    rw [UInt32.toBitVec_and, BitVec.getElem_and]
    cases hf : flags.toBitVec[i] <;> cases hk : knownFlags.toBitVec[i] <;> simp_all
  rw [hsplit, UInt32.toNat_and]
  exact Nat.lt_of_le_of_lt Nat.and_le_right (by decide)

/-- A flag operation is checked on the 64 values of the known flags. -/
theorem recoveryFlags_map {g : UInt32 → UInt32}
    (hg : ∀ n : Fin 64, recoveryFlags (.ofNat n) = true →
      recoveryFlags (g (.ofNat n)) = true)
    {flags : UInt32} (h : recoveryFlags flags = true) : recoveryFlags (g flags) = true := by
  have hknown : flags &&& ~~~knownFlags = 0 := by
    unfold recoveryFlags at h
    simp only [Bool.and_eq_true, beq_iff_eq] at h
    exact h.1.2
  have hsmall := hg ⟨flags.toNat, knownFlags_lt hknown⟩
  rw [show UInt32.ofNat flags.toNat = flags from UInt32.ofNat_toNat] at hsmall
  exact hsmall h

section Accepts

variable {ifindex : UInt32} {r : RuntimeConfig}

/-- Recovery's validation is about the identity, which no update touches, and the flags. -/
theorem recoveryAccepts_of_flags {r' : RuntimeConfig} (h : r.recoveryAccepts ifindex = true)
    (hid : r'.identified ifindex = r.identified ifindex)
    (hflags : recoveryFlags r.flags = true → recoveryFlags r'.flags = true) :
    r'.recoveryAccepts ifindex = true := by
  unfold recoveryAccepts at h ⊢
  rw [Bool.and_eq_true] at h ⊢
  exact ⟨hid ▸ h.1, hflags h.2⟩

theorem recoveryAccepts_markStopping (h : r.recoveryAccepts ifindex = true) :
    r.markStopping.recoveryAccepts ifindex = true :=
  recoveryAccepts_of_flags h rfl
    (recoveryFlags_map (g := fun f => f ||| runtimeStopping) (by decide))

theorem recoveryAccepts_setHwtstamp (state : HwtstampState) (applied : Bool)
    (h : r.recoveryAccepts ifindex = true) :
    (r.setHwtstamp state applied).recoveryAccepts ifindex = true := by
  refine recoveryAccepts_of_flags h rfl ?_
  cases applied with
  | false =>
    exact recoveryFlags_map (g := fun f =>
      (f ||| runtimeCaptured) &&& ~~~(runtimeApplying ||| runtimeApplied)) (by decide)
  | true =>
    exact recoveryFlags_map (g := fun f =>
      ((f ||| runtimeCaptured) &&& ~~~(runtimeApplying ||| runtimeApplied)) ||| runtimeApplied)
      (by decide)

theorem recoveryAccepts_setHwtstampApplying (state : HwtstampState)
    (h : r.recoveryAccepts ifindex = true) :
    (r.setHwtstampApplying state).recoveryAccepts ifindex = true :=
  recoveryAccepts_of_flags h rfl (recoveryFlags_map (g := fun f =>
    ((f ||| runtimeCaptured) &&& ~~~(runtimeApplying ||| runtimeApplied)) ||| runtimeApplying)
    (by decide))

theorem recoveryAccepts_markRestored (h : r.recoveryAccepts ifindex = true) :
    r.markRestored.recoveryAccepts ifindex = true :=
  recoveryAccepts_of_flags h rfl (recoveryFlags_map
    (g := fun f => f &&& ~~~(runtimeApplying ||| runtimeApplied)) (by decide))

end Accepts

end RuntimeConfig

end AceXdp
