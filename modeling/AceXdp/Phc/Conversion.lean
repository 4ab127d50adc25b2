import AceXdp.Lib.Signed64
import AceXdp.Phc.Capture
import AceXdp.Recv.HwTimestamp

/-!
# AceXdp — seconds and nanoseconds as one `int64_t`

`ptp_time_to_ns` and `extract_hw_timestamp` both compare the seconds with `INT64_MAX / 1000000000`
and then add the nanoseconds. `INT64_MAX` is 9223372036 s and 854775807 ns, so of the last second
that passes the guard only the first part fits.

* `fits_seconds_iff`: what the guard leaves open;
* `ptpTimeToNs_exact_iff`, `extractHwTimestamp_exact_iff`: each conversion is exact on the rest;
* `clock_conversion_exact`: both conversions.
-/

namespace AceXdp

open Signed64
open Sender (Timespec)

/-- The part of the last admissible second that lies beyond `INT64_MAX`. -/
def PastInt64Max (sec nsec : Int) : Prop :=
  sec = 9223372036 ∧ 854775808 ≤ nsec ∧ nsec < 1000000000

instance (sec nsec : Int) : Decidable (PastInt64Max sec nsec) :=
  inferInstanceAs (Decidable (_ ∧ _))

theorem fits_seconds_iff {sec nsec : Int} (hsec : 0 ≤ sec) (hguard : sec ≤ 9223372036)
    (hnsec : 0 ≤ nsec) (hpart : nsec < 1000000000) :
    Fits (sec * 1000000000 + nsec) ↔ ¬PastInt64Max sec nsec := by
  have hquot : (2 ^ 63 - 1 : Int) / 1000000000 = 9223372036 := by decide
  have hrem : (2 ^ 63 - 1 : Int) % 1000000000 = 854775807 := by decide
  have hroom := units_le_iff (M := 2 ^ 63 - 1) (by decide) (hquot.symm ▸ hguard) hpart
  rw [hquot, hrem] at hroom
  unfold Fits PastInt64Max
  omega

/-! ## `ptp_time_to_ns` -/

theorem PtpClockTime.valid_iff {t : PtpClockTime} :
    t.valid = true ↔ 0 ≤ t.sec.toInt ∧ t.nsec.toNat < 1000000000 ∧ t.sec.toInt ≤ 9223372036 := by
  simp [valid, and_assoc]

/-- **The accepted time is exact outside the open part of the last second**, and nowhere else. -/
theorem ptpTimeToNs_exact_iff (t : PtpClockTime) :
    (∀ ns, ptpTimeToNs t = some ns → Fits t.ns ∧ ns = t.ns)
      ↔ ¬PastInt64Max t.sec.toInt t.nsec.toNat := by
  unfold ptpTimeToNs
  split
  case isTrue hvalid =>
    obtain ⟨hsec, hpart, hguard⟩ := PtpClockTime.valid_iff.mp hvalid
    have hfits : Fits t.ns ↔ ¬PastInt64Max t.sec.toInt t.nsec.toNat :=
      fits_seconds_iff hsec hguard (Int.natCast_nonneg _) (by omega)
    rw [← hfits]
    constructor
    · exact fun h => (h _ rfl).1
    · rintro h ns hns
      exact ⟨h, (Option.some.inj hns).symm.trans (bmod_eq_self h)⟩
  case isFalse hinvalid =>
    rw [PtpClockTime.valid_iff] at hinvalid
    simp only [PastInt64Max, reduceCtorEq, false_implies, implies_true, true_iff]
    omega

/-! ## `extract_hw_timestamp` -/

/-- The time in nanoseconds, before it is stored. -/
def hardwareNs (t : Timespec) : Int := t.sec.toInt * 1000000000 + t.nsec.toInt

theorem hardwareAccepted_iff {t : Timespec} :
    hardwareAccepted t = true ↔ 0 ≤ t.sec.toInt ∧ t.sec.toInt ≤ 9223372036 ∧ 0 ≤ t.nsec.toInt
      ∧ t.nsec.toInt < 1000000000 ∧ hardwareNs t ≠ 0 := by
  have hzero : (0 : Int64).toInt = 0 := by decide
  have hbillion : (1000000000 : Int64).toInt = 1000000000 := by decide
  have hbound : (9223372036 : UInt64).toNat = 9223372036 := by decide
  simp only [hardwareAccepted, hardwareNs, Bool.and_eq_true, Bool.not_eq_true', Bool.or_eq_false_iff,
    decide_eq_false_iff_not, Bool.and_eq_false_iff, beq_eq_false_iff_ne, ne_eq, ← Int64.toInt_inj,
    Int64.lt_iff_toInt_lt, Int64.le_iff_toInt_le, UInt64.lt_iff_toNat_lt, hzero, hbillion, hbound]
  constructor
  · rintro ⟨⟨⟨⟨hsec, hnsec⟩, hpart⟩, hnonzero⟩, hguard⟩
    have hunsigned := toNat_toUInt64 (Int.not_lt.mp hsec)
    omega
  · rintro ⟨hsec, hguard, hnsec, hpart, hnonzero⟩
    have hunsigned := toNat_toUInt64 hsec
    omega

/-- The product does not wrap, the sum may. -/
theorem nanos_of_accepted {t : Timespec} (h : hardwareAccepted t = true) :
    t.nanos.toInt = (hardwareNs t).bmod (2 ^ 64) := by
  obtain ⟨hsec, hguard, _⟩ := hardwareAccepted_iff.mp h
  have hbillion : (1000000000 : Int64).toInt = 1000000000 := by decide
  rw [Timespec.nanos, Int64.toInt_add, toInt_mul_exact rfl hbillion (by omega) (by omega)]
  rfl

theorem extractHwTimestamp_exact_iff (scmTimestampingNew : Option Int)
    (messages : List ControlMessage) :
    (∀ ns, extractHwTimestamp scmTimestampingNew messages = some ns →
        ∃ t, hardwareTimestamp scmTimestampingNew messages = some t ∧ Fits (hardwareNs t)
          ∧ ns.toInt = hardwareNs t)
      ↔ ∀ t, hardwareTimestamp scmTimestampingNew messages = some t →
          ¬PastInt64Max t.sec.toInt t.nsec.toInt := by
  constructor
  · intro h t ht hpast
    have haccepted : hardwareAccepted t = true := by
      rw [hardwareAccepted_iff, hardwareNs]
      unfold PastInt64Max at hpast
      omega
    obtain ⟨t', ht', hfits, -⟩ :=
      h t.nanos ((extractHwTimestamp_eq_some _).mpr ⟨t, ht, haccepted, rfl⟩)
    obtain rfl : t = t' := Option.some.inj (ht.symm.trans ht')
    obtain ⟨hsec, hguard, hnsec, hpart, _⟩ := hardwareAccepted_iff.mp haccepted
    exact (fits_seconds_iff hsec hguard hnsec hpart).mp hfits hpast
  · intro h ns hns
    obtain ⟨t, ht, haccepted, rfl⟩ := (extractHwTimestamp_eq_some _).mp hns
    obtain ⟨hsec, hguard, hnsec, hpart, _⟩ := hardwareAccepted_iff.mp haccepted
    have hfits := (fits_seconds_iff hsec hguard hnsec hpart).mpr (h t ht)
    exact ⟨t, ht, hfits, (nanos_of_accepted haccepted).trans (bmod_eq_self hfits)⟩

/-! ## Both conversions -/

theorem clock_conversion_exact (t : PtpClockTime) (scmTimestampingNew : Option Int)
    (messages : List ControlMessage) :
    ((∀ ns, ptpTimeToNs t = some ns → Fits t.ns ∧ ns = t.ns)
        ↔ ¬PastInt64Max t.sec.toInt t.nsec.toNat)
      ∧ ((∀ ns, extractHwTimestamp scmTimestampingNew messages = some ns →
            ∃ t, hardwareTimestamp scmTimestampingNew messages = some t ∧ Fits (hardwareNs t)
              ∧ ns.toInt = hardwareNs t)
          ↔ ∀ t, hardwareTimestamp scmTimestampingNew messages = some t →
              ¬PastInt64Max t.sec.toInt t.nsec.toInt) :=
  ⟨ptpTimeToNs_exact_iff t, extractHwTimestamp_exact_iff scmTimestampingNew messages⟩

/-- The last nanosecond of the last admissible second is accepted and stored as a negative time. -/
theorem clock_conversion_wraps :
    ¬(∀ (t : PtpClockTime) ns, ptpTimeToNs t = some ns → Fits t.ns ∧ ns = t.ns)
      ∧ ptpTimeToNs ⟨9223372036, 999999999⟩ = some (-9223372036709551617)
      ∧ ¬(∀ (messages : List ControlMessage) ns, extractHwTimestamp none messages = some ns →
          ∃ t, hardwareTimestamp none messages = some t ∧ Fits (hardwareNs t)
            ∧ ns.toInt = hardwareNs t)
      ∧ extractHwTimestamp none [timestampingMessage ⟨0, 0⟩ ⟨0, 0⟩ ⟨9223372036, 999999999⟩]
          = some (-9223372036709551617) := by
  have hptp : ptpTimeToNs ⟨9223372036, 999999999⟩ = some (-9223372036709551617) := by decide
  have hhardware : extractHwTimestamp none [timestampingMessage ⟨0, 0⟩ ⟨0, 0⟩ ⟨9223372036, 999999999⟩]
      = some (-9223372036709551617) := by decide +kernel
  refine ⟨fun h => ?_, hptp, fun h => ?_, hhardware⟩
  · exact absurd (h _ _ hptp).2 (by decide)
  · obtain ⟨t, ht, -, hns⟩ := h _ _ hhardware
    rw [hardwareTimestamp, List.findSome?_cons, hardware_timestampingMessage] at ht
    obtain rfl := Option.some.inj ht
    exact absurd hns (by decide)

end AceXdp
