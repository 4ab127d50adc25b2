import Mathlib.Data.List.Infix

/-!
# Framed streams — equal-size frames on a byte stream, whole, partial or torn

A writer puts frames of one size on a stream, a few bytes at a time. It may give up in the middle
of one and put a trailer of the same size behind what it wrote, so that a reader who cuts the
stream into frames meets, at worst, one frame that is neither.

* **`block_eq_frame`** — what a reader cuts out of a stream that was not torn is a frame;
* **`Torn.block`** — past the last frame begun, it can only be the trailer.
-/

namespace Framing

universe u v

variable {α : Type u} {β : Type v} {size : Nat} {frame : α → List β}

/-- The `k`-th frame a reader cuts out. -/
def block (size k : Nat) (wire : List β) : List β := (wire.drop (size * k)).take size

theorem length_frames {ms : List α} (h : ∀ m ∈ ms, (frame m).length = size) :
    (ms.flatMap frame).length = size * ms.length := by
  induction ms with
  | nil => simp
  | cons m ms ih =>
    rw [List.flatMap_cons, List.length_append, h m List.mem_cons_self,
      ih fun x hx => h x (List.mem_cons_of_mem _ hx), List.length_cons, Nat.mul_succ]
    omega

theorem block_of_isPrefix {k : Nat} {wire wire' : List β} (h : wire <+: wire')
    (hlen : size * (k + 1) ≤ wire.length) : block size k wire = block size k wire' := by
  obtain ⟨t, rfl⟩ := h
  rw [Nat.mul_succ] at hlen
  unfold block
  rw [List.drop_append_of_le_length (by omega), List.take_append_of_le_length (by simp; omega)]

/-- **What a reader cuts out of a stream that was not torn is a frame.** -/
theorem block_eq_frame {before after : List α} {m : α} {wire : List β}
    (hsize : ∀ x ∈ before ++ m :: after, (frame x).length = size)
    (hwire : wire <+: (before ++ m :: after).flatMap frame)
    (hlen : size * (before.length + 1) ≤ wire.length) :
    block size before.length wire = frame m := by
  have hbefore : (before.flatMap frame).length = size * before.length :=
    length_frames fun x hx => hsize x (List.mem_append_left _ hx)
  have hm : (frame m).length = size := hsize m (by simp)
  rw [block_of_isPrefix hwire hlen, block, List.flatMap_append, List.flatMap_cons, ← hbefore,
    List.drop_left, ← hm, List.take_left]

/-- A stream cut somewhere after its first `intact` elements, with `trailer` behind it but for the
`rest` not yet written. -/
def Torn (frames trailer : List β) (intact : Nat) (wire rest : List β) : Prop :=
  ∃ kept tail, wire = kept ++ tail ∧ kept <+: frames ∧ tail ++ rest = trailer
    ∧ intact ≤ kept.length

section Torn

variable {ms : List α} {frames trailer wire rest : List β} {intact : Nat}

theorem torn_start (h : wire <+: frames) (hintact : intact ≤ wire.length) :
    Torn frames trailer intact wire trailer :=
  ⟨wire, [], by simp, h, rfl, hintact⟩

theorem Torn.transmit (h : Torn frames trailer intact wire rest) (n : Nat) :
    Torn frames trailer intact (wire ++ rest.take n) (rest.drop n) := by
  obtain ⟨kept, tail, rfl, hkept, htail, hintact⟩ := h
  refine ⟨kept, tail ++ rest.take n, by simp, hkept, ?_, hintact⟩
  rw [List.append_assoc, List.take_append_drop, htail]

/-- **Past the last frame begun, only the trailer.** -/
theorem Torn.block (h : Torn (ms.flatMap frame) trailer intact wire rest)
    (hsize : ∀ m ∈ ms, (frame m).length = size) (htrailer : trailer.length = size) {k : Nat}
    (hk : ms.length ≤ k) (hlen : size * (k + 1) ≤ wire.length) :
    Framing.block size k wire = trailer := by
  obtain ⟨kept, tail, rfl, hkept, htail, -⟩ := h
  have hmul : size * ms.length ≤ size * k := Nat.mul_le_mul_left _ hk
  have hkeptLen := hkept.length_le
  have hframes := length_frames hsize
  have htailLen := congrArg List.length htail
  rw [List.length_append] at hlen htailLen
  rw [Nat.mul_succ] at hlen
  -- the frames end where the block starts, and the trailer is whole
  have hat : kept.length = size * k := by omega
  have hrest : rest = [] := List.eq_nil_of_length_eq_zero (by omega)
  rw [hrest, List.append_nil] at htail
  rw [Framing.block, ← hat, List.drop_left, htail, ← htrailer, List.take_length]

/-- **Before the cut, only frames.** -/
theorem Torn.block_intact (h : Torn frames trailer intact wire rest) {k : Nat}
    (hk : size * (k + 1) ≤ intact) :
    Framing.block size k wire = Framing.block size k frames := by
  obtain ⟨kept, tail, rfl, hkept, -, hintact⟩ := h
  rw [← block_of_isPrefix (List.prefix_append kept tail) (by omega),
    block_of_isPrefix hkept (by omega)]

end Torn

end Framing
