import Mathlib.Algebra.Group.Nat.Defs
import Mathlib.Data.List.Basic

/-!
# UTF-8 — the bytes of one code point

A code point from `0x80` on is a lead byte and one to three continuation bytes, six bits each. The
shortest form is the only one, and half of a surrogate pair has none.

* **`exists_char_of_sequence`** — a well-formed sequence is the encoding of a character;
* **`sequence_of_char`** — the encoding of a character is a well-formed sequence;
* **`decodes_iff`** — the derivations are the encodings of texts, so a text has one spelling
  (`Decodes.injective`);
* `toNat_pushBits`: the step of a decoder that shifts and masks.
-/

namespace Utf8

/-- `10xxxxxx`. -/
def Continuation (b : UInt8) : Prop := 0x80 ≤ b.toNat ∧ b.toNat < 0xc0

/-- Six more bits. -/
def push (v : Nat) (b : UInt8) : Nat := v * 64 + b.toNat % 64

/-- A lead byte with its bits and the number of bytes behind it. -/
inductive Lead : UInt8 → Nat → Nat → Prop where
  | two {b : UInt8} (lo : 0xc2 ≤ b.toNat) (hi : b.toNat ≤ 0xdf) : Lead b (b.toNat % 32) 1
  | three {b : UInt8} (lo : 0xe0 ≤ b.toNat) (hi : b.toNat ≤ 0xef) : Lead b (b.toNat % 16) 2
  | four {b : UInt8} (lo : 0xf0 ≤ b.toNat) (hi : b.toNat ≤ 0xf4) : Lead b (b.toNat % 8) 3

theorem Lead.not_ascii {b : UInt8} {bits n : Nat} (h : Lead b bits n) : 0x80 ≤ b.toNat := by
  cases h <;> omega

/-- A code point that needs `n` bytes behind its lead byte. -/
structure Scalar (n v : Nat) : Prop where
  short : n = 1 → 0x80 ≤ v
  middle : n = 2 → 0x800 ≤ v
  long : n = 3 → 0x10000 ≤ v
  bound : v ≤ 0x10ffff
  apart : v < 0xd800 ∨ 0xdfff < v

/-- The bytes behind `b` complete its sequence to the code point `v`. -/
structure Sequence (b : UInt8) (cs : List UInt8) (v : Nat) : Prop where
  lead : ∃ bits, Lead b bits cs.length ∧ v = cs.foldl push bits
  tail : ∀ c ∈ cs, Continuation c
  scalar : Scalar cs.length v

/-! ## Characters

One character against its one to four bytes. The ranges leave out surrogates and overlong forms. -/

theorem ofNat_eq {n : Nat} {b : UInt8} (h : n = b.toNat) : UInt8.ofNat n = b := by
  rw [h, UInt8.ofNat_toNat]

theorem encodeChar_one {c : Char} (h : c.toNat < 0x80) :
    String.utf8EncodeChar c = [UInt8.ofNat c.toNat] :=
  if_pos (Nat.le_of_lt_succ h)

theorem encodeChar_two {c : Char} (lo : 0x80 ≤ c.toNat) (hi : c.toNat < 0x800) :
    String.utf8EncodeChar c
      = [UInt8.ofNat (c.toNat / 64 % 32 + 0xc0), UInt8.ofNat (c.toNat % 64 + 0x80)] := by
  have hone : ¬c.val.toNat ≤ 0x7f := Nat.not_le.mpr lo
  have htwo : c.val.toNat ≤ 0x7ff := Nat.le_of_lt_succ hi
  exact (if_neg hone).trans (if_pos htwo)

theorem encodeChar_three {c : Char} (lo : 0x800 ≤ c.toNat) (hi : c.toNat < 0x10000) :
    String.utf8EncodeChar c
      = [UInt8.ofNat (c.toNat / 4096 % 16 + 0xe0), UInt8.ofNat (c.toNat / 64 % 64 + 0x80),
        UInt8.ofNat (c.toNat % 64 + 0x80)] := by
  have hone : ¬c.val.toNat ≤ 0x7f := Nat.not_le.mpr (by change 0x7f < c.toNat; omega)
  have htwo : ¬c.val.toNat ≤ 0x7ff := Nat.not_le.mpr lo
  have hthree : c.val.toNat ≤ 0xffff := Nat.le_of_lt_succ hi
  exact (if_neg hone).trans ((if_neg htwo).trans (if_pos hthree))

theorem encodeChar_four {c : Char} (lo : 0x10000 ≤ c.toNat) :
    String.utf8EncodeChar c
      = [UInt8.ofNat (c.toNat / 262144 % 8 + 0xf0), UInt8.ofNat (c.toNat / 4096 % 64 + 0x80),
        UInt8.ofNat (c.toNat / 64 % 64 + 0x80), UInt8.ofNat (c.toNat % 64 + 0x80)] := by
  have hone : ¬c.val.toNat ≤ 0x7f := Nat.not_le.mpr (by change 0x7f < c.toNat; omega)
  have htwo : ¬c.val.toNat ≤ 0x7ff := Nat.not_le.mpr (by change 0x7ff < c.toNat; omega)
  have hthree : ¬c.val.toNat ≤ 0xffff := Nat.not_le.mpr lo
  exact (if_neg hone).trans ((if_neg htwo).trans (if_neg hthree))

theorem toNat_char_range (c : Char) :
    c.toNat < 0xd800 ∨ (0xdfff < c.toNat ∧ c.toNat < 0x110000) := c.valid

theorem toNat_ofNat_char {v : Nat} (h : v < 0xd800 ∨ (0xdfff < v ∧ v < 0x110000)) :
    (Char.ofNat v).toNat = v := by
  rw [Char.ofNat, dif_pos h]
  rfl

/-- **A well-formed sequence is the encoding of a character.** -/
theorem exists_char_of_sequence {b : UInt8} {cs : List UInt8} {v : Nat} (h : Sequence b cs v) :
    ∃ c : Char, c.toNat = v ∧ String.utf8EncodeChar c = b :: cs := by
  obtain ⟨⟨bits, hlead, hv⟩, htail, hscalar⟩ := h
  have hapart := hscalar.apart
  have hbound := hscalar.bound
  have hchar : (Char.ofNat v).toNat = v := toNat_ofNat_char (by omega)
  refine ⟨Char.ofNat v, hchar, ?_⟩
  generalize hn : cs.length = n at hlead hscalar
  cases hlead with
  | two lo hi =>
    obtain ⟨c₁, rfl⟩ := List.length_eq_one_iff.mp hn
    have h₁ := htail c₁ (by simp)
    have hlow := hscalar.short rfl
    simp only [List.foldl_cons, List.foldl_nil, push, Continuation] at hv h₁
    rw [encodeChar_two (by omega) (by omega), hchar, ofNat_eq (b := b) (by omega),
      ofNat_eq (b := c₁) (by omega)]
  | three lo hi =>
    obtain ⟨c₁, c₂, rfl⟩ := List.length_eq_two.mp hn
    have h₁ := htail c₁ (by simp)
    have h₂ := htail c₂ (by simp)
    have hlow := hscalar.middle rfl
    simp only [List.foldl_cons, List.foldl_nil, push, Continuation] at hv h₁ h₂
    rw [encodeChar_three (by omega) (by omega), hchar, ofNat_eq (b := b) (by omega),
      ofNat_eq (b := c₁) (by omega), ofNat_eq (b := c₂) (by omega)]
  | four lo hi =>
    obtain ⟨c₁, c₂, c₃, rfl⟩ := List.length_eq_three.mp hn
    have h₁ := htail c₁ (by simp)
    have h₂ := htail c₂ (by simp)
    have h₃ := htail c₃ (by simp)
    have hlow := hscalar.long rfl
    simp only [List.foldl_cons, List.foldl_nil, push, Continuation] at hv h₁ h₂ h₃
    rw [encodeChar_four (by omega), hchar, ofNat_eq (b := b) (by omega),
      ofNat_eq (b := c₁) (by omega), ofNat_eq (b := c₂) (by omega), ofNat_eq (b := c₃) (by omega)]

theorem continuation_ofNat {n : Nat} (h : n < 64) : Continuation (UInt8.ofNat (n + 0x80)) := by
  rw [Continuation, UInt8.toNat_ofNat']
  omega

/-- **The encoding of a character is a well-formed sequence.** -/
theorem sequence_of_char {c : Char} (h : 0x80 ≤ c.toNat) :
    ∃ b cs, String.utf8EncodeChar c = b :: cs ∧ Sequence b cs c.toNat := by
  have hrange := toNat_char_range c
  by_cases htwo : c.toNat < 0x800
  · have hb : (UInt8.ofNat (c.toNat / 64 % 32 + 0xc0)).toNat = c.toNat / 64 + 0xc0 := by
      rw [UInt8.toNat_ofNat']
      omega
    refine ⟨_, _, encodeChar_two h htwo, ⟨_, .two (by rw [hb]; omega) (by rw [hb]; omega), ?_⟩,
      ?_, ⟨fun _ => h, nofun, nofun, by omega, by omega⟩⟩
    · simp only [List.foldl_cons, List.foldl_nil, push, hb, UInt8.toNat_ofNat']
      omega
    · exact List.forall_mem_singleton.mpr (continuation_ofNat (by omega))
  by_cases hthree : c.toNat < 0x10000
  · have hb : (UInt8.ofNat (c.toNat / 4096 % 16 + 0xe0)).toNat = c.toNat / 4096 + 0xe0 := by
      rw [UInt8.toNat_ofNat']
      omega
    refine ⟨_, _, encodeChar_three (by omega) hthree,
      ⟨_, .three (by rw [hb]; omega) (by rw [hb]; omega), ?_⟩, ?_,
      ⟨nofun, fun _ => by omega, nofun, by omega, by omega⟩⟩
    · simp only [List.foldl_cons, List.foldl_nil, push, hb, UInt8.toNat_ofNat']
      omega
    · exact List.forall_mem_cons.mpr ⟨continuation_ofNat (by omega),
        List.forall_mem_singleton.mpr (continuation_ofNat (by omega))⟩
  · have hb : (UInt8.ofNat (c.toNat / 262144 % 8 + 0xf0)).toNat = c.toNat / 262144 + 0xf0 := by
      rw [UInt8.toNat_ofNat']
      omega
    refine ⟨_, _, encodeChar_four (by omega),
      ⟨_, .four (by rw [hb]; omega) (by rw [hb]; omega), ?_⟩, ?_,
      ⟨nofun, nofun, fun _ => by omega, by omega, by omega⟩⟩
    · simp only [List.foldl_cons, List.foldl_nil, push, hb, UInt8.toNat_ofNat']
      omega
    · exact List.forall_mem_cons.mpr ⟨continuation_ofNat (by omega),
        List.forall_mem_cons.mpr ⟨continuation_ofNat (by omega),
          List.forall_mem_singleton.mpr (continuation_ofNat (by omega))⟩⟩

/-! ## Texts

A byte string decodes in at most one way. -/

/-- `b` and the bytes `cs` behind it spell one code point. -/
inductive CodePoint : UInt8 → List UInt8 → Nat → Prop where
  | ascii {b : UInt8} (h : b.toNat < 0x80) : CodePoint b [] b.toNat
  | wide {b : UInt8} {cs : List UInt8} {v : Nat} (h : Sequence b cs v) : CodePoint b cs v

/-- The bytes are well formed, code point by code point. -/
inductive Decodes : List UInt8 → List Nat → Prop where
  | nil : Decodes [] []
  | cons {b : UInt8} {cs bytes : List UInt8} {v : Nat} {points : List Nat}
      (head : CodePoint b cs v) (tail : Decodes bytes points) :
      Decodes (b :: (cs ++ bytes)) (v :: points)

theorem CodePoint.exists_char {b : UInt8} {cs : List UInt8} {v : Nat} (h : CodePoint b cs v) :
    ∃ c : Char, c.toNat = v ∧ String.utf8EncodeChar c = b :: cs := by
  cases h with
  | ascii h =>
    have hchar : (Char.ofNat b.toNat).toNat = b.toNat := toNat_ofNat_char (by omega)
    refine ⟨Char.ofNat b.toNat, hchar, ?_⟩
    rw [encodeChar_one (by omega), hchar, UInt8.ofNat_toNat]
  | wide h => exact exists_char_of_sequence h

theorem codePoint_of_char (c : Char) :
    ∃ b cs, String.utf8EncodeChar c = b :: cs ∧ CodePoint b cs c.toNat := by
  by_cases h : c.toNat < 0x80
  · have hb : (UInt8.ofNat c.toNat).toNat = c.toNat := by
      rw [UInt8.toNat_ofNat']
      omega
    have hpoint : CodePoint (UInt8.ofNat c.toNat) [] (UInt8.ofNat c.toNat).toNat :=
      .ascii (by omega)
    rw [hb] at hpoint
    exact ⟨_, [], encodeChar_one h, hpoint⟩
  · obtain ⟨b, cs, hencode, hseq⟩ := sequence_of_char (Nat.not_lt.mp h)
    exact ⟨b, cs, hencode, .wide hseq⟩

theorem CodePoint.ne_zero_of_mem {b : UInt8} {cs : List UInt8} {v : Nat} (h : CodePoint b cs v)
    {c : UInt8} (hc : c ∈ cs) : c ≠ 0 := by
  cases h with
  | ascii _ => exact absurd hc List.not_mem_nil
  | wide h =>
    rintro rfl
    exact absurd (h.tail 0 hc).1 (by decide)

/-- **The well-formed byte strings are the encodings of texts.** -/
theorem decodes_iff {bytes : List UInt8} {points : List Nat} :
    Decodes bytes points
      ↔ ∃ text : List Char, text.flatMap String.utf8EncodeChar = bytes
        ∧ text.map Char.toNat = points := by
  constructor
  · intro h
    induction h with
    | nil => exact ⟨[], rfl, rfl⟩
    | cons head _ ih =>
      obtain ⟨c, hv, hencode⟩ := head.exists_char
      obtain ⟨text, hbytes, hpoints⟩ := ih
      refine ⟨c :: text, ?_, ?_⟩
      · rw [List.flatMap_cons, hencode, hbytes, List.cons_append]
      · rw [List.map_cons, hv, hpoints]
  · rintro ⟨text, rfl, rfl⟩
    induction text with
    | nil => exact .nil
    | cons c text ih =>
      obtain ⟨b, cs, hencode, hpoint⟩ := codePoint_of_char c
      rw [List.flatMap_cons, hencode, List.cons_append]
      exact .cons hpoint ih

theorem Decodes.injective {bytes bytes' : List UInt8} {points : List Nat}
    (h : Decodes bytes points) (h' : Decodes bytes' points) : bytes = bytes' := by
  obtain ⟨text, rfl, hpoints⟩ := decodes_iff.mp h
  obtain ⟨text', rfl, hpoints'⟩ := decodes_iff.mp h'
  have htext : text = text' :=
    List.map_injective_iff.mpr (fun a b hab => Char.toNat_inj.mp hab) (hpoints.trans hpoints'.symm)
  rw [htext]

theorem Decodes.isScalar {bytes : List UInt8} {points : List Nat} (h : Decodes bytes points) :
    ∀ v ∈ points, v < 0xd800 ∨ (0xdfff < v ∧ v < 0x110000) := by
  obtain ⟨text, _, rfl⟩ := decodes_iff.mp h
  intro v hv
  obtain ⟨c, _, rfl⟩ := List.mem_map.mp hv
  exact toNat_char_range c

/-! ## Shifting and masking

The bit operations of a decoder as arithmetic. -/

theorem toNat_and_low (b : UInt8) (k : Nat) (hk : k ≤ 8) :
    (b &&& UInt8.ofNat (2 ^ k - 1)).toNat = b.toNat % 2 ^ k := by
  have hlt : 2 ^ k - 1 < 2 ^ 8 := by
    have hpow : 2 ^ k ≤ 2 ^ 8 := Nat.pow_le_pow_right (by decide) hk
    omega
  rw [UInt8.toNat_and, UInt8.toNat_ofNat', Nat.mod_eq_of_lt hlt, Nat.and_two_pow_sub_one_eq_mod]

theorem and_c0_iff (b : UInt8) : b &&& 0xc0 = 0x80 ↔ Continuation b := by
  have hall : ∀ n, n < 256 →
      (UInt8.ofNat n &&& 0xc0 = 0x80 ↔ 0x80 ≤ n ∧ n < 0xc0) := by decide +kernel
  have h := hall b.toNat b.toNat_lt
  rwa [UInt8.ofNat_toNat] at h

theorem toNat_pushBits {cp : UInt32} (b : UInt8) (h : cp.toNat < 2 ^ 26) :
    ((cp <<< 6) ||| (b &&& 0x3f).toUInt32).toNat = push cp.toNat b := by
  have hlow : (b &&& 0x3f).toUInt32.toNat = b.toNat % 64 := by
    rw [UInt8.toNat_toUInt32]
    exact toNat_and_low b 6 (by decide)
  have hshift : (cp <<< 6).toNat = cp.toNat <<< 6 := by
    rw [UInt32.toNat_shiftLeft, show (6 : UInt32).toNat % 32 = 6 from rfl, Nat.shiftLeft_eq]
    exact Nat.mod_eq_of_lt (by omega)
  rw [UInt32.toNat_or, hlow, hshift,
    ← Nat.shiftLeft_add_eq_or_of_lt (Nat.mod_lt _ (by decide) : b.toNat % 64 < 2 ^ 6),
    Nat.shiftLeft_eq, push]

end Utf8
