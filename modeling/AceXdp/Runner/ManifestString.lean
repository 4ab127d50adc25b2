import AceXdp.Lib.JsonDump
import AceXdp.Lib.Utf8

/-!
# AceXdp — the strings of the manifest (`json_string` of `ace_manifest.c`)

It reads the bytes of a path and writes them as ASCII JSON. It works on the memory from
`p` on: what it reads behind the terminating NUL would be a fault.

* **`jsonChar_of_codePoint`**, **`codePoint_of_jsonChar`** — one turn of the loop takes exactly one
  code point;
* **`jsonChars_of_decodes`**, **`decodes_of_jsonChars`** — the loop accepts exactly well-formed
  UTF-8;
* `jsonChars_ne_pastEnd`: it stops at the NUL or before;
* **`json_string_utf8`** — what it writes is read back as the code points of the input.
-/

namespace AceXdp.Manifest

open Json Utf8

inductive Fault where
  /-- `errno = EILSEQ`. -/
  | eilseq
  /-- A read behind the end of the memory. -/
  | pastEnd
  deriving DecidableEq, Repr

/-- The first byte of a longer sequence: its bits and `continuation`. -/
def leadByte (b : UInt8) : Option (UInt32 × Nat) :=
  if 0xc2 ≤ b ∧ b ≤ 0xdf then some ((b &&& 0x1f).toUInt32, 1)
  else if 0xe0 ≤ b ∧ b ≤ 0xef then some ((b &&& 0x0f).toUInt32, 2)
  else if 0xf0 ≤ b ∧ b ≤ 0xf4 then some ((b &&& 0x07).toUInt32, 3)
  else none

/-- `for (i = 0; i < continuation; i++)`. -/
def readContinuation : Nat → UInt32 → List UInt8 → Except Fault (UInt32 × List UInt8)
  | 0, cp, p => .ok (cp, p)
  | _ + 1, _, [] => .error .pastEnd
  | n + 1, cp, b :: p =>
    if b &&& 0xc0 ≠ 0x80 then .error .eilseq
    else readContinuation n ((cp <<< 6) ||| (b &&& 0x3f).toUInt32) p

/-- Overlong, out of range or half of a pair. -/
def isRejected (continuation : Nat) (cp : UInt32) : Bool :=
  (continuation = 1 && cp < 0x80) || (continuation = 2 && cp < 0x800)
    || (continuation = 3 && cp < 0x10000) || 0x10ffff < cp || (0xd800 ≤ cp && cp ≤ 0xdfff)

def asciiText (b : UInt8) : List Char :=
  if b = 0x22 ∨ b = 0x5c then ['\\', Char.ofNat b.toNat]
  else if b < 0x20 then unicodeEscape b.toNat
  else [Char.ofNat b.toNat]

def highSurrogate (cp : UInt32) : UInt32 := (0xd800 : UInt32) + (cp >>> 10)
def lowSurrogate (cp : UInt32) : UInt32 := (0xdc00 : UInt32) + (cp &&& 0x3ff)

def wideText (cp : UInt32) : List Char :=
  if cp ≤ 0xffff then unicodeEscape cp.toNat
  else
    unicodeEscape (highSurrogate (cp - 0x10000)).toNat
      ++ unicodeEscape (lowSurrogate (cp - 0x10000)).toNat

/-- One turn of the loop on a byte that is not the NUL: what it writes and where it leaves `p`. -/
def jsonChar (b : UInt8) (p : List UInt8) : Except Fault (List Char × List UInt8) :=
  if b < 0x80 then .ok (asciiText b, p)
  else
    match leadByte b with
    | none => .error .eilseq
    | some (bits, continuation) =>
      match readContinuation continuation bits p with
      | .error fault => .error fault
      | .ok (cp, rest) =>
        if isRejected continuation cp then .error .eilseq else .ok (wideText cp, rest)

/-! ## One turn

A step of the decoder takes one to four bytes, or refuses the string. -/

theorem readContinuation_length {n : Nat} {cp cp' : UInt32} {p rest : List UInt8}
    (h : readContinuation n cp p = .ok (cp', rest)) : rest.length ≤ p.length := by
  induction n, cp, p using readContinuation.induct with
  | case1 cp p =>
    cases h
    exact Nat.le_refl _
  | case2 cp n => cases h
  | case3 cp n b p hb =>
    rw [readContinuation, if_pos hb] at h
    cases h
  | case4 cp n b p hb ih =>
    rw [readContinuation, if_neg hb] at h
    exact Nat.le_succ_of_le (ih h)

theorem jsonChar_length {b : UInt8} {p rest : List UInt8} {out : List Char}
    (h : jsonChar b p = .ok (out, rest)) : rest.length ≤ p.length := by
  unfold jsonChar at h
  split at h
  · cases h
    exact Nat.le_refl _
  split at h
  · cases h
  split at h
  · cases h
  · rename_i hread
    split at h
    · cases h
    · cases h
      exact readContinuation_length hread

/-- `while (*p)` and the closing quote. -/
def jsonChars : List UInt8 → Except Fault (List Char)
  | [] => .error .pastEnd
  | b :: p =>
    if b = 0 then .ok ['"']
    else
      match _h : jsonChar b p with
      | .error fault => .error fault
      | .ok (out, rest) =>
        match jsonChars rest with
        | .error fault => .error fault
        | .ok more => .ok (out ++ more)
termination_by p => p.length
decreasing_by exact Nat.lt_succ_of_le (jsonChar_length _h)

/-- `json_string` with a stream that takes everything: what it writes. -/
def jsonString : Option (List UInt8) → Except Fault (List Char)
  | none => .ok ['n', 'u', 'l', 'l']
  | some p =>
    match jsonChars p with
    | .error fault => .error fault
    | .ok out => .ok ('"' :: out)

/-! ## Lead bytes and continuations

The masks and comparisons of the C code against the table of well-formed sequences. -/

theorem le_iff_toNat {a b : UInt8} : a ≤ b ↔ a.toNat ≤ b.toNat := UInt8.le_iff_toNat_le

theorem lead_of_leadByte {b : UInt8} {bits : UInt32} {n : Nat} (h : leadByte b = some (bits, n)) :
    Lead b bits.toNat n := by
  unfold leadByte at h
  simp only [le_iff_toNat] at h
  split at h
  · cases h
    rename_i hrange
    rw [UInt8.toNat_toUInt32, show (0x1f : UInt8) = UInt8.ofNat (2 ^ 5 - 1) from rfl,
      toNat_and_low b 5 (by decide)]
    exact .two hrange.1 hrange.2
  split at h
  · cases h
    rename_i hrange
    rw [UInt8.toNat_toUInt32, show (0x0f : UInt8) = UInt8.ofNat (2 ^ 4 - 1) from rfl,
      toNat_and_low b 4 (by decide)]
    exact .three hrange.1 hrange.2
  split at h
  · cases h
    rename_i hrange
    rw [UInt8.toNat_toUInt32, show (0x07 : UInt8) = UInt8.ofNat (2 ^ 3 - 1) from rfl,
      toNat_and_low b 3 (by decide)]
    exact .four hrange.1 hrange.2
  · cases h

/-- A lead byte says how many bytes follow. -/
theorem leadByte_of_lead {b : UInt8} {v n : Nat} (h : Lead b v n) :
    ∃ bits, leadByte b = some (bits, n) ∧ bits.toNat = v ∧ (bits.toNat + 1) * 64 ^ n ≤ 2 ^ 32 := by
  have hsome : ∃ bits, leadByte b = some (bits, n) := by
    unfold leadByte
    simp only [le_iff_toNat]
    cases h with
    | two lo hi => exact ⟨_, if_pos ⟨lo, hi⟩⟩
    | three lo hi =>
      refine ⟨(b &&& 0x0f).toUInt32, ?_⟩
      rw [if_neg (fun hrange => absurd (Nat.le_trans lo hrange.2) (by decide)),
        if_pos ⟨lo, hi⟩]
    | four lo hi =>
      refine ⟨(b &&& 0x07).toUInt32, ?_⟩
      rw [if_neg (fun hrange => absurd (Nat.le_trans lo hrange.2) (by decide)),
        if_neg (fun hrange => absurd (Nat.le_trans lo hrange.2) (by decide)), if_pos ⟨lo, hi⟩]
  obtain ⟨bits, hbits⟩ := hsome
  refine ⟨bits, hbits, ?_⟩
  generalize hw : bits.toNat = w at *
  have hlead := lead_of_leadByte hbits
  rw [hw] at hlead
  cases h <;> cases hlead <;> exact ⟨rfl, by omega⟩

/-- Twenty-six bits take six more without loss; the room shrinks by six bits a turn. -/
theorem room_push {cp : UInt32} {n : Nat} (b : UInt8) (h : (cp.toNat + 1) * 64 ^ (n + 1) ≤ 2 ^ 32) :
    ((cp <<< 6) ||| (b &&& 0x3f).toUInt32).toNat = push cp.toNat b
      ∧ (push cp.toNat b + 1) * 64 ^ n ≤ 2 ^ 32 := by
  have hpos : 1 ≤ 64 ^ n := Nat.pow_pos (by decide)
  have hstep : (cp.toNat + 1) * 64 * 64 ^ n ≤ 2 ^ 32 := by
    rwa [Nat.mul_assoc, ← Nat.pow_succ']
  have hroom : (cp.toNat + 1) * 64 ≤ 2 ^ 32 :=
    Nat.le_trans (Nat.le_mul_of_pos_right _ hpos) hstep
  refine ⟨toNat_pushBits b (by omega), Nat.le_trans (Nat.mul_le_mul_right _ ?_) hstep⟩
  unfold push
  omega

/-- **The continuation loop takes its bytes.** Induction on them. -/
theorem readContinuation_of_tail {cs : List UInt8} {cp : UInt32}
    (htail : ∀ c ∈ cs, Continuation c) (hroom : (cp.toNat + 1) * 64 ^ cs.length ≤ 2 ^ 32) :
    ∃ cp', cp'.toNat = cs.foldl push cp.toNat
      ∧ ∀ p, readContinuation cs.length cp (cs ++ p) = .ok (cp', p) := by
  induction cs generalizing cp with
  | nil => exact ⟨cp, rfl, fun _ => rfl⟩
  | cons c cs ih =>
    obtain ⟨hpush, hroom'⟩ := room_push c hroom
    have hc : ¬(c &&& 0xc0 ≠ 0x80) :=
      not_not_intro ((and_c0_iff c).mpr (htail c List.mem_cons_self))
    obtain ⟨cp', hcp', hread⟩ :=
      ih (fun d hd => htail d (List.mem_cons_of_mem _ hd)) (by rw [hpush]; exact hroom')
    refine ⟨cp', by rw [hcp', hpush, List.foldl_cons], fun p => ?_⟩
    rw [List.cons_append, List.length_cons, readContinuation, if_neg hc, hread]

/-- **The continuation loop takes nothing else.** -/
theorem tail_of_readContinuation {n : Nat} {cp cp' : UInt32} {p rest : List UInt8}
    (h : readContinuation n cp p = .ok (cp', rest)) (hroom : (cp.toNat + 1) * 64 ^ n ≤ 2 ^ 32) :
    ∃ cs, p = cs ++ rest ∧ cs.length = n ∧ (∀ c ∈ cs, Continuation c)
      ∧ cp'.toNat = cs.foldl push cp.toNat := by
  induction n, cp, p using readContinuation.induct with
  | case1 cp p =>
    cases h
    exact ⟨[], rfl, rfl, nofun, rfl⟩
  | case2 cp n => cases h
  | case3 cp n b p hb =>
    rw [readContinuation, if_pos hb] at h
    cases h
  | case4 cp n b p hb ih =>
    rw [readContinuation, if_neg hb] at h
    obtain ⟨hpush, hroom'⟩ := room_push b hroom
    obtain ⟨cs, rfl, hlen, htail, hcp'⟩ := ih h (by rw [hpush]; exact hroom')
    refine ⟨b :: cs, rfl, by rw [List.length_cons, hlen], ?_, ?_⟩
    · exact List.forall_mem_cons.mpr ⟨(and_c0_iff b).mp (not_not.mp hb), htail⟩
    · rw [hcp', hpush, List.foldl_cons]

/-- A NUL ahead is no continuation byte, so the loop stops there. -/
theorem readContinuation_ne_pastEnd {n : Nat} {cp : UInt32} {p : List UInt8} (h : 0 ∈ p) :
    readContinuation n cp p ≠ .error .pastEnd := by
  induction n, cp, p using readContinuation.induct with
  | case1 cp p => nofun
  | case2 cp n => exact absurd h List.not_mem_nil
  | case3 cp n b p hb =>
    rw [readContinuation, if_pos hb]
    nofun
  | case4 cp n b p hb ih =>
    rw [readContinuation, if_neg hb]
    refine ih ((List.mem_cons.mp h).resolve_left ?_)
    rintro rfl
    exact hb (by decide)

theorem isRejected_eq_false_iff (n : Nat) (cp : UInt32) :
    isRejected n cp = false ↔ Scalar n cp.toNat := by
  simp only [isRejected, Bool.or_eq_false_iff, Bool.and_eq_false_iff, decide_eq_false_iff_not,
    UInt32.lt_iff_toNat_lt, UInt32.le_iff_toNat_le]
  change (((((_ ∨ ¬cp.toNat < 0x80) ∧ (_ ∨ ¬cp.toNat < 0x800)) ∧ (_ ∨ ¬cp.toNat < 0x10000))
    ∧ ¬0x10ffff < cp.toNat) ∧ (¬0xd800 ≤ cp.toNat ∨ ¬cp.toNat ≤ 0xdfff)) ↔ _
  constructor
  · rintro ⟨⟨⟨⟨hshort, hmiddle⟩, hlong⟩, hbound⟩, hapart⟩
    exact ⟨by omega, by omega, by omega, by omega, by omega⟩
  · rintro ⟨hshort, hmiddle, hlong, hbound, hapart⟩
    omega

/-! ## What is written

A quote, a backslash and the control characters are escaped, everything else is copied. -/

/-- ASCII that is scanned as the code units of `v`. -/
structure Writes (out : List Char) (v : Nat) : Prop where
  scans : ScansTo out (units v)
  ascii : ∀ c ∈ out, c.toNat < 0x80

theorem unicodeEscape_ascii (n : Nat) : ∀ c ∈ unicodeEscape n, c.toNat < 0x80 := by
  have hdigit : ∀ d, d < 16 → d.digitChar.toNat < 0x80 := by decide
  intro c hc
  simp only [unicodeEscape, hex4Text, List.mem_cons, List.not_mem_nil, or_false] at hc
  rcases hc with rfl | rfl | rfl | rfl | rfl | rfl
  · decide
  · decide
  all_goals exact hdigit _ (Nat.mod_lt _ (by decide))

theorem writes_unicodeEscape {v : Nat} (h : v < 0x10000) : Writes (unicodeEscape v) v := by
  refine ⟨?_, unicodeEscape_ascii v⟩
  rw [units, if_pos h]
  exact scansTo_unicodeEscape h

theorem writes_asciiText {b : UInt8} (h : b.toNat < 0x80) : Writes (asciiText b) b.toNat := by
  have hchar : (Char.ofNat b.toNat).toNat = b.toNat := toNat_ofNat_char (by omega)
  unfold asciiText
  split
  · rename_i hquoted
    rcases hquoted with rfl | rfl
    · exact ⟨scansTo_escape rfl, by decide⟩
    · exact ⟨scansTo_escape rfl, by decide⟩
  rename_i hplain
  split
  · exact writes_unicodeEscape (by omega)
  rename_i hcontrol
  refine ⟨?_, List.forall_mem_singleton.mpr (by rw [hchar]; exact h)⟩
  have hunits : units b.toNat = [b.toNat] := if_pos (by omega)
  have hscan := scansTo_plain (c := Char.ofNat b.toNat) ?_ ?_ ?_
  · rw [hunits]
    rwa [hchar] at hscan
  · intro heq
    refine hplain (.inl (UInt8.toNat_inj.mp ?_))
    rw [← hchar, heq]
    rfl
  · intro heq
    refine hplain (.inr (UInt8.toNat_inj.mp ?_))
    rw [← hchar, heq]
    rfl
  · rw [hchar]
    exact Nat.not_lt.mp (fun hlt => hcontrol (UInt8.lt_iff_toNat_lt.mpr hlt))

theorem toNat_surrogates {cp : UInt32} (lo : 0x10000 ≤ cp.toNat) (hi : cp.toNat ≤ 0x10ffff) :
    (highSurrogate (cp - 0x10000)).toNat = highHalf cp.toNat
      ∧ (lowSurrogate (cp - 0x10000)).toNat = lowHalf cp.toNat := by
  have hsub : (cp - 0x10000).toNat = cp.toNat - 0x10000 :=
    UInt32.toNat_sub_of_le _ _ (UInt32.le_iff_toNat_le.mpr lo)
  have hshift : ((cp - 0x10000) >>> 10).toNat = (cp.toNat - 0x10000) / 0x400 := by
    rw [UInt32.toNat_shiftRight, hsub]
    exact Nat.shiftRight_eq_div_pow _ 10
  have hmask : ((cp - 0x10000) &&& 0x3ff).toNat = (cp.toNat - 0x10000) % 0x400 := by
    rw [UInt32.toNat_and, hsub]
    exact Nat.and_two_pow_sub_one_eq_mod _ 10
  constructor
  · rw [highSurrogate, UInt32.toNat_add, hshift, highHalf]
    change (0xd800 + _) % 2 ^ 32 = _
    omega
  · rw [lowSurrogate, UInt32.toNat_add, hmask, lowHalf]
    change (0xdc00 + _) % 2 ^ 32 = _
    omega

theorem writes_wideText {cp : UInt32} (h : cp.toNat ≤ 0x10ffff) :
    Writes (wideText cp) cp.toNat := by
  unfold wideText
  split
  · rename_i hbmp
    exact writes_unicodeEscape (Nat.lt_succ_of_le (UInt32.le_iff_toNat_le.mp hbmp))
  · rename_i hwide
    have hlo : 0x10000 ≤ cp.toNat :=
      Nat.not_lt.mp fun hlt => hwide (UInt32.le_iff_toNat_le.mpr (Nat.le_of_lt_succ hlt))
    obtain ⟨hhigh, hlow⟩ := toNat_surrogates hlo h
    rw [hhigh, hlow]
    have hhighBound : highHalf cp.toNat < 0x10000 := by unfold highHalf; omega
    have hlowBound : lowHalf cp.toNat < 0x10000 := by unfold lowHalf; omega
    refine ⟨?_, List.forall_mem_append.mpr ⟨unicodeEscape_ascii _, unicodeEscape_ascii _⟩⟩
    rw [units, if_neg (Nat.not_lt.mpr hlo)]
    exact (scansTo_unicodeEscape hhighBound).append (scansTo_unicodeEscape hlowBound)

/-! ## One turn of the loop

One character is read and its escape written. -/

/-- **A code point is taken**, whatever follows it. -/
theorem jsonChar_of_codePoint {b : UInt8} {cs : List UInt8} {v : Nat} (h : CodePoint b cs v) :
    ∃ out, Writes out v ∧ ∀ p, jsonChar b (cs ++ p) = .ok (out, p) := by
  cases h with
  | ascii hascii =>
    exact ⟨asciiText b, writes_asciiText hascii,
      fun p => if_pos (UInt8.lt_iff_toNat_lt.mpr hascii)⟩
  | wide hseq =>
    obtain ⟨⟨bits, hlead, rfl⟩, htail, hscalar⟩ := hseq
    obtain ⟨start, hstart, rfl, hroom⟩ := leadByte_of_lead hlead
    obtain ⟨cp, hcp, hread⟩ := readContinuation_of_tail htail hroom
    rw [← hcp] at hscalar
    refine ⟨wideText cp, hcp ▸ writes_wideText hscalar.bound, fun p => ?_⟩
    have hb : ¬b < 0x80 := fun hlt =>
      absurd (UInt8.lt_iff_toNat_lt.mp hlt) (Nat.not_lt.mpr hlead.not_ascii)
    have hkept := (isRejected_eq_false_iff cs.length cp).mpr hscalar
    simp only [jsonChar, if_neg hb, hstart, hread, hkept, Bool.false_eq_true, if_false]

/-- **Nothing but a code point is taken.** -/
theorem codePoint_of_jsonChar {b : UInt8} {p rest : List UInt8} {out : List Char}
    (h : jsonChar b p = .ok (out, rest)) : ∃ cs v, CodePoint b cs v ∧ p = cs ++ rest := by
  unfold jsonChar at h
  split at h
  · rename_i hascii
    cases h
    exact ⟨[], b.toNat, .ascii (UInt8.lt_iff_toNat_lt.mp hascii), rfl⟩
  split at h
  · cases h
  rename_i bits n hstart
  split at h
  · cases h
  rename_i cp after hread
  split at h
  · cases h
  rename_i hkept
  cases h
  have hlead := lead_of_leadByte hstart
  obtain ⟨start, hstart', hbits, hroom⟩ := leadByte_of_lead hlead
  rw [hbits] at hroom
  obtain ⟨cs, rfl, rfl, htail, hcp⟩ := tail_of_readContinuation hread hroom
  have hscalar := (isRejected_eq_false_iff cs.length cp).mp (Bool.not_eq_true _ ▸ hkept)
  exact ⟨cs, cp.toNat, .wide ⟨⟨bits.toNat, hlead, hcp⟩, htail, hscalar⟩, rfl⟩

theorem jsonChar_ne_pastEnd {b : UInt8} {p : List UInt8} (h : 0 ∈ p) :
    jsonChar b p ≠ .error .pastEnd := by
  unfold jsonChar
  split
  · nofun
  split
  · nofun
  rename_i bits n _
  split
  · rename_i fault hread
    rintro heq
    cases heq
    exact readContinuation_ne_pastEnd h hread
  split <;> nofun

/-! ## The loop

So the text spells the decoded string, and the loop fails exactly at a byte that continues no
sequence. -/

theorem jsonChars_nul (beyond : List UInt8) : jsonChars (0 :: beyond) = .ok ['"'] := by
  rw [jsonChars, if_pos rfl]

theorem jsonChars_error {b : UInt8} {p : List UInt8} {fault : Fault} (hb : b ≠ 0)
    (h : jsonChar b p = .error fault) : jsonChars (b :: p) = .error fault := by
  rw [jsonChars, if_neg hb]
  split
  · rename_i heq
    rw [h] at heq
    cases heq
    rfl
  · rename_i heq
    rw [h] at heq
    cases heq

theorem jsonChars_ok {b : UInt8} {p rest : List UInt8} {out : List Char} (hb : b ≠ 0)
    (h : jsonChar b p = .ok (out, rest)) :
    jsonChars (b :: p) = (jsonChars rest).map (out ++ ·) := by
  rw [jsonChars, if_neg hb]
  split
  · rename_i heq
    rw [h] at heq
    cases heq
  · rename_i heq
    rw [h] at heq
    cases heq
    cases jsonChars rest <;> rfl

/-- **Well-formed input goes through**, whatever lies behind the NUL. Induction on the
derivation. -/
theorem jsonChars_of_decodes {bytes : List UInt8} {points : List Nat} (h : Decodes bytes points)
    (hnul : 0 ∉ bytes) :
    ∃ body, ScansTo body (points.flatMap units) ∧ (∀ c ∈ body, c.toNat < 0x80)
      ∧ ∀ beyond, jsonChars (bytes ++ 0 :: beyond) = .ok (body ++ ['"']) := by
  induction h with
  | nil => exact ⟨[], scansTo_nil, nofun, jsonChars_nul⟩
  | cons head _ ih =>
    have hrest := List.not_mem_of_not_mem_cons hnul
    obtain ⟨body, hscan, hascii, hbody⟩ :=
      ih fun hmem => hrest (List.mem_append_right _ hmem)
    obtain ⟨out, hout, hchar⟩ := jsonChar_of_codePoint head
    refine ⟨out ++ body, ?_, List.forall_mem_append.mpr ⟨hout.ascii, hascii⟩, fun beyond => ?_⟩
    · rw [List.flatMap_cons]
      exact hout.scans.append hscan
    · rw [List.cons_append, List.append_assoc, List.append_assoc]
      rw [jsonChars_ok (List.ne_of_not_mem_cons hnul).symm (hchar _), hbody]
      rfl

/-- What a turn takes ends before the NUL. -/
theorem split_before_nul {cs bytes rest beyond : List UInt8} (hcs : 0 ∉ cs)
    (h : cs ++ rest = bytes ++ 0 :: beyond) :
    ∃ bytes', bytes = cs ++ bytes' ∧ rest = bytes' ++ 0 :: beyond := by
  rcases List.append_eq_append_iff.mp h with ⟨taken, rfl, hrest⟩ | ⟨taken, rfl, hnul⟩
  · exact ⟨taken, rfl, hrest⟩
  · cases taken with
    | nil => exact ⟨[], by simp, hnul.symm⟩
    | cons c taken =>
      obtain ⟨rfl, _⟩ := List.cons.inj hnul
      exact absurd (List.mem_append_right _ List.mem_cons_self) hcs

/-- **Only well-formed input goes through.** Induction on the memory, a code point at a time. -/
theorem decodes_of_jsonChars {p bytes beyond : List UInt8} {out : List Char}
    (h : jsonChars p = .ok out) (hp : p = bytes ++ 0 :: beyond) (hnul : 0 ∉ bytes) :
    ∃ points, Decodes bytes points := by
  induction p using jsonChars.induct generalizing bytes out with
  | case1 =>
    rw [jsonChars] at h
    cases h
  | case2 p =>
    cases bytes with
    | nil => exact ⟨[], .nil⟩
    | cons c bytes =>
      obtain ⟨rfl, _⟩ := List.cons.inj hp
      exact absurd List.mem_cons_self hnul
  | case3 b p hb fault hchar =>
    rw [jsonChars_error hb hchar] at h
    cases h
  | case4 b p hb out rest hchar fault hmore _ =>
    rw [jsonChars_ok hb hchar, hmore] at h
    cases h
  | case5 b p hb out rest hchar more hmore ih =>
    obtain ⟨cs, v, hpoint, hcut⟩ := codePoint_of_jsonChar hchar
    cases bytes with
    | nil => exact absurd (List.cons.inj hp).1 hb
    | cons c bytes =>
      obtain ⟨rfl, hrest⟩ := List.cons.inj hp
      obtain ⟨bytes', rfl, hbehind⟩ :=
        split_before_nul (fun hmem => hpoint.ne_zero_of_mem hmem rfl) (hcut.symm.trans hrest)
      have hnul' : 0 ∉ bytes' := fun hmem =>
        List.not_mem_of_not_mem_cons hnul (List.mem_append_right _ hmem)
      obtain ⟨points, hpoints⟩ := ih hmore hbehind hnul'
      exact ⟨v :: points, .cons hpoint hpoints⟩

/-- **The loop stops at the NUL or before.** What a turn takes holds none, so it stays ahead. -/
theorem jsonChars_ne_pastEnd {p : List UInt8} (h : 0 ∈ p) : jsonChars p ≠ .error .pastEnd := by
  induction p using jsonChars.induct with
  | case1 => exact absurd h List.not_mem_nil
  | case2 p =>
    rw [jsonChars_nul]
    nofun
  | case3 b p hb fault hchar =>
    have hp := (List.mem_cons.mp h).resolve_left (Ne.symm hb)
    rw [jsonChars_error hb hchar]
    rintro heq
    cases heq
    exact jsonChar_ne_pastEnd hp hchar
  | case4 b p hb out rest hchar fault hmore ih =>
    obtain ⟨cs, v, hpoint, rfl⟩ := codePoint_of_jsonChar hchar
    have hp := (List.mem_cons.mp h).resolve_left (Ne.symm hb)
    have hrest : 0 ∈ rest :=
      (List.mem_append.mp hp).resolve_left fun hmem => hpoint.ne_zero_of_mem hmem rfl
    rw [jsonChars_ok hb hchar, hmore]
    rintro heq
    cases heq
    exact ih hrest hmore
  | case5 b p hb out rest hchar more hmore _ =>
    rw [jsonChars_ok hb hchar, hmore]
    nofun

/-! ## Results

The function over whole strings. -/

/-- The two outcomes, and which input has which. -/
theorem jsonString_cases {bytes : List UInt8} (hnul : 0 ∉ bytes) :
    (∃ points body, Decodes bytes points ∧ ScansTo body (points.flatMap units)
      ∧ (∀ c ∈ body, c.toNat < 0x80)
      ∧ ∀ beyond, jsonString (some (bytes ++ 0 :: beyond)) = .ok ('"' :: (body ++ ['"'])))
    ∨ (¬∃ points, Decodes bytes points)
      ∧ ∀ beyond, jsonString (some (bytes ++ 0 :: beyond)) = .error .eilseq := by
  by_cases h : ∃ points, Decodes bytes points
  · obtain ⟨points, hpoints⟩ := h
    obtain ⟨body, hscan, hascii, hbody⟩ := jsonChars_of_decodes hpoints hnul
    refine .inl ⟨points, body, hpoints, hscan, hascii, fun beyond => ?_⟩
    rw [jsonString, hbody]
  · refine .inr ⟨h, fun beyond => ?_⟩
    rw [jsonString]
    cases hout : jsonChars (bytes ++ 0 :: beyond) with
    | ok out => exact absurd (decodes_of_jsonChars hout rfl hnul) h
    | error fault =>
      cases fault with
      | eilseq => rfl
      | pastEnd =>
        exact absurd hout
          (jsonChars_ne_pastEnd (List.mem_append_right _ List.mem_cons_self))

theorem loads_of_decodes {bytes : List UInt8} {points : List Nat} {body : List Char}
    (h : Decodes bytes points) (hscan : ScansTo body (points.flatMap units)) :
    loads ('"' :: (body ++ ['"'])) = some (.string points) := by
  have hformed := wellFormed_of_scalars h.isScalar
  have hdenotes := denotes_string (hscan.spells (joinSurrogates_units hformed))
  have hloads : loads ([] ++ ('"' :: (body ++ ['"']) ++ [])) = some (.string points) :=
    loads_of_denotes hdenotes nofun nofun
  rwa [List.nil_append, List.append_nil] at hloads

/-- **Strings survive.** Exactly well-formed UTF-8 is written; nothing behind the NUL is read; what
is written is ASCII and is read back as the code points, so no two inputs share an output. -/
theorem json_string_utf8 (bytes : List UInt8) (hnul : 0 ∉ bytes) :
    ((∃ literal, jsonString (some (bytes ++ [0])) = .ok literal) ↔ ∃ points, Decodes bytes points)
      ∧ jsonString (some (bytes ++ [0])) ≠ .error .pastEnd
      ∧ (∀ beyond, jsonString (some (bytes ++ 0 :: beyond)) = jsonString (some (bytes ++ [0])))
      ∧ (∀ literal, jsonString (some (bytes ++ [0])) = .ok literal →
          (∀ c ∈ literal, c.toNat < 0x80)
            ∧ (∃ body, literal = '"' :: (body ++ ['"']))
            ∧ ∃ points, Decodes bytes points ∧ loads literal = some (.string points))
      ∧ ∀ bytes' literal, 0 ∉ bytes' → jsonString (some (bytes ++ [0])) = .ok literal →
          jsonString (some (bytes' ++ [0])) = .ok literal → bytes' = bytes := by
  have hsound : ∀ bytes' literal, 0 ∉ bytes' → jsonString (some (bytes' ++ [0])) = .ok literal →
      (∀ c ∈ literal, c.toNat < 0x80) ∧ (∃ body, literal = '"' :: (body ++ ['"']))
        ∧ ∃ points, Decodes bytes' points ∧ loads literal = some (.string points) := by
    intro bytes' literal hnul' hliteral
    rcases jsonString_cases hnul' with ⟨points, body, hpoints, hscan, hascii, hok⟩ | ⟨_, herror⟩
    · rw [hok] at hliteral
      cases hliteral
      refine ⟨?_, ⟨body, rfl⟩, points, hpoints, loads_of_decodes hpoints hscan⟩
      exact List.forall_mem_cons.mpr ⟨by decide, List.forall_mem_append.mpr
        ⟨hascii, List.forall_mem_singleton.mpr (by decide)⟩⟩
    · rw [herror] at hliteral
      cases hliteral
  refine ⟨⟨?_, ?_⟩, ?_, ?_, fun literal => hsound bytes literal hnul, ?_⟩
  · rintro ⟨literal, hliteral⟩
    obtain ⟨_, _, points, hpoints, _⟩ := hsound bytes literal hnul hliteral
    exact ⟨points, hpoints⟩
  · intro hdecodes
    rcases jsonString_cases hnul with ⟨_, body, _, _, _, hok⟩ | ⟨hnone, _⟩
    · exact ⟨_, hok []⟩
    · exact absurd hdecodes hnone
  · rcases jsonString_cases hnul with ⟨_, body, _, _, _, hok⟩ | ⟨_, herror⟩
    · rw [hok]
      nofun
    · rw [herror]
      nofun
  · intro beyond
    rcases jsonString_cases hnul with ⟨_, body, _, _, _, hok⟩ | ⟨_, herror⟩
    · rw [hok, hok]
    · rw [herror, herror]
  · intro bytes' literal hnul' hliteral hliteral'
    obtain ⟨_, _, points, hpoints, hloads⟩ := hsound bytes literal hnul hliteral
    obtain ⟨_, _, points', hpoints', hloads'⟩ := hsound bytes' literal hnul' hliteral'
    rw [hloads] at hloads'
    cases hloads'
    exact hpoints'.injective hpoints

/-- `é` and a code point outside the basic plane. -/
theorem json_string_utf8_sample :
    jsonString (some ([0xc3, 0xa9, 0xf0, 0x9f, 0x98, 0x80] ++ [0]))
        = .ok ['"', '\\', 'u', '0', '0', 'e', '9', '\\', 'u', 'd', '8', '3', 'd',
          '\\', 'u', 'd', 'e', '0', '0', '"']
      ∧ ∃ points, Decodes [0xc3, 0xa9, 0xf0, 0x9f, 0x98, 0x80] points := by
  have hok : jsonString (some ([0xc3, 0xa9, 0xf0, 0x9f, 0x98, 0x80] ++ [0]))
      = .ok ['"', '\\', 'u', '0', '0', 'e', '9', '\\', 'u', 'd', '8', '3', 'd',
        '\\', 'u', 'd', 'e', '0', '0', '"'] := by decide +kernel
  exact ⟨hok, (json_string_utf8 _ (by decide)).1.mp ⟨_, hok⟩⟩

/-- An overlong slash. -/
example : jsonString (some [0xc0, 0xaf, 0]) = .error .eilseq := by decide +kernel

end AceXdp.Manifest
