import Mathlib.Data.UInt
import Mathlib.Data.List.TakeWhile

/-!
# AceXdp — the 256-byte control frame of `ace-run`

`struct frame`, what `message` writes into one and what it checks in one it has read. Strings are
the bytes before the terminator; a `CString n` is one that fits a `char[n]`.

* `messageCheck_messageFrame`: a frame is accepted by a peer that expects it;
* `messageCheck_type`: one of another type, such as a `FAIL` frame, never is.
-/

namespace AceXdp

/-! ## C strings in fixed fields -/

/-- A string that fits `char[size]` with its terminator. -/
structure CString (size : Nat) where
  bytes : List UInt8
  fits : bytes.length < size
  nul_free : (0 : UInt8) ∉ bytes
  deriving DecidableEq

/-- `strcpy` into a zeroed field. -/
def CString.field {size : Nat} (s : CString size) : List UInt8 :=
  s.bytes ++ List.replicate (size - s.bytes.length) 0

/-- The string in a field, as `strcmp` sees it. -/
def fieldText (field : List UInt8) : List UInt8 := field.takeWhile (· ≠ 0)

namespace CString

variable {size : Nat} (s : CString size)

@[simp]
theorem length_field : s.field.length = size := by
  have hfits := s.fits
  simp only [field, List.length_append, List.length_replicate]
  omega

theorem zero_mem_field : (0 : UInt8) ∈ s.field := by
  have hfits := s.fits
  exact List.mem_append_right _ (List.mem_replicate.mpr ⟨by omega, rfl⟩)

@[simp]
theorem fieldText_field : fieldText s.field = s.bytes := by
  have hfits := s.fits
  have hall : ∀ b ∈ s.bytes, decide (b ≠ 0) = true := by
    intro b hb
    have hne : b ≠ 0 := fun h0 => s.nul_free (h0 ▸ hb)
    simpa using hne
  obtain ⟨n, hn⟩ : ∃ n, size - s.bytes.length = n + 1 := ⟨size - s.bytes.length - 1, by omega⟩
  unfold fieldText field
  rw [List.takeWhile_append_of_pos hall, hn, List.replicate_succ]
  simp

end CString

/-! ## Big-endian words -/

def be32 (n : Nat) : List UInt8 :=
  [UInt8.ofNat (n / 2 ^ 24), UInt8.ofNat (n / 2 ^ 16), UInt8.ofNat (n / 2 ^ 8), UInt8.ofNat n]

/-- `ntohl` of the first four bytes. -/
def readBe32 (bytes : List UInt8) : Nat :=
  (bytes.take 4).foldl (fun n b => n * 256 + b.toNat) 0

@[simp]
theorem length_be32 (n : Nat) : (be32 n).length = 4 := rfl

theorem readBe32_be32 {n : Nat} (h : n < 2 ^ 32) (rest : List UInt8) :
    readBe32 (be32 n ++ rest) = n := by
  simp only [readBe32, be32, List.cons_append, List.nil_append, List.take_succ_cons,
    List.take_zero, List.foldl_cons, List.foldl_nil, UInt8.toNat_ofNat']
  omega

/-! ## `struct frame` -/

inductive MsgType where
  | hello | rxReady | txReady | start | started | stop | done | ack | fail
  deriving DecidableEq, Repr

def MsgType.code : MsgType → Nat
  | .hello => 1
  | .rxReady => 2
  | .txReady => 3
  | .start => 4
  | .started => 5
  | .stop => 6
  | .done => 7
  | .ack => 8
  | .fail => 9

theorem MsgType.code_inj {t t' : MsgType} (h : t.code = t'.code) : t = t' := by
  cases t <;> cases t' <;> first | rfl | cases h

theorem MsgType.code_lt (t : MsgType) : t.code < 2 ^ 32 := by cases t <;> decide

def frameMagic : Nat := 0x41434552
def frameVersion : Nat := 1
def wireSize : Nat := 256

/-- `struct frame` after byte-order conversion. -/
structure Frame where
  magic : Nat
  version : Nat
  type : Nat
  index : Nat
  nonce : List UInt8
  digest : List UInt8
  runId : List UInt8
  reserved : List UInt8
  deriving DecidableEq, Repr

def Frame.bytes (f : Frame) : List UInt8 :=
  be32 f.magic ++ (be32 f.version ++ (be32 f.type ++ (be32 f.index
    ++ (f.nonce ++ (f.digest ++ (f.runId ++ f.reserved))))))

/-- The frame in 256 bytes read from the wire. -/
def decodeFrame (bytes : List UInt8) : Frame where
  magic := readBe32 bytes
  version := readBe32 (bytes.drop 4)
  type := readBe32 (bytes.drop 8)
  index := readBe32 (bytes.drop 12)
  nonce := (bytes.drop 16).take 16
  digest := (bytes.drop 32).take 65
  runId := (bytes.drop 97).take 128
  reserved := (bytes.drop 225).take 31

/-- Every field has its size. -/
structure Frame.Sized (f : Frame) : Prop where
  magic : f.magic < 2 ^ 32
  version : f.version < 2 ^ 32
  type : f.type < 2 ^ 32
  index : f.index < 2 ^ 32
  nonce : f.nonce.length = 16
  digest : f.digest.length = 65
  runId : f.runId.length = 128
  reserved : f.reserved.length = 31

theorem Frame.Sized.length_bytes {f : Frame} (h : f.Sized) : f.bytes.length = wireSize := by
  simp [Frame.bytes, h.nonce, h.digest, h.runId, h.reserved, wireSize]

theorem drop_field {n m : Nat} {field rest : List UInt8} (h : field.length = n) :
    (field ++ rest).drop (n + m) = rest.drop m := by
  rw [← h, List.drop_append]
  simp

/-- **Round trip.** -/
theorem Frame.Sized.decodeFrame_bytes {f : Frame} (h : f.Sized) : decodeFrame f.bytes = f := by
  -- the four words come first; each later field is found by dropping the ones before it
  have hword : ∀ n m rest, (be32 n ++ rest).drop (4 + m) = rest.drop m := fun n m rest =>
    drop_field (length_be32 n)
  have hversion : f.bytes.drop 4 = be32 f.version ++ (be32 f.type ++ (be32 f.index
      ++ (f.nonce ++ (f.digest ++ (f.runId ++ f.reserved))))) := hword _ 0 _
  have htype : f.bytes.drop 8 = be32 f.type ++ (be32 f.index
      ++ (f.nonce ++ (f.digest ++ (f.runId ++ f.reserved)))) := by
    rw [Frame.bytes, show 8 = 4 + (4 + 0) from rfl, hword, hword, List.drop_zero]
  have hindex : f.bytes.drop 12 = be32 f.index
      ++ (f.nonce ++ (f.digest ++ (f.runId ++ f.reserved))) := by
    rw [Frame.bytes, show 12 = 4 + (4 + (4 + 0)) from rfl, hword, hword, hword, List.drop_zero]
  have htexts : ∀ m, f.bytes.drop (16 + m)
      = (f.nonce ++ (f.digest ++ (f.runId ++ f.reserved))).drop m := by
    intro m
    rw [Frame.bytes, show 16 + m = 4 + (4 + (4 + (4 + m))) by omega, hword, hword, hword, hword]
  have hnonce : (f.bytes.drop 16).take 16 = f.nonce := by
    rw [show f.bytes.drop 16 = _ from htexts 0, List.drop_zero]
    exact List.take_left' h.nonce
  have hdigest : (f.bytes.drop 32).take 65 = f.digest := by
    rw [show 32 = 16 + (16 + 0) from rfl, htexts, drop_field h.nonce, List.drop_zero, ← h.digest,
      List.take_left]
  have hrunId : (f.bytes.drop 97).take 128 = f.runId := by
    rw [show 97 = 16 + (16 + (65 + 0)) from rfl, htexts, drop_field h.nonce,
      drop_field h.digest, List.drop_zero, ← h.runId, List.take_left]
  have hreserved : (f.bytes.drop 225).take 31 = f.reserved := by
    rw [show 225 = 16 + (16 + (65 + (128 + 0))) from rfl, htexts, drop_field h.nonce,
      drop_field h.digest, drop_field h.runId, List.drop_zero, ← h.reserved, List.take_length]
  unfold decodeFrame
  rw [hnonce, hdigest, hrunId, hreserved, hversion, htype, hindex, readBe32_be32 h.version,
    readBe32_be32 h.type, readBe32_be32 h.index, Frame.bytes, readBe32_be32 h.magic]

/-! ## `message` -/

/-- What a message is about: its phase and the run it belongs to. -/
structure MsgLabel where
  type : MsgType
  index : Nat
  runId : CString 128
  deriving DecidableEq

/-- The frame `message` writes. -/
def messageFrame (digest : CString 65) (nonce : List UInt8) (l : MsgLabel) : Frame where
  magic := frameMagic
  version := frameVersion
  type := l.type.code
  index := l.index
  nonce := nonce
  digest := digest.field
  runId := l.runId.field
  reserved := List.replicate 31 0

/-- The checks of `message` on a frame it has read, where it expects `l`; the nonce it goes on
with, if they pass. -/
def messageCheck (receiver : Bool) (digest : CString 65) (nonce : List UInt8) (l : MsgLabel)
    (f : Frame) : Option (List UInt8) :=
  if f.magic ≠ frameMagic ∨ f.version ≠ frameVersion ∨ f.index ≠ l.index ∨ 0 ∉ f.digest
      ∨ 0 ∉ f.runId ∨ fieldText f.digest ≠ digest.bytes ∨ fieldText f.runId ≠ l.runId.bytes then
    none
  else if f.reserved.any (· ≠ 0) then none
  else if l.type = .hello ∧ receiver = false then
    if f.type ≠ l.type.code then none else some f.nonce
  else if ¬ (l.type = .hello ∧ receiver = true) ∧ f.nonce ≠ nonce then none
  else if f.type ≠ l.type.code then none
  else some nonce

theorem messageFrame_sized {digest : CString 65} {nonce : List UInt8} {l : MsgLabel}
    (hnonce : nonce.length = 16) (hindex : l.index < 2 ^ 32) :
    (messageFrame digest nonce l).Sized :=
  ⟨show frameMagic < 2 ^ 32 by decide, show frameVersion < 2 ^ 32 by decide, l.type.code_lt,
    hindex, hnonce, digest.length_field, l.runId.length_field, by simp [messageFrame]⟩

/-- **A frame is accepted by a peer that expects it.** Only a `HELLO` may come with another
nonce, which the sender side adopts. -/
theorem messageCheck_messageFrame (receiver : Bool) {digest : CString 65}
    {nonce nonce' : List UInt8} {l : MsgLabel} (hnonce : l.type ≠ .hello → nonce' = nonce) :
    messageCheck receiver digest nonce l (messageFrame digest nonce' l)
      = some (if l.type = .hello ∧ receiver = false then nonce' else nonce) := by
  unfold messageCheck
  rw [if_neg (by simp [messageFrame, digest.zero_mem_field, l.runId.zero_mem_field])]
  rw [if_neg (by simp [messageFrame])]
  by_cases hhello : l.type = .hello
  · cases receiver <;> simp [hhello, messageFrame]
  · simp [hhello, messageFrame, hnonce hhello]

/-- **A frame of another type is not accepted**; in particular a `FAIL` frame never is. -/
theorem messageCheck_type {receiver : Bool} {digest : CString 65} {nonce : List UInt8}
    {l : MsgLabel} {f : Frame} (htype : f.type ≠ l.type.code) :
    messageCheck receiver digest nonce l f = none := by
  unfold messageCheck
  rw [if_pos htype, if_pos htype]
  simp only [ite_self]

/-- **The nonce after a frame is accepted**: only the sender's `HELLO` changes it. -/
theorem messageCheck_nonce {receiver : Bool} {digest : CString 65} {nonce nonce' : List UInt8}
    {l : MsgLabel} {f : Frame} (h : messageCheck receiver digest nonce l f = some nonce') :
    nonce' = if l.type = .hello ∧ receiver = false then f.nonce else nonce := by
  unfold messageCheck at h
  split at h
  · cases h
  · split at h
    · cases h
    · split at h
      -- the sender's `HELLO`: the nonce is copied before the type is checked
      · rename_i hhello
        split at h
        · cases h
        · rw [if_pos hhello]
          exact (Option.some.inj h).symm
      · rename_i hhello
        rw [if_neg hhello]
        split at h
        · cases h
        · split at h
          · cases h
          · exact (Option.some.inj h).symm

end AceXdp
