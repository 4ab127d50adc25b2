import Mathlib.Data.UInt
import Mathlib.Data.List.GetD

/-!
# Byte views — numbers read and written at an offset

A packet or a memory region is seen through a *view* `v : Nat → UInt8`, the byte at each
offset. Bounds are the caller's business: a parser compares offsets with the length before it
reads, exactly as the C does. Wire fields are big-endian (`beNat`); structs that a host keeps
in its own memory are little-endian (`leNat`, `writeLe`).
-/

namespace ByteView

def beNat (v : Nat → UInt8) (off : Nat) : Nat → Nat
  | 0 => 0
  | n + 1 => beNat v off n * 256 + (v (off + n)).toNat

def leNat (v : Nat → UInt8) (off : Nat) : Nat → Nat
  | 0 => 0
  | n + 1 => leNat v off n + (v (off + n)).toNat * 256 ^ n

/-- Store the low `n` bytes of `x` at `off`, least significant byte first. -/
def writeLe (v : Nat → UInt8) (off n x : Nat) : Nat → UInt8 :=
  fun i => if off ≤ i ∧ i < off + n then UInt8.ofNat (x / 256 ^ (i - off)) else v i

/-- `memset`: `n` copies of `b` from `off`. -/
def fillBytes (v : Nat → UInt8) (off n : Nat) (b : UInt8) : Nat → UInt8 :=
  fun i => if off ≤ i ∧ i < off + n then b else v i

/-! ## Reads depend on the bytes read -/

theorem beNat_congr {v w : Nat → UInt8} {off off' : Nat} :
    ∀ n, (∀ i < n, v (off + i) = w (off' + i)) → beNat v off n = beNat w off' n
  | 0, _ => rfl
  | n + 1, h => by
    rw [beNat, beNat, beNat_congr n fun i hi => h i (by omega), h n (by omega)]

theorem leNat_congr {v w : Nat → UInt8} {off : Nat} :
    ∀ n, (∀ i < n, v (off + i) = w (off + i)) → leNat v off n = leNat w off n
  | 0, _ => rfl
  | n + 1, h => by
    rw [leNat, leNat, leNat_congr n fun i hi => h i (by omega), h n (by omega)]

theorem beNat_lt (v : Nat → UInt8) (off : Nat) : ∀ n, beNat v off n < 256 ^ n
  | 0 => by simp [beNat]
  | n + 1 => by
    have hinit := beNat_lt v off n
    have hlast := (v (off + n)).toNat_lt
    rw [beNat, Nat.pow_succ]
    omega

/-! ## Bytes as a list -/

/-- The `n` bytes from `off` on. -/
def bytesAt (v : Nat → UInt8) (off : Nat) : Nat → List UInt8
  | 0 => []
  | n + 1 => bytesAt v off n ++ [v (off + n)]

/-- The low `n` bytes of `x`, most significant byte first. -/
def beBytes : Nat → Nat → List UInt8
  | 0, _ => []
  | n + 1, x => beBytes n (x / 256) ++ [UInt8.ofNat x]

@[simp]
theorem length_bytesAt (v : Nat → UInt8) (off : Nat) : ∀ n, (bytesAt v off n).length = n
  | 0 => rfl
  | n + 1 => by rw [bytesAt, List.length_append, length_bytesAt v off n]; rfl

@[simp]
theorem length_beBytes : ∀ n x, (beBytes n x).length = n
  | 0, _ => rfl
  | n + 1, x => by rw [beBytes, List.length_append, length_beBytes n]; rfl

theorem bytesAt_add (v : Nat → UInt8) (off m : Nat) :
    ∀ n, bytesAt v off (m + n) = bytesAt v off m ++ bytesAt v (off + m) n
  | 0 => by simp [bytesAt]
  | n + 1 => by
    rw [← Nat.add_assoc, bytesAt, bytesAt_add v off m n, bytesAt, List.append_assoc, Nat.add_assoc]

/-- The bytes of a list seen through its view. -/
theorem bytesAt_getD (before bytes after : List UInt8) (d : UInt8) :
    bytesAt (fun i => (before ++ (bytes ++ after)).getD i d) before.length bytes.length
      = bytes := by
  have htake : ∀ n ≤ bytes.length,
      bytesAt (fun i => (before ++ (bytes ++ after)).getD i d) before.length n = bytes.take n := by
    intro n hn
    induction n with
    | zero => simp [bytesAt]
    | succ n ih =>
      rw [bytesAt, ih (by omega), List.getD_append_right _ _ _ _ (by omega),
        Nat.add_sub_cancel_left, List.getD_append _ _ _ _ (by omega), List.take_add_one,
        List.getD_eq_getElem _ _ (by omega), List.getElem?_eq_getElem (by omega)]
      rfl
  rw [htake _ le_rfl, List.take_length]

/-- **The bytes are the big-endian form of the number they spell.** -/
theorem bytesAt_eq_beBytes (v : Nat → UInt8) (off : Nat) :
    ∀ n, bytesAt v off n = beBytes n (beNat v off n)
  | 0 => rfl
  | n + 1 => by
    have hbyte := (v (off + n)).toNat_lt
    have hhigh : beNat v off (n + 1) / 256 = beNat v off n := by rw [beNat]; omega
    have hlow : UInt8.ofNat (beNat v off (n + 1)) = v (off + n) := by
      rw [← UInt8.toNat_inj, UInt8.toNat_ofNat', beNat]
      omega
    rw [bytesAt, beBytes, hhigh, hlow, bytesAt_eq_beBytes v off n]

theorem mod_eq_of_beBytes_eq : ∀ {n x y}, beBytes n x = beBytes n y → x % 256 ^ n = y % 256 ^ n
  | 0, _, _, _ => by simp [Nat.mod_one]
  | n + 1, x, y, h => by
    obtain ⟨hinit, hlast⟩ := List.append_inj' h rfl
    have hhigh := mod_eq_of_beBytes_eq hinit
    have hlow : x % 256 = y % 256 := by
      have hbyte := congrArg UInt8.toNat (List.singleton_inj.mp hlast)
      rwa [UInt8.toNat_ofNat', UInt8.toNat_ofNat'] at hbyte
    rw [Nat.pow_succ, Nat.mul_comm, Nat.mod_mul, Nat.mod_mul, hlow, hhigh]

/-- Reading `n` bytes that spell `x`. -/
theorem beNat_of_bytesAt {v : Nat → UInt8} {off n x : Nat} (h : bytesAt v off n = beBytes n x) :
    beNat v off n = x % 256 ^ n := by
  rw [bytesAt_eq_beBytes] at h
  rw [← mod_eq_of_beBytes_eq h, Nat.mod_eq_of_lt (beNat_lt v off n)]

/-- The low `n` bytes of `x`, least significant byte first. -/
def leBytes : Nat → Nat → List UInt8
  | 0, _ => []
  | n + 1, x => leBytes n x ++ [UInt8.ofNat (x / 256 ^ n)]

@[simp]
theorem length_leBytes : ∀ n x, (leBytes n x).length = n
  | 0, _ => rfl
  | n + 1, x => by rw [leBytes, List.length_append, length_leBytes n]; rfl

theorem leNat_of_bytesAt {v : Nat → UInt8} {off x : Nat} :
    ∀ {n}, bytesAt v off n = leBytes n x → leNat v off n = x % 256 ^ n
  | 0, _ => by simp [leNat, Nat.mod_one]
  | n + 1, h => by
    obtain ⟨hinit, hlast⟩ := List.append_inj' h rfl
    have hbyte : (v (off + n)).toNat = x / 256 ^ n % 256 := by
      rw [List.singleton_inj.mp hlast, UInt8.toNat_ofNat']
    rw [leNat, leNat_of_bytesAt hinit, hbyte, Nat.pow_succ, Nat.mod_mul, Nat.mul_comm (256 ^ n)]

/-! ## Reading back a write -/

theorem leNat_writeLe_disjoint (v : Nat → UInt8) {off off' n n' : Nat} (x : Nat)
    (h : off + n ≤ off' ∨ off' + n' ≤ off) :
    leNat (writeLe v off' n' x) off n = leNat v off n := by
  refine leNat_congr n fun i hi => ?_
  exact if_neg (by omega)

/-- A read of the first `m` written bytes gives the value modulo `256 ^ m`. Induction on `m`. -/
theorem leNat_writeLe_le (v : Nat → UInt8) (off n x : Nat) :
    ∀ m ≤ n, leNat (writeLe v off n x) off m = x % 256 ^ m
  | 0, _ => by simp [leNat, Nat.mod_one]
  | m + 1, hm => by
    have hbyte : (writeLe v off n x (off + m)).toNat = x / 256 ^ m % 256 := by
      rw [writeLe, if_pos (by omega), show off + m - off = m from by omega]
      exact UInt8.toNat_ofNat'
    rw [leNat, leNat_writeLe_le v off n x m (by omega), hbyte, Nat.pow_succ, Nat.mod_mul,
      Nat.mul_comm (256 ^ m)]

theorem leNat_writeLe (v : Nat → UInt8) (off n x : Nat) :
    leNat (writeLe v off n x) off n = x % 256 ^ n :=
  leNat_writeLe_le v off n x n (Nat.le_refl n)

end ByteView
