import Mathlib.Data.List.TakeWhile
import Mathlib.Data.UInt

/-!
# C strings as lists of bytes

A string is the bytes in front of its NUL, a pointer into it the bytes from there on: `[]` is a
pointer to the NUL. `strrchr` and `strtoull` are those of the C library; `strtoull` leaves `errno`
alone where it finds no digit.

* `cString_append`: a NUL that is not in the first part is looked for behind it;
* `strrchr_append`: the last occurrence, with what follows it free of the byte;
* **`strtoull_digits`** — a string of digits and what stops it.
-/

namespace CText

/-- The string in a buffer. -/
def cString (buffer : List UInt8) : List UInt8 := buffer.takeWhile (· != 0)

/-- `strrchr`. -/
def strrchr (c : UInt8) : List UInt8 → Option (List UInt8)
  | [] => none
  | b :: s =>
    match strrchr c s with
    | some found => some found
    | none => if b = c then some (b :: s) else none

/-- `isspace` of the C locale. -/
def isSpace (b : UInt8) : Bool := b.toNat = 32 || (9 ≤ b.toNat && b.toNat ≤ 13)

def isDigit (b : UInt8) : Bool := 48 ≤ b.toNat && b.toNat ≤ 57

/-- The number that decimal digits spell. -/
def digitsValue (digits : List UInt8) : Nat :=
  digits.foldl (fun value b => 10 * value + (b.toNat - 48)) 0

/-- What `strtoull` returns, whether `errno` is `ERANGE`, and the pointer behind what was used. -/
structure Parsed where
  value : UInt64
  range : Bool
  rest : List UInt8
  deriving DecidableEq, Repr

/-- An optional sign: whether it is a minus, and what follows. -/
def sign : List UInt8 → Bool × List UInt8
  | [] => (false, [])
  | b :: s => if b = 45 then (true, s) else if b = 43 then (false, s) else (false, b :: s)

/-- `strtoull(s, &rest, 10)`. -/
def strtoull (s : List UInt8) : Parsed :=
  let (negative, body) := sign (s.dropWhile isSpace)
  let digits := body.takeWhile isDigit
  let value := digitsValue digits
  if digits = [] then ⟨0, false, s⟩
  else if 2 ^ 64 ≤ value then ⟨UInt64.ofNat (2 ^ 64 - 1), true, body.dropWhile isDigit⟩
  else
    ⟨if negative then -UInt64.ofNat value else UInt64.ofNat value, false, body.dropWhile isDigit⟩

/-! ## Strings -/

theorem cString_append {a : List UInt8} (b : List UInt8) (h : 0 ∉ a) :
    cString (a ++ b) = a ++ cString b :=
  List.takeWhile_append_of_pos fun _ hx => bne_iff_ne.mpr fun h0 => h (h0 ▸ hx)

/-- A NUL in the first part ends the string there. -/
theorem cString_append_of_mem {a : List UInt8} (b : List UInt8) (h : 0 ∈ a) :
    cString (a ++ b) = cString a := by
  have hshort : (a.takeWhile (· != 0)).length ≠ a.length := by
    intro hlen
    have hself : a.takeWhile (· != 0) = a := (List.takeWhile_prefix _).eq_of_length hlen
    exact absurd (List.takeWhile_eq_self_iff.mp hself 0 h) (by decide)
  rw [cString, List.takeWhile_append, if_neg hshort, cString]

theorem mem_of_mem_cString {buffer : List UInt8} {b : UInt8} (h : b ∈ cString buffer) : b ∈ buffer :=
  (List.takeWhile_prefix _).subset h

theorem strrchr_eq_none {c : UInt8} {s : List UInt8} (h : c ∉ s) : strrchr c s = none := by
  induction s with
  | nil => rfl
  | cons b s ih =>
    rw [List.mem_cons, not_or] at h
    rw [strrchr, ih h.2]
    exact if_neg (Ne.symm h.1)

theorem strrchr_append (c : UInt8) (a : List UInt8) {s : List UInt8} (h : c ∉ s) :
    strrchr c (a ++ c :: s) = some (c :: s) := by
  induction a with
  | nil => rw [List.nil_append, strrchr, strrchr_eq_none h]; exact if_pos rfl
  | cons b a ih => rw [List.cons_append, strrchr, ih]

/-! ## Runs of bytes -/

section Runs

variable {p : UInt8 → Bool} {run rest : List UInt8} (hrun : ∀ b ∈ run, p b)
  (hrest : ∀ b ∈ rest.head?, p b = false)

include hrun hrest

theorem takeWhile_run : (run ++ rest).takeWhile p = run := by
  rw [List.takeWhile_append_of_pos hrun]
  cases rest with
  | nil => simp
  | cons b rest => rw [List.takeWhile_cons_of_neg (by simpa using hrest), List.append_nil]

theorem dropWhile_run : (run ++ rest).dropWhile p = rest := by
  rw [List.dropWhile_append_of_pos hrun]
  cases rest with
  | nil => rfl
  | cons b rest => exact List.dropWhile_cons_of_neg (by simpa using hrest)

end Runs

/-! ## Numbers -/

theorem digit_bounds {b : UInt8} (h : isDigit b) : 48 ≤ b.toNat ∧ b.toNat ≤ 57 := by
  simpa [isDigit] using h

theorem isSpace_of_isDigit {b : UInt8} (h : isDigit b) : isSpace b = false := by
  have hbounds := digit_bounds h
  simp only [isSpace, Bool.or_eq_false_iff, Bool.and_eq_false_iff, decide_eq_false_iff_not]
  omega

/-- **A string of digits**, up to something that is not one. -/
theorem strtoull_digits {digits rest : List UInt8} (hne : digits ≠ [])
    (hdigits : ∀ b ∈ digits, isDigit b) (hrest : ∀ b ∈ rest.head?, isDigit b = false) :
    strtoull (digits ++ rest)
      = if digitsValue digits < 2 ^ 64 then ⟨UInt64.ofNat (digitsValue digits), false, rest⟩
        else ⟨UInt64.ofNat (2 ^ 64 - 1), true, rest⟩ := by
  obtain ⟨first, others, rfl⟩ := List.exists_cons_of_ne_nil hne
  have hfirst := hdigits first List.mem_cons_self
  have hbounds := digit_bounds hfirst
  have hspace : (first :: others ++ rest).dropWhile isSpace = first :: others ++ rest :=
    List.dropWhile_cons_of_neg (by simp [isSpace_of_isDigit hfirst])
  have hsign : sign (first :: others ++ rest) = (false, first :: others ++ rest) := by
    have hminus : first ≠ 45 := by rintro rfl; exact absurd hbounds.1 (by decide)
    have hplus : first ≠ 43 := by rintro rfl; exact absurd hbounds.1 (by decide)
    rw [List.cons_append, sign, if_neg hminus, if_neg hplus]
  rw [strtoull, hspace, hsign]
  dsimp only
  rw [takeWhile_run hdigits hrest, dropWhile_run hdigits hrest, if_neg hne]
  by_cases hfits : digitsValue (first :: others) < 2 ^ 64
  · rw [if_neg (Nat.not_le.mpr hfits), if_pos hfits]; rfl
  · rw [if_pos (Nat.not_lt.mp hfits), if_neg hfits]

end CText
