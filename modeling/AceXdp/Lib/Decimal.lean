import Mathlib.Data.List.Basic

/-!
# Decimal text — integers as programs print and read them

Text is a list of characters. Printing is `%u`, `%d` and their equals in other languages; reading is
the lenient `int(text, 10)` of a scripting language (blanks around, a sign, single underscores
between digits, the decimal digits of every script) and the plain scan of a digit string.

* **`readInt_intText`** — an integer that was printed is read back;
* **`natText_injective`** — printing loses nothing.

The limit on the length of a number that some versions of the reader have is left out.
-/

namespace Decimal

/-- A property of all characters of a text is decided along the text, not over all of Unicode. -/
instance decidableForallMem (p : Char → Prop) [DecidablePred p] (text : List Char) :
    Decidable (∀ c ∈ text, p c) :=
  List.decidableBAll p text

/-- Membership in a list of texts is decided through this one instance everywhere. -/
instance lawfulBEqText : LawfulBEq (List Char) := inferInstance

/-- A letter or digit by its code. -/
theorem toNat_isAlphanum {c : Char} (h : c.isAlphanum) :
    (65 ≤ c.toNat ∧ c.toNat ≤ 90) ∨ (97 ≤ c.toNat ∧ c.toNat ≤ 122)
      ∨ (48 ≤ c.toNat ∧ c.toNat ≤ 57) := by
  obtain hletter | hdigit := (Bool.or_eq_true _ _).mp h
  · obtain hupper | hlower := (Bool.or_eq_true _ _).mp hletter
    · exact .inl (of_decide_eq_true hupper)
    · have hbounds := (Bool.and_eq_true _ _).mp hlower
      exact .inr (.inl ⟨of_decide_eq_true hbounds.1, of_decide_eq_true hbounds.2⟩)
  · have hbounds := (Bool.and_eq_true _ _).mp hdigit
    exact .inr (.inr ⟨of_decide_eq_true hbounds.1, of_decide_eq_true hbounds.2⟩)

/-- `%u`. -/
def natText (n : Nat) : List Char := Nat.toDigits 10 n

/-- `%d`. -/
def intText : Int → List Char
  | .ofNat n => natText n
  | .negSucc n => '-' :: natText (n + 1)

/-! ## Reading -/

/-- The blanks of `isspace` in the C locale. -/
def isBlank (c : Char) : Bool := c = ' ' || ('\t'.toNat ≤ c.toNat && c.toNat ≤ '\r'.toNat)

def stripBlank (text : List Char) : List Char :=
  ((text.dropWhile isBlank).reverse.dropWhile isBlank).reverse

/-- The digits after the first one; an underscore stands only between two digits. -/
def readDigits : Nat → List Char → Option Nat
  | acc, [] => some acc
  | acc, '_' :: c :: rest =>
    if c.isDigit then readDigits (10 * acc + (c.toNat - '0'.toNat)) rest else none
  | acc, c :: rest =>
    if c.isDigit then readDigits (10 * acc + (c.toNat - '0'.toNat)) rest else none

def readUnsigned : List Char → Option Nat
  | [] => none
  | c :: rest => if c.isDigit then readDigits (c.toNat - '0'.toNat) rest else none

/-- The zeros of the scripts with decimal digits beyond ASCII; nine more follow each. -/
def decimalZeros : List Nat :=
  [0x660, 0x6f0, 0x7c0, 0x966, 0x9e6, 0xa66, 0xae6, 0xb66, 0xbe6, 0xc66, 0xce6, 0xd66, 0xde6, 0xe50,
    0xed0, 0xf20, 0x1040, 0x1090, 0x17e0, 0x1810, 0x1946, 0x19d0, 0x1a80, 0x1a90, 0x1b50, 0x1bb0,
    0x1c40, 0x1c50, 0xa620, 0xa8d0, 0xa900, 0xa9d0, 0xa9f0, 0xaa50, 0xabf0, 0xff10, 0x104a0,
    0x10d30, 0x11066, 0x110f0, 0x11136, 0x111d0, 0x112f0, 0x11450, 0x114d0, 0x11650, 0x116c0,
    0x11730, 0x118e0, 0x11950, 0x11c50, 0x11d50, 0x11da0, 0x16a60, 0x16ac0, 0x16b50, 0x1d7ce,
    0x1d7d8, 0x1d7e2, 0x1d7ec, 0x1d7f6, 0x1e140, 0x1e2f0, 0x1e950, 0x1fbf0]

/-- The blanks beyond ASCII. -/
def isWideBlank (n : Nat) : Bool :=
  n = 0x85 || n = 0xa0 || n = 0x1680 || (0x2000 ≤ n && n ≤ 0x200a) || n = 0x2028 || n = 0x2029
    || n = 0x202f || n = 0x205f || n = 0x3000

/-- A character as the reader takes it: blanks and digits of every script become ASCII, anything
else beyond ASCII is no digit. -/
def asciiChar (c : Char) : Char :=
  if c.toNat < 128 then c
  else if isWideBlank c.toNat then ' '
  else
    match decimalZeros.find? fun first => first ≤ c.toNat && c.toNat < first + 10 with
    | some first => Char.ofNat ('0'.toNat + (c.toNat - first))
    | none => '?'

/-- `int(text, 10)`. -/
def readInt (text : List Char) : Option Int :=
  match stripBlank (text.map asciiChar) with
  | '-' :: rest => (readUnsigned rest).map fun n => -(n : Int)
  | '+' :: rest => (readUnsigned rest).map fun n => (n : Int)
  | rest => (readUnsigned rest).map fun n => (n : Int)

/-! ## The characters of a printed number -/

theorem isDigit_of_mem_natText {n : Nat} {c : Char} (h : c ∈ natText n) : c.isDigit :=
  Nat.isDigit_of_mem_toDigits (by decide) (by decide) h

theorem natText_ne_nil (n : Nat) : natText n ≠ [] := Nat.toDigits_ne_nil

theorem natText_injective : Function.Injective natText := by
  intro m n h
  have hvalue : Nat.ofDigitChars 10 (natText m) 0 = Nat.ofDigitChars 10 (natText n) 0 := by rw [h]
  simpa [natText] using hvalue

/-- Only zero is printed with a leading zero. -/
theorem natText_head_ne_zero {n : Nat} (h : 0 < n) : (natText n).head? ≠ some '0' := by
  induction n using Nat.strongRecOn with
  | ind n ih =>
    rcases Nat.lt_or_ge n 10 with hlt | hge
    · rw [natText, Nat.toDigits_of_lt_base hlt]
      have hdigit : ∀ d, d < 10 → 0 < d → d.digitChar ≠ '0' := by decide
      simpa using hdigit n hlt h
    · have hrec := ih (n / 10) (by omega) (by omega)
      obtain ⟨c, rest, hcons⟩ := List.exists_cons_of_ne_nil (natText_ne_nil (n / 10))
      rw [hcons] at hrec
      have hsplit : natText n = natText (n / 10) ++ [(n % 10).digitChar] :=
        Nat.toDigits_of_base_le (by decide) hge
      rwa [hsplit, hcons]

theorem isDigit_bounds {c : Char} (h : c.isDigit) : '0'.toNat ≤ c.toNat ∧ c.toNat ≤ '9'.toNat := by
  rw [Char.isDigit, Bool.and_eq_true, decide_eq_true_eq, decide_eq_true_eq] at h
  exact ⟨h.1, h.2⟩

/-- A digit is none of the characters that mean something else. -/
theorem ne_of_isDigit {c d : Char} (h : c.isDigit) (hd : d.isDigit = false) : c ≠ d := by
  rintro rfl
  rw [hd] at h
  cases h

theorem isBlank_of_isDigit {c : Char} (h : c.isDigit) : isBlank c = false := by
  have hbounds := isDigit_bounds h
  have hsp : c ≠ ' ' := ne_of_isDigit h (by decide)
  have hlow : 48 ≤ c.toNat := hbounds.1
  have hcr : '\r'.toNat = 13 := rfl
  rw [isBlank, decide_eq_false hsp, decide_eq_false (show ¬c.toNat ≤ '\r'.toNat from by omega),
    Bool.and_false, Bool.or_false]

/-- The characters of a printed integer: a sign or digits. -/
theorem mem_intText {z : Int} {c : Char} (h : c ∈ intText z) : c = '-' ∨ c.isDigit := by
  cases z with
  | ofNat n => exact .inr (isDigit_of_mem_natText h)
  | negSucc n =>
    rcases List.mem_cons.mp h with rfl | h
    · exact .inl rfl
    · exact .inr (isDigit_of_mem_natText h)

theorem intText_ne_nil (z : Int) : intText z ≠ [] := by
  cases z with
  | ofNat n => exact natText_ne_nil n
  | negSucc n => exact List.cons_ne_nil _ _

/-- A printed integer contains no character that is neither a digit nor the sign. -/
theorem notMem_intText {d : Char} (hsign : d ≠ '-') (hdigit : d.isDigit = false) (z : Int) :
    d ∉ intText z := by
  intro hmem
  rcases mem_intText hmem with h | h
  · exact hsign h
  · rw [hdigit] at h
    cases h

/-! ## Reading back -/

theorem dropWhile_eq_self {p : Char → Bool} {text : List Char} (h : ∀ c ∈ text, p c = false) :
    text.dropWhile p = text := by
  cases text with
  | nil => rfl
  | cons c rest => rw [List.dropWhile_cons, h c List.mem_cons_self]; rfl

theorem stripBlank_eq_self {text : List Char} (h : ∀ c ∈ text, isBlank c = false) :
    stripBlank text = text := by
  have hrev : ∀ c ∈ text.reverse, isBlank c = false := fun c hc => h c (List.mem_reverse.mp hc)
  rw [stripBlank, dropWhile_eq_self h, dropWhile_eq_self hrev, List.reverse_reverse]

theorem isBlank_of_mem_intText {z : Int} {c : Char} (h : c ∈ intText z) : isBlank c = false := by
  rcases mem_intText h with rfl | h
  · decide
  · exact isBlank_of_isDigit h

theorem readDigits_of_isDigit :
    ∀ (acc : Nat) (digits : List Char), (∀ c ∈ digits, c.isDigit) →
      readDigits acc digits = some (Nat.ofDigitChars 10 digits acc)
  | acc, [], _ => by simp [readDigits]
  | acc, c :: rest, h => by
    have hc : c.isDigit := h c List.mem_cons_self
    have hne : c ≠ '_' := ne_of_isDigit hc (by decide)
    have hstep : readDigits acc (c :: rest)
        = readDigits (10 * acc + (c.toNat - '0'.toNat)) rest := by
      rw [readDigits.eq_def]
      split
      · rename_i heq; cases heq
      · rename_i heq; exact absurd (List.cons.inj heq).1 hne
      · rename_i c' rest' _ heq
        obtain ⟨rfl, rfl⟩ := List.cons.inj heq
        rw [if_pos hc]
    rw [hstep, readDigits_of_isDigit _ rest fun d hd => h d (List.mem_cons_of_mem _ hd),
      Nat.ofDigitChars_cons]

theorem readUnsigned_natText (n : Nat) : readUnsigned (natText n) = some n := by
  obtain ⟨c, rest, hcons⟩ := List.exists_cons_of_ne_nil (natText_ne_nil n)
  have hall : ∀ d ∈ c :: rest, d.isDigit := hcons ▸ fun d hd => isDigit_of_mem_natText hd
  have hvalue : Nat.ofDigitChars 10 (natText n) 0 = n := by simp [natText]
  rw [hcons, Nat.ofDigitChars_cons, Nat.mul_zero, Nat.zero_add] at hvalue
  rw [hcons, readUnsigned, if_pos (hall c List.mem_cons_self),
    readDigits_of_isDigit _ rest fun d hd => hall d (List.mem_cons_of_mem _ hd), hvalue]

theorem asciiChar_of_isDigit {c : Char} (h : c.isDigit) : asciiChar c = c := by
  have hbounds := isDigit_bounds h
  exact if_pos (Nat.lt_of_le_of_lt hbounds.2 (by decide))

theorem map_asciiChar_intText (z : Int) : (intText z).map asciiChar = intText z := by
  conv_rhs => rw [← List.map_id (intText z)]
  refine List.map_congr_left fun c hc => ?_
  rcases mem_intText hc with rfl | hdigit
  · decide
  · exact asciiChar_of_isDigit hdigit

/-- **Printing and reading back.** -/
theorem readInt_intText (z : Int) : readInt (intText z) = some z := by
  have hstrip := stripBlank_eq_self fun c hc => isBlank_of_mem_intText (z := z) hc
  unfold readInt
  rw [map_asciiChar_intText, hstrip]
  cases z with
  | negSucc n =>
    simp only [intText, readUnsigned_natText]
    rfl
  | ofNat n =>
    obtain ⟨c, rest, hcons⟩ := List.exists_cons_of_ne_nil (natText_ne_nil n)
    have hc : c.isDigit := isDigit_of_mem_natText (hcons ▸ List.mem_cons_self)
    have hminus : c ≠ '-' := ne_of_isDigit hc (by decide)
    have hplus : c ≠ '+' := ne_of_isDigit hc (by decide)
    have hread := readUnsigned_natText n
    simp only [intText]
    rw [hcons] at hread ⊢
    split
    · rename_i heq; exact absurd (List.cons.inj heq).1 hminus
    · rename_i heq; exact absurd (List.cons.inj heq).1 hplus
    · rw [hread]; rfl

end Decimal
