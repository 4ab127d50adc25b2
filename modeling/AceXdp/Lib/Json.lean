import Mathlib.Data.List.Forall2
import Mathlib.Data.List.TakeDrop
import AceXdp.Lib.Decimal

/-!
# JSON text — values, the reader of a scripting language's `json` module, what a text denotes

A string value is a list of code points and not of characters, since an escape can name half of a
surrogate pair. A number with a fraction or an exponent keeps its spelling.

* `parseValue`, `loads`: the scanner, with its three non-finite constants;
* `Denotes t v`: the text `t` is scanned as `v` wherever a value may end;
* **`denotes_arr`, `denotes_obj`** — texts of parts put together denote the whole, with any blanks
  between them;
* **`loads_of_denotes`** — a denoting text is loaded.

The scanner recurses on fuel; the length of the text is always enough, since every call consumes
a character.
-/

namespace Json

open Decimal

/-! ## Values

Numbers with a fraction or an exponent are kept as their text: what a reader makes of them is its
own business. -/

/-- A string of the scripting language: code points, halves of surrogate pairs included. -/
abbrev Str := List Nat

/-- The code points of a literal. -/
def str (s : String) : Str := s.toList.map Char.toNat

/-- Different literals are different strings. -/
theorem str_injective : Function.Injective str := by
  intro a b h
  have hchars : a.toList = b.toList :=
    List.map_injective_iff.mpr (fun x y hxy => Char.ext (UInt32.toNat_inj.mp hxy)) h
  exact String.toList_inj.mp hchars

/-- The constants that `json.loads` takes beyond the standard. -/
inductive NonFinite where
  | nan | infinity | negInfinity
  deriving DecidableEq, Repr

/-- A document. -/
inductive Value where
  | null
  | bool (b : Bool)
  | int (n : Int)
  /-- A number with a fraction or an exponent, as it is spelled. -/
  | float (lexeme : List Char)
  | nonFinite (c : NonFinite)
  | string (s : Str)
  | arr (items : List Value)
  | obj (members : List (Str × Value))
  deriving Repr

/-! ## Scanning

The reader as it is in the library: a scanner for strings with escapes and surrogates, one for
numbers, and a recursive descent over the brackets. The recursion is bounded by fuel, which is the
length of the text. -/

/-- Blanks between the tokens. -/
def isWs (c : Char) : Bool := c = ' ' || c = '\t' || c = '\n' || c = '\r'

/-- The text behind them. -/
def skipWs (text : List Char) : List Char := text.dropWhile isWs

def hexValue (c : Char) : Option Nat :=
  if c.isDigit then some (c.toNat - '0'.toNat)
  else if 'a' ≤ c ∧ c ≤ 'f' then some (c.toNat - 'a'.toNat + 10)
  else if 'A' ≤ c ∧ c ≤ 'F' then some (c.toNat - 'A'.toNat + 10)
  else none

def hex4 (a b c d : Char) : Option Nat := do
  let a ← hexValue a
  let b ← hexValue b
  let c ← hexValue c
  let d ← hexValue d
  some (((a * 16 + b) * 16 + c) * 16 + d)

/-- The escapes of one letter. -/
def simpleEscape : Char → Option Nat
  | '"' => some '"'.toNat
  | '\\' => some '\\'.toNat
  | '/' => some '/'.toNat
  | 'b' => some 8
  | 'f' => some 12
  | 'n' => some 10
  | 'r' => some 13
  | 't' => some 9
  | _ => none

/-- The code units of a string up to its closing quote. -/
def scanUnits : List Char → Option (Str × List Char)
  | [] => none
  | '"' :: rest => some ([], rest)
  | '\\' :: 'u' :: a :: b :: c :: d :: rest => do
    let n ← hex4 a b c d
    let (s, rest) ← scanUnits rest
    some (n :: s, rest)
  | '\\' :: e :: rest => do
    let n ← simpleEscape e
    let (s, rest) ← scanUnits rest
    some (n :: s, rest)
  | c :: rest =>
    if c = '\\' ∨ c.toNat < 0x20 then none
    else do
      let (s, rest) ← scanUnits rest
      some (c.toNat :: s, rest)

def isHighSurrogate (n : Nat) : Bool := 0xd800 ≤ n && n < 0xdc00
def isLowSurrogate (n : Nat) : Bool := 0xdc00 ≤ n && n < 0xe000

/-- Two escapes that name the halves of a pair become one code point. -/
def joinSurrogates : Str → Str
  | high :: low :: rest =>
    if isHighSurrogate high && isLowSurrogate low then
      (0x10000 + (high - 0xd800) * 0x400 + (low - 0xdc00)) :: joinSurrogates rest
    else high :: joinSurrogates (low :: rest)
  | s => s

/-- A string behind its opening quote. -/
def scanString (text : List Char) : Option (Str × List Char) :=
  (scanUnits text).map fun p => (joinSurrogates p.1, p.2)

/-- The digits of an integer: a zero stands alone. -/
def scanIntDigits : List Char → Option (List Char × List Char)
  | '0' :: rest => some (['0'], rest)
  | c :: rest => if c.isDigit then some ((c :: rest).span Char.isDigit) else none
  | [] => none

/-- A fraction needs a digit behind its point. -/
def scanFraction : List Char → List Char × List Char
  | '.' :: c :: rest =>
    if c.isDigit then
      let (digits, rest) := (c :: rest).span Char.isDigit
      ('.' :: digits, rest)
    else ([], '.' :: c :: rest)
  | text => ([], text)

def scanSign : List Char → List Char × List Char
  | '-' :: rest => (['-'], rest)
  | '+' :: rest => (['+'], rest)
  | text => ([], text)

/-- An exponent without a digit is not one. -/
def scanExponent : List Char → List Char × List Char
  | c :: rest =>
    if c = 'e' ∨ c = 'E' then
      let (sign, rest') := scanSign rest
      let (digits, rest') := rest'.span Char.isDigit
      if digits = [] then ([], c :: rest) else (c :: (sign ++ digits), rest')
    else ([], c :: rest)
  | [] => ([], [])

/-- What stands in front of a number's digits. -/
def minusSign (minus : Bool) : List Char := if minus then ['-'] else []

def scanUnsigned (minus : Bool) (text : List Char) : Option (Value × List Char) := do
  let (digits, rest) ← scanIntDigits text
  let (fraction, rest) := scanFraction rest
  let (exponent, rest) := scanExponent rest
  let n : Int := Nat.ofDigitChars 10 digits 0
  if fraction = [] ∧ exponent = [] then some (.int (if minus then -n else n), rest)
  else some (.float (minusSign minus ++ digits ++ fraction ++ exponent), rest)

def scanNumber : List Char → Option (Value × List Char)
  | '-' :: rest => scanUnsigned true rest
  | text => scanUnsigned false text

/-- The names that stand for values. -/
def literals : List (List Char × Value) :=
  [(['n', 'u', 'l', 'l'], .null), (['t', 'r', 'u', 'e'], .bool true),
    (['f', 'a', 'l', 's', 'e'], .bool false), (['N', 'a', 'N'], .nonFinite .nan),
    (['I', 'n', 'f', 'i', 'n', 'i', 't', 'y'], .nonFinite .infinity),
    (['-', 'I', 'n', 'f', 'i', 'n', 'i', 't', 'y'], .nonFinite .negInfinity)]

/-- Whatever is neither a string nor bracketed. -/
def scanScalar (text : List Char) : Option (Value × List Char) :=
  match literals.find? fun literal => literal.1.isPrefixOf text with
  | some (spelling, value) => some (value, text.drop spelling.length)
  | none => scanNumber text

mutual
/-- One value and the rest of the text. -/
def parseValue : Nat → List Char → Option (Value × List Char)
  | 0, _ => none
  | fuel + 1, text =>
    match text with
    | '"' :: rest => (scanString rest).map fun p => (.string p.1, p.2)
    | '{' :: rest =>
      match skipWs rest with
      | '}' :: rest => some (.obj [], rest)
      | rest => (parseMembers fuel rest).map fun p => (.obj p.1, p.2)
    | '[' :: rest =>
      match skipWs rest with
      | ']' :: rest => some (.arr [], rest)
      | rest => (parseElements fuel rest).map fun p => (.arr p.1, p.2)
    | text => scanScalar text

def parseMembers : Nat → List Char → Option (List (Str × Value) × List Char)
  | 0, _ => none
  | fuel + 1, text =>
    match text with
    | '"' :: rest => do
      let (key, rest) ← scanString rest
      match skipWs rest with
      | ':' :: rest => do
        let (value, rest) ← parseValue fuel (skipWs rest)
        match skipWs rest with
        | '}' :: rest => some ([(key, value)], rest)
        | ',' :: rest => do
          let (members, rest) ← parseMembers fuel (skipWs rest)
          some ((key, value) :: members, rest)
        | _ => none
      | _ => none
    | _ => none

def parseElements : Nat → List Char → Option (List Value × List Char)
  | 0, _ => none
  | fuel + 1, text => do
    let (value, rest) ← parseValue fuel text
    match skipWs rest with
    | ']' :: rest => some ([value], rest)
    | ',' :: rest => do
      let (items, rest) ← parseElements fuel (skipWs rest)
      some (value :: items, rest)
    | _ => none
end

/-- `json.loads`: one value, blanks around it and nothing else. -/
def loads (text : List Char) : Option Value :=
  match parseValue text.length (skipWs text) with
  | some (value, rest) => if skipWs rest = [] then some value else none
  | none => none

/-! ## Blanks

Blanks are skipped before a value and behind it. -/

theorem skipWs_append {ws : List Char} (hws : ∀ c ∈ ws, isWs c) (rest : List Char) :
    skipWs (ws ++ rest) = skipWs rest := by
  induction ws with
  | nil => rfl
  | cons c ws ih =>
    rw [List.cons_append, skipWs, List.dropWhile_cons, if_pos (hws c List.mem_cons_self)]
    exact ih fun d hd => hws d (List.mem_cons_of_mem _ hd)

/-- Up to the first character that is none. -/
theorem skipWs_cons {c : Char} {rest : List Char} (hc : isWs c = false) :
    skipWs (c :: rest) = c :: rest := by
  rw [skipWs, List.dropWhile_cons, hc]
  rfl

theorem skipWs_eq_nil {ws : List Char} (hws : ∀ c ∈ ws, isWs c) : skipWs ws = [] := by
  have h := skipWs_append hws []
  rwa [List.append_nil] at h

/-! ## Strings

`ScansTo` is about code units and composes; `Spells` is about the string that comes out, after the
halves of surrogate pairs have been joined. A writer's escapes are checked against the first, its
whole strings against the second. -/

/-- `t` is scanned as the code units `u`, whatever follows. -/
def ScansTo (t : List Char) (u : Str) : Prop :=
  ∀ rest, scanUnits (t ++ rest) = (scanUnits rest).map fun p => (u ++ p.1, p.2)

theorem scansTo_nil : ScansTo [] [] := by
  intro rest
  simp

theorem ScansTo.append {t t' : List Char} {u u' : Str} (h : ScansTo t u) (h' : ScansTo t' u') :
    ScansTo (t ++ t') (u ++ u') := by
  intro rest
  rw [List.append_assoc, h, h', Option.map_map]
  congr 1
  funext p
  simp

/-- A text that is escaped character by character. -/
theorem scansTo_flatMap {α : Type} {l : List α} {f : α → List Char} {g : α → Str}
    (h : ∀ a ∈ l, ScansTo (f a) (g a)) : ScansTo (l.flatMap f) (l.flatMap g) := by
  induction l with
  | nil => exact scansTo_nil
  | cons a l ih =>
    rw [List.flatMap_cons, List.flatMap_cons]
    exact (h a List.mem_cons_self).append (ih fun b hb => h b (List.mem_cons_of_mem _ hb))

/-- A character that is not escaped. -/
theorem scansTo_plain {c : Char} (hquote : c ≠ '"') (hbackslash : c ≠ '\\')
    (hcontrol : 0x20 ≤ c.toNat) : ScansTo [c] [c.toNat] := by
  intro rest
  have hstep : ¬(c = '\\' ∨ c.toNat < 0x20) := by
    rintro (h | h)
    · exact hbackslash h
    · omega
  rw [List.singleton_append, scanUnits.eq_def]
  split
  · rename_i heq; cases heq
  · rename_i heq; exact absurd (List.cons.inj heq).1 hquote
  · rename_i heq; exact absurd (List.cons.inj heq).1 hbackslash
  · rename_i heq; exact absurd (List.cons.inj heq).1 hbackslash
  · rename_i heq
    obtain ⟨rfl, rfl⟩ := List.cons.inj heq
    rw [if_neg hstep]
    cases scanUnits rest <;> rfl

theorem scansTo_escape {e : Char} {n : Nat} (hn : simpleEscape e = some n) :
    ScansTo ['\\', e] [n] := by
  intro rest
  have hu : e ≠ 'u' := by
    rintro rfl
    cases hn
  rw [List.cons_append, List.singleton_append, scanUnits.eq_def]
  split
  · rename_i heq; cases heq
  · rename_i heq; exact absurd (List.cons.inj heq).1 (by decide)
  · rename_i heq; exact absurd (List.cons.inj (List.cons.inj heq).2).1 hu
  · rename_i heq
    obtain ⟨-, heq⟩ := List.cons.inj heq
    obtain ⟨rfl, rfl⟩ := List.cons.inj heq
    rw [hn]
    cases scanUnits rest <;> rfl
  · rename_i hsecond heq
    obtain ⟨rfl, rfl⟩ := List.cons.inj heq
    exact absurd rfl (hsecond e rest rfl)

theorem scansTo_hex {a b c d : Char} {n : Nat} (hn : hex4 a b c d = some n) :
    ScansTo ['\\', 'u', a, b, c, d] [n] := by
  intro rest
  show scanUnits ('\\' :: 'u' :: a :: b :: c :: d :: rest) = _
  rw [scanUnits, hn]
  cases scanUnits rest <;> rfl

/-- `t`, between quotes, is the string `s`. -/
def Spells (t : List Char) (s : Str) : Prop :=
  ∀ rest, scanString (t ++ '"' :: rest) = some (s, rest)

/-- From code units to the string. -/
theorem ScansTo.spells {t : List Char} {u s : Str} (h : ScansTo t u) (hs : joinSurrogates u = s) :
    Spells t s := by
  intro rest
  have hclose : scanUnits ('"' :: rest) = some ([], rest) := by rw [scanUnits]
  rw [scanString, h, hclose]
  simp [hs]

/-- A character is no half of a pair. -/
theorem not_isHighSurrogate_toNat (c : Char) : isHighSurrogate c.toNat = false := by
  have hvalid := c.valid
  simp only [isHighSurrogate, Bool.and_eq_false_iff, decide_eq_false_iff_not]
  have hnat : c.toNat < 0xd800 ∨ (0xdfff < c.toNat ∧ c.toNat < 0x110000) := hvalid
  omega

/-- Nothing is joined behind anything else. -/
theorem joinSurrogates_cons {n : Nat} (hn : isHighSurrogate n = false) (s : Str) :
    joinSurrogates (n :: s) = n :: joinSurrogates s := by
  cases s with
  | nil => rfl
  | cons m s => rw [joinSurrogates, hn, Bool.false_and, if_neg (by decide)]

theorem joinSurrogates_chars (t : List Char) :
    joinSurrogates (t.map Char.toNat) = t.map Char.toNat := by
  induction t with
  | nil => rfl
  | cons c t ih => rw [List.map_cons, joinSurrogates_cons (not_isHighSurrogate_toNat c), ih]

/-- The characters that stand for themselves in a string. -/
def isPlain (c : Char) : Bool := c ≠ '"' && c ≠ '\\' && 0x20 ≤ c.toNat

/-- A plain character scans to itself. -/
theorem scansTo_of_isPlain {c : Char} (h : isPlain c) : ScansTo [c] [c.toNat] := by
  simp only [isPlain, Bool.and_eq_true, decide_eq_true_eq] at h
  exact scansTo_plain (by simpa using h.1.1) (by simpa using h.1.2) h.2

theorem spells_plain {t : List Char} (h : ∀ c ∈ t, isPlain c) : Spells t (t.map Char.toNat) := by
  have hscan := scansTo_flatMap (f := fun c => [c]) (g := fun c => [c.toNat])
    fun c hc => scansTo_of_isPlain (h c hc)
  rw [List.flatMap_singleton', ← List.map_eq_flatMap] at hscan
  exact hscan.spells (joinSurrogates_chars t)

/-! ## What a text denotes

`Denotes text value` says that the reader finds `value` in `text` wherever it stands: with enough
fuel, behind blanks, and whatever may follow. So the laws of the printers compose, and
`loads_of_denotes` is used once at the end. -/

/-- The characters that may follow a value. -/
def isFollow (c : Char) : Bool := isWs c || c = ',' || c = ']' || c = '}'

/-- The rest begins with a character that may follow a value. -/
def Follows (rest : List Char) : Prop := ∀ c ∈ rest.head?, isFollow c

/-- The end of the text may follow. -/
theorem follows_nil : Follows [] := by simp [Follows]

/-- So may a comma, a bracket or a blank. -/
theorem follows_cons {c : Char} {rest : List Char} (h : isFollow c) : Follows (c :: rest) := by
  simpa [Follows] using h

/-- Blanks and then something that may follow. -/
theorem Follows.append {ws rest : List Char} (hws : ∀ c ∈ ws, isWs c) (h : Follows rest) :
    Follows (ws ++ rest) := by
  cases ws with
  | nil => exact h
  | cons c ws =>
    refine follows_cons ?_
    rw [isFollow, hws c List.mem_cons_self]
    rfl

/-- The text begins with a character that is neither blank nor a closing bracket. -/
def Starts (text : List Char) : Prop :=
  ∃ c more, text = c :: more ∧ isWs c = false ∧ c ≠ ']' ∧ c ≠ '}'

/-- The beginning of a value is where the blanks end. -/
theorem Starts.skipWs {text ws : List Char} (h : Starts text) (hws : ∀ c ∈ ws, isWs c)
    (rest : List Char) : Json.skipWs (ws ++ (text ++ rest)) = text ++ rest := by
  obtain ⟨c, more, rfl, hc, -⟩ := h
  rw [skipWs_append hws, List.cons_append, skipWs_cons hc]

/-- It does not depend on what follows. -/
theorem Starts.append {text : List Char} (h : Starts text) (rest : List Char) :
    Starts (text ++ rest) := by
  obtain ⟨c, more, rfl, hc⟩ := h
  exact ⟨c, more ++ rest, rfl, hc⟩

/-- The text is read as the value, whatever follows it. -/
structure Denotes (text : List Char) (value : Value) : Prop where
  parse : ∀ fuel rest, text.length ≤ fuel → Follows rest →
    parseValue fuel (text ++ rest) = some (value, rest)
  start : Starts text

/-- **A denoting text is loaded**, with blanks around it. -/
theorem loads_of_denotes {text : List Char} {value : Value} (h : Denotes text value)
    {before after : List Char} (hbefore : ∀ c ∈ before, isWs c) (hafter : ∀ c ∈ after, isWs c) :
    loads (before ++ (text ++ after)) = some value := by
  have hparse := h.parse (before ++ (text ++ after)).length after (by simp; omega)
    (by simpa using follows_nil.append hafter)
  rw [loads, h.start.skipWs hbefore, hparse]
  simp only [skipWs_eq_nil hafter, if_true]

theorem denotes_string {t : List Char} {s : Str} (h : Spells t s) :
    Denotes ('"' :: (t ++ ['"'])) (.string s) := by
  refine ⟨fun fuel rest hfuel _ => ?_, '"', t ++ ['"'], rfl, by decide, by decide, by decide⟩
  obtain ⟨fuel, rfl⟩ : ∃ n, fuel = n + 1 := ⟨fuel - 1, by simp at hfuel; omega⟩
  rw [List.cons_append, List.append_assoc, List.singleton_append, parseValue, h rest]
  rfl

/-! ### Scalars

A number ends where no character may continue it; that is why a value must be followed by one that
`Follows` allows. -/

theorem span_eq_of_head {p : Char → Bool} {digits rest : List Char} (hdigits : ∀ c ∈ digits, p c)
    (hrest : ∀ c ∈ rest.head?, p c = false) : (digits ++ rest).span p = (digits, rest) := by
  rw [List.span_eq_takeWhile_dropWhile, List.takeWhile_append_of_pos hdigits,
    List.dropWhile_append_of_pos hdigits]
  cases rest with
  | nil => simp
  | cons c rest =>
    have hc : p c = false := hrest c rfl
    simp [hc]

/-- A character that may follow a value continues no number. -/
theorem isDigit_of_isFollow {c : Char} (h : isFollow c) : c.isDigit = false := by
  simp only [isFollow, isWs, Bool.or_eq_true, decide_eq_true_eq] at h
  rcases h with (((((rfl | rfl) | rfl) | rfl) | rfl) | rfl) | rfl <;> decide

/-- What may follow is not what may not. -/
theorem ne_of_isFollow {c d : Char} (h : isFollow c) (hd : isFollow d = false) : c ≠ d := by
  rintro rfl
  rw [h] at hd
  cases hd

theorem scanFraction_of_follows {rest : List Char} (h : Follows rest) :
    scanFraction rest = ([], rest) := by
  cases rest with
  | nil => rfl
  | cons c rest =>
    have hc : c ≠ '.' := ne_of_isFollow (h c rfl) (by decide)
    rw [scanFraction.eq_def]
    split
    · rename_i heq; exact absurd (List.cons.inj heq).1 hc
    · rfl

theorem scanExponent_of_follows {rest : List Char} (h : Follows rest) :
    scanExponent rest = ([], rest) := by
  cases rest with
  | nil => rfl
  | cons c rest =>
    have hlower : c ≠ 'e' := ne_of_isFollow (h c rfl) (by decide)
    have hupper : c ≠ 'E' := ne_of_isFollow (h c rfl) (by decide)
    rw [scanExponent, if_neg (by simp [hlower, hupper])]

/-- Decimal digits are scanned whole, without a leading zero. -/
theorem scanIntDigits_natText (n : Nat) {rest : List Char}
    (hrest : ∀ c ∈ rest.head?, c.isDigit = false) :
    scanIntDigits (natText n ++ rest) = some (natText n, rest) := by
  rcases Nat.eq_zero_or_pos n with rfl | hpos
  · rfl
  · obtain ⟨c, more, hcons⟩ := List.exists_cons_of_ne_nil (natText_ne_nil n)
    have hdigits : ∀ d ∈ natText n, d.isDigit := fun d hd => isDigit_of_mem_natText hd
    have hc : c.isDigit := hdigits c (hcons ▸ List.mem_cons_self)
    have hzero : c ≠ '0' := fun h => natText_head_ne_zero hpos (by rw [hcons, h]; rfl)
    have hspan := span_eq_of_head hdigits hrest
    rw [hcons, List.cons_append] at hspan ⊢
    rw [scanIntDigits.eq_def]
    split
    · rename_i heq; exact absurd (List.cons.inj heq).1 hzero
    · rename_i heq
      obtain ⟨rfl, rfl⟩ := List.cons.inj heq
      rw [if_pos hc, hspan]
    · rename_i heq; cases heq

theorem scanUnsigned_natText (minus : Bool) (n : Nat) {rest fraction exponent after : List Char}
    (hrest : ∀ c ∈ rest.head?, c.isDigit = false)
    (hfraction : scanFraction rest = (fraction, after))
    {after' : List Char} (hexponent : scanExponent after = (exponent, after')) :
    scanUnsigned minus (natText n ++ rest)
      = if fraction = [] ∧ exponent = [] then
          some (.int (if minus then -(n : Int) else n), after')
        else some (.float (minusSign minus ++ natText n ++ fraction ++ exponent), after') := by
  have hvalue : Nat.ofDigitChars 10 (natText n) 0 = n := by simp [natText]
  rw [scanUnsigned, scanIntDigits_natText n hrest]
  simp only [Option.bind_eq_bind, Option.bind_some, hfraction, hexponent, hvalue]

/-- A literal never starts with a digit. -/
theorem scanScalar_digit {c : Char} (hc : c.isDigit) (rest : List Char) :
    scanScalar (c :: rest) = scanUnsigned false (c :: rest) := by
  have hne {d : Char} (hd : d.isDigit = false) : (d == c) = false :=
    beq_false_of_ne (ne_of_isDigit hc hd).symm
  have hnone : literals.find? (fun literal => literal.1.isPrefixOf (c :: rest)) = none := by
    simp [literals, List.isPrefixOf, hne]
  rw [scanScalar, hnone]
  simp only [scanNumber.eq_def]
  split
  · rename_i heq; exact absurd (List.cons.inj heq).1 (ne_of_isDigit hc (by decide))
  · rfl

/-- A minus sign belongs to the number. -/
theorem scanScalar_minus {c : Char} (hc : c.isDigit) (rest : List Char) :
    scanScalar ('-' :: c :: rest) = scanUnsigned true (c :: rest) := by
  have hne : ('I' == c) = false := beq_false_of_ne (ne_of_isDigit hc (by decide)).symm
  have hnone : literals.find? (fun literal => literal.1.isPrefixOf ('-' :: c :: rest)) = none := by
    simp [literals, List.isPrefixOf, hne]
  rw [scanScalar, hnone]
  rfl

/-- A number is scanned as one, whatever it is the start of. -/
theorem parseValue_number (minus : Bool) (n fuel : Nat) (rest : List Char) :
    parseValue (fuel + 1) (minusSign minus ++ (natText n ++ rest))
      = scanUnsigned minus (natText n ++ rest) := by
  obtain ⟨c, more, hcons⟩ := List.exists_cons_of_ne_nil (natText_ne_nil n)
  have hc : c.isDigit := isDigit_of_mem_natText (n := n) (hcons ▸ List.mem_cons_self)
  have hne {d : Char} (hd : d.isDigit = false) : c ≠ d := ne_of_isDigit hc hd
  rw [hcons, List.cons_append]
  cases minus with
  | true => exact scanScalar_minus hc (more ++ rest)
  | false =>
    rw [minusSign, if_neg (by decide), List.nil_append, parseValue.eq_def]
    simp only
    split
    case h_4 => exact scanScalar_digit hc (more ++ rest)
    all_goals rename_i heq; exact absurd (List.cons.inj heq).1 (hne (by decide))

/-- A number's text begins with a sign or a digit. -/
theorem number_start (minus : Bool) (n : Nat) (rest : List Char) :
    Starts (minusSign minus ++ (natText n ++ rest)) := by
  obtain ⟨c, more, hcons⟩ := List.exists_cons_of_ne_nil (natText_ne_nil n)
  have hc : c.isDigit := isDigit_of_mem_natText (n := n) (hcons ▸ List.mem_cons_self)
  have hne {d : Char} (hd : d.isDigit = false) : c ≠ d := ne_of_isDigit hc hd
  cases minus with
  | true => exact ⟨'-', natText n ++ rest, rfl, by decide, by decide, by decide⟩
  | false =>
    refine ⟨c, more ++ rest, by rw [hcons]; rfl, ?_, hne (by decide), hne (by decide)⟩
    simp [isWs, hne (d := ' ') (by decide), hne (d := '\t') (by decide),
      hne (d := '\n') (by decide), hne (d := '\r') (by decide)]

theorem Follows.not_isDigit {rest : List Char} (h : Follows rest) :
    ∀ c ∈ rest.head?, c.isDigit = false :=
  fun c hc => isDigit_of_isFollow (h c hc)

/-- The text of an integer is a sign and digits. -/
theorem intText_eq (z : Int) : ∃ minus n, intText z = minusSign minus ++ (natText n ++ [])
    ∧ z = if minus then -(n : Int) else n := by
  cases z with
  | ofNat n => exact ⟨false, n, (List.append_nil _).symm, rfl⟩
  | negSucc n => exact ⟨true, n + 1, by rw [List.append_nil]; rfl, rfl⟩

theorem denotes_int (z : Int) : Denotes (intText z) (.int z) := by
  obtain ⟨minus, n, htext, rfl⟩ := intText_eq z
  rw [htext]
  refine ⟨fun fuel rest hfuel hrest => ?_, number_start minus n []⟩
  have hpos : 0 < (natText n).length := List.length_pos_of_ne_nil (natText_ne_nil n)
  obtain ⟨fuel, rfl⟩ : ∃ m, fuel = m + 1 := ⟨fuel - 1, by simp at hfuel; omega⟩
  rw [List.append_nil, List.append_assoc, parseValue_number,
    scanUnsigned_natText minus n hrest.not_isDigit (scanFraction_of_follows hrest)
      (scanExponent_of_follows hrest)]
  simp

/-- A number with a fraction. -/
theorem denotes_fraction (minus : Bool) (n : Nat) {digits : List Char} (hne : digits ≠ [])
    (hdigits : ∀ c ∈ digits, c.isDigit) :
    Denotes (minusSign minus ++ (natText n ++ '.' :: digits))
      (.float (minusSign minus ++ (natText n ++ '.' :: digits))) := by
  refine ⟨fun fuel rest hfuel hrest => ?_, number_start minus n _⟩
  obtain ⟨fuel, rfl⟩ : ∃ m, fuel = m + 1 := ⟨fuel - 1, by simp at hfuel; omega⟩
  obtain ⟨d, more, hcons⟩ := List.exists_cons_of_ne_nil hne
  have hd : d.isDigit := hdigits d (hcons ▸ List.mem_cons_self)
  have hspan := span_eq_of_head hdigits hrest.not_isDigit
  have hfraction : scanFraction ('.' :: (digits ++ rest)) = ('.' :: digits, rest) := by
    rw [hcons, List.cons_append] at hspan ⊢
    rw [scanFraction, if_pos hd, hspan]
  have happend : minusSign minus ++ (natText n ++ '.' :: digits) ++ rest
      = minusSign minus ++ (natText n ++ '.' :: (digits ++ rest)) := by simp
  rw [happend, parseValue_number, scanUnsigned_natText minus n (by simp) hfraction
    (scanExponent_of_follows hrest)]
  simp

/-- A literal that the scanner knows. -/
theorem denotes_literal {text : List Char} {value : Value}
    (hscan : ∀ rest, scanScalar (text ++ rest) = some (value, rest))
    (hstart : ∃ c more, text = c :: more ∧ isWs c = false ∧ c ∉ ['"', '{', '[', ']', '}']) :
    Denotes text value := by
  obtain ⟨c, more, rfl, hws, hc⟩ := hstart
  simp only [List.mem_cons, List.not_mem_nil, or_false, not_or] at hc
  refine ⟨fun fuel rest hfuel _ => ?_, c, more, rfl, hws, hc.2.2.2⟩
  obtain ⟨fuel, rfl⟩ : ∃ m, fuel = m + 1 := ⟨fuel - 1, by simp at hfuel; omega⟩
  rw [List.cons_append, parseValue.eq_def]
  simp only
  split
  · rename_i heq; exact absurd (List.cons.inj heq).1 hc.1
  · rename_i heq; exact absurd (List.cons.inj heq).1 hc.2.1
  · rename_i heq; exact absurd (List.cons.inj heq).1 hc.2.2.1
  · exact hscan rest

theorem denotes_null : Denotes ['n', 'u', 'l', 'l'] .null :=
  denotes_literal (fun _ => rfl) ⟨'n', _, rfl, by decide, by decide⟩

theorem denotes_true : Denotes ['t', 'r', 'u', 'e'] (.bool true) :=
  denotes_literal (fun _ => rfl) ⟨'t', _, rfl, by decide, by decide⟩

theorem denotes_false : Denotes ['f', 'a', 'l', 's', 'e'] (.bool false) :=
  denotes_literal (fun _ => rfl) ⟨'f', _, rfl, by decide, by decide⟩

/-! ### Arrays and objects

Items are read one by one. With the texts of the items joined by commas, the list that comes out is
the list of their values; the induction is over the items, not over the fuel. -/

/-- Items with commas between them, and blanks behind each comma. -/
def joinItems (ws : List Char) : List (List Char) → List Char
  | [] => []
  | [text] => text
  | text :: texts => text ++ ',' :: (ws ++ joinItems ws texts)

theorem joinItems_cons_cons (ws text text' : List Char) (texts : List (List Char)) :
    joinItems ws (text :: text' :: texts)
      = text ++ ',' :: (ws ++ joinItems ws (text' :: texts)) := rfl

variable {ws ws' : List Char}

/-- The joined items begin as the first one does. -/
theorem joinItems_starts (ws : List Char) {text : List Char} (h : Starts text)
    (texts : List (List Char)) :
    Starts (joinItems ws (text :: texts)) := by
  cases texts with
  | nil => exact h
  | cons text' texts => exact h.append _

/-- The items of an array, up to its bracket. -/
theorem parseElements_join (hws : ∀ c ∈ ws, isWs c) (hws' : ∀ c ∈ ws', isWs c)
    {texts : List (List Char)} {values : List Value} (h : List.Forall₂ Denotes texts values)
    (hne : texts ≠ []) (fuel : Nat) (rest : List Char) (hfuel : (joinItems ws texts).length < fuel) :
    parseElements fuel (joinItems ws texts ++ (ws' ++ ']' :: rest)) = some (values, rest) := by
  induction h generalizing fuel with
  | nil => exact absurd rfl hne
  | @cons text value texts values hhead htail ih =>
    obtain ⟨fuel, rfl⟩ : ∃ m, fuel = m + 1 := ⟨fuel - 1, by omega⟩
    cases htail with
    | nil =>
      have hlen : text.length ≤ fuel := Nat.lt_succ_iff.mp hfuel
      have hclose : skipWs (ws' ++ ']' :: rest) = ']' :: rest := by
        rw [skipWs_append hws', skipWs_cons (by decide)]
      rw [joinItems, parseElements,
        hhead.parse fuel _ hlen (Follows.append hws' (follows_cons (by decide)))]
      simp only [Option.bind_eq_bind, Option.bind_some, hclose]
    | @cons text' value' texts values hhead' htail =>
      rw [joinItems_cons_cons] at hfuel ⊢
      simp only [List.length_append, List.length_cons] at hfuel
      have hrec := ih (by simp) fuel (by omega)
      have hskip := (joinItems_starts ws hhead'.start texts).skipWs hws (ws' ++ ']' :: rest)
      rw [List.append_assoc, List.cons_append, List.append_assoc, parseElements,
        hhead.parse fuel _ (by omega) (follows_cons (by decide))]
      simp only [Option.bind_eq_bind, Option.bind_some, skipWs_cons (show isWs ',' = false by decide),
        hskip, hrec]

theorem denotes_arr_nil : Denotes ['[', ']'] (.arr []) := by
  refine ⟨fun fuel rest hfuel _ => ?_, '[', [']'], rfl, by decide, by decide, by decide⟩
  obtain ⟨fuel, rfl⟩ : ∃ m, fuel = m + 1 := ⟨fuel - 1, by simp at hfuel; omega⟩
  rfl

theorem parseValue_bracket {text inner : List Char} (fuel : Nat) (hskip : skipWs text = inner)
    (hinner : Starts inner) :
    parseValue (fuel + 1) ('[' :: text)
      = (parseElements fuel inner).map fun p => (.arr p.1, p.2) := by
  obtain ⟨c, more, rfl, -, hbracket, -⟩ := hinner
  rw [parseValue]
  simp only [hskip]
  split
  · rename_i heq; exact absurd (List.cons.inj heq).1 hbracket
  · rfl

/-- **An array is what its items denote.** -/
theorem denotes_arr (hws : ∀ c ∈ ws, isWs c) (hws' : ∀ c ∈ ws', isWs c)
    {texts : List (List Char)} {values : List Value} (h : List.Forall₂ Denotes texts values)
    (hne : texts ≠ []) :
    Denotes ('[' :: (ws ++ (joinItems ws texts ++ (ws' ++ [']'])))) (.arr values) := by
  refine ⟨fun fuel rest hfuel _ => ?_, '[', _, rfl, by decide, by decide, by decide⟩
  simp only [List.length_cons, List.length_append] at hfuel
  obtain ⟨fuel, rfl⟩ : ∃ m, fuel = m + 1 := ⟨fuel - 1, by omega⟩
  have hitems := parseElements_join hws hws' h hne fuel rest (by omega)
  have hstart : Starts (joinItems ws texts) := by
    cases h with
    | nil => exact absurd rfl hne
    | cons hhead _ => exact joinItems_starts _ hhead.start _
  have happend : '[' :: (ws ++ (joinItems ws texts ++ (ws' ++ [']']))) ++ rest
      = '[' :: (ws ++ (joinItems ws texts ++ (ws' ++ ']' :: rest))) := by simp
  rw [happend, parseValue_bracket fuel (hstart.skipWs hws _) (hstart.append _), hitems]
  rfl

/-- A key, a colon and the text of a value. -/
def DenotesMember (text : List Char) (member : Str × Value) : Prop :=
  ∃ key gap value, text = '"' :: (key ++ '"' :: ':' :: (gap ++ value)) ∧ Spells key member.1
    ∧ (∀ c ∈ gap, isWs c) ∧ Denotes value member.2

/-- A member begins with its quote. -/
theorem DenotesMember.starts {text : List Char} {member : Str × Value}
    (h : DenotesMember text member) : Starts text := by
  obtain ⟨key, gap, value, rfl, -⟩ := h
  exact ⟨'"', _, rfl, by decide, by decide, by decide⟩

/-- One member, up to what follows its value. -/
theorem DenotesMember.parseMembers {text : List Char} {member : Str × Value}
    (h : DenotesMember text member) {fuel : Nat} (hfuel : text.length ≤ fuel) {rest : List Char}
    (hrest : Follows rest) :
    Json.parseMembers (fuel + 1) (text ++ rest) = (match skipWs rest with
      | '}' :: rest => some ([member], rest)
      | ',' :: rest => do
        let (members, rest) ← Json.parseMembers fuel (skipWs rest)
        some (member :: members, rest)
      | _ => none) := by
  obtain ⟨key, gap, value, rfl, hkey, hgap, hvalue⟩ := h
  simp only [List.length_cons, List.length_append] at hfuel
  have happend : '"' :: (key ++ '"' :: ':' :: (gap ++ value)) ++ rest
      = '"' :: (key ++ '"' :: (':' :: (gap ++ (value ++ rest)))) := by simp
  rw [happend, Json.parseMembers]
  simp only [hkey (':' :: (gap ++ (value ++ rest))), Option.bind_eq_bind, Option.bind_some,
    skipWs_cons (show isWs ':' = false by decide), hvalue.start.skipWs hgap rest,
    hvalue.parse fuel rest (by omega) hrest]

/-- The members of an object, up to its brace. -/
theorem parseMembers_join (hws : ∀ c ∈ ws, isWs c) (hws' : ∀ c ∈ ws', isWs c)
    {texts : List (List Char)} {members : List (Str × Value)}
    (h : List.Forall₂ DenotesMember texts members) (hne : texts ≠ []) (fuel : Nat)
    (rest : List Char) (hfuel : (joinItems ws texts).length < fuel) :
    parseMembers fuel (joinItems ws texts ++ (ws' ++ '}' :: rest)) = some (members, rest) := by
  induction h generalizing fuel with
  | nil => exact absurd rfl hne
  | @cons text member texts members hhead htail ih =>
    obtain ⟨fuel, rfl⟩ : ∃ m, fuel = m + 1 := ⟨fuel - 1, by omega⟩
    cases htail with
    | nil =>
      have hlen : text.length ≤ fuel := Nat.lt_succ_iff.mp hfuel
      have hclose : skipWs (ws' ++ '}' :: rest) = '}' :: rest := by
        rw [skipWs_append hws', skipWs_cons (by decide)]
      rw [joinItems, hhead.parseMembers hlen (Follows.append hws' (follows_cons (by decide)))]
      simp only [hclose]
    | @cons text' member' texts members hhead' htail =>
      rw [joinItems_cons_cons] at hfuel ⊢
      simp only [List.length_append, List.length_cons] at hfuel
      have hrec := ih (by simp) fuel (by omega)
      have hskip := (joinItems_starts ws hhead'.starts texts).skipWs hws (ws' ++ '}' :: rest)
      rw [List.append_assoc, List.cons_append, List.append_assoc,
        hhead.parseMembers (by omega) (follows_cons (by decide))]
      simp only [skipWs_cons (show isWs ',' = false by decide), hskip, hrec, Option.bind_eq_bind,
        Option.bind_some]

theorem denotes_obj_nil : Denotes ['{', '}'] (.obj []) := by
  refine ⟨fun fuel rest hfuel _ => ?_, '{', ['}'], rfl, by decide, by decide, by decide⟩
  obtain ⟨fuel, rfl⟩ : ∃ m, fuel = m + 1 := ⟨fuel - 1, by simp at hfuel; omega⟩
  rfl

theorem parseValue_brace {text inner : List Char} (fuel : Nat) (hskip : skipWs text = inner)
    (hinner : Starts inner) :
    parseValue (fuel + 1) ('{' :: text)
      = (parseMembers fuel inner).map fun p => (.obj p.1, p.2) := by
  obtain ⟨c, more, rfl, -, -, hbrace⟩ := hinner
  rw [parseValue]
  simp only [hskip]
  split
  · rename_i heq; exact absurd (List.cons.inj heq).1 hbrace
  · rfl

/-- **An object is what its members denote.** -/
theorem denotes_obj (hws : ∀ c ∈ ws, isWs c) (hws' : ∀ c ∈ ws', isWs c)
    {texts : List (List Char)} {members : List (Str × Value)}
    (h : List.Forall₂ DenotesMember texts members) (hne : texts ≠ []) :
    Denotes ('{' :: (ws ++ (joinItems ws texts ++ (ws' ++ ['}'])))) (.obj members) := by
  refine ⟨fun fuel rest hfuel _ => ?_, '{', _, rfl, by decide, by decide, by decide⟩
  simp only [List.length_cons, List.length_append] at hfuel
  obtain ⟨fuel, rfl⟩ : ∃ m, fuel = m + 1 := ⟨fuel - 1, by omega⟩
  have hitems := parseMembers_join hws hws' h hne fuel rest (by omega)
  have hstart : Starts (joinItems ws texts) := by
    cases h with
    | nil => exact absurd rfl hne
    | cons hhead _ => exact joinItems_starts _ hhead.starts _
  have happend : '{' :: (ws ++ (joinItems ws texts ++ (ws' ++ ['}']))) ++ rest
      = '{' :: (ws ++ (joinItems ws texts ++ (ws' ++ '}' :: rest))) := by simp
  rw [happend, parseValue_brace fuel (hstart.skipWs hws _) (hstart.append _), hitems]
  rfl

/-! ### Texts without blanks

What a C program prints with `fprintf`: keys that need no escapes, and no blanks at all. -/

/-- `"key":value`, as a program prints it that puts no blanks. -/
def memberText (key text : List Char) : List Char := '"' :: (key ++ '"' :: ':' :: text)

/-- An object as it is printed. -/
def objectText (members : List (List Char × List Char)) : List Char :=
  '{' :: (joinItems [] (members.map fun m => memberText m.1 m.2) ++ ['}'])

/-- An array as it is printed. -/
def arrayText (items : List (List Char)) : List Char := '[' :: (joinItems [] items ++ [']'])

/-- Items in front of others, each with its comma. -/
theorem joinItems_append (items : List (List Char)) {more : List (List Char)} (hne : more ≠ []) :
    joinItems [] (items ++ more) = items.flatMap (· ++ [',']) ++ joinItems [] more := by
  induction items with
  | nil => rfl
  | cons item items ih =>
    obtain ⟨text, texts, htail⟩ : ∃ text texts, items ++ more = text :: texts :=
      List.exists_cons_of_ne_nil (by simp [hne])
    rw [List.cons_append, htail, joinItems_cons_cons, ← htail, ih, List.flatMap_cons]
    simp

/-- A printed member: a key that stands for itself, and the text of the value. -/
def Prints (printed : List Char × List Char) (member : Str × Value) : Prop :=
  member.1 = printed.1.map Char.toNat ∧ (∀ c ∈ printed.1, isPlain c) ∧ Denotes printed.2 member.2

/-- A printed member is read back. -/
theorem Prints.denotesMember {printed : List Char × List Char} {member : Str × Value}
    (h : Prints printed member) : DenotesMember (memberText printed.1 printed.2) member := by
  obtain ⟨hkey, hplain, hvalue⟩ := h
  refine ⟨printed.1, [], printed.2, rfl, ?_, by simp, hvalue⟩
  rw [hkey]
  exact spells_plain hplain

theorem denotes_objectText {printed : List (List Char × List Char)} {members : List (Str × Value)}
    (h : List.Forall₂ Prints printed members) (hne : printed ≠ []) :
    Denotes (objectText printed) (.obj members) := by
  have hmembers : List.Forall₂ DenotesMember (printed.map fun m => memberText m.1 m.2) members := by
    rw [List.forall₂_map_left_iff]
    exact h.imp fun _ _ => Prints.denotesMember
  have hdenotes : Denotes ('{' :: ([] ++ (joinItems [] (printed.map fun m => memberText m.1 m.2)
      ++ ([] ++ ['}'])))) (.obj members) :=
    denotes_obj (by simp) (by simp) hmembers (by simpa using hne)
  exact hdenotes

theorem denotes_arrayText {texts : List (List Char)} {values : List Value}
    (h : List.Forall₂ Denotes texts values) (hne : texts ≠ []) :
    Denotes (arrayText texts) (.arr values) := by
  have hdenotes : Denotes ('[' :: ([] ++ (joinItems [] texts ++ ([] ++ [']'])))) (.arr values) :=
    denotes_arr (by simp) (by simp) h hne
  exact hdenotes

/-! ## Strict documents

The two loaders of the analysis refuse what `json.loads` lets pass: a key that is named twice, and
the constants that are no numbers. -/

mutual
/-- No object names a key twice and no number is one of the non-finite constants. -/
def Value.strict : Value → Bool
  | .nonFinite _ => false
  | .arr items => strictItems items
  | .obj members => strictMembers members && (members.map Prod.fst).Nodup
  | _ => true

/-- In each item. -/
def strictItems : List Value → Bool
  | [] => true
  | value :: values => value.strict && strictItems values

/-- In each member, and each key once. -/
def strictMembers : List (Str × Value) → Bool
  | [] => true
  | (_, value) :: members => value.strict && strictMembers members
end

mutual
/-- No object names a key twice. -/
def Value.keysOnce : Value → Bool
  | .arr items => keysOnceItems items
  | .obj members => keysOnceMembers members && (members.map Prod.fst).Nodup
  | _ => true

/-- In each item. -/
def keysOnceItems : List Value → Bool
  | [] => true
  | value :: values => value.keysOnce && keysOnceItems values

/-- In each member, and each key once. -/
def keysOnceMembers : List (Str × Value) → Bool
  | [] => true
  | (_, value) :: members => value.keysOnce && keysOnceMembers members
end

mutual
/-- Strictness is the stronger of the two. -/
theorem Value.keysOnce_of_strict : ∀ value : Value, value.strict → value.keysOnce
  | .null, _ | .bool _, _ | .int _, _ | .float _, _ | .string _, _ | .nonFinite _, _ => by
    simp [Value.keysOnce]
  | .arr items, h => by
    rw [Value.strict] at h
    rw [Value.keysOnce]
    exact keysOnceItems_of_strict items h
  | .obj members, h => by
    rw [Value.strict, Bool.and_eq_true] at h
    rw [Value.keysOnce, Bool.and_eq_true]
    exact ⟨keysOnceMembers_of_strict members h.1, h.2⟩

theorem keysOnceItems_of_strict : ∀ values, strictItems values → keysOnceItems values
  | [], _ => rfl
  | value :: values, h => by
    rw [strictItems, Bool.and_eq_true] at h
    rw [keysOnceItems, Bool.and_eq_true]
    exact ⟨Value.keysOnce_of_strict value h.1, keysOnceItems_of_strict values h.2⟩

theorem keysOnceMembers_of_strict : ∀ members, strictMembers members → keysOnceMembers members
  | [], _ => rfl
  | (_, value) :: members, h => by
    rw [strictMembers, Bool.and_eq_true] at h
    rw [keysOnceMembers, Bool.and_eq_true]
    exact ⟨Value.keysOnce_of_strict value h.1, keysOnceMembers_of_strict members h.2⟩
end

@[simp] theorem Value.strict_null : Value.null.strict = true := by rw [Value.strict] <;> simp

@[simp] theorem Value.strict_bool (b : Bool) : (Value.bool b).strict = true := by
  rw [Value.strict] <;> simp

@[simp] theorem Value.strict_int (n : Int) : (Value.int n).strict = true := by
  rw [Value.strict] <;> simp

@[simp] theorem Value.strict_float (lexeme : List Char) : (Value.float lexeme).strict = true := by
  rw [Value.strict] <;> simp

@[simp] theorem Value.strict_string (s : Str) : (Value.string s).strict = true := by
  rw [Value.strict] <;> simp

end Json
