import AceXdp.Lib.Json

/-!
# JSON text — the writer of a scripting language's `json` module

`dumps` prints a value indented by two, keys sorted, every character outside printable ASCII as an
escape.

* `dumpIndent`, `sortKeys`: a value printed with an indent, and with its keys in order;
* **`joinSurrogates_units`** — a string whose characters were split into code units is joined again;
* **`denotes_block_obj`**, **`denotes_quoteRaw`** — what a printed object and a string that is printed
  without escapes denote.
-/

namespace Json

open Decimal

/-! ## Strings -/

def hex4Text (n : Nat) : List Char :=
  [(n / 0x1000 % 16).digitChar, (n / 0x100 % 16).digitChar, (n / 0x10 % 16).digitChar,
    (n % 16).digitChar]

def unicodeEscape (n : Nat) : List Char := '\\' :: 'u' :: hex4Text n

def highHalf (n : Nat) : Nat := 0xd800 + (n - 0x10000) / 0x400
def lowHalf (n : Nat) : Nat := 0xdc00 + (n - 0x10000) % 0x400

/-- One code point with `ensure_ascii`. -/
def escape (n : Nat) : List Char :=
  if n = 0x22 then ['\\', '"']
  else if n = 0x5c then ['\\', '\\']
  else if n = 8 then ['\\', 'b']
  else if n = 9 then ['\\', 't']
  else if n = 10 then ['\\', 'n']
  else if n = 12 then ['\\', 'f']
  else if n = 13 then ['\\', 'r']
  else if 0x20 ≤ n ∧ n ≤ 0x7e then [Char.ofNat n]
  else if n < 0x10000 then unicodeEscape n
  else unicodeEscape (highHalf n) ++ unicodeEscape (lowHalf n)

def quote (s : Str) : List Char := '"' :: (s.flatMap escape ++ ['"'])

/-- The code units of a code point. -/
def units (n : Nat) : Str := if n < 0x10000 then [n] else [highHalf n, lowHalf n]

/-- What a string that was read or named by a path satisfies: halves of a pair stand apart. -/
structure WellFormed (s : Str) : Prop where
  bound : ∀ n ∈ s, n < 0x110000
  apart : s.IsChain fun a b => ¬(isHighSurrogate a ∧ isLowSurrogate b)

theorem hexValue_digitChar {d : Nat} (h : d < 16) : hexValue d.digitChar = some d := by
  have hall : ∀ d, d < 16 → hexValue d.digitChar = some d := by decide
  exact hall d h

theorem hex4_hex4Text {n : Nat} (h : n < 0x10000) :
    hex4 (n / 0x1000 % 16).digitChar (n / 0x100 % 16).digitChar (n / 0x10 % 16).digitChar
      (n % 16).digitChar = some n := by
  unfold hex4
  rw [hexValue_digitChar (by omega), hexValue_digitChar (by omega), hexValue_digitChar (by omega),
    hexValue_digitChar (by omega)]
  simp only [Option.bind_eq_bind, Option.bind_some]
  congr 1
  omega

theorem scansTo_unicodeEscape {n : Nat} (h : n < 0x10000) : ScansTo (unicodeEscape n) [n] :=
  scansTo_hex (hex4_hex4Text h)

theorem scansTo_escape_code {n : Nat} (hn : n < 0x110000) : ScansTo (escape n) (units n) := by
  by_cases hbmp : n < 0x10000
  · rw [units, if_pos hbmp, escape]
    split
    · subst n; exact scansTo_escape rfl
    split
    · subst n; exact scansTo_escape rfl
    split
    · subst n; exact scansTo_escape rfl
    split
    · subst n; exact scansTo_escape rfl
    split
    · subst n; exact scansTo_escape rfl
    split
    · subst n; exact scansTo_escape rfl
    split
    · subst n; exact scansTo_escape rfl
    split
    · rename_i hquote hbackslash _ _ _ _ _ hprint
      have hvalid : n.isValidChar := by
        left
        omega
      have hnat : (Char.ofNat n).toNat = n := by
        rw [Char.ofNat, dif_pos hvalid]
        rfl
      have hscan := scansTo_plain (c := Char.ofNat n)
        (fun heq => hquote (by rw [← hnat, heq]; rfl))
        (fun heq => hbackslash (by rw [← hnat, heq]; rfl)) (by omega)
      rwa [hnat] at hscan
    · exact scansTo_unicodeEscape hbmp
  · have hescape : escape n = unicodeEscape (highHalf n) ++ unicodeEscape (lowHalf n) := by
      rw [escape, if_neg (by omega), if_neg (by omega), if_neg (by omega), if_neg (by omega),
        if_neg (by omega), if_neg (by omega), if_neg (by omega), if_neg (by omega), if_neg hbmp]
    rw [hescape, units, if_neg hbmp]
    have hhigh : highHalf n < 0x10000 := by unfold highHalf; omega
    have hlow : lowHalf n < 0x10000 := by unfold lowHalf; omega
    exact (scansTo_unicodeEscape hhigh).append (scansTo_unicodeEscape hlow)

theorem isHighSurrogate_iff (n : Nat) : isHighSurrogate n = true ↔ 0xd800 ≤ n ∧ n < 0xdc00 := by
  simp only [isHighSurrogate, Bool.and_eq_true, decide_eq_true_eq]

theorem isLowSurrogate_iff (n : Nat) : isLowSurrogate n = true ↔ 0xdc00 ≤ n ∧ n < 0xe000 := by
  simp only [isLowSurrogate, Bool.and_eq_true, decide_eq_true_eq]

theorem wellFormed_of_scalars {s : Str}
    (h : ∀ n ∈ s, n < 0xd800 ∨ (0xdfff < n ∧ n < 0x110000)) : WellFormed s := by
  refine ⟨fun n hn => ?_, List.Pairwise.isChain (List.pairwise_of_forall_mem_list ?_)⟩
  · rcases h n hn with hlow | ⟨_, hhigh⟩ <;> omega
  · rintro n hn _ _ ⟨hhigh, _⟩
    rw [isHighSurrogate_iff] at hhigh
    rcases h n hn with hlow | ⟨habove, _⟩ <;> omega

theorem isHighSurrogate_highHalf {n : Nat} (h : n < 0x110000) :
    isHighSurrogate (highHalf n) = true := by
  rw [isHighSurrogate_iff]
  unfold highHalf
  omega

theorem isLowSurrogate_lowHalf (n : Nat) : isLowSurrogate (lowHalf n) = true := by
  rw [isLowSurrogate_iff]
  unfold lowHalf
  omega

theorem isLowSurrogate_of_isHighSurrogate {n : Nat} (h : isHighSurrogate n) :
    isLowSurrogate n = false := by
  rw [isHighSurrogate_iff] at h
  rw [Bool.eq_false_iff, ne_eq, isLowSurrogate_iff]
  omega

theorem join_halves {n : Nat} (h : 0x10000 ≤ n) :
    0x10000 + (highHalf n - 0xd800) * 0x400 + (lowHalf n - 0xdc00) = n := by
  unfold highHalf lowHalf
  omega

/-- The first unit of a code point is a low half only if the code point is one. -/
theorem units_head {n : Nat} (h : n < 0x110000) (hn : isLowSurrogate n = false) :
    ∃ first more, units n = first :: more ∧ isLowSurrogate first = false := by
  by_cases hbmp : n < 0x10000
  · exact ⟨n, [], if_pos hbmp, hn⟩
  · exact ⟨highHalf n, [lowHalf n], if_neg hbmp,
      isLowSurrogate_of_isHighSurrogate (isHighSurrogate_highHalf h)⟩

/-- **Splitting and joining.** Induction on the string; a high half is never followed by a low one,
neither by itself nor as the first unit of the next code point. -/
theorem joinSurrogates_units {s : Str} (h : WellFormed s) :
    joinSurrogates (s.flatMap units) = s := by
  obtain ⟨hbound, hapart⟩ := h
  induction s with
  | nil => rfl
  | cons n s ih =>
    have hn := hbound n List.mem_cons_self
    have hrest := ih (fun m hm => hbound m (List.mem_cons_of_mem _ hm)) hapart.of_cons
    rw [List.flatMap_cons]
    by_cases hbmp : n < 0x10000
    · rw [units, if_pos hbmp, List.singleton_append]
      by_cases hhigh : isHighSurrogate n
      · cases s with
        | nil => rfl
        | cons m s =>
          have hlow : isLowSurrogate m = false := by
            have hpair := (List.isChain_cons_cons.mp hapart).1
            simpa [hhigh] using hpair
          obtain ⟨first, more, hunits, hfirst⟩ :=
            units_head (hbound m (List.mem_cons_of_mem _ List.mem_cons_self)) hlow
          rw [List.flatMap_cons, hunits, List.cons_append] at hrest ⊢
          rw [joinSurrogates, hfirst, Bool.and_false, if_neg (by decide), hrest]
      · rw [joinSurrogates_cons (by simpa using hhigh), hrest]
    · rw [units, if_neg hbmp, List.cons_append, List.singleton_append, joinSurrogates,
        isHighSurrogate_highHalf hn, isLowSurrogate_lowHalf, Bool.and_self, if_pos rfl, hrest,
        join_halves (Nat.not_lt.mp hbmp)]

/-! ## Values -/

/-- `indent=2`: a new line at a level of nesting. -/
def newline (level : Nat) : List Char := '\n' :: List.replicate (2 * level) ' '

def NonFinite.text : NonFinite → List Char
  | .nan => ['N', 'a', 'N']
  | .infinity => ['I', 'n', 'f', 'i', 'n', 'i', 't', 'y']
  | .negInfinity => ['-', 'I', 'n', 'f', 'i', 'n', 'i', 't', 'y']

/-- A nonempty container: each item on a line of its own. -/
def block (opening closing : Char) (level : Nat) (items : List (List Char)) : List Char :=
  if items = [] then [opening, closing]
  else opening :: (newline (level + 1)
    ++ (joinItems (newline (level + 1)) items ++ (newline level ++ [closing])))

mutual
def dumpIndent (level : Nat) : Value → List Char
  | .null => ['n', 'u', 'l', 'l']
  | .bool true => ['t', 'r', 'u', 'e']
  | .bool false => ['f', 'a', 'l', 's', 'e']
  | .int n => intText n
  | .float lexeme => lexeme
  | .nonFinite c => c.text
  | .string s => quote s
  | .arr items => block '[' ']' level (dumpItems (level + 1) items)
  | .obj members => block '{' '}' level (dumpMembers (level + 1) members)

def dumpItems (level : Nat) : List Value → List (List Char)
  | [] => []
  | value :: values => dumpIndent level value :: dumpItems level values

def dumpMembers (level : Nat) : List (Str × Value) → List (List Char)
  | [] => []
  | (key, value) :: members =>
    (quote key ++ ':' :: ' ' :: dumpIndent level value) :: dumpMembers level members
end

theorem isWs_newline {level : Nat} {c : Char} (h : c ∈ newline level) : isWs c := by
  rcases List.mem_cons.mp h with rfl | h
  · decide
  · rw [List.eq_of_mem_replicate h]
    decide

theorem denotes_block_obj {level : Nat} {texts : List (List Char)} {members : List (Str × Value)}
    (h : List.Forall₂ DenotesMember texts members) :
    Denotes (block '{' '}' level texts) (.obj members) := by
  unfold block
  by_cases hnil : texts = []
  · subst hnil
    cases h
    exact denotes_obj_nil
  · rw [if_neg hnil]
    exact denotes_obj (fun _ hc => isWs_newline hc) (fun _ hc => isWs_newline hc) h hnil

/-! ## Sorted keys -/

mutual
/-- `sort_keys=True`. -/
def sortKeys : Value → Value
  | .arr items => .arr (sortItems items)
  | .obj members => .obj ((sortMembers members).mergeSort fun a b => a.1 ≤ b.1)
  | value => value

def sortItems : List Value → List Value
  | [] => []
  | value :: values => sortKeys value :: sortItems values

def sortMembers : List (Str × Value) → List (Str × Value)
  | [] => []
  | (key, value) :: members => (key, sortKeys value) :: sortMembers members
end

/-! ## Strings without `ensure_ascii` -/

def escapeRaw (c : Char) : List Char := if 0x7e < c.toNat then [c] else escape c.toNat

def quoteRaw (text : List Char) : List Char := '"' :: (text.flatMap escapeRaw ++ ['"'])

theorem scansTo_escapeRaw (c : Char) : ScansTo (escapeRaw c) [c.toNat] := by
  unfold escapeRaw
  split
  · rename_i hbeyond
    exact scansTo_plain (by rintro rfl; revert hbeyond; decide) (by rintro rfl; revert hbeyond; decide)
      (by omega)
  · rename_i hascii
    have hscan := scansTo_escape_code (n := c.toNat) (by omega)
    rwa [units, if_pos (by omega)] at hscan

theorem spells_escapeRaw (text : List Char) :
    Spells (text.flatMap escapeRaw) (text.map Char.toNat) := by
  have hscan := scansTo_flatMap (f := escapeRaw) (g := fun c => [c.toNat])
    (l := text) fun c _ => scansTo_escapeRaw c
  rw [← List.map_eq_flatMap] at hscan
  exact hscan.spells (joinSurrogates_chars text)

theorem denotes_quoteRaw (text : List Char) :
    Denotes (quoteRaw text) (.string (text.map Char.toNat)) :=
  denotes_string (spells_escapeRaw text)

theorem denotesMember_quoteRaw {value : Value} {text : List Char} (key gap : List Char)
    (hgap : ∀ c ∈ gap, isWs c) (hvalue : Denotes text value) :
    DenotesMember (quoteRaw key ++ ':' :: (gap ++ text)) (key.map Char.toNat, value) :=
  ⟨key.flatMap escapeRaw, gap, text, by simp [quoteRaw], spells_escapeRaw key, hgap, hvalue⟩

end Json
