import AceXdp.Runner.ConfigFile

/-!
# AceXdp — a file of `key=value` lines is read back

* `fgets_line`, `parseLine_entry`, `parseLine_comment`: one line;
* **`parseEntries_lines`** — a comment and lines of different keys are read as those keys and values;
* `configNumber_word` and its kind: what the readers of single values make of them.
-/

namespace AceXdp

open Decimal

/-- A value without blanks. -/
structure ConfigWord where
  chars : List Char
  ne : chars ≠ []
  graphic : ∀ c ∈ chars, 33 ≤ c.toNat ∧ c.toNat ≤ 126
  length_lt : chars.length < 4096

theorem isPrintable_of_graphic {c : Char} (h : 33 ≤ c.toNat ∧ c.toNat ≤ 126) :
    isPrintable c = true := by
  rw [isPrintable, Bool.and_eq_true, decide_eq_true_eq, decide_eq_true_eq]
  omega

def ConfigWord.text (word : ConfigWord) : PrintableText :=
  ⟨word.chars, fun c hc => isPrintable_of_graphic (word.graphic c hc)⟩

/-- A number that is printed. -/
def numberWord (n : Nat) (h : n < 10 ^ 20) : ConfigWord where
  chars := natText n
  ne := natText_ne_nil n
  graphic := by
    intro c hc
    have hbounds := isDigit_bounds (isDigit_of_mem_natText hc)
    have hzero : '0'.toNat = 48 := rfl
    have hnine : '9'.toNat = 57 := rfl
    omega
  length_lt := by
    have hdigits : (natText n).length ≤ 20 :=
      (Nat.length_toDigits_le_iff (by decide) (by decide)).mpr h
    omega

abbrev WordEntry : Type := ConfigKey × ConfigWord

def WordEntry.line (e : WordEntry) : List Char := e.1.text ++ '=' :: e.2.chars ++ ['\n']

/-- What the reader makes of it. -/
def WordEntry.parsed (e : WordEntry) : ConfigEntry := (e.1, e.2.text)

/-! ## Keys

The reader knows its keys by name. -/

theorem ConfigKey.mem_all (key : ConfigKey) : key ∈ ConfigKey.all := by
  cases key with
  | flow index key =>
    refine List.mem_append_right _ (List.mem_flatMap.mpr ⟨index, List.mem_finRange index, ?_⟩)
    refine List.mem_map_of_mem ?_
    cases key <;> decide
  | _ => exact List.mem_append_left _ (by decide)

/-- **The keys have different names.** -/
theorem ConfigKey.ofText_text (key : ConfigKey) : ConfigKey.ofText key.text = some key := by
  have hall : ∀ key ∈ ConfigKey.all, ConfigKey.ofText key.text = some key := by decide +kernel
  exact hall key key.mem_all

/-- Their names need no quoting. -/
theorem ConfigKey.text_plain (key : ConfigKey) :
    key.text ≠ [] ∧ key.text.length ≤ 40 ∧ (key.text.head? ≠ some '#')
      ∧ ∀ c ∈ key.text, 33 ≤ c.toNat ∧ c.toNat ≤ 126 ∧ c ≠ '=' := by
  have hall : ∀ key ∈ ConfigKey.all, key.text ≠ [] ∧ key.text.length ≤ 40
      ∧ (key.text.head? ≠ some '#')
      ∧ ∀ c ∈ key.text, 33 ≤ c.toNat ∧ c.toNat ≤ 126 ∧ c ≠ '=' := by decide +kernel
  exact hall key key.mem_all

/-! ## Lines

A line is blank, a comment or an entry. A line of a plan is an entry with nothing to trim. -/

/-- A line is taken up to its newline. Induction on the line. -/
theorem fgets_line {text : List Char} (hnewline : '\n' ∉ text) (rest : List Char) {limit : Nat}
    (hlength : text.length < limit) :
    fgets limit (text ++ '\n' :: rest) = (text ++ ['\n'], rest) := by
  induction text generalizing limit with
  | nil =>
    obtain ⟨limit, rfl⟩ := Nat.exists_eq_succ_of_ne_zero (Nat.ne_of_gt hlength)
    simp [fgets]
  | cons c text ih =>
    obtain ⟨limit, rfl⟩ := Nat.exists_eq_succ_of_ne_zero (Nat.ne_of_gt (Nat.zero_lt_of_lt hlength))
    have hc : c ≠ '\n' := fun h => hnewline (h ▸ List.mem_cons_self)
    have hrest := ih (fun h => hnewline (List.mem_cons_of_mem _ h)) (Nat.lt_of_succ_lt_succ hlength)
    simp [fgets, hc, hrest]

theorem isCSpace_of_graphic {c : Char} (h : 33 ≤ c.toNat) : isCSpace c = false := by
  have hne : ∀ d : Char, d.toNat < 33 → c ≠ d := by
    rintro d hd rfl
    omega
  simp [isCSpace, hne ' ' (by decide), hne '\t' (by decide), hne '\n' (by decide),
    hne '\x0b' (by decide), hne '\x0c' (by decide), hne '\r' (by decide)]

theorem dropWhile_of_graphic {text : List Char} (h : ∀ c ∈ text.head?, 33 ≤ c.toNat) :
    text.dropWhile isCSpace = text := by
  cases text with
  | nil => rfl
  | cons c rest => rw [List.dropWhile_cons, isCSpace_of_graphic (h c rfl)]; rfl

/-- Nothing is trimmed but the newline. -/
theorem trim_line {text : List Char} (hne : text ≠ []) (h : ∀ c ∈ text.head?, 33 ≤ c.toNat)
    (hlast : 33 ≤ (text.getLast hne).toNat) (newline : List Char)
    (hnewline : ∀ c ∈ newline, isCSpace c = true) : trim (text ++ newline) = text := by
  have hhead : ∀ c ∈ (text ++ newline).head?, 33 ≤ c.toNat := by
    obtain ⟨c, rest, rfl⟩ := List.exists_cons_of_ne_nil hne
    exact h
  rw [trim, dropWhile_of_graphic hhead]
  induction newline using List.reverseRecOn with
  | nil =>
    rw [List.append_nil, List.rdropWhile_eq_self_iff]
    intro hne'
    rw [isCSpace_of_graphic hlast]
    exact Bool.false_ne_true
  | append_singleton newline c ih =>
    have hc : isCSpace c = true := hnewline c (by simp)
    rw [← List.append_assoc, List.rdropWhile_concat_pos isCSpace _ c hc]
    refine ih (fun d hd => hnewline d (by simp [hd])) ?_
    obtain ⟨c, rest, rfl⟩ := List.exists_cons_of_ne_nil hne
    exact h

theorem trim_graphic {text : List Char} (h : ∀ c ∈ text, 33 ≤ c.toNat) : trim text = text := by
  by_cases hne : text = []
  · subst hne
    rfl
  · have htrim := trim_line hne (fun c hc => h c (List.mem_of_mem_head? hc))
      (h _ (List.getLast_mem hne)) [] (by simp)
    rwa [List.append_nil] at htrim

section Line

variable (e : WordEntry)

/-- The characters in front of the newline. -/
def WordEntry.chars : List Char := e.1.text ++ '=' :: e.2.chars

theorem WordEntry.graphic : ∀ c ∈ e.chars, 33 ≤ c.toNat ∧ c.toNat ≤ 126 := by
  intro c hc
  rcases List.mem_append.mp hc with hc | hc
  · have hkey := e.1.text_plain.2.2.2 c hc
    exact ⟨hkey.1, hkey.2.1⟩
  · rcases List.mem_cons.mp hc with rfl | hc
    · decide
    · exact e.2.graphic c hc

theorem WordEntry.length_lt : e.chars.length < lineLimit := by
  have hkey := e.1.text_plain.2.1
  have hvalue := e.2.length_lt
  rw [WordEntry.chars, List.length_append, List.length_cons, lineLimit]
  omega

theorem parseEntry_entry : parseEntry e.chars = some e.parsed := by
  obtain ⟨-, -, -, hplain⟩ := e.1.text_plain
  have hkey : e.chars.takeWhile (· ≠ '=') = e.1.text := by
    rw [WordEntry.chars, List.takeWhile_append_of_pos (by simpa using fun c hc => (hplain c hc).2.2)]
    simp
  have hvalue : (e.chars.dropWhile (· ≠ '=')).drop 1 = e.2.chars := by
    rw [WordEntry.chars, List.dropWhile_append_of_pos (by simpa using fun c hc => (hplain c hc).2.2)]
    simp
  have hword : entryValue e.2.chars = some e.2.text :=
    dif_pos ⟨e.2.length_lt, e.2.text.printable⟩
  rw [parseEntry, if_pos (by simp [WordEntry.chars]), hkey, hvalue,
    trim_graphic fun c hc => (hplain c hc).1, trim_graphic fun c hc => (e.2.graphic c hc).1,
    ConfigKey.ofText_text, hword]
  rfl

theorem lineText_graphic {text : List Char} (h : ∀ c ∈ text, 33 ≤ c.toNat ∨ c = ' ') :
    lineText (text ++ ['\n']) = some (text ++ ['\n']) := by
  have hnul : ∀ c ∈ text ++ ['\n'], decide (c ≠ '\x00') = true := by
    intro c hc
    rcases List.mem_append.mp hc with hc | hc
    · rw [decide_eq_true_eq]
      rintro rfl
      rcases h _ hc with h | h <;> revert h <;> decide
    · rw [List.mem_singleton.mp hc]
      decide
  have htext : (text ++ ['\n']).takeWhile (fun c => decide (c ≠ '\x00')) = text ++ ['\n'] :=
    List.takeWhile_eq_self_iff.mpr hnul
  rw [lineText, htext]
  exact if_pos (.inl (by simp))

/-- A line of a new key adds its entry. -/
theorem parseLine_entry {entries : List ConfigEntry} (hlength : entries.length < 100)
    (hnew : e.1 ∉ entries.map Prod.fst) :
    parseLine entries e.line = some (entries ++ [e.parsed]) := by
  have hne : e.chars ≠ [] := by simp [WordEntry.chars]
  have hline : e.line = e.chars ++ ['\n'] := by simp [WordEntry.line, WordEntry.chars]
  have htrim : trim (e.chars ++ ['\n']) = e.chars :=
    trim_line hne (fun c hc => (e.graphic c (List.mem_of_mem_head? hc)).1)
      (e.graphic _ (List.getLast_mem hne)).1 ['\n'] (by decide)
  have hhash : e.chars.head? ≠ some '#' := by
    obtain ⟨hkey, -, hhash, -⟩ := e.1.text_plain
    obtain ⟨c, rest, hcons⟩ := List.exists_cons_of_ne_nil hkey
    rw [WordEntry.chars, hcons]
    rwa [hcons] at hhash
  rw [parseLine, hline, lineText_graphic fun c hc => .inl (e.graphic c hc).1]
  simp only [htrim, if_neg (not_or.mpr ⟨hne, hhash⟩), parseEntry_entry, WordEntry.parsed]
  exact if_pos ⟨hlength, hnew⟩

end Line

/-- A comment adds nothing. -/
theorem parseLine_comment {text : List Char} (hhash : text.head? = some '#')
    (hgraphic : ∀ c ∈ text, 33 ≤ c.toNat ∨ c = ' ') (hne : text ≠ [])
    (hlast : 33 ≤ (text.getLast hne).toNat) (entries : List ConfigEntry) :
    parseLine entries (text ++ ['\n']) = some entries := by
  have htrim : trim (text ++ ['\n']) = text := by
    refine trim_line hne (fun c hc => ?_) hlast ['\n'] (by decide)
    rw [hhash, Option.mem_some_iff] at hc
    subst hc
    decide
  rw [parseLine, lineText_graphic hgraphic]
  simp only [htrim, hhash, or_true, if_true]

/-! ## Files

The reader takes the lines one after the other and refuses a key that it has seen. -/

theorem newline_notMem {text : List Char} (h : ∀ c ∈ text, 33 ≤ c.toNat ∨ c = ' ') :
    '\n' ∉ text := by
  intro hmem
  rcases h _ hmem with h | h <;> revert h <;> decide

/-- The loop over lines of different keys. Induction on the lines still to come. -/
theorem parseLines_lines {lines : List WordEntry} {entries : List ConfigEntry} {fuel : Nat}
    (hfuel : lines.length ≤ fuel) (hlength : entries.length + lines.length ≤ 100)
    (hnodup : (entries.map Prod.fst ++ lines.map Prod.fst).Nodup) :
    parseLines fuel entries (lines.flatMap WordEntry.line)
      = some (entries ++ lines.map WordEntry.parsed) := by
  induction lines generalizing entries fuel with
  | nil => simp [parseLines]
  | cons e lines ih =>
    obtain ⟨fuel, rfl⟩ := Nat.exists_eq_succ_of_ne_zero
      (Nat.ne_of_gt (Nat.lt_of_lt_of_le (Nat.succ_pos _) hfuel))
    rw [List.length_cons] at hfuel hlength
    have hfgets : fgets lineLimit ((e :: lines).flatMap WordEntry.line)
        = (e.line, lines.flatMap WordEntry.line) := by
      have hline : e.line = e.chars ++ ['\n'] := by simp [WordEntry.line, WordEntry.chars]
      have hshape : (e :: lines).flatMap WordEntry.line
          = e.chars ++ '\n' :: lines.flatMap WordEntry.line := by
        rw [List.flatMap_cons, hline, List.append_assoc, List.singleton_append]
      rw [hshape, hline]
      exact fgets_line (newline_notMem fun c hc => .inl (e.graphic c hc).1) _ e.length_lt
    have hnew : e.1 ∉ entries.map Prod.fst := by
      intro hmem
      exact List.disjoint_of_nodup_append hnodup hmem List.mem_cons_self
    have hstep : parseLine entries e.line = some (entries ++ [e.parsed]) :=
      parseLine_entry e (by omega) hnew
    have hrest : parseLines fuel (entries ++ [e.parsed]) (lines.flatMap WordEntry.line)
        = some (entries ++ [e.parsed] ++ lines.map WordEntry.parsed) := by
      refine ih (by omega) ?_ (by simpa [WordEntry.parsed] using hnodup)
      rw [List.length_append, List.length_singleton]
      omega
    obtain ⟨c, rest, hcons⟩ : ∃ c rest, (e :: lines).flatMap WordEntry.line = c :: rest := by
      refine List.exists_cons_of_ne_nil ?_
      simp [WordEntry.line]
    rw [hcons, parseLines]
    · rw [← hcons, hfgets]
      simp only [hstep]
      rw [hrest]
      simp
    · exact List.cons_ne_nil _ _

theorem length_le_flatMap_line (lines : List WordEntry) :
    lines.length ≤ (lines.flatMap WordEntry.line).length := by
  induction lines with
  | nil => exact Nat.le_refl _
  | cons e lines ih =>
    rw [List.flatMap_cons, List.length_append, List.length_cons]
    have hline : 0 < e.line.length := by simp [WordEntry.line]
    omega

/-- **A comment and lines of different keys are read as they were meant.** -/
theorem parseEntries_lines {comment : List Char} (hhash : comment.head? = some '#')
    (hgraphic : ∀ c ∈ comment, 33 ≤ c.toNat ∨ c = ' ') (hne : comment ≠ [])
    (hlast : 33 ≤ (comment.getLast hne).toNat) (hcomment : comment.length < lineLimit)
    {lines : List WordEntry} (hlength : lines.length ≤ 100)
    (hnodup : (lines.map Prod.fst).Nodup) :
    parseEntries (comment ++ '\n' :: lines.flatMap WordEntry.line)
      = some (lines.map WordEntry.parsed) := by
  obtain ⟨fuel, hfuel⟩ : ∃ fuel, (comment ++ '\n' :: lines.flatMap WordEntry.line).length
      = fuel + 1 ∧ lines.length ≤ fuel := by
    have hlines := length_le_flatMap_line lines
    refine ⟨comment.length + (lines.flatMap WordEntry.line).length, ?_, by omega⟩
    rw [List.length_append, List.length_cons]
    omega
  obtain ⟨c, rest, hcons⟩ : ∃ c rest,
      comment ++ '\n' :: lines.flatMap WordEntry.line = c :: rest :=
    List.exists_cons_of_ne_nil (by simp)
  rw [parseEntries, hfuel.1, hcons, parseLines]
  · rw [← hcons, fgets_line (newline_notMem hgraphic) _ hcomment]
    simp only [parseLine_comment hhash hgraphic hne hlast]
    rw [parseLines_lines hfuel.2 (by simpa using hlength) (by simpa using hnodup)]
    rfl
  · exact List.cons_ne_nil _ _

/-! ## Values

Each kind of word has its own reader. -/

section Values

variable {p : List ConfigEntry} {key : ConfigKey} {w : ConfigWord}

theorem lookupEntry_word (h : p.lookup key = some w.text) (fallback : Option PrintableText) :
    lookupEntry p key fallback = some w.text := by
  rw [lookupEntry, h]

/-- A printed number in the range is taken. -/
theorem aceParseU64_natText {n lo hi : Nat} (hlo : lo ≤ n) (hhi : n ≤ hi) (hmax : hi < 2 ^ 64) :
    aceParseU64 (natText n) lo hi = some n := by
  rw [aceParseU64, CpuList.number_natText n (by simp)]
  exact if_pos ⟨by omega, hlo, hhi⟩

theorem configNumber_word {n lo hi : Nat} (hn : n < 10 ^ 20)
    (h : p.lookup key = some (numberWord n hn).text) (hrange : lo ≤ n ∧ n ≤ hi)
    (hhi : hi < 2 ^ 64) (fallback : Option PrintableText) :
    configNumber p key fallback lo hi = some n := by
  rw [configNumber, lookupEntry_word h]
  exact aceParseU64_natText hrange.1 hrange.2 hhi

theorem configString_word (h : p.lookup key = some w.text) {size : Nat}
    (hsize : w.chars.length < size) (fallback : Option PrintableText) :
    configString p key fallback size = some w.text := by
  rw [configString, lookupEntry_word h]
  exact if_pos ⟨hsize, w.ne⟩

theorem configCpu_inherit (h : p.lookup key = some w.text)
    (hword : w.chars = inheritText.chars) (fallback : Option PrintableText) :
    configCpu p key fallback = some none := by
  rw [configCpu, lookupEntry_word h]
  exact if_pos hword

theorem configCpu_word {n : Nat} (hn : n < 10 ^ 20) (hcpu : n < cpuSetSize)
    (h : p.lookup key = some (numberWord n hn).text) (fallback : Option PrintableText) :
    configCpu p key fallback = some (some ⟨n, hcpu⟩) := by
  have hne : natText n ≠ inheritText.chars := by
    intro heq
    have hmem : 'i' ∈ natText n := by
      rw [heq]
      decide
    exact CpuList.notMem_natText (by decide) n hmem
  rw [configCpu, lookupEntry_word h]
  show parseCpu (natText n) = _
  rw [parseCpu, if_neg hne, CpuList.number_natText n (by simp)]
  exact dif_pos hcpu

theorem configPolicy_word (h : p.lookup key = some w.text) {policy : SchedPolicy}
    (hpolicy : parsePolicy w.chars = some policy) : configPolicy p key = some policy := by
  rw [configPolicy, lookupEntry_word h]
  exact hpolicy

end Values

end AceXdp
