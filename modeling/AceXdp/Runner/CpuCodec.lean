import AceXdp.Experiment.RunRoundTrip

/-!
# AceXdp — `run_parse_cpus` and `run_format_cpus`

The scanner and the printer of CPU lists in `run_config.c`, character by character: the list read so
far against the grammar of `CpuList`.

* `scanNumber_digits`, `scanNumber_sound`: the digit loop, whose guard is on every prefix;
* `runParseCpus_eq_scan`: the scanner is the reader that `read_run_config` is modelled with;
* `cpu_codec`: printing and reading back, the grammar, and what Python makes of the same text.
-/

namespace AceXdp

open CpuList Decimal

/-! ## The scanner

`run_parse_cpus` as it is, a pointer that moves along the string, with 32-bit numbers and a
bit set. -/

/-- `(unsigned)(*q - '0')`. -/
def digitOf (c : Char) : UInt32 := UInt32.ofNat (c.toNat - 48)

/-- `CPU_SETSIZE` as it is compared with an `unsigned`. -/
def cpuSetLimit : UInt32 := 1024

/-- The digit loop: the number and what stands behind it, or `none` where the number reaches
`CPU_SETSIZE`. -/
def scanDigits (value : UInt32) : List Char → Option (UInt32 × List Char)
  | [] => some (value, [])
  | c :: q =>
    if c.isDigit then
      if value * 10 + digitOf c ≥ cpuSetLimit then none
      else scanDigits (value * 10 + digitOf c) q
    else some (value, c :: q)

/-- The loop runs once at least. -/
def scanNumber (q : List Char) : Option (UInt32 × List Char) :=
  if q.head?.any Char.isDigit then scanDigits 0 q else none

/-- The number behind a hyphen, or the first number again. -/
def scanLast (first : UInt32) (q : List Char) : Option (UInt32 × List Char) :=
  match q with
  | '-' :: q => scanNumber q
  | q => some (first, q)

/-- `CPU_ISSET` and `CPU_SET` of `count` CPUs from `n` on. -/
def setCpus (set : List Nat) (n : Nat) : Nat → Option (List Nat)
  | 0 => some set
  | count + 1 => if n ∈ set then none else setCpus (n :: set) (n + 1) count

theorem scanDigits_length {value v : UInt32} {q rest : List Char}
    (h : scanDigits value q = some (v, rest)) : rest.length ≤ q.length := by
  induction q generalizing value with
  | nil =>
    cases h
    exact Nat.le_refl _
  | cons c q ih =>
    unfold scanDigits at h
    split at h
    · split at h
      · cases h
      · exact (ih h).trans (Nat.le_succ _)
    · cases h
      exact Nat.le_refl _

theorem scanNumber_length {v : UInt32} {q rest : List Char} (h : scanNumber q = some (v, rest)) :
    rest.length < q.length := by
  unfold scanNumber at h
  split at h
  · rename_i hhead
    cases q with
    | nil => cases hhead
    | cons c q =>
      have hdigit : c.isDigit = true := hhead
      unfold scanDigits at h
      rw [if_pos hdigit] at h
      split at h
      · cases h
      · exact Nat.lt_succ_of_le (scanDigits_length h)
  · cases h

theorem scanLast_length {first v : UInt32} {q rest : List Char}
    (h : scanLast first q = some (v, rest)) : rest.length ≤ q.length := by
  unfold scanLast at h
  split at h
  · exact (scanNumber_length h).le.trans (Nat.le_succ _)
  · cases h
    exact Nat.le_refl _

/-- A pass of the outer loop up to the comma: one number or range, and the CPUs it names. -/
def scanItem (set : List Nat) (q : List Char) : Option (List Nat × List Char) := do
  let (first, q) ← scanNumber q
  let (last, q) ← scanLast first q
  if last < first then none
  else
    let set ← setCpus set first.toNat (last.toNat + 1 - first.toNat)
    return (set, q)

theorem scanItem_length {set set' : List Nat} {q rest : List Char}
    (h : scanItem set q = some (set', rest)) : rest.length < q.length := by
  obtain ⟨⟨first, middle⟩, hfirst, h⟩ := Option.bind_eq_some_iff.mp h
  obtain ⟨⟨last, behind⟩, hlast, h⟩ := Option.bind_eq_some_iff.mp h
  dsimp only at h
  split at h
  · cases h
  · obtain ⟨_, _, h⟩ := Option.bind_eq_some_iff.mp h
    cases h
    exact (scanLast_length hlast).trans_lt (scanNumber_length hfirst)

/-- The outer loop of `run_parse_cpus`: behind an item stands the end, or a comma and more. -/
def scanCpus (set : List Nat) (q : List Char) : Option (List Nat) :=
  match _h : scanItem set q with
  | none => none
  | some (set, []) => some set
  | some (set, c :: q) => if c = ',' ∧ q ≠ [] then scanCpus set q else none
termination_by q.length
decreasing_by
  have hshorter := scanItem_length _h
  rw [List.length_cons] at hshorter
  omega

/-- The bits of a `cpu_set_t`, in ascending order. -/
def maskOf (set : List Nat) : CpuMask where
  cpus := (List.range cpuSetSize).filter (· ∈ set)
  ascending := ascending_filter_range _
  bound _ hn := List.mem_range.mp (List.mem_filter.mp hn).1

/-- `run_parse_cpus`. -/
def scanCpuList (text : List Char) : Option CpuMask := (scanCpus [] text).map maskOf

/-! ## The printer -/

/-- The loop of `run_format_cpus` over the set bits: `snprintf` needs room for its text and the
terminator. -/
def formatCpus (size : Nat) (text : List Char) : List Nat → Option (List Char)
  | [] => some text
  | n :: cpus =>
    let piece := (if text.length ≠ 0 then [','] else []) ++ natText n
    if size - text.length ≤ piece.length then none
    else formatCpus size (text ++ piece) cpus

/-- `run_format_cpus`. -/
def formatCpuMask (mask : CpuMask) (size : Nat) : Option (List Char) :=
  if size = 0 then none else formatCpus size [] mask.cpus

/-! ## The digit loop

The loop stops before the number reaches the size of the set, so nothing wraps. -/

theorem digitOf_toNat {c : Char} (h : c.isDigit = true) :
    (digitOf c).toNat = c.toNat - '0'.toNat ∧ (digitOf c).toNat < 10 := by
  simp only [Char.isDigit, Bool.and_eq_true, decide_eq_true_eq, ge_iff_le,
    UInt32.le_iff_toNat_le] at h
  change 48 ≤ c.toNat ∧ c.toNat ≤ 57 at h
  rw [digitOf, UInt32.toNat_ofNat', Nat.mod_eq_of_lt (by omega)]
  change c.toNat - 48 = c.toNat - 48 ∧ c.toNat - 48 < 10
  omega

/-- A step of the loop does not wrap. -/
theorem step_toNat {value : UInt32} {c : Char} (hvalue : value.toNat < cpuSetSize)
    (hc : c.isDigit = true) :
    (value * 10 + digitOf c).toNat = 10 * value.toNat + (c.toNat - '0'.toNat) := by
  obtain ⟨hdigit, hten⟩ := digitOf_toNat hc
  rw [UInt32.toNat_add, UInt32.toNat_mul, hdigit, show (10 : UInt32).toNat = 10 from rfl]
  unfold cpuSetSize at hvalue
  omega

/-- Digits behind a number only make it larger. -/
theorem le_ofDigitChars (digits : List Char) (n : Nat) : n ≤ Nat.ofDigitChars 10 digits n := by
  induction digits generalizing n with
  | nil => simp
  | cons c digits ih =>
    rw [Nat.ofDigitChars_cons]
    exact le_trans (by omega) (ih _)

/-- What stands behind a number does not go on with a digit. -/
def Stops (q : List Char) : Prop := ∀ c ∈ q.head?, c.isDigit = false

theorem scanDigits_digits (value : UInt32) {digits rest : List Char}
    (hdigits : ∀ c ∈ digits, c.isDigit = true) (hstop : Stops rest)
    (hvalue : value.toNat < cpuSetSize)
    (hlimit : Nat.ofDigitChars 10 digits value.toNat < cpuSetSize) :
    ∃ v, scanDigits value (digits ++ rest) = some (v, rest)
      ∧ v.toNat = Nat.ofDigitChars 10 digits value.toNat := by
  induction digits generalizing value with
  | nil =>
    refine ⟨value, ?_, by simp⟩
    cases rest with
    | nil => rfl
    | cons c rest =>
      have hc : c.isDigit = false := hstop c rfl
      rw [List.nil_append, scanDigits, if_neg (by simp [hc])]
  | cons c digits ih =>
    have hc := hdigits c List.mem_cons_self
    have hstep := step_toNat hvalue hc
    rw [Nat.ofDigitChars_cons, ← hstep] at hlimit
    have hnext : (value * 10 + digitOf c).toNat < cpuSetSize :=
      (le_ofDigitChars digits _).trans_lt hlimit
    obtain ⟨v, hscan, hv⟩ :=
      ih _ (fun d hd => hdigits d (List.mem_cons_of_mem _ hd)) hnext hlimit
    refine ⟨v, ?_, by rw [hv, Nat.ofDigitChars_cons, hstep]⟩
    rw [List.cons_append, scanDigits, if_pos hc, if_neg, hscan]
    rw [ge_iff_le, UInt32.le_iff_toNat_le]
    exact not_le.mpr hnext

theorem scanDigits_sound (value : UInt32) {v : UInt32} {q rest : List Char}
    (hvalue : value.toNat < cpuSetSize) (h : scanDigits value q = some (v, rest)) :
    ∃ digits, q = digits ++ rest ∧ (∀ c ∈ digits, c.isDigit = true) ∧ Stops rest
      ∧ v.toNat = Nat.ofDigitChars 10 digits value.toNat ∧ v.toNat < cpuSetSize := by
  induction q generalizing value with
  | nil =>
    cases h
    exact ⟨[], rfl, by simp, by simp [Stops], by simp, hvalue⟩
  | cons c q ih =>
    unfold scanDigits at h
    by_cases hc : c.isDigit = true
    · rw [if_pos hc] at h
      by_cases hguard : value * 10 + digitOf c ≥ cpuSetLimit
      · rw [if_pos hguard] at h
        cases h
      · rw [if_neg hguard] at h
        have hnext : (value * 10 + digitOf c).toNat < cpuSetSize := by
          rw [ge_iff_le, UInt32.le_iff_toNat_le] at hguard
          exact not_le.mp hguard
        obtain ⟨digits, rfl, hdigits, hstop, hv, hlimit⟩ := ih _ hnext h
        refine ⟨c :: digits, rfl, List.forall_mem_cons.mpr ⟨hc, hdigits⟩, hstop, ?_, hlimit⟩
        rw [hv, Nat.ofDigitChars_cons, step_toNat hvalue hc]
    · rw [if_neg hc] at h
      cases h
      refine ⟨[], rfl, by simp, ?_, by simp, hvalue⟩
      rintro d ⟨⟩
      exact Bool.eq_false_iff.mpr hc

theorem scanNumber_digits (n : Numeral) {rest : List Char} (hstop : Stops rest)
    (hlimit : n.value < cpuSetSize) :
    ∃ v, scanNumber (n.digits ++ rest) = some (v, rest) ∧ v.toNat = n.value := by
  obtain ⟨v, hscan, hv⟩ := scanDigits_digits 0 n.all hstop (by decide) hlimit
  refine ⟨v, ?_, hv⟩
  obtain ⟨c, digits, hdigits⟩ := List.exists_cons_of_ne_nil n.ne
  have hhead : (n.digits ++ rest).head?.any Char.isDigit = true := by
    rw [hdigits]
    exact n.all c (hdigits ▸ List.mem_cons_self)
  rw [scanNumber, if_pos hhead, hscan]

theorem scanNumber_sound {v : UInt32} {q rest : List Char} (h : scanNumber q = some (v, rest)) :
    ∃ n : Numeral, q = n.digits ++ rest ∧ Stops rest ∧ v.toNat = n.value
      ∧ n.value < cpuSetSize := by
  unfold scanNumber at h
  split at h
  · rename_i hhead
    obtain ⟨digits, hq, hdigits, hstop, hv, hlimit⟩ :=
      scanDigits_sound 0 (by decide) h
    refine ⟨⟨digits, ?_, hdigits⟩, hq, hstop, hv, hv ▸ hlimit⟩
    -- the first character is a digit, so it has been read
    rintro rfl
    obtain ⟨c, hc, hdigit⟩ := (Option.any_eq_true _ _).mp hhead
    rw [hq, List.nil_append] at hc
    rw [hstop c hc] at hdigit
    cases hdigit
  · cases h

/-! ## One item

A number or a range, and the check that none of its CPUs was named before. -/

theorem setCpus_eq_some_iff {set set' : List Nat} {n count : Nat} :
    setCpus set n count = some set' ↔
      (∀ k ∈ List.range' n count, k ∉ set) ∧ set' = (List.range' n count).reverse ++ set := by
  induction count generalizing set n with
  | zero => simp [setCpus, eq_comm]
  | succ count ih =>
    rw [setCpus, List.range'_succ]
    by_cases hn : n ∈ set
    · rw [if_pos hn]
      simp [hn]
    · rw [if_neg hn, ih]
      simp only [List.forall_mem_cons, List.reverse_cons, List.append_assoc, List.singleton_append]
      constructor
      · rintro ⟨hfree, rfl⟩
        exact ⟨⟨hn, fun k hk hmem => hfree k hk (List.mem_cons_of_mem _ hmem)⟩, rfl⟩
      · rintro ⟨⟨-, hfree⟩, rfl⟩
        refine ⟨fun k hk hmem => ?_, rfl⟩
        rcases List.mem_cons.mp hmem with rfl | hmem
        · have hlow := (List.mem_range'_1.mp hk).1
          omega
        · exact hfree k hk hmem

theorem scan_item {item : Item} {rest : List Char} (hle : item.first ≤ item.last)
    (hlimit : item.last < cpuSetSize) (hrest : ∀ c ∈ rest.head?, c = ',') :
    ∃ first middle last, scanNumber (item.text ++ rest) = some (first, middle)
      ∧ scanLast first middle = some (last, rest)
      ∧ first.toNat = item.first ∧ last.toNat = item.last := by
  have hstop : Stops rest := fun c hc => by rw [hrest c hc]; decide
  cases item with
  | single n =>
    obtain ⟨v, hscan, hv⟩ := scanNumber_digits n hstop hlimit
    refine ⟨v, rest, v, hscan, ?_, hv, hv⟩
    unfold scanLast
    split
    · have hyphen := hrest '-' rfl
      cases hyphen
    · rfl
  | range a b =>
    have hmiddle : Stops ('-' :: (b.digits ++ rest)) := by
      rintro c ⟨⟩
      decide
    obtain ⟨first, hfirst, hv⟩ := scanNumber_digits a hmiddle (hle.trans_lt hlimit)
    obtain ⟨last, hlast, hw⟩ := scanNumber_digits b hstop hlimit
    have hrange : scanLast first ('-' :: (b.digits ++ rest)) = some (last, rest) := hlast
    refine ⟨first, _, last, ?_, hrange, hv, hw⟩
    rw [Item.text, List.append_assoc, List.cons_append]
    exact hfirst

theorem scan_item_sound {q middle rest : List Char} {first last : UInt32}
    (hfirst : scanNumber q = some (first, middle)) (hlast : scanLast first middle = some (last, rest)) :
    ∃ item : Item, q = item.text ++ rest ∧ first.toNat = item.first ∧ last.toNat = item.last
      ∧ item.last < cpuSetSize := by
  obtain ⟨n, rfl, -, hv, hlimit⟩ := scanNumber_sound hfirst
  unfold scanLast at hlast
  split at hlast
  · obtain ⟨m, rfl, -, hw, hlimit'⟩ := scanNumber_sound hlast
    exact ⟨.range n m, by simp [Item.text], hv, hw, hlimit'⟩
  · cases hlast
    exact ⟨.single n, rfl, hv, hv, hlimit⟩

/-- An item is read up to the comma behind it. -/
theorem scanItem_item {item : Item} {set : List Nat} {rest : List Char}
    (hle : item.first ≤ item.last) (hlimit : item.last < cpuSetSize)
    (hrest : ∀ c ∈ rest.head?, c = ',')
    (hfree : ∀ k ∈ List.range' item.first (item.last + 1 - item.first), k ∉ set) :
    scanItem set (item.text ++ rest)
      = some ((List.range' item.first (item.last + 1 - item.first)).reverse ++ set, rest) := by
  obtain ⟨first, middle, last, hfirst, hlast, hf, hl⟩ := scan_item hle hlimit hrest
  have hset : setCpus set first.toNat (last.toNat + 1 - first.toNat)
      = some ((List.range' item.first (item.last + 1 - item.first)).reverse ++ set) := by
    rw [hf, hl, setCpus_eq_some_iff]
    exact ⟨hfree, rfl⟩
  have hascends : ¬last < first := by
    rw [UInt32.lt_iff_toNat_lt, hf, hl]
    exact not_lt.mpr hle
  simp only [scanItem, hfirst, hlast, hset, if_neg hascends, Option.bind_eq_bind, Option.bind_some]
  rfl

theorem scanItem_sound {set set' : List Nat} {q rest : List Char}
    (h : scanItem set q = some (set', rest)) :
    ∃ item : Item, q = item.text ++ rest ∧ item.first ≤ item.last ∧ item.last < cpuSetSize
      ∧ (∀ k ∈ List.range' item.first (item.last + 1 - item.first), k ∉ set)
      ∧ set' = (List.range' item.first (item.last + 1 - item.first)).reverse ++ set := by
  obtain ⟨⟨first, middle⟩, hfirst, h⟩ := Option.bind_eq_some_iff.mp h
  obtain ⟨⟨last, behind⟩, hlast, h⟩ := Option.bind_eq_some_iff.mp h
  obtain ⟨item, hq, hf, hl, hlimit⟩ := scan_item_sound hfirst hlast
  dsimp only at h
  by_cases hdescends : last < first
  · rw [if_pos hdescends] at h
    cases h
  · rw [if_neg hdescends] at h
    obtain ⟨set₁, hset, h⟩ := Option.bind_eq_some_iff.mp h
    cases h
    rw [hf, hl, setCpus_eq_some_iff] at hset
    rw [UInt32.lt_iff_toNat_lt, hf, hl, not_lt] at hdescends
    exact ⟨item, hq, hdescends, hlimit, hset.1, hset.2⟩

/-! ## The whole list -/

/-- The CPUs of the items, the last one in front: the order in which the scanner sets them. -/
def cpusOf (items : List Item) : List Nat := (named (items.map Item.bounds)).reverse

theorem cpusOf_cons (item : Item) (items : List Item) :
    cpusOf (item :: items)
      = cpusOf items ++ (List.range' item.first (item.last + 1 - item.first)).reverse := by
  simp [cpusOf, named, Item.bounds]

theorem items_cons {item : Item} {items : List Item} {q : List Char}
    (hle : item.first ≤ item.last) (hlimit : item.last < cpuSetSize)
    (h : Items cpuSetSize q items) :
    Items cpuSetSize (item.text ++ ',' :: q) (item :: items) where
  ne := List.cons_ne_nil _ _
  text_eq := by
    obtain ⟨next, rest, hitems⟩ := List.exists_cons_of_ne_nil h.ne
    rw [h.text_eq, hitems]
    simp
  bounds := List.forall_mem_cons.mpr ⟨⟨hle, hlimit⟩, h.bounds⟩

theorem items_single {item : Item} (hle : item.first ≤ item.last) (hlimit : item.last < cpuSetSize) :
    Items cpuSetSize item.text [item] where
  ne := List.cons_ne_nil _ _
  text_eq := by simp
  bounds := by simpa using ⟨hle, hlimit⟩

theorem cpusOf_single (item : Item) :
    cpusOf [item] = (List.range' item.first (item.last + 1 - item.first)).reverse := by
  simp [cpusOf, named, Item.bounds]

/-- **What is accepted is a list of items**, and its CPUs are put in front of those there. -/
theorem scanCpus_sound {set set' : List Nat} {q : List Char} (h : scanCpus set q = some set') :
    ∃ items, Items cpuSetSize q items ∧ (cpusOf items).Nodup
      ∧ (∀ k ∈ cpusOf items, k ∉ set) ∧ set' = cpusOf items ++ set := by
  fun_induction scanCpus set q with
  | case1 => cases h
  | case2 set q set₁ hitem =>
    obtain ⟨item, rfl, hle, hlimit, hfree, rfl⟩ := scanItem_sound hitem
    obtain rfl := Option.some.inj h
    rw [List.append_nil]
    refine ⟨[item], items_single hle hlimit, ?_, ?_, by rw [cpusOf_single]⟩
    · rw [cpusOf_single, List.nodup_reverse]
      exact List.nodup_range'
    · rw [cpusOf_single]
      exact fun k hk => hfree k (List.mem_reverse.mp hk)
  | case3 set q set₁ c rest hitem hcomma ih =>
    obtain ⟨item, rfl, hle, hlimit, hfree, rfl⟩ := scanItem_sound hitem
    obtain ⟨items, hitems, hnodup, hfree', rfl⟩ := ih h
    refine ⟨item :: items, ?_, ?_, ?_, by rw [cpusOf_cons, List.append_assoc]⟩
    · rw [hcomma.1]
      exact items_cons hle hlimit hitems
    · rw [cpusOf_cons]
      refine List.nodup_append.mpr ⟨hnodup, List.nodup_reverse.mpr List.nodup_range', ?_⟩
      rintro k hk k' hk' rfl
      exact hfree' k hk (List.mem_append_left _ hk')
    · rw [cpusOf_cons]
      intro k hk
      rcases List.mem_append.mp hk with hk | hk
      · exact fun hmem => hfree' k hk (List.mem_append_right _ hmem)
      · exact hfree k (List.mem_reverse.mp hk)
  | case4 => cases h

/-- **A list of items is accepted** when no CPU is named twice. -/
theorem scanCpus_items {items : List Item} {set : List Nat} {q : List Char}
    (hitems : Items cpuSetSize q items) (hnodup : (cpusOf items).Nodup)
    (hfree : ∀ k ∈ cpusOf items, k ∉ set) : scanCpus set q = some (cpusOf items ++ set) := by
  induction items generalizing set q with
  | nil => exact absurd rfl hitems.ne
  | cons item items ih =>
    obtain ⟨hle, hlimit⟩ := hitems.bounds item List.mem_cons_self
    rw [cpusOf_cons] at hnodup hfree ⊢
    have hitem : ∀ k ∈ List.range' item.first (item.last + 1 - item.first), k ∉ set := fun k hk =>
      hfree k (List.mem_append_right _ (List.mem_reverse.mpr hk))
    cases items with
    | nil =>
      have htext : q = item.text ++ [] := by rw [hitems.text_eq]; simp
      rw [scanCpus, htext, scanItem_item hle hlimit (by simp) hitem]
      rfl
    | cons next items =>
      have htext : q = item.text ++ ',' :: [','].intercalate ((next :: items).map Item.text) := by
        rw [hitems.text_eq]
        simp
      have hbehind : Items cpuSetSize ([','].intercalate ((next :: items).map Item.text))
          (next :: items) :=
        ⟨List.cons_ne_nil _ _, rfl, fun i hi => hitems.bounds i (List.mem_cons_of_mem _ hi)⟩
      obtain ⟨hrest, -, hdisjoint⟩ := List.nodup_append.mp hnodup
      have hfree' : ∀ k ∈ cpusOf (next :: items),
          k ∉ (List.range' item.first (item.last + 1 - item.first)).reverse ++ set := by
        intro k hk hmem
        rcases List.mem_append.mp hmem with hmem | hmem
        · exact hdisjoint k hk k hmem rfl
        · exact hfree k (List.mem_append_left _ hk) hmem
      rw [scanCpus, htext, scanItem_item hle hlimit (by simp) hitem]
      dsimp only
      rw [if_pos ⟨rfl, hbehind.text_ne⟩, ih hbehind hrest hfree', List.append_assoc]

theorem nodup_cpusOf_iff {items : List Item} {text : List Char}
    (h : Items cpuSetSize text items) : (cpusOf items).Nodup ↔ items.Pairwise Apart := by
  rw [cpusOf, List.nodup_reverse]
  exact nodup_named_iff fun item hitem => (h.bounds item hitem).1

theorem CpuMask.eq_of_cpus {a b : CpuMask} (h : a.cpus = b.cpus) : a = b := by
  cases a
  cases b
  cases h
  rfl

theorem runParseCpus_eq_some_iff {text : List Char} {mask : CpuMask} :
    runParseCpus text = some mask ↔ CpuList.parse cpuSetSize none true text = some mask.cpus := by
  unfold runParseCpus
  split
  · rename_i cpus hparse
    constructor
    · intro h
      rw [← Option.some.inj h]
      exact hparse
    · intro h
      exact congrArg some (CpuMask.eq_of_cpus (Option.some.inj (hparse.symm.trans h)))
  · rename_i hparse
    rw [hparse]
    exact ⟨nofun, nofun⟩

theorem maskOf_cpusOf (items : List Item) : (maskOf (cpusOf items ++ [])).cpus
    = (List.range cpuSetSize).filter (· ∈ named (items.map Item.bounds)) := by
  simp [maskOf, cpusOf]

/-- **The scanner accepts the lists** whose items are apart, with the CPUs they name. -/
theorem scanCpuList_eq_some_iff {text : List Char} {mask : CpuMask} :
    scanCpuList text = some mask ↔ ∃ items, Items cpuSetSize text items ∧ items.Pairwise Apart
      ∧ mask.cpus = (List.range cpuSetSize).filter (· ∈ named (items.map Item.bounds)) := by
  constructor
  · intro h
    obtain ⟨set, hscan, rfl⟩ := Option.map_eq_some_iff.mp h
    obtain ⟨items, hitems, hnodup, -, rfl⟩ := scanCpus_sound hscan
    exact ⟨items, hitems, (nodup_cpusOf_iff hitems).mp hnodup, maskOf_cpusOf items⟩
  · rintro ⟨items, hitems, hapart, hmask⟩
    have hscan : scanCpus [] text = some (cpusOf items ++ []) :=
      scanCpus_items hitems ((nodup_cpusOf_iff hitems).mpr hapart) (by simp)
    rw [scanCpuList, hscan, Option.map_some]
    exact congrArg some (CpuMask.eq_of_cpus ((maskOf_cpusOf items).trans hmask.symm))

/-- **The scanner is the reader of the model.** -/
theorem runParseCpus_eq_scan (text : List Char) : runParseCpus text = scanCpuList text := by
  refine Option.ext fun mask => ?_
  rw [scanCpuList_eq_some_iff, runParseCpus_eq_some_iff, parse_eq_some_iff]
  have hnarrow : ∀ item : Item, Narrow none item := fun _ _ _ _ hw => by cases hw
  simp [hnarrow]

/-! ## The printer -/

theorem format_cons (n : Nat) (cpus : List Nat) :
    format (n :: cpus) = natText n ++ cpus.flatMap fun k => ',' :: natText k := by
  induction cpus generalizing n with
  | nil => simp
  | cons m cpus ih =>
    rw [List.flatMap_cons, List.cons_append, ← ih m]
    simp [format]

/-- Behind a number the loop goes on as long as there is room. -/
theorem formatCpus_behind {size : Nat} {text : List Char} {cpus : List Nat} (hne : text ≠ [])
    (hroom : (text ++ cpus.flatMap fun k => ',' :: natText k).length < size) :
    formatCpus size text cpus = some (text ++ cpus.flatMap fun k => ',' :: natText k) := by
  induction cpus generalizing text with
  | nil => simp [formatCpus]
  | cons n cpus ih =>
    have hpiece : (if text.length ≠ 0 then [','] else []) ++ natText n = ',' :: natText n := by
      rw [if_pos (by simpa using hne)]
      rfl
    rw [List.flatMap_cons, ← List.append_assoc] at hroom ⊢
    have hfits : ¬size - text.length ≤ (',' :: natText n).length := by
      simp only [List.length_append] at hroom
      omega
    rw [formatCpus, hpiece, if_neg hfits, ih (by simp) hroom]

theorem formatCpuMask_eq {mask : CpuMask} {size : Nat} (hroom : (runFormatCpus mask).length < size) :
    formatCpuMask mask size = some (runFormatCpus mask) := by
  rw [formatCpuMask, if_neg (by omega)]
  unfold runFormatCpus at hroom ⊢
  cases hcpus : mask.cpus with
  | nil => rfl
  | cons n cpus =>
    rw [hcpus, format_cons] at hroom
    have hfits : ¬size - 0 ≤ (natText n).length := by
      rw [List.length_append] at hroom
      omega
    rw [formatCpus]
    simp only [List.length_nil, ne_eq, not_true_eq_false, if_false, List.nil_append]
    rw [if_neg hfits, formatCpus_behind (natText_ne_nil n) hroom, format_cons]

theorem mask_sublist (mask : CpuMask) : mask.cpus.Sublist (List.range cpuSetSize) := by
  have hfilter : (List.range cpuSetSize).filter (· ∈ mask.cpus) = mask.cpus := by
    refine List.Pairwise.eq_of_mem_iff (ascending_filter_range _) mask.ascending fun n => ?_
    simp only [List.mem_filter, List.mem_range, decide_eq_true_eq, and_iff_right_iff_imp]
    exact mask.bound n
  rw [← hfilter]
  exact List.filter_sublist

/-- All 1024 CPUs fit into the buffer. -/
theorem length_runFormatCpus_lt (mask : CpuMask) : (runFormatCpus mask).length < 4096 := by
  have hall : ((List.range cpuSetSize).flatMap fun k => ',' :: natText k).length = 4010 := by
    decide +kernel
  have hsub := ((mask_sublist mask).flatMap fun k => ',' :: natText k).length_le
  rw [hall] at hsub
  unfold runFormatCpus
  cases hcpus : mask.cpus with
  | nil => decide
  | cons n cpus =>
    rw [hcpus, List.flatMap_cons, List.cons_append, List.length_cons] at hsub
    rw [format_cons]
    omega

/-! ## The canonical form of `analyze_experiment.py` -/

/-- No number is too long for `int`. -/
def Convertible (text : List Char) : Prop :=
  ∀ field ∈ text.splitOn ',', ∀ number ∈ field.splitOn '-', number.length ≤ maxDigits

theorem convertible_iff {text : List Char} {items : List Item} {limit : Nat}
    (h : Items limit text items) :
    Convertible text ↔ ∀ item ∈ items, Narrow (some maxDigits) item := by
  unfold Convertible
  rw [h.splitOn]
  simp only [List.forall_mem_map, splitOn_hyphen, Narrow, Option.mem_some_iff, forall_eq']

/-- **Python's reading of an accepted list**: the printed set, where `int` takes the numbers. -/
theorem canonicalCpuList_of_accepted {text : List Char} {mask : CpuMask} (label : String)
    (h : scanCpuList text = some mask) :
    (Convertible text →
        canonicalCpuList (some (textValue text)) label = .ok (runFormatCpus mask))
      ∧ (¬Convertible text →
        ∀ cpus, canonicalCpuList (some (textValue text)) label ≠ .ok cpus) := by
  obtain ⟨items, hitems, hapart, hmask⟩ := scanCpuList_eq_some_iff.mp h
  have hinherit : text ≠ "inherit".toList := by
    rintro rfl
    have hnone : scanCpuList "inherit".toList = none := by decide +kernel
    rw [hnone] at h
    cases h
  rw [canonicalCpuList_text hitems.text_ne hinherit]
  constructor
  · intro hconv
    have hparse : CpuList.parse 1024 (some maxDigits) false text = some mask.cpus :=
      parse_eq_some_iff.mpr ⟨items, hitems, (convertible_iff hitems).mp hconv, nofun, hmask⟩
    rw [hparse]
    rfl
  · intro hwide cpus hok
    cases hparse : CpuList.parse 1024 (some maxDigits) false text with
    | none =>
      rw [hparse] at hok
      cases hok
    | some read =>
      obtain ⟨items', hitems', hnarrow, -⟩ := parse_eq_some_iff.mp hparse
      exact hwide ((convertible_iff hitems').mpr hnarrow)

/-- **The CPU list codec.** A nonempty set is printed into the 4096 bytes and read back; what is read
is a comma-separated list of numbers and ascending ranges below 1024 without overlap, standing for
their union; and an accepted text whose numbers `int` converts is, for Python, the printed set. -/
theorem cpu_codec :
    (∀ mask : CpuMask, mask.cpus ≠ [] →
      ∃ text, formatCpuMask mask 4096 = some text ∧ scanCpuList text = some mask)
    ∧ (∀ text, (scanCpuList text).isSome ↔
        ∃ items, Items cpuSetSize text items ∧ items.Pairwise Apart)
    ∧ (∀ text mask items, scanCpuList text = some mask → Items cpuSetSize text items →
        ∀ n, n ∈ mask.cpus ↔ ∃ item ∈ items, item.first ≤ n ∧ n ≤ item.last)
    ∧ ∀ text mask label, scanCpuList text = some mask →
        (Convertible text → ∃ canonical, formatCpuMask mask 4096 = some canonical
          ∧ canonicalCpuList (some (textValue text)) label = .ok canonical)
        ∧ (¬Convertible text →
          ∀ cpus, canonicalCpuList (some (textValue text)) label ≠ .ok cpus) := by
  refine ⟨fun mask hne => ?_, fun text => ?_, fun text mask items h hitems n => ?_,
    fun text mask label h => ?_⟩
  · refine ⟨_, formatCpuMask_eq (length_runFormatCpus_lt mask), ?_⟩
    rw [← runParseCpus_eq_scan, runParseCpus_eq_some_iff]
    exact parse_format hne mask.ascending mask.bound (by simp)
  · rw [Option.isSome_iff_exists]
    constructor
    · rintro ⟨mask, h⟩
      obtain ⟨items, hitems, hapart, -⟩ := scanCpuList_eq_some_iff.mp h
      exact ⟨items, hitems, hapart⟩
    · rintro ⟨items, hitems, hapart⟩
      exact ⟨maskOf (cpusOf items ++ []),
        scanCpuList_eq_some_iff.mpr ⟨items, hitems, hapart, maskOf_cpusOf items⟩⟩
  · obtain ⟨items', hitems', -, hmask⟩ := scanCpuList_eq_some_iff.mp h
    rw [hmask, ← hitems.bounds_eq hitems', ← mem_named, List.mem_filter, List.mem_range,
      decide_eq_true_eq, and_iff_right_iff_imp]
    intro hn
    obtain ⟨item, hitem, -, hlast⟩ := mem_named.mp hn
    exact hlast.trans_lt (hitems.bounds item hitem).2
  · obtain ⟨hconv, hwide⟩ := canonicalCpuList_of_accepted label h
    exact ⟨fun hc => ⟨_, formatCpuMask_eq (length_runFormatCpus_lt mask), hconv hc⟩, hwide⟩

/-- A list with a range, not in order. -/
theorem cpu_codec_ranges : ∃ mask canonical, scanCpuList "8-9,0,2".toList = some mask
    ∧ mask.cpus = [0, 2, 8, 9] ∧ formatCpuMask mask 4096 = some canonical
    ∧ scanCpuList canonical = some mask
    ∧ canonicalCpuList (some (textValue "8-9,0,2".toList)) "rx_cpus" = .ok canonical := by
  obtain ⟨hprinted, -, -, hpython⟩ := cpu_codec
  have hcpus : (scanCpuList "8-9,0,2".toList).map CpuMask.cpus = some [0, 2, 8, 9] := by
    decide +kernel
  obtain ⟨mask, hscan, hmask⟩ := Option.map_eq_some_iff.mp hcpus
  have hconvertible : Convertible "8-9,0,2".toList := by
    unfold Convertible
    decide
  obtain ⟨canonical, hformat, hcanonical⟩ := (hpython _ mask "rx_cpus" hscan).1 hconvertible
  obtain ⟨text, htext, hread⟩ := hprinted mask (by rw [hmask]; exact List.cons_ne_nil _ _)
  obtain rfl := Option.some.inj (htext.symm.trans hformat)
  exact ⟨mask, _, hscan, hmask, hformat, hread, hcanonical⟩

/-- CPU 0, written with several zeros. -/
def zeros (n : Nat) : Numeral where
  digits := List.replicate (n + 1) '0'
  ne := List.cons_ne_nil _ _
  all c hc := by rw [(List.mem_replicate.mp hc).2]; decide

theorem zeros_value (n : Nat) : (zeros n).value = 0 :=
  (Nat.ofDigitChars_replicate_zero ..).trans (Nat.mul_zero _)

theorem scanCpuList_zeros (n : Nat) :
    ∃ mask, scanCpuList (zeros n).digits = some mask ∧ mask.cpus = [0] := by
  have hitems : Items cpuSetSize (Item.single (zeros n)).text [.single (zeros n)] :=
    items_single le_rfl (by rw [Item.last, zeros_value]; decide)
  have hone : cpusOf [.single (zeros n)] ++ [] = [0] := by
    simp [cpusOf_single, Item.first, Item.last, zeros_value]
  have hmask : (maskOf (cpusOf [.single (zeros n)] ++ [])).cpus = [0] := by
    rw [hone]
    decide +kernel
  exact ⟨_, scanCpuList_eq_some_iff.mpr
    ⟨_, hitems, List.pairwise_singleton _ _, maskOf_cpusOf _⟩, hmask⟩

theorem not_convertible_zeros {n : Nat} (h : maxDigits < n + 1) :
    ¬Convertible (zeros n).digits := by
  intro hconv
  have hitems : Items cpuSetSize (Item.single (zeros n)).text [.single (zeros n)] :=
    items_single le_rfl (by rw [Item.last, zeros_value]; decide)
  have hlength := (convertible_iff hitems).mp hconv _ List.mem_cons_self (zeros n)
    List.mem_cons_self maxDigits rfl
  rw [zeros, List.length_replicate] at hlength
  exact absurd hlength (not_le.mpr h)

/-- The scanner takes 4301 zeros, `int` does not. -/
theorem long_zero_not_canonical :
    (∃ mask, scanCpuList (zeros 4300).digits = some mask ∧ mask.cpus = [0])
    ∧ ∀ label cpus, canonicalCpuList (some (textValue (zeros 4300).digits)) label ≠ .ok cpus := by
  obtain ⟨mask, hscan, hmask⟩ := scanCpuList_zeros 4300
  exact ⟨⟨mask, hscan, hmask⟩, fun label => (canonicalCpuList_of_accepted label hscan).2
    (not_convertible_zeros (by decide))⟩

end AceXdp
