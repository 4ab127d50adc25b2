import Mathlib.Data.List.Sort
import AceXdp.Lib.Decimal

/-!
# CPU lists — `0-2,5` and its kind

A list of CPUs is printed as its numbers in ascending order with commas between them; readers take
ranges as well. A set of CPUs is an ascending list of numbers.

* **`parse_format`** — a printed set is read back, by a reader that refuses a CPU named twice as by
  one that does not;
* **`parse_eq_some_iff`** — what is read, as a grammar: items with commas between them;
* `parse_ascending`: what is read is ascending and below the limit.
-/

namespace CpuList

open Decimal

/-- An ascending list, without repetitions. -/
def Ascending (cpus : List Nat) : Prop := cpus.Pairwise (· < ·)

instance (cpus : List Nat) : Decidable (Ascending cpus) :=
  inferInstanceAs (Decidable (cpus.Pairwise (· < ·)))

/-- The numbers with commas between them. -/
def format (cpus : List Nat) : List Char := [','].intercalate (cpus.map natText)

/-- A nonempty string of digits, of at most `width` of them. -/
def number (width : Option Nat) (text : List Char) : Option Nat :=
  if text ≠ [] ∧ text.all Char.isDigit ∧ ∀ w ∈ width, text.length ≤ w then
    some (Nat.ofDigitChars 10 text 0)
  else none

/-- `n` or `first-last`. -/
def range (width : Option Nat) (field : List Char) : Option (Nat × Nat) :=
  match field.splitOn '-' with
  | [single] => (number width single).map fun n => (n, n)
  | [first, last] => do
    let first ← number width first
    let last ← number width last
    some (first, last)
  | _ => none

/-- Every CPU of the ranges, as often as it is named. -/
def named (ranges : List (Nat × Nat)) : List Nat :=
  ranges.flatMap fun r => List.range' r.1 (r.2 + 1 - r.1)

/-- A list with numbers below `limit`; a `strict` reader refuses a CPU that is named twice. -/
def parse (limit : Nat) (width : Option Nat) (strict : Bool) (text : List Char) :
    Option (List Nat) := do
  let ranges ← (text.splitOn ',').mapM (range width)
  if (∀ r ∈ ranges, r.1 ≤ r.2 ∧ r.2 < limit) ∧ (strict → (named ranges).Nodup) then
    some ((List.range limit).filter (· ∈ named ranges))
  else none

variable {limit : Nat} {width : Option Nat} {strict : Bool} {cpus : List Nat}

theorem ascending_filter_range (p : Nat → Bool) : Ascending ((List.range limit).filter p) :=
  List.pairwise_lt_range.sublist List.filter_sublist

/-- What is read is ascending and below the limit. -/
theorem parse_ascending {text : List Char} (h : parse limit width strict text = some cpus) :
    Ascending cpus ∧ ∀ n ∈ cpus, n < limit := by
  unfold parse at h
  cases hranges : (text.splitOn ',').mapM (range width) with
  | none => rw [hranges] at h; cases h
  | some ranges =>
    rw [hranges] at h
    simp only [Option.bind_eq_bind, Option.bind_some] at h
    split at h
    · obtain rfl := Option.some.inj h
      exact ⟨ascending_filter_range _, fun n hn => List.mem_range.mp (List.mem_filter.mp hn).1⟩
    · cases h

theorem number_natText (n : Nat) (hwidth : ∀ w ∈ width, (natText n).length ≤ w) :
    number width (natText n) = some n := by
  have hdigits : (natText n).all Char.isDigit := by
    rw [List.all_eq_true]
    exact fun c hc => isDigit_of_mem_natText hc
  rw [number, if_pos ⟨natText_ne_nil n, hdigits, hwidth⟩]
  simp [natText]

theorem notMem_natText {c : Char} (hc : c.isDigit = false) (n : Nat) : c ∉ natText n := by
  intro h
  rw [isDigit_of_mem_natText h] at hc
  cases hc

theorem range_natText (n : Nat) (hwidth : ∀ w ∈ width, (natText n).length ≤ w) :
    range width (natText n) = some (n, n) := by
  have hsplit : (natText n).splitOn '-' = [natText n] := by
    have h : (['-'].intercalate [natText n]).splitOn '-' = [natText n] :=
      List.splitOn_intercalate '-' (by simpa using notMem_natText (by decide) n) (by simp)
    simpa using h
  rw [range, hsplit]
  simp [number_natText n hwidth]

theorem mapM_range_natText (hwidth : ∀ n ∈ cpus, ∀ w ∈ width, (natText n).length ≤ w) :
    (cpus.map natText).mapM (range width) = some (cpus.map fun n => (n, n)) := by
  induction cpus with
  | nil => rfl
  | cons n cpus ih =>
    rw [List.map_cons, List.mapM_cons, range_natText n (hwidth n List.mem_cons_self),
      ih fun m hm => hwidth m (List.mem_cons_of_mem _ hm)]
    rfl

theorem named_singles (cpus : List Nat) : named (cpus.map fun n => (n, n)) = cpus := by
  induction cpus with
  | nil => rfl
  | cons n cpus ih =>
    rw [List.map_cons, named, List.flatMap_cons, ← named, ih]
    simp

theorem splitOn_format (hne : cpus ≠ []) : (format cpus).splitOn ',' = cpus.map natText := by
  refine List.splitOn_intercalate ',' ?_ (by simpa using hne)
  intro text htext
  obtain ⟨n, -, rfl⟩ := List.mem_map.mp htext
  exact notMem_natText (by decide) n

/-- Only digits and commas are printed. -/
theorem mem_format {c : Char} (h : c ∈ format cpus) : c.isDigit ∨ c = ',' := by
  unfold format at h
  induction cpus with
  | nil => cases h
  | cons n cpus ih =>
    cases cpus with
    | nil =>
      rw [List.map_singleton, List.intercalate_singleton] at h
      exact .inl (isDigit_of_mem_natText h)
    | cons m cpus =>
      rw [List.map_cons, List.map_cons, List.intercalate_cons_cons] at h
      rcases List.mem_append.mp h with h | h
      · rcases List.mem_append.mp h with h | h
        · exact .inl (isDigit_of_mem_natText h)
        · exact .inr (List.mem_singleton.mp h)
      · exact ih h

@[simp] theorem format_nil : format [] = [] := rfl

@[simp] theorem format_singleton (n : Nat) : format [n] = natText n := by simp [format]

theorem format_ne_nil (hne : cpus ≠ []) : format cpus ≠ [] := by
  intro h
  have hsplit := splitOn_format hne
  rw [h] at hsplit
  obtain ⟨n, rest, rfl⟩ := List.exists_cons_of_ne_nil hne
  have hhead : [] = natText n := (List.cons.inj hsplit).1
  exact natText_ne_nil n hhead.symm

/-- Two numbers at least need a comma. -/
theorem comma_mem_format (h : 2 ≤ cpus.length) : ',' ∈ format cpus := by
  match cpus, h with
  | n :: m :: rest, _ => simp [format]

/-- **A printed set is read back.** -/
theorem parse_format (hne : cpus ≠ []) (hascending : Ascending cpus) (hlimit : ∀ n ∈ cpus, n < limit)
    (hwidth : ∀ n ∈ cpus, ∀ w ∈ width, (natText n).length ≤ w) :
    parse limit width strict (format cpus) = some cpus := by
  have hbounds : ∀ r ∈ cpus.map fun n => (n, n), r.1 ≤ r.2 ∧ r.2 < limit := by
    intro r hr
    obtain ⟨n, hn, rfl⟩ := List.mem_map.mp hr
    exact ⟨le_rfl, hlimit n hn⟩
  have hnodup : cpus.Nodup := hascending.imp fun h => Nat.ne_of_lt h
  have hfilter : (List.range limit).filter (· ∈ cpus) = cpus := by
    refine List.Pairwise.eq_of_mem_iff (ascending_filter_range _) hascending fun n => ?_
    simp only [List.mem_filter, List.mem_range, decide_eq_true_eq, and_iff_right_iff_imp]
    exact hlimit n
  unfold parse
  rw [splitOn_format hne, mapM_range_natText hwidth]
  simp only [Option.bind_eq_bind, Option.bind_some, named_singles]
  rw [if_pos ⟨hbounds, fun _ => hnodup⟩, hfilter]

/-! ## The grammar

What the texts are, apart from any parser: items between commas, an item being a number or an
ascending range. -/

/-- A nonempty string of digits. -/
structure Numeral where
  digits : List Char
  ne : digits ≠ []
  all : ∀ c ∈ digits, c.isDigit = true

def Numeral.value (n : Numeral) : Nat := Nat.ofDigitChars 10 n.digits 0

/-- A number, or two with a hyphen between them. -/
inductive Item where
  | single (n : Numeral)
  | range (first last : Numeral)

def Item.text : Item → List Char
  | .single n => n.digits
  | .range first last => first.digits ++ '-' :: last.digits

def Item.first : Item → Nat
  | .single n => n.value
  | .range first _ => first.value

def Item.last : Item → Nat
  | .single n => n.value
  | .range _ last => last.value

def Item.numerals : Item → List Numeral
  | .single n => [n]
  | .range first last => [first, last]

def Item.bounds (item : Item) : Nat × Nat := (item.first, item.last)

/-- A nonempty list of items with commas between them, each ascending and below the limit. -/
structure Items (limit : Nat) (text : List Char) (items : List Item) : Prop where
  ne : items ≠ []
  text_eq : text = [','].intercalate (items.map Item.text)
  bounds : ∀ item ∈ items, item.first ≤ item.last ∧ item.last < limit

/-- No CPU is in two of them. -/
def Apart (a b : Item) : Prop := a.last < b.first ∨ b.last < a.first

/-- The numerals a reader converts. -/
def Narrow (width : Option Nat) (item : Item) : Prop :=
  ∀ n ∈ item.numerals, ∀ w ∈ width, n.digits.length ≤ w

theorem Numeral.notMem {c : Char} (hc : c.isDigit = false) (n : Numeral) : c ∉ n.digits := by
  intro h
  rw [n.all c h] at hc
  cases hc

theorem Item.comma_notMem (item : Item) : ',' ∉ item.text := by
  cases item with
  | single n => exact n.notMem (by decide)
  | range first last =>
    simp only [Item.text, List.mem_append, List.mem_cons, not_or]
    exact ⟨first.notMem (by decide), by decide, last.notMem (by decide)⟩

theorem Item.text_ne (item : Item) : item.text ≠ [] := by
  cases item with
  | single n => exact n.ne
  | range first last => simp [Item.text]

theorem Items.text_ne {text : List Char} {items : List Item} (h : Items limit text items) :
    text ≠ [] := by
  obtain ⟨item, rest, rfl⟩ := List.exists_cons_of_ne_nil h.ne
  rw [h.text_eq]
  cases rest with
  | nil => simpa using item.text_ne
  | cons next rest => simp

/-- The fields are the items. -/
theorem Items.splitOn {text : List Char} {items : List Item} (h : Items limit text items) :
    text.splitOn ',' = items.map Item.text := by
  rw [h.text_eq]
  refine List.splitOn_intercalate ',' (fun field hfield => ?_) (by simpa using h.ne)
  obtain ⟨item, -, rfl⟩ := List.mem_map.mp hfield
  exact item.comma_notMem

theorem number_eq_some_iff {text : List Char} {k : Nat} :
    number width text = some k ↔ ∃ n : Numeral, n.digits = text ∧ n.value = k
      ∧ ∀ w ∈ width, n.digits.length ≤ w := by
  unfold number
  constructor
  · intro h
    split at h
    · rename_i htext
      exact ⟨⟨text, htext.1, List.all_eq_true.mp htext.2.1⟩, rfl, Option.some.inj h, htext.2.2⟩
    · cases h
  · rintro ⟨n, rfl, rfl, hwidth⟩
    exact if_pos ⟨n.ne, List.all_eq_true.mpr n.all, hwidth⟩

theorem splitOn_hyphen (item : Item) :
    item.text.splitOn '-' = item.numerals.map Numeral.digits := by
  cases item with
  | single n =>
    have h : (['-'].intercalate [n.digits]).splitOn '-' = [n.digits] :=
      List.splitOn_intercalate '-' (by simpa using n.notMem (by decide)) (by simp)
    simpa [Item.text, Item.numerals] using h
  | range first last =>
    have h : (['-'].intercalate [first.digits, last.digits]).splitOn '-'
        = [first.digits, last.digits] :=
      List.splitOn_intercalate '-'
        (by simpa using ⟨first.notMem (by decide), last.notMem (by decide)⟩) (by simp)
    simpa [Item.text, Item.numerals] using h

theorem range_text {item : Item} (h : Narrow width item) :
    range width item.text = some item.bounds := by
  rw [range, splitOn_hyphen]
  cases item with
  | single n =>
    have hn := number_eq_some_iff.mpr ⟨n, rfl, rfl, h n (by simp [Item.numerals])⟩
    simp [Item.numerals, hn, Item.bounds, Item.first, Item.last]
  | range first last =>
    have hfirst := number_eq_some_iff.mpr ⟨first, rfl, rfl, h first (by simp [Item.numerals])⟩
    have hlast := number_eq_some_iff.mpr ⟨last, rfl, rfl, h last (by simp [Item.numerals])⟩
    simp [Item.numerals, hfirst, hlast, Item.bounds, Item.first, Item.last]

theorem exists_item {field : List Char} {r : Nat × Nat} (h : range width field = some r) :
    ∃ item : Item, item.text = field ∧ item.bounds = r ∧ Narrow width item := by
  have hjoin : ['-'].intercalate (field.splitOn '-') = field := List.intercalate_splitOn '-'
  unfold range at h
  split at h
  · rename_i single hsplit
    obtain ⟨k, hk, rfl⟩ := Option.map_eq_some_iff.mp h
    obtain ⟨n, rfl, rfl, hwidth⟩ := number_eq_some_iff.mp hk
    refine ⟨.single n, ?_, rfl, by simpa [Narrow, Item.numerals] using hwidth⟩
    rw [← hjoin, hsplit, List.intercalate_singleton]
    rfl
  · rename_i first last hsplit
    simp only [Option.bind_eq_bind, Option.bind_eq_some_iff] at h
    obtain ⟨a, ha, b, hb, hr⟩ := h
    obtain ⟨n, rfl, rfl, hn⟩ := number_eq_some_iff.mp ha
    obtain ⟨m, rfl, rfl, hm⟩ := number_eq_some_iff.mp hb
    refine ⟨.range n m, ?_, Option.some.inj hr, by simpa [Narrow, Item.numerals] using ⟨hn, hm⟩⟩
    rw [← hjoin, hsplit]
    simp [Item.text]
  · cases h

theorem mapM_range_items {items : List Item} (h : ∀ item ∈ items, Narrow width item) :
    (items.map Item.text).mapM (range width) = some (items.map Item.bounds) := by
  induction items with
  | nil => rfl
  | cons item items ih =>
    rw [List.map_cons, List.mapM_cons, range_text (h item List.mem_cons_self),
      ih fun i hi => h i (List.mem_cons_of_mem _ hi)]
    rfl

/-- The items of a text name the same numbers, however it is divided into digits. -/
theorem Items.bounds_eq {text : List Char} {items items' : List Item} (h : Items limit text items)
    (h' : Items limit text items') : items.map Item.bounds = items'.map Item.bounds := by
  have hnarrow : ∀ item : Item, Narrow none item := fun _ _ _ _ hw => by cases hw
  have hread : (items.map Item.text).mapM (range none) = some (items.map Item.bounds) :=
    mapM_range_items fun item _ => hnarrow item
  have hread' : (items'.map Item.text).mapM (range none) = some (items'.map Item.bounds) :=
    mapM_range_items fun item _ => hnarrow item
  rw [← h.splitOn, h'.splitOn, hread'] at hread
  exact (Option.some.inj hread).symm

theorem exists_items {fields : List (List Char)} {ranges : List (Nat × Nat)}
    (h : fields.mapM (range width) = some ranges) : ∃ items : List Item,
      items.map Item.text = fields ∧ items.map Item.bounds = ranges
        ∧ ∀ item ∈ items, Narrow width item := by
  induction fields generalizing ranges with
  | nil =>
    cases h
    exact ⟨[], rfl, rfl, by simp⟩
  | cons field fields ih =>
    simp only [List.mapM_cons, Option.bind_eq_bind, Option.bind_eq_some_iff] at h
    obtain ⟨r, hr, rest, hrest, hranges⟩ := h
    obtain ⟨item, rfl, rfl, hitem⟩ := exists_item hr
    obtain ⟨items, rfl, rfl, hitems⟩ := ih hrest
    exact ⟨item :: items, rfl, Option.some.inj hranges, List.forall_mem_cons.mpr ⟨hitem, hitems⟩⟩

theorem mem_named {items : List Item} {n : Nat} :
    n ∈ named (items.map Item.bounds) ↔ ∃ item ∈ items, item.first ≤ n ∧ n ≤ item.last := by
  simp only [named, List.mem_flatMap, List.mem_map, List.mem_range'_1]
  constructor
  · rintro ⟨r, ⟨item, hitem, rfl⟩, hn⟩
    exact ⟨item, hitem, hn.1, by have := hn.2; simp only [Item.bounds] at this hn; omega⟩
  · rintro ⟨item, hitem, hfirst, hlast⟩
    exact ⟨_, ⟨item, hitem, rfl⟩, hfirst, by simp only [Item.bounds]; omega⟩

/-- A CPU named twice is in two items. -/
theorem nodup_named_iff {items : List Item} (h : ∀ item ∈ items, item.first ≤ item.last) :
    (named (items.map Item.bounds)).Nodup ↔ items.Pairwise Apart := by
  have hitem : ∀ item ∈ items,
      (List.range' item.bounds.1 (item.bounds.2 + 1 - item.bounds.1)).Nodup := fun item _ =>
    List.nodup_range'
  rw [named, List.flatMap_map, List.nodup_flatMap, and_iff_right hitem]
  refine List.Pairwise.iff_of_mem fun {a b} ha hb => ?_
  have hle := h a ha
  have hle' := h b hb
  simp only [Function.onFun, List.disjoint_left, List.mem_range'_1, Apart, Item.bounds]
  constructor
  · intro hdisjoint
    by_contra hboth
    rw [not_or] at hboth
    have hmax := @hdisjoint (max a.first b.first) (by omega)
    omega
  · intro hapart n hn
    omega

/-- **What is read.** -/
theorem parse_eq_some_iff {text : List Char} :
    parse limit width strict text = some cpus ↔
      ∃ items, Items limit text items ∧ (∀ item ∈ items, Narrow width item)
        ∧ (strict → items.Pairwise Apart)
        ∧ cpus = (List.range limit).filter (· ∈ named (items.map Item.bounds)) := by
  unfold parse
  constructor
  · intro h
    obtain ⟨ranges, hranges, h⟩ := Option.bind_eq_some_iff.mp h
    split at h
    · rename_i hall
      obtain ⟨items, htexts, rfl, hnarrow⟩ := exists_items hranges
      have hbounds : ∀ item ∈ items, item.first ≤ item.last ∧ item.last < limit := fun item hitem =>
        hall.1 _ (List.mem_map_of_mem hitem)
      refine ⟨items, ⟨?_, ?_, hbounds⟩, hnarrow, fun hstrict => ?_, (Option.some.inj h).symm⟩
      · rintro rfl
        exact absurd htexts.symm (List.splitOn_ne_nil _ _)
      · rw [htexts, List.intercalate_splitOn]
      · exact (nodup_named_iff fun item hitem => (hbounds item hitem).1).mp (hall.2 hstrict)
    · cases h
  · rintro ⟨items, hitems, hnarrow, hapart, rfl⟩
    rw [hitems.splitOn, mapM_range_items hnarrow, Option.bind_eq_bind, Option.bind_some, if_pos]
    refine ⟨fun r hr => ?_, fun hstrict => ?_⟩
    · obtain ⟨item, hitem, rfl⟩ := List.mem_map.mp hr
      exact hitems.bounds item hitem
    · exact (nodup_named_iff fun item hitem => (hitems.bounds item hitem).1).mpr (hapart hstrict)

end CpuList
