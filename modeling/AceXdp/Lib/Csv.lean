import Mathlib.Data.List.Basic

/-!
# Comma-separated text — the reader of a scripting language's `csv` module

The character-by-character reader of the default dialect (comma, double quote, quotes doubled inside
a quoted field, line ends of any kind), the rows of a file with a header, and the lines such a file
is iterated in.

* **`readRows_plain`** — rows whose fields need no quoting are read back as they were written, with
  either line end;
* **`splitLines_lines`** — a text written line by line is iterated in those lines.
-/

namespace Csv

/-! ## Columns -/

/-- Where every name stands once, an entry is found under its name. -/
theorem lookup_of_mem {α β : Type} [BEq α] [LawfulBEq α] {l : List (α × β)} {p : α × β}
    (hnodup : (l.map Prod.fst).Nodup) (h : p ∈ l) : l.lookup p.1 = some p.2 := by
  induction l with
  | nil => cases h
  | cons q l ih =>
    rw [List.map_cons, List.nodup_cons] at hnodup
    rcases List.mem_cons.mp h with rfl | h
    · rw [List.lookup_cons, beq_self_eq_true]
    · have hne : p.1 ≠ q.1 := fun heq => hnodup.1 (heq ▸ List.mem_map_of_mem h)
      rw [List.lookup_cons, beq_false_of_ne hne]
      exact ih hnodup.2 h

/-! ## Lines -/

/-- File iteration with the line ends kept: `\n`, `\r` and `\r\n` each end a line. `acc` is the
line so far. -/
def splitLinesFrom (acc : List Char) : List Char → List (List Char)
  | [] => if acc = [] then [] else [acc]
  | '\r' :: '\n' :: rest => (acc ++ ['\r', '\n']) :: splitLinesFrom [] rest
  | c :: rest =>
    if c = '\n' ∨ c = '\r' then (acc ++ [c]) :: splitLinesFrom [] rest
    else splitLinesFrom (acc ++ [c]) rest

def splitLines (text : List Char) : List (List Char) := splitLinesFrom [] text

/-! ## The reader -/

inductive State where
  | startRecord | startField | inField | inQuoted | quoteInQuoted | eatCrnl
  deriving DecidableEq, Repr

structure Reader where
  state : State
  -- the field being read
  field : List Char
  -- the fields of the record already complete
  fields : List (List Char)
  deriving DecidableEq, Repr

def Reader.start : Reader := ⟨.startRecord, [], []⟩

/-- A field is complete; `state` is what the reader expects next. -/
def Reader.save (r : Reader) (state : State) : Reader := ⟨state, [], r.fields ++ [r.field]⟩

def Reader.add (r : Reader) (c : Char) : Reader := ⟨.inField, r.field ++ [c], r.fields⟩

/-- The expectation after the end of a record: nothing more of the line, or the rest of its end. -/
def afterRecord (c : Option Char) : State := if c = none then .startRecord else .eatCrnl

def isLineEnd (c : Option Char) : Bool := c = none || c = some '\n' || c = some '\r'

/-- A character where a field may start. -/
def Reader.fieldChar (r : Reader) (c : Option Char) : Reader :=
  if isLineEnd c then r.save (afterRecord c)
  else if c = some '"' then { r with state := .inQuoted }
  else if c = some ',' then r.save .startField
  else r.add (c.getD ' ')

/-- One character, or the end of the line (`none`). The result is `none` on the one error of the
default dialect: a character after a line end inside a line. -/
def Reader.step (r : Reader) (c : Option Char) : Option Reader :=
  match r.state with
  | .startRecord =>
    if c = none then some r
    else if isLineEnd c then some { r with state := .eatCrnl }
    else some (r.fieldChar c)
  | .startField => some (r.fieldChar c)
  | .inField =>
    if isLineEnd c then some (r.save (afterRecord c))
    else if c = some ',' then some (r.save .startField)
    else some (r.add (c.getD ' '))
  | .inQuoted =>
    if c = none then some r
    else if c = some '"' then some { r with state := .quoteInQuoted }
    else some { r with field := r.field ++ [c.getD ' '] }
  | .quoteInQuoted =>
    if c = some '"' then some { r with state := .inQuoted, field := r.field ++ ['"'] }
    else if c = some ',' then some (r.save .startField)
    else if isLineEnd c then some (r.save (afterRecord c))
    else some (r.add (c.getD ' '))
  | .eatCrnl =>
    if c = none then some { r with state := .startRecord }
    else if isLineEnd c then some r
    else none

/-- The characters of a line, then its end. -/
def Reader.line (r : Reader) : List Char → Option Reader
  | [] => r.step none
  | c :: rest => (r.step (some c)).bind fun r' => r'.line rest

/-- The records of the remaining lines. A quoted field may go on over lines; one still open at the
end is taken as it is. -/
def readFrom (r : Reader) : List (List Char) → Option (List (List (List Char)))
  | [] => if r.state = .inQuoted then some [r.fields ++ [r.field]] else some []
  | line :: rest =>
    (r.line line).bind fun r' =>
      if r'.state = .startRecord then
        (readFrom .start rest).map fun records => r'.fields :: records
      else readFrom r' rest

def readRows (lines : List (List Char)) : Option (List (List (List Char))) := readFrom .start lines

/-- A file with a header: the first record names the fields, empty records are skipped. `none` as
the header means a file without any line. -/
structure Table where
  fieldnames : Option (List (List Char))
  rows : List (List (List Char))
  deriving DecidableEq, Repr

def readTable (lines : List (List Char)) : Option Table :=
  (readRows lines).map fun records =>
    match records with
    | [] => ⟨none, []⟩
    | header :: rows => ⟨some header, rows.filter (· ≠ [])⟩

/-! ## Writing -/

/-- The fields of a row, comma between. -/
def joinFields : List (List Char) → List Char
  | [] => []
  | [f] => f
  | f :: g :: rest => f ++ ',' :: joinFields (g :: rest)

/-- A character that needs no quotes around the field it stands in. -/
def isPlain (c : Char) : Prop := c ≠ ',' ∧ c ≠ '"' ∧ c ≠ '\n' ∧ c ≠ '\r'

instance (c : Char) : Decidable (isPlain c) := inferInstanceAs (Decidable (_ ∧ _))

/-- A row that can be written and read back without quotes: more than one field, or one that is not
empty. -/
structure PlainRow (fields : List (List Char)) : Prop where
  plain : ∀ f ∈ fields, ∀ c ∈ f, isPlain c
  visible : joinFields fields ≠ []

/-! ## Reading back plain rows -/

section Read

variable {r : Reader}

theorem isLineEnd_of_isPlain {c : Char} (h : isPlain c) : isLineEnd (some c) = false := by
  simp [isLineEnd, h.2.2.1, h.2.2.2]

theorem fieldChar_plain {c : Char} (h : isPlain c) : r.fieldChar (some c) = r.add c := by
  obtain ⟨hcomma, hquote, -, -⟩ := id h
  simp [Reader.fieldChar, isLineEnd_of_isPlain h, hcomma, hquote]

theorem step_inField_plain {c : Char} (h : isPlain c) (hr : r.state = .inField) :
    r.step (some c) = some (r.add c) := by
  simp [Reader.step, hr, isLineEnd_of_isPlain h, h.1]

/-- The rest of a plain field, once its first character is in. -/
theorem line_inField (rest : List Char) :
    ∀ (f : List Char) (field : List Char) (fields : List (List Char)), (∀ c ∈ f, isPlain c) →
      Reader.line ⟨.inField, field, fields⟩ (f ++ rest)
        = Reader.line ⟨.inField, field ++ f, fields⟩ rest
  | [], field, fields, _ => by simp
  | c :: f, field, fields, h => by
    have hc := h c List.mem_cons_self
    rw [List.cons_append, Reader.line, step_inField_plain hc rfl, Option.bind_some]
    have ih := line_inField rest f (field ++ [c]) fields
      fun d hd => h d (List.mem_cons_of_mem _ hd)
    rw [List.append_assoc] at ih
    exact ih

/-- Where a field may start: in the first position of a record the reader is also there. -/
inductive AtField : State → Prop where
  | record : AtField .startRecord
  | field : AtField .startField

/-- A field and the comma behind it. -/
theorem line_field_comma {state : State} (hstate : AtField state) {f : List Char}
    (h : ∀ c ∈ f, isPlain c) (fields : List (List Char)) (rest : List Char) :
    Reader.line ⟨state, [], fields⟩ (f ++ ',' :: rest)
      = Reader.line ⟨.startField, [], fields ++ [f]⟩ rest := by
  cases f with
  | nil => cases hstate <;> rfl
  | cons c f =>
    have hc := h c List.mem_cons_self
    have hfirst : Reader.step ⟨state, [], fields⟩ (some c) = some ⟨.inField, [c], fields⟩ := by
      cases hstate <;> simp [Reader.step, fieldChar_plain hc, isLineEnd_of_isPlain hc, Reader.add]
    rw [List.cons_append, Reader.line, hfirst, Option.bind_some,
      line_inField _ f [c] fields fun d hd => h d (List.mem_cons_of_mem _ hd)]
    rfl

/-- The two line ends that writers use. -/
inductive LineEnd : List Char → Prop where
  | lf : LineEnd ['\n']
  | crlf : LineEnd ['\r', '\n']

/-- The last field and the end of the line. An empty field alone on its line would be no record, so
the reader is past the start of the record, or the field is not empty. -/
theorem line_field_end {state : State} (hstate : AtField state) {f term : List Char}
    (hterm : LineEnd term) (h : ∀ c ∈ f, isPlain c) (hvisible : state = .startRecord → f ≠ [])
    (fields : List (List Char)) :
    Reader.line ⟨state, [], fields⟩ (f ++ term) = some ⟨.startRecord, [], fields ++ [f]⟩ := by
  cases f with
  | nil =>
    cases hstate with
    | record => exact absurd rfl (hvisible rfl)
    | field => cases hterm <;> rfl
  | cons c f =>
    have hc := h c List.mem_cons_self
    have hfirst : Reader.step ⟨state, [], fields⟩ (some c) = some ⟨.inField, [c], fields⟩ := by
      cases hstate <;> simp [Reader.step, fieldChar_plain hc, isLineEnd_of_isPlain hc, Reader.add]
    rw [List.cons_append, Reader.line, hfirst, Option.bind_some,
      line_inField _ f [c] fields fun d hd => h d (List.mem_cons_of_mem _ hd)]
    cases hterm <;> rfl

/-- A row from one of its fields on. Induction on the fields left. -/
theorem line_joinFields {term : List Char} (hterm : LineEnd term) :
    ∀ (fs : List (List Char)) (state : State) (fields : List (List Char)), AtField state →
      fs ≠ [] → (∀ f ∈ fs, ∀ c ∈ f, isPlain c) →
      (state = .startRecord → joinFields fs ≠ []) →
      Reader.line ⟨state, [], fields⟩ (joinFields fs ++ term)
        = some ⟨.startRecord, [], fields ++ fs⟩
  | [f], state, fields, hstate, _, h, hvisible =>
    line_field_end hstate hterm (h f List.mem_cons_self) hvisible fields
  | f :: g :: rest, state, fields, hstate, _, h, _ => by
    rw [joinFields, List.append_assoc, List.cons_append,
      line_field_comma hstate (h f List.mem_cons_self),
      line_joinFields hterm (g :: rest) .startField _ .field (List.cons_ne_nil _ _)
        (fun k hk => h k (List.mem_cons_of_mem _ hk)) (by intro hs; cases hs),
      List.append_assoc, List.singleton_append]

theorem PlainRow.line {fs : List (List Char)} (h : PlainRow fs) {term : List Char}
    (hterm : LineEnd term) :
    Reader.start.line (joinFields fs ++ term) = some ⟨.startRecord, [], fs⟩ := by
  have hne : fs ≠ [] := by
    rintro rfl
    exact h.visible rfl
  exact line_joinFields hterm fs .startRecord [] .record hne h.plain fun _ => h.visible

/-- **Plain rows are read back.** -/
theorem readRows_plain {term : List Char} (hterm : LineEnd term) {rows : List (List (List Char))}
    (h : ∀ row ∈ rows, PlainRow row) :
    readRows (rows.map fun row => joinFields row ++ term) = some rows := by
  unfold readRows
  induction rows with
  | nil => rfl
  | cons row rows ih =>
    rw [List.map_cons, readFrom, (h row List.mem_cons_self).line hterm, Option.bind_some,
      if_pos rfl, ih fun row' hrow => h row' (List.mem_cons_of_mem _ hrow), Option.map_some]

theorem PlainRow.ne_nil {fs : List (List Char)} (h : PlainRow fs) : fs ≠ [] := by
  rintro rfl
  exact h.visible rfl

theorem readTable_plain {term : List Char} (hterm : LineEnd term) {header : List (List Char)}
    {rows : List (List (List Char))} (hheader : PlainRow header)
    (h : ∀ row ∈ rows, PlainRow row) :
    readTable ((header :: rows).map fun row => joinFields row ++ term)
      = some ⟨some header, rows⟩ := by
  have hall : ∀ row ∈ header :: rows, PlainRow row := by
    intro row hrow
    rcases List.mem_cons.mp hrow with rfl | hrow
    · exact hheader
    · exact h row hrow
  have hskip : rows.filter (· ≠ []) = rows := by
    rw [List.filter_eq_self]
    intro row hrow
    simpa using (h row hrow).ne_nil
  rw [readTable, readRows_plain hterm hall, Option.map_some]
  simp only [hskip]

end Read

/-! ## Iterating in the lines that were written -/

theorem splitLinesFrom_plain {body term : List Char} (hterm : LineEnd term)
    (h : ∀ c ∈ body, c ≠ '\n' ∧ c ≠ '\r') (acc rest : List Char) :
    splitLinesFrom acc (body ++ (term ++ rest)) = (acc ++ (body ++ term)) :: splitLinesFrom [] rest
    := by
  induction body generalizing acc with
  | nil => cases hterm <;> simp [splitLinesFrom]
  | cons c body ih =>
    obtain ⟨hnl, hcr⟩ := h c List.mem_cons_self
    have hstep : splitLinesFrom acc (c :: (body ++ (term ++ rest)))
        = splitLinesFrom (acc ++ [c]) (body ++ (term ++ rest)) := by
      rw [splitLinesFrom.eq_def]
      split
      · rename_i heq; cases heq
      · rename_i heq; exact absurd (List.cons.inj heq).1 hcr
      · rename_i c' rest' _ heq
        obtain ⟨rfl, rfl⟩ := List.cons.inj heq
        rw [if_neg (by simp [hnl, hcr])]
    rw [List.cons_append, hstep, ih (fun d hd => h d (List.mem_cons_of_mem _ hd))]
    simp

/-- **A text written line by line is iterated in those lines.** -/
theorem splitLines_lines {term : List Char} (hterm : LineEnd term) {bodies : List (List Char)}
    (h : ∀ body ∈ bodies, ∀ c ∈ body, c ≠ '\n' ∧ c ≠ '\r') :
    splitLines (bodies.flatMap fun body => body ++ term)
      = bodies.map fun body => body ++ term := by
  unfold splitLines
  induction bodies with
  | nil => rfl
  | cons body bodies ih =>
    rw [List.flatMap_cons, List.append_assoc, splitLinesFrom_plain hterm (h body List.mem_cons_self),
      ih fun b hb => h b (List.mem_cons_of_mem _ hb), List.map_cons, List.nil_append]

theorem isPlain_joinFields {fs : List (List Char)} (h : ∀ f ∈ fs, ∀ c ∈ f, isPlain c) :
    ∀ c ∈ joinFields fs, c ≠ '\n' ∧ c ≠ '\r' := by
  induction fs with
  | nil => intro c hc; cases hc
  | cons f fs ih =>
    cases fs with
    | nil =>
      intro c hc
      exact (h f List.mem_cons_self c hc).2.2
    | cons g rest =>
      intro c hc
      rw [joinFields] at hc
      rcases List.mem_append.mp hc with hc | hc
      · exact (h f List.mem_cons_self c hc).2.2
      · rcases List.mem_cons.mp hc with rfl | hc
        · decide
        · exact ih (fun k hk => h k (List.mem_cons_of_mem _ hk)) c hc

end Csv
