import AceXdp.Lib.CText
import AceXdp.Lib.Decimal

/-!
# AceXdp — process identities

`ace_process.h`: a process is its PID and the start time in field 22 of `/proc/PID/stat`.
`ace_process_start_ticks` reads the file at one go and walks a pointer over the fields behind the
last `)`. A token ends at a space, at a newline or at the NUL, but only spaces are skipped in front
of the next one, and only the NUL is refused there.

* `scanFields_joined`: the walk over fields that single spaces separate;
* `startTicks_line`: the whole function on a line of the file;
* `process_start_ticks_exact_iff`: on which lines it does what it is for.
-/

namespace AceXdp.Process

open CText

def enoent : Int := 2
def esrch : Int := 3
def eintr : Int := 4
def einval : Int := 22
def enametoolong : Int := 36
def eoverflow : Int := 75

def space : UInt8 := 32
def newline : UInt8 := 10
def openParen : UInt8 := 40
def closeParen : UInt8 := 41

/-! ## `ace_process_start_ticks` -/

/-- What the system calls on `/proc/PID/stat` answer: `open` and `close` (0 or an `errno`) and, one
after the other, the calls of `read`. -/
structure StatFile where
  openErrno : Int
  reads : List (Except Int (List UInt8))
  closeErrno : Int

/-- `sizeof(buffer)`; `read` is given one byte less. -/
def bufferSize : Nat := 4096

/-- `sizeof(path)`. -/
def pathSize : Nat := 64

def statPath (pid : Int32) : List Char :=
  ['/', 'p', 'r', 'o', 'c', '/'] ++ Decimal.intText pid.toInt ++ ['/', 's', 't', 'a', 't']

/-- The `do` loop over `read`; `none` while every call is interrupted. -/
def readRetry : List (Except Int (List UInt8)) → Option (Except Int (List UInt8))
  | [] => none
  | .error errno :: rest => if errno = eintr then readRetry rest else some (.error errno)
  | .ok bytes :: _ => some (.ok bytes)

/-- The end of the token at the pointer. -/
def tokenEnd (cursor : List UInt8) : List UInt8 :=
  cursor.dropWhile fun b => b != space && b != newline

/-- Field 22, with the pointer at its first byte. -/
def parseTicks (cursor : List UInt8) : Except Int UInt64 :=
  let parsed := strtoull cursor
  if parsed.range ∨ parsed.rest ≠ tokenEnd cursor then .error (-einval) else .ok parsed.value

/-- The loop over the fields, `left` of them in front of field 22. -/
def scanFields : Nat → List UInt8 → Except Int UInt64
  | left, cursor =>
    let cursor := cursor.dropWhile (· == space)
    if cursor = [] then .error (-einval)
    else
      match left with
      | 0 => parseTicks cursor
      | left + 1 => scanFields left (tokenEnd cursor)

/-- Behind the last `)` of the string in the buffer. -/
def parseStat (bytes : List UInt8) : Except Int UInt64 :=
  match strrchr closeParen (cString bytes) with
  | none => .error (-einval)
  | some found => scanFields 19 found.tail

/-- `ace_process_start_ticks`, with somewhere to put the result; `none` while it has not returned. -/
def startTicks (pid : Int32) (file : StatFile) : Option (Except Int UInt64) :=
  if pid ≤ 0 then some (.error (-einval))
  else if pathSize ≤ (statPath pid).length then some (.error (-enametoolong))
  else if file.openErrno ≠ 0 then some (.error (-file.openErrno))
  else (readRetry file.reads).map fun
    | .error errno => .error (-errno)
    | .ok bytes =>
      if file.closeErrno ≠ 0 then .error (-file.closeErrno)
      else if bytes.length = 0 ∨ bytes.length = bufferSize - 1 then .error (-eoverflow)
      else parseStat bytes

/-! ## `ace_process_identity_is_alive` -/

def identityIsAlive (pid : Int32) (expected : UInt64) (file : StatFile) :
    Option (Except Int Bool) :=
  if pid ≤ 0 ∨ expected = 0 then some (.error (-einval))
  else (startTicks pid file).map fun
    | .error err => if err = -enoent ∨ err = -esrch then .ok false else .error err
    | .ok actual => .ok (actual = expected)

/-! ## The walk over the fields -/

section Walk

variable {token rest : List UInt8} (hne : token ≠ [])
  (hplain : ∀ b ∈ token, b ≠ space ∧ b ≠ newline)

include hne hplain

theorem dropWhile_space : (space :: (token ++ rest)).dropWhile (· == space) = token ++ rest := by
  obtain ⟨b, token, rfl⟩ := List.exists_cons_of_ne_nil hne
  have hb : ¬(b == space) = true := by simpa using (hplain b List.mem_cons_self).1
  rw [List.dropWhile_cons_of_pos (by decide)]
  exact List.dropWhile_cons_of_neg hb

theorem scanFields_zero : scanFields 0 (space :: (token ++ rest)) = parseTicks (token ++ rest) := by
  rw [scanFields, dropWhile_space hne hplain, if_neg (by simp [hne])]

/-- A token in front of field 22 is passed over. -/
theorem scanFields_token (hrest : ∀ b ∈ rest.head?, b = space ∨ b = newline) (left : Nat) :
    scanFields (left + 1) (space :: (token ++ rest)) = scanFields left rest := by
  have hend : tokenEnd (token ++ rest) = rest := by
    refine dropWhile_run (fun b hb => ?_) fun b hb => ?_
    · simpa using hplain b hb
    · rcases hrest b hb with rfl | rfl <;> rfl
  rw [scanFields, dropWhile_space hne hplain, if_neg (by simp [hne]), hend]

end Walk

theorem scanFields_nil (left : Nat) : scanFields left [] = .error (-einval) := by
  cases left <;> rfl

/-- **The newline is never passed**: every field from there on is the empty token in front of it, and
`strtoull` takes that for the number 0. Induction on the fields that are left. -/
theorem scanFields_newline (left : Nat) : scanFields left [newline] = .ok 0 := by
  induction left with
  | zero => rfl
  | succ left ih => exact ih

/-- The fields behind the name, each with the space in front of it, and the newline. -/
def joined (fields : List (List UInt8)) : List UInt8 := fields.flatMap (space :: ·) ++ [newline]

theorem joined_cons (field : List UInt8) (fields : List (List UInt8)) :
    joined (field :: fields) = (space :: field) ++ joined fields := by
  simp [joined]

/-- What follows a field stops it. -/
theorem head_cString_joined (fields : List (List UInt8)) :
    ∀ b ∈ (cString (joined fields)).head?, b = space ∨ b = newline := by
  cases fields with
  | nil => simp [joined, cString, newline, space]
  | cons field fields =>
    rw [joined_cons, List.cons_append, cString, List.takeWhile_cons_of_pos (by decide)]
    simp

/-- A field as the kernel prints it. -/
structure FieldText (field : List UInt8) : Prop where
  nonempty : field ≠ []
  plain : ∀ b ∈ field, b ≠ space ∧ b ≠ closeParen ∧ b ≠ newline

/-- A field with a NUL is the last one, and field 22 is behind it. -/
theorem scanFields_cut {field rest : List UInt8} (hfield : FieldText field) (hnul : 0 ∈ field)
    (left : Nat) : scanFields (left + 1) (cString ((space :: field) ++ rest)) = .error (-einval) := by
  have htext : cString ((space :: field) ++ rest) = space :: (cString field ++ []) := by
    rw [cString_append_of_mem rest (List.mem_cons_of_mem _ hnul), cString,
      List.takeWhile_cons_of_pos (by decide), List.append_nil, cString]
  rw [htext]
  by_cases hne : cString field = []
  · rw [hne]; rfl
  · rw [scanFields_token hne (fun b hb => ?_) (by simp), scanFields_nil]
    exact ⟨(hfield.plain b (mem_of_mem_cString hb)).1, (hfield.plain b (mem_of_mem_cString hb)).2.2⟩

/-- What the walk makes of field 22. -/
def ticksOf (field : List UInt8) : Except Int UInt64 :=
  if digitsValue field < 2 ^ 64 then .ok (UInt64.ofNat (digitsValue field)) else .error (-einval)

theorem ticksOf_eq_ok_iff {field : List UInt8} {ticks : UInt64} :
    ticksOf field = .ok ticks ↔ digitsValue field < 2 ^ 64 ∧ ticks.toNat = digitsValue field := by
  unfold ticksOf
  split
  case isTrue hsmall =>
    have hvalue : (UInt64.ofNat (digitsValue field)).toNat = digitsValue field :=
      UInt64.toNat_ofNat_of_lt hsmall
    rw [Except.ok.injEq, ← UInt64.toNat_inj, hvalue]
    exact ⟨fun h => ⟨hsmall, h.symm⟩, fun h => h.2.symm⟩
  case isFalse hlarge => exact ⟨fun h => (by cases h), fun h => absurd h.1 hlarge⟩

theorem not_isDigit_of_stop {b : UInt8} (h : b = space ∨ b = newline) : isDigit b = false := by
  rcases h with rfl | rfl <;> rfl

theorem parseTicks_digits {field rest : List UInt8} (hne : field ≠ [])
    (hdigits : ∀ b ∈ field, isDigit b) (hplain : ∀ b ∈ field, b ≠ space ∧ b ≠ newline)
    (hrest : ∀ b ∈ rest.head?, b = space ∨ b = newline) :
    parseTicks (field ++ rest) = ticksOf field := by
  have hend : tokenEnd (field ++ rest) = rest := by
    refine dropWhile_run (fun b hb => ?_) fun b hb => ?_
    · simpa using hplain b hb
    · rcases hrest b hb with rfl | rfl <;> rfl
  have hparse := strtoull_digits hne hdigits fun b hb => not_isDigit_of_stop (hrest b hb)
  unfold parseTicks ticksOf
  rw [hparse, hend]
  split <;> simp

/-- **The walk over the fields of a line.** A NUL in front of field 22 makes it an error; without
one, field 22 decides, and a line that has none gives 0. Induction on the fields. -/
theorem scanFields_joined {fields : List (List UInt8)} (hfields : ∀ f ∈ fields, FieldText f) :
    ∀ {left : Nat}, (∀ f, fields[left]? = some f → ∀ b ∈ f, isDigit b) →
      scanFields left (cString (joined fields))
        = if ∃ f ∈ fields.take left, 0 ∈ f then .error (-einval)
          else match fields[left]? with
            | none => .ok 0
            | some f => ticksOf f := by
  induction fields with
  | nil =>
    intro left _
    simpa [joined, cString, newline] using scanFields_newline left
  | cons field fields ih =>
    intro left hdigits
    have hfield := hfields field List.mem_cons_self
    have hplain : ∀ b ∈ field, b ≠ space ∧ b ≠ newline := fun b hb =>
      ⟨(hfield.plain b hb).1, (hfield.plain b hb).2.2⟩
    have hsplit (hnul : 0 ∉ field) :
        cString (joined (field :: fields)) = space :: (field ++ cString (joined fields)) := by
      rw [joined_cons, cString_append _ (by simpa [space] using hnul), List.cons_append]
    cases left with
    | zero =>
      have hd := hdigits field rfl
      have hnul : 0 ∉ field := fun h0 => absurd (hd 0 h0) (by decide)
      rw [hsplit hnul, scanFields_zero hfield.nonempty hplain,
        parseTicks_digits hfield.nonempty hd hplain (head_cString_joined fields)]
      simp
    | succ left =>
      by_cases hnul : 0 ∈ field
      · rw [joined_cons, scanFields_cut hfield hnul, if_pos ⟨field, by simp, hnul⟩]
      · rw [hsplit hnul,
          scanFields_token hfield.nonempty hplain (head_cString_joined fields),
          ih (fun f hf => hfields f (List.mem_cons_of_mem _ hf)) fun f hf => hdigits f (by simpa)]
        simp [hnul]

/-! ## Lines of the file -/

/-- `pid (comm) f3 f4 …`, ended by a newline: the fields behind the name are nonempty and plain, and
field 22 is a number if there is one. The name is arbitrary. -/
structure StatLine where
  pid : List UInt8
  comm : List UInt8
  fields : List (List UInt8)
  pidDigits : ∀ b ∈ pid, isDigit b
  commString : 0 ∉ comm
  fieldTexts : ∀ f ∈ fields, FieldText f
  ticksDigits : ∀ f, fields[19]? = some f → ∀ b ∈ f, isDigit b

namespace StatLine

/-- In front of the `)` that ends the name. -/
def front (line : StatLine) : List UInt8 := line.pid ++ space :: openParen :: line.comm

def bytes (line : StatLine) : List UInt8 := line.front ++ closeParen :: joined line.fields

/-- Field 22. -/
def ticks (line : StatLine) : Option (List UInt8) := line.fields[19]?

/-- A NUL in front of field 22. -/
def Cut (line : StatLine) : Prop := ∃ f ∈ line.fields.take 19, 0 ∈ f

instance (line : StatLine) : Decidable line.Cut :=
  inferInstanceAs (Decidable (∃ f ∈ line.fields.take 19, 0 ∈ f))

theorem nul_notMem_front (line : StatLine) : 0 ∉ line.front := by
  have hpid : 0 ∉ line.pid := fun h0 => absurd (line.pidDigits 0 h0) (by decide)
  simp [front, hpid, line.commString, space, openParen]

theorem closeParen_notMem (line : StatLine) : closeParen ∉ cString (joined line.fields) := by
  intro hmem
  have hin := mem_of_mem_cString hmem
  simp only [joined, List.mem_append, List.mem_flatMap, List.mem_cons,
    List.not_mem_nil, or_false] at hin
  rcases hin with ⟨f, hf, heq | hb⟩ | heq
  · exact absurd heq (by decide)
  · exact ((line.fieldTexts f hf).plain _ hb).2.1 rfl
  · exact absurd heq (by decide)

theorem ticks_eq_none_iff (line : StatLine) : line.ticks = none ↔ line.fields.length < 20 := by
  rw [ticks, List.getElem?_eq_none_iff]
  omega

end StatLine

/-- The result for the bytes of a line, whatever its name holds. -/
theorem parseStat_line (line : StatLine) :
    parseStat line.bytes
      = if line.Cut then .error (-einval)
        else match line.ticks with
          | none => .ok 0
          | some f => ticksOf f := by
  have hstring : cString line.bytes = line.front ++ closeParen :: cString (joined line.fields) := by
    rw [StatLine.bytes, cString_append _ line.nul_notMem_front, cString,
      List.takeWhile_cons_of_pos (by decide), ← cString]
  rw [parseStat, hstring, strrchr_append _ _ line.closeParen_notMem]
  exact scanFields_joined line.fieldTexts line.ticksDigits

/-- The path always fits. -/
theorem length_statPath (pid : Int32) : (statPath pid).length < pathSize := by
  have hlow := pid.le_toInt
  have hhigh := pid.toInt_lt
  have hnumber : (Decimal.intText pid.toInt).length ≤ 11 := by
    cases hpid : pid.toInt with
    | ofNat n =>
      have hlen : (Decimal.natText n).length ≤ 10 :=
        (Nat.length_toDigits_le_iff (by decide) (by decide)).mpr (by
          rw [hpid, Int.ofNat_eq_natCast] at hhigh
          omega)
      exact hlen.trans (by decide)
    | negSucc n =>
      have hlen : (Decimal.natText (n + 1)).length ≤ 10 :=
        (Nat.length_toDigits_le_iff (by decide) (by decide)).mpr (by
          rw [hpid] at hlow
          omega)
      exact Nat.succ_le_succ hlen
  have hsize : pathSize = 64 := rfl
  simp only [statPath, List.length_append, List.length_cons, List.length_nil]
  omega

section Whole

variable {pid : Int32} {file : StatFile} {line : StatLine} (hpid : 0 < pid)
  (hopen : file.openErrno = 0) (hclose : file.closeErrno = 0)
  (hread : readRetry file.reads = some (.ok line.bytes)) (hshort : line.bytes.length < 4095)

include hpid hopen hclose hread hshort

/-- The whole function on a line that is read. -/
theorem startTicks_line : startTicks pid file = some (parseStat line.bytes) := by
  have hpath := length_statPath pid
  have hnonempty : line.bytes.length ≠ 0 := by simp [StatLine.bytes]
  have hlength : ¬(line.bytes.length = 0 ∨ line.bytes.length = bufferSize - 1) := by
    have hsize : bufferSize - 1 = 4095 := rfl
    omega
  rw [startTicks, if_neg (Int32.not_le.mpr hpid), if_neg (Nat.not_le.mpr hpath), if_neg (by simpa),
    hread, Option.map_some]
  dsimp only
  rw [if_neg (by simpa), if_neg hlength]

/-- Neither `-ENOENT` nor `-ESRCH` comes from a line. -/
theorem identityIsAlive_line {expected : UInt64} (hexpected : expected ≠ 0) :
    identityIsAlive pid expected file
      = some (if line.Cut then .error (-einval)
        else match line.ticks with
          | none => .ok false
          | some f => (ticksOf f).map fun actual => decide (actual = expected)) := by
  have hguard : ¬(pid ≤ 0 ∨ expected = 0) := by
    rintro (h | h)
    · exact Int32.not_le.mpr hpid h
    · exact hexpected h
  rw [identityIsAlive, if_neg hguard, startTicks_line hpid hopen hclose hread hshort,
    parseStat_line, Option.map_some]
  congr 1
  by_cases hcut : line.Cut
  · rw [if_pos hcut, if_pos hcut]; rfl
  · rw [if_neg hcut, if_neg hcut]
    cases line.ticks with
    | none => simpa using hexpected.symm
    | some f =>
      dsimp only
      unfold ticksOf
      by_cases hsmall : digitsValue f < 2 ^ 64
      · rw [if_pos hsmall]; rfl
      · rw [if_neg hsmall]; rfl

/-- **A line without field 22 is taken for the start time 0**, which is the identity of no process:
whichever process is asked for is reported dead. -/
theorem startTicks_truncated (hfew : line.fields.length < 20) (hcut : ¬line.Cut) :
    startTicks pid file = some (.ok 0)
      ∧ ∀ expected ≠ 0, identityIsAlive pid expected file = some (.ok false) := by
  have hticks := line.ticks_eq_none_iff.mpr hfew
  constructor
  · rw [startTicks_line hpid hopen hclose hread hshort, parseStat_line, if_neg hcut, hticks]
  · intro expected hexpected
    rw [identityIsAlive_line hpid hopen hclose hread hshort hexpected, if_neg hcut, hticks]

/-- **The start time is read exactly** when field 22 is there and no NUL hides it, or when there is
none and a NUL hides the newline. -/
theorem process_start_ticks_exact_iff :
    ((∀ ticks, startTicks pid file = some (.ok ticks)
          ↔ ∃ f, line.ticks = some f ∧ digitsValue f < 2 ^ 64 ∧ ticks.toNat = digitsValue f)
        ∧ (line.fields.length < 20 →
            (∃ err, startTicks pid file = some (.error err))
              ∧ ∀ expected ≠ 0, ∃ err, identityIsAlive pid expected file = some (.error err)))
      ↔ (line.fields.length < 20 ∧ line.Cut)
        ∨ ∃ f, line.ticks = some f ∧ (¬line.Cut ∨ 2 ^ 64 ≤ digitsValue f) := by
  have hstart := startTicks_line hpid hopen hclose hread hshort
  rw [parseStat_line] at hstart
  have hfew := line.ticks_eq_none_iff
  cases hticks : line.ticks with
  | none =>
    have hlength := hfew.mp hticks
    constructor
    · rintro ⟨-, herror⟩
      obtain ⟨⟨err, herr⟩, -⟩ := herror hlength
      refine .inl ⟨hlength, ?_⟩
      by_contra hcut
      rw [(startTicks_truncated hpid hopen hclose hread hshort hlength hcut).1] at herr
      cases herr
    · rintro (⟨-, hcut⟩ | ⟨f, hf, -⟩)
      · rw [if_pos hcut] at hstart
        refine ⟨fun ticks => by simp [hstart], fun _ => ⟨⟨_, hstart⟩, fun expected hexpected => ?_⟩⟩
        exact ⟨_, by rw [identityIsAlive_line hpid hopen hclose hread hshort hexpected, if_pos hcut]⟩
      · cases hf
  | some f =>
    have hlength : ¬line.fields.length < 20 := fun h => by rw [hfew.mpr h] at hticks; cases hticks
    simp only [hlength, false_implies, and_true, false_and, false_or, Option.some.injEq,
      exists_eq_left']
    by_cases hcut : line.Cut
    · rw [if_pos hcut] at hstart
      have herror (ticks : UInt64) : startTicks pid file ≠ some (.ok ticks) := fun h => by
        rw [hstart] at h; cases h
      constructor
      · intro h
        refine .inr (Nat.not_lt.mp fun hsmall => ?_)
        exact herror _ ((h (UInt64.ofNat (digitsValue f))).mpr
          ⟨hsmall, UInt64.toNat_ofNat_of_lt hsmall⟩)
      · rintro (hplain | hlarge) ticks
        · exact absurd hcut hplain
        · exact ⟨fun h => absurd h (herror ticks), fun h => absurd h.1 (Nat.not_lt.mpr hlarge)⟩
    · rw [if_neg hcut, hticks] at hstart
      refine ⟨fun _ => .inl hcut, fun _ ticks => ?_⟩
      rw [hstart, Option.some.injEq]
      exact ticksOf_eq_ok_iff

end Whole

/-! ## Two lines -/

/-- `4321 (a) b (c) S 1 … 1 987654`: 22 fields, and a name that holds a space and parentheses. -/
def completeLine : StatLine where
  pid := [52, 51, 50, 49]
  comm := [97, 41, 32, 98, 32, 40, 99]
  fields := [83] :: (List.replicate 18 [49] ++ [[57, 56, 55, 54, 53, 52]])
  pidDigits := by decide +kernel
  commString := by decide +kernel
  fieldTexts := fun f hf => by
    have hall : ∀ f ∈ [83] :: (List.replicate 18 [49] ++ [[57, 56, 55, 54, 53, 52]]),
        f ≠ [] ∧ ∀ b ∈ f, b ≠ space ∧ b ≠ closeParen ∧ b ≠ newline := by decide +kernel
    exact ⟨(hall f hf).1, (hall f hf).2⟩
  ticksDigits := fun f hf => by
    obtain rfl := Option.some.inj hf
    decide +kernel

/-- `1 (a) S`: the line ends behind field 3. -/
def truncatedLine : StatLine where
  pid := [49]
  comm := [97]
  fields := [[83]]
  pidDigits := by decide +kernel
  commString := by decide +kernel
  fieldTexts := fun f hf => by
    obtain rfl := List.mem_singleton.mp hf
    exact ⟨by decide +kernel, by decide +kernel⟩
  ticksDigits := fun f hf => by cases hf

/-- The file that holds a line. -/
def fileOf (line : StatLine) : StatFile := ⟨0, [.ok line.bytes], 0⟩

theorem process_start_ticks_exact_iff_complete :
    (∀ ticks, startTicks 4321 (fileOf completeLine) = some (.ok ticks)
        ↔ ∃ f, completeLine.ticks = some f ∧ digitsValue f < 2 ^ 64
            ∧ ticks.toNat = digitsValue f)
      ∧ startTicks 4321 (fileOf completeLine) = some (.ok 987654) :=
  have hiff := @process_start_ticks_exact_iff 4321 (fileOf completeLine) completeLine
    (by decide +kernel) rfl rfl rfl (by decide +kernel)
  have hread := (hiff.mpr (.inr ⟨_, rfl, .inl (by decide +kernel)⟩)).1
  ⟨hread, (hread 987654).mpr ⟨_, rfl, by decide +kernel, by decide +kernel⟩⟩

/-- The truncated line is read as the start time 0, and its process is reported dead. -/
theorem truncated_line_accepted :
    ¬(∀ ticks, startTicks 1 (fileOf truncatedLine) = some (.ok ticks)
        ↔ ∃ f, truncatedLine.ticks = some f ∧ digitsValue f < 2 ^ 64
            ∧ ticks.toNat = digitsValue f)
      ∧ startTicks 1 (fileOf truncatedLine) = some (.ok 0)
      ∧ identityIsAlive 1 987654 (fileOf truncatedLine) = some (.ok false) := by
  have hzero : startTicks 1 (fileOf truncatedLine) = some (.ok 0) := by decide +kernel
  refine ⟨fun h => ?_, hzero, by decide +kernel⟩
  obtain ⟨f, hf, -⟩ := (h 0).mp hzero
  cases hf

end AceXdp.Process
