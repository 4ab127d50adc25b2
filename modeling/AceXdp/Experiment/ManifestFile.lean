import AceXdp.Lib.JsonLayout
import AceXdp.Runner.ManifestText
import AceXdp.Experiment.RunRoundTrip

/-!
# AceXdp — the manifest as a document

* `Record.Reads`: the strings of a record, decoded one by one;
* `manifestMembers`: the document of a record;
* **`manifestText_ok_iff`** — there is a text if and only if every string is well-formed UTF-8;
* **`loads_manifestText`** — the text is the document of the decoded record.
-/

namespace AceXdp.Manifest

open Decimal Disk Json Utf8

/-! ## Decoded records

A record over bytes and one over code points have the same shape; the relation between them goes
field by field. -/

def CString.Reads (s : CString) (points : Str) : Prop := Decodes s.bytes points

theorem CString.Reads.injective {s s' : CString} {points : Str} (h : s.Reads points)
    (h' : s'.Reads points) : s = s' := by
  obtain ⟨bytes, hnul⟩ := s
  obtain ⟨bytes', hnul'⟩ := s'
  obtain rfl : bytes = bytes' := Decodes.injective h h'
  rfl

theorem CString.Reads.unique {s : CString} {points points' : Str} (h : s.Reads points)
    (h' : s.Reads points') : points = points' := by
  obtain ⟨text, hbytes, rfl⟩ := decodes_iff.mp h
  obtain ⟨text', hbytes', rfl⟩ := decodes_iff.mp h'
  have hdecode := decode_encode text
  rw [encode, hbytes, ← hbytes', ← encode, decode_encode] at hdecode
  rw [Option.some.inj hdecode]

/-- A string that may be missing. -/
abbrev ReadsOptional : Option CString → Option Str → Prop := Option.Rel CString.Reads

structure Artifact.Reads (a : Artifact CString) (d : Artifact Str) : Prop where
  path : a.path.Reads d.path
  digest : Option.Rel (fun p q => p.1 = q.1 ∧ p.2.Reads q.2) a.digest d.digest

structure Record.Reads (r : Record CString) (d : Record Str) : Prop where
  runId : r.runId.Reads d.runId
  conditionId : r.conditionId.Reads d.conditionId
  interface : r.interface.Reads d.interface
  kernelRelease : r.kernelRelease.Reads d.kernelRelease
  architecture : r.architecture.Reads d.architecture
  cmdline : ReadsOptional r.cmdline d.cmdline
  realtime : ReadsOptional r.realtime d.realtime
  cpuOnline : ReadsOptional r.cpuOnline d.cpuOnline
  cpuIsolated : ReadsOptional r.cpuIsolated d.cpuIsolated
  repository : r.repository.Reads d.repository
  head : r.head.Reads d.head
  status : r.status.Reads d.status
  artifacts : List.Forall₂ Artifact.Reads r.artifacts d.artifacts

/-! ## The document

What a reader should find, as a value. -/

def optionalValue : Option Str → Value
  | none => .null
  | some points => .string points

def artifactMembers (a : Artifact Str) : Members :=
  (str "path", .string a.path) :: match a.digest with
    | none => [(str "missing", .bool true)]
    | some (bytes, digest) => [(str "bytes", natValue bytes), (str "sha256", .string digest)]

def systemMembers (d : Record Str) : Members :=
  [(str "kernel_release", .string d.kernelRelease),
    (str "architecture", .string d.architecture),
    (str "cmdline", optionalValue d.cmdline),
    (str "realtime", optionalValue d.realtime),
    (str "cpu_online", optionalValue d.cpuOnline),
    (str "cpu_isolated", optionalValue d.cpuIsolated)]

def repositoryMembers (d : Record Str) : Members :=
  [(str "path", .string d.repository),
    (str "head", .string d.head),
    (str "status", .string d.status)]

def manifestMembers (d : Record Str) (parameters : Members) : Members :=
  [(str "manifest_version", natValue 1),
    (str "run_id", .string d.runId),
    (str "condition_id", .string d.conditionId),
    (str "parameters", .obj parameters),
    (str "interface", .obj [(str "name", .string d.interface)]),
    (str "system", .obj (systemMembers d)),
    (str "project_repository", .obj (repositoryMembers d)),
    (str "artifact_hashes", .arr (d.artifacts.map fun a => .obj (artifactMembers a)))]

/-! ## Which strings are written

`json_string` refuses bytes that are no UTF-8, and any string of the record can be the one that is
refused. -/

theorem jsonString_reads {s : CString} {points : Str} (h : s.Reads points) :
    jsonString (some s.memory) = .ok (literal (some s))
      ∧ Denotes (literal (some s)) (.string points) := by
  rcases jsonString_cases s.noNul with ⟨points', body, hpoints, hscan, _, hok⟩ | ⟨hnone, _⟩
  · have hstring : jsonString (some s.memory) = .ok ('"' :: (body ++ ['"'])) := hok []
    have hliteral : literal (some s) = '"' :: (body ++ ['"']) := by
      rw [literal, Option.map_some, hstring]
    rw [hliteral, hstring, CString.Reads.unique h hpoints]
    exact ⟨rfl, denotes_string (hscan.spells
      (joinSurrogates_units (wellFormed_of_scalars hpoints.isScalar)))⟩
  · exact absurd ⟨points, h⟩ hnone

theorem reads_of_jsonString {s : CString} {text : List Char}
    (h : jsonString (some s.memory) = .ok text) : ∃ points, s.Reads points := by
  rcases jsonString_cases s.noNul with ⟨points, _, hpoints, _⟩ | ⟨_, herror⟩
  · exact ⟨points, hpoints⟩
  · rw [CString.memory, herror] at h
    cases h

theorem jsonString_readsOptional {value : Option CString} {d : Option Str}
    (h : ReadsOptional value d) :
    jsonString (value.map CString.memory) = .ok (literal value)
      ∧ Denotes (literal value) (optionalValue d) := by
  cases h with
  | none => exact ⟨rfl, denotes_null⟩
  | some h => exact jsonString_reads h

theorem readsOptional_of_jsonString {value : Option CString} {text : List Char}
    (h : jsonString (value.map CString.memory) = .ok text) : ∃ d, ReadsOptional value d := by
  cases value with
  | none => exact ⟨none, .none⟩
  | some s =>
    obtain ⟨points, hpoints⟩ := reads_of_jsonString h
    exact ⟨some points, .some hpoints⟩

/-! ## Pieces

The text is written in pieces, literals and strings in turn. The pieces of a part concatenate to the
text of the part. -/

@[simp] theorem written_checked (text : List Char) : (Piece.checked text).Written := rfl

@[simp] theorem written_unchecked (text : List Char) : (Piece.unchecked text).Written := rfl

theorem written_encoded_iff (value : Option CString) :
    (Piece.encoded value).Written ↔ ∃ d, ReadsOptional value d :=
  ⟨fun h => readsOptional_of_jsonString h, fun ⟨_, h⟩ => (jsonString_readsOptional h).1⟩

theorem exists_readsOptional_some (s : CString) :
    (∃ d, ReadsOptional (some s) d) ↔ ∃ points, s.Reads points := by
  constructor
  · rintro ⟨_, h⟩
    cases h with
    | some h => exact ⟨_, h⟩
  · rintro ⟨points, h⟩
    exact ⟨some points, .some h⟩

theorem forall_fieldPieces (name : String) (value : Option CString) :
    (∀ p ∈ fieldPieces name value, p.Written) ↔ (Piece.encoded value).Written := by
  simp [fieldPieces]

theorem written_artifactPieces_iff (a : Artifact CString) :
    (∀ p ∈ artifactPieces a, p.Written) ↔ ∃ d, a.Reads d := by
  obtain ⟨path, digest⟩ := a
  simp only [artifactPieces, List.forall_mem_cons, List.forall_mem_append, forall_fieldPieces,
    written_unchecked, true_and, written_encoded_iff, exists_readsOptional_some]
  cases digest with
  | none =>
    simp only [List.forall_mem_singleton, written_unchecked, and_true]
    constructor
    · rintro ⟨points, hpath⟩
      exact ⟨⟨points, none⟩, hpath, .none⟩
    · rintro ⟨d, hd⟩
      exact ⟨d.path, hd.path⟩
  | some digest =>
    simp only [List.forall_mem_cons, List.forall_mem_append, forall_fieldPieces, written_checked,
      written_unchecked, written_encoded_iff, exists_readsOptional_some, true_and, List.not_mem_nil, false_implies,
      implies_true, and_true]
    constructor
    · rintro ⟨⟨points, hpath⟩, points', hdigest⟩
      exact ⟨⟨points, some (digest.1, points')⟩, hpath, .some ⟨rfl, hdigest⟩⟩
    · rintro ⟨d, hd⟩
      refine ⟨⟨d.path, hd.path⟩, ?_⟩
      obtain ⟨dpath, ddigest⟩ := d
      cases hd.digest with
      | some h => exact ⟨_, h.2⟩

/-- A relation that every item of a list has a partner in, along the list. -/
theorem forall_mem_exists_iff {α β : Type} {R : α → β → Prop} (l : List α) :
    (∀ a ∈ l, ∃ b, R a b) ↔ ∃ m, List.Forall₂ R l m := by
  induction l with
  | nil => exact ⟨fun _ => ⟨[], .nil⟩, fun _ => nofun⟩
  | cons a l ih =>
    rw [List.forall_mem_cons, ih]
    constructor
    · rintro ⟨⟨b, hb⟩, m, hm⟩
      exact ⟨b :: m, .cons hb hm⟩
    · rintro ⟨_, h⟩
      cases h with
      | cons hb hm => exact ⟨⟨_, hb⟩, _, hm⟩

/-- The comma of `if (i)` stands in front of every artifact but the first. -/
theorem artifactsPieces_cons (a : Artifact CString) (artifacts : List (Artifact CString)) :
    artifactsPieces (a :: artifacts)
      = artifactPieces a ++ artifacts.flatMap fun b => .unchecked [','] :: artifactPieces b := by
  have hrest (k : Nat) : ((artifacts.zipIdx (k + 1)).flatMap fun p =>
      (if p.2 = 0 then [] else [.unchecked [',']]) ++ artifactPieces p.1)
        = artifacts.flatMap fun b => .unchecked [','] :: artifactPieces b := by
    induction artifacts generalizing k with
    | nil => rfl
    | cons b artifacts ih =>
      rw [List.zipIdx_cons, List.flatMap_cons, List.flatMap_cons, ih (k + 1),
        if_neg (Nat.succ_ne_zero k), List.singleton_append]
  rw [artifactsPieces, List.zipIdx_cons, List.flatMap_cons, if_pos rfl, List.nil_append]
  exact congrArg (artifactPieces a ++ ·) (hrest 0)

theorem written_artifactsPieces_iff (artifacts : List (Artifact CString)) :
    (∀ p ∈ artifactsPieces artifacts, p.Written)
      ↔ ∃ ds, List.Forall₂ Artifact.Reads artifacts ds := by
  have hall : (∀ p ∈ artifactsPieces artifacts, p.Written)
      ↔ ∀ a ∈ artifacts, ∀ p ∈ artifactPieces a, p.Written := by
    cases artifacts with
    | nil => simp [artifactsPieces]
    | cons a artifacts =>
      simp only [artifactsPieces_cons, List.forall_mem_append, List.forall_mem_cons,
        List.forall_mem_flatMap, written_unchecked, true_and]
  rw [hall]
  simp only [written_artifactPieces_iff]
  exact forall_mem_exists_iff artifacts

/-- **Exactly well-formed strings are written.** -/
theorem written_manifestPieces_iff (r : Record CString) (conditionJson : List Char) :
    (∀ p ∈ manifestPieces r conditionJson, p.Written) ↔ ∃ d, r.Reads d := by
  simp only [manifestPieces, List.forall_mem_cons, List.forall_mem_append, forall_fieldPieces,
    written_checked, written_unchecked, true_and, written_encoded_iff, exists_readsOptional_some,
    written_artifactsPieces_iff, List.not_mem_nil, false_implies, implies_true, and_true]
  constructor
  · rintro ⟨⟨runId, h1⟩, ⟨conditionId, h2⟩, ⟨interface, h3⟩, ⟨kernelRelease, h4⟩,
      ⟨architecture, h5⟩, ⟨cmdline, h6⟩, ⟨realtime, h7⟩, ⟨cpuOnline, h8⟩, ⟨cpuIsolated, h9⟩,
      ⟨repository, h10⟩, ⟨head, h11⟩, ⟨status, h12⟩, artifacts, h13⟩
    exact ⟨⟨runId, conditionId, interface, kernelRelease, architecture, cmdline, realtime, cpuOnline,
      cpuIsolated, repository, head, status, artifacts⟩,
      h1, h2, h3, h4, h5, h6, h7, h8, h9, h10, h11, h12, h13⟩
  · rintro ⟨d, h⟩
    exact ⟨⟨_, h.runId⟩, ⟨_, h.conditionId⟩, ⟨_, h.interface⟩, ⟨_, h.kernelRelease⟩,
      ⟨_, h.architecture⟩, ⟨_, h.cmdline⟩, ⟨_, h.realtime⟩, ⟨_, h.cpuOnline⟩, ⟨_, h.cpuIsolated⟩,
      ⟨_, h.repository⟩, ⟨_, h.head⟩, ⟨_, h.status⟩, _, h.artifacts⟩

/-- **There is a text if and only if every string is well-formed UTF-8.** -/
theorem manifestText_ok_iff (r : Record CString) (conditionJson : List Char) :
    (∃ text, manifestText r conditionJson = .ok text) ↔ ∃ d, r.Reads d := by
  rw [← written_manifestPieces_iff r conditionJson]
  exact ⟨fun ⟨_, h⟩ => written_of_piecesText h, fun h => ⟨_, piecesText_eq h⟩⟩

/-! ## The layout

Indentation and line ends are blanks to a reader; `LaysOut` says which blanks may stand where. -/

def artifactTexts (a : Artifact CString) : List (List Char × List Char) :=
  ("path".toList, literal (some a.path)) :: match a.digest with
    | none => [("missing".toList, "true".toList)]
    | some (bytes, digest) =>
      [("bytes".toList, natText bytes), ("sha256".toList, literal (some digest))]

def systemTexts (r : Record CString) : List (List Char × List Char) :=
  [("kernel_release".toList, literal (some r.kernelRelease)),
    ("architecture".toList, literal (some r.architecture)),
    ("cmdline".toList, literal r.cmdline),
    ("realtime".toList, literal r.realtime),
    ("cpu_online".toList, literal r.cpuOnline),
    ("cpu_isolated".toList, literal r.cpuIsolated)]

def repositoryTexts (r : Record CString) : List (List Char × List Char) :=
  [("path".toList, literal (some r.repository)),
    ("head".toList, literal (some r.head)),
    ("status".toList, literal (some r.status))]

/-- The members of the document, some of them on a new line. -/
def manifestLayout (r : Record CString) (conditionJson : List Char) :
    List (List Char × List Char) :=
  [(['\n'], memberText "manifest_version".toList (natText 1)),
    ([], memberText "run_id".toList (literal (some r.runId))),
    ([], memberText "condition_id".toList (literal (some r.conditionId))),
    (['\n'], memberText "parameters".toList conditionJson),
    (['\n'], memberText "interface".toList
      (objectText [("name".toList, literal (some r.interface))])),
    (['\n'], memberText "system".toList (objectText (systemTexts r))),
    (['\n'], memberText "project_repository".toList (objectText (repositoryTexts r))),
    (['\n'], memberText "artifact_hashes".toList
      (arrayText (r.artifacts.map fun a => objectText (artifactTexts a))))]

@[simp] theorem flatMap_fieldPieces (name : String) (value : Option CString) :
    (fieldPieces name value).flatMap Piece.literal
      = memberText name.toList (literal value) := by
  simp [fieldPieces, Piece.literal, memberText]

theorem flatMap_artifactPieces (a : Artifact CString) :
    (artifactPieces a).flatMap Piece.literal = objectText (artifactTexts a) := by
  obtain ⟨path, digest⟩ := a
  cases digest with
  | none => simp [artifactPieces, artifactTexts, objectText, joinItems, Piece.literal, memberText]
  | some digest =>
    simp [artifactPieces, artifactTexts, objectText, joinItems, Piece.literal, memberText]

theorem flatMap_artifactsPieces (artifacts : List (Artifact CString)) :
    (artifactsPieces artifacts).flatMap Piece.literal
      = joinItems [] (artifacts.map fun a => objectText (artifactTexts a)) := by
  cases artifacts with
  | nil => rfl
  | cons a artifacts =>
    rw [artifactsPieces_cons, List.flatMap_append, flatMap_artifactPieces, List.flatMap_assoc]
    induction artifacts generalizing a with
    | nil => simp [joinItems]
    | cons b artifacts ih =>
      have hb := ih b
      rw [List.map_cons] at hb
      rw [List.map_cons, List.map_cons, joinItems_cons_cons, ← hb]
      simp [Piece.literal, flatMap_artifactPieces]

theorem flatMap_manifestPieces (r : Record CString) (conditionJson : List Char) :
    (manifestPieces r conditionJson).flatMap Piece.literal
      = '{' :: (laidOut (manifestLayout r conditionJson) ++ (['\n'] ++ ['}'])) ++ ['\n'] := by
  have hversion : "\x7b\n\"manifest_version\":1,".toList
      = '{' :: '\n' :: (memberText "manifest_version".toList (natText 1) ++ [',']) := by decide
  have hparameters : ",\n\"parameters\":".toList
      = ',' :: '\n' :: memberText "parameters".toList [] := by decide
  have hinterface : ",\n\"interface\":\x7b".toList
      = ',' :: '\n' :: memberText "interface".toList ['{'] := by decide
  have hsystem : "\x7d,\n\"system\":\x7b".toList
      = '}' :: ',' :: '\n' :: memberText "system".toList ['{'] := by decide
  have hrepository : "\x7d,\n\"project_repository\":\x7b".toList
      = '}' :: ',' :: '\n' :: memberText "project_repository".toList ['{'] := by decide
  have hartifacts : "\x7d,\n\"artifact_hashes\":[".toList
      = '}' :: ',' :: '\n' :: memberText "artifact_hashes".toList ['['] := by decide
  have hend : "]\n\x7d\n".toList = [']', '\n', '}', '\n'] := by decide
  simp only [manifestPieces, List.flatMap_cons, List.flatMap_append, List.flatMap_nil, Piece.literal,
    flatMap_fieldPieces, flatMap_artifactsPieces, manifestLayout, laidOut, laidOutRest, systemTexts,
    repositoryTexts, objectText, arrayText, hversion, hparameters, hinterface, hsystem, hrepository,
    hartifacts, hend]
  simp only [memberText, joinItems, List.map_cons, List.map_nil, List.cons_append, List.append_assoc,
    List.nil_append]

/-! ## The text is the document

The text of the pieces, read back. -/

theorem denotes_artifact {a : Artifact CString} {d : Artifact Str} (h : a.Reads d) :
    Denotes (objectText (artifactTexts a)) (.obj (artifactMembers d)) := by
  obtain ⟨path, digest⟩ := a
  obtain ⟨dpath, ddigest⟩ := d
  obtain ⟨hpath, hdigest⟩ := h
  have hfirst : Prints ("path".toList, literal (some path)) (str "path", .string dpath) :=
    prints (jsonString_reads hpath).2 (by decide)
  refine denotes_objectText ?_ (by simp [artifactTexts])
  cases hdigest with
  | none => exact .cons hfirst (.cons (prints denotes_true (by decide)) .nil)
  | @some p q h =>
    obtain ⟨bytes, digest⟩ := p
    obtain ⟨bytes', digest'⟩ := q
    obtain ⟨hbytes, hdigest⟩ := h
    obtain rfl : bytes = bytes' := hbytes
    exact .cons hfirst (.cons (prints (denotes_natText _) (by decide))
      (.cons (prints (jsonString_reads hdigest).2 (by decide)) .nil))

theorem denotes_artifacts {artifacts : List (Artifact CString)} {ds : List (Artifact Str)}
    (h : List.Forall₂ Artifact.Reads artifacts ds) :
    Denotes (arrayText (artifacts.map fun a => objectText (artifactTexts a)))
      (.arr (ds.map fun d => .obj (artifactMembers d))) := by
  cases h with
  | nil => exact denotes_arr_nil
  | cons hhead htail =>
    refine denotes_arrayText ?_ (by simp)
    rw [List.forall₂_map_left_iff, List.forall₂_map_right_iff]
    exact (List.Forall₂.cons hhead htail).imp fun _ _ => denotes_artifact

theorem denotes_system {r : Record CString} {d : Record Str} (h : r.Reads d) :
    Denotes (objectText (systemTexts r)) (.obj (systemMembers d)) := by
  refine denotes_objectText ?_ (by simp [systemTexts])
  exact .cons (prints (jsonString_reads h.kernelRelease).2 (by decide))
    (.cons (prints (jsonString_reads h.architecture).2 (by decide))
    (.cons (prints (jsonString_readsOptional h.cmdline).2 (by decide))
    (.cons (prints (jsonString_readsOptional h.realtime).2 (by decide))
    (.cons (prints (jsonString_readsOptional h.cpuOnline).2 (by decide))
    (.cons (prints (jsonString_readsOptional h.cpuIsolated).2 (by decide)) .nil)))))

theorem denotes_repository {r : Record CString} {d : Record Str} (h : r.Reads d) :
    Denotes (objectText (repositoryTexts r)) (.obj (repositoryMembers d)) := by
  refine denotes_objectText ?_ (by simp [repositoryTexts])
  exact .cons (prints (jsonString_reads h.repository).2 (by decide))
    (.cons (prints (jsonString_reads h.head).2 (by decide))
    (.cons (prints (jsonString_reads h.status).2 (by decide)) .nil))

theorem denotes_interface {r : Record CString} {d : Record Str} (h : r.Reads d) :
    Denotes (objectText [("name".toList, literal (some r.interface))])
      (.obj [(str "name", .string d.interface)]) :=
  denotes_objectText (.cons (prints (jsonString_reads h.interface).2 (by decide)) .nil) (by simp)

/-- A member behind blanks. -/
theorem laysOut {ws : List Char} {key : String} {text : List Char} {value : Value}
    (hws : ∀ c ∈ ws, isWs c) (h : Denotes text value) (hkey : ∀ ch ∈ key.toList, isPlain ch) :
    LaysOut (ws, memberText key.toList text) (str key, value) :=
  ⟨hws, (prints h hkey).denotesMember⟩

theorem laysOut_manifest {r : Record CString} {d : Record Str} {conditionJson : List Char}
    {parameters : Members} (h : r.Reads d) (hcondition : Denotes conditionJson (.obj parameters)) :
    List.Forall₂ LaysOut (manifestLayout r conditionJson) (manifestMembers d parameters) :=
  .cons (laysOut (by decide) (denotes_natText 1) (by decide))
    (.cons (laysOut (by decide) (jsonString_reads h.runId).2 (by decide))
    (.cons (laysOut (by decide) (jsonString_reads h.conditionId).2 (by decide))
    (.cons (laysOut (by decide) hcondition (by decide))
    (.cons (laysOut (by decide) (denotes_interface h) (by decide))
    (.cons (laysOut (by decide) (denotes_system h) (by decide))
    (.cons (laysOut (by decide) (denotes_repository h) (by decide))
    (.cons (laysOut (by decide) (denotes_artifacts h.artifacts) (by decide)) .nil)))))))

/-- **The text is the document of the record.** -/
theorem loads_manifestText {r : Record CString} {d : Record Str} {conditionJson text : List Char}
    {parameters : Members} (h : r.Reads d) (hcondition : Denotes conditionJson (.obj parameters))
    (htext : manifestText r conditionJson = .ok text) :
    loads text = some (.obj (manifestMembers d parameters)) := by
  have hwritten := (written_manifestPieces_iff r conditionJson).mpr ⟨d, h⟩
  rw [manifestText, piecesText_eq hwritten, flatMap_manifestPieces] at htext
  cases htext
  have hdenotes := @denotes_laidOut ['\n'] (by decide) _ _ (laysOut_manifest h hcondition)
    (by simp [manifestLayout])
  have hloads := @loads_of_denotes _ _ hdenotes [] ['\n'] (by simp) (by decide)
  rwa [List.nil_append] at hloads

end AceXdp.Manifest
