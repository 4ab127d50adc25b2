import AceXdp.Experiment.DescriptorAccepted
import AceXdp.Experiment.ManifestFile

/-!
# AceXdp — the analysis reads back the manifest

The joiner (`load_manifest`) and the aggregator (`load_run`, `manifest_cohort_identity`) read the
manifest that the runner has `ace_write_manifest` write at the start of a run.

* **`manifest_round_trip`** — the text of a run is accepted by both, and holds its identifier and its
  condition;
* **`manifest_cohort_iff`** — two runs are in one cohort if and only if the machine was the same, as
  far as the identity looks at it.
-/

namespace AceXdp

open Disk Json Utf8

/-! ## The readers

The joiner and the aggregator read the same text with different strictness. Both see the document
that the text denotes. -/

/-- What `load_manifest` complains about. -/
inductive ManifestError where
  | cannotRead
  | duplicateKey
  | rootNotObject
  | wrongVersion
  | invalidRunId
  deriving DecidableEq, Repr

/-- `load_manifest`, from the content of the file: the version and the identifier. -/
def loadManifest (content : Bytes) : Except ManifestError (Int × Str) :=
  match (decode content).bind loads with
  | none => .error .cannotRead
  | some payload =>
    if payload.keysOnce then
      match payload with
      | .obj members =>
        match field members "manifest_version" with
        | some (.int 1) =>
          match field members "run_id" with
          | some (.string runId) => if isRunId runId then .ok (1, runId) else .error .invalidRunId
          | _ => .error .invalidRunId
        | _ => .error .wrongVersion
      | _ => .error .rootNotObject
    else .error .duplicateKey

/-- `mapping.get(key)`. -/
def getValue (members : Members) (key : String) : Value := (field members key).getD .null

/-- A member of a member that is an object. -/
def getNested (members : Members) (name key : String) : Value :=
  match field members name with
  | some (.obj inner) => getValue inner key
  | _ => .null

/-- `repository_identity`. -/
def repositoryIdentity (manifest : Members) (name : String) : Members :=
  match field manifest name with
  | some (.obj repository) =>
    [(str "head", getValue repository "head"),
      (str "status", getValue repository "status"),
      (str "worktree_patch_digest", getValue repository "worktree_patch_digest"),
      (str "committed_series", match field repository "committed_series" with
        | some (.obj series) => .obj series
        | _ => .null)]
  | _ => []

def manifestCohortIdentity (manifest : Members) : Members :=
  [(str "interface_name", getNested manifest "interface" "name"),
    (str "kernel_release", getNested manifest "system" "kernel_release"),
    (str "project_repository", .obj (repositoryIdentity manifest "project_repository")),
    (str "kernel_repository", .obj (repositoryIdentity manifest "kernel_repository")),
    (str "artifact_hashes", (field manifest "artifact_hashes").getD (.arr [])),
    (str "artifact_tree_hashes", (field manifest "artifact_tree_hashes").getD (.arr []))]

namespace Manifest

/-! ## The record of a run

The values that go into a manifest, each of them with the bytes it came from. -/

/-- `begin_run`: the names are those of the configuration. -/
def beginRecord (c : RunSettings) (mode : RunMode) (rep : Nat) (machine : Record CString) :
    Record CString :=
  { machine with
    runId := .ofChars (runIdText c mode rep)
    conditionId := .ofChars c.runId.chars
    interface := .ofChars c.interface.chars }

/-- The manifest of a run. -/
def runManifestText (c : RunSettings) (mode : RunMode) (rep : Nat) (machine : Record CString) :
    Except Fault (List Char) :=
  manifestText (beginRecord c mode rep machine) (writeCondition c mode c.durationMs)

/-- The members of `run.json` behind the header, which are those of the condition. -/
def conditionValues (c : RunSettings) (mode : RunMode) (rep : Nat) (role : RunRole)
    (state : RunState) : Members :=
  (runMembers c mode rep role state).drop (headerMembers c mode rep role state).length

theorem bytes_ofChars {chars : List Char} (h : ∀ ch ∈ chars, isPrintable ch) :
    (CString.ofChars chars).bytes = encode chars := by
  have hnul : 0 ∉ encode chars := by
    intro hmem
    obtain ⟨ch, hch, hbyte⟩ := List.mem_flatMap.mp hmem
    have hprint := h ch hch
    simp only [isPrintable, Bool.and_eq_true, decide_eq_true_eq] at hprint
    rw [encodeChar_one (by omega), List.mem_singleton] at hbyte
    have hzero := congrArg UInt8.toNat hbyte
    rw [UInt8.toNat_ofNat'] at hzero
    have : (0 : UInt8).toNat = 0 := rfl
    omega
  rw [CString.ofChars, CString.ofBuffer]
  show CText.cString (encode chars ++ [0]) = encode chars
  rw [CText.cString_append [0] hnul]
  exact List.append_nil _

theorem reads_ofChars {chars : List Char} (h : ∀ ch ∈ chars, isPrintable ch) :
    (CString.ofChars chars).Reads (chars.map Char.toNat) :=
  decodes_iff.mpr ⟨chars, (bytes_ofChars h).symm, rfl⟩

/-! ## The two checks of the identifier

`valid_run_id` checks bytes, the analysis matches a pattern over code points. On well-formed texts
they are the same check. -/

/-- What both checks allow behind the first character. -/
def isRunIdTail (b : UInt8) : Bool := isAlnum b || b = 0x2e || b = 0x5f || b = 0x2d

theorem runIdByte_eq (b : UInt8) :
    isAlnum b = isAsciiAlphanum b.toNat
      ∧ isRunIdTail b = (isAsciiAlphanum b.toNat || b.toNat = '.'.toNat || b.toNat = '_'.toNat
        || b.toNat = '-'.toNat) := by
  have hall : ∀ n, n < 256 → isAlnum (UInt8.ofNat n) = isAsciiAlphanum n
      ∧ isRunIdTail (UInt8.ofNat n) = (isAsciiAlphanum n || n = '.'.toNat || n = '_'.toNat
        || n = '-'.toNat) := by decide +kernel
  have hb := hall b.toNat b.toNat_lt
  rwa [UInt8.ofNat_toNat] at hb

/-- **The two checks agree, byte for byte.** -/
theorem validRunId_eq (s : CString) : validRunId s = isRunId (s.bytes.map UInt8.toNat) := by
  obtain ⟨bytes, hnul⟩ := s
  have htail (k : Nat) (l : Bytes) : ((l.zipIdx (k + 1)).all fun p =>
      isAlnum p.1 || (p.2 ≠ 0 && (p.1 = 0x2e || p.1 = 0x5f || p.1 = 0x2d))) = l.all isRunIdTail := by
    induction l generalizing k with
    | nil => rfl
    | cons b l ih =>
      rw [List.zipIdx_cons, List.all_cons, List.all_cons, ih (k + 1)]
      simp [isRunIdTail, Bool.or_assoc]
  cases bytes with
  | nil => rfl
  | cons b l =>
    have hstart : isAlnum b = true → isRunIdTail b = true := fun h => by simp [isRunIdTail, h]
    have hall : (l.map UInt8.toNat).all (fun n => isAsciiAlphanum n || n = '.'.toNat
        || n = '_'.toNat || n = '-'.toNat) = l.all isRunIdTail := by
      rw [List.all_map]
      exact congrArg l.all (funext fun b => ((runIdByte_eq b).2).symm)
    have hvalid : validRunId ⟨b :: l, hnul⟩
        = (decide ((b :: l).length ≤ 128) && (isAlnum b && l.all isRunIdTail)) := by
      rw [validRunId, List.zipIdx_cons, List.all_cons, htail 0 l]
      simp
    have hrunId : isRunId ((b :: l).map UInt8.toNat)
        = (isAlnum b && decide ((b :: l).length ≤ 128)
          && (isRunIdTail b && l.all isRunIdTail)) := by
      rw [isRunId, List.map_cons, List.all_cons, hall, (runIdByte_eq b).1, (runIdByte_eq b).2]
      simp
    rw [hvalid, hrunId]
    cases halnum : isAlnum b with
    | false => simp
    | true => simp [hstart halnum]

/-- ASCII bytes are code points. -/
theorem decodes_ascii {bytes : Bytes} (h : ∀ b ∈ bytes, b.toNat < 0x80) :
    Decodes bytes (bytes.map UInt8.toNat) := by
  induction bytes with
  | nil => exact .nil
  | cons b bytes ih =>
    exact .cons (.ascii (h b List.mem_cons_self))
      (ih fun c hc => h c (List.mem_cons_of_mem _ hc))

theorem lt_of_isRunId {points : Str} (h : isRunId points) : ∀ n ∈ points, n < 0x80 := by
  intro n hn
  simp only [isRunId, Bool.and_eq_true, List.all_eq_true] at h
  have hchar := h.2 n hn
  simp only [isAsciiAlphanum, Bool.or_eq_true, Bool.and_eq_true, decide_eq_true_eq] at hchar
  rcases hchar with ((⟨hlt, _⟩ | rfl) | rfl) | rfl
  · exact hlt
  · decide
  · decide
  · decide

/-- **The runner and the analysis accept the same identifiers.** -/
theorem validRunId_iff (s : CString) :
    validRunId s ↔ ∃ points, s.Reads points ∧ isRunId points := by
  rw [validRunId_eq]
  constructor
  · intro h
    refine ⟨_, decodes_ascii fun b hb => ?_, h⟩
    exact lt_of_isRunId h _ (List.mem_map_of_mem hb)
  · rintro ⟨points, hreads, h⟩
    have hsmall := lt_of_isRunId h
    have hbyte : ∀ n ∈ points, (UInt8.ofNat n).toNat = n := fun n hn =>
      UInt8.toNat_ofNat_of_lt' (lt_trans (hsmall n hn) (by decide))
    have hback : (points.map UInt8.ofNat).map UInt8.toNat = points := by
      rw [List.map_map]
      exact (List.map_congr_left hbyte).trans (List.map_id _)
    have hdecodes : Decodes (points.map UInt8.ofNat) points := by
      have hascii : Decodes (points.map UInt8.ofNat) ((points.map UInt8.ofNat).map UInt8.toNat) :=
        decodes_ascii (List.forall_mem_map.mpr fun n hn => (hbyte n hn).symm ▸ hsmall n hn)
      rwa [hback] at hascii
    have hbytes : s.bytes = points.map UInt8.ofNat := Decodes.injective hreads hdecodes
    rw [hbytes, hback]
    exact h

/-! ## The document of a run

The decoded strings of a record determine its document, and the document has no key twice. -/

theorem strictMembers_drop {members : Members} (n : Nat) (h : strictMembers members) :
    strictMembers (members.drop n) := by
  induction members generalizing n with
  | nil => simp [strictMembers]
  | cons m members ih =>
    cases n with
    | zero => exact h
    | succ n =>
      rw [strictMembers, Bool.and_eq_true] at h
      exact ih n h.2

theorem strict_conditionValues (c : RunSettings) (mode : RunMode) (rep : Nat) (role : RunRole)
    (state : RunState) : (Value.obj (conditionValues c mode rep role state)).strict := by
  have hrun := strict_run c mode rep role state
  rw [Value.strict, Bool.and_eq_true, decide_eq_true_eq] at hrun
  rw [Value.strict, Bool.and_eq_true, decide_eq_true_eq]
  refine ⟨strictMembers_drop _ hrun.1, ?_⟩
  rw [conditionValues, List.map_drop]
  exact hrun.2.sublist (List.drop_sublist _ _)

/-- The condition is the rest of `run.json` behind its header. -/
theorem denotes_condition (c : RunSettings) (mode : RunMode) (rep : Nat) (role : RunRole)
    (state : RunState) :
    Denotes (writeCondition c mode c.durationMs)
      (.obj (conditionValues c mode rep role state)) := by
  have hprints := List.forall₂_drop (headerMembers c mode rep role state).length
    (prints_run c mode rep role state)
  rw [List.drop_left] at hprints
  exact denotes_objectText hprints (by simp [conditionMembers])

theorem nodup_manifestMembers (d : Record Str) (parameters : Members) :
    ((manifestMembers d parameters).map Prod.fst).Nodup := by
  have hkeys : (["manifest_version", "run_id", "condition_id", "parameters", "interface", "system",
      "project_repository", "artifact_hashes"].map str).Nodup :=
    List.Nodup.map str_injective (by decide)
  exact hkeys

@[simp] theorem strict_optionalValue (value : Option Str) : (optionalValue value).strict := by
  cases value <;> simp [optionalValue]

theorem strict_artifact (a : Artifact Str) : (Value.obj (artifactMembers a)).strict := by
  obtain ⟨path, digest⟩ := a
  cases digest with
  | none =>
    have hnodup : (["path", "missing"].map str).Nodup :=
      List.Nodup.map str_injective (by decide)
    rw [Value.strict, Bool.and_eq_true, decide_eq_true_eq]
    exact ⟨by simp [artifactMembers, strictMembers], hnodup⟩
  | some digest =>
    have hnodup : (["path", "bytes", "sha256"].map str).Nodup :=
      List.Nodup.map str_injective (by decide)
    rw [Value.strict, Bool.and_eq_true, decide_eq_true_eq]
    exact ⟨by simp [artifactMembers, strictMembers], hnodup⟩

theorem strict_manifestMembers (d : Record Str) {parameters : Members}
    (h : (Value.obj parameters).strict) : (Value.obj (manifestMembers d parameters)).strict := by
  have hinterface : (Value.obj [(str "name", .string d.interface)]).strict := by
    rw [Value.strict]
    simp [strictMembers]
  have hsystemKeys : ((systemMembers d).map Prod.fst).Nodup := by
    have hkeys : (["kernel_release", "architecture", "cmdline", "realtime", "cpu_online",
        "cpu_isolated"].map str).Nodup := List.Nodup.map str_injective (by decide)
    exact hkeys
  have hsystem : (Value.obj (systemMembers d)).strict := by
    rw [Value.strict, decide_eq_true hsystemKeys]
    simp [systemMembers, strictMembers]
  have hrepositoryKeys : ((repositoryMembers d).map Prod.fst).Nodup := by
    have hkeys : (["path", "head", "status"].map str).Nodup :=
      List.Nodup.map str_injective (by decide)
    exact hkeys
  have hrepository : (Value.obj (repositoryMembers d)).strict := by
    rw [Value.strict, decide_eq_true hrepositoryKeys]
    simp [repositoryMembers, strictMembers]
  have hartifacts : (Value.arr (d.artifacts.map fun a => .obj (artifactMembers a))).strict := by
    rw [Value.strict]
    induction d.artifacts with
    | nil => rfl
    | cons a artifacts ih =>
      rw [List.map_cons, strictItems, strict_artifact, ih]
      rfl
  rw [Value.strict, decide_eq_true (nodup_manifestMembers d parameters)]
  simp [manifestMembers, strictMembers, h, hinterface, hsystem, hrepository, hartifacts]

/-! ## What the readers see

The fields that the two readers look at, in a document of the runner. -/

theorem field_of_notMem {members : Members} {key : String}
    (h : str key ∉ members.map Prod.fst) : field members key = none := by
  rw [field, List.lookup_eq_none_iff]
  intro p hp
  have hne : str key ≠ p.1 := fun heq => h (heq ▸ List.mem_map_of_mem (List.mem_reverse.mp hp))
  simpa using hne

section Read

variable (d : Record Str) (parameters : Members)

theorem field_manifest {key : String} {value : Value}
    (h : (str key, value) ∈ manifestMembers d parameters) :
    field (manifestMembers d parameters) key = some value :=
  field_of_mem (nodup_manifestMembers d parameters) h

theorem field_manifest_absent {key : String}
    (h : key ∉ ["manifest_version", "run_id", "condition_id", "parameters", "interface", "system",
      "project_repository", "artifact_hashes"]) :
    field (manifestMembers d parameters) key = none := by
  refine field_of_notMem fun hmem => h ?_
  have hkeys : str key ∈ ["manifest_version", "run_id", "condition_id", "parameters", "interface",
      "system", "project_repository", "artifact_hashes"].map str := hmem
  exact (List.mem_map_of_injective str_injective).mp hkeys

theorem repositoryIdentity_manifest :
    repositoryIdentity (manifestMembers d parameters) "project_repository"
      = [(str "head", .string d.head), (str "status", .string d.status),
        (str "worktree_patch_digest", .null), (str "committed_series", .null)] := by
  have hnodup : ((repositoryMembers d).map Prod.fst).Nodup := by
    have hkeys : (["path", "head", "status"].map str).Nodup :=
      List.Nodup.map str_injective (by decide)
    exact hkeys
  have habsent {key : String} (h : key ∉ ["path", "head", "status"]) :
      field (repositoryMembers d) key = none := by
    refine field_of_notMem fun hmem => h ?_
    have hkeys : str key ∈ ["path", "head", "status"].map str := hmem
    exact (List.mem_map_of_injective str_injective).mp hkeys
  have hrepository : field (manifestMembers d parameters) "project_repository"
      = some (.obj (repositoryMembers d)) := field_manifest d parameters (by simp [manifestMembers])
  rw [repositoryIdentity, hrepository]
  simp only [getValue, habsent (show "worktree_patch_digest" ∉ _ by decide),
    habsent (show "committed_series" ∉ _ by decide),
    field_of_mem hnodup (show (str "head", .string d.head) ∈ _ by simp [repositoryMembers]),
    field_of_mem hnodup (show (str "status", .string d.status) ∈ _ by simp [repositoryMembers]),
    Option.getD_some, Option.getD_none]

/-- The identity of a document. -/
theorem manifestCohortIdentity_manifest :
    manifestCohortIdentity (manifestMembers d parameters)
      = [(str "interface_name", .string d.interface),
        (str "kernel_release", .string d.kernelRelease),
        (str "project_repository", .obj [(str "head", .string d.head),
          (str "status", .string d.status), (str "worktree_patch_digest", .null),
          (str "committed_series", .null)]),
        (str "kernel_repository", .obj []),
        (str "artifact_hashes", .arr (d.artifacts.map fun a => .obj (artifactMembers a))),
        (str "artifact_tree_hashes", .arr [])] := by
  have hinterface : field (manifestMembers d parameters) "interface"
      = some (.obj [(str "name", .string d.interface)]) :=
    field_manifest d parameters (by simp [manifestMembers])
  have hname : field [(str "name", .string d.interface)] "name" = some (.string d.interface) :=
    field_of_mem (by simp) (by simp)
  have hsystem : field (manifestMembers d parameters) "system" = some (.obj (systemMembers d)) :=
    field_manifest d parameters (by simp [manifestMembers])
  have hsystemKeys : ((systemMembers d).map Prod.fst).Nodup := by
    have hkeys : (["kernel_release", "architecture", "cmdline", "realtime", "cpu_online",
        "cpu_isolated"].map str).Nodup := List.Nodup.map str_injective (by decide)
    exact hkeys
  have hrelease : field (systemMembers d) "kernel_release" = some (.string d.kernelRelease) :=
    field_of_mem hsystemKeys (by simp [systemMembers])
  have hartifacts : field (manifestMembers d parameters) "artifact_hashes"
      = some (.arr (d.artifacts.map fun a => .obj (artifactMembers a))) :=
    field_manifest d parameters (by simp [manifestMembers])
  have hkernel : field (manifestMembers d parameters) "kernel_repository" = none :=
    field_manifest_absent d parameters (by decide)
  have htree : field (manifestMembers d parameters) "artifact_tree_hashes" = none :=
    field_manifest_absent d parameters (by decide)
  have hkernelIdentity : repositoryIdentity (manifestMembers d parameters) "kernel_repository" = [] := by
    rw [repositoryIdentity, hkernel]
  simp only [manifestCohortIdentity, getNested, getValue, hinterface, hname, hsystem, hrelease,
    repositoryIdentity_manifest, hkernelIdentity, hartifacts, htree, Option.getD_some,
    Option.getD_none]

end Read

theorem loadManifest_manifest {text : List Char} {d : Record Str} {parameters : Members}
    (hloads : loads text = some (.obj (manifestMembers d parameters)))
    (hstrict : (Value.obj parameters).strict) (hrunId : isRunId d.runId) :
    loadManifest (encode text) = .ok (1, d.runId) := by
  have hversion : field (manifestMembers d parameters) "manifest_version" = some (.int 1) :=
    field_manifest d parameters (by simp [manifestMembers, natValue])
  have hrun : field (manifestMembers d parameters) "run_id" = some (.string d.runId) :=
    field_manifest d parameters (by simp [manifestMembers])
  have honce := Value.keysOnce_of_strict _ (strict_manifestMembers d hstrict)
  rw [loadManifest, decode_encode, Option.bind_some, hloads]
  simp only [honce, if_true, hversion, hrun, hrunId]

theorem loadJson_manifest {text : List Char} {d : Record Str} {parameters : Members}
    (hloads : loads text = some (.obj (manifestMembers d parameters)))
    (hstrict : (Value.obj parameters).strict) :
    loadJson (encode text) = .ok (manifestMembers d parameters) := by
  rw [loadJson, decode_encode, Option.bind_some, hloads]
  exact if_pos (strict_manifestMembers d hstrict)

/-! ## Strings are told apart

Decoding loses nothing: equal code points come from equal bytes. So two cohort identities agree only
if the machines do. -/

theorem artifactMembers_injective : Function.Injective artifactMembers := by
  rintro ⟨path, digest⟩ ⟨path', digest'⟩ h
  cases digest with
  | none =>
    cases digest' with
    | none => simpa [artifactMembers] using h
    | some _ => simp [artifactMembers] at h
  | some digest =>
    cases digest' with
    | none => simp [artifactMembers] at h
    | some _ =>
      simp only [artifactMembers, natValue, List.cons.injEq, Prod.mk.injEq, Value.string.injEq,
        Value.int.injEq, Int.natCast_inj, true_and, and_true] at h
      obtain ⟨hpath, hbytes, hdigest⟩ := h
      rw [hpath, Prod.ext hbytes hdigest]

/-- No two strings are read as one. -/
theorem leftUnique_reads : Relator.LeftUnique CString.Reads :=
  fun _ _ _ h h' => h.injective h'

theorem leftUnique_artifact : Relator.LeftUnique Artifact.Reads := by
  rintro ⟨path, digest⟩ ⟨path', digest'⟩ ⟨dpath, ddigest⟩ ⟨hpath, hdigest⟩ ⟨hpath', hdigest'⟩
  have hpaths : path = path' := leftUnique_reads hpath hpath'
  have hdigests : digest = digest' := by
    cases ddigest with
    | none =>
      cases hdigest
      cases hdigest'
      rfl
    | some q =>
      cases hdigest with
      | some h =>
        cases hdigest' with
        | some h' =>
          exact congrArg some (Prod.ext (h.1.trans h'.1.symm) (leftUnique_reads h.2 h'.2))
  rw [hpaths, hdigests]

theorem rightUnique_artifact : Relator.RightUnique Artifact.Reads := by
  rintro ⟨path, digest⟩ ⟨dpath, ddigest⟩ ⟨dpath', ddigest'⟩ ⟨hpath, hdigest⟩ ⟨hpath', hdigest'⟩
  have hpaths : dpath = dpath' := hpath.unique hpath'
  have hdigests : ddigest = ddigest' := by
    cases digest with
    | none =>
      cases hdigest
      cases hdigest'
      rfl
    | some q =>
      cases hdigest with
      | some h =>
        cases hdigest' with
        | some h' => exact congrArg some (Prod.ext (h.1.symm.trans h'.1) (h.2.unique h'.2))
  rw [hpaths, hdigests]

theorem isPrintable_of_name {ch : Char} (h : ch.isAlphanum ∨ ch = '-' ∨ ch = '_') :
    isPrintable ch := by
  rcases h with h | rfl | rfl
  · have hranges := Decimal.toNat_isAlphanum h
    simp only [isPrintable, Bool.and_eq_true, decide_eq_true_eq]
    omega
  · decide
  · decide

/-- The condition says of a run what `run.json` says behind its header. -/
theorem field_conditionValues (c : RunSettings) (mode : RunMode) (rep : Nat) (role : RunRole)
    (state : RunState) {key : String}
    (hkey : key ∈ ["mode", "duration_s", "flows", "load", "environment", "config"]) :
    field (conditionValues c mode rep role state) key
      = field (runMembers c mode rep role state) key := by
  have hnodup := nodup_runMembers c mode rep role state
  have hcondition : ((conditionValues c mode rep role state).map Prod.fst).Nodup := by
    rw [conditionValues, List.map_drop]
    exact hnodup.sublist (List.drop_sublist _ _)
  have hmem : str key ∈ (conditionValues c mode rep role state).map Prod.fst :=
    List.mem_map_of_mem hkey
  obtain ⟨⟨_, value⟩, hvalue, rfl⟩ := List.mem_map.mp hmem
  rw [field_of_mem hcondition hvalue, field_of_mem hnodup (List.mem_of_mem_drop hvalue)]

/-! ## A machine

One on which every kind of value occurs: missing texts, a missing artifact, a path with a control
character. -/

/-- A machine without a real-time kernel and without the sender, at a commit. -/
def sampleMachine (head : List Char) : Record CString where
  runId := .ofChars []
  conditionId := .ofChars []
  interface := .ofChars []
  kernelRelease := .ofChars "6.6.51-v8".toList
  architecture := .ofChars "aarch64".toList
  cmdline := some (.ofChars "isolcpus=2,3 \"quiet\"".toList)
  realtime := none
  cpuOnline := some (.ofChars "0-3".toList)
  cpuIsolated := some (.ofChars "2-3".toList)
  repository := .ofChars "/home/ace".toList
  head := .ofChars head
  status := .ofChars []
  artifacts := [⟨.ofChars "/home/ace/BPF/xdp_loader".toList, some (4096, .ofChars "00ff".toList)⟩,
    ⟨.ofChars "/home/ace/udp_socket/bin/sender".toList, none⟩]

theorem reads_sampleMachine (c : RunSettings) (mode : RunMode) (rep : Nat) {head : List Char}
    (hhead : ∀ ch ∈ head, isPrintable ch) :
    ∃ d, (beginRecord c mode rep (sampleMachine head)).Reads d :=
  ⟨⟨_, _, _, _, _, _, _, _, _, _, _, _, [⟨_, some (4096, _)⟩, ⟨_, none⟩]⟩,
    reads_ofChars fun ch hch => isPrintable_of_name (name_runIdText c mode rep ch hch),
    reads_ofChars fun ch hch => isPrintable_of_name (c.runId.name ch hch),
    reads_ofChars c.interface.printable,
    reads_ofChars (by decide), reads_ofChars (by decide), .some (reads_ofChars (by decide)), .none,
    .some (reads_ofChars (by decide)), .some (reads_ofChars (by decide)),
    reads_ofChars (by decide), reads_ofChars hhead, reads_ofChars (by decide),
    .cons ⟨reads_ofChars (by decide), .some ⟨rfl, reads_ofChars (by decide)⟩⟩
      (.cons ⟨reads_ofChars (by decide), .none⟩ .nil)⟩

/-! ## Results

The manifest exists when its strings are well formed; then it is accepted, and its cohort identity
is that of the machine. -/

/-- **Manifests are read back.** Whatever the machine holds, a run has a manifest if and only if
every string is well-formed UTF-8; then the joiner takes its version and identifier, the aggregator
its whole document, and its parameters say what `run.json` says of the condition. The identifier
passes the check of the writer, which is the one of the analysis on every string. -/
theorem manifest_round_trip (c : RunSettings) (mode : RunMode) (rep : Nat) (hrep : rep ≤ 10000)
    (machine : Record CString) :
    (∀ s : CString, validRunId s ↔ ∃ points, s.Reads points ∧ isRunId points)
      ∧ validRunId (beginRecord c mode rep machine).runId
      ∧ ((∃ text, runManifestText c mode rep machine = .ok text)
          ↔ ∃ d, (beginRecord c mode rep machine).Reads d)
      ∧ ∀ text, runManifestText c mode rep machine = .ok text →
          ∃ d parameters, (beginRecord c mode rep machine).Reads d
            ∧ d.runId = (runIdText c mode rep).map Char.toNat
            ∧ loadManifest (encode text) = .ok (1, d.runId)
            ∧ loadJson (encode text) = .ok (manifestMembers d parameters)
            ∧ ∀ role state,
                ∀ key ∈ ["mode", "duration_s", "flows", "load", "environment", "config"],
                  field parameters key = field (runMembers c mode rep role state) key := by
  have hprintable : ∀ ch ∈ runIdText c mode rep, isPrintable ch := fun ch hch =>
    isPrintable_of_name (name_runIdText c mode rep ch hch)
  have hreads : (beginRecord c mode rep machine).runId.Reads
      ((runIdText c mode rep).map Char.toNat) := reads_ofChars hprintable
  have hid := isRunId_runIdText c mode (lt_of_le_of_lt hrep (by decide))
  refine ⟨validRunId_iff, (validRunId_iff _).mpr ⟨_, hreads, hid⟩, manifestText_ok_iff _ _, ?_⟩
  intro text htext
  obtain ⟨d, hd⟩ := (manifestText_ok_iff _ _).mp ⟨text, htext⟩
  have hrunId : d.runId = (runIdText c mode rep).map Char.toNat := hd.runId.unique hreads
  have hloads := loads_manifestText hd (denotes_condition c mode rep .receiver .completed) htext
  have hstrict := strict_conditionValues c mode rep .receiver .completed
  exact ⟨d, _, hd, hrunId, loadManifest_manifest hloads hstrict (hrunId ▸ hid),
    loadJson_manifest hloads hstrict,
    fun role state key hkey => field_conditionValues c mode rep role state hkey⟩

/-- The second repeat of a mixed run. -/
theorem manifest_round_trip_sample : ∃ c, readRunConfig sampleHost sampleFile = some c
    ∧ ∃ text d, runManifestText c .mixed 2 (sampleMachine "c0ffee".toList) = .ok text
      ∧ loadManifest (encode text) = .ok (1, d)
      ∧ d = (runIdText c .mixed 2).map Char.toNat := by
  obtain ⟨c, hc, -⟩ := sampleConfig_accepted
  obtain ⟨-, -, htext, hread⟩ :=
    manifest_round_trip c .mixed 2 (by decide) (sampleMachine "c0ffee".toList)
  obtain ⟨text, htext⟩ := htext.mpr (reads_sampleMachine c .mixed 2 (by decide))
  obtain ⟨d, -, -, hrunId, hload, -⟩ := hread text htext
  exact ⟨c, hc, text, _, htext, hload, hrunId⟩

/-- What `manifest_cohort_identity` compares. -/
structure SameMachine (r r' : Record CString) : Prop where
  interface : r.interface = r'.interface
  kernelRelease : r.kernelRelease = r'.kernelRelease
  head : r.head = r'.head
  status : r.status = r'.status
  artifacts : r.artifacts = r'.artifacts

/-- The identity of a manifest that was read back. -/
theorem cohort_of_text {c : RunSettings} {mode : RunMode} {rep : Nat} {machine : Record CString}
    {text : List Char} {members : Members} (htext : runManifestText c mode rep machine = .ok text)
    (hload : loadJson (encode text) = .ok members) :
    ∃ d parameters, (beginRecord c mode rep machine).Reads d
      ∧ members = manifestMembers d parameters := by
  obtain ⟨d, hd⟩ := (manifestText_ok_iff _ _).mp ⟨text, htext⟩
  have hloads := loads_manifestText hd (denotes_condition c mode rep .receiver .completed) htext
  rw [loadJson_manifest hloads (strict_conditionValues c mode rep .receiver .completed)] at hload
  exact ⟨d, _, hd, (Except.ok.inj hload).symm⟩

theorem loadJson_sampleMachine (c : RunSettings) (mode : RunMode) (rep : Nat) {head : List Char}
    (hhead : ∀ ch ∈ head, isPrintable ch) : ∃ text members,
      runManifestText c mode rep (sampleMachine head) = .ok text
        ∧ loadJson (encode text) = .ok members := by
  obtain ⟨d, hd⟩ := reads_sampleMachine c mode rep hhead
  obtain ⟨text, htext⟩ := (manifestText_ok_iff _ (writeCondition c mode c.durationMs)).mpr ⟨d, hd⟩
  have hloads := loads_manifestText hd (denotes_condition c mode rep .receiver .completed) htext
  exact ⟨text, _, htext,
    loadJson_manifest hloads (strict_conditionValues c mode rep .receiver .completed)⟩

/-- **The cohort is the machine.** Two runs have one identity if and only if they used the same
interface, kernel, commit, state of the work tree and binaries, at the same places; the condition
and the rest of the system have no part in it. -/
theorem manifest_cohort_iff (c c' : RunSettings) (mode mode' : RunMode) (rep rep' : Nat)
    (machine machine' : Record CString) {text text' : List Char} {members members' : Members}
    (htext : runManifestText c mode rep machine = .ok text)
    (htext' : runManifestText c' mode' rep' machine' = .ok text')
    (hload : loadJson (encode text) = .ok members)
    (hload' : loadJson (encode text') = .ok members') :
    manifestCohortIdentity members = manifestCohortIdentity members'
      ↔ SameMachine (beginRecord c mode rep machine) (beginRecord c' mode' rep' machine') := by
  obtain ⟨d, parameters, hd, rfl⟩ := cohort_of_text htext hload
  obtain ⟨d', parameters', hd', rfl⟩ := cohort_of_text htext' hload'
  rw [manifestCohortIdentity_manifest, manifestCohortIdentity_manifest]
  constructor
  · intro h
    simp only [List.cons.injEq, Prod.mk.injEq, Value.string.injEq, Value.obj.injEq, Value.arr.injEq,
      true_and, and_true] at h
    obtain ⟨hinterface, hrelease, ⟨hhead, hstatus⟩, hartifacts⟩ := h
    have hdocuments : d.artifacts = d'.artifacts :=
      List.map_injective_iff.mpr
        (fun a b hab => artifactMembers_injective (Value.obj.inj hab)) hartifacts
    exact ⟨leftUnique_reads hd.interface (hinterface ▸ hd'.interface),
      leftUnique_reads hd.kernelRelease (hrelease ▸ hd'.kernelRelease),
      leftUnique_reads hd.head (hhead ▸ hd'.head),
      leftUnique_reads hd.status (hstatus ▸ hd'.status),
      leftUnique_artifact.forall₂ hd.artifacts (hdocuments ▸ hd'.artifacts)⟩
  · rintro ⟨hinterface, hrelease, hhead, hstatus, hartifacts⟩
    have hdocuments : d.artifacts = d'.artifacts :=
      rightUnique_artifact.forall₂ (hartifacts ▸ hd.artifacts) hd'.artifacts
    have hinterfaces : d.interface = d'.interface :=
      (hinterface ▸ hd.interface).unique hd'.interface
    have hreleases : d.kernelRelease = d'.kernelRelease :=
      (hrelease ▸ hd.kernelRelease).unique hd'.kernelRelease
    have hheads : d.head = d'.head := (hhead ▸ hd.head).unique hd'.head
    have hstatuses : d.status = d'.status := (hstatus ▸ hd.status).unique hd'.status
    rw [hinterfaces, hreleases, hheads, hstatuses, hdocuments]

/-- A second commit is a second cohort. -/
theorem manifest_cohort_iff_sample : ∃ c text text' members members',
    runManifestText c .mixed 1 (sampleMachine "c0ffee".toList) = .ok text
      ∧ runManifestText c .mixed 2 (sampleMachine "beef".toList) = .ok text'
      ∧ loadJson (encode text) = .ok members ∧ loadJson (encode text') = .ok members'
      ∧ manifestCohortIdentity members ≠ manifestCohortIdentity members' := by
  obtain ⟨c, -, -, -, -, -, -⟩ := sampleConfig_accepted
  obtain ⟨text, members, htext, hload⟩ := loadJson_sampleMachine c .mixed 1 (show
    ∀ ch ∈ "c0ffee".toList, isPrintable ch by decide)
  obtain ⟨text', members', htext', hload'⟩ := loadJson_sampleMachine c .mixed 2 (show
    ∀ ch ∈ "beef".toList, isPrintable ch by decide)
  refine ⟨c, text, text', members, members', htext, htext', hload, hload', fun heq => ?_⟩
  have hsame := (manifest_cohort_iff c c .mixed .mixed 1 2 _ _ htext htext' hload hload').mp heq
  have hheads := congrArg CString.bytes hsame.head
  have hbytes : (CString.ofChars "c0ffee".toList).bytes = (CString.ofChars "beef".toList).bytes :=
    hheads
  exact absurd hbytes (by decide)

end Manifest

end AceXdp
