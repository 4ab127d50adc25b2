import AceXdp.Lib.Checked
import AceXdp.Experiment.CollectSafety

/-!
# AceXdp — a collection that counts as done is a complete copy

* `WellNamed`: a tree whose names are file names;
* **`joinPath_relativeText`** — a name in the list leads to the file it was written for;
* **`loadJson_collectionJson`** — the list is read as it was written;
* **`collect_crash_safe`** — wherever `collect_results` ends, `inspect_run` takes the output for a
  finished run only if it is a complete copy of two finished runs;
* **`collection_verified_iff`** — after a collection `verify_collection` accepts the directory just
  when every artifact is as it was copied.
-/

namespace AceXdp.Collect

open Decimal Disk Fault Json Checked

/-! ## Names -/

/-- What every file is called: a name has characters, is not `.` and has no `/`. -/
structure FileName (name : Str) : Prop where
  ne_nil : name ≠ []
  ne_dot : name ≠ ['.'.toNat]
  no_slash : '/'.toNat ∉ name

/-- The names of everything in a tree. -/
def WellNamed (tree : FileTree) : Prop :=
  ∀ p, (tree.entry p).isSome → ∀ name ∈ p, FileName name

section Names

variable {host : Host} {receiver sender output : Path}

theorem joinPath_relativeText {target : Path} (h : ∀ name ∈ target, FileName name) :
    joinPath host output (relativeText target) = output ++ target := by
  have hfilter : target.filter (fun name => decide (name ≠ [] ∧ name ≠ ['.'.toNat])) = target :=
    List.filter_eq_self.mpr fun name hname =>
      decide_eq_true ⟨(h name hname).ne_nil, (h name hname).ne_dot⟩
  cases target with
  | nil => simp [joinPath, pathOfText, relativeText]
  | cons name rest =>
    have hsplit : (relativeText (name :: rest)).splitOn '/'.toNat = name :: rest :=
      List.splitOn_intercalate _ (fun name hname => (h name hname).no_slash) (List.cons_ne_nil _ _)
    have hhead : (relativeText (name :: rest)).head? ≠ some '/'.toNat := by
      obtain ⟨c, name', rfl⟩ := List.exists_cons_of_ne_nil (h name List.mem_cons_self).ne_nil
      have hc : c ≠ '/'.toNat := fun heq =>
        (h _ List.mem_cons_self).no_slash (heq ▸ List.mem_cons_self)
      cases rest <;> simpa [relativeText, List.intercalate, List.intersperse] using hc
    rw [joinPath, pathOfText, hsplit, hfilter, if_neg hhead]

/-- Two paths of file names are not printed alike. -/
theorem relativeText_inj {target target' : Path} (h : ∀ name ∈ target, FileName name)
    (h' : ∀ name ∈ target', FileName name) (heq : relativeText target = relativeText target') :
    target = target' := by
  have hjoin := @joinPath_relativeText ⟨fun _ => [], fun _ _ => false, []⟩ [] _ h
  rwa [heq, joinPath_relativeText h', List.nil_append, List.nil_append, eq_comm] at hjoin

theorem fileName_senderFlowName (flow : Members) : FileName (senderFlowName flow) := by
  have hlength : 1 < (senderFlowName flow).length := by
    simp only [senderFlowName, List.length_append]
    have : (str "sender-flow").length = 11 := by decide
    omega
  refine ⟨fun hnil => ?_, fun hdot => ?_, fun hmem => ?_⟩
  · rw [hnil] at hlength
    cases hlength
  · rw [hdot] at hlength
    exact absurd hlength (by decide)
  · rw [senderFlowName, List.mem_append, List.mem_append] at hmem
    rcases hmem with (hmem | hmem) | hmem
    · exact absurd hmem (by decide)
    · obtain ⟨c, hc, hslash⟩ := List.mem_map.mp hmem
      obtain rfl : c = '/' := Char.ext (UInt32.toNat_inj.mp hslash)
      exact notMem_intText (by decide) (by decide) _ hc
    · exact absurd hmem (by decide)

/-- Where the selection is copied to has file names, when the sources do. -/
theorem Chosen.fileNames {selection : Selection} {s : Collecting}
    (h : Chosen host receiver sender selection s) (hnamed : ∀ tree, s.Seen tree → WellNamed tree)
    {file : Path × Path} (hfile : file ∈ selection.files) : ∀ name ∈ file.2, FileName name := by
  have hwalk {source pre : Path} {files : List (Path × Path)} (hpre : ∀ name ∈ pre, FileName name)
      (hwalked : Walked receiver source pre files s) (hmem : file ∈ files) :
      ∀ name ∈ file.2, FileName name := by
    obtain ⟨tree, hseen, -, hfiles⟩ := hwalked
    obtain ⟨hbelow, htarget, -⟩ := hfiles file hmem
    intro name hname
    rw [htarget] at hname
    rcases List.mem_append.mp hname with hname | hname
    · exact hpre name hname
    · exact hnamed tree hseen _ (FileTree.mem_below_iff.mp hbelow).2.2 name
        (List.mem_of_mem_drop hname)
  obtain ⟨_, flows, _, receiverFiles, senderFiles, flowFiles, -, -, -, hfiles, hreceiver, hsender,
    hflow⟩ := h.files
  rw [hfiles, List.mem_append, List.mem_append] at hfile
  rcases hfile with (hfile | hfile) | hfile
  · exact hwalk (List.forall_mem_nil _) hreceiver hfile
  · refine hwalk (fun name hname => ?_) hsender hfile
    rw [List.mem_singleton.mp hname]
    exact ⟨by decide, by decide, by decide⟩
  · obtain ⟨flow, -, htarget, -⟩ := hflow file hfile
    intro name hname
    rw [htarget, List.mem_singleton] at hname
    rw [hname]
    exact fileName_senderFlowName flow

end Names

/-! ## The list -/

def digestValue (digest : Digest) : Value :=
  .obj [(str "bytes", .int digest.bytes), (str "sha256", .string digest.sha256)]

/-- The members of `collection.json`. -/
def collectionMembers (runId : Str) (receiver sender : Path) (completed : Bool)
    (hashes : List (Path × Digest)) : Members :=
  [(str "schema_version", .int 1), (str "run_id", .string runId),
    (str "receiver_source", .string receiver.text), (str "sender_source", .string sender.text),
    (str "source_runs_completed", .bool completed),
    (str "artifacts", .obj (hashes.map fun hash => (relativeText hash.1, digestValue hash.2)))]

section List

variable {runId : Str} {receiver sender : Path} {completed : Bool} {hashes : List (Path × Digest)}
variable {text : List Char}

theorem plainText_eq_some {s : Str} (h : plainText s = some text) : text.map Char.toNat = s := by
  unfold plainText at h
  split at h
  · rename_i hvalid
    obtain rfl := Option.some.inj h
    rw [List.map_map]
    refine (List.map_congr_left fun n hn => ?_).trans (List.map_id s)
    have hchar : n.isValidChar := of_decide_eq_true (List.all_eq_true.mp hvalid n hn)
    rw [Function.comp_apply, Char.ofNat, dif_pos hchar]
    rfl
  · cases h

theorem denotesMember_rawMember {value : Value} (key : String) (h : Denotes text value) :
    DenotesMember (rawMember key.toList text) (str key, value) :=
  denotesMember_quoteRaw key.toList [' '] (by decide) h

theorem denotes_string_of_plainText {s : Str} (h : plainText s = some text) :
    Denotes (quoteRaw text) (.string s) := by
  rw [← plainText_eq_some h]
  exact denotes_quoteRaw text

theorem denotes_boolText (b : Bool) : Denotes (boolText b) (.bool b) := by
  cases b with
  | false => exact denotes_false
  | true => exact denotes_true

/-- One artifact of the list. -/
theorem denotesMember_hash {hash : Path × Digest} {plain : List Char × Nat × List Char}
    (h : plainHash hash = some plain) :
    DenotesMember (rawMember plain.1 (hashText plain.2))
      (relativeText hash.1, digestValue hash.2) := by
  simp only [plainHash, Option.bind_eq_bind, Option.bind_eq_some_iff, Option.pure_def,
    Option.some.injEq] at h
  obtain ⟨name, hname, digest, hdigest, rfl⟩ := h
  rw [← plainText_eq_some hname]
  refine denotesMember_quoteRaw name [' '] (by decide) (denotes_block_obj ?_)
  exact .cons (denotesMember_rawMember "bytes" (denotes_int _))
    (.cons (denotesMember_rawMember "sha256" (denotes_string_of_plainText hdigest)) .nil)

theorem denotesMembers_hashes {plain : List (List Char × Nat × List Char)}
    (h : hashes.mapM plainHash = some plain) :
    List.Forall₂ DenotesMember (plain.map fun hash => rawMember hash.1 (hashText hash.2))
      (hashes.map fun hash => (relativeText hash.1, digestValue hash.2)) := by
  induction hashes generalizing plain with
  | nil =>
    obtain rfl : [] = plain := by simpa using h
    exact .nil
  | cons hash hashes ih =>
    simp only [List.mapM_cons, Option.bind_eq_bind, Option.bind_eq_some_iff, Option.pure_def,
      Option.some.injEq] at h
    obtain ⟨first, hfirst, rest, hrest, rfl⟩ := h
    exact .cons (denotesMember_hash hfirst) (ih hrest)

/-- **The text denotes what was collected.** -/
theorem denotes_collectionJson (h : collectionJson runId receiver sender completed hashes = some text) :
    Denotes text (.obj (collectionMembers runId receiver sender completed hashes)) := by
  simp only [collectionJson, Option.bind_eq_bind, Option.bind_eq_some_iff, Option.pure_def,
    Option.some.injEq] at h
  obtain ⟨run, hrun, rx, hrx, tx, htx, plain, hplain, rfl⟩ := h
  refine denotes_block_obj ?_
  exact .cons (denotesMember_rawMember "schema_version" (denotes_int 1))
    (.cons (denotesMember_rawMember "run_id" (denotes_string_of_plainText hrun))
    (.cons (denotesMember_rawMember "receiver_source" (denotes_string_of_plainText hrx))
    (.cons (denotesMember_rawMember "sender_source" (denotes_string_of_plainText htx))
    (.cons (denotesMember_rawMember "source_runs_completed" (denotes_boolText completed))
    (.cons (denotesMember_rawMember "artifacts"
      (denotes_block_obj (denotesMembers_hashes hplain))) .nil)))))

theorem nodup_digestKeys : (["bytes", "sha256"].map str).Nodup :=
  List.Nodup.map str_injective (by decide)

theorem strict_digestValue (digest : Digest) : (digestValue digest).strict := by
  rw [digestValue, Value.strict, Bool.and_eq_true, decide_eq_true_eq]
  exact ⟨by simp [strictMembers], nodup_digestKeys⟩

theorem nodup_collectionMembers :
    ((collectionMembers runId receiver sender completed hashes).map Prod.fst).Nodup := by
  have hkeys : (["schema_version", "run_id", "receiver_source", "sender_source",
      "source_runs_completed", "artifacts"].map str).Nodup :=
    List.Nodup.map str_injective (by decide)
  exact hkeys

/-- The list names each artifact once. -/
theorem strict_collectionMembers (hnodup : (hashes.map fun hash => relativeText hash.1).Nodup) :
    (Value.obj (collectionMembers runId receiver sender completed hashes)).strict := by
  have hartifacts : (Value.obj (hashes.map fun hash =>
      (relativeText hash.1, digestValue hash.2))).strict := by
    rw [Value.strict, Bool.and_eq_true, decide_eq_true_eq, List.map_map]
    refine ⟨?_, hnodup⟩
    clear hnodup
    induction hashes with
    | nil => rfl
    | cons hash hashes ih =>
      rw [List.map_cons, strictMembers, strict_digestValue, ih]
      rfl
  rw [Value.strict, decide_eq_true nodup_collectionMembers]
  simp [collectionMembers, strictMembers, hartifacts]

/-- **The list is read as it was written.** -/
theorem loadJson_collectionJson
    (htext : collectionJson runId receiver sender completed hashes = some text)
    (hnodup : (hashes.map fun hash => relativeText hash.1).Nodup) :
    loadJson (encode text ++ encode ['\n'])
      = .ok (collectionMembers runId receiver sender completed hashes) := by
  have hloads := @loads_of_denotes _ _ (denotes_collectionJson htext) [] ['\n'] (by simp) (by decide)
  rw [List.nil_append] at hloads
  rw [loadJson, encode, encode, ← List.flatMap_append, ← encode, decode_encode, Option.bind_some,
    hloads]
  exact if_pos (strict_collectionMembers hnodup)

end List

/-! ## The artifacts -/

/-- A loop of checks succeeds when each of them does. -/
theorem forM_eq_ok {ε α : Type} {f : α → Except ε PUnit} {l : List α} :
    l.forM f = .ok () ↔ ∀ a ∈ l, f a = .ok () := by
  induction l with
  | nil => exact iff_of_true rfl (List.forall_mem_nil _)
  | cons a l ih =>
    have hcons : (a :: l).forM f = f a >>= fun _ => l.forM f := rfl
    rw [hcons, bind_eq_ok, List.forall_mem_cons, ih]
    exact ⟨fun ⟨_, h, hrest⟩ => ⟨h, hrest⟩, fun h => ⟨_, h⟩⟩

section Artifacts

variable {host : Host} {tree : FileTree} {output : Path}

theorem containedFile_eq_ok {directory path target : Path} {name : Str} :
    containedFile tree directory path name = .ok target ↔
      tree.resolve path = some target ∧ (∃ content, tree.entry target = some (.file content))
        ∧ directory <+: target := by
  unfold containedFile
  cases hresolve : tree.resolve path with
  | none => exact iff_of_false nofun (fun h => nomatch h.1)
  | some found =>
    rw [Option.some_inj]
    dsimp only
    split
    · rename_i content hfile
      by_cases hinside : directory <+: found
      · rw [if_pos (List.isPrefixOf_iff_prefix.mpr hinside), Except.ok.injEq]
        refine ⟨?_, And.left⟩
        rintro rfl
        exact ⟨rfl, ⟨content, hfile⟩, hinside⟩
      · rw [if_neg (mt List.isPrefixOf_iff_prefix.mp hinside)]
        refine iff_of_false nofun ?_
        rintro ⟨rfl, -, h⟩
        exact hinside h
    · rename_i hnot
      refine iff_of_false nofun ?_
      rintro ⟨rfl, ⟨content, hfile⟩, -⟩
      exact hnot content hfile

/-- Nothing is found in a directory that is behind a link. -/
theorem resolve_of_containedFile {directory path target : Path} {name : Str}
    (h : containedFile tree directory path name = .ok target) :
    tree.resolve directory = some directory := by
  obtain ⟨hresolve, -, hinside⟩ := containedFile_eq_ok.mp h
  exact FileTree.resolve_prefix hresolve hinside

/-- A file that stands in a resolved directory is found there. -/
theorem containedFile_of_file {directory : Path} {name : Str} {content : Bytes}
    (hdirectory : tree.resolve directory = some directory) (hname : name ≠ upward)
    (hfile : tree.entry (directory ++ [name]) = some (.file content)) :
    containedFile tree directory (directory ++ [name]) name = .ok (directory ++ [name]) := by
  have hplain : ResolvedPath tree.entry (directory ++ [name]) :=
    (FileTree.resolve_resolved hdirectory).concat hname hfile nofun
  exact containedFile_eq_ok.mpr ⟨FileTree.resolve_of_resolved hplain, ⟨content, hfile⟩,
    List.prefix_append _ _⟩

theorem sameDigest_digestValue {content : Bytes} {digest : Digest} :
    sameDigest host content (digestValue digest) = true ↔
      content.length = digest.bytes ∧ host.sha256 content = digest.sha256 := by
  have hfield {key : String} {value : Value} (hmem : (str key, value) ∈
      [(str "bytes", Value.int digest.bytes), (str "sha256", .string digest.sha256)]) :
      field [(str "bytes", .int digest.bytes), (str "sha256", .string digest.sha256)] key
        = some value := field_of_mem nodup_digestKeys hmem
  unfold sameDigest digestValue
  dsimp only
  rw [hfield (.head _), hfield (.tail _ (.head _))]
  simp only [equalsInt, equalsStr, Bool.and_eq_true, decide_eq_true_eq, Int.natCast_inj]
  exact ⟨fun h => ⟨h.1.2.symm, h.2.symm⟩, fun h => ⟨⟨rfl, h.1.symm⟩, h.2.symm⟩⟩

/-- An artifact is as it was copied: its name, links resolved wherever they stand, leads to a file of
the directory with the size and the digest of what was copied. -/
def Intact (host : Host) (tree : FileTree) (output : Path) (c : Copy) : Prop :=
  ∃ target content, tree.resolve (output ++ c.target) = some target
    ∧ tree.entry target = some (.file content) ∧ output <+: target
    ∧ content.length = c.content.length ∧ host.sha256 content = host.sha256 c.content

theorem intact_of_file {c : Copy}
    (hresolve : tree.resolve (output ++ c.target) = some (output ++ c.target))
    (hfile : tree.entry (output ++ c.target) = some (.file c.content)) :
    Intact host tree output c :=
  ⟨_, _, hresolve, hfile, List.prefix_append _ _, rfl, rfl⟩

theorem verifyArtifact_eq_ok {c : Copy} (h : ∀ name ∈ c.target, FileName name) :
    verifyArtifact host tree output (relativeText c.target, digestValue (c.hash host).2) = .ok ()
      ↔ Intact host tree output c := by
  rw [verifyArtifact, bind_eq_ok]
  dsimp only
  rw [joinPath_relativeText h]
  refine exists_congr fun target => ?_
  rw [containedFile_eq_ok]
  constructor
  · rintro ⟨⟨hresolve, ⟨content, hfile⟩, hinside⟩, hsame⟩
    rw [FileSystem.read_file hfile] at hsame
    dsimp only at hsame
    split at hsame
    · rename_i htrue
      exact ⟨content, hresolve, hfile, hinside, sameDigest_digestValue.mp htrue⟩
    · cases hsame
  · rintro ⟨content, hresolve, hfile, hinside, hsame⟩
    refine ⟨⟨hresolve, ⟨content, hfile⟩, hinside⟩, ?_⟩
    rw [FileSystem.read_file hfile]
    exact if_pos (sameDigest_digestValue.mpr hsame)

end Artifacts

/-! ## `verify_collection` -/

section Verify

variable {host : Host} {receiver sender output : Path}

/-- **The list is checked against what is there.** -/
theorem verifyCollection_eq_ok {tree : FileTree} {text : List Char} {runId : Str} {completed : Bool}
    {copies : List Copy} (hnamed : ∀ c ∈ copies, ∀ name ∈ c.target, FileName name)
    (hdistinct : (copies.map Copy.target).Nodup)
    (htext : collectionJson runId receiver sender completed (copies.map (Copy.hash host)) = some text)
    (hlist : tree.entry (output ++ [str "collection.json"])
      = some (.file (encode text ++ encode ['\n']))) :
    verifyCollection host tree output = .ok ()
      ↔ tree.resolve output = some output ∧ ∀ c ∈ copies, Intact host tree output c := by
  have hpresent : tree.entry.present (output ++ [str "collection.json"]) = true := by
    rw [FileSystem.present, FileSystem.follow_of_file hlist]
    rfl
  have hnodup : ((copies.map (Copy.hash host)).map fun hash => relativeText hash.1).Nodup := by
    rw [List.map_map]
    refine List.Nodup.map_on (fun c hc c' hc' heq => ?_) hdistinct.of_map
    exact List.inj_on_of_nodup_map hdistinct hc hc'
      (relativeText_inj (hnamed c hc) (hnamed c' hc') heq)
  have hload : loadJsonFile tree (output ++ [str "collection.json"])
      = .ok (collectionMembers runId receiver sender completed (copies.map (Copy.hash host))) := by
    rw [loadJsonFile, FileSystem.read_file hlist]
    exact loadJson_collectionJson htext hnodup
  have hartifacts : field (collectionMembers runId receiver sender completed
      (copies.map (Copy.hash host))) "artifacts"
      = some (.obj ((copies.map (Copy.hash host)).map fun hash =>
        (relativeText hash.1, digestValue hash.2))) :=
    field_of_mem nodup_collectionMembers (by simp [collectionMembers])
  unfold verifyCollection
  dsimp only
  rw [if_pos hpresent]
  by_cases hplace : tree.resolve output = some output
  · have hcontained := containedFile_of_file hplace (by decide) hlist
    rw [bind_ok hcontained, bind_ok hload, hartifacts, and_iff_right hplace]
    dsimp only
    rw [forM_eq_ok, List.map_map, List.forall_mem_map]
    exact forall₂_congr fun c hc => verifyArtifact_eq_ok (hnamed c hc)
  · refine iff_of_false (fun hok => ?_) fun h => hplace h.1
    obtain ⟨path, hcontained, -⟩ := bind_eq_ok.mp hok
    exact hplace (resolve_of_containedFile hcontained)

/-- The directory is accepted as long as what was copied is there. -/
theorem Chosen.verifyCollection_eq_ok {selection : Selection} {final : Collecting}
    (hchosen : Chosen host receiver sender selection final)
    (hnamed : ∀ tree, final.Seen tree → WellNamed tree) {copies : List Copy}
    (hfiles : selection.files = copies.map fun c => (c.source, c.target)) {text : List Char}
    {runId : Str} {completed : Bool}
    (htext : collectionJson runId receiver sender completed (copies.map (Copy.hash host)) = some text)
    {tree : FileTree} (hlist : tree.entry (output ++ [str "collection.json"])
      = some (.file (encode text ++ encode ['\n']))) :
    verifyCollection host tree output = .ok ()
      ↔ tree.resolve output = some output ∧ ∀ c ∈ copies, Intact host tree output c := by
  have hdistinct := hchosen.distinct
  rw [hfiles, List.map_map] at hdistinct
  have hfileNames : ∀ c ∈ copies, ∀ name ∈ c.target, FileName name := by
    intro c hc
    have hfile : (c.source, c.target) ∈ selection.files := by
      rw [hfiles]
      exact List.mem_map_of_mem hc
    exact hchosen.fileNames hnamed hfile
  exact Collect.verifyCollection_eq_ok hfileNames hdistinct htext hlist

/-- A collection that is not behind a link and holds none is accepted. -/
theorem verifyCollection_of_returned {ι : Type} [Bystander ι] (haloof : Aloof ι output)
    {start : FileTree}
    (hstart : ∀ p, output <+: p → (start.entry p).isSome → (start.entry output).isSome)
    {floatEq : List Char → List Char → Bool} {script rest : List ι} {final : Collecting}
    (hrun : collectResults host floatEq receiver sender output script (.start start)
      = (.returned (), final, rest))
    (hnamed : ∀ tree, final.Seen tree → WellNamed tree)
    (hplace : final.tree.resolve output = some output)
    (hresolve : ∀ p, (final.tree.entry p).isSome → final.tree.resolve p = some p) :
    verifyCollection host final.tree output = .ok () := by
  have hspec := @collectResults_spec host receiver sender output ι _ haloof start hstart floatEq
    script
  rw [hrun] at hspec
  obtain ⟨-, -, selection, hchosen, copies, text, hfiles, hcopies, htext, hlist⟩ := hspec
  refine (hchosen.verifyCollection_eq_ok hnamed hfiles htext hlist).mpr ⟨hplace, fun c hc => ?_⟩
  have hfile := (hcopies c hc).1
  exact intact_of_file (hresolve _ (Option.isSome_of_eq_some hfile)) hfile

theorem descriptorOf_of_file {tree : FileTree} {directory : Path} {content : Bytes}
    (hdirectory : tree.resolve directory = some directory)
    (hfile : tree.entry (directory ++ [str "run.json"]) = some (.file content)) :
    descriptorOf host tree directory = (do
      let descriptor ← loadJson content
      let _ ← checkDescriptor host descriptor
      return descriptor) := by
  rw [descriptorOf, bind_ok (containedFile_of_file hdirectory (by decide) hfile), loadJsonFile,
    FileSystem.read_file hfile]

/-- What a completed run shows: its descriptor, and of the markers `.complete` alone. -/
def ShownCompleted (tree : FileTree) (directory : Path) (content : Bytes) : Prop :=
  tree.entry (directory ++ [str "run.json"]) = some (.file content)
    ∧ tree.entry.isFile (directory ++ [str ".complete"]) = true
    ∧ tree.entry.present (directory ++ [str ".failed"]) = false
    ∧ tree.entry.present (directory ++ [str ".collection-failed"]) = false

instance {tree : FileTree} {directory : Path} {content : Bytes} :
    Decidable (ShownCompleted tree directory content) :=
  inferInstanceAs (Decidable (_ ∧ _ ∧ _ ∧ _))

/-- A run that is marked complete, is described as completed and has what its list says is done. -/
theorem isDone_of_completed {analyse : FileTree → Path → Members → Checked Unit}
    {tree : FileTree} {directory : Path} {content : Bytes} {descriptor : Members}
    (hanalyse : analyse tree directory descriptor = .ok ())
    (hverified : verifyCollection host tree directory = .ok ())
    (hplace : tree.resolve directory = some directory)
    (hshown : ShownCompleted tree directory content) (hload : loadJson content = .ok descriptor)
    (hcheck : ∃ checked, checkDescriptor host descriptor = .ok checked)
    (hcompleted : equalsStr (field descriptor "state") (str "completed") = true)
    (hrunning : equalsStr (field descriptor "state") (str "failed") = false) :
    (inspectRun host analyse tree directory).isDone = true := by
  obtain ⟨checked, hcheck⟩ := hcheck
  obtain ⟨hfile, hmark, hfailed, hcollected⟩ := hshown
  have hdescriptor : descriptorOf host tree directory = .ok descriptor := by
    rw [descriptorOf_of_file hplace hfile, bind_ok hload, bind_ok hcheck]
    rfl
  have hrun : tree.entry.isFile (directory ++ [str "run.json"]) = true := by
    rw [FileSystem.isFile, FileSystem.follow_of_file hfile]
  simp only [inspectRun, inspectCompleted, hcollected, hrun, hdescriptor, hfailed, hrunning, hmark,
    hcompleted, hverified, hanalyse, Bool.not_true, Bool.or_false, Bool.false_eq_true, if_false]
  split_ifs <;> rfl

/-! ### The sample run -/

/-- What the call has left: the kernel runs it once for all of this. -/
theorem sampleRun_left : sampleRun.1 = .returned ()
    ∧ (∀ c ∈ sampleRun.2.1.changes, ∀ p ∈ c.1.names, ∀ name ∈ p,
      name ≠ [] ∧ name ≠ ['.'.toNat] ∧ '/'.toNat ∉ name)
    ∧ (∀ p ∈ sampleRun.2.1.tree.names,
      (sampleRun.2.1.tree.entry p).isSome → sampleRun.2.1.tree.resolve p = some p)
    ∧ (sampleRun.2.1.tree.entry [str "out"]).isSome
    ∧ ShownCompleted sampleRun.2.1.tree [str "out"] sampleDescriptor := by
  decide +kernel

theorem sampleRun_returned : sampleRun = (.returned (), sampleRun.2.1, sampleRun.2.2) := by
  rw [← sampleRun_left.1]

theorem sampleRun_named (tree : FileTree) (h : sampleRun.2.1.Seen tree) : WellNamed tree := by
  obtain ⟨c, hc, rfl⟩ := h
  intro p hp name hname
  obtain ⟨hnil, hdot, hslash⟩ := sampleRun_left.2.1 c hc p (c.1.named p hp) name hname
  exact ⟨hnil, hdot, hslash⟩

/-- No path of its files goes over a link. -/
theorem sampleRun_resolve {p : Path} (hp : (sampleRun.2.1.tree.entry p).isSome) :
    sampleRun.2.1.tree.resolve p = some p :=
  sampleRun_left.2.2.1 p (sampleRun.2.1.tree.named p hp) hp

theorem sampleRun_placed : sampleRun.2.1.tree.resolve [str "out"] = some [str "out"] :=
  sampleRun_resolve sampleRun_left.2.2.2.1

/-- The descriptor of the run is one of a run that is completed. -/
theorem sampleDescriptor_loaded : ∃ descriptor, loadJson sampleDescriptor = .ok descriptor
    ∧ (∃ checked, checkDescriptor sampleHost descriptor = .ok checked)
    ∧ equalsStr (field descriptor "state") (str "completed") = true
    ∧ equalsStr (field descriptor "state") (str "failed") = false := by
  have hloaded : ((loadJson sampleDescriptor).toOption.any fun descriptor =>
      (checkDescriptor sampleHost descriptor).isOk
        && equalsStr (field descriptor "state") (str "completed")
        && !equalsStr (field descriptor "state") (str "failed")) = true := by decide +kernel
  cases hload : loadJson sampleDescriptor with
  | error e => rw [hload] at hloaded; cases hloaded
  | ok descriptor =>
    rw [hload] at hloaded
    simp only [Except.toOption, Option.any_some, Bool.and_eq_true, Bool.not_eq_true'] at hloaded
    obtain ⟨⟨hchecked, hcompleted⟩, hfailed⟩ := hloaded
    refine ⟨descriptor, rfl, ?_, hcompleted, hfailed⟩
    cases hcheck : checkDescriptor sampleHost descriptor with
    | error e => rw [hcheck] at hchecked; cases hchecked
    | ok checked => exact ⟨checked, rfl⟩

theorem sampleRun_start (p : Path) (hp : [str "out"] <+: p) (hsome : (sampleTree.entry p).isSome) :
    (sampleTree.entry [str "out"]).isSome := by
  rw [sampleRun_absent p hp] at hsome
  cases hsome

/-- **Collecting is safe.** However operations fail, wherever the process is killed and whatever
others do outside the output: the call changes nothing outside it, and nothing at all when it was
there before; and when the output was not there, from the end of the call on as long as it is left
alone, `inspect_run` takes it for a finished run only if it is a complete copy of two runs that were
both marked complete. -/
theorem collect_crash_safe {ι : Type} [Bystander ι] (haloof : Aloof ι output) {start : FileTree}
    (hstart : ∀ p, output <+: p → (start.entry p).isSome → (start.entry output).isSome)
    (floatEq : List Char → List Char → Bool) {script rest : List ι}
    {outcome : Outcome ExperimentError Unit} {final : Collecting}
    (hrun : collectResults host floatEq receiver sender output script (.start start)
      = (outcome, final, rest)) :
    (∀ c ∈ final.changes, ∀ p, ¬output <+: p → c.2.entry p = c.1.entry p)
      ∧ ((start.entry output).isSome →
        outcome ≠ .returned () ∧ ∀ c ∈ final.changes, c.2 = c.1)
      ∧ (start.entry output = none → ∀ later : FileTree,
        (∀ p, output <+: p → later.entry p = final.tree.entry p) →
        ∀ analyse, (inspectRun host analyse later output).isDone = true →
          CompleteCopy host receiver sender output final) := by
  have hspec := @collectResults_spec host receiver sender output ι _ haloof start hstart floatEq
    script
  rw [hrun] at hspec
  have hending : Ending host receiver sender output start final := by
    cases outcome with
    | returned _ => exact hspec.2.1
    | raised e => exact hspec
    | killed => exact hspec
  refine ⟨?_, fun hsome => ⟨?_, ?_⟩, fun hnone later hlater analyse hdone => ?_⟩
  · cases hending with
    | untouched hunchanged _ => exact fun c hc p _ => by rw [hunchanged c hc]
    | unfinished _ h => exact h.inside
    | finished _ _ _ h _ => exact h.inside
  · rintro rfl
    rw [hspec.1] at hsome
    cases hsome
  · cases hending with
    | untouched hunchanged _ => exact hunchanged
    | unfinished habsent _ => rw [habsent] at hsome; cases hsome
    | finished habsent _ _ _ _ => rw [habsent] at hsome; cases hsome
  · have hmark := (of_isDone hdone).1
    have hbelow : output <+: completeMark output := List.prefix_append _ _
    have hentry := hlater _ hbelow
    cases hending with
    | untouched _ hsame =>
      have hgone : later.entry (completeMark output) = none := by
        rw [hentry, hsame _ hbelow]
        exact absent_below hstart hnone hbelow
      rw [FileSystem.isFile_eq_false_of_none hgone] at hmark
      cases hmark
    | unfinished _ h =>
      rcases (h.absent _ List.mem_cons_self).2 with hgone | hdir
      · rw [FileSystem.isFile_eq_false_of_none (hentry.trans hgone)] at hmark
        cases hmark
      · rw [FileSystem.isFile, FileSystem.follow_of_directory (hentry.trans hdir)] at hmark
        cases hmark
    | finished _ hcompleted hchosen h hcopied =>
      exact ⟨_, hcompleted, hchosen.mono h.onward, hcopied.recorded h⟩

/-- The call returns, its directory is taken for a finished run, and it is a complete copy. -/
theorem collect_crash_safe_sample : sampleRun.1 = .returned ()
    ∧ (inspectRun sampleHost (fun _ _ _ => .ok ()) sampleRun.2.1.tree [str "out"]).isDone = true
    ∧ CompleteCopy sampleHost [str "rx"] [str "tx"] [str "out"] sampleRun.2.1 := by
  have hverified : verifyCollection sampleHost sampleRun.2.1.tree [str "out"] = .ok () :=
    verifyCollection_of_returned (aloof_decision _) sampleRun_start sampleRun_returned
      sampleRun_named sampleRun_placed fun _ => sampleRun_resolve
  have hdone : (inspectRun sampleHost (fun _ _ _ => .ok ()) sampleRun.2.1.tree [str "out"]).isDone
      = true := by
    obtain ⟨descriptor, hload, hcheck, hcompleted, hrunning⟩ := sampleDescriptor_loaded
    exact isDone_of_completed rfl hverified sampleRun_placed sampleRun_left.2.2.2.2 hload hcheck
      hcompleted hrunning
  obtain ⟨-, -, hsafe⟩ := collect_crash_safe (aloof_decision [str "out"]) sampleRun_start _
    sampleRun_returned
  exact ⟨by rw [sampleRun_returned], hdone,
    hsafe (sampleRun_absent _ List.prefix_rfl) _ (fun _ _ => rfl) _ hdone⟩

/-- **A collection is accepted just when it is intact.** After a call that returns, as long as the
list is left alone, `verify_collection` accepts the directory if it is not behind a link and every
artifact is as it was copied, and only then; no other directory counts as a finished run. -/
theorem collection_verified_iff {ι : Type} [Bystander ι] (haloof : Aloof ι output)
    {start : FileTree}
    (hstart : ∀ p, output <+: p → (start.entry p).isSome → (start.entry output).isSome)
    (floatEq : List Char → List Char → Bool) {script rest : List ι} {final : Collecting}
    (hrun : collectResults host floatEq receiver sender output script (.start start)
      = (.returned (), final, rest))
    (hnamed : ∀ tree, final.Seen tree → WellNamed tree) :
    ∃ (selection : Selection) (copies : List Copy), Chosen host receiver sender selection final
      ∧ selection.files = copies.map (fun c => (c.source, c.target))
      ∧ (∀ c ∈ copies, final.tree.entry (output ++ c.target) = some (.file c.content)
        ∧ (c.source, c.content) ∈ final.found)
      ∧ ∀ later : FileTree, later.entry (output ++ [str "collection.json"])
          = final.tree.entry (output ++ [str "collection.json"]) →
        (verifyCollection host later output = .ok ()
            ↔ later.resolve output = some output ∧ ∀ c ∈ copies, Intact host later output c)
          ∧ ∀ analyse, (inspectRun host analyse later output).isDone = true →
            later.resolve output = some output ∧ ∀ c ∈ copies, Intact host later output c := by
  have hspec := @collectResults_spec host receiver sender output ι _ haloof start hstart floatEq
    script
  rw [hrun] at hspec
  obtain ⟨-, -, selection, hchosen, copies, text, hfiles, hcopies, htext, hlist⟩ := hspec
  refine ⟨selection, copies, hchosen, hfiles, hcopies, fun later hlater => ?_⟩
  have hverified := hchosen.verifyCollection_eq_ok hnamed hfiles htext (hlater.trans hlist)
  exact ⟨hverified, fun analyse hdone => hverified.mp (of_isDone hdone).2⟩

/-- A collection that is left as it is. -/
theorem collection_verified_sample : sampleRun.1 = .returned ()
    ∧ verifyCollection sampleHost sampleRun.2.1.tree [str "out"] = .ok () := by
  obtain ⟨-, copies, -, -, hcopies, hverified⟩ := collection_verified_iff
    (aloof_decision [str "out"]) sampleRun_start _ sampleRun_returned sampleRun_named
  refine ⟨by rw [sampleRun_returned], (hverified _ rfl).1.mpr
    ⟨sampleRun_placed, fun c hc => ?_⟩⟩
  have hfile := (hcopies c hc).1
  exact intact_of_file (sampleRun_resolve (Option.isSome_of_eq_some hfile)) hfile

end Verify

end AceXdp.Collect
