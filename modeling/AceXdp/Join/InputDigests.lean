import AceXdp.Join.AnalyzeFiles
import AceXdp.Join.FullJoin
import AceXdp.Join.OutputSafety

/-!
# AceXdp — the digests of what was joined

* `Held pending s`: unless others have interfered, a file that has been read for the join and is not
  recorded yet still holds what was found;
* `readInputs_spec`, `inputArtifactSnapshot_spec`: the first reading fills the queue, the second one
  empties it from the front;
* `recorded_digests_bind`: without interference between its two readings, every input is recorded
  with the size and the digest of the bytes that were joined;
* `ReplacedInput.replaced_input_recorded`: a file that is replaced between them is recorded as it is
  afterwards.
-/

namespace AceXdp

open Disk Fault Fault.Prog Json

variable {ι α β : Type} {s s' s'' : AnalysisState}

/-! ## Runs that return

A call that raises has promised nothing; `Returns` speaks of the others. -/

/-- `P` holds wherever a run of `m` from `s` returns. -/
def Returns (m : Analyzing ι α) (P : α → AnalysisState → Prop) (s : AnalysisState) : Prop :=
  wp m ⟨P, fun _ _ => True, fun _ => True⟩ s

theorem Returns.mono {m : Analyzing ι α} {P Q : α → AnalysisState → Prop} (h : Returns m P s)
    (hPQ : ∀ a s, P a s → Q a s) : Returns m Q s :=
  wp_mono h hPQ (fun _ _ => id) fun _ => id

theorem Returns.bind {m : Analyzing ι α} {f : α → Analyzing ι β} {P : α → AnalysisState → Prop}
    {Q : β → AnalysisState → Prop} (hm : Returns m P s) (hf : ∀ a s, P a s → Returns (f a) Q s) :
    Returns (m >>= f) Q s :=
  wp_bind (hm.mono hf)

theorem Returns.pure {a : α} {P : α → AnalysisState → Prop} (h : P a s) :
    Returns (Pure.pure a : Analyzing ι α) P s :=
  wp_pure h

theorem returns_raise (e : MainError) (P : α → AnalysisState → Prop) :
    Returns (raise e : Analyzing ι α) P s :=
  wp_raise trivial

theorem returns_accept (result : Except AnalyzeError α) :
    Returns (accept result : Analyzing ι α) (fun a s' => s' = s ∧ result = .ok a) s := by
  unfold accept
  cases result with
  | ok a => exact Returns.pure ⟨rfl, rfl⟩
  | error e => exact returns_raise _ _

theorem returns_decodeText (bytes : Bytes) :
    Returns (decodeText bytes : Analyzing ι TextFile) (fun file s' => s' = s ∧ file.bytes = bytes)
      s := by
  unfold decodeText
  split
  · exact Returns.pure ⟨rfl, rfl⟩
  · exact returns_raise _ _

variable [Adversary ι]

theorem returns_fileOperation {f : ι → AnalysisState → Outcome MainError α × AnalysisState}
    {P : α → AnalysisState → Prop}
    (h : ∀ i disk a s', f i (s.elapse disk) = (.returned a, s') → P a s') :
    Returns (fileOperation f) P s := by
  refine wp_op fun i => ?_
  cases Adversary.decision i with
  | proceed _ =>
    dsimp only
    have hrun := h i (Adversary.interfere i s.disk)
    generalize f i (s.elapse (Adversary.interfere i s.disk)) = result at hrun
    obtain ⟨outcome, s'⟩ := result
    cases outcome with
    | returned a => exact hrun a s' rfl
    | raised e => trivial
    | killed => trivial
  | fail _ _ => trivial
  | kill _ _ => trivial

/-! ## What the files hold

A content that was read is the content of the file as long as nobody has replaced it. `disturbed`
notes when somebody has, between the reading of a file and its record. -/

/-- What has been disturbed stays disturbed. -/
def Later (s s' : AnalysisState) : Prop := s'.disturbed = false → s.disturbed = false

theorem Later.trans (h : Later s s') (h' : Later s' s'') : Later s s'' := fun hs => h (h' hs)

/-- The files that have been read for the join and are not recorded yet, with what was found. -/
structure Held (pending : List (Path × Bytes)) (s : AnalysisState) : Prop where
  queue : s.unrecorded = pending.map Prod.fst
  content : s.disturbed = false → ∀ p ∈ pending, s.disk.read p.1 = some p.2

variable {pending : List (Path × Bytes)} {path : Path} {content : Bytes} {disk : FileSystem}

theorem held_nil (disk : FileSystem) : Held [] (.start disk) := ⟨rfl, fun _ _ h => by cases h⟩

theorem elapse_undisturbed (h : (s.elapse disk).disturbed = false) :
    s.disturbed = false ∧ ∀ path ∈ s.unrecorded, disk.read path = s.disk.read path := by
  simpa [AnalysisState.elapse] using h

theorem later_elapse (s : AnalysisState) (disk : FileSystem) : Later s (s.elapse disk) :=
  fun h => (elapse_undisturbed h).1

theorem Held.elapse (h : Held pending s) (disk : FileSystem) : Held pending (s.elapse disk) := by
  refine ⟨h.queue, fun hs p hp => ?_⟩
  obtain ⟨hbefore, hsame⟩ := elapse_undisturbed hs
  have hmem : p.1 ∈ s.unrecorded := by
    rw [h.queue]
    exact List.mem_map_of_mem hp
  exact (hsame p.1 hmem).trans (h.content hbefore p hp)

theorem found_undisturbed (h : (s.found path content disk).disturbed = false) :
    (s.elapse disk).disturbed = false
      ∧ (path ∈ s.unrecorded → s.disk.read path = some content) := by
  simpa [AnalysisState.found] using h

theorem later_found (s : AnalysisState) (path : Path) (content : Bytes) (disk : FileSystem) :
    Later s (s.found path content disk) :=
  fun h => later_elapse s disk (found_undisturbed h).1

theorem Held.found (h : Held pending s) (path : Path) (content : Bytes) (disk : FileSystem) :
    Held pending (s.found path content disk) :=
  ⟨h.queue, fun hs => (h.elapse disk).content (found_undisturbed hs).1⟩

/-- The file that is read joins the queue. -/
theorem Held.watch_found (h : Held pending s) (path : Path) (content : Bytes) (disk : FileSystem) :
    Held (pending ++ [(path, content)]) ((s.watch path).found path content disk) := by
  have hqueue : (s.watch path).unrecorded = (pending ++ [(path, content)]).map Prod.fst := by
    simp [AnalysisState.watch, h.queue]
  refine ⟨hqueue, fun hs p hp => ?_⟩
  obtain ⟨helapse, hfound⟩ := found_undisturbed hs
  obtain ⟨hbefore, hsame⟩ := elapse_undisturbed helapse
  have hmem : p.1 ∈ (s.watch path).unrecorded := by
    rw [hqueue]
    exact List.mem_map_of_mem hp
  refine (hsame p.1 hmem).trans ?_
  rcases List.mem_append.mp hp with hp | hp
  · exact h.content hbefore p hp
  · obtain rfl := List.mem_singleton.mp hp
    exact hfound hmem

/-! ## The first reading

Every input is read once for the join. Its content waits in a queue until its digest is taken. -/

theorem readInput_spec (h : Held pending s) (path : Path) :
    Returns (readInput path : Analyzing ι Bytes)
      (fun content s' => Held (pending ++ [(path, content)]) s') s := by
  refine returns_fileOperation fun i disk content s' hrun => ?_
  unfold readWhole at hrun
  split at hrun
  · obtain ⟨hcontent, rfl⟩ := Prod.mk.inj hrun
    obtain rfl := Outcome.returned.inj hcontent
    exact (h.elapse disk).watch_found path _ _
  · cases hrun

theorem readCsv_spec (h : Held pending s) (required : List Text) (path : Path) :
    Returns (readCsv required path : Analyzing ι TextFile)
      (fun file s' => Held (pending ++ [(path, file.bytes)]) s') s := by
  refine (readInput_spec h path).bind fun bytes s₁ h₁ => ?_
  refine (returns_decodeText bytes).bind ?_
  rintro file _ ⟨rfl, rfl⟩
  refine (returns_accept _).bind ?_
  rintro _ _ ⟨rfl, -⟩
  exact Returns.pure h₁

/-- As many contents as paths, and the queue is longer by them. -/
def Queued (pending : List (Path × Bytes)) (paths : List Path) (contents : List Bytes)
    (s : AnalysisState) : Prop :=
  paths.length = contents.length ∧ Held (pending ++ paths.zip contents) s

theorem readOptional_spec (h : Held pending s) (required : List Text) (path : Option Path) :
    Returns (readOptional required path : Analyzing ι (Option TextFile))
      (fun file s' => Queued pending (InputPath.ofOption path).paths
        (file.toList.map TextFile.bytes) s') s := by
  cases path with
  | none => exact Returns.pure ⟨rfl, by simpa [InputPath.ofOption, InputPath.paths] using h⟩
  | some path =>
    exact (readCsv_spec h required path).bind fun file s₁ h₁ => Returns.pure ⟨rfl, h₁⟩

theorem readUdpFiles_spec (paths : List Path) :
    ∀ {pending s} (merged : SourceTable), Held pending s →
      Returns (readUdpFiles merged paths : Analyzing ι (List Bytes))
        (fun contents s' => Queued pending paths contents s') s := by
  induction paths with
  | nil =>
    intro pending s merged h
    exact Returns.pure ⟨rfl, by simpa using h⟩
  | cons path rest ih =>
    intro pending s merged h
    refine (readInput_spec h path).bind fun content s₁ h₁ => ?_
    refine (returns_accept _).bind ?_
    rintro merged' _ ⟨rfl, -⟩
    refine (ih merged' h₁).bind fun more s₂ h₂ => Returns.pure ⟨?_, ?_⟩
    · simp [h₂.1]
    · simpa using h₂.2

theorem readUdpSources_spec (h : Held pending s) (udpNative : InputPath) :
    Returns (readUdpSources udpNative : Analyzing ι (Option (List Bytes)))
      (fun files s' => Queued pending udpNative.paths (files.getD []) s') s := by
  unfold readUdpSources
  split
  case isTrue habsent =>
    subst habsent
    exact Returns.pure ⟨rfl, by simpa [InputPath.paths] using h⟩
  case isFalse =>
    exact (readUdpFiles_spec _ _ h).bind fun files s₁ h₁ => Returns.pure h₁

theorem readCalibrations_spec (paths : List Path) :
    ∀ {pending s}, Held pending s →
      Returns (readCalibrations paths : Analyzing ι (List (Path × TextFile)))
        (fun files s' => Queued pending paths (files.map fun c => c.2.bytes) s') s := by
  induction paths with
  | nil =>
    intro pending s h
    exact Returns.pure ⟨rfl, by simpa using h⟩
  | cons path rest ih =>
    intro pending s h
    refine (readInput_spec h path).bind fun bytes s₁ h₁ => ?_
    refine (returns_decodeText bytes).bind ?_
    rintro file _ ⟨rfl, rfl⟩
    refine (returns_accept _).bind ?_
    rintro _ _ ⟨rfl, -⟩
    refine (ih h₁).bind fun more s₂ h₂ => Returns.pure ⟨?_, ?_⟩
    · simpa using h₂.1
    · simpa using h₂.2

/-- The inputs that are joined, with what was found in them. -/
def queueOf (items : List (String × InputPath)) (contents : List (List Bytes)) :
    List (Path × Bytes) :=
  (List.zipWith (fun item files => item.2.paths.zip files) items contents).flatten

/-- Each input has as many contents as paths. -/
def Complete (items : List (String × InputPath)) (contents : List (List Bytes)) : Prop :=
  List.Forall₂ (fun item files => item.2.paths.length = files.length) items contents

/-- **The first reading** fills the queue. -/
theorem readInputs_spec (h : Held [] s) (args : Arguments) :
    Returns (readInputs args : Analyzing ι InputFiles)
      (fun files s' => Complete args.joined files.contents
        ∧ Held (queueOf args.joined files.contents) s') s := by
  refine (readCsv_spec h _ _).bind fun ingress s₁ h₁ => ?_
  refine (readOptional_spec h₁ _ _).bind fun cpumap s₂ h₂ => ?_
  refine (readOptional_spec h₂.2 _ _).bind fun afxdp s₃ h₃ => ?_
  refine (readUdpSources_spec h₃.2 _).bind fun udpNative s₄ h₄ => ?_
  refine (readCalibrations_spec _ h₄.2).bind fun phcCalibration s₅ h₅ => ?_
  refine Returns.pure ⟨?_, ?_⟩
  · exact .cons rfl (.cons h₂.1 (.cons h₃.1 (.cons h₄.1 (.cons h₅.1 .nil))))
  · simpa [queueOf, Arguments.joined, InputFiles.contents, InputPath.paths] using h₅.2

/-! ## The second reading

The digests are of a second reading. In an undisturbed run it finds what the first one found. -/

section Digests

variable (host : Host)

/-- The digest of a file that is in the queue is that of what was joined. -/
theorem inputDigest_spec (h : Held pending s) (path : Path) :
    Returns (inputDigest host path : Analyzing ι Digest)
      (fun digest s' => Held pending s' ∧ Later s s' ∧ (s'.disturbed = false →
        ∀ content, (path, content) ∈ pending → digest = digestOf host content)) s := by
  refine Returns.bind (P := fun content s₁ => Held pending s₁ ∧ Later s s₁
    ∧ (s₁.disturbed = false → ∀ joined, (path, joined) ∈ pending → content = joined)) ?_ ?_
  · refine returns_fileOperation fun i disk content s₁ hrun => ?_
    unfold readWhole at hrun
    split at hrun
    · obtain ⟨hcontent, rfl⟩ := Prod.mk.inj hrun
      obtain rfl := Outcome.returned.inj hcontent
      refine ⟨(h.elapse disk).found _ _ _, (later_elapse s disk).trans (later_found _ _ _ _), ?_⟩
      intro hs joined hjoined
      obtain ⟨helapse, hfound⟩ := found_undisturbed hs
      have hmem : path ∈ (s.elapse disk).unrecorded := by
        rw [(h.elapse disk).queue]
        exact List.mem_map_of_mem hjoined
      have hheld := (h.elapse disk).content (elapse_undisturbed helapse).1 _ hjoined
      exact Option.some.inj ((hfound hmem).symm.trans hheld)
    · cases hrun
  · rintro content s₁ ⟨h₁, hlater₁, hcontent⟩
    refine Returns.bind (P := fun size s₂ => Held pending s₂ ∧ Later s₁ s₂
      ∧ (s₂.disturbed = false → ∀ joined, (path, joined) ∈ pending → size = joined.length)) ?_ ?_
    · refine returns_fileOperation fun i disk size s₂ hrun => ?_
      split at hrun
      · rename_i now hnow
        obtain ⟨hsize, rfl⟩ := Prod.mk.inj hrun
        obtain rfl := Outcome.returned.inj hsize
        refine ⟨h₁.elapse disk, later_elapse s₁ disk, fun hs joined hjoined => ?_⟩
        have hheld := (h₁.elapse disk).content hs _ hjoined
        rw [Option.some.inj (hnow.symm.trans hheld)]
      · cases hrun
    · rintro size s₂ ⟨h₂, hlater₂, hsize⟩
      refine Returns.pure ⟨h₂, hlater₁.trans hlater₂, fun hs joined hjoined => ?_⟩
      rw [hsize hs joined hjoined, hcontent (hlater₂ hs) joined hjoined]
      rfl

/-- The record of a file with what was joined. -/
def boundSpec (path : Path) (content : Bytes) : Value := outputRecord path (digestOf host content)

def boundArtifact : InputPath → List Bytes → Value
  | .one path, [content] => boundSpec host path content
  | .many paths, contents => .arr (List.zipWith (boundSpec host) paths contents)
  | _, _ => .null

theorem joinedSpec_spec (h : Held ((path, content) :: pending) s) :
    Returns (joinedSpec host path : Analyzing ι Value)
      (fun spec s' => Held pending s' ∧ Later s s'
        ∧ (s'.disturbed = false → spec = boundSpec host path content)) s := by
  have hdigest := inputDigest_spec (ι := ι) host h path
  refine Returns.bind (P := fun spec s₁ => Held ((path, content) :: pending) s₁ ∧ Later s s₁
    ∧ (s₁.disturbed = false → spec = boundSpec host path content)) ?_ ?_
  · refine hdigest.bind ?_
    rintro digest s₁ ⟨h₁, hlater, hbound⟩
    refine Returns.pure ⟨h₁, hlater, fun hs => ?_⟩
    rw [hbound hs content List.mem_cons_self]
    rfl
  · rintro spec s₁ ⟨h₁, hlater, hbound⟩
    refine wp_bind (wp_modify (Returns.pure (ι := ι) ⟨⟨?_, ?_⟩, hlater, hbound⟩))
    · simp [h₁.queue]
    · exact fun hs p hp => h₁.content hs p (List.mem_cons_of_mem _ hp)

theorem joinedSpecs_spec (paths : List Path) :
    ∀ {contents : List Bytes} {s}, paths.length = contents.length →
      Held (paths.zip contents ++ pending) s →
      Returns (joinedSpecs host paths : Analyzing ι (List Value))
        (fun specs s' => Held pending s' ∧ Later s s'
          ∧ (s'.disturbed = false → specs = List.zipWith (boundSpec host) paths contents)) s := by
  induction paths with
  | nil =>
    intro contents s hlength h
    exact Returns.pure ⟨h, id, fun _ => rfl⟩
  | cons path rest ih =>
    intro contents s hlength h
    obtain ⟨content, contents, rfl⟩ := List.exists_cons_of_length_eq_add_one hlength.symm
    refine (joinedSpec_spec host h).bind ?_
    rintro spec s₁ ⟨h₁, hlater₁, hspec⟩
    refine (ih (by simpa using hlength) h₁).bind ?_
    rintro more s₂ ⟨h₂, hlater₂, hmore⟩
    refine Returns.pure ⟨h₂, hlater₁.trans hlater₂, fun hs => ?_⟩
    rw [hspec (hlater₂ hs), hmore hs]
    rfl

theorem joinedArtifact_spec (paths : InputPath) {contents : List Bytes}
    (hlength : paths.paths.length = contents.length)
    (h : Held (paths.paths.zip contents ++ pending) s) :
    Returns (joinedArtifact host paths : Analyzing ι Value)
      (fun value s' => Held pending s' ∧ Later s s'
        ∧ (s'.disturbed = false → value = boundArtifact host paths contents)) s := by
  cases paths with
  | absent => exact Returns.pure ⟨h, id, fun _ => rfl⟩
  | one path =>
    obtain ⟨content, rfl⟩ := List.length_eq_one_iff.mp hlength.symm
    exact joinedSpec_spec host h
  | many paths =>
    refine (joinedSpecs_spec host paths hlength h).bind ?_
    rintro specs s₁ ⟨h₁, hlater, hspecs⟩
    refine Returns.pure ⟨h₁, hlater, fun hs => ?_⟩
    rw [hspecs hs]
    rfl

/-- What `input_artifacts` says of the joined inputs. -/
def boundArtifacts (items : List (String × InputPath)) (contents : List (List Bytes)) :
    List (Str × Value) :=
  List.zipWith (fun item files => (str item.1, boundArtifact host item.2 files)) items contents

theorem joinedArtifacts_spec {items : List (String × InputPath)} {contents : List (List Bytes)}
    (hcomplete : Complete items contents) :
    ∀ {s}, Held (queueOf items contents) s →
      Returns (joinedArtifacts host items : Analyzing ι (List (Str × Value)))
        (fun joined s' => s'.disturbed = false → joined = boundArtifacts host items contents)
        s := by
  suffices hall : ∀ {s}, Held (queueOf items contents) s →
      Returns (joinedArtifacts host items : Analyzing ι (List (Str × Value)))
        (fun joined s' => Later s s'
          ∧ (s'.disturbed = false → joined = boundArtifacts host items contents)) s from
    fun {_} hheld => (hall hheld).mono fun _ _ hend => hend.2
  induction hcomplete with
  | nil => exact fun _ => Returns.pure ⟨id, fun _ => rfl⟩
  | @cons item files items contents hlength _ ih =>
    intro s h
    refine (joinedArtifact_spec host item.2 hlength h).bind ?_
    rintro value s₁ ⟨h₁, hlater₁, hvalue⟩
    refine (ih h₁).bind ?_
    rintro more s₂ ⟨hlater₂, hmore⟩
    refine Returns.pure ⟨hlater₁.trans hlater₂, fun hs => ?_⟩
    rw [hvalue (hlater₂ hs), hmore hs]
    rfl

/-- **The second reading** empties the queue. -/
theorem inputArtifactSnapshot_spec {args : Arguments} {contents : List (List Bytes)}
    (hcomplete : Complete args.joined contents) (h : Held (queueOf args.joined contents) s) :
    Returns (inputArtifactSnapshot host args : Analyzing ι (List (Str × Value)))
      (fun snapshot s' => s'.disturbed = false → ∃ manifest,
        snapshot = (str "manifest", manifest) :: boundArtifacts host args.joined contents) s := by
  refine Returns.bind (P := fun _ s₁ => Held (queueOf args.joined contents) s₁) ?_ ?_
  · exact (inputDigest_spec host h _).bind fun digest s₁ h₁ => Returns.pure h₁.1
  · intro manifest s₁ h₁
    refine (joinedArtifacts_spec host hcomplete h₁).bind fun joined s₂ hjoined => ?_
    exact Returns.pure fun hs => ⟨manifest, by rw [hjoined hs]⟩

/-! ## The whole run

The recorded digests are of the joined bytes, in every run in which nobody interferes between the
two readings. -/

variable (round : ℚ → ℚ) (repr : ℚ → List Char) (args : Arguments)

/-- The rows are those of the files that were read, and `input_artifacts` records these bytes. -/
structure Bound (result : Analyzed) : Prop where
  rows : analyze (result.files.input args.allowEndpointClamp) = .ok result.analysis
  artifacts : ∃ manifest, field result.summary "input_artifacts"
    = some (.obj ((str "manifest", manifest)
      :: boundArtifacts host args.joined result.files.contents))

theorem analyzeFiles_spec (h : Held [] s) :
    Returns (analyzeFiles host round repr args : Analyzing ι Analyzed)
      (fun result s' => s'.disturbed = false → Bound host args result) s := by
  refine (readInputs_spec h args).bind ?_
  rintro files s₁ ⟨hcomplete, h₁⟩
  refine (returns_accept _).bind ?_
  rintro analysis _ ⟨rfl, hanalysis⟩
  refine (returns_accept _).bind ?_
  rintro calibration _ ⟨rfl, -⟩
  refine (inputArtifactSnapshot_spec host hcomplete h₁).bind fun snapshot s₂ hsnapshot => ?_
  refine Returns.pure fun hs => ⟨hanalysis, ?_⟩
  obtain ⟨manifest, rfl⟩ := hsnapshot hs
  exact ⟨manifest, BuildSummary.artifacts⟩

omit [Adversary ι] in
theorem returns_onDisk (m : Writing ι α) :
    Returns (onDisk m) (fun _ s' => s'.disturbed = s.disturbed) s := by
  intro script
  unfold onDisk
  split <;> trivial

/-- **The recorded digests are those of the joined bytes** in every run in which others leave each
input alone from the start of its first reading to the end of its second one. -/
theorem recorded_digests_bind (disk : FileSystem) (script : List ι) :
    match joinResults host round repr args script (.start disk) with
    | (.returned result, s, _) => s.disturbed = false → Bound host args result
    | _ => True := by
  have hrun : Returns (joinResults host round repr args : Analyzing ι Analyzed)
      (fun result s => s.disturbed = false → Bound host args result) (.start disk) := by
    refine (analyzeFiles_spec host round repr args (held_nil disk)).bind fun result s₁ h₁ => ?_
    refine (returns_onDisk _).bind fun _ s₂ h₂ => ?_
    exact Returns.pure fun hs => h₁ (h₂ ▸ hs)
  have hend := hrun script
  generalize joinResults host round repr args script (.start disk) = result at hend
  obtain ⟨outcome, s, rest⟩ := result
  cases outcome with
  | returned result => exact hend
  | raised e => trivial
  | killed => trivial

end Digests

/-! ## A replaced input

The capture is replaced in between. The join has the old rows, the record has the new digest, and
nothing notices. -/

/-- How an operation ends, what others have done when it starts, what a reading finds that they
disturb, and what they have done when it is over. -/
structure Meddling where
  decision : Decision
  before : FileSystem → FileSystem
  torn : Option Bytes
  during : FileSystem → FileSystem

instance : Adversary Meddling where
  default := ⟨.proceed 0, id, none, id⟩
  decision := Meddling.decision
  interfere := Meddling.before
  reading m disk path := (m.torn.or (disk.read path), m.during disk)

/-! ### Undisturbed operations -/

section Undisturbed

variable {host : Host} {text : Text}

theorem elapse_same (s : AnalysisState) : s.elapse s.disk = s := by
  obtain ⟨disk, unrecorded, disturbed⟩ := s
  simp [AnalysisState.elapse]

theorem readInput_default {script : List Meddling} (hscript : script.headD default = default)
    (h : s.disk.read path = some content) :
    readInput path script s = (.returned content, s.watch path, script.tail) := by
  rw [readInput, fileOperation, op_apply, hscript]
  simp [Adversary.decision, Adversary.interfere, Adversary.reading, readWhole, default, h,
    AnalysisState.elapse, AnalysisState.watch, AnalysisState.found]

omit [Adversary ι] in
theorem decodeText_encode (text : Text) :
    (decodeText (encode text) : Analyzing ι TextFile)
      = pure ⟨encode text, text, decode_encode text⟩ := by
  unfold decodeText
  split
  · rename_i decoded h
    obtain rfl := Option.some.inj ((decode_encode text).symm.trans h)
    rfl
  · rename_i h
    cases (decode_encode text).symm.trans h

theorem readCsv_of_readInput {required : List Text} {table : SourceTable} {script script' : List ι}
    (hread : readInput path script s = (.returned (encode text), s', script'))
    (hload : loadCsvTable text required = .ok table) :
    readCsv required path script s
      = (.returned ⟨encode text, text, decode_encode text⟩, s', script') := by
  rw [readCsv, bind_of_returned hread, decodeText_encode, bind_of_returned (m := pure _) rfl, hload]
  rfl

theorem readCalibrations_of_readInput {loaded : CalibrationFile × List CalibrationPoint}
    {script script' : List ι}
    (hread : readInput path script s = (.returned (encode text), s', script'))
    (hload : loadCalibrationFile ⟨path, some text⟩ = .ok loaded) :
    readCalibrations [path] script s
      = (.returned [(path, ⟨encode text, text, decode_encode text⟩)], s', script') := by
  rw [readCalibrations, bind_of_returned hread, decodeText_encode,
    bind_of_returned (m := pure _) rfl, hload]
  rfl

theorem inputDigest_default (h : s.disk.read path = some content) :
    inputDigest (ι := Meddling) host path [] s = (.returned (digestOf host content), s, []) := by
  have hread : fileOperation (ι := Meddling) (fun i s => readWhole .osError path i s) [] s
      = (.returned content, s, []) := by
    rw [fileOperation, op_apply]
    simp [Adversary.decision, Adversary.interfere, Adversary.reading, readWhole, default, h,
      elapse_same, AnalysisState.found]
  unfold inputDigest
  refine (bind_of_returned hread).trans ?_
  -- what is left asks for the size of the file that has just been read
  refine bind_of_returned ?_
  rw [fileOperation, op_apply]
  simp [Adversary.decision, Adversary.interfere, default, h, elapse_same]

theorem joinedSpec_default (h : s.disk.read path = some content) :
    joinedSpec (ι := Meddling) host path [] s
      = (.returned (boundSpec host path content), { s with unrecorded := s.unrecorded.tail }, []) :=
  (bind_of_returned (bind_of_returned (inputDigest_default h))).trans rfl

theorem joinedArtifacts_absent {name : String} {items : List (String × InputPath)}
    {values : List (Str × Value)}
    (h : joinedArtifacts (ι := Meddling) host items [] s = (.returned values, s', [])) :
    joinedArtifacts (ι := Meddling) host ((name, .absent) :: items) [] s
      = (.returned ((str name, .null) :: values), s', []) :=
  (bind_of_returned (m := joinedArtifact host .absent) rfl).trans (bind_of_returned h)

/-- `write_outputs` finds the file as it was recorded. -/
theorem verifySpec_default {session : Session} {name : Str} {index : Option Nat}
    (htext : path.text ≠ []) (hpath : pathOfText host path.text = path)
    (h : session.disk.read path = some content) :
    verifySpec (ι := Meddling) host name index (boundSpec host path content) [] session
      = (.returned (), session, []) := by
  have hnodup : (["path", "bytes", "sha256"].map str).Nodup :=
    List.Nodup.map str_injective (by decide)
  have hdigest : fileDigest (ι := Meddling) host path [] session
      = (.returned (digestOf host content), session, []) := by
    have hread : readBytes (ι := Meddling) path [] session = (.returned content, session, []) := by
      simp [readBytes, attempt, operation, op_apply, Adversary.decision, Adversary.interfere,
        Adversary.reading, default, h]
    have hsize : fileSize (ι := Meddling) path [] session
        = (.returned content.length, session, []) := by
      simp [fileSize, attempt, operation, op_apply, Adversary.decision, Adversary.interfere,
        default, h]
    exact (bind_of_returned hread).trans (bind_of_returned hsize)
  have hfield : ∀ {key : String} {value : Value}, (str key, value) ∈
      [(str "path", Value.string path.text), (str "bytes", .int (digestOf host content).bytes),
        (str "sha256", .string (digestOf host content).sha256)] →
      field [(str "path", .string path.text), (str "bytes", .int (digestOf host content).bytes),
        (str "sha256", .string (digestOf host content).sha256)] key = some value :=
    fun hmem => field_of_mem hnodup hmem
  unfold verifySpec boundSpec outputRecord
  dsimp only
  rw [hfield (.head _)]
  dsimp only
  rw [if_neg htext, hpath]
  refine (bind_of_returned hdigest).trans ?_
  rw [hfield (.tail _ (.head _)), hfield (.tail _ (.tail _ (.head _)))]
  simp [equalsInt, equalsStr]
  rfl

end Undisturbed

/-! ### The run -/

namespace ReplacedInput

/-- A capture at the ingress without packets. -/
@[irreducible]
def headerText : Text :=
  "flow_id,sequence,rx_queue,hw_rx_ns,initial_xdp_ns,flags,requested_path,timestamp_error\n".toList

@[irreducible]
def captureText : Text :=
  ("iteration,sample,system_before_ns,phc_ns,system_after_ns,span_ns,offset_ns,selected\n"
    ++ "0,0,100,105,100,0,5,1\n").toList

/-- The capture with one packet in it. -/
@[irreducible]
def replacement : Bytes := encode headerText ++ encode "1,0,0,0,0,0,0,0\n".toList

theorem loadCsvTable_header : loadCsvTable headerText ingressRequired = .ok emptyTable := by
  decide +kernel

/-- A file under `/`. -/
def samplePath (name : Char) : Path := [[name.toNat]]

theorem loadCalibrationFile_capture : loadCalibrationFile ⟨samplePath 'p', some captureText⟩
    = .ok (⟨samplePath 'p', 1, 1⟩, [⟨100, 5⟩]) := by
  decide +kernel

def sampleArgs : Arguments where
  manifest := ⟨samplePath 'm', [], 1, str "run"⟩
  ingress := samplePath 'i'
  cpumap := none
  afxdp := none
  udpNative := .absent
  phcCalibration := [samplePath 'p']
  allowEndpointClamp := false
  outputCsv := samplePath 'c'
  summaryJson := samplePath 'j'
  completionMarker := samplePath 'k'

/-- A digest that tells any two files apart. -/
def sampleHost : Host := ⟨fun content => content.map UInt8.toNat, fun _ _ => false, []⟩

def sampleDisk (ingress : Bytes) : FileSystem := fun path =>
  if path = samplePath 'm' then some (.file [])
  else if path = samplePath 'i' then some (.file ingress)
  else if path = samplePath 'p' then some (.file (encode captureText))
  else none

theorem read_manifest (ingress : Bytes) : (sampleDisk ingress).read (samplePath 'm') = some [] :=
  FileSystem.read_file (by simp [sampleDisk])

theorem read_ingress (ingress : Bytes) :
    (sampleDisk ingress).read (samplePath 'i') = some ingress :=
  FileSystem.read_file (by simp [sampleDisk, samplePath])

theorem read_capture (ingress : Bytes) :
    (sampleDisk ingress).read (samplePath 'p') = some (encode captureText) :=
  FileSystem.read_file (by simp [sampleDisk, samplePath])

/-- The capture at the ingress is replaced before the calibration is read. -/
def replacing : List Meddling :=
  [default, { (default : Meddling) with before := fun _ => sampleDisk replacement }]

theorem length_replacement : (encode headerText).length < replacement.length := by
  unfold replacement
  rw [List.length_append]
  exact Nat.lt_add_of_pos_right (by decide +kernel)

def sampleFiles : InputFiles where
  ingress := ⟨encode headerText, headerText, decode_encode _⟩
  cpumap := none
  afxdp := none
  udpNative := none
  phcCalibration := [(samplePath 'p', ⟨encode captureText, captureText, decode_encode _⟩)]

theorem readInputs_sample :
    readInputs sampleArgs replacing (.start (sampleDisk (encode headerText)))
      = (.returned sampleFiles, ⟨sampleDisk replacement, [samplePath 'i', samplePath 'p'], true⟩,
        []) := by
  have hingress : readInput (samplePath 'i') replacing (.start (sampleDisk (encode headerText)))
      = (.returned (encode headerText), _, replacing.tail) :=
    readInput_default rfl (read_ingress _)
  have hcapture : readInput (samplePath 'p') replacing.tail
      ⟨sampleDisk (encode headerText), [samplePath 'i'], false⟩
      = (.returned (encode captureText),
        ⟨sampleDisk replacement, [samplePath 'i', samplePath 'p'], true⟩, []) := by
    have hchanged : replacement ≠ encode headerText :=
      fun h => absurd length_replacement (by rw [h]; exact Nat.lt_irrefl _)
    rw [readInput, fileOperation, op_apply]
    simp [replacing, Adversary.decision, Adversary.interfere, Adversary.reading, readWhole, default,
      AnalysisState.elapse, AnalysisState.watch, AnalysisState.found, read_capture, read_ingress,
      hchanged]
  unfold readInputs
  refine (bind_of_returned (readCsv_of_readInput hingress loadCsvTable_header)).trans ?_
  exact bind_of_returned (readCalibrations_of_readInput hcapture loadCalibrationFile_capture)

theorem analyze_sample :
    ∃ analysis c, analyze (sampleFiles.input false) = .ok analysis
      ∧ loadCalibration (sampleFiles.input false).phcCalibration = .ok c ∧ analysis.rows = [] := by
  have hcalibration : loadCalibration (sampleFiles.input false).phcCalibration
      = .ok ⟨[⟨100, 5⟩], [⟨samplePath 'p', 1, 1⟩], 1, 1, 0⟩ := by
    have hsort : sortByTime (sourcedPoints [(⟨samplePath 'p', 1, 1⟩, [⟨100, 5⟩])])
        = [(⟨100, 5⟩, samplePath 'p')] := by
      simp [sortByTime, sourcedPoints]
    have hloaded : (sampleFiles.input false).phcCalibration.mapM loadCalibrationFile
        = .ok [(⟨samplePath 'p', 1, 1⟩, [⟨100, 5⟩])] := by
      change (do
        let loaded ← loadCalibrationFile ⟨samplePath 'p', some captureText⟩
        return [loaded]) = _
      rw [loadCalibrationFile_capture]
      rfl
    unfold loadCalibration
    rw [if_neg (by simp [sampleFiles, InputFiles.input]), hloaded]
    change (mergeSelected [] 0 (sortByTime (sourcedPoints _)) >>= _) = _
    rw [hsort]
    rfl
  have htables : loadSources (sampleFiles.input false)
      = .ok ⟨emptyTable, emptyTable, emptyTable, emptyTable⟩ := by
    unfold loadSources
    rw [show (sampleFiles.input false).ingress = headerText from rfl, loadCsvTable_header]
    rfl
  cases hanalyze : analyze (sampleFiles.input false) with
  | ok analysis =>
    obtain ⟨t, c, ht, rfl⟩ := analyze_ok hanalyze
    obtain rfl := Except.ok.inj (ht.symm.trans htables)
    exact ⟨_, _, rfl, hcalibration,
      by simp [joinTables, SourceTables.sortedKeys, SourceTable.keys, emptyTable]⟩
  | error e =>
    rw [analyze, htables] at hanalyze
    simp only [bind, Except.bind] at hanalyze
    split at hanalyze
    · rename_i error herror
      cases hcalibration.symm.trans herror
    · cases hanalyze

/-- `input_artifacts` of the run. -/
def sampleArtifacts : List (Str × Value) :=
  [(str "manifest", boundSpec sampleHost (samplePath 'm') []),
    (str "ingress", boundSpec sampleHost (samplePath 'i') replacement),
    (str "cpumap", .null), (str "afxdp", .null), (str "udp_native", .null),
    (str "phc_calibration",
      .arr [boundSpec sampleHost (samplePath 'p') (encode captureText)])]

theorem inputArtifactSnapshot_sample (h : s.disk = sampleDisk replacement) :
    inputArtifactSnapshot (ι := Meddling) sampleHost sampleArgs [] s
      = (.returned sampleArtifacts, { s with unrecorded := s.unrecorded.tail.tail }, []) := by
  have hmanifest : s.disk.read (samplePath 'm') = some [] := h ▸ read_manifest _
  have hingress : s.disk.read (samplePath 'i') = some replacement := h ▸ read_ingress _
  have hcapture : s.disk.read (samplePath 'p') = some (encode captureText) := h ▸ read_capture _
  have hcalibration : joinedArtifacts (ι := Meddling) sampleHost
      [("phc_calibration", .many [samplePath 'p'])] [] { s with unrecorded := s.unrecorded.tail }
      = (.returned [(str "phc_calibration",
          .arr [boundSpec sampleHost (samplePath 'p') (encode captureText)])],
        { s with unrecorded := s.unrecorded.tail.tail }, []) :=
    bind_of_returned (bind_of_returned (bind_of_returned
      (joinedSpec_default (s := { s with unrecorded := s.unrecorded.tail }) hcapture)))
  have hjoined : joinedArtifacts (ι := Meddling) sampleHost sampleArgs.joined [] s
      = (.returned sampleArtifacts.tail, { s with unrecorded := s.unrecorded.tail.tail }, []) :=
    (bind_of_returned (joinedSpec_default hingress)).trans (bind_of_returned
      (joinedArtifacts_absent (joinedArtifacts_absent (joinedArtifacts_absent hcalibration))))
  unfold inputArtifactSnapshot
  refine (bind_of_returned (bind_of_returned (inputDigest_default hmanifest))).trans ?_
  exact bind_of_returned hjoined

theorem writeOutputs_sample {summary : List (Str × Value)} {version : Value}
    (hartifacts : field summary "input_artifacts" = some (.obj sampleArtifacts))
    (hversion : field summary "schema_version" = some version) :
    ∃ session, writeOutputs (ι := Meddling) sampleHost (samplePath 'c') (samplePath 'j')
      (samplePath 'k') [] summary (str "run") [] (Session.start (sampleDisk replacement))
      = (.returned (), session, []) := by
  have hvalid : validateOutputState (ι := Meddling) sampleHost (samplePath 'c') (samplePath 'j')
      (samplePath 'k') (str "run") [] (Session.start (sampleDisk replacement))
      = (.returned (), Session.start (sampleDisk replacement), []) := rfl
  have hverify : verifyInputArtifacts (ι := Meddling) sampleHost sampleArtifacts []
      (Session.start (sampleDisk replacement))
      = (.returned (), Session.start (sampleDisk replacement), []) := by
    have hmanifest : verifySpec (ι := Meddling) sampleHost (str "manifest") none
        (boundSpec sampleHost (samplePath 'm') []) []
          (Session.start (sampleDisk replacement)) = _ :=
      verifySpec_default (by decide) (by decide) (read_manifest _)
    have hingress : verifySpec (ι := Meddling) sampleHost (str "ingress") none
        (boundSpec sampleHost (samplePath 'i') replacement) []
          (Session.start (sampleDisk replacement)) = _ :=
      verifySpec_default (by decide) (by decide) (read_ingress _)
    have hcapture : verifySpec (ι := Meddling) sampleHost (str "phc_calibration") (some 0)
        (boundSpec sampleHost (samplePath 'p') (encode captureText)) []
          (Session.start (sampleDisk replacement)) = _ :=
      verifySpec_default (by decide) (by decide) (read_capture _)
    refine (bind_of_returned hmanifest).trans ((bind_of_returned hingress).trans ?_)
    exact bind_of_returned ((bind_of_returned hcapture).trans rfl)
  have hcreate : ∃ session, createOutputs (ι := Meddling) sampleHost (samplePath 'c')
      (samplePath 'j') (samplePath 'k') [] summary (str "run") sampleArtifacts []
      (Session.start (sampleDisk replacement)) = (.returned (), session, []) := by
    simp only [createOutputs, requireField, hversion]
    exact ⟨_, rfl⟩
  obtain ⟨session, hcreate⟩ := hcreate
  refine ⟨session, ?_⟩
  unfold writeOutputs
  refine (bind_of_returned hvalid).trans ?_
  rw [hartifacts]
  refine (bind_of_returned hverify).trans ?_
  rw [handle, hcreate]

theorem joinResults_replacing (round : ℚ → ℚ) (repr : ℚ → List Char) :
    ∃ result s, joinResults sampleHost round repr sampleArgs replacing
        (.start (sampleDisk (encode headerText))) = (.returned result, s, [])
      ∧ s.disturbed = true ∧ result.files = sampleFiles
      ∧ field result.summary "input_artifacts" = some (.obj sampleArtifacts)
      ∧ ¬Bound sampleHost sampleArgs result := by
  obtain ⟨analysis, c, hanalysis, hcalibration, hrows⟩ := analyze_sample
  have hanalyze : analyzeFiles sampleHost round repr sampleArgs replacing
      (.start (sampleDisk (encode headerText)))
      = (.returned ⟨sampleFiles, analysis,
          buildSummary round repr sampleArgs analysis c sampleArtifacts⟩,
        ⟨sampleDisk replacement, [], true⟩, []) := by
    unfold analyzeFiles
    refine (bind_of_returned readInputs_sample).trans ?_
    rw [show sampleArgs.allowEndpointClamp = false from rfl, hanalysis, hcalibration]
    refine (bind_of_returned (m := accept (.ok analysis)) rfl).trans ?_
    refine (bind_of_returned (m := accept (.ok c)) rfl).trans ?_
    exact bind_of_returned (inputArtifactSnapshot_sample
      (s := ⟨sampleDisk replacement, [samplePath 'i', samplePath 'p'], true⟩) rfl)
  have hwrite : ∃ session, writeOutputs (ι := Meddling) sampleHost (samplePath 'c')
      (samplePath 'j') (samplePath 'k') []
      (buildSummary round repr sampleArgs analysis c sampleArtifacts) (str "run") []
      (Session.start (sampleDisk replacement)) = (.returned (), session, []) :=
    writeOutputs_sample BuildSummary.artifacts BuildSummary.version
  obtain ⟨session, hwrite⟩ := hwrite
  rw [← hrows] at hwrite
  have hdisk : onDisk (writeOutputs sampleHost (samplePath 'c') (samplePath 'j') (samplePath 'k')
      analysis.rows (buildSummary round repr sampleArgs analysis c sampleArtifacts) (str "run")) []
      ⟨sampleDisk replacement, [], true⟩
      = (.returned (), (⟨session.disk, [], true⟩ : AnalysisState), ([] : List Meddling)) := by
    rw [onDisk, hwrite]
  refine ⟨_, _, (bind_of_returned hanalyze).trans ((bind_of_returned hdisk).trans rfl), rfl, rfl,
    BuildSummary.artifacts, ?_⟩
  rintro ⟨-, manifest, hbound⟩
  have hsame := Value.obj.inj (Option.some.inj (BuildSummary.artifacts.symm.trans hbound))
  have hspec : boundSpec sampleHost (samplePath 'i') replacement
      = boundSpec sampleHost (samplePath 'i') (encode headerText) :=
    (Prod.mk.inj (List.cons.inj (List.cons.inj hsame).2).1).2
  have hbytes := (Prod.mk.inj (List.cons.inj (List.cons.inj (Value.obj.inj hspec)).2).1).2
  have hlength : replacement.length = (encode headerText).length :=
    Int.ofNat_inj.mp (Value.int.inj hbytes)
  exact absurd length_replacement (by omega)

/-- **The replaced capture goes unnoticed**: the call returns, its rows are those of the old file,
and `input_artifacts` has the size and the digest of the new one. -/
theorem replaced_input_recorded :
    (¬∀ (args : Arguments) (disk : FileSystem) (script : List Meddling) result s rest,
        joinResults sampleHost id (fun _ => []) args script (.start disk)
          = (.returned result, s, rest) → Bound sampleHost args result)
      ∧ ∃ result s, joinResults sampleHost id (fun _ => []) sampleArgs replacing
          (.start (sampleDisk (encode headerText))) = (.returned result, s, [])
        ∧ result.files.ingress.bytes = encode headerText
        ∧ field result.summary "input_artifacts" = some (.obj sampleArtifacts) := by
  obtain ⟨result, s, hrun, -, hfiles, hartifacts, hunbound⟩ := joinResults_replacing id fun _ => []
  refine ⟨fun h => hunbound (h _ _ _ _ _ _ hrun), result, s, hrun, ?_, hartifacts⟩
  rw [hfiles]
  rfl

end ReplacedInput

end AceXdp
