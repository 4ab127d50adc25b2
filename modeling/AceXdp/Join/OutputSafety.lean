import AceXdp.Join.Output

/-!
# AceXdp — the analyser's outputs are all or nothing

* `Laid before files disk`: the disk is the one before the call with the files of this call added;
* `createFile_spec`: one output of the `try`, from its creation to its `fsync`;
* `fair_createOutputs`: where the `try` stops, an open descriptor belongs to a file on the list;
* `discardOutputs_spec`: the handler takes every file of this call away again, last one first,
  unless its `os.close` raises;
* `write_outputs_all_or_nothing`: every run of `write_outputs`, by how it ends.
-/

namespace AceXdp

open Csv Disk Fault Fault.Prog Json

variable {α β : Type} {s : Session}

/-! ## Operations that only look

Most of `write_outputs` in front of the first file looks at the disk. Such a part cannot break
anything: after it, after an exception in it and after a kill the files are those from before. -/

/-- The variables that the handler reads are the same, and no descriptor was lost. -/
structure SameVariables (s s' : Session) : Prop where
  created : s'.created = s.created
  descriptor : s'.descriptor = s.descriptor
  lost : s'.lost = s.lost

theorem SameVariables.refl (s : Session) : SameVariables s s := ⟨rfl, rfl, rfl⟩

/-- The files are the same as well. -/
def SameFiles (s s' : Session) : Prop := s'.disk = s.disk ∧ SameVariables s s'

theorem SameFiles.refl (s : Session) : SameFiles s s := ⟨rfl, .refl s⟩

/-- A failed operation that changed nothing. -/
theorem SameFiles.failed (s : Session) : SameFiles s { s with failed := true } :=
  ⟨rfl, rfl, rfl, rfl⟩

/-- `m` changes nothing; after an exception or a kill the files are still the same. -/
def ReadOnly (m : Writing Decision α) : Prop :=
  ∀ s, wp m ⟨fun _ s' => s' = s, fun _ => SameFiles s, SameFiles s⟩ s

theorem ReadOnly.pure (a : α) : ReadOnly (Pure.pure a : Writing Decision α) := fun _ => wp_pure rfl

theorem ReadOnly.raise (e : OutputError) : ReadOnly (Prog.raise e : Writing Decision α) :=
  fun s => wp_raise (.refl s)

theorem ReadOnly.bind {m : Writing Decision α} {f : α → Writing Decision β} (hm : ReadOnly m)
    (hf : ∀ a, ReadOnly (f a)) : ReadOnly (m >>= f) := by
  intro s
  refine wp_bind (wp_mono (hm s) ?_ (fun _ _ => id) fun _ => id)
  rintro a _ rfl
  exact hf a _

theorem ReadOnly.forM {γ : Type} {items : List γ} {body : γ → Writing Decision PUnit}
    (hbody : ∀ item, ReadOnly (body item)) : ReadOnly (items.forM body) := by
  intro s
  refine wp_forM (fun _ s' => s' = s) rfl ?_ (fun _ h => h)
  rintro item _ _ rfl
  exact hbody item _

/-- An operation that is given the decision about itself. -/
theorem wp_operation {f : Decision → Decision → Session → Outcome OutputError α × Session}
    {post : Post Session OutputError α} (h : ∀ d, post.Holds (f d d s).1 (f d d s).2) :
    wp (operation f) post s :=
  wp_op h

/-- An operation that changes nothing when it fails. -/
theorem wp_attempt {f : Decision → Session → Outcome OutputError α × Session}
    {post : Post Session OutputError α} (h : ∀ d, post.Holds (f d s).1 (f d s).2)
    (hraised : post.raised .osError { s with failed := true })
    (hkilled : post.killed s) : wp (attempt f) post s := by
  refine wp_operation fun d => ?_
  cases d with
  | proceed n => exact h (.proceed n)
  | fail _ _ => exact hraised
  | kill _ _ => exact hkilled

theorem readOnly_look (g : Session → α) : ReadOnly (attempt fun _ s => (.returned (g s), s)) :=
  fun s => wp_attempt (fun _ => rfl) (.failed s) (.refl s)

theorem readOnly_readBytes (path : Path) : ReadOnly (readBytes path) := by
  intro s
  refine wp_attempt (fun _ => ?_) (.failed s) (.refl s)
  simp only [Adversary.reading]
  cases s.disk.read path with
  | none => exact .failed s
  | some content => rfl

theorem readOnly_fileSize (path : Path) : ReadOnly (fileSize path) := by
  intro s
  refine wp_attempt (fun _ => ?_) (.failed s) (.refl s)
  cases s.disk.read path with
  | none => exact .failed s
  | some content => rfl

variable (host : Host)

theorem readOnly_fileDigest (path : Path) : ReadOnly (fileDigest host path) :=
  (readOnly_readBytes path).bind fun _ => (readOnly_fileSize path).bind fun _ => .pure _

theorem readOnly_asObject (value : Option Value) : ReadOnly (asObject value) := by
  unfold asObject
  split
  · exact .pure _
  · exact .raise _

/-- The test for a completed set of outputs. -/
theorem readOnly_isComplete (csvPath jsonPath markerPath : Path) (runId : Str) :
    ReadOnly (isComplete host csvPath jsonPath markerPath runId) :=
  (readOnly_readBytes _).bind fun _ => (readOnly_asObject _).bind fun _ =>
    (readOnly_asObject _).bind fun _ => (readOnly_asObject _).bind fun _ =>
      (readOnly_asObject _).bind fun _ => (readOnly_fileDigest host _).bind fun _ =>
        (readOnly_fileDigest host _).bind fun _ => .pure _

theorem readOnly_verifySpec (name : Str) (index : Option Nat) (spec : Value) :
    ReadOnly (verifySpec host name index spec) := by
  unfold verifySpec
  split
  · split
    · split
      · exact .raise _
      · refine (readOnly_fileDigest host _).bind fun _ => ?_
        split
        · exact .pure _
        · exact .raise _
    · exact .raise _
  · exact .raise _

theorem readOnly_verifyInputArtifacts (snapshot : List (Str × Value)) :
    ReadOnly (verifyInputArtifacts host snapshot) := by
  refine .forM fun entry => ?_
  split
  · exact .pure _
  · split
    · exact .raise _
    · exact .forM fun spec => readOnly_verifySpec host _ _ _
  · exact readOnly_verifySpec host _ _ _

/-- Syncing a directory changes no file. -/
theorem readOnly_fsyncDirectories (paths : List Path) : ReadOnly (fsyncDirectories paths) := by
  refine .forM fun _ => (readOnly_look fun _ => ()).bind fun _ => ?_
  refine ReadOnly.bind (m := handle _ _) (fun s => ?_) fun _ => readOnly_look fun _ => ()
  refine wp_handle (wp_attempt (fun _ => rfl) ?_ (.refl s))
  exact wp_bind (wp_attempt (fun _ => wp_raise (.failed s)) (.failed s) (.failed s))

/-- Both messages are exceptions, whatever the comparison says. -/
theorem rejectOutputs_spec (csvPath jsonPath markerPath : Path) (runId : Str)
    (existing : List Path) (s : Session) :
    wp (ι := Decision) (rejectOutputs host csvPath jsonPath markerPath runId existing)
      ⟨fun _ _ => False, fun _ => SameFiles s, SameFiles s⟩ s := by
  refine wp_bind ?_
  unfold completeSet
  split
  · refine wp_handle (wp_mono (readOnly_isComplete host csvPath jsonPath markerPath runId s) ?_
      (fun _ _ h => wp_pure (wp_raise h)) fun _ h => h)
    rintro complete _ rfl
    exact wp_raise (.refl _)
  · exact wp_pure (wp_raise (.refl s))

/-- **Nothing passes the check but a free set of paths**, and the check itself changes nothing. -/
theorem validateOutputState_spec (csvPath jsonPath markerPath : Path) (runId : Str) (s : Session) :
    wp (ι := Decision) (validateOutputState host csvPath jsonPath markerPath runId)
      ⟨fun _ s' => s' = s ∧ s.disk csvPath = none ∧ s.disk jsonPath = none
          ∧ s.disk markerPath = none,
        fun _ => SameFiles s, SameFiles s⟩ s := by
  refine wp_bind (wp_attempt (fun _ => wp_bind (wp_attempt (fun _ =>
    wp_bind (wp_attempt (fun _ => ?_) (.failed s) (.refl s)))
    (.failed s) (.refl s))) (.failed s) (.refl s))
  simp only [Post.Holds]
  split
  · rename_i hnone
    refine wp_pure (And.intro rfl ?_)
    simpa [existingOutputs, and_assoc] using hnone
  · exact wp_mono (rejectOutputs_spec host csvPath jsonPath markerPath runId _ s)
      (fun _ _ h => h.elim) (fun _ _ h => h) fun _ h => h

/-! ## The files of a call

The call only adds files, at paths where nothing stood, and it takes them away in the opposite
order. So the disk is the one from before with a list of files laid over it, and the last of the
list is the one that may be open. -/

/-- The disk is the one before the call with `files` added, all of them new. -/
structure Laid (before : FileSystem) (files : List (Path × Bytes)) (disk : FileSystem) : Prop where
  nodup : (files.map Prod.fst).Nodup
  content : ∀ f ∈ files, disk f.1 = some (.file f.2)
  fresh : ∀ f ∈ files, before f.1 = none
  others : ∀ path, path ∉ files.map Prod.fst → disk path = before path

variable {before disk : FileSystem} {files : List (Path × Bytes)} {path : Path}

theorem laid_nil (disk : FileSystem) : Laid disk [] disk :=
  ⟨List.nodup_nil, by simp, by simp, fun _ _ => rfl⟩

theorem Laid.eq_of_nil (h : Laid before [] disk) : disk = before :=
  funext fun path => h.others path (by simp)

/-- A path where nothing stands belongs to no file of the call. -/
theorem Laid.notMem (h : Laid before files disk) (hnone : disk path = none) :
    path ∉ files.map Prod.fst := by
  intro hmem
  obtain ⟨f, hf, rfl⟩ := List.mem_map.mp hmem
  rw [h.content f hf] at hnone
  cases hnone

theorem Laid.snoc (h : Laid before files disk) (hnone : disk path = none) (content : Bytes) :
    Laid before (files ++ [(path, content)])
      (Function.update disk path (some (.file content))) := by
  have hnew := h.notMem hnone
  have hne : ∀ f ∈ files, f.1 ≠ path := fun f hf heq => hnew (heq ▸ List.mem_map_of_mem hf)
  refine ⟨?_, ?_, ?_, ?_⟩
  · rw [List.map_append, List.nodup_append]
    refine ⟨h.nodup, List.nodup_singleton _, ?_⟩
    rintro a ha b hb rfl
    obtain rfl : a = path := List.mem_singleton.mp hb
    exact hnew ha
  · intro f hf
    rcases List.mem_append.mp hf with hf | hf
    · rw [Function.update_of_ne (hne f hf), h.content f hf]
    · rw [List.mem_singleton.mp hf, Function.update_self]
  · intro f hf
    rcases List.mem_append.mp hf with hf | hf
    · exact h.fresh f hf
    · rw [List.mem_singleton.mp hf, ← h.others path hnew, hnone]
  · intro other hother
    rw [List.map_append, List.mem_append, not_or, List.map_singleton, List.mem_singleton] at hother
    rw [Function.update_of_ne hother.2, h.others other hother.1]

/-- The last file can hold anything else. -/
theorem Laid.rewrite {content : Bytes} (h : Laid before (files ++ [(path, content)]) disk)
    (content' : Bytes) : Laid before (files ++ [(path, content')])
      (Function.update disk path (some (.file content'))) := by
  have hpaths : ∀ c : Bytes, (files ++ [(path, c)]).map Prod.fst = files.map Prod.fst ++ [path] := by
    simp
  have hnodup := h.nodup
  rw [hpaths, List.nodup_append] at hnodup
  have hne : ∀ f ∈ files, f.1 ≠ path := fun f hf =>
    hnodup.2.2 f.1 (List.mem_map_of_mem hf) path List.mem_cons_self
  refine ⟨?_, ?_, ?_, ?_⟩
  · rw [hpaths, ← hpaths content]
    exact h.nodup
  · intro f hf
    rcases List.mem_append.mp hf with hf | hf
    · rw [Function.update_of_ne (hne f hf), h.content f (List.mem_append_left _ hf)]
    · rw [List.mem_singleton.mp hf, Function.update_self]
  · intro f hf
    rcases List.mem_append.mp hf with hf | hf
    · exact h.fresh f (List.mem_append_left _ hf)
    · rw [List.mem_singleton.mp hf]
      exact h.fresh (path, content) (List.mem_append_right _ List.mem_cons_self)
  · intro other hother
    rw [hpaths] at hother
    have hother' : other ≠ path := fun heq => hother (List.mem_append_right _ (by simp [heq]))
    rw [Function.update_of_ne hother', h.others other (by rwa [hpaths])]

/-- A file of the call is a change. -/
theorem Laid.changed (h : Laid before files disk) (hne : files ≠ []) : disk ≠ before := by
  obtain ⟨f, hf⟩ := List.exists_mem_of_ne_nil files hne
  intro heq
  have hcontent := h.content f hf
  rw [heq, h.fresh f hf] at hcontent
  cases hcontent

/-- Taking the last file away. -/
theorem Laid.dropLast {content : Bytes} (h : Laid before (files ++ [(path, content)]) disk) :
    Laid before files (Function.update disk path none) := by
  have hnodup := h.nodup
  rw [List.map_append, List.nodup_append] at hnodup
  have hne : ∀ f ∈ files, f.1 ≠ path := fun f hf =>
    hnodup.2.2 f.1 (List.mem_map_of_mem hf) path (by simp)
  refine ⟨hnodup.1, ?_, fun f hf => h.fresh f (List.mem_append_left _ hf), ?_⟩
  · intro f hf
    rw [Function.update_of_ne (hne f hf), h.content f (List.mem_append_left _ hf)]
  · intro other hother
    by_cases heq : other = path
    · rw [heq, Function.update_self]
      exact (h.fresh (path, content) (List.mem_append_right _ List.mem_cons_self)).symm
    · rw [Function.update_of_ne heq]
      refine h.others other ?_
      rw [List.map_append, List.mem_append, not_or]
      exact ⟨hother, by simpa using heq⟩

/-! ## Writing one file

A file is reserved, opened as a stream, written, flushed, synced and closed. In between its content
is some part of what was written; when the stream is closed without an error it is all of it. -/

/-- The call has made `files`. -/
structure Made (before : FileSystem) (files : List (Path × Bytes)) (s : Session) : Prop where
  laid : Laid before files s.disk
  created : s.created = files.map Prod.fst

/-- The last file of the call is open: `total` was written to it, a part of which is on the disk and
the rest in the buffer. -/
def Streaming (before : FileSystem) (files : List (Path × Bytes)) (path : Path) (total : Bytes)
    (s : Session) : Prop :=
  ∃ content pending, content ++ pending = total ∧ Made before (files ++ [(path, content)]) s
    ∧ s.stream = some (path, pending)

/-- What is left when an operation on the open file does not come back. -/
def Torn (before : FileSystem) (files : List (Path × Bytes)) (path : Path) (s : Session) : Prop :=
  ∃ content, Made before (files ++ [(path, content)]) s

section Stream

variable {total : Bytes}

/-- Whatever is on the disk of the open file is a file of the call. -/
theorem Streaming.torn (h : Streaming before files path total s) : Torn before files path s := by
  obtain ⟨content, _, _, hmade, _⟩ := h
  exact ⟨content, hmade⟩

/-- A write that has not reached the disk. -/
theorem Streaming.buffer (h : Streaming before files path total s) (bytes : Bytes) :
    Streaming before files path (total ++ bytes) (s.buffer bytes) := by
  obtain ⟨content, pending, rfl, hmade, hstream⟩ := h
  refine ⟨content, pending ++ bytes, by simp, ⟨hmade.laid, hmade.created⟩, ?_⟩
  rw [Session.buffer, hstream]
  rfl

theorem Streaming.fail (h : Streaming before files path total s) :
    Streaming before files path total { s with failed := true } := by
  obtain ⟨content, pending, htotal, hmade, hstream⟩ := h
  exact ⟨content, pending, htotal, ⟨hmade.laid, hmade.created⟩, hstream⟩

/-- A part of the buffer reaches the disk. -/
theorem Streaming.emit (h : Streaming before files path total s) (n : Nat) :
    Streaming before files path total (s.emit n) := by
  obtain ⟨content, pending, rfl, hmade, hstream⟩ := h
  have hfile := hmade.laid.content (path, content) (List.mem_append_right _ List.mem_cons_self)
  have hdisk : (s.emit n).disk
      = Function.update s.disk path (some (.file (content ++ pending.take n))) := by
    simp only [Session.emit, hstream, hfile]
  refine ⟨content ++ pending.take n, pending.drop n, ?_, ⟨?_, ?_⟩, ?_⟩
  · rw [List.append_assoc, List.take_append_drop]
  · rw [hdisk]
    exact hmade.laid.rewrite _
  · have hcreated : (s.emit n).created = s.created := by simp only [Session.emit, hstream]
    rw [hcreated, hmade.created]
    simp
  · simp only [Session.emit, hstream]

/-- All of the buffer is on the disk. -/
theorem Streaming.emit_pending (h : Streaming before files path total s) :
    Made before (files ++ [(path, total)]) (s.emit s.pending) := by
  obtain ⟨content, pending, rfl, hmade, hstream⟩ := h
  have hfile := hmade.laid.content (path, content) (List.mem_append_right _ List.mem_cons_self)
  have hdisk : (s.emit s.pending).disk
      = Function.update s.disk path (some (.file (content ++ pending))) := by
    simp only [Session.emit, Session.pending, hstream, hfile, List.take_length]
  refine ⟨?_, ?_⟩
  · rw [hdisk]
    exact hmade.laid.rewrite _
  · have hcreated : (s.emit s.pending).created = s.created := by
      simp only [Session.emit, hstream]
    rw [hcreated, hmade.created]
    simp

@[simp] theorem Session.failed_emit (s : Session) (n : Nat) : (s.emit n).failed = s.failed := by
  unfold Session.emit
  split <;> rfl

@[simp] theorem Session.failed_buffer (s : Session) (bytes : Bytes) :
    (s.buffer bytes).failed = s.failed := rfl

/-- `write`, with any part of the buffer going out. -/
theorem writeBytes_spec (h : Streaming before files path total s) (bytes : Bytes) :
    wp (ι := Decision) (writeBytes bytes)
      ⟨fun _ s' => Streaming before files path (total ++ bytes) s' ∧ s'.failed = s.failed,
        fun _ s' => ∃ total', Streaming before files path total' s',
        Torn before files path⟩ s := by
  refine wp_operation fun d => ?_
  cases d with
  | proceed flushed => exact ⟨(h.buffer bytes).emit flushed, by simp⟩
  | fail buffered flushed => exact ⟨_, ((h.buffer (bytes.take buffered)).emit flushed).fail⟩
  | kill buffered flushed => exact ((h.buffer (bytes.take buffered)).emit flushed).torn

theorem flushStream_spec (h : Streaming before files path total s) :
    wp (ι := Decision) flushStream
      ⟨fun _ s' => Streaming before files path total s' ∧ s'.failed = s.failed,
        fun _ s' => ∃ total', Streaming before files path total' s',
        Torn before files path⟩ s := by
  refine wp_operation fun d => ?_
  cases d with
  | proceed _ => exact ⟨h.emit _, by simp⟩
  | fail _ flushed => exact ⟨_, (h.emit flushed).fail⟩
  | kill _ flushed => exact (h.emit flushed).torn

/-- `close` flushes before it closes. -/
theorem closeStream_spec (h : Streaming before files path total s) :
    wp (ι := Decision) closeStream
      ⟨fun _ s' => Made before (files ++ [(path, total)]) s' ∧ s'.failed = s.failed,
        fun _ => Torn before files path, Torn before files path⟩ s := by
  refine wp_operation fun d => ?_
  cases d with
  | proceed _ =>
    have hmade := h.emit_pending
    exact ⟨⟨hmade.laid, hmade.created⟩, by simp⟩
  | fail _ flushed =>
    obtain ⟨content, hmade⟩ := (h.emit flushed).torn
    exact ⟨content, hmade.laid, hmade.created⟩
  | kill _ flushed => exact (h.emit flushed).torn

/-- **The `with` statement.** -/
theorem withStream_spec {body : Writing Decision Unit} (total : Bytes)
    (h : Made before (files ++ [(path, [])]) s)
    (hbody : ∀ s', Streaming before files path [] s' → s'.failed = s.failed →
      wp body ⟨fun _ s'' => Streaming before files path total s'' ∧ s''.failed = s.failed,
        fun _ s'' => ∃ total', Streaming before files path total' s'',
        Torn before files path⟩ s') :
    wp (ι := Decision) (withStream path body)
      ⟨fun _ s' => Made before (files ++ [(path, total)]) s' ∧ s'.failed = s.failed,
        fun _ => Torn before files path, Torn before files path⟩ s := by
  have hopen : Streaming before files path []
      { s with descriptor := none, stream := some (path, []) } :=
    ⟨[], [], rfl, ⟨h.laid, h.created⟩, rfl⟩
  have hempty : ∀ t, t.disk = s.disk → t.created = s.created → Torn before files path t :=
    fun t hdisk hcreated => ⟨[], hdisk ▸ h.laid, hcreated ▸ h.created⟩
  refine wp_bind (wp_bind (wp_attempt (fun _ => wp_operation fun d => ?_) (hempty _ rfl rfl)
    (hempty _ rfl rfl)))
  cases d with
  | fail _ _ => exact hempty _ rfl rfl
  | kill _ _ => exact hempty _ rfl rfl
  | proceed _ =>
  refine wp_bind (wp_handle (wp_bind (wp_mono (hbody _ hopen rfl) ?_ ?_ fun _ => id)))
  · rintro _ s' ⟨hs', hfailed⟩
    refine wp_bind (wp_mono (flushStream_spec hs') ?_ ?_ fun _ => id)
    · rintro _ s'' ⟨hs'', hfailed'⟩
      refine wp_attempt (fun _ => ?_) ?_ hs''.torn
      · exact wp_mono (closeStream_spec hs'')
          (fun _ t ht => ⟨ht.1, by rw [ht.2, hfailed', hfailed]⟩) (fun _ _ => id) fun _ => id
      · exact wp_bind (wp_mono (closeStream_spec hs''.fail)
          (fun _ _ ht => wp_raise ⟨_, ht.1⟩) (fun _ _ => id) fun _ => id)
    · rintro e s'' ⟨total', hs''⟩
      exact wp_bind (wp_mono (closeStream_spec hs'')
        (fun _ _ ht => wp_raise ⟨_, ht.1⟩) (fun _ _ => id) fun _ => id)
  · rintro e s'' ⟨total', hs''⟩
    exact wp_bind (wp_mono (closeStream_spec hs'')
      (fun _ _ ht => wp_raise ⟨_, ht.1⟩) (fun _ _ => id) fun _ => id)

end Stream

/-- A look leaves the files of the call. -/
theorem Made.same {s' : Session} (h : Made before files s) (hsame : SameFiles s s') :
    Made before files s' := by
  refine ⟨?_, ?_⟩
  · rw [hsame.1]
    exact h.laid
  · rw [hsame.2.created, h.created]

/-- `O_CREAT | O_EXCL`: the path was free, and the file is empty. -/
theorem reserveOutput_spec (h : Made before files s) (path : Path) :
    wp (ι := Decision) (reserveOutput path)
      ⟨fun _ s' => Made before (files ++ [(path, [])]) s' ∧ s'.failed = s.failed,
        fun _ => Made before files, Made before files⟩ s := by
  refine wp_bind (wp_attempt (fun _ => ?_) (h.same (.failed s)) h)
  cases hpath : s.disk path with
  | some _ => exact h.same (.failed s)
  | none =>
    refine wp_modify ⟨⟨h.laid.snoc hpath [], ?_⟩, rfl⟩
    simp [h.created]

/-! ## What is written

The rows, the summary and the marker as bytes. The marker holds the digests of the two files before
it, as they are on the disk by then. -/

/-- The joined rows as the file of the call. -/
def csvBytes (rows : List RowDict) : Bytes :=
  encode (writeRow joinedFields)
    ++ rows.flatMap fun row => encode ((dictRow joinedFields row).getD [])

/-- A document as the file of the call. -/
def jsonBytes (value : Value) : Bytes := encode (jsonText value)

/-- The rows are written one by one. -/
theorem writeRows_spec (h : Streaming before files path [] s) (rows : List RowDict) :
    wp (ι := Decision) (writeRows rows)
      ⟨fun _ s' => Streaming before files path (csvBytes rows) s' ∧ s'.failed = s.failed,
        fun _ s' => ∃ total', Streaming before files path total' s',
        Torn before files path⟩ s := by
  refine wp_bind (wp_mono (writeBytes_spec h _) ?_ (fun _ _ => id) fun _ => id)
  rintro _ s₁ ⟨hs₁, hfailed₁⟩
  refine wp_forM (fun rest s' => ∃ done, done ++ rest = rows
    ∧ Streaming before files path (csvBytes done) s' ∧ s'.failed = s.failed) ?_ ?_ ?_
  · refine ⟨[], rfl, ?_, hfailed₁⟩
    simpa [csvBytes] using hs₁
  · rintro row rest s' ⟨done, rfl, hs', hfailed'⟩
    cases hrow : dictRow joinedFields row with
    | none => exact wp_raise ⟨_, hs'⟩
    | some line =>
      refine wp_mono (writeBytes_spec hs' _) ?_ (fun _ _ => id) fun _ => id
      rintro _ s'' ⟨hs'', hfailed''⟩
      refine ⟨done ++ [row], by simp, ?_, by rw [hfailed'', hfailed']⟩
      simpa [csvBytes, hrow] using hs''
  · rintro s' ⟨done, hdone, hs', hfailed'⟩
    rw [List.append_nil] at hdone
    exact ⟨hdone ▸ hs', hfailed'⟩

/-- A document is written in one piece, or not at all when it holds a lone surrogate. -/
theorem writeJson_spec (h : Streaming before files path [] s) (value : Value) :
    wp (ι := Decision) (writeJson value)
      ⟨fun _ s' => Streaming before files path (jsonBytes value) s' ∧ s'.failed = s.failed,
        fun _ s' => ∃ total', Streaming before files path total' s',
        Torn before files path⟩ s := by
  refine wp_bind (wp_mono (writeBytes_spec h _) ?_ (fun _ _ => id) fun _ => id)
  rintro _ s₁ ⟨hs₁, hfailed₁⟩
  refine wp_mono (writeBytes_spec hs₁ _) ?_ (fun _ _ => id) fun _ => id
  rintro _ s₂ ⟨hs₂, hfailed₂⟩
  refine ⟨?_, by rw [hfailed₂, hfailed₁]⟩
  simpa [jsonBytes, jsonText, encode] using hs₂

/-- Size and SHA-256. -/
def digestOf (content : Bytes) : Digest := ⟨content.length, host.sha256 content⟩

/-- The digest of a file that is there. -/
theorem fileDigest_spec {content : Bytes} (h : s.disk path = some (.file content)) :
    wp (ι := Decision) (fileDigest host path)
      ⟨fun digest s' => s' = s ∧ digest = digestOf host content, fun _ => SameFiles s, SameFiles s⟩
      s := by
  have hread := FileSystem.read_file h
  refine wp_bind (wp_attempt (fun _ => ?_) (.failed s) (.refl s))
  simp only [Adversary.reading, hread]
  refine wp_bind (wp_attempt (fun _ => ?_) (.failed s) (.refl s))
  simp only [hread]
  exact wp_pure ⟨rfl, rfl⟩

/-! ## The descriptor

While the `try` runs, a descriptor that is open belongs to a file on the list, and a descriptor is
lost only by the call that ends the `try`: the variable names it, and no statement behind it runs. -/

/-- Where the handler may start. -/
structure Fair (s : Session) : Prop where
  named : s.lost = true → s.descriptor.isSome = true
  created : s.descriptor.isSome = true → s.created ≠ []

/-- `m` leaves the variables of the handler alone. -/
def Aside (m : Writing Decision α) : Prop :=
  ∀ s, wp m ⟨fun _ => SameVariables s, fun _ => SameVariables s, fun _ => True⟩ s

/-- `m` loses a descriptor only by raising. -/
def Careful (m : Writing Decision α) : Prop :=
  ∀ s, s.lost = false → Fair s →
    wp m ⟨fun _ s' => s'.lost = false ∧ Fair s', fun _ => Fair, fun _ => True⟩ s

/-- No descriptor is lost, and an open one belongs to a file on the list. -/
theorem fair_of_open (hlost : s.lost = false) (hcreated : s.descriptor.isSome = true → s.created ≠ []) :
    Fair s := by
  refine ⟨fun h => ?_, hcreated⟩
  rw [hlost] at h
  cases h

/-- The handler reads only these variables. -/
theorem SameVariables.fair {s' : Session} (h : SameVariables s s') (hs : Fair s) : Fair s' := by
  refine ⟨?_, ?_⟩
  · rw [h.lost, h.descriptor]
    exact hs.named
  · rw [h.created, h.descriptor]
    exact hs.created

/-- What leaves the variables alone loses no descriptor. -/
theorem Aside.careful {m : Writing Decision α} (hm : Aside m) : Careful m := by
  intro s hlost hfair
  exact wp_mono (hm s) (fun _ s' h => ⟨h.lost.trans hlost, h.fair hfair⟩)
    (fun _ _ h => h.fair hfair) fun _ => id

theorem ReadOnly.aside {m : Writing Decision α} (hm : ReadOnly m) : Aside m := by
  intro s
  refine wp_mono (hm s) ?_ (fun _ _ h => h.2) fun _ _ => trivial
  rintro _ _ rfl
  exact .refl _

/-- The second of two parts starts with the variables of the first. -/
theorem SameVariables.wp {s' : Session} {m : Writing Decision α} (h : SameVariables s s')
    (hm : Aside m) :
    wp m ⟨fun _ => SameVariables s, fun _ => SameVariables s, fun _ => True⟩ s' := by
  have htrans : ∀ t, SameVariables s' t → SameVariables s t := fun t ht =>
    ⟨ht.created.trans h.created, ht.descriptor.trans h.descriptor, ht.lost.trans h.lost⟩
  exact wp_mono (hm s') (fun _ => htrans) (fun _ => htrans) fun _ => id

theorem Aside.bind {m : Writing Decision α} {f : α → Writing Decision β} (hm : Aside m)
    (hf : ∀ a, Aside (f a)) : Aside (m >>= f) := fun s =>
  wp_bind (wp_mono (hm s) (fun a _ h => h.wp (hf a)) (fun _ _ => id) fun _ => id)

theorem Aside.handle {m : Writing Decision α} {handler : OutputError → Writing Decision α}
    (hm : Aside m) (hhandler : ∀ e, Aside (handler e)) : Aside (Prog.handle m handler) := fun s =>
  wp_handle (wp_mono (hm s) (fun _ _ => id) (fun e _ h => h.wp (hhandler e)) fun _ => id)

theorem Aside.forM {γ : Type} {items : List γ} {body : γ → Writing Decision PUnit}
    (hbody : ∀ item, Aside (body item)) : Aside (items.forM body) := by
  induction items with
  | nil => exact (ReadOnly.pure _).aside
  | cons item items ih => exact (hbody item).bind fun _ => ih

theorem aside_operation {f : Decision → Decision → Session → Outcome OutputError α × Session}
    (h : ∀ i d s, SameVariables s (f i d s).2) : Aside (operation f) := by
  intro s
  refine wp_operation fun d => ?_
  have hd := h d d s
  revert hd
  cases (f d d s).1 with
  | returned a => exact id
  | raised e => exact id
  | killed => exact fun _ => trivial

/-- The stream is no variable of the handler. -/
theorem sameVariables_emit (s : Session) (n : Nat) : SameVariables s (s.emit n) := by
  unfold Session.emit
  split
  · exact ⟨rfl, rfl, rfl⟩
  · exact .refl s

theorem SameVariables.of_buffer {s' : Session} {bytes : Bytes}
    (h : SameVariables (s.buffer bytes) s') : SameVariables s s' :=
  ⟨h.created, h.descriptor, h.lost⟩

theorem aside_writeBytes (bytes : Bytes) : Aside (writeBytes bytes) := by
  refine aside_operation fun _ d s => ?_
  cases d with
  | proceed flushed => exact (sameVariables_emit (s.buffer bytes) flushed).of_buffer
  | fail buffered flushed =>
    have hsame := sameVariables_emit (s.buffer (bytes.take buffered)) flushed
    exact ⟨hsame.created, hsame.descriptor, hsame.lost⟩
  | kill buffered flushed =>
    exact (sameVariables_emit (s.buffer (bytes.take buffered)) flushed).of_buffer

theorem aside_flushStream : Aside flushStream := by
  refine aside_operation fun _ d s => ?_
  cases d with
  | proceed _ => exact sameVariables_emit s _
  | fail _ flushed =>
    have hsame := sameVariables_emit s flushed
    exact ⟨hsame.created, hsame.descriptor, hsame.lost⟩
  | kill _ flushed => exact sameVariables_emit s flushed

/-- `close` of the stream, which is not the close of the handler. -/
theorem aside_closeStream : Aside closeStream := by
  refine aside_operation fun _ d s => ?_
  cases d with
  | proceed _ =>
    have hsame := sameVariables_emit s s.pending
    exact ⟨hsame.created, hsame.descriptor, hsame.lost⟩
  | fail _ flushed =>
    have hsame := sameVariables_emit s flushed
    exact ⟨hsame.created, hsame.descriptor, hsame.lost⟩
  | kill _ flushed => exact sameVariables_emit s flushed

theorem aside_writeRows (rows : List RowDict) : Aside (writeRows rows) := by
  refine (aside_writeBytes _).bind fun _ => .forM fun row => ?_
  split
  · exact aside_writeBytes _
  · exact (ReadOnly.raise _).aside

theorem aside_writeJson (value : Value) : Aside (writeJson value) :=
  (aside_writeBytes _).bind fun _ => aside_writeBytes _

/-- Sequencing; behind a lost descriptor nothing runs. -/
theorem Careful.bind {m : Writing Decision α} {f : α → Writing Decision β} (hm : Careful m)
    (hf : ∀ a, Careful (f a)) : Careful (m >>= f) := by
  intro s hlost hfair
  refine wp_bind (wp_mono (hm s hlost hfair) ?_ (fun _ _ => id) fun _ => id)
  rintro a s' ⟨hlost', hfair'⟩
  exact hf a s' hlost' hfair'

/-- `m` starts with an open descriptor. -/
def Opened (m : Writing Decision α) : Prop :=
  ∀ s, s.lost = false → Fair s → s.descriptor.isSome = true →
    wp m ⟨fun _ s' => s'.lost = false ∧ Fair s', fun _ => Fair, fun _ => True⟩ s

/-- A part that starts with an open descriptor and goes on carefully. -/
theorem Opened.bind {m : Writing Decision α} {f : α → Writing Decision β} (hm : Opened m)
    (hf : ∀ a, Careful (f a)) : Opened (m >>= f) := by
  intro s hlost hfair hopen
  refine wp_bind (wp_mono (hm s hlost hfair hopen) ?_ (fun _ _ => id) fun _ => id)
  rintro a s' ⟨hlost', hfair'⟩
  exact hf a s' hlost' hfair'

/-- The path is on the list before the descriptor can be lost. -/
theorem Opened.reserve {m : Writing Decision α} (hm : Opened m) (path : Path) :
    Careful (do reserveOutput path; m) := by
  intro s hlost hfair
  refine wp_bind (wp_bind (wp_attempt (fun _ => ?_) ⟨hfair.named, hfair.created⟩ trivial))
  cases s.disk path with
  | some _ => exact ⟨hfair.named, hfair.created⟩
  | none => exact wp_modify (hm _ hlost (fair_of_open hlost fun _ => by simp) rfl)

/-- `os.fdopen` may close the descriptor when it fails: the one call that can lose it. -/
theorem opened_fdopen (path : Path) : Opened (fdopen path) := by
  intro s hlost hfair hopen
  refine wp_bind (wp_attempt (fun _ => wp_operation fun d => ?_) ⟨hfair.named, hfair.created⟩
    trivial)
  cases d with
  | proceed _ => exact ⟨hlost, fair_of_open hlost fun h => nomatch h⟩
  | fail _ _ => exact ⟨fun _ => hopen, hfair.created⟩
  | kill _ _ => exact trivial

/-- The `with` around the writing of a file. -/
theorem opened_withStream {path : Path} {body : Writing Decision Unit} (hbody : Aside body) :
    Opened (withStream path body) := by
  have hfsync : Aside fsync := (readOnly_look fun _ => ()).aside
  have hinside : Aside (handle (do body; flushStream; fsync) fun e => do closeStream; raise e) :=
    (hbody.bind fun _ => aside_flushStream.bind fun _ => hfsync).handle fun e =>
      aside_closeStream.bind fun _ => (ReadOnly.raise e).aside
  exact (opened_fdopen path).bind fun _ => (hinside.bind fun _ => aside_closeStream).careful

/-! ## The whole `try`

Three files one after the other: rows, summary, marker. The handler closes the descriptor if there
is one and unlinks the files in the opposite order; it raises before the first `unlink` exactly when
the descriptor is already closed or cannot be closed. -/

section Call

variable (csvPath jsonPath markerPath : Path) (rows : List RowDict) (summary : List (Str × Value))
variable (runId : Str)

/-- How far a call has come: each file is begun only when the ones before it are complete. -/
inductive Progress : List (Path × Bytes) → Prop where
  | start : Progress []
  | csv (content : Bytes) : Progress [(csvPath, content)]
  | summary (content : Bytes) : Progress [(csvPath, csvBytes rows), (jsonPath, content)]
  | marker (content : Bytes) :
    Progress [(csvPath, csvBytes rows), (jsonPath, jsonBytes (.obj summary)), (markerPath, content)]

/-- Without its last file it is a call that has come less far. -/
theorem Progress.dropLast {csvPath jsonPath markerPath : Path} {rows : List RowDict}
    {summary : List (Str × Value)} {files : List (Path × Bytes)} {f : Path × Bytes}
    (h : Progress csvPath jsonPath markerPath rows summary (files ++ [f])) :
    Progress csvPath jsonPath markerPath rows summary files := by
  generalize hall : files ++ [f] = all at h
  have hfiles : files = all.dropLast := by rw [← hall, List.dropLast_concat]
  rw [hfiles]
  cases h with
  | start => exact .start
  | csv content => exact .start
  | summary content => exact .csv _
  | marker content => exact .summary _

/-- The bytes of the marker, for the version and the inputs that the summary records. -/
def markerBytes (summaryVersion : Value) (rawInputs : List (Str × Value)) : Bytes :=
  jsonBytes (completion csvPath jsonPath runId summaryVersion rawInputs
    (digestOf host (csvBytes rows)) (digestOf host (jsonBytes (.obj summary))))

/-- The disk is that of a call in progress. -/
def InProgress (before : FileSystem) (s : Session) : Prop :=
  ∃ files, Progress csvPath jsonPath markerPath rows summary files ∧ Made before files s

/-- **The `try` of `write_outputs`.** -/
theorem createOutputs_spec (rawInputs : List (Str × Value)) (h : Made before [] s) :
    wp (ι := Decision) (createOutputs host csvPath jsonPath markerPath rows summary runId rawInputs)
      ⟨fun _ s' => s'.failed = s.failed ∧ ∃ version, field summary "schema_version" = some version
          ∧ Made before [(csvPath, csvBytes rows), (jsonPath, jsonBytes (.obj summary)),
              (markerPath, markerBytes host csvPath jsonPath rows summary runId version rawInputs)]
            s',
        fun _ => InProgress csvPath jsonPath markerPath rows summary before,
        InProgress csvPath jsonPath markerPath rows summary before⟩ s := by
  -- the CSV
  refine wp_bind (wp_mono (reserveOutput_spec h csvPath) ?_ (fun _ _ hs => ⟨_, .start, hs⟩)
    fun _ hs => ⟨_, .start, hs⟩)
  rintro _ s₁ ⟨hs₁, hfailed₁⟩
  have htorn₁ : ∀ s', Torn before [] csvPath s' →
      InProgress csvPath jsonPath markerPath rows summary before s' :=
    fun s' ⟨content, hmade⟩ => ⟨_, .csv content, hmade⟩
  refine wp_bind (wp_mono (withStream_spec (csvBytes rows) hs₁ fun s' hs' hf => ?_) ?_
    (fun _ => htorn₁) htorn₁)
  · exact wp_mono (writeRows_spec hs' rows) (fun _ _ hs => ⟨hs.1, by rw [hs.2, hf]⟩)
      (fun _ _ => id) fun _ => id
  rintro _ s₂ ⟨hs₂, hfailed₂⟩
  -- the summary
  refine wp_bind (wp_mono (reserveOutput_spec hs₂ jsonPath) ?_ (fun _ _ hs => ⟨_, .csv _, hs⟩)
    fun _ hs => ⟨_, .csv _, hs⟩)
  rintro _ s₃ ⟨hs₃, hfailed₃⟩
  have htorn₃ : ∀ s', Torn before [(csvPath, csvBytes rows)] jsonPath s' →
      InProgress csvPath jsonPath markerPath rows summary before s' :=
    fun s' ⟨content, hmade⟩ => ⟨_, .summary content, hmade⟩
  refine wp_bind (wp_mono (withStream_spec (jsonBytes (.obj summary)) hs₃ fun s' hs' hf => ?_) ?_
    (fun _ => htorn₃) htorn₃)
  · exact wp_mono (writeJson_spec hs' (.obj summary)) (fun _ _ hs => ⟨hs.1, by rw [hs.2, hf]⟩)
      (fun _ _ => id) fun _ => id
  rintro _ s₄ ⟨hs₄, hfailed₄⟩
  have hsame₄ : ∀ s', SameFiles s₄ s' →
      InProgress csvPath jsonPath markerPath rows summary before s' :=
    fun s' hsame => ⟨_, .summary _, hs₄.same hsame⟩
  refine wp_bind (wp_mono (readOnly_fsyncDirectories _ s₄) ?_ (fun _ => hsame₄) hsame₄)
  rintro _ _ rfl
  -- the digests are those of the two files on the disk
  refine wp_bind ?_
  unfold requireField
  cases hversion : field summary "schema_version" with
  | none => exact wp_raise ⟨_, .summary _, hs₄⟩
  | some version =>
    refine wp_pure ?_
    have hcsv := hs₄.laid.content (csvPath, csvBytes rows) (by simp)
    have hjson := hs₄.laid.content (jsonPath, jsonBytes (.obj summary)) (by simp)
    refine wp_bind (wp_mono (fileDigest_spec host hcsv) ?_ (fun _ => hsame₄) hsame₄)
    rintro _ _ ⟨rfl, rfl⟩
    refine wp_bind (wp_mono (fileDigest_spec host hjson) ?_ (fun _ => hsame₄) hsame₄)
    rintro _ _ ⟨rfl, rfl⟩
    -- the marker
    refine wp_bind (wp_mono (reserveOutput_spec hs₄ markerPath) ?_
      (fun _ _ hs => ⟨_, .summary _, hs⟩) fun _ hs => ⟨_, .summary _, hs⟩)
    rintro _ s₅ ⟨hs₅, hfailed₅⟩
    have htorn₅ : ∀ s', Torn before [(csvPath, csvBytes rows), (jsonPath, jsonBytes (.obj summary))]
        markerPath s' → InProgress csvPath jsonPath markerPath rows summary before s' :=
      fun s' ⟨content, hmade⟩ => ⟨_, .marker content, hmade⟩
    refine wp_bind (wp_mono (withStream_spec
      (markerBytes host csvPath jsonPath rows summary runId version rawInputs) hs₅
      fun s' hs' hf => ?_) ?_ (fun _ => htorn₅) htorn₅)
    · exact wp_mono (writeJson_spec hs' _) (fun _ _ hs => ⟨hs.1, by rw [hs.2, hf]⟩)
        (fun _ _ => id) fun _ => id
    rintro _ s₆ ⟨hs₆, hfailed₆⟩
    have hsame₆ : ∀ s', SameFiles s₆ s' →
        InProgress csvPath jsonPath markerPath rows summary before s' :=
      fun s' hsame => ⟨_, .marker _, hs₆.same hsame⟩
    refine wp_mono (readOnly_fsyncDirectories _ s₆) ?_ (fun _ => hsame₆) hsame₆
    rintro _ _ rfl
    exact ⟨by rw [hfailed₆, hfailed₅, hfailed₄, hfailed₃, hfailed₂, hfailed₁], version, rfl, hs₆⟩

/-- Where the `try` stops, the handler may start. -/
theorem fair_createOutputs (rawInputs : List (Str × Value)) :
    Careful (createOutputs host csvPath jsonPath markerPath rows summary runId rawInputs) := by
  have hfield : ReadOnly (requireField summary "schema_version") := by
    unfold requireField
    split
    · exact .pure _
    · exact .raise _
  have hsync (paths : List Path) : Careful (fsyncDirectories paths) :=
    (readOnly_fsyncDirectories paths).aside.careful
  have hdigest (path : Path) : Careful (fileDigest host path) :=
    (readOnly_fileDigest host path).aside.careful
  exact ((opened_withStream (aside_writeRows rows)).bind fun _ =>
    ((opened_withStream (aside_writeJson _)).bind fun _ => (hsync _).bind fun _ =>
      hfield.aside.careful.bind fun _ => (hdigest _).bind fun _ => (hdigest _).bind fun _ =>
      ((opened_withStream (aside_writeJson _)).bind fun _ => hsync _).reserve _).reserve _).reserve _

/-- A kill in the handler finds what some point of the `try` would have left. -/
def Interrupted (before disk : FileSystem) : Prop :=
  ∃ files, Progress csvPath jsonPath markerPath rows summary files ∧ Laid before files disk

/-- The files are unlinked, the last one first. -/
theorem unlinkAll_spec {files : List (Path × Bytes)}
    (hprogress : Progress csvPath jsonPath markerPath rows summary files)
    (hlaid : Laid before files s.disk) :
    wp (ι := Decision) ((files.map Prod.fst).reverse.forM unlink)
      ⟨fun _ s' => s'.disk = before ∧ s'.lost = s.lost, fun _ _ => False,
        fun s' => Interrupted csvPath jsonPath markerPath rows summary before s'.disk⟩ s := by
  refine wp_forM (fun rest s' => ∃ left, rest = (left.map Prod.fst).reverse
    ∧ Progress csvPath jsonPath markerPath rows summary left ∧ Laid before left s'.disk
    ∧ s'.lost = s.lost) ⟨files, rfl, hprogress, hlaid, rfl⟩ ?_ ?_
  · rintro path rest s' ⟨left, hrest, hprogress', hlaid', hlost⟩
    obtain ⟨left, f, rfl⟩ : ∃ l f, left = l ++ [f] := by
      have hne : left ≠ [] := by
        rintro rfl
        cases hrest
      exact ⟨left.dropLast, left.getLast hne, (List.dropLast_append_getLast hne).symm⟩
    rw [List.map_append, List.reverse_append] at hrest
    obtain ⟨rfl, rfl⟩ := List.cons.inj hrest
    refine wp_operation fun d => ?_
    have hdone : ∃ l, (left.map Prod.fst).reverse = (l.map Prod.fst).reverse
        ∧ Progress csvPath jsonPath markerPath rows summary l
        ∧ Laid before l (Function.update s'.disk f.1 none) ∧ s'.lost = s.lost :=
      ⟨left, rfl, hprogress'.dropLast, hlaid'.dropLast, hlost⟩
    cases d with
    | proceed _ => exact hdone
    | fail _ _ => exact hdone
    | kill _ _ => exact ⟨_, hprogress', hlaid'⟩
  · rintro s' ⟨left, hleft, -, hlaid', hlost⟩
    have hnil : left = [] := by
      cases left with
      | nil => rfl
      | cons f left => simp at hleft
    exact ⟨(hnil ▸ hlaid').eq_of_nil, hlost⟩

/-- How the handler may raise: with every file gone again, or before the first `unlink`. -/
def Discarded (before : FileSystem) (s : Session) : Prop :=
  (s.lost = false ∧ s.disk = before)
    ∨ (s.lost = true ∧ s.disk ≠ before
      ∧ Interrupted csvPath jsonPath markerPath rows summary before s.disk)

/-- **The handler** puts the disk back, last file first, unless its `os.close` raises. -/
theorem discardOutputs_spec (e : OutputError)
    (h : InProgress csvPath jsonPath markerPath rows summary before s) (hfair : Fair s) :
    wp (ι := Decision) (discardOutputs e)
      ⟨fun _ _ => False, fun _ => Discarded csvPath jsonPath markerPath rows summary before,
        fun s' => Interrupted csvPath jsonPath markerPath rows summary before s'.disk⟩ s := by
  obtain ⟨files, hprogress, hmade⟩ := h
  have hunlink : ∀ s', s'.disk = s.disk → s'.lost = false →
      wp (do s.created.reverse.forM unlink; raise e : Writing Decision Unit)
        ⟨fun _ _ => False, fun _ => Discarded csvPath jsonPath markerPath rows summary before,
          fun s' => Interrupted csvPath jsonPath markerPath rows summary before s'.disk⟩ s' := by
    intro s' hdisk hlost
    rw [hmade.created]
    refine wp_bind (wp_mono (unlinkAll_spec csvPath jsonPath markerPath rows summary hprogress
      (hdisk ▸ hmade.laid)) ?_ (fun _ _ => False.elim) fun _ => id)
    rintro _ t ⟨ht, htlost⟩
    exact wp_raise (.inl ⟨htlost.trans hlost, ht⟩)
  refine wp_bind (wp_get (wp_bind ?_))
  unfold closeDescriptor
  split
  · rename_i path hopen
    have hleft : s.disk ≠ before := by
      have hcreated := hfair.created (by rw [hopen]; rfl)
      rw [hmade.created, Ne, List.map_eq_nil_iff] at hcreated
      exact hmade.laid.changed hcreated
    refine wp_operation fun d => ?_
    cases d with
    | proceed _ =>
      simp only
      split
      · rename_i hlost
        exact .inr ⟨hlost, hleft, files, hprogress, hmade.laid⟩
      · rename_i hlost
        exact hunlink _ rfl (Bool.eq_false_of_not_eq_true hlost)
    | fail _ _ => exact .inr ⟨rfl, hleft, files, hprogress, hmade.laid⟩
    | kill _ _ => exact ⟨files, hprogress, hmade.laid⟩
  · rename_i hnone
    refine wp_pure (hunlink s rfl ?_)
    cases hlost : s.lost with
    | false => rfl
    | true =>
      have hopen := hfair.named hlost
      rw [hnone] at hopen
      cases hopen

/-- Every run, by how it ends; the state before it may hold anything at the three paths. -/
theorem writeOutputs_spec (s : Session) (hcreated : s.created = []) (hlost : s.lost = false)
    (hclosed : s.descriptor = none) :
    wp (ι := Decision) (writeOutputs host csvPath jsonPath markerPath rows summary runId)
      ⟨fun _ s' => s'.failed = s.failed ∧ ∃ version rawInputs,
          field summary "schema_version" = some version
          ∧ field summary "input_artifacts" = some (.obj rawInputs)
          ∧ Laid s.disk [(csvPath, csvBytes rows), (jsonPath, jsonBytes (.obj summary)),
              (markerPath, markerBytes host csvPath jsonPath rows summary runId version rawInputs)]
            s'.disk,
        fun _ s' => (s'.lost = false ∧ s'.disk = s.disk)
          ∨ (s.disk csvPath = none ∧ s.disk jsonPath = none ∧ s.disk markerPath = none
            ∧ Discarded csvPath jsonPath markerPath rows summary s.disk s'),
        fun s' => s'.disk = s.disk ∨ (s.disk csvPath = none ∧ s.disk jsonPath = none
          ∧ s.disk markerPath = none
          ∧ Interrupted csvPath jsonPath markerPath rows summary s.disk s'.disk)⟩ s := by
  have hsame : ∀ s', SameFiles s s' → s'.lost = false ∧ s'.disk = s.disk :=
    fun s' h => ⟨h.2.lost.trans hlost, h.1⟩
  refine wp_bind (wp_mono (validateOutputState_spec host csvPath jsonPath markerPath runId s) ?_
    (fun _ _ h => .inl (hsame _ h)) fun _ h => .inl h.1)
  rintro _ s ⟨rfl, hcsv, hjson, hmarker⟩
  cases hraw : field summary "input_artifacts" with
  | none => exact wp_raise (.inl ⟨hlost, rfl⟩)
  | some raw =>
    cases raw with
    | obj rawInputs =>
      refine wp_bind (wp_mono (readOnly_verifyInputArtifacts host rawInputs _) ?_
        (fun _ _ h => .inl (hsame _ h)) fun _ h => .inl h.1)
      rintro _ s rfl
      have hstart : Made s.disk [] s := ⟨laid_nil _, hcreated⟩
      have hfair := fair_createOutputs host csvPath jsonPath markerPath rows summary runId rawInputs
        s hlost (fair_of_open hlost fun h => by rw [hclosed] at h; cases h)
      refine wp_handle (wp_mono (wp_and (createOutputs_spec host csvPath jsonPath markerPath rows
        summary runId rawInputs hstart) hfair) ?_ ?_ ?_)
      · rintro _ s' ⟨⟨hfailed, version, hversion, hmade⟩, -⟩
        exact ⟨hfailed, version, rawInputs, hversion, rfl, hmade.laid⟩
      · rintro e s' ⟨hs', hfair'⟩
        exact wp_mono (discardOutputs_spec csvPath jsonPath markerPath rows summary e hs' hfair')
          (fun _ _ => False.elim) (fun _ _ h => .inr ⟨hcsv, hjson, hmarker, h⟩)
          fun _ h => .inr ⟨hcsv, hjson, hmarker, h⟩
      · rintro s' ⟨⟨files, hprogress, hmade⟩, -⟩
        exact .inr ⟨hcsv, hjson, hmarker, files, hprogress, hmade.laid⟩
    | _ => exact wp_raise (.inl ⟨hlost, rfl⟩)

/-- Other paths are as before, wherever the call stopped. -/
theorem Interrupted.frame
    (h : Interrupted csvPath jsonPath markerPath rows summary before disk) {path : Path}
    (hpath : path ∉ [csvPath, jsonPath, markerPath]) : disk path = before path := by
  obtain ⟨files, hprogress, hlaid⟩ := h
  refine hlaid.others path fun hmem => hpath ?_
  simp only [List.mem_cons, List.not_mem_nil, or_false]
  cases hprogress with
  | start => simp at hmem
  | csv content => simp at hmem; simp [hmem]
  | summary content =>
    simp only [List.map_cons, List.map_nil, List.mem_cons, List.not_mem_nil, or_false] at hmem
    rcases hmem with h | h <;> simp [h]
  | marker content => simpa using hmem

/-- What stood at a path before a call stays there. -/
theorem Interrupted.keeps
    (h : Interrupted csvPath jsonPath markerPath rows summary before disk) {path : Path}
    (hpath : before path ≠ none) : disk path = before path := by
  obtain ⟨files, -, hlaid⟩ := h
  refine hlaid.others path fun hmem => ?_
  obtain ⟨f, hf, rfl⟩ := List.mem_map.mp hmem
  exact hpath (hlaid.fresh f hf)

/-- A marker of the call stands only beside the complete other two. -/
theorem Interrupted.marker
    (h : Interrupted csvPath jsonPath markerPath rows summary before disk)
    (hpaths : [csvPath, jsonPath, markerPath].Nodup)
    (hmarker : disk markerPath ≠ before markerPath) :
    disk csvPath = some (.file (csvBytes rows))
      ∧ disk jsonPath = some (.file (jsonBytes (.obj summary))) := by
  obtain ⟨files, hprogress, hlaid⟩ := h
  simp only [List.nodup_cons, List.mem_cons, List.not_mem_nil, or_false, not_or] at hpaths
  have hmem : markerPath ∈ files.map Prod.fst := by
    by_contra hnot
    exact hmarker (hlaid.others markerPath hnot)
  cases hprogress with
  | start => simp at hmem
  | csv content =>
    obtain rfl : markerPath = csvPath := by simpa using hmem
    exact absurd rfl hpaths.1.2
  | summary content =>
    simp only [List.map_cons, List.map_nil, List.mem_cons, List.not_mem_nil, or_false] at hmem
    rcases hmem with heq | heq
    · exact absurd heq.symm hpaths.1.2
    · exact absurd heq.symm hpaths.2.1
  | marker content =>
    exact ⟨hlaid.content (csvPath, csvBytes rows) (by simp),
      hlaid.content (jsonPath, jsonBytes (.obj summary)) (by simp)⟩

/-- **All or nothing, unless a descriptor is lost.** Of every run of `write_outputs` from any state
of the disk:

* it returns only if no operation raised, and then the marker is the text of a completion record
  with the sizes and digests of the CSV and the summary that stand on the disk;
* where it raises, every file that existed is as it was, and no file of the call remains exactly
  when no descriptor was lost: `os.fdopen` did not fail behind the raw file, and the `os.close` of
  the handler did not fail;
* killed anywhere, it has changed nothing that existed, and a marker that it has begun stands beside
  the complete CSV and summary (the three paths differ, as the argument check makes sure);
* with one of the paths taken it does not return, and changes nothing. -/
theorem write_outputs_all_or_nothing (disk : FileSystem) (script : List Decision) :
    (match writeOutputs host csvPath jsonPath markerPath rows summary runId script
        (Session.start disk) with
      | (.returned _, s, _) => s.failed = false
          ∧ (∀ path, disk path ≠ none → s.disk path = disk path)
          ∧ s.disk csvPath = some (.file (csvBytes rows))
          ∧ s.disk jsonPath = some (.file (jsonBytes (.obj summary)))
          ∧ ∃ version rawInputs, s.disk markerPath = some (.file (jsonBytes
            (completion csvPath jsonPath runId version rawInputs (digestOf host (csvBytes rows))
              (digestOf host (jsonBytes (.obj summary))))))
      | (.raised _, s, _) => (∀ path, disk path ≠ none → s.disk path = disk path)
          ∧ (∀ path ∉ [csvPath, jsonPath, markerPath], s.disk path = disk path)
          ∧ (s.disk = disk ↔ s.lost = false)
      | (.killed, s, _) => (∀ path, disk path ≠ none → s.disk path = disk path)
          ∧ (∀ path ∉ [csvPath, jsonPath, markerPath], s.disk path = disk path)
          ∧ ([csvPath, jsonPath, markerPath].Nodup → s.disk markerPath ≠ disk markerPath →
            s.disk csvPath = some (.file (csvBytes rows))
              ∧ s.disk jsonPath = some (.file (jsonBytes (.obj summary)))))
    ∧ ((∃ path ∈ [csvPath, jsonPath, markerPath], disk path ≠ none) →
      ∃ outcome s rest, writeOutputs host csvPath jsonPath markerPath rows summary runId script
          (Session.start disk) = (outcome, s, rest)
        ∧ s.disk = disk ∧ ∀ u, outcome ≠ .returned u) := by
  have hrun := writeOutputs_spec host csvPath jsonPath markerPath rows summary runId
    (Session.start disk) rfl rfl rfl script
  generalize writeOutputs host csvPath jsonPath markerPath rows summary runId script
    (Session.start disk) = result at hrun
  obtain ⟨outcome, s, rest⟩ := result
  -- with a path taken, no file was begun
  have htaken : (∃ path ∈ [csvPath, jsonPath, markerPath], disk path ≠ none) →
      ¬ (disk csvPath = none ∧ disk jsonPath = none ∧ disk markerPath = none) := by
    rintro ⟨path, hmem, hpath⟩ ⟨hcsv, hjson, hmarker⟩
    simp only [List.mem_cons, List.not_mem_nil, or_false] at hmem
    rcases hmem with rfl | rfl | rfl
    · exact absurd hcsv hpath
    · exact absurd hjson hpath
    · exact absurd hmarker hpath
  cases outcome with
  | returned u =>
    obtain ⟨hfailed, version, rawInputs, -, -, hlaid⟩ := hrun
    have hcsv := hlaid.content (csvPath, csvBytes rows) (by simp)
    have hjson := hlaid.content (jsonPath, jsonBytes (.obj summary)) (by simp)
    have hkeeps : ∀ path, disk path ≠ none → s.disk path = disk path := by
      intro path hpath
      refine hlaid.others path fun hmem => ?_
      obtain ⟨f, hf, rfl⟩ := List.mem_map.mp hmem
      exact hpath (hlaid.fresh f hf)
    have hmarker := hlaid.content (markerPath,
      markerBytes host csvPath jsonPath rows summary runId version rawInputs) (by simp)
    refine ⟨⟨hfailed, hkeeps, hcsv, hjson, version, rawInputs, hmarker⟩, fun h => ?_⟩
    refine absurd ⟨?_, ?_, ?_⟩ (htaken h)
    · exact hlaid.fresh (csvPath, csvBytes rows) (by simp)
    · exact hlaid.fresh (jsonPath, jsonBytes (.obj summary)) (by simp)
    · exact hlaid.fresh (markerPath, markerBytes host csvPath jsonPath rows summary runId version
        rawInputs) (by simp)
  | raised e =>
    have hsame (hlost : s.lost = false) (hdisk : s.disk = disk) :
        (∀ path, disk path ≠ none → s.disk path = disk path)
          ∧ (∀ path ∉ [csvPath, jsonPath, markerPath], s.disk path = disk path)
          ∧ (s.disk = disk ↔ s.lost = false) :=
      ⟨fun _ _ => by rw [hdisk], fun _ _ => by rw [hdisk], iff_of_true hdisk hlost⟩
    rcases hrun with ⟨hlost, hdisk⟩ | ⟨hcsv, hjson, hmarker, hdiscarded⟩
    · exact ⟨hsame hlost hdisk, fun _ => ⟨_, _, _, rfl, hdisk, by simp⟩⟩
    · refine ⟨?_, fun h => absurd ⟨hcsv, hjson, hmarker⟩ (htaken h)⟩
      rcases hdiscarded with ⟨hlost, hdisk⟩ | ⟨hlost, hleft, hint⟩
      · exact hsame hlost hdisk
      · refine ⟨fun _ hpath => hint.keeps _ _ _ _ _ hpath,
          fun _ hpath => hint.frame _ _ _ _ _ hpath, iff_of_false hleft ?_⟩
        rw [hlost]
        exact Bool.noConfusion
  | killed =>
    rcases hrun with hsame | ⟨hcsv, hjson, hmarker, hint⟩
    · exact ⟨⟨fun _ _ => by rw [hsame]; rfl, fun _ _ => by rw [hsame]; rfl,
        fun _ hne => absurd (by rw [hsame]; rfl) hne⟩, fun _ => ⟨_, _, _, rfl, hsame, by simp⟩⟩
    · exact ⟨⟨fun _ hpath => hint.keeps _ _ _ _ _ hpath, fun _ hpath => hint.frame _ _ _ _ _ hpath,
        fun hpaths hne => hint.marker _ _ _ _ _ hpaths hne⟩,
        fun h => absurd ⟨hcsv, hjson, hmarker⟩ (htaken h)⟩

end Call

/-! ## A descriptor that is lost

`os.fdopen` fails and has closed the descriptor. `os.close` in the handler then raises, and the
reserved file stays. -/

/-- Every file has the same digest. -/
def plainHost : Host := ⟨fun _ => [], fun _ _ => false, []⟩

/-- No input is recorded. -/
def emptySummary : List (Str × Value) := [(str "input_artifacts", .obj [])]

/-- Three looks, the reservation and the raw file go well, and `os.fdopen` fails above it. -/
def fdopenFails : List Decision := List.replicate 5 (.proceed 0) ++ [.fail 0 0]

/-- **The handler stops at its `os.close`**: the CSV of the call stays behind, empty. -/
theorem fdopen_failure_leaves_csv :
    (∃ s rest, writeOutputs plainHost [[97]] [[98]] [[99]] [] emptySummary [] fdopenFails
        (Session.start fun _ => none) = (.raised .osError, s, rest)
      ∧ s.disk [[97]] = some (.file []))
    ∧ ¬ ∀ (host : Host) (csvPath jsonPath markerPath : Path) (rows : List RowDict)
        (summary : List (Str × Value)) (runId : Str) (disk : FileSystem) (script : List Decision)
        (e : OutputError) (s : Session) (rest : List Decision),
      writeOutputs host csvPath jsonPath markerPath rows summary runId script (Session.start disk)
          = (.raised e, s, rest) → s.disk = disk := by
  have hrun : ∃ s rest, writeOutputs plainHost [[97]] [[98]] [[99]] [] emptySummary [] fdopenFails
        (Session.start fun _ => none) = (.raised .osError, s, rest)
      ∧ s.disk [[97]] = some (.file []) := ⟨_, _, rfl, rfl⟩
  refine ⟨hrun, fun hall => ?_⟩
  obtain ⟨s, rest, hs, hfile⟩ := hrun
  rw [hall _ _ _ _ _ _ _ _ _ _ _ _ hs] at hfile
  cases hfile

end AceXdp
