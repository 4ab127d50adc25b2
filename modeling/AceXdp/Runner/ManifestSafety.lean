import AceXdp.Runner.WriteManifest

/-!
# AceXdp — a manifest appears whole or not at all

* `History`: what the call and the others have done to the files, in turn;
* `Apart`, `Aside`: the call has touched nothing but its temporary file;
* `Published`: it has also made the output once, where nothing stood, with the whole content;
* **`aceWriteManifest_spec`** — every run of `ace_write_manifest`, by how it ends;
* **`write_manifest_all_or_nothing`**, **`write_manifest_first_wins`** — what that means among
  others.
-/

namespace AceXdp.WriteManifest

open Disk Fault Fault.Prog Json
open Manifest (Piece)

/-- From `start` to `final`: others, an operation of the call, others, and so on. -/
def History (others : FileSystem → FileSystem → Prop) :
    FileSystem → List (FileSystem × FileSystem) → FileSystem → Prop
  | start, [], final => start = final
  | start, c :: rest, final => others start c.1 ∧ History others c.2 rest final

/-- The history grows at its end: the others reach `before`, then the call makes one more change. -/
theorem History.snoc {others : FileSystem → FileSystem → Prop} {start middle before after : FileSystem}
    {changes : List (FileSystem × FileSystem)} (h : History others start changes middle)
    (hothers : others middle before) : History others start (changes ++ [(before, after)]) after := by
  induction changes generalizing start with
  | nil =>
    obtain rfl : start = middle := h
    exact ⟨hothers, rfl⟩
  | cons c changes ih => exact ⟨h.1, ih h.2⟩

/-- An operation that touches the temporary file at most. -/
def Apart (temporary : Path) (c : FileSystem × FileSystem) : Prop :=
  ∀ path, path ≠ temporary → c.2 path = c.1 path

/-- The operations of the call, with the one that made the output. -/
structure Published (output temporary : Path) (content : Bytes)
    (changes : List (FileSystem × FileSystem)) : Prop where
  once : ∃ older before newer,
    changes = older ++ (before, Function.update before output (some (.file content))) :: newer
      ∧ before output = none ∧ ∀ c ∈ older ++ newer, Apart temporary c

/-- What others do, as far as the call sees it. -/
def Others (ι : Type) [Adversary ι] (before after : FileSystem) : Prop :=
  ∃ i : ι, after = Adversary.interfere i before

section Spec

variable {ι : Type} [Adversary ι] {α : Type} {start : FileSystem} {output temporary : Path}
variable {s : Preparing} {total : Bytes}

/-! ## Single operations

Every operation starts after the others have been at work, and its change is recorded from there.
What is left to show of one is what it does by itself; a call that may fail or be cut off needs its
invariant in those cases as well. -/

/-- An operation that takes the adversary's decision into account. -/
theorem wp_step {f : Decision → Preparing → Outcome Manifest.Errno α × Preparing}
    {post : Post Preparing Manifest.Errno α}
    (h : ∀ d (i : ι), post.Holds (f d { s with disk := Adversary.interfere i s.disk }).1
      ((f d { s with disk := Adversary.interfere i s.disk }).2.record
        (Adversary.interfere i s.disk))) : wp (step (ι := ι) f) post s :=
  wp_op fun i => h (Adversary.decision i) i

/-- An operation that does nothing when it fails or is cut off. -/
theorem wp_call {f : Preparing → Outcome Manifest.Errno α × Preparing}
    {post : Post Preparing Manifest.Errno α}
    (h : ∀ i : ι, post.Holds (f { s with disk := Adversary.interfere i s.disk }).1
      ((f { s with disk := Adversary.interfere i s.disk }).2.record (Adversary.interfere i s.disk)))
    (hraised : ∀ i : ι, post.raised .other
      (({ s with disk := Adversary.interfere i s.disk } : Preparing).record
        (Adversary.interfere i s.disk)))
    (hkilled : ∀ i : ι, post.killed
      (({ s with disk := Adversary.interfere i s.disk } : Preparing).record
        (Adversary.interfere i s.disk))) : wp (call (ι := ι) f) post s := by
  refine wp_step fun d i => ?_
  cases d with
  | proceed _ => exact h i
  | fail _ _ => exact hraised i
  | kill _ _ => exact hkilled i

/-! ## The open stream

`stdio` stands between the call and the disk: what has been written is on the disk or in the buffer,
and a write that fails in between is only noted. The invariant of the stream is lost with the first
noted error, so that the content is known exactly when `ferror` answers zero. -/

/-- The stream is on the temporary file; as long as no error is noted, what it has taken is on the
disk or in its buffer. -/
def OnFile (temporary : Path) (total : Bytes) (s : Preparing) : Prop :=
  ∃ content pending error, s.stream = some ⟨temporary, pending, error⟩
    ∧ s.disk temporary = some (.file content) ∧ (error = false → content ++ pending = total)

/-- Only the temporary file is different, and the stream is still on it. -/
structure Within (temporary : Path) (s s' : Preparing) : Prop where
  changes : s'.changes = s.changes
  disk : ∀ path, path ≠ temporary → s'.disk path = s.disk path
  stream : (∀ file ∈ s.stream, file.path = temporary) → ∀ file ∈ s'.stream, file.path = temporary

/-- Nothing is different at first. -/
theorem Within.refl (s : Preparing) : Within temporary s s := ⟨rfl, fun _ _ => rfl, id⟩

/-- Two changes to the temporary file are one. -/
theorem Within.trans {s' s'' : Preparing} (h : Within temporary s s') (h' : Within temporary s' s'') :
    Within temporary s s'' :=
  ⟨h'.changes.trans h.changes, fun path hp => (h'.disk path hp).trans (h.disk path hp),
    fun hs => h'.stream (h.stream hs)⟩

/-- Handing a part of the buffer to the disk touches the file of the stream, which is the temporary
one. -/
theorem within_emit (hstream : ∀ file ∈ s.stream, file.path = temporary) (n : Nat) :
    Within temporary s (s.emit n) := by
  unfold Preparing.emit
  cases hfile : s.stream with
  | none => exact .refl s
  | some file =>
    obtain rfl : file.path = temporary := hstream file (by rw [hfile]; rfl)
    exact ⟨rfl, fun path hp => Function.update_of_ne hp _ _, fun _ f hf => by
      cases hf
      rfl⟩

/-- Filling the buffer touches no file. -/
theorem within_buffer (s : Preparing) (bytes : Bytes) : Within temporary s (s.buffer bytes) := by
  refine ⟨rfl, fun _ _ => rfl, fun hs f hf => ?_⟩
  obtain ⟨file, hfile, rfl⟩ := Option.map_eq_some_iff.mp hf
  exact hs file hfile

/-- An error is noted in the stream, not on the disk. -/
theorem within_setError (s : Preparing) : Within temporary s s.setError := by
  refine ⟨rfl, fun _ _ => rfl, fun hs f hf => ?_⟩
  obtain ⟨file, hfile, rfl⟩ := Option.map_eq_some_iff.mp hf
  exact hs file hfile

/-- Closing the stream leaves the files alone. -/
theorem within_closed {s' : Preparing} (h : Within temporary s s') :
    Within temporary s { s' with stream := none } :=
  ⟨h.changes, h.disk, fun _ => nofun⟩

/-- The open stream is the one on the temporary file. -/
theorem OnFile.stream (h : OnFile temporary total s) : ∀ file ∈ s.stream, file.path = temporary := by
  obtain ⟨_, _, _, hstream, -⟩ := h
  intro file hfile
  rw [hstream] at hfile
  cases hfile
  rfl

/-- However much of the buffer goes out, disk and buffer together still hold what was written. -/
theorem OnFile.emit (h : OnFile temporary total s) (n : Nat) : OnFile temporary total (s.emit n) := by
  obtain ⟨content, pending, error, hstream, hdisk, htotal⟩ := h
  refine ⟨content ++ pending.take n, pending.drop n, error, ?_, ?_, fun he => ?_⟩
  · simp only [Preparing.emit, hstream]
  · simp only [Preparing.emit, hstream, hdisk, Function.update_self]
  · rw [List.append_assoc, List.take_append_drop, htotal he]

/-- A write appends to what the stream has taken. -/
theorem OnFile.buffer (h : OnFile temporary total s) (bytes : Bytes) :
    OnFile temporary (total ++ bytes) (s.buffer bytes) := by
  obtain ⟨content, pending, error, hstream, hdisk, htotal⟩ := h
  refine ⟨content, pending ++ bytes, error, ?_, hdisk, fun he => ?_⟩
  · simp only [Preparing.buffer, hstream, Option.map_some]
  · rw [← List.append_assoc, htotal he]

/-- With an error noted nothing is said about what is on the disk. -/
theorem OnFile.setError (h : OnFile temporary total s) (total' : Bytes) :
    OnFile temporary total' s.setError := by
  obtain ⟨content, pending, error, hstream, hdisk, -⟩ := h
  refine ⟨content, pending, true, ?_, hdisk, nofun⟩
  simp only [Preparing.setError, hstream, Option.map_some]

/-- All of the buffer is on the disk. -/
theorem OnFile.emit_pending (h : OnFile temporary total s) (herror : s.hasError = false) :
    (s.emit s.pending).disk temporary = some (.file total) := by
  obtain ⟨content, pending, error, hstream, hdisk, htotal⟩ := h
  simp only [Preparing.hasError, hstream] at herror
  simp only [Preparing.emit, Preparing.pending, hstream, hdisk, Function.update_self,
    List.take_length, htotal herror]

/-- The others leave the temporary file alone, so the stream's content stays known. -/
theorem OnFile.interfered (h : OnFile temporary total s) {disk : FileSystem}
    (hdisk : disk temporary = s.disk temporary) : OnFile temporary total { s with disk := disk } := by
  obtain ⟨content, pending, error, hstream, hfile, htotal⟩ := h
  exact ⟨content, pending, error, hstream, hdisk.trans hfile, htotal⟩

/-- Writing the history down changes nothing. -/
theorem OnFile.record (h : OnFile temporary total s) (before : FileSystem) :
    OnFile temporary total (s.record before) := h

/-! ## The history of a run

Two properties of the history are carried along: nothing but the temporary file has been touched
(before the link), and the output has been made exactly once (behind it). Both survive an operation
on the temporary file, which is all that `Keeping.record` asks of them. -/

/-- `P` holds of what the call has done so far, and it is at its temporary file at most. -/
structure Keeping (ι : Type) [Adversary ι] (start : FileSystem) (temporary : Path)
    (P : List (FileSystem × FileSystem) → Prop) (s : Preparing) : Prop where
  history : History (Others ι) start s.changes s.disk
  changes : P s.changes
  stream : ∀ file ∈ s.stream, file.path = temporary

/-- What an operation on the temporary file keeps. -/
def Grows (temporary : Path) (P : List (FileSystem × FileSystem) → Prop) : Prop :=
  ∀ changes c, P changes → Apart temporary c → P (changes ++ [c])

/-- Before the link: one more operation on the temporary file is one more of the same kind. -/
theorem grows_apart (temporary : Path) : Grows temporary fun cs => ∀ c ∈ cs, Apart temporary c :=
  fun _ _ hchanges hc =>
    List.forall_mem_append.mpr ⟨hchanges, List.forall_mem_singleton.mpr hc⟩

/-- Behind the link: the operation comes after the one that made the output. -/
theorem grows_published (output temporary : Path) (content : Bytes) :
    Grows temporary (Published output temporary content) := by
  rintro _ c ⟨older, before, newer, rfl, hnone, happart⟩ hc
  refine ⟨older, before, newer ++ [c], by simp, hnone, ?_⟩
  rw [← List.append_assoc]
  exact List.forall_mem_append.mpr ⟨happart, List.forall_mem_singleton.mpr hc⟩

variable {P : List (FileSystem × FileSystem) → Prop}

/-- **One operation on the temporary file**, after the others have been at work. -/
theorem Keeping.record (hP : Grows temporary P) (h : Keeping ι start temporary P s) (i : ι)
    {s' : Preparing}
    (hwithin : Within temporary { s with disk := Adversary.interfere i s.disk } s') :
    Keeping ι start temporary P (s'.record (Adversary.interfere i s.disk)) := by
  refine ⟨?_, ?_, hwithin.stream h.stream⟩
  · simp only [Preparing.record, hwithin.changes]
    exact h.history.snoc ⟨i, rfl⟩
  · simp only [Preparing.record, hwithin.changes]
    exact hP _ _ h.changes hwithin.disk

/-! ## Writing

The manifest is written piece by piece. The commas and braces go through unchecked writes, whose
failures show up in `ferror` at the end; the strings are checked, and a string that is no UTF-8 ends
the call. -/

section Write

variable (hP : Grows temporary P)
variable (hrely : ∀ (i : ι) disk, Adversary.interfere i disk temporary = disk temporary)
include hP hrely

/-- A write that fails leaves a stream with an error behind, which allows every total. -/
theorem put_spec (h : Keeping ι start temporary P s) (hfile : OnFile temporary total s)
    (text : List Char) :
    wp (ι := ι) (put text)
      ⟨fun _ s' => Keeping ι start temporary P s' ∧ OnFile temporary (total ++ encode text) s',
        fun _ _ => False, Keeping ι start temporary P⟩ s := by
  refine wp_step fun d i => ?_
  have hstart := hfile.interfered (hrely i s.disk)
  have hwithin (bytes : Bytes) (n : Nat) :=
    (within_buffer { s with disk := Adversary.interfere i s.disk } bytes).trans
      (within_emit (hstart.buffer bytes).stream n)
  cases d with
  | proceed flushed =>
    exact ⟨h.record hP i (hwithin _ _), ((hstart.buffer _).emit flushed).record _⟩
  | fail buffered flushed =>
    exact ⟨h.record hP i ((hwithin _ _).trans (within_setError _)),
      (((hstart.buffer _).emit flushed).setError _).record _⟩
  | kill buffered flushed => exact h.record hP i (hwithin _ _)

/-- A checked write ends the call when it fails; otherwise the text has been taken. -/
theorem putChecked_spec (h : Keeping ι start temporary P s) (hfile : OnFile temporary total s)
    (text : List Char) :
    wp (ι := ι) (putChecked text)
      ⟨fun _ s' => Keeping ι start temporary P s' ∧ OnFile temporary (total ++ encode text) s',
        fun _ => Keeping ι start temporary P, Keeping ι start temporary P⟩ s := by
  refine wp_bind (wp_mono (put_spec hP hrely h hfile text) ?_ (fun _ _ => False.elim) fun _ => id)
  rintro eof s' ⟨hkeep, hfile'⟩
  cases eof with
  | true => exact wp_raise hkeep
  | false => exact wp_pure ⟨hkeep, hfile'⟩

/-- One piece: its text is taken, or the error is noted, or the call ends. -/
theorem putPiece_spec (h : Keeping ι start temporary P s) (hfile : OnFile temporary total s)
    (p : Piece) :
    wp (ι := ι) (putPiece p)
      ⟨fun _ s' => p.Written ∧ Keeping ι start temporary P s'
          ∧ OnFile temporary (total ++ encode p.literal) s',
        fun _ => Keeping ι start temporary P, Keeping ι start temporary P⟩ s := by
  cases p with
  | checked text =>
    exact wp_mono (putChecked_spec hP hrely h hfile text) (fun _ _ hs => ⟨rfl, hs⟩)
      (fun _ _ => id) fun _ => id
  | unchecked text =>
    refine wp_bind (wp_mono (put_spec hP hrely h hfile text) ?_ (fun _ _ => False.elim) fun _ => id)
    exact fun _ s' hs => wp_pure ⟨rfl, hs⟩
  | encoded value =>
    cases htext : Manifest.jsonString (value.map Manifest.CString.memory) with
    | error e =>
      rw [putPiece, htext]
      exact wp_raise h
    | ok text =>
      have hwritten : (Piece.encoded value).Written := Piece.written_of_text htext
      have hliteral : (Piece.encoded value).literal = text := by
        have hboth : Except.ok text = Except.ok (Piece.encoded value).literal :=
          htext.symm.trans hwritten
        cases hboth
        rfl
      rw [putPiece, htext, hliteral]
      exact wp_mono (putChecked_spec hP hrely h hfile text) (fun _ _ hs => ⟨hwritten, hs⟩)
        (fun _ _ => id) fun _ => id

/-- **All the pieces.** What is on the stream is the text of those behind. -/
theorem putPieces_spec (h : Keeping ι start temporary P s) (hfile : OnFile temporary [] s)
    (pieces : List Piece) :
    wp (ι := ι) (pieces.forM putPiece)
      ⟨fun _ s' => (∀ p ∈ pieces, p.Written) ∧ Keeping ι start temporary P s'
          ∧ OnFile temporary (encode (pieces.flatMap Piece.literal)) s',
        fun _ => Keeping ι start temporary P, Keeping ι start temporary P⟩ s := by
  refine wp_forM (fun rest s' => ∃ done, pieces = done ++ rest ∧ (∀ p ∈ done, p.Written)
    ∧ Keeping ι start temporary P s'
    ∧ OnFile temporary (encode (done.flatMap Piece.literal)) s')
    ⟨[], rfl, nofun, h, hfile⟩ ?_ ?_
  · rintro p rest s' ⟨done, rfl, hdone, hkeep, hfile'⟩
    refine wp_mono (putPiece_spec hP hrely hkeep hfile' p) ?_ (fun _ _ => id) fun _ => id
    rintro _ s'' ⟨hwritten, hkeep', hfile''⟩
    refine ⟨done ++ [p], by simp, ?_, hkeep', ?_⟩
    · exact List.forall_mem_append.mpr ⟨hdone, List.forall_mem_singleton.mpr hwritten⟩
    · rw [List.flatMap_append, encode, List.flatMap_append]
      simpa [encode] using hfile''
  · rintro s' ⟨done, hpieces, hdone, hkeep, hfile'⟩
    rw [List.append_nil] at hpieces
    subst hpieces
    exact ⟨hdone, hkeep, hfile'⟩

/-! ## Flushing and closing

`fflush`, `ferror`, `fsync` and `fclose` in this order turn what the stream has taken into the
content of the file. -/

/-- Only the temporary file is touched, however much of the buffer goes out; what has been taken
stays known when the flush succeeds. -/
theorem fflush_spec (h : Keeping ι start temporary P s) (hfile : OnFile temporary total s) :
    wp (ι := ι) fflush
      ⟨fun _ s' => Keeping ι start temporary P s' ∧ OnFile temporary total s',
        fun _ => Keeping ι start temporary P, Keeping ι start temporary P⟩ s := by
  refine wp_step fun d i => ?_
  have hstart := hfile.interfered (hrely i s.disk)
  cases d with
  | proceed _ => exact ⟨h.record hP i (within_emit hstart.stream _), (hstart.emit _).record _⟩
  | fail _ flushed =>
    exact h.record hP i ((within_emit hstart.stream flushed).trans (within_setError _))
  | kill _ flushed => exact h.record hP i (within_emit hstart.stream flushed)

omit hP hrely in
/-- **The unchecked writes are caught here.** -/
theorem ferror_spec (h : Keeping ι start temporary P s) :
    wp (ι := ι) ferror
      ⟨fun _ s' => s' = s ∧ s.hasError = false,
        fun _ => Keeping ι start temporary P, Keeping ι start temporary P⟩ s := by
  refine wp_bind (wp_get ?_)
  dsimp only
  split
  · exact wp_raise h
  · rename_i herror
    exact wp_pure ⟨rfl, Bool.not_eq_true _ ▸ herror⟩

/-- `fsync` changes no file; it can fail or be the last thing that happens. -/
theorem fsync_spec (h : Keeping ι start temporary P s) (hfile : OnFile temporary total s)
    (herror : s.hasError = false) :
    wp (ι := ι) fsync
      ⟨fun _ s' => Keeping ι start temporary P s' ∧ OnFile temporary total s'
          ∧ s'.hasError = false,
        fun _ => Keeping ι start temporary P, Keeping ι start temporary P⟩ s :=
  wp_call (fun i => ⟨h.record hP i (.refl _), (hfile.interfered (hrely i s.disk)).record _, herror⟩)
    (fun i => h.record hP i (.refl _)) fun i => h.record hP i (.refl _)

omit hrely in
/-- Closing a stream, whatever is on it. -/
theorem fclose_spec (h : Keeping ι start temporary P s) :
    wp (ι := ι) fclose
      ⟨fun _ s' => Keeping ι start temporary P s' ∧ s'.stream = none,
        fun _ s' => Keeping ι start temporary P s' ∧ s'.stream = none,
        Keeping ι start temporary P⟩ s := by
  refine wp_step fun d i => ?_
  have hwithin (n : Nat) :=
    within_emit (s := { s with disk := Adversary.interfere i s.disk }) h.stream n
  cases d with
  | proceed _ => exact ⟨h.record hP i (within_closed (hwithin _)), rfl⟩
  | fail _ flushed => exact ⟨h.record hP i (within_closed (hwithin flushed)), rfl⟩
  | kill _ flushed => exact h.record hP i (hwithin flushed)

/-- Closing a stream that took everything. -/
theorem fclose_complete (h : Keeping ι start temporary P s) (hfile : OnFile temporary total s)
    (herror : s.hasError = false) :
    wp (ι := ι) fclose
      ⟨fun _ s' => Keeping ι start temporary P s' ∧ s'.stream = none
          ∧ s'.disk temporary = some (.file total),
        fun _ => Keeping ι start temporary P, Keeping ι start temporary P⟩ s := by
  refine wp_step fun d i => ?_
  have hstart := hfile.interfered (hrely i s.disk)
  cases d with
  | proceed _ =>
    exact ⟨h.record hP i (within_closed (within_emit hstart.stream _)), rfl,
      hstart.emit_pending herror⟩
  | fail _ flushed => exact h.record hP i (within_closed (within_emit hstart.stream flushed))
  | kill _ flushed => exact h.record hP i (within_emit hstart.stream flushed)

/-! ## The file

From `mkstemp` to the open stream the temporary file is empty. Behind it every exit goes through
`closeIfOpen` and `unlink`. -/

/-- The new file is empty and at the temporary path. -/
theorem mkstemp_spec (h : Keeping ι start temporary P s) (hfree : s.disk temporary = none) :
    wp (ι := ι) (mkstemp temporary)
      ⟨fun _ s' => Keeping ι start temporary P s' ∧ s'.disk temporary = some (.file []),
        fun _ => Keeping ι start temporary P, Keeping ι start temporary P⟩ s := by
  refine wp_call (fun i => ?_) (fun i => h.record hP i (.refl _)) fun i => h.record hP i (.refl _)
  have hnone : Adversary.interfere i s.disk temporary = none := (hrely i s.disk).trans hfree
  simp only [hnone]
  refine ⟨h.record hP i ⟨rfl, fun path hp => Function.update_of_ne hp _ _, id⟩, ?_⟩
  exact Function.update_self _ _ _

/-- The mode is not part of the content. -/
theorem fchmod_spec (h : Keeping ι start temporary P s)
    (hdisk : s.disk temporary = some (.file [])) :
    wp (ι := ι) fchmod
      ⟨fun _ s' => Keeping ι start temporary P s' ∧ s'.disk temporary = some (.file []),
        fun _ => Keeping ι start temporary P, Keeping ι start temporary P⟩ s :=
  wp_call (fun i => ⟨h.record hP i (.refl _), (hrely i s.disk).trans hdisk⟩)
    (fun i => h.record hP i (.refl _)) fun i => h.record hP i (.refl _)

/-- The stream starts with nothing taken. -/
theorem fdopen_spec (h : Keeping ι start temporary P s)
    (hdisk : s.disk temporary = some (.file [])) :
    wp (ι := ι) (fdopen temporary)
      ⟨fun _ s' => Keeping ι start temporary P s' ∧ OnFile temporary [] s',
        fun _ => Keeping ι start temporary P, Keeping ι start temporary P⟩ s := by
  refine wp_call (fun i => ⟨h.record hP i ⟨rfl, fun _ _ => rfl, fun _ f hf => ?_⟩, ?_⟩)
    (fun i => h.record hP i (.refl _)) fun i => h.record hP i (.refl _)
  · cases hf
    rfl
  · exact ⟨[], [], false, rfl, (hrely i s.disk).trans hdisk, fun _ => rfl⟩

omit hrely in
/-- The removal touches the temporary file only, and it is gone when it succeeds. -/
theorem unlink_spec (h : Keeping ι start temporary P s) :
    wp (ι := ι) (unlink temporary)
      ⟨fun _ s' => Keeping ι start temporary P s'
          ∧ (s'.leftBehind = false → s'.disk temporary = none),
        fun _ _ => False, Keeping ι start temporary P⟩ s := by
  refine wp_step fun d i => ?_
  cases d with
  | proceed _ =>
    exact ⟨h.record hP i ⟨rfl, fun path hp => Function.update_of_ne hp _ _, id⟩,
      fun _ => Function.update_self _ _ _⟩
  | fail _ _ => exact ⟨h.record hP i ⟨rfl, fun _ _ => rfl, id⟩, nofun⟩
  | kill _ _ => exact h.record hP i (.refl _)

omit hrely in
/-- Closing on the way out may still write to the temporary file, and its errors are swallowed. -/
theorem closeIfOpen_spec (h : Keeping ι start temporary P s) :
    wp (ι := ι) closeIfOpen
      ⟨fun _ => Keeping ι start temporary P, fun _ _ => False, Keeping ι start temporary P⟩ s := by
  refine wp_bind (wp_get ?_)
  dsimp only
  split
  · refine wp_handle (wp_mono (fclose_spec hP h) (fun _ _ hs => hs.1) ?_ fun _ => id)
    exact fun _ _ hs => wp_pure hs.1
  · exact wp_pure h

omit hrely in
/-- **The cleanup**, whatever was done before. -/
theorem cleanUp_spec (h : Keeping ι start temporary P s) :
    wp (ι := ι) (cleanUp temporary)
      ⟨fun _ s' => Keeping ι start temporary P s'
          ∧ (s'.leftBehind = false → s'.disk temporary = none),
        fun _ _ => False, Keeping ι start temporary P⟩ s :=
  wp_bind (wp_mono (closeIfOpen_spec hP h) (fun _ _ hs => unlink_spec hP hs)
    (fun _ _ => id) fun _ => id)

end Write

/-! ## The whole call

The link is the one operation that touches the output. In front of it the history is apart from the
output, behind it the output has been published; the call fails in the first case and succeeds, or
is killed, in the second. -/

/-- Nothing but the temporary file has been touched. -/
abbrev AllApart (temporary : Path) (changes : List (FileSystem × FileSystem)) : Prop :=
  ∀ c ∈ changes, Apart temporary c

/-- **`link`** is the one operation that leaves the temporary file, and makes the output at once. -/
theorem link_spec
    (hrely : ∀ (i : ι) disk, Adversary.interfere i disk temporary = disk temporary)
    (h : Keeping ι start temporary (AllApart temporary) s)
    (hdisk : s.disk temporary = some (.file total)) :
    wp (ι := ι) (link temporary output)
      ⟨fun _ => Keeping ι start temporary (Published output temporary total),
        fun _ => Keeping ι start temporary (AllApart temporary),
        Keeping ι start temporary (AllApart temporary)⟩ s := by
  have hP := grows_apart temporary
  refine wp_call (fun i => ?_) (fun i => h.record hP i (.refl _)) fun i => h.record hP i (.refl _)
  cases houtput : Adversary.interfere i s.disk output with
  | some _ =>
    simp only [houtput]
    exact h.record hP i (.refl _)
  | none =>
    simp only [houtput, (hrely i s.disk).trans hdisk]
    refine ⟨h.history.snoc ⟨i, rfl⟩, ⟨s.changes, _, [], rfl, houtput, ?_⟩, h.stream⟩
    rw [List.append_nil]
    exact h.changes

/-- From `mkstemp` to the removal of the temporary file. -/
theorem publish_spec
    (hrely : ∀ (i : ι) disk, Adversary.interfere i disk temporary = disk temporary)
    (h : Keeping ι start temporary (AllApart temporary) s) (hfree : s.disk temporary = none)
    (record : Manifest.Record Manifest.CString) (conditionJson : List Char) :
    wp (ι := ι) (publish output temporary record conditionJson)
      ⟨fun _ s' => ∃ text, Manifest.manifestText record conditionJson = .ok text
          ∧ Keeping ι start temporary (Published output temporary (encode text)) s',
        fun _ => Keeping ι start temporary (AllApart temporary),
        Keeping ι start temporary (AllApart temporary)⟩ s := by
  have hP := grows_apart temporary
  refine wp_bind (wp_mono (mkstemp_spec hP hrely h hfree) ?_ (fun _ _ => id) fun _ => id)
  rintro _ s₁ ⟨h₁, hdisk₁⟩
  refine wp_bind (wp_mono (fchmod_spec hP hrely h₁ hdisk₁) ?_ (fun _ _ => id) fun _ => id)
  rintro _ s₂ ⟨h₂, hdisk₂⟩
  refine wp_bind (wp_mono (fdopen_spec hP hrely h₂ hdisk₂) ?_ (fun _ _ => id) fun _ => id)
  rintro _ s₃ ⟨h₃, hfile₃⟩
  refine wp_bind (wp_mono (putPieces_spec hP hrely h₃ hfile₃ _) ?_ (fun _ _ => id) fun _ => id)
  rintro _ s₄ ⟨hwritten, h₄, hfile₄⟩
  refine wp_bind (wp_mono (fflush_spec hP hrely h₄ hfile₄) ?_ (fun _ _ => id) fun _ => id)
  rintro _ s₅ ⟨h₅, hfile₅⟩
  refine wp_bind (wp_mono (ferror_spec h₅) ?_ (fun _ _ => id) fun _ => id)
  rintro _ _ ⟨rfl, herror⟩
  refine wp_bind (wp_mono (fsync_spec hP hrely h₅ hfile₅ herror) ?_ (fun _ _ => id) fun _ => id)
  rintro _ s₆ ⟨h₆, hfile₆, herror₆⟩
  refine wp_bind (wp_mono (fclose_complete hP hrely h₆ hfile₆ herror₆) ?_ (fun _ _ => id) fun _ => id)
  rintro _ s₇ ⟨h₇, -, hdisk₇⟩
  exact wp_mono (link_spec hrely h₇ hdisk₇)
    (fun _ _ h₈ => ⟨_, Manifest.piecesText_eq hwritten, h₈⟩) (fun _ _ => id) fun _ => id

/-- The arguments that are not refused. -/
def ValidArguments (output : Path) (runId interface repo : Manifest.CString)
    (conditionJson : List Char) : Prop :=
  output ≠ [] ∧ Manifest.validRunId runId ∧ interface.bytes ≠ [] ∧ repo.bytes ≠ []
    ∧ conditionJson ≠ []

/-- The output has been made, with the manifest of what was gathered. -/
def Complete (ι : Type) [Adversary ι] (start : FileSystem) (output temporary : Path)
    (gathered : Except Manifest.Errno (Manifest.Record Manifest.CString))
    (conditionJson : List Char) (s : Preparing) : Prop :=
  ∃ record text, gathered = .ok record ∧ Manifest.manifestText record conditionJson = .ok text
    ∧ Keeping ι start temporary (Published output temporary (encode text)) s

/-- The temporary file is gone unless its removal failed. -/
def Removed (temporary : Path) (s : Preparing) : Prop :=
  s.leftBehind = false → s.disk temporary = none

section Call

variable (hrely : ∀ (i : ι) disk, Adversary.interfere i disk temporary = disk temporary)
include hrely

/-- The look at the output changes nothing. -/
theorem lstat_spec (h : Keeping ι start temporary (AllApart temporary) s)
    (hfree : s.disk temporary = none) :
    wp (ι := ι) (lstat output)
      ⟨fun _ s' => Keeping ι start temporary (AllApart temporary) s' ∧ s'.disk temporary = none,
        fun _ s' => Keeping ι start temporary (AllApart temporary) s' ∧ Removed temporary s',
        Keeping ι start temporary (AllApart temporary)⟩ s := by
  have hP := grows_apart temporary
  have hnone (i : ι) := (hrely i s.disk).trans hfree
  refine wp_call (fun i => ?_) (fun i => ⟨h.record hP i (.refl _), fun _ => hnone i⟩)
    fun i => h.record hP i (.refl _)
  cases houtput : Adversary.interfere i s.disk output with
  | some _ =>
    simp only [houtput]
    exact ⟨h.record hP i (.refl _), fun _ => hnone i⟩
  | none =>
    simp only [houtput]
    exact ⟨h.record hP i (.refl _), hnone i⟩

/-- What is gathered comes from other programs, none of which touches the files. -/
theorem gatherRecord_spec (h : Keeping ι start temporary (AllApart temporary) s)
    (hfree : s.disk temporary = none) (m : Manifest.Machine)
    (runId conditionId interface repo : Manifest.CString) :
    wp (ι := ι) (gatherRecord m runId conditionId interface repo)
      ⟨fun record s' => Manifest.gather m runId conditionId interface repo = .ok record
          ∧ Keeping ι start temporary (AllApart temporary) s' ∧ s'.disk temporary = none,
        fun _ s' => Keeping ι start temporary (AllApart temporary) s' ∧ Removed temporary s',
        Keeping ι start temporary (AllApart temporary)⟩ s := by
  have hP := grows_apart temporary
  have hnone (i : ι) := (hrely i s.disk).trans hfree
  refine wp_call (fun i => ?_) (fun i => ⟨h.record hP i (.refl _), fun _ => hnone i⟩)
    fun i => h.record hP i (.refl _)
  cases hgather : Manifest.gather m runId conditionId interface repo with
  | ok record => exact ⟨rfl, h.record hP i (.refl _), hnone i⟩
  | error e => exact ⟨h.record hP i (.refl _), fun _ => hnone i⟩

/-- **Every run of `ace_write_manifest`**, by how it ends. -/
theorem aceWriteManifest_spec {suffix : Str} (htemporary : temporaryPath output suffix = temporary)
    (hfree : start temporary = none) (m : Manifest.Machine)
    (runId conditionId interface repo : Manifest.CString) (conditionJson : List Char) :
    wp (ι := ι) (aceWriteManifest m output suffix runId conditionId interface repo conditionJson)
      ⟨fun _ s' => ValidArguments output runId interface repo conditionJson
          ∧ Complete ι start output temporary (Manifest.gather m runId conditionId interface repo)
            conditionJson s' ∧ Removed temporary s',
        fun _ s' => Keeping ι start temporary (AllApart temporary) s' ∧ Removed temporary s',
        fun s' => Keeping ι start temporary (AllApart temporary) s'
          ∨ Complete ι start output temporary (Manifest.gather m runId conditionId interface repo)
            conditionJson s'⟩
      (.start start) := by
  have hP := grows_apart temporary
  have h₀ : Keeping ι start temporary (AllApart temporary) (.start start) := ⟨rfl, nofun, nofun⟩
  unfold aceWriteManifest
  split
  · exact wp_bind (wp_raise ⟨h₀, fun _ => hfree⟩)
  rename_i hvalid
  simp only [not_or, not_not] at hvalid
  refine wp_bind (wp_mono (lstat_spec hrely h₀ hfree) ?_ (fun _ _ => id) fun _ => .inl)
  rintro _ s₁ ⟨h₁, hfree₁⟩
  refine wp_bind (wp_mono (gatherRecord_spec hrely h₁ hfree₁ m runId conditionId interface repo) ?_
    (fun _ _ => id) fun _ => .inl)
  rintro record s₂ ⟨hgather, h₂, hfree₂⟩
  rw [htemporary]
  refine wp_bind (wp_handle (wp_mono (publish_spec hrely h₂ hfree₂ record conditionJson) ?_ ?_
    fun _ => .inl))
  · rintro _ s₃ ⟨text, htext, h₃⟩
    refine wp_mono (cleanUp_spec (grows_published output temporary (encode text)) h₃) ?_
      (fun _ _ => False.elim) fun _ h₄ => .inr ⟨record, text, hgather, htext, h₄⟩
    exact fun _ _ h₄ => ⟨hvalid, ⟨record, text, hgather, htext, h₄.1⟩, h₄.2⟩
  · intro e s₃ h₃
    refine wp_bind (wp_mono (cleanUp_spec hP h₃) (fun _ _ h₄ => wp_raise h₄)
      (fun _ _ => False.elim) fun _ => .inl)

end Call

end Spec

/-! ## Results

Of the specification only the two statements about the caller's view are left: what has happened to
the files, and what that means among other writers. -/

section Results

variable {ι : Type} [Adversary ι] {start : FileSystem} {output : Path} {suffix : Str}

/-- **All or nothing.** However operations fail, wherever the process is killed and whatever others
do, as long as they leave the temporary file alone: either the call has touched nothing but that
file, and has not succeeded; or it has made the output in one step, where nothing stood, with the
whole manifest, and has not failed. Unless it was killed, or the removal itself failed, the
temporary file is gone. -/
theorem write_manifest_all_or_nothing
    (hrely : ∀ (i : ι) disk, Adversary.interfere i disk (temporaryPath output suffix)
      = disk (temporaryPath output suffix))
    (hfree : start (temporaryPath output suffix) = none)
    (m : Manifest.Machine) (runId conditionId interface repo : Manifest.CString) (conditionJson : List Char)
    {script rest : List ι} {outcome : Outcome Manifest.Errno Unit} {final : Preparing}
    (hrun : aceWriteManifest m output suffix runId conditionId interface repo conditionJson script
      (.start start) = (outcome, final, rest)) :
    History (Others ι) start final.changes final.disk
      ∧ ((AllApart (temporaryPath output suffix) final.changes ∧ outcome ≠ .returned ())
        ∨ ((∀ e, outcome ≠ .raised e) ∧ ∃ record text,
            Manifest.gather m runId conditionId interface repo = .ok record
            ∧ Manifest.manifestText record conditionJson = .ok text
            ∧ Published output (temporaryPath output suffix) (encode text) final.changes))
      ∧ (outcome ≠ .killed → Removed (temporaryPath output suffix) final) := by
  have hspec := aceWriteManifest_spec hrely rfl hfree m runId conditionId interface repo
    conditionJson script
  rw [hrun] at hspec
  cases outcome with
  | returned _ =>
    obtain ⟨-, ⟨record, text, hgather, htext, hkeep⟩, hremoved⟩ := hspec
    exact ⟨hkeep.history, .inr ⟨nofun, record, text, hgather, htext, hkeep.changes⟩,
      fun _ => hremoved⟩
  | raised e => exact ⟨hspec.1.history, .inl ⟨hspec.1.changes, nofun⟩, fun _ => hspec.2⟩
  | killed =>
    rcases hspec with hkeep | ⟨record, text, hgather, htext, hkeep⟩
    · exact ⟨hkeep.history, .inl ⟨hkeep.changes, nofun⟩, fun h => absurd rfl h⟩
    · exact ⟨hkeep.history, .inr ⟨nofun, record, text, hgather, htext, hkeep.changes⟩,
        fun h => absurd rfl h⟩

/-- None of the artifacts is there, and the repository has a control character in its path. -/
def sampleMachine : Manifest.Machine where
  realpath _ := some (.ofChars "/home/ace\t".toList)
  uname := some (.ofChars "6.6.51".toList, .ofChars "aarch64".toList)
  head _ := some (encode "c0ffee\n".toList)
  status _ := some []
  artifact _ := .absent
  cmdline := some (encode "quiet\n".toList)
  realtime := none
  cpuOnline := some (encode "0-3\n".toList)
  cpuIsolated := none

def sampleOutput : Path := [str "run", str "manifest.json"]

def sampleTemporary : Path := temporaryPath sampleOutput (str "aaaaaa")

/-- The call on a free path. -/
def sampleRun (script : List ι) : Outcome Manifest.Errno Unit × Preparing × List ι :=
  aceWriteManifest sampleMachine sampleOutput (str "aaaaaa") (.ofChars "pilot-mixed-r0001".toList)
    (.ofChars "pilot".toList) (.ofChars "eth0".toList) (.ofChars ".".toList) ['{', '}'] script
    (.start fun _ => none)

/-- A run is its outcome, its state and the rest of the script. -/
theorem sampleRun_parts (script : List ι) :
    sampleRun script = ((sampleRun script).1, (sampleRun script).2.1, (sampleRun script).2.2) := rfl

/-- On a free path and without faults the call succeeds. -/
theorem sampleRun_returned : (sampleRun ([] : List Decision)).1 = .returned () := by
  decide +kernel

/-- The comma behind the run's identifier, whose write is not checked, is lost. -/
def lostComma : List Decision := List.replicate 8 (.proceed 0) ++ [.fail 0 0]

/-- With nothing in its way the call publishes its manifest. When a write that is not checked loses
its text, the call fails, and nothing but the temporary file was touched; that one is gone. -/
theorem write_manifest_all_or_nothing_sample :
    (∃ content, Published sampleOutput sampleTemporary content
          (sampleRun ([] : List Decision)).2.1.changes
        ∧ Removed sampleTemporary (sampleRun ([] : List Decision)).2.1)
      ∧ (sampleRun lostComma).1 = .raised .other
      ∧ AllApart sampleTemporary (sampleRun lostComma).2.1.changes
      ∧ Removed sampleTemporary (sampleRun lostComma).2.1 := by
  have hfree : (fun _ => none : FileSystem) sampleTemporary = none := rfl
  have hraised : (sampleRun lostComma).1 = .raised .other := by decide +kernel
  refine ⟨?_, hraised, ?_⟩
  · obtain ⟨-, hpublished, hremoved⟩ := write_manifest_all_or_nothing
      (fun _ _ => rfl) hfree sampleMachine _ _ _ _ _ (sampleRun_parts ([] : List Decision))
    rw [sampleRun_returned] at hpublished hremoved
    rcases hpublished with ⟨-, hnot⟩ | ⟨-, -, text, -, -, hpublished⟩
    · exact absurd rfl hnot
    · exact ⟨_, hpublished, hremoved nofun⟩
  · obtain ⟨-, hapart, hremoved⟩ := write_manifest_all_or_nothing
      (fun _ _ => rfl) hfree sampleMachine _ _ _ _ _ (sampleRun_parts lostComma)
    rw [hraised] at hapart hremoved
    rcases hapart with ⟨hapart, -⟩ | ⟨hnot, -⟩
    · exact ⟨hapart, hremoved nofun⟩
    · exact absurd rfl (hnot _)

/-! ## The first one wins

The others may make the output but never take it away. Then neither does the call: the link refuses
a path where something stands, and everything else stays apart from it. -/

/-- The temporary path has a suffix that the output has not. -/
theorem temporaryPath_ne (output : Path) (suffix : Str) : temporaryPath output suffix ≠ output := by
  intro h
  have hlast := congrArg List.getLast? h
  rw [temporaryPath, List.getLast?_concat] at hlast
  cases hname : output.getLast? with
  | none =>
    rw [hname] at hlast
    cases hlast
  | some name =>
    rw [hname, Option.getD_some, Option.some.injEq] at hlast
    have hlength := congrArg List.length hlast
    rw [List.length_append, List.length_append] at hlength
    have hdots : (str ".tmp.").length = 5 := by decide
    omega

/-- What stands at a path that nobody takes anything away from is still there in the end. -/
theorem History.keeps {others : FileSystem → FileSystem → Prop} {final : FileSystem} {path : Path}
    {entry : Entry} {changes : List (FileSystem × FileSystem)}
    (hothers : ∀ a b, others a b → a path = some entry → b path = some entry)
    (hown : ∀ c ∈ changes, c.1 path = some entry → c.2 path = some entry)
    (h : History others start changes final) (hstart : start path = some entry) :
    final path = some entry := by
  induction changes generalizing start with
  | nil =>
    obtain rfl : start = final := h
    exact hstart
  | cons c changes ih =>
    rw [List.forall_mem_cons] at hown
    exact ih hown.2 h.2 (hown.1 (hothers _ _ h.1 hstart))

/-- A history up to one of its operations, and from there on. -/
theorem History.split {others : FileSystem → FileSystem → Prop} {final : FileSystem}
    {older newer : List (FileSystem × FileSystem)} {c : FileSystem × FileSystem}
    (h : History others start (older ++ c :: newer) final) :
    (∃ middle, History others start older middle ∧ others middle c.1)
      ∧ History others c.2 newer final := by
  induction older generalizing start with
  | nil => exact ⟨⟨start, rfl, h.1⟩, h.2⟩
  | cons d older ih =>
    obtain ⟨⟨middle, holder, hmiddle⟩, hnewer⟩ := ih h.2
    exact ⟨⟨middle, ⟨h.1, holder⟩, hmiddle⟩, hnewer⟩

/-- Away from the temporary file an operation keeps what is there. -/
theorem Apart.keeps {temporary path : Path} {entry : Entry} {c : FileSystem × FileSystem}
    (h : Apart temporary c) (hne : path ≠ temporary) (hentry : c.1 path = some entry) :
    c.2 path = some entry :=
  (h path hne).trans hentry

/-- What the call never does to its output. -/
theorem AllApart.keeps {changes : List (FileSystem × FileSystem)}
    (h : AllApart (temporaryPath output suffix) changes) :
    ∀ c ∈ changes, ∀ entry, c.1 output = some entry → c.2 output = some entry :=
  fun c hc _ hentry => Apart.keeps (h c hc) (temporaryPath_ne output suffix).symm hentry

/-- The operation that makes the output finds nothing there, so nothing is taken away. -/
theorem Published.keeps {changes : List (FileSystem × FileSystem)} {content : Bytes}
    (h : Published output (temporaryPath output suffix) content changes) :
    ∀ c ∈ changes, ∀ entry, c.1 output = some entry → c.2 output = some entry := by
  obtain ⟨older, before, newer, rfl, hnone, happart⟩ := h
  have hrest := AllApart.keeps happart
  intro c hc entry hentry
  rcases List.mem_append.mp hc with hc | hc
  · exact hrest c (List.mem_append_left _ hc) entry hentry
  · rcases List.mem_cons.mp hc with rfl | hc
    · exact absurd (hnone.symm.trans hentry) nofun
    · exact hrest c (List.mem_append_right _ hc) entry hentry

/-- A publication among others that take nothing away: nothing was there before it, and it stays. -/
theorem Published.stands {others : FileSystem → FileSystem → Prop} {final : FileSystem}
    {changes : List (FileSystem × FileSystem)} {content : Bytes}
    (h : Published output (temporaryPath output suffix) content changes)
    (hhistory : History others start changes final)
    (hothers : ∀ entry a b, others a b → a output = some entry → b output = some entry) :
    start output = none ∧ final output = some (.file content) := by
  obtain ⟨older, before, newer, rfl, hnone, happart⟩ := h
  have hrest := AllApart.keeps happart
  obtain ⟨⟨middle, holder, hmiddle⟩, hnewer⟩ := hhistory.split
  constructor
  · by_contra hsome
    obtain ⟨entry, hentry⟩ := Option.ne_none_iff_exists'.mp hsome
    have hbefore := hothers entry _ _ hmiddle (holder.keeps (hothers entry)
      (fun c hc => hrest c (List.mem_append_left _ hc) entry) hentry)
    exact absurd (hnone.symm.trans hbefore) nofun
  · exact hnewer.keeps (hothers _) (fun c hc => hrest c (List.mem_append_right _ hc) _)
      (Function.update_self _ _ _)

/-- **The first one wins.** Among others that leave the temporary file alone and take nothing away
from the output, the call takes nothing away from it either; what stood there at the start is still
there and the call has not succeeded; and when it succeeds, nothing stood there and in the end its
manifest does. -/
theorem write_manifest_first_wins
    (hrely : ∀ (i : ι) disk, Adversary.interfere i disk (temporaryPath output suffix)
      = disk (temporaryPath output suffix))
    (hkeep : ∀ (i : ι) disk entry, disk output = some entry →
      Adversary.interfere i disk output = some entry)
    (hfree : start (temporaryPath output suffix) = none)
    (m : Manifest.Machine) (runId conditionId interface repo : Manifest.CString) (conditionJson : List Char)
    {script rest : List ι} {outcome : Outcome Manifest.Errno Unit} {final : Preparing}
    (hrun : aceWriteManifest m output suffix runId conditionId interface repo conditionJson script
      (.start start) = (outcome, final, rest)) :
    (∀ c ∈ final.changes, ∀ entry, c.1 output = some entry → c.2 output = some entry)
      ∧ (∀ entry, start output = some entry →
          outcome ≠ .returned () ∧ final.disk output = some entry)
      ∧ (outcome = .returned () → start output = none ∧ ∃ record text,
          Manifest.gather m runId conditionId interface repo = .ok record
          ∧ Manifest.manifestText record conditionJson = .ok text
          ∧ final.disk output = some (.file (encode text))) := by
  have hothers : ∀ entry a b, Others ι a b → a output = some entry → b output = some entry := by
    rintro entry a _ ⟨i, rfl⟩ hentry
    exact hkeep i a entry hentry
  have hspec := aceWriteManifest_spec hrely rfl hfree m runId conditionId interface repo
    conditionJson script
  rw [hrun] at hspec
  have hcases : ∀ P, Keeping ι start (temporaryPath output suffix) P final →
      (∀ changes, P changes → ∀ c ∈ changes, ∀ entry, c.1 output = some entry →
        c.2 output = some entry) →
      (∀ c ∈ final.changes, ∀ entry, c.1 output = some entry → c.2 output = some entry)
        ∧ ∀ entry, start output = some entry → final.disk output = some entry := by
    intro P hkept hguarantee
    have hown := hguarantee _ hkept.changes
    exact ⟨hown, fun entry hentry => hkept.history.keeps (hothers entry)
      (fun c hc => hown c hc entry) hentry⟩
  cases outcome with
  | returned _ =>
    obtain ⟨-, ⟨record, text, hgather, htext, hkept⟩, -⟩ := hspec
    obtain ⟨hown, hentries⟩ := hcases _ hkept fun _ => Published.keeps
    obtain ⟨hnone, hfile⟩ := hkept.changes.stands hkept.history hothers
    refine ⟨hown, fun entry hentry => ?_, fun _ => ⟨hnone, record, text, hgather, htext, hfile⟩⟩
    rw [hnone] at hentry
    cases hentry
  | raised e =>
    obtain ⟨hown, hentries⟩ := hcases _ hspec.1 fun _ => AllApart.keeps
    exact ⟨hown, fun entry hentry => ⟨nofun, hentries entry hentry⟩, nofun⟩
  | killed =>
    rcases hspec with hkept | ⟨_, _, -, -, hkept⟩
    · obtain ⟨hown, hentries⟩ := hcases _ hkept fun _ => AllApart.keeps
      exact ⟨hown, fun entry hentry => ⟨nofun, hentries entry hentry⟩, nofun⟩
    · obtain ⟨hown, hentries⟩ := hcases _ hkept fun _ => Published.keeps
      exact ⟨hown, fun entry hentry => ⟨nofun, hentries entry hentry⟩, nofun⟩

/-- Another writer of the path: it may publish its manifest when an operation starts. -/
inductive Rival where
  | waits
  | publishes (content : Bytes)

instance : Adversary Rival where
  default := .waits
  decision _ := .proceed 0
  interfere rival disk :=
    match rival with
    | .waits => disk
    | .publishes content =>
      if disk sampleOutput = none then Function.update disk sampleOutput (some (.file content))
      else disk
  reading _ disk path := (disk.read path, disk)

/-- The rival is done when `lstat` has just found nothing. -/
def overtaken : List Rival := [.waits, .waits, .publishes [0x7b, 0x7d]]

/-- The rival leaves the temporary file alone. -/
theorem rival_rely (rival : Rival) (disk : FileSystem) :
    Adversary.interfere rival disk sampleTemporary = disk sampleTemporary := by
  cases rival with
  | waits => rfl
  | publishes content =>
    show (if disk sampleOutput = none then _ else disk) sampleTemporary = _
    split
    · exact Function.update_of_ne (temporaryPath_ne _ _) _ _
    · rfl

/-- The rival does not touch an output that is there. -/
theorem rival_keep (rival : Rival) (disk : FileSystem) (entry : Entry)
    (h : disk sampleOutput = some entry) :
    Adversary.interfere rival disk sampleOutput = some entry := by
  cases rival with
  | waits => exact h
  | publishes content =>
    show (if disk sampleOutput = none then _ else disk) sampleOutput = _
    rw [if_neg (by rw [h]; exact Option.some_ne_none entry), h]

/-- Left alone, the call's manifest stands in the end. Overtaken by another writer, the call fails,
and what the other one has written still stands. -/
theorem write_manifest_first_wins_sample :
    (∃ content, (sampleRun ([] : List Rival)).2.1.disk sampleOutput = some (.file content))
      ∧ (sampleRun overtaken).1 = .raised .eexist
      ∧ (sampleRun overtaken).2.1.disk sampleOutput = some (.file [0x7b, 0x7d])
      ∧ ∀ c ∈ (sampleRun overtaken).2.1.changes, ∀ entry, c.1 sampleOutput = some entry →
        c.2 sampleOutput = some entry := by
  have hfree : (fun _ => none : FileSystem) sampleTemporary = none := rfl
  have hreturned : (sampleRun ([] : List Rival)).1 = .returned () := by decide +kernel
  refine ⟨?_, by decide +kernel, by decide +kernel, ?_⟩
  · obtain ⟨-, -, hwins⟩ := write_manifest_first_wins rival_rely rival_keep hfree sampleMachine
      _ _ _ _ _ (sampleRun_parts [])
    obtain ⟨-, _, text, -, -, hfile⟩ := hwins hreturned
    exact ⟨_, hfile⟩
  · exact (write_manifest_first_wins rival_rely rival_keep hfree sampleMachine _ _ _ _ _
      (sampleRun_parts overtaken)).1

end Results

end AceXdp.WriteManifest
