import AceXdp.Experiment.Collect

/-!
# AceXdp — what a collection leaves behind

* `Watching`: operations that only look; `Watched`: a program of such operations;
* `Keeping`: the files that have been copied stay, and what must not be there yet is not there;
* **`copyAll_spec`**, **`fillOutput_spec`** — every run of the copy, by how it ends;
* **`collectResults_spec`** — every run of `collect_results`, by how it ends.
-/

namespace AceXdp.Collect

open Disk Fault Fault.Prog Json

/-- Others leave the output alone, and reading there finds what is there. -/
structure Aloof (ι : Type) [Bystander ι] (output : Path) : Prop where
  files : ∀ (i : ι) (tree : FileTree) p, output <+: p →
    (Bystander.interfere i tree).entry p = tree.entry p
  reading : ∀ (i : ι) (tree : FileTree) p content, output <+: p →
    tree.entry p = some (.file content) → Bystander.reading i tree p = some content

/-- The files at some moment of the call. -/
def Collecting.Seen (s : Collecting) (tree : FileTree) : Prop := ∃ c ∈ s.changes, c.1 = tree

/-! ## Looking

Up to `mkdir` the call only looks. Each look sees the files as the others have left them at that
moment, so what is known of a result is that some tree, seen during the call, gave it. -/

/-- What has happened between two states is more in the second. -/
structure Onward (s s' : Collecting) : Prop where
  changes : s.changes <+: s'.changes
  found : s.found <+: s'.found

theorem Onward.refl (s : Collecting) : Onward s s := ⟨List.prefix_rfl, List.prefix_rfl⟩

theorem Onward.trans {s s' s'' : Collecting} (h : Onward s s') (h' : Onward s' s'') : Onward s s'' :=
  ⟨h.changes.trans h'.changes, h.found.trans h'.found⟩

theorem Onward.seen {s s' : Collecting} (h : Onward s s') {tree : FileTree} (hseen : s.Seen tree) :
    s'.Seen tree := by
  obtain ⟨c, hc, rfl⟩ := hseen
  exact ⟨c, h.changes.subset hc, rfl⟩

/-- The call has changed nothing between the two states, and nothing is different in the output. -/
structure Watching (output : Path) (s s' : Collecting) : Prop where
  onward : Onward s s'
  unchanged : ∀ c ∈ s'.changes, c ∈ s.changes ∨ c.2 = c.1
  tree : ∀ p, output <+: p → s'.tree.entry p = s.tree.entry p
  stream : s'.stream = s.stream

section Look

variable {ι α β γ : Type} {output : Path} {s s' s'' : Collecting}

/-- The call has not begun to look. -/
theorem Watching.refl (s : Collecting) : Watching output s s :=
  ⟨.refl s, fun _ => .inl, fun _ _ => rfl, rfl⟩

theorem Watching.trans (h : Watching output s s') (h' : Watching output s' s'') :
    Watching output s s'' :=
  ⟨h.onward.trans h'.onward,
    fun c hc => (h'.unchanged c hc).elim (h.unchanged c) .inr,
    fun p hp => (h'.tree p hp).trans (h.tree p hp), h'.stream.trans h.stream⟩

/-- A program that only looks, and what its result has to do with what was seen. -/
def Watched (output : Path) (m : Collection ι α) (Q : α → Collecting → Prop) (s : Collecting) :
    Prop :=
  wp m ⟨fun a s' => Watching output s s' ∧ Q a s', fun _ s' => Watching output s s',
    fun s' => Watching output s s'⟩ s

theorem watched_pure {a : α} {Q : α → Collecting → Prop} (h : Q a s) :
    Watched output (pure a : Collection ι α) Q s :=
  wp_pure ⟨.refl s, h⟩

theorem watched_raise {e : ExperimentError} {Q : α → Collecting → Prop} :
    Watched output (raise e : Collection ι α) Q s :=
  wp_raise (.refl s)

/-- **Sequencing.** The second part sees what the first one has seen. -/
theorem Watched.bind {m : Collection ι α} {f : α → Collection ι β} {Q : α → Collecting → Prop}
    {R : β → Collecting → Prop} (hm : Watched output m Q s)
    (hf : ∀ a s', Watching output s s' → Q a s' → Watched output (f a) R s') :
    Watched output (m >>= f) R s := by
  refine wp_bind (wp_mono hm ?_ (fun _ _ => id) fun _ => id)
  rintro a s' ⟨hwatch, hq⟩
  exact wp_mono (hf a s' hwatch hq) (fun _ _ h => ⟨hwatch.trans h.1, h.2⟩)
    (fun _ _ h => hwatch.trans h) fun _ h => hwatch.trans h

/-- Consequence for programs that look. -/
theorem Watched.mono {m : Collection ι α} {Q R : α → Collecting → Prop} (hm : Watched output m Q s)
    (h : ∀ a s', Watching output s s' → Q a s' → R a s') : Watched output m R s :=
  wp_mono hm (fun a s' hq => ⟨hq.1, h a s' hq.1 hq.2⟩) (fun _ _ => id) fun _ => id

/-- Behind a check its condition is false. -/
theorem watched_raiseIf {condition : Bool} {message : String} :
    Watched output (raiseIf condition message : Collection ι Unit)
      (fun _ _ => condition = false) s := by
  cases condition with
  | true => exact watched_raise
  | false => exact watched_pure rfl

/-- A check on what was read before. -/
theorem watched_lift {result : Checked α} :
    Watched output (lift result : Collection ι α) (fun a _ => result = .ok a) s := by
  cases result with
  | ok a => exact watched_pure rfl
  | error e => exact watched_raise

variable [Bystander ι]

/-- An operation starts after the others have been at work. -/
theorem wp_step {f : ι → Decision → Collecting → Outcome ExperimentError α × Collecting}
    {post : Post Collecting ExperimentError α}
    (h : ∀ (i : ι) d, post.Holds (f i d { s with tree := Bystander.interfere i s.tree }).1
      ((f i d { s with tree := Bystander.interfere i s.tree }).2.record
        (Bystander.interfere i s.tree))) : wp (step f) post s :=
  wp_op fun i => h i (Bystander.decision i)

/-- The state behind an operation that changes nothing. -/
def Collecting.glance (s : Collecting) (i : ι) (more : List (Path × Bytes)) : Collecting :=
  ({ s with
    tree := Bystander.interfere i s.tree
    found := s.found ++ more } : Collecting).record (Bystander.interfere i s.tree)

/-- The look sees the tree the others have left. -/
theorem seen_glance (i : ι) (more : List (Path × Bytes)) :
    (s.glance i more).Seen (Bystander.interfere i s.tree) :=
  ⟨_, List.mem_append_right _ (List.mem_singleton.mpr rfl), rfl⟩

/-- A look that finds no content is a record of the tree alone. -/
theorem glance_nil (i : ι) :
    s.glance i [] = ({ s with tree := Bystander.interfere i s.tree } : Collecting).record
      (Bystander.interfere i s.tree) := by
  rw [Collecting.glance, List.append_nil]

variable (haloof : Aloof ι output)
include haloof

theorem watching_glance (i : ι) (more : List (Path × Bytes)) :
    Watching output s (s.glance i more) := by
  refine ⟨⟨List.prefix_append _ _, List.prefix_append _ _⟩, ?_, haloof.files i s.tree, rfl⟩
  intro c hc
  rcases List.mem_append.mp hc with hc | hc
  · exact .inl hc
  · rw [List.mem_singleton.mp hc]
    exact .inr rfl

/-- A call whose effect is a glance. -/
theorem watched_call {f : ι → Collecting → Outcome ExperimentError α × Collecting}
    {Q : α → Collecting → Prop}
    (hf : ∀ i : ι, ∃ outcome more, f i { s with tree := Bystander.interfere i s.tree }
        = (outcome, { s with
            tree := Bystander.interfere i s.tree
            found := s.found ++ more })
      ∧ outcome ≠ .killed ∧ ∀ a, outcome = .returned a → Q a (s.glance i more)) :
    Watched output (call f) Q s := by
  refine wp_step fun i d => ?_
  have hnone := watching_glance haloof (s := s) i []
  rw [glance_nil] at hnone
  cases d with
  | proceed _ =>
    obtain ⟨outcome, more, heq, hkilled, hq⟩ := hf i
    dsimp only
    rw [heq]
    cases outcome with
    | returned a => exact ⟨watching_glance haloof i more, hq a rfl⟩
    | raised e => exact watching_glance haloof i more
    | killed => exact absurd rfl hkilled
  | fail _ _ => exact hnone
  | kill _ _ => exact hnone

/-- The result of a look is that of a tree that was seen. -/
theorem watched_look {f : FileTree → Checked α} :
    Watched output (look f : Collection ι α) (fun a s' => ∃ tree, s'.Seen tree ∧ f tree = .ok a)
      s := by
  refine watched_call haloof fun i => ?_
  cases hf : f (Bystander.interfere i s.tree) with
  | ok a =>
    refine ⟨.returned a, [], by rw [List.append_nil], nofun, ?_⟩
    rintro _ ⟨⟩
    exact ⟨_, seen_glance i [], hf⟩
  | error e => exact ⟨.raised e, [], by rw [List.append_nil], nofun, nofun⟩

/-- What a reading finds is recorded. -/
theorem watched_readFile {path : Path} :
    Watched output (readFile path : Collection ι Bytes) (fun content s' => (path, content) ∈ s'.found)
      s := by
  refine watched_call haloof fun i => ?_
  cases hread : Bystander.reading i (Bystander.interfere i s.tree) path with
  | some content =>
    refine ⟨.returned content, [(path, content)], rfl, nofun, ?_⟩
    rintro _ ⟨⟩
    exact List.mem_append_right _ (List.mem_singleton.mpr rfl)
  | none => exact ⟨.raised .os, [], by rw [List.append_nil], nofun, nofun⟩

/-- The members are those of a content that was read. -/
theorem watched_readJson {path : Path} :
    Watched output (readJson path : Collection ι Members) (fun members s' => ∃ content,
      (path, content) ∈ s'.found ∧ loadJson content = .ok members) s := by
  have hread : Watched output (handle (readFile path) fun _ => raise .input : Collection ι Bytes)
      (fun content s' => (path, content) ∈ s'.found) s :=
    wp_handle (wp_mono (watched_readFile haloof) (fun _ _ => id)
      (fun _ _ h => wp_raise h) fun _ => id)
  refine hread.bind fun content s' _ hfound => ?_
  exact watched_lift.mono fun members s'' hwatch hload =>
    ⟨content, hwatch.onward.found.subset hfound, hload⟩

/-! ## The tests of the markers

A source counts as completed when its descriptor says so, `.complete` is there and `.failed` is not.
The descriptor and the markers are read at different moments, and that is all that is claimed of
them. -/

variable (host : Host)

/-- Where a descriptor comes from. -/
def Loaded (directory : Path) (descriptor : Members) (s : Collecting) : Prop :=
  ∃ tree path content, s.Seen tree
    ∧ containedFile tree directory (directory ++ [str "run.json"]) (str "run.json") = .ok path
    ∧ (path, content) ∈ s.found ∧ loadJson content = .ok descriptor

omit haloof [Bystander ι] in
/-- Where the descriptor comes from stays known. -/
theorem Loaded.mono {directory : Path} {descriptor : Members} (h : Loaded directory descriptor s)
    (honward : Onward s s') : Loaded directory descriptor s' := by
  obtain ⟨tree, path, content, hseen, hpath, hfound, hload⟩ := h
  exact ⟨tree, path, content, honward.seen hseen, hpath, honward.found.subset hfound, hload⟩

/-- A run whose descriptor was read as completed, and whose markers said the same. -/
structure WasCompleted (s : Collecting) (directory : Path) : Prop where
  descriptor : ∃ descriptor, Loaded directory descriptor s
    ∧ equalsStr (field descriptor "state") (str "completed") = true
  complete : ∃ tree, s.Seen tree ∧ tree.entry.isFile (directory ++ [str ".complete"]) = true
  notFailed : ∃ tree, s.Seen tree ∧ tree.entry.present (directory ++ [str ".failed"]) = false

omit haloof [Bystander ι] in
/-- A run that was seen completed stays so, whatever happens to its directory later. -/
theorem WasCompleted.mono {directory : Path} (h : WasCompleted s directory)
    (honward : Onward s s') : WasCompleted s' directory := by
  obtain ⟨⟨descriptor, hloaded, hstate⟩, ⟨t, ht, hfile⟩, t', ht', hnot⟩ := h
  exact ⟨⟨descriptor, hloaded.mono honward, hstate⟩, ⟨t, honward.seen ht, hfile⟩, t',
    honward.seen ht', hnot⟩

/-- The descriptor was read from its file and passed the checks. -/
theorem watched_loadDescriptor {directory : Path} :
    Watched output (loadDescriptor host directory : Collection ι (Members × List Members))
      (fun loaded s' => Loaded directory loaded.1 s'
        ∧ ∃ placement, checkDescriptor host loaded.1 = .ok (loaded.2, placement)) s := by
  refine (watched_look haloof).bind fun path s₁ _ hpath => ?_
  refine (watched_readJson haloof).bind fun descriptor s₂ h₂ hread => ?_
  refine watched_lift.bind fun checked s₃ h₃ hchecked => watched_pure ?_
  obtain ⟨tree, hseen, hpath⟩ := hpath
  obtain ⟨content, hfound, hload⟩ := hread
  exact ⟨⟨tree, path, content, (h₂.trans h₃).onward.seen hseen, hpath,
    h₃.onward.found.subset hfound, hload⟩, checked.2, hchecked⟩

/-- The answer `true` is a completed run that was seen. -/
theorem watched_isCompleted {directory : Path} {descriptor : Members}
    (hloaded : Loaded directory descriptor s) :
    Watched output (isCompleted directory descriptor : Collection ι Bool)
      (fun completed s' => completed = true → WasCompleted s' directory) s := by
  unfold isCompleted
  split
  · rename_i hstate
    refine (watched_look haloof).bind fun complete s₁ h₁ hcomplete => ?_
    split
    · rename_i htrue
      refine (watched_look haloof).bind fun failed s₂ h₂ hfailed => watched_pure fun hnot => ?_
      obtain ⟨t, ht, hcomplete⟩ := hcomplete
      obtain ⟨t', ht', hfailed⟩ := hfailed
      refine ⟨⟨descriptor, hloaded.mono (h₁.trans h₂).onward, hstate⟩,
        ⟨t, h₂.onward.seen ht, ?_⟩, t', ht', ?_⟩
      · rw [Except.ok.inj hcomplete]
        exact htrue
      · rw [Except.ok.inj hfailed]
        simpa using hnot
    · exact watched_pure nofun
  · exact watched_pure nofun

/-- The check against the sender's statistics claims nothing behind it. -/
theorem watched_checkSenderFlow {sender : Path} {flow : Members} :
    Watched output (checkSenderFlow host sender flow : Collection ι Unit) (fun _ _ => True) s := by
  refine (watched_look haloof).bind fun path s₁ _ _ => ?_
  refine (watched_readJson haloof).bind fun stats s₂ _ _ => ?_
  exact watched_raiseIf.mono fun _ _ _ _ => trivial

omit haloof [Bystander ι] in
/-- A loop of programs that only look. -/
theorem watched_forM {f : β → Collection ι PUnit}
    (h : ∀ b s, Watched output (f b) (fun _ _ => True) s) (items : List β) :
    ∀ s, Watched output (items.forM f) (fun _ _ => True) s := by
  induction items with
  | nil => exact fun s => watched_pure trivial
  | cons b items ih => exact fun s => (h b s).bind fun _ s' _ _ => ih s'

omit haloof [Bystander ι] in
/-- **A loop that keeps the results there are**: each came from one of the items, and what was found
of an item still holds at the end. -/
theorem watched_gatherEach {f : β → Collection ι (Option γ)}
    {Q : β → Option γ → Collecting → Prop}
    (hpersist : ∀ b r s s', Watching output s s' → Q b r s → Q b r s')
    (h : ∀ b s, Watched output (f b) (Q b) s) (items : List β) :
    ∀ s, Watched output (gatherEach f items) (fun results s' =>
      (∀ b ∈ items, ∃ r, Q b r s' ∧ ∀ x ∈ r, x ∈ results)
        ∧ ∀ x ∈ results, ∃ b ∈ items, Q b (some x) s') s := by
  induction items with
  | nil => exact fun s => watched_pure ⟨nofun, nofun⟩
  | cons b items ih =>
    intro s
    refine (h b s).bind fun r s₁ _ hr => (ih s₁).bind fun results s₂ h₂ hresults => watched_pure ?_
    have hr' := hpersist b r _ _ h₂ hr
    obtain ⟨hitems, hsource⟩ := hresults
    refine ⟨fun b' hb' => ?_, fun x hx => ?_⟩
    · rcases List.mem_cons.mp hb' with rfl | hb'
      · exact ⟨r, hr', fun x hx => List.mem_append_left _ (Option.mem_toList.mpr hx)⟩
      · obtain ⟨r', hq, hmem⟩ := hitems b' hb'
        exact ⟨r', hq, fun x hx => List.mem_append_right _ (hmem x hx)⟩
    · rcases List.mem_append.mp hx with hx | hx
      · obtain rfl : r = some x := Option.mem_toList.mp hx
        exact ⟨b, List.mem_cons_self, hr'⟩
      · obtain ⟨b', hb', hq⟩ := hsource x hx
        exact ⟨b', List.mem_cons_of_mem _ hb', hq⟩

/-! ## What is collected

A walk lists a source once and then examines its paths one by one. Files are kept, directories and
the analyses are skipped; anything else is refused, so that what is kept is every file of the
listing. -/

/-- What is left out of a walk: the results of an analysis and the receiver's marker. -/
def Skipped (receiver source path : Path) : Prop :=
  isAnalysis (path.drop source.length) = true
    ∨ source = receiver ∧ path.drop source.length = [str ".complete"]

/-- What a walk has made of a path. -/
def Sorted (receiver source pre path : Path) (result : Option (Path × Path)) (s : Collecting) :
    Prop :=
  (result = none
      ∧ (Skipped receiver source path ∨ ∃ tree, s.Seen tree ∧ tree.entry.isDir path = true))
    ∨ (result = some (path, pre ++ path.drop source.length) ∧ ¬Skipped receiver source path)

omit haloof [Bystander ι] in
/-- What a walk has made of a path stays what it was. -/
theorem Sorted.mono {receiver source pre path : Path} {result : Option (Path × Path)}
    (h : Sorted receiver source pre path result s) (honward : Onward s s') :
    Sorted receiver source pre path result s' := by
  rcases h with ⟨hnone, hskip | ⟨tree, hseen, hdir⟩⟩ | h
  · exact .inl ⟨hnone, .inl hskip⟩
  · exact .inl ⟨hnone, .inr ⟨tree, honward.seen hseen, hdir⟩⟩
  · exact .inr h

theorem watched_artifactOf {receiver source pre path : Path} :
    Watched output (artifactOf receiver source pre path : Collection ι (Option (Path × Path)))
      (Sorted receiver source pre path) s := by
  unfold artifactOf
  extract_lets relative
  split
  · rename_i hanalysis
    exact watched_pure (.inl ⟨rfl, .inl (.inl hanalysis)⟩)
  rename_i hanalysis
  refine (watched_look haloof).bind fun symlink s₁ _ _ => ?_
  refine watched_raiseIf.bind fun _ s₂ _ _ => ?_
  refine (watched_look haloof).bind fun directory s₃ _ hdirectory => ?_
  split
  · rename_i htrue
    obtain ⟨tree, hseen, hdir⟩ := hdirectory
    refine watched_pure (.inl ⟨rfl, .inr ⟨tree, hseen, ?_⟩⟩)
    rw [Except.ok.inj hdir]
    exact htrue
  refine (watched_look haloof).bind fun file s₄ _ _ => ?_
  refine watched_raiseIf.bind fun _ s₅ _ _ => watched_pure ?_
  split
  · rename_i hcomplete
    exact .inl ⟨rfl, .inl (.inr hcomplete)⟩
  · rename_i hcomplete
    exact .inr ⟨rfl, fun h => h.elim hanalysis hcomplete⟩

/-- A walk over what stood below a directory: every file of it, and nothing else. -/
def Walked (receiver source pre : Path) (files : List (Path × Path)) (s : Collecting) : Prop :=
  ∃ tree, s.Seen tree
    ∧ (∀ path ∈ tree.below source, Skipped receiver source path
        ∨ (path, pre ++ path.drop source.length) ∈ files
        ∨ ∃ later, s.Seen later ∧ later.entry.isDir path = true)
    ∧ ∀ file ∈ files, file.1 ∈ tree.below source
        ∧ file.2 = pre ++ file.1.drop source.length ∧ ¬Skipped receiver source file.1

omit haloof [Bystander ι] in
/-- The result of a walk outlives later changes. -/
theorem Walked.mono {receiver source pre : Path} {files : List (Path × Path)}
    (h : Walked receiver source pre files s) (honward : Onward s s') :
    Walked receiver source pre files s' := by
  obtain ⟨tree, hseen, hpaths, hfiles⟩ := h
  refine ⟨tree, honward.seen hseen, fun path hpath => ?_, hfiles⟩
  exact (hpaths path hpath).imp_right fun h => h.imp_right
    fun ⟨later, hlater, hdir⟩ => ⟨later, honward.seen hlater, hdir⟩

/-- Every file of the listing is in the result or was skipped, and nothing else is. -/
theorem watched_walk {receiver source pre : Path} :
    Watched output (walk receiver source pre : Collection ι (List (Path × Path)))
      (Walked receiver source pre) s := by
  refine (watched_look haloof).bind fun paths s₁ _ hpaths => ?_
  obtain ⟨tree, hseen, hpaths⟩ := hpaths
  obtain rfl : tree.below source = paths := Except.ok.inj hpaths
  refine (watched_gatherEach (fun _ _ _ _ hwatch h => h.mono hwatch.onward)
    (fun path s => watched_artifactOf haloof) _ s₁).mono fun files s₂ h₂ hgathered => ?_
  obtain ⟨hsorted, hsource⟩ := hgathered
  refine ⟨tree, h₂.onward.seen hseen, fun path hpath => ?_, fun file hfile => ?_⟩
  · obtain ⟨r, hr, hmem⟩ := hsorted path hpath
    rcases hr with ⟨-, hskip | hdir⟩ | ⟨rfl, -⟩
    · exact .inl hskip
    · exact .inr (.inr hdir)
    · exact .inr (.inl (hmem _ rfl))
  · obtain ⟨path, hpath, ⟨hnone, -⟩ | ⟨hsome, hskip⟩⟩ := hsource file hfile
    · cases hnone
    · obtain rfl := Option.some.inj hsome
      exact ⟨hpath, rfl, hskip⟩

/-- The second copy of a flow's statistics is a file of the sender's directory. -/
theorem watched_flowArtifact {sender : Path} {flow : Members} :
    Watched output (flowArtifact sender flow : Collection ι (Option (Path × Path)))
      (fun r s' => ∀ file ∈ r, file.2 = [senderFlowName flow] ∧ ∃ tree, s'.Seen tree
        ∧ containedFile tree sender (sender ++ [senderFlowName flow]) (senderFlowName flow)
          = .ok file.1) s := by
  refine (watched_look haloof).bind fun present s₁ _ _ => ?_
  split
  · refine (watched_look haloof).bind fun path s₂ _ hpath => watched_pure ?_
    rintro _ ⟨⟩
    exact ⟨rfl, hpath⟩
  · exact watched_pure nofun

/-- Statistics of a flow, from the sender's directory. -/
def FlowCopy (sender : Path) (flows : List Members) (file : Path × Path) (s : Collecting) : Prop :=
  ∃ flow ∈ flows, file.2 = [senderFlowName flow] ∧ ∃ tree, s.Seen tree
    ∧ containedFile tree sender (sender ++ [senderFlowName flow]) (senderFlowName flow) = .ok file.1

/-- What is known when the output is about to be made. -/
structure Chosen (host : Host) (receiver sender : Path) (selection : Selection) (s : Collecting) :
    Prop where
  completed : selection.completed = true → WasCompleted s receiver ∧ WasCompleted s sender
  files : ∃ descriptor flows placement receiverFiles senderFiles flowFiles,
    Loaded receiver descriptor s ∧ checkDescriptor host descriptor = .ok (flows, placement)
      ∧ selection.runId = runIdOf descriptor
      ∧ selection.files = receiverFiles ++ senderFiles ++ flowFiles
      ∧ Walked receiver receiver [] receiverFiles s
      ∧ Walked receiver sender [str "sender"] senderFiles s
      ∧ ∀ file ∈ flowFiles, FlowCopy sender flows file s
  distinct : (selection.files.map Prod.snd).Nodup
  own : ∀ name ∈ ownNames, name ∉ selection.files.map Prod.snd

/-- All that is known when `mkdir` is called: who completed, what was walked, and that no two
targets coincide. -/
theorem watched_selectArtifacts {floatEq : List Char → List Char → Bool} {receiver sender : Path} :
    Watched output (selectArtifacts host floatEq receiver sender output : Collection ι Selection)
      (Chosen host receiver sender) s := by
  refine watched_raiseIf.bind fun _ s₁ _ _ => ?_
  refine (watched_loadDescriptor haloof host).bind fun rx s₂ _ hrx => ?_
  refine (watched_loadDescriptor haloof host).bind fun tx s₃ h₃ htx => ?_
  refine watched_raiseIf.bind fun _ s₄ h₄ _ => ?_
  refine (watched_isCompleted haloof (hrx.1.mono (h₃.trans h₄).onward)).bind
    fun rxCompleted s₅ h₅ hrxCompleted => ?_
  have hboth : Watched output
      (if rxCompleted then isCompleted sender tx.1 else pure false : Collection ι Bool)
      (fun completed s' => completed = true → WasCompleted s' receiver ∧ WasCompleted s' sender)
      s₅ := by
    split
    · rename_i htrue
      refine (watched_isCompleted haloof (htx.1.mono (h₄.trans h₅).onward)).mono
        fun completed s' h' hcompleted htrue' => ?_
      exact ⟨(hrxCompleted htrue).mono h'.onward, hcompleted htrue'⟩
    · exact watched_pure nofun
  refine hboth.bind fun completed s₆ h₆ hcompleted => ?_
  refine (watched_forM (fun flow s => watched_checkSenderFlow haloof host) _ s₆).bind
    fun _ s₇ h₇ _ => ?_
  refine (watched_walk haloof).bind fun receiverFiles s₈ h₈ hreceiver => ?_
  refine (watched_walk haloof).bind fun senderFiles s₉ h₉ hsender => ?_
  refine (watched_gatherEach (Q := fun flow r s' => ∀ file ∈ r, file.2 = [senderFlowName flow]
      ∧ ∃ tree, s'.Seen tree ∧ containedFile tree sender (sender ++ [senderFlowName flow])
        (senderFlowName flow) = .ok file.1)
    (fun flow r _ _ hwatch h file hfile => ?_) (fun flow s => watched_flowArtifact haloof) rx.2
    s₉).bind fun flowFiles s₁₀ h₁₀ hflow => ?_
  · obtain ⟨hname, tree, hseen, hpath⟩ := h file hfile
    exact ⟨hname, tree, hwatch.onward.seen hseen, hpath⟩
  refine watched_raiseIf.bind fun _ s₁₁ h₁₁ hnames => watched_pure ?_
  have hlater := ((h₇.trans h₈).trans h₉).trans (h₁₀.trans h₁₁)
  have hearlier := ((h₃.trans h₄).trans h₅).trans (h₆.trans hlater)
  obtain ⟨placement, hchecked⟩ := hrx.2
  simp only [Bool.or_eq_false_iff, Bool.not_eq_false', decide_eq_true_eq, List.any_eq_false,
    List.contains_iff_mem] at hnames
  refine ⟨fun htrue => ?_, ?_, hnames.1, fun name hown hmem => hnames.2 name hmem hown⟩
  · obtain ⟨hr, hs⟩ := hcompleted htrue
    exact ⟨hr.mono hlater.onward, hs.mono hlater.onward⟩
  · refine ⟨rx.1, rx.2, placement, receiverFiles, senderFiles, flowFiles,
      hrx.1.mono hearlier.onward, hchecked, rfl, List.append_assoc .. ▸ rfl,
      hreceiver.mono (h₉.trans (h₁₀.trans h₁₁)).onward, hsender.mono (h₁₀.trans h₁₁).onward,
      fun file hfile => ?_⟩
    obtain ⟨flow, hmem, hfile⟩ := hflow.2 file hfile
    obtain ⟨hname, tree, hseen, hpath⟩ := hfile file rfl
    exact ⟨flow, hmem, hname, tree, h₁₁.onward.seen hseen, hpath⟩

end Look

/-! ## Filling the output

From `mkdir` on the output is the call's own: others leave it alone. The invariant carries two
lists, the files that are there with their content and the names that must not be there yet. The
latter are the markers; as long as they are barred, no one takes the directory for a run. -/

/-- An operation that touches the output at most. -/
def Inside (output : Path) (c : FileTree × FileTree) : Prop :=
  ∀ p, ¬output <+: p → c.2.entry p = c.1.entry p

/-- Since `s₀` the call has been in the output only; the files in `kept` are there, and those in
`barred` are not, unless as directories. -/
structure Keeping (s₀ : Collecting) (output : Path) (kept : List (Path × Bytes))
    (barred : List Path) (s : Collecting) : Prop where
  onward : Onward s₀ s
  inside : ∀ c ∈ s.changes, Inside output c
  files : ∀ f ∈ kept, output <+: f.1 ∧ s.tree.entry f.1 = some (.file f.2)
  stream : ∀ f ∈ s.stream, output <+: f.1 ∧ f.1 ∉ kept.map Prod.fst ∧ f.1 ∉ barred
  absent : ∀ p ∈ barred, output <+: p
    ∧ (s.tree.entry p = none ∨ s.tree.entry p = some .directory)

/-- Only the file that is open is different. -/
structure Streaming (s s' : Collecting) : Prop where
  changes : s'.changes = s.changes
  found : s.found <+: s'.found
  tree : ∀ p, (∀ f ∈ s.stream, f.1 ≠ p) → s'.tree.entry p = s.tree.entry p
  stream : ∀ f' ∈ s'.stream, ∃ f ∈ s.stream, f.1 = f'.1

/-- What has been written to the open file is on the disk or in its buffer. -/
def OnFile (path : Path) (total : Bytes) (s : Collecting) : Prop :=
  ∃ content pending, s.stream = some (path, pending)
    ∧ s.tree.entry path = some (.file content) ∧ content ++ pending = total

section Streams

variable {s s' s'' : Collecting} {path : Path} {total : Bytes}

theorem Streaming.refl (s : Collecting) : Streaming s s :=
  ⟨rfl, List.prefix_rfl, fun _ _ => rfl, fun f hf => ⟨f, hf, rfl⟩⟩

/-- Writing goes on in the same file. -/
theorem Streaming.trans (h : Streaming s s') (h' : Streaming s' s'') : Streaming s s'' := by
  refine ⟨h'.changes.trans h.changes, h.found.trans h'.found, fun p hp => ?_, fun f'' hf'' => ?_⟩
  · refine (h'.tree p fun f' hf' => ?_).trans (h.tree p hp)
    obtain ⟨f, hf, heq⟩ := h.stream f' hf'
    exact heq ▸ hp f hf
  · obtain ⟨f', hf', heq'⟩ := h'.stream f'' hf''
    obtain ⟨f, hf, heq⟩ := h.stream f' hf'
    exact ⟨f, hf, heq.trans heq'⟩

/-- The history behind a write, from the tree that the others have left. -/
theorem Streaming.onward {tree : FileTree} (h : Streaming { s with tree := tree } s')
    (before : FileTree) : Onward s (s'.record before) := by
  have hchanges : s'.changes = s.changes := h.changes
  exact ⟨hchanges ▸ List.prefix_append _ _, h.found⟩

/-- A part of the buffer goes to the open file. -/
theorem streaming_emit (s : Collecting) (n : Nat) : Streaming s (s.emit n) := by
  unfold Collecting.emit
  cases hstream : s.stream with
  | none => exact .refl s
  | some f =>
    refine ⟨rfl, List.prefix_rfl, fun p hp => FileTree.set_of_ne fun heq => ?_, fun f' hf' => ?_⟩
    · exact hp f hstream heq.symm
    · obtain rfl := Option.some.inj hf'
      exact ⟨f, hstream, rfl⟩

/-- Filling the buffer touches no file. -/
theorem streaming_buffer (s : Collecting) (bytes : Bytes) : Streaming s (s.buffer bytes) := by
  refine ⟨rfl, List.prefix_rfl, fun _ _ => rfl, fun f' hf' => ?_⟩
  obtain ⟨f, hf, rfl⟩ := Option.map_eq_some_iff.mp hf'
  exact ⟨f, hf, rfl⟩

theorem streaming_closed (h : Streaming s s') : Streaming s { s' with stream := none } :=
  ⟨h.changes, h.found, h.tree, nofun⟩

/-- A write of any size, whole or cut short. -/
theorem streaming_put (s : Collecting) (d : Decision) (bytes : Bytes) :
    Streaming s (s.put d bytes).2 := by
  cases d with
  | proceed flushed => exact (streaming_buffer s _).trans (streaming_emit _ _)
  | fail buffered flushed => exact (streaming_buffer s _).trans (streaming_emit _ _)
  | kill buffered flushed => exact (streaming_buffer s _).trans (streaming_emit _ _)

/-- Writing down what was read touches no file. -/
theorem streaming_found (s : Collecting) (more : List (Path × Bytes)) :
    Streaming s { s with found := s.found ++ more } :=
  ⟨rfl, List.prefix_append _ _, fun _ _ => rfl, fun f hf => ⟨f, hf, rfl⟩⟩

/-- A write appends to what the file has been given. -/
theorem OnFile.buffer (h : OnFile path total s) (bytes : Bytes) :
    OnFile path (total ++ bytes) (s.buffer bytes) := by
  obtain ⟨content, pending, hstream, hentry, rfl⟩ := h
  refine ⟨content, pending ++ bytes, ?_, hentry, (List.append_assoc _ _ _).symm⟩
  rw [Collecting.buffer, hstream]
  rfl

/-- However much of the buffer goes out, disk and buffer together hold what was written. -/
theorem OnFile.emit (h : OnFile path total s) (n : Nat) : OnFile path total (s.emit n) := by
  obtain ⟨content, pending, hstream, hentry, rfl⟩ := h
  refine ⟨content ++ pending.take n, pending.drop n, ?_, ?_, ?_⟩
  · simp only [Collecting.emit, hstream]
  · simp only [Collecting.emit, hstream, hentry, FileTree.set_self]
  · rw [List.append_assoc, List.take_append_drop]

/-- All of the buffer is on the disk. -/
theorem OnFile.emit_pending (h : OnFile path total s) :
    (s.emit s.pending).tree.entry path = some (.file total) := by
  obtain ⟨content, pending, hstream, hentry, rfl⟩ := h
  simp only [Collecting.emit, Collecting.pending, hstream, hentry, FileTree.set_self,
    List.take_length]

end Streams

section Fill

variable {ι : Type} [Bystander ι] {α β : Type} {s₀ s s' : Collecting} {output path : Path}
variable {kept : List (Path × Bytes)} {barred : List Path} {total : Bytes}

/-- Fewer files and fewer paths. -/
theorem Keeping.weaken (h : Keeping s₀ output kept barred s) {kept' : List (Path × Bytes)}
    {barred' : List Path} (hkept : kept' ⊆ kept) (hbarred : barred' ⊆ barred) :
    Keeping s₀ output kept' barred' s := by
  refine ⟨h.onward, h.inside, fun f hf => h.files f (hkept hf), fun f hf => ?_,
    fun p hp => h.absent p (hbarred hp)⟩
  obtain ⟨hout, hnot, hbar⟩ := h.stream f hf
  exact ⟨hout, fun hmem => hnot (List.map_subset _ hkept hmem), fun hmem => hbar (hbarred hmem)⟩

/-- What happens from here on. -/
theorem Keeping.rebase (h : Keeping s₀ output kept barred s) : Keeping s output kept barred s :=
  ⟨.refl s, h.inside, h.files, h.stream, h.absent⟩

/-- The invariant does not depend on the state it is counted from, if that is earlier. -/
theorem Keeping.since (h : Keeping s output kept barred s') (honward : Onward s₀ s) :
    Keeping s₀ output kept barred s' :=
  ⟨honward.trans h.onward, h.inside, h.files, h.stream, h.absent⟩

theorem Keeping.watch (h : Keeping s₀ output kept barred s) (hw : Watching output s s') :
    Keeping s₀ output kept barred s' := by
  refine ⟨h.onward.trans hw.onward, fun c hc => ?_, fun f hf => ?_, ?_, fun p hp => ?_⟩
  · rcases hw.unchanged c hc with hc | hc
    · exact h.inside c hc
    · intro p _
      rw [hc]
  · obtain ⟨hout, hentry⟩ := h.files f hf
    exact ⟨hout, (hw.tree _ hout).trans hentry⟩
  · rw [hw.stream]
    exact h.stream
  · obtain ⟨hout, hentry⟩ := h.absent p hp
    exact ⟨hout, by rwa [hw.tree _ hout]⟩

/-- A file that has just been made joins those that are kept. -/
theorem Keeping.add (h : Keeping s₀ output kept barred s) (hstream : s.stream = none)
    (hout : output <+: path) (hentry : s.tree.entry path = some (.file total)) :
    Keeping s₀ output ((path, total) :: kept) barred s := by
  refine ⟨h.onward, h.inside, fun f hf => ?_, fun f hf => ?_, h.absent⟩
  · rcases List.mem_cons.mp hf with rfl | hf
    · exact ⟨hout, hentry⟩
    · exact h.files f hf
  · rw [hstream] at hf
    cases hf

/-- A program that keeps what is kept, whichever way it ends. -/
def Keeps (s₀ : Collecting) (output : Path) (kept : List (Path × Bytes)) (barred : List Path)
    (m : Collection ι α) (Q : α → Collecting → Prop) (s : Collecting) : Prop :=
  wp m ⟨fun a s' => Keeping s₀ output kept barred s' ∧ Q a s',
    fun _ => Keeping s₀ output kept barred, Keeping s₀ output kept barred⟩ s

omit [Bystander ι] in
/-- Sequencing of programs that keep the invariant. -/
theorem Keeps.bind {m : Collection ι α} {f : α → Collection ι β} {Q : α → Collecting → Prop}
    {R : β → Collecting → Prop} (hm : Keeps s₀ output kept barred m Q s)
    (hf : ∀ a s', Keeping s₀ output kept barred s' → Q a s' →
      Keeps s₀ output kept barred (f a) R s') :
    Keeps s₀ output kept barred (m >>= f) R s :=
  wp_bind (wp_mono hm (fun a s' h => hf a s' h.1 h.2) (fun _ _ => id) fun _ => id)

omit [Bystander ι] in
/-- Consequence for programs that keep it. -/
theorem Keeps.mono {m : Collection ι α} {Q R : α → Collecting → Prop}
    (hm : Keeps s₀ output kept barred m Q s)
    (h : ∀ a s', Keeping s₀ output kept barred s' → Q a s' → R a s') :
    Keeps s₀ output kept barred m R s :=
  wp_mono hm (fun a s' hq => ⟨hq.1, h a s' hq.1 hq.2⟩) (fun _ _ => id) fun _ => id

omit [Bystander ι] in
/-- Looking keeps everything. -/
theorem Watched.keeps {m : Collection ι α} {Q : α → Collecting → Prop} (hm : Watched output m Q s)
    (h : Keeping s₀ output kept barred s) :
    Keeps s₀ output kept barred m (fun a s' => Watching output s s' ∧ Q a s') s :=
  wp_mono hm (fun _ _ hq => ⟨h.watch hq.1, hq⟩) (fun _ _ hw => h.watch hw) fun _ hw => h.watch hw

section Operations

variable (haloof : Aloof ι output)
include haloof

/-- The others keep it, as they leave the output alone. -/
theorem Keeping.interfered (h : Keeping s₀ output kept barred s) (i : ι) :
    Keeping s₀ output kept barred { s with tree := Bystander.interfere i s.tree } := by
  refine ⟨⟨h.onward.changes, h.onward.found⟩, h.inside, fun f hf => ?_, h.stream, fun p hp => ?_⟩
  · obtain ⟨hout, hentry⟩ := h.files f hf
    exact ⟨hout, (haloof.files i s.tree _ hout).trans hentry⟩
  · obtain ⟨hout, hentry⟩ := h.absent p hp
    exact ⟨hout, by rwa [haloof.files i s.tree _ hout]⟩

/-- And they leave the open file alone, which is in the output. -/
theorem OnFile.interfered (h : OnFile path total s) (hout : output <+: path) (i : ι) :
    OnFile path total { s with tree := Bystander.interfere i s.tree } := by
  obtain ⟨content, pending, hstream, hentry, htotal⟩ := h
  exact ⟨content, pending, hstream, (haloof.files i s.tree _ hout).trans hentry, htotal⟩

omit haloof in
/-- A look leaves the open file alone. -/
theorem OnFile.watch (h : OnFile path total s) (hout : output <+: path)
    (hw : Watching output s s') : OnFile path total s' := by
  obtain ⟨content, pending, hstream, hentry, htotal⟩ := h
  exact ⟨content, pending, hw.stream.trans hstream, (hw.tree _ hout).trans hentry, htotal⟩

/-- **An operation on the open file**, after the others have been at work. -/
theorem Keeping.streaming (h : Keeping s₀ output kept barred s) (i : ι)
    (hs : Streaming { s with tree := Bystander.interfere i s.tree } s') :
    Keeping s₀ output kept barred (s'.record (Bystander.interfere i s.tree)) := by
  have h' := h.interfered haloof i
  have hchanges : s'.changes = s.changes := hs.changes
  refine ⟨h.onward.trans (hs.onward _), fun c hc => ?_, fun f hf => ?_, fun f' hf' => ?_,
    fun p hp => ?_⟩
  · rcases List.mem_append.mp hc with hc | hc
    · exact h.inside c (hchanges ▸ hc)
    · rw [List.mem_singleton.mp hc]
      exact fun p hp => hs.tree p fun f hf heq => hp (heq ▸ (h.stream f hf).1)
  · obtain ⟨hout, hentry⟩ := h'.files f hf
    refine ⟨hout, (hs.tree f.1 fun g hg heq => ?_).trans hentry⟩
    exact (h.stream g hg).2.1 (heq ▸ List.mem_map_of_mem hf)
  · obtain ⟨f, hf, heq⟩ := hs.stream f' hf'
    exact heq ▸ h.stream f hf
  · obtain ⟨hout, hentry⟩ := h'.absent p hp
    refine ⟨hout, ?_⟩
    show s'.tree.entry p = none ∨ s'.tree.entry p = some .directory
    rwa [hs.tree p fun g hg heq => (h.stream g hg).2.2 (heq ▸ hp)]

/-- **Something new in the output.** -/
theorem Keeping.made (h : Keeping s₀ output kept barred s) (i : ι) {entry : Entry}
    {stream : Option (Path × Bytes)} (hout : output <+: path)
    (hkept : path ∉ kept.map Prod.fst) (hbarred : path ∈ barred → entry = .directory)
    (hstream : ∀ f ∈ stream, output <+: f.1 ∧ f.1 ∉ kept.map Prod.fst ∧ f.1 ∉ barred) :
    Keeping s₀ output kept barred
      (({ s with
        tree := (Bystander.interfere i s.tree).set path (some entry)
        stream := stream } : Collecting).record (Bystander.interfere i s.tree)) := by
  have h' := h.interfered haloof i
  refine ⟨⟨h.onward.changes.trans (List.prefix_append _ _), h.onward.found⟩, fun c hc => ?_,
    fun f hf => ?_, hstream, fun p hp => ?_⟩
  · rcases List.mem_append.mp hc with hc | hc
    · exact h.inside c hc
    · rw [List.mem_singleton.mp hc]
      exact fun p hp => FileTree.set_of_ne fun heq => hp (heq ▸ hout)
  · obtain ⟨hout', hentry⟩ := h'.files f hf
    refine ⟨hout', (FileTree.set_of_ne fun heq => hkept ?_).trans hentry⟩
    exact heq ▸ List.mem_map_of_mem hf
  · obtain ⟨hout', hentry⟩ := h'.absent p hp
    refine ⟨hout', ?_⟩
    by_cases heq : p = path
    · subst heq
      refine .inr (FileTree.set_self.trans ?_)
      rw [hbarred hp]
    · exact (FileTree.set_of_ne heq : ((Bystander.interfere i s.tree).set path (some entry)).entry p
        = (Bystander.interfere i s.tree).entry p) ▸ hentry

/-- What is kept is there, so that what is not there is not kept. -/
theorem Keeping.not_kept (h : Keeping s₀ output kept barred s) (i : ι)
    (hnone : (Bystander.interfere i s.tree).entry path = none) : path ∉ kept.map Prod.fst := by
  intro hmem
  obtain ⟨f, hf, rfl⟩ := List.mem_map.mp hmem
  have hentry := ((h.interfered haloof i).files f hf).2
  rw [show (Bystander.interfere i s.tree).entry f.1 = some (.file f.2) from hentry] at hnone
  cases hnone

/-! ### Writing

A file of the output is opened as a new one, filled through a buffer, synced and closed. Only when
it is closed without an error is its content known to be on the disk. -/

theorem keeps_writeBytes (h : Keeping s₀ output kept barred s) (hout : output <+: path)
    (hfile : OnFile path total s) (bytes : Bytes) :
    Keeps s₀ output kept barred (writeBytes bytes : Collection ι Unit)
      (fun _ => OnFile path (total ++ bytes)) s := by
  refine wp_step fun i d => ?_
  have hkeep := h.streaming haloof i (streaming_put _ d bytes)
  cases d with
  | proceed flushed => exact ⟨hkeep, ((hfile.interfered haloof hout i).buffer bytes).emit flushed⟩
  | fail buffered flushed => exact hkeep
  | kill buffered flushed => exact hkeep

/-- `copyfileobj`: what is written is what the source held when it was read. -/
theorem keeps_copyFile {source : Path} (h : Keeping s₀ output kept barred s)
    (hout : output <+: path) (hfile : OnFile path [] s) :
    Keeps s₀ output kept barred (copyFile source : Collection ι Unit)
      (fun _ s' => ∃ content, OnFile path content s' ∧ (source, content) ∈ s'.found) s := by
  refine wp_step fun i d => ?_
  cases hread : Bystander.reading i (Bystander.interfere i s.tree) source with
  | none =>
    have hkeep := h.streaming haloof i (Streaming.refl _)
    dsimp only
    cases d <;> exact hkeep
  | some content =>
    have hkeep := h.streaming haloof i
      ((streaming_found _ [(source, content)]).trans (streaming_put _ d content))
    have hfound := List.mem_append_right s.found (List.mem_singleton.mpr (rfl : (source, content) = _))
    have hfile' : OnFile path content (Collecting.buffer
        { s with
          tree := Bystander.interfere i s.tree
          found := s.found ++ [(source, content)] } content) :=
      OnFile.buffer (hfile.interfered haloof hout i) content
    dsimp only
    cases d with
    | proceed flushed =>
      exact ⟨hkeep, content, hfile'.emit flushed,
        (streaming_emit (Collecting.buffer _ content) flushed).found.subset hfound⟩
    | fail buffered flushed => exact hkeep
    | kill buffered flushed => exact hkeep

theorem keeps_flushStream (h : Keeping s₀ output kept barred s) (hout : output <+: path)
    (hfile : OnFile path total s) :
    Keeps s₀ output kept barred (flushStream : Collection ι Unit)
      (fun _ s' => OnFile path total s' ∧ Onward s s') s := by
  refine wp_step fun i d => ?_
  cases d with
  | proceed _ =>
    have hs := streaming_emit ({ s with tree := Bystander.interfere i s.tree } : Collecting)
      (Collecting.pending { s with tree := Bystander.interfere i s.tree })
    exact ⟨h.streaming haloof i hs, (hfile.interfered haloof hout i).emit _, hs.onward _⟩
  | fail _ flushed => exact h.streaming haloof i (streaming_emit _ flushed)
  | kill _ flushed => exact h.streaming haloof i (streaming_emit _ flushed)

theorem watched_fsync : Watched output (fsync : Collection ι Unit) (fun _ _ => True) s := by
  refine watched_call haloof fun i => ⟨.returned (), [], ?_, nofun, fun _ _ => trivial⟩
  rw [List.append_nil]

/-- Whatever is open, closing it keeps the rest. -/
theorem keeps_closeStream (h : Keeping s₀ output kept barred s) :
    Keeps s₀ output kept barred (closeStream : Collection ι Unit) (fun _ _ => True) s := by
  refine wp_step fun i d => ?_
  cases d with
  | proceed _ => exact ⟨h.streaming haloof i (streaming_closed (streaming_emit _ _)), trivial⟩
  | fail _ flushed => exact h.streaming haloof i (streaming_closed (streaming_emit _ flushed))
  | kill _ flushed => exact h.streaming haloof i (streaming_emit _ flushed)

/-- A file that is closed without an error holds all that was written. -/
theorem keeps_closeStream_complete (h : Keeping s₀ output kept barred s) (hout : output <+: path)
    (hfile : OnFile path total s) :
    Keeps s₀ output kept barred (closeStream : Collection ι Unit)
      (fun _ s' => s'.stream = none ∧ s'.tree.entry path = some (.file total) ∧ Onward s s') s := by
  refine wp_step fun i d => ?_
  cases d with
  | proceed _ =>
    have hs := streaming_emit ({ s with tree := Bystander.interfere i s.tree } : Collecting)
      (Collecting.pending { s with tree := Bystander.interfere i s.tree })
    exact ⟨h.streaming haloof i (streaming_closed hs), rfl,
      (hfile.interfered haloof hout i).emit_pending, (streaming_closed hs).onward _⟩
  | fail _ flushed => exact h.streaming haloof i (streaming_closed (streaming_emit _ flushed))
  | kill _ flushed => exact h.streaming haloof i (streaming_emit _ flushed)

/-! ### Making

Directories may stand in the output already. A file may not: it is opened with `x`, and that is why
a barred name can only come to be by the operation that is meant to make it. -/

theorem keeps_makeDirectory (h : Keeping s₀ output kept barred s) (hout : output <+: path) :
    Keeps s₀ output kept barred (makeDirectory path : Collection ι Unit) (fun _ _ => True) s := by
  refine wp_step fun i d => ?_
  have hnothing := h.streaming haloof i (Streaming.refl _)
  cases d with
  | proceed _ =>
    dsimp only
    split
    · exact ⟨hnothing, trivial⟩
    split
    · exact hnothing
    · rename_i hnone
      have hnone : (Bystander.interfere i s.tree).entry path = none := by
        simpa only [Option.not_isSome_iff_eq_none] using hnone
      exact ⟨h.made haloof i hout (h.not_kept haloof i hnone) (fun _ => rfl) h.stream, trivial⟩
  | fail _ _ => exact hnothing
  | kill _ _ => exact hnothing

/-- The directories above a target. -/
theorem keeps_makeParents (h : Keeping s₀ output kept barred s) (target : Path) :
    Keeps s₀ output kept barred ((ancestors output target).forM makeDirectory : Collection ι PUnit)
      (fun _ _ => True) s := by
  have hpaths : ∀ p ∈ ancestors output target, output <+: p := by
    intro p hp
    obtain ⟨k, -, rfl⟩ := List.mem_map.mp hp
    exact List.prefix_append _ _
  refine wp_forM (fun rest s' => Keeping s₀ output kept barred s' ∧ ∀ p ∈ rest, output <+: p)
    ⟨h, hpaths⟩ ?_ fun s' hs' => ⟨hs'.1, trivial⟩
  rintro p rest s' ⟨hs', hrest⟩
  obtain ⟨hp, hrest⟩ := List.forall_mem_cons.mp hrest
  exact wp_mono (keeps_makeDirectory haloof hs' hp) (fun _ _ hs'' => ⟨hs''.1, hrest⟩)
    (fun _ _ => id) fun _ => id

theorem keeps_openNew (h : Keeping s₀ output kept barred s) (hout : output <+: path)
    (hbarred : path ∉ barred) :
    Keeps s₀ output kept barred (openNew path : Collection ι Unit)
      (fun _ s' => OnFile path [] s') s := by
  refine wp_step fun i d => ?_
  have hnothing := h.streaming haloof i (Streaming.refl _)
  cases d with
  | proceed _ =>
    dsimp only
    split
    · exact hnothing
    · rename_i hopen
      simp only [Bool.or_eq_true, not_or, Option.not_isSome_iff_eq_none] at hopen
      have hnot := h.not_kept haloof i hopen.1
      refine ⟨h.made haloof i hout hnot (fun hmem => absurd hmem hbarred) ?_, [], [], rfl,
        FileTree.set_self, rfl⟩
      rintro _ ⟨⟩
      exact ⟨hout, hnot, hbarred⟩
  | fail _ _ => exact hnothing
  | kill _ _ => exact hnothing

/-- **A new file with its whole content.** What the body has found out still holds at the end. -/
theorem keeps_withNew (h : Keeping s₀ output kept barred s) (hout : output <+: path)
    (hbarred : path ∉ barred) {body : Collection ι Unit} {Q : Bytes → Collecting → Prop}
    (hpersist : ∀ total s s', Onward s s' → Q total s → Q total s')
    (hbody : ∀ s', Keeping s₀ output kept barred s' → OnFile path [] s' →
      Keeps s₀ output kept barred body (fun _ s'' => ∃ total, OnFile path total s'' ∧ Q total s'')
        s') :
    wp (withNew path body)
      ⟨fun _ s' => ∃ total, Keeping s₀ output ((path, total) :: kept) barred s'
          ∧ s'.stream = none ∧ Q total s',
        fun _ => Keeping s₀ output kept barred, Keeping s₀ output kept barred⟩ s := by
  refine wp_bind (wp_mono (keeps_openNew haloof h hout hbarred) ?_ (fun _ _ => id) fun _ => id)
  rintro _ s₁ ⟨h₁, hfile₁⟩
  refine wp_bind (wp_handle (wp_mono (?_ : Keeps s₀ output kept barred (do body; flushStream; fsync)
    (fun _ s' => ∃ total, OnFile path total s' ∧ Q total s') s₁) ?_ ?_ fun _ => id))
  · refine (hbody s₁ h₁ hfile₁).bind fun _ s₂ h₂ hbody₂ => ?_
    obtain ⟨total, hfile₂, hq₂⟩ := hbody₂
    refine (keeps_flushStream haloof h₂ hout hfile₂).bind fun _ s₃ h₃ hflush => ?_
    refine ((watched_fsync haloof).keeps h₃).mono fun _ s₄ h₄ hsync => ?_
    exact ⟨total, hflush.1.watch hout hsync.1,
      hpersist _ _ _ (hflush.2.trans hsync.1.onward) hq₂⟩
  · rintro _ s₄ ⟨h₄, total, hfile₄, hq₄⟩
    refine wp_mono (keeps_closeStream_complete haloof h₄ hout hfile₄) ?_ (fun _ _ => id) fun _ => id
    rintro _ s₅ ⟨h₅, hnone, hentry, honward⟩
    exact ⟨total, h₅.add hnone hout hentry, hnone, hpersist _ _ _ honward hq₄⟩
  · intro e s₄ h₄
    exact wp_bind (wp_mono (keeps_closeStream haloof h₄) (fun _ _ h₅ => wp_raise h₅.1)
      (fun _ _ => id) fun _ => id)

/-! ### Digests

The digest of a source is of some content that was read; the digest of a copy is of the very content
that is kept. -/

variable (host : Host)

theorem watched_fileDigest : Watched output (fileDigest host path : Collection ι Digest)
    (fun _ _ => True) s :=
  (watched_readFile haloof).bind fun _ _ _ _ =>
    (watched_look haloof).bind fun _ _ _ _ => watched_pure trivial

/-- The digest of a file in the output is that of what is there. -/
theorem watched_fileDigest_output {content : Bytes} (hout : output <+: path)
    (hentry : s.tree.entry path = some (.file content)) :
    Watched output (fileDigest host path : Collection ι Digest)
      (fun digest _ => digest = ⟨content.length, host.sha256 content⟩) s := by
  have hread : Watched output (readFile path : Collection ι Bytes) (fun found _ => found = content)
      s := by
    refine watched_call haloof fun i => ⟨.returned content, [(path, content)], ?_, nofun, ?_⟩
    · rw [haloof.reading i _ path content hout ((haloof.files i s.tree path hout).trans hentry)]
    · rintro _ ⟨⟩
      rfl
  refine hread.bind fun found s₁ h₁ hfound => ?_
  have hsize : Watched output (look fun tree => fileSize tree path : Collection ι Nat)
      (fun size _ => size = content.length) s₁ := by
    refine watched_call haloof fun i => ⟨.returned content.length, [], ?_, nofun, ?_⟩
    · have hentry' : (Bystander.interfere i s₁.tree).entry path = some (.file content) :=
        (haloof.files i s₁.tree path hout).trans ((h₁.tree path hout).trans hentry)
      have hfound : fileSize (Bystander.interfere i s₁.tree) path = .ok content.length := by
        rw [fileSize, FileSystem.read_file hentry']
      simp only [hfound, List.append_nil]
    · rintro _ ⟨⟩
      rfl
  refine hsize.bind fun size s₂ _ hsize => watched_pure ?_
  rw [hfound, hsize]

end Operations

end Fill

/-! ## The copy

Source, copy and source again are digested, and the three must agree. Hence the content that is kept
is the one that the recorded digest is of. -/

/-- What has been copied, from where and to where. -/
structure Copy where
  source : Path
  target : Path
  content : Bytes

/-- What is recorded of it. -/
def Copy.hash (host : Host) (c : Copy) : Path × Digest :=
  (c.target, ⟨c.content.length, host.sha256 c.content⟩)

section Copying

variable {ι : Type} [Bystander ι] {s₀ s s' : Collecting} {output : Path}
variable {kept : List (Path × Bytes)} {barred : List Path}
variable (haloof : Aloof ι output) (host : Host)
include haloof

/-- One artifact: behind it the copy is kept, with its digest. -/
theorem copyArtifact_spec (h : Keeping s₀ output kept barred s) {file : Path × Path}
    (hbarred : output ++ file.2 ∉ barred) :
    wp (ι := ι) (copyArtifact host output file)
      ⟨fun hash s' => ∃ c : Copy, file = (c.source, c.target) ∧ hash = c.hash host
          ∧ Keeping s₀ output ((output ++ c.target, c.content) :: kept) barred s'
          ∧ (c.source, c.content) ∈ s'.found,
        fun _ => Keeping s₀ output kept barred, Keeping s₀ output kept barred⟩ s := by
  have hout : output <+: output ++ file.2 := List.prefix_append _ _
  refine wp_bind (wp_mono ((watched_fileDigest haloof host).keeps h) ?_ (fun _ _ => id) fun _ => id)
  rintro expected s₁ ⟨h₁, -⟩
  refine wp_bind (wp_mono (keeps_makeParents haloof h₁ file.2) ?_ (fun _ _ => id) fun _ => id)
  rintro _ s₂ ⟨h₂, -⟩
  refine wp_bind (wp_mono ((watched_look haloof).keeps h₂) ?_ (fun _ _ => id) fun _ => id)
  rintro _ s₃ ⟨h₃, -⟩
  refine wp_bind (wp_mono (keeps_withNew haloof h₃ hout hbarred
    (Q := fun total s' => (file.1, total) ∈ s'.found)
    (fun total _ _ honward hfound => honward.found.subset hfound)
    fun s' hs' hfile => keeps_copyFile haloof hs' hout hfile) ?_ (fun _ _ => id) fun _ => id)
  rintro _ s₄ ⟨content, h₄, -, hfound⟩
  have hless : kept ⊆ (output ++ file.2, content) :: kept := List.subset_cons_self _ _
  have hentry := (h₄.files _ List.mem_cons_self).2
  refine wp_mono (?_ : Keeps s₀ output ((output ++ file.2, content) :: kept) barred _
    (fun hash s' => hash = (file.2, ⟨content.length, host.sha256 content⟩)
      ∧ (file.1, content) ∈ s'.found) s₄) ?_
    (fun _ _ h' => h'.weaken hless (List.Subset.refl _)) fun _ h' => h'.weaken hless (List.Subset.refl _)
  · refine ((watched_fileDigest_output haloof host hout hentry).keeps h₄).bind
      fun copied s₅ h₅ hcopied => ?_
    refine (watched_raiseIf.keeps h₅).bind fun _ s₆ h₆ hsame => ?_
    refine ((watched_fileDigest haloof host).keeps h₆).bind fun again s₇ h₇ hagain => ?_
    refine (watched_raiseIf.keeps h₇).bind fun _ s₈ h₈ hsame' => wp_pure ⟨h₈, ?_, ?_⟩
    · have heq : copied = expected := by simpa using hsame.2
      rw [← heq, hcopied.2]
    · exact (((hcopied.1.trans hsame.1).trans hagain.1).trans hsame'.1).onward.found.subset hfound
  · rintro hash s₉ ⟨h₉, rfl, hfound₉⟩
    exact ⟨⟨file.1, file.2, content⟩, rfl, rfl, h₉, hfound₉⟩

/-- **All of the artifacts.** The induction is on the files still to be copied. -/
theorem copyAll_spec (files : List (Path × Path)) :
    ∀ {s₀ s : Collecting} {kept : List (Path × Bytes)}, Keeping s₀ output kept barred s →
      (∀ file ∈ files, output ++ file.2 ∉ barred) →
    wp (ι := ι) (copyAll host output files)
      ⟨fun hashes s' => ∃ copies : List Copy, files = copies.map (fun c => (c.source, c.target))
          ∧ hashes = copies.map (Copy.hash host)
          ∧ Keeping s₀ output
            (copies.reverse.map (fun c => (output ++ c.target, c.content)) ++ kept) barred s'
          ∧ ∀ c ∈ copies, (c.source, c.content) ∈ s'.found,
        fun _ => Keeping s₀ output kept barred, Keeping s₀ output kept barred⟩ s := by
  induction files with
  | nil => exact fun h _ => wp_pure ⟨[], rfl, rfl, h, nofun⟩
  | cons file rest ih =>
    intro s₀ s kept h hbarred
    obtain ⟨hfile, hrest⟩ := List.forall_mem_cons.mp hbarred
    refine wp_bind (wp_mono (copyArtifact_spec haloof host h hfile) ?_ (fun _ _ => id) fun _ => id)
    rintro hash s₁ ⟨c, rfl, rfl, h₁, hfound₁⟩
    have hless : kept ⊆ (output ++ c.target, c.content) :: kept := List.subset_cons_self _ _
    refine wp_bind (wp_mono (ih h₁.rebase hrest) ?_
      (fun _ _ h' => (h'.since h₁.onward).weaken hless (List.Subset.refl _))
      fun _ h' => (h'.since h₁.onward).weaken hless (List.Subset.refl _))
    rintro hashes s₂ ⟨copies, rfl, rfl, h₂, hfound₂⟩
    refine wp_pure ⟨c :: copies, rfl, rfl, ?_, fun c' hc' => ?_⟩
    · simpa using h₂.since h₁.onward
    · rcases List.mem_cons.mp hc' with rfl | hc'
      · exact h₂.onward.found.subset hfound₁
      · exact hfound₂ c' hc'

/-! ## The list and the markers

The list is written before the marker, and it is complete when its file is closed. The marker
`.complete` is the last file that is made. -/

/-- `collection.json`, with the text of the payload or with none when the payload cannot be
printed. -/
theorem writeCollection_spec (h : Keeping s₀ output kept barred s)
    (hbarred : output ++ [str "collection.json"] ∉ barred) (text : Option (List Char)) :
    wp (ι := ι) (writeCollection output text)
      ⟨fun _ s' => ∃ chars, text = some chars ∧ Keeping s₀ output
          ((output ++ [str "collection.json"], encode chars ++ encode ['\n']) :: kept) barred s',
        fun _ => Keeping s₀ output kept barred, Keeping s₀ output kept barred⟩ s := by
  have hout : output <+: output ++ [str "collection.json"] := List.prefix_append _ _
  cases text with
  | none =>
    refine wp_mono (keeps_withNew haloof h hout hbarred (Q := fun _ _ => False)
      (fun _ _ _ _ => id) fun s' hs' _ => wp_raise hs') ?_ (fun _ _ => id) fun _ => id
    rintro _ s' ⟨_, -, -, hfalse⟩
    exact hfalse.elim
  | some chars =>
    refine wp_mono (keeps_withNew haloof h hout hbarred
      (Q := fun total _ => total = encode chars ++ encode ['\n'])
      (fun _ _ _ _ => id) fun s' hs' hfile => ?_) ?_ (fun _ _ => id) fun _ => id
    · refine (keeps_writeBytes haloof hs' hout hfile _).bind fun _ s₁ h₁ hfile₁ => ?_
      exact (keeps_writeBytes haloof h₁ hout hfile₁ _).mono
        fun _ s₂ _ hfile₂ => ⟨_, hfile₂, by rw [List.nil_append]⟩
    · rintro _ s' ⟨_, h', -, rfl⟩
      exact ⟨chars, rfl, h'⟩

omit host in
/-- The marker is made when no artifact was copied to its name. -/
theorem writeMarker_spec (h : Keeping s₀ output kept barred s) {completed : Bool} {receiver : Path}
    (hbarred : output ++ [str (if completed then ".complete" else ".failed")] ∉ barred) :
    Keeps s₀ output kept barred (writeMarker receiver output completed : Collection ι Unit)
      (fun _ _ => True) s := by
  unfold writeMarker
  extract_lets marker
  have hout : output <+: marker := List.prefix_append _ _
  have hmarker : marker ∉ barred := hbarred
  clear_value marker
  refine ((watched_look haloof).keeps h).bind fun present s₁ h₁ _ => ?_
  split
  · exact wp_pure ⟨h₁, trivial⟩
  · refine wp_mono (keeps_withNew haloof h₁ hout hmarker (Q := fun _ _ => True)
      (fun _ _ _ _ => id) fun s' hs' hfile => ?_) ?_ (fun _ _ => id) fun _ => id
    · split
      · refine ((watched_readFile haloof).keeps hs').bind fun content s₂ h₂ hread => ?_
        exact (keeps_writeBytes haloof h₂ hout (hfile.watch hout hread.1) content).mono
          fun _ _ _ hfile' => ⟨_, hfile', trivial⟩
      · exact (keeps_writeBytes haloof hs' hout hfile _).mono
          fun _ _ _ hfile' => ⟨_, hfile', trivial⟩
    · rintro _ s' ⟨total, h', -, -⟩
      exact ⟨h'.weaken (List.subset_cons_self _ _) (List.Subset.refl _), trivial⟩

/-- `write_text` opens over a file that may be there, one that is not kept. -/
theorem keeps_openOver {path : Path} (h : Keeping s₀ output kept barred s) (hout : output <+: path)
    (hkept : path ∉ kept.map Prod.fst) (hbarred : path ∉ barred) :
    Keeps s₀ output kept barred (openOver path : Collection ι Unit)
      (fun _ s' => OnFile path [] s') s := by
  refine wp_step fun i d => ?_
  have hnothing := h.streaming haloof i (Streaming.refl _)
  have hopened (s' : Collecting) (hs' : s' = ({ s with
      tree := (Bystander.interfere i s.tree).set path (some (.file []))
      stream := some (path, []) } : Collecting).record (Bystander.interfere i s.tree)) :
      Keeping s₀ output kept barred s' ∧ OnFile path [] s' := by
    subst hs'
    refine ⟨h.made haloof i hout hkept (fun hmem => absurd hmem hbarred) ?_, [], [], rfl,
      FileTree.set_self, rfl⟩
    rintro _ ⟨⟩
    exact ⟨hout, hkept, hbarred⟩
  cases d with
  | proceed _ =>
    dsimp only
    cases (Bystander.interfere i s.tree).entry path with
    | none => exact hopened _ rfl
    | some entry =>
      cases entry with
      | file content => exact hopened _ rfl
      | directory => exact hnothing
      | symlink target => exact hnothing
  | fail _ _ => exact hnothing
  | kill _ _ => exact hnothing

theorem markFailed_spec (h : Keeping s₀ output kept barred s)
    (hkept : output ++ [str ".collection-failed"] ∉ kept.map Prod.fst)
    (hbarred : output ++ [str ".collection-failed"] ∉ barred) :
    Keeps s₀ output kept barred (markFailed output : Collection ι Unit) (fun _ _ => True) s := by
  have hout : output <+: output ++ [str ".collection-failed"] := List.prefix_append _ _
  refine wp_bind (wp_mono (keeps_openOver haloof h hout hkept hbarred) ?_ (fun _ _ => id)
    fun _ => id)
  rintro _ s₁ ⟨h₁, hfile₁⟩
  refine wp_bind (wp_handle (wp_mono (keeps_writeBytes haloof h₁ hout hfile₁ _) ?_ ?_ fun _ => id))
  · rintro _ s₂ ⟨h₂, -⟩
    exact keeps_closeStream haloof h₂
  · intro e s₂ h₂
    exact wp_bind (wp_mono (keeps_closeStream haloof h₂) (fun _ _ h₃ => wp_raise h₃.1)
      (fun _ _ => id) fun _ => id)

end Copying

/-! ## `collect_results`

A call ends untouched, unfinished (a directory without the marker) or finished. The three cases are
`Ending`, and every specification above is put together to say which of them each way of ending
gives. -/

/-- The marker that makes a run count. -/
def completeMark (output : Path) : Path := output ++ [str ".complete"]

/-- The marker of the handler. -/
def failedMark (output : Path) : Path := output ++ [str ".collection-failed"]

/-- The selection has been copied, and the list of the copies is written. -/
def Copied (host : Host) (receiver sender output : Path) (selection : Selection)
    (kept : List (Path × Bytes)) (s : Collecting) : Prop :=
  ∃ (copies : List Copy) (text : List Char),
    selection.files = copies.map (fun c => (c.source, c.target))
      ∧ (∀ c ∈ copies, (output ++ c.target, c.content) ∈ kept ∧ (c.source, c.content) ∈ s.found)
      ∧ collectionJson selection.runId receiver sender selection.completed
        (copies.map (Copy.hash host)) = some text
      ∧ (output ++ [str "collection.json"], encode text ++ encode ['\n']) ∈ kept

/-- The selection is there, as it was found when it was copied, with the list of the digests. -/
def Recorded (host : Host) (receiver sender output : Path) (selection : Selection)
    (s : Collecting) : Prop :=
  ∃ (copies : List Copy) (text : List Char),
    selection.files = copies.map (fun c => (c.source, c.target))
      ∧ (∀ c ∈ copies, s.tree.entry (output ++ c.target) = some (.file c.content)
        ∧ (c.source, c.content) ∈ s.found)
      ∧ collectionJson selection.runId receiver sender selection.completed
        (copies.map (Copy.hash host)) = some text
      ∧ s.tree.entry (output ++ [str "collection.json"])
        = some (.file (encode text ++ encode ['\n']))

/-- **A complete copy of two completed runs**: everything that stood in the sources when they were
walked is there. -/
def CompleteCopy (host : Host) (receiver sender output : Path) (s : Collecting) : Prop :=
  ∃ selection : Selection, selection.completed = true ∧ Chosen host receiver sender selection s
    ∧ Recorded host receiver sender output selection s

section Results

variable {host : Host} {receiver sender output : Path} {selection : Selection}
variable {s₀ s s' : Collecting} {kept : List (Path × Bytes)}

/-- The copies outlive later operations. -/
theorem Copied.mono (h : Copied host receiver sender output selection kept s)
    (honward : Onward s s') : Copied host receiver sender output selection kept s' := by
  obtain ⟨copies, text, hfiles, hcopies, hrest⟩ := h
  exact ⟨copies, text, hfiles,
    fun c hc => ⟨(hcopies c hc).1, honward.found.subset (hcopies c hc).2⟩, hrest⟩

/-- What is kept is there. -/
theorem Copied.recorded {barred : List Path}
    (h : Copied host receiver sender output selection kept s)
    (hkeeping : Keeping s₀ output kept barred s) :
    Recorded host receiver sender output selection s := by
  obtain ⟨copies, text, hfiles, hcopies, htext, hlist⟩ := h
  exact ⟨copies, text, hfiles, fun c hc => ⟨(hkeeping.files _ (hcopies c hc).1).2, (hcopies c hc).2⟩,
    htext, (hkeeping.files _ hlist).2⟩

/-- And so does what was known before `mkdir`. -/
theorem Chosen.mono (h : Chosen host receiver sender selection s) (honward : Onward s s') :
    Chosen host receiver sender selection s' := by
  obtain ⟨descriptor, flows, placement, receiverFiles, senderFiles, flowFiles, hloaded, hchecked,
    hrunId, hfiles, hreceiver, hsender, hflow⟩ := h.files
  refine ⟨fun hcompleted => (h.completed hcompleted).imp (·.mono honward) (·.mono honward),
    ⟨descriptor, flows, placement, receiverFiles, senderFiles, flowFiles, hloaded.mono honward,
      hchecked, hrunId, hfiles, hreceiver.mono honward, hsender.mono honward, fun file hfile => ?_⟩,
    h.distinct, h.own⟩
  obtain ⟨flow, hmem, hname, tree, hseen, hpath⟩ := hflow file hfile
  exact ⟨flow, hmem, hname, tree, honward.seen hseen, hpath⟩

/-- The receiver's own marker is not copied. -/
theorem Chosen.not_complete (h : Chosen host receiver sender selection s) {file : Path × Path}
    (hfile : file ∈ selection.files) : file.2 ≠ [str ".complete"] := by
  obtain ⟨_, _, _, receiverFiles, senderFiles, flowFiles, -, -, -, hfiles, ⟨_, -, -, hreceiver⟩,
    ⟨_, -, -, hsender⟩, hflow⟩ := h.files
  intro hname
  rw [hfiles, List.mem_append, List.mem_append] at hfile
  rcases hfile with (hfile | hfile) | hfile
  · obtain ⟨-, htarget, hskip⟩ := hreceiver file hfile
    exact hskip (.inr ⟨rfl, by rw [← hname, htarget, List.nil_append]⟩)
  · obtain ⟨-, htarget, -⟩ := hsender file hfile
    rw [htarget, List.singleton_append] at hname
    exact absurd (List.cons.inj hname).1 (by decide)
  · obtain ⟨flow, -, htarget, -⟩ := hflow file hfile
    rw [htarget] at hname
    have hhead := congrArg List.head? (List.cons.inj hname).1
    rw [senderFlowName, List.append_assoc, List.head?_append,
      show (str "sender-flow").head? = some 's'.toNat from by decide, Option.some_or] at hhead
    exact absurd hhead (by decide)

/-- Where a call can end, from `start`. -/
inductive Ending (host : Host) (receiver sender output : Path) (start : FileTree)
    (s : Collecting) : Prop where
  /-- nothing has been touched -/
  | untouched (unchanged : ∀ c ∈ s.changes, c.2 = c.1)
      (same : ∀ p, output <+: p → s.tree.entry p = start.entry p)
  /-- the output has been made, and does not have the marker -/
  | unfinished {s₀ : Collecting} (absent : start.entry output = none)
      (keeping : Keeping s₀ output [] [completeMark output] s)
  /-- the copy was complete before the marker was made -/
  | finished {s₀ : Collecting} {selection : Selection} {kept : List (Path × Bytes)}
      (absent : start.entry output = none) (completed : selection.completed = true)
      (chosen : Chosen host receiver sender selection s₀) (keeping : Keeping s₀ output kept [] s)
      (copied : Copied host receiver sender output selection kept s)

/-- Below what is not there nothing is. -/
theorem absent_below {start : FileTree}
    (hstart : ∀ p, output <+: p → (start.entry p).isSome → (start.entry output).isSome)
    (habsent : start.entry output = none) {p : Path} (hp : output <+: p) : start.entry p = none := by
  by_contra hsome
  have hthere := hstart p hp (Option.isSome_iff_ne_none.mpr hsome)
  rw [habsent] at hthere
  cases hthere

/-- The markers are not among what is copied. -/
theorem Chosen.notMem_marks (h : Chosen host receiver sender selection s) {file : Path × Path}
    (hfile : file ∈ selection.files) :
    output ++ file.2 ∉ [completeMark output, failedMark output] := by
  simp only [List.mem_cons, List.not_mem_nil, or_false, not_or, completeMark, failedMark,
    List.append_right_inj]
  refine ⟨h.not_complete hfile, fun hname => ?_⟩
  exact h.own [str ".collection-failed"] (List.mem_cons_of_mem _ List.mem_cons_self)
    (hname ▸ List.mem_map_of_mem hfile)

/-- Below an output that is not there nothing is, so both markers are barred. -/
theorem Watching.keeping_marks {start : FileTree} (hw : Watching output (.start start) s)
    (hbelow : ∀ p, output <+: p → start.entry p = none) :
    Keeping s output [] [completeMark output, failedMark output] s := by
  have hmark (name : Str) : output <+: output ++ [name]
      ∧ (s.tree.entry (output ++ [name]) = none
        ∨ s.tree.entry (output ++ [name]) = some .directory) :=
    ⟨List.prefix_append _ _, .inl ((hw.tree _ (List.prefix_append _ _)).trans
      (hbelow _ (List.prefix_append _ _)))⟩
  refine ⟨.refl s, fun c hc p _ => ?_, nofun, fun f hf => ?_, ?_⟩
  · rw [(hw.unchanged c hc).resolve_left List.not_mem_nil]
  · rw [hw.stream] at hf
    cases hf
  · simp only [List.forall_mem_cons]
    exact ⟨hmark _, hmark _, nofun⟩

section Runs

variable {ι : Type} [Bystander ι] (haloof : Aloof ι output)
include haloof

/-- In the `try`, and where it ends. -/
def Filling (host : Host) (receiver sender output : Path) (selection : Selection)
    (s₀ s : Collecting) : Prop :=
  Keeping s₀ output [] [completeMark output, failedMark output] s
    ∨ selection.completed = true ∧ ∃ kept, Keeping s₀ output kept [failedMark output] s
      ∧ Copied host receiver sender output selection kept s

omit haloof [Bystander ι] in
/-- The `try` goes on from `mkdir`. -/
theorem Filling.onward (h : Filling host receiver sender output selection s₀ s) : Onward s₀ s :=
  h.elim (·.onward) fun ⟨_, _, h', _⟩ => h'.onward

omit haloof [Bystander ι] in
/-- Each moment in the `try` is a possible end of the call, if the process is killed there. -/
theorem Filling.ending (h : Filling host receiver sender output selection s₀ s) {start : FileTree}
    (habsent : start.entry output = none) (hchosen : Chosen host receiver sender selection s₀) :
    Ending host receiver sender output start s := by
  rcases h with h | ⟨hcompleted, kept, h, hcopied⟩
  · exact .unfinished habsent (h.weaken (List.Subset.refl _)
      (List.cons_subset_cons _ (List.nil_subset _)))
  · exact .finished habsent hcompleted hchosen
      (h.weaken (List.Subset.refl _) (List.nil_subset _)) hcopied

theorem fillOutput_spec
    (h : Keeping s₀ output [] [completeMark output, failedMark output] s)
    (htargets : ∀ file ∈ selection.files,
      output ++ file.2 ∉ [completeMark output, failedMark output]) :
    wp (ι := ι) (fillOutput host receiver sender output selection.runId selection.completed
        selection.files)
      ⟨fun _ s' => Filling host receiver sender output selection s₀ s'
          ∧ Recorded host receiver sender output selection s',
        fun _ => Filling host receiver sender output selection s₀,
        Filling host receiver sender output selection s₀⟩ s := by
  have hname (name name' : Str) (hne : name ≠ name') : output ++ [name] ≠ output ++ [name'] :=
    fun heq => hne (List.cons.inj (List.append_cancel_left heq)).1
  have hless {kept : List (Path × Bytes)} {s' : Collecting}
      (h' : Keeping s₀ output kept [completeMark output, failedMark output] s') :
      Filling host receiver sender output selection s₀ s' :=
    .inl (h'.weaken (List.nil_subset _) (List.Subset.refl _))
  refine wp_bind (wp_mono (copyAll_spec haloof host selection.files h htargets) ?_
    (fun _ _ => hless) fun _ => hless)
  rintro hashes s₁ ⟨copies, hfiles, rfl, h₁, hfound⟩
  have hlist : output ++ [str "collection.json"] ∉ [completeMark output, failedMark output] := by
    simp only [List.mem_cons, List.not_mem_nil, or_false, not_or]
    exact ⟨hname _ _ (by decide), hname _ _ (by decide)⟩
  refine wp_bind (wp_mono (writeCollection_spec haloof h₁.rebase hlist _) ?_
    (fun _ _ h' => hless (h'.since h₁.onward)) fun _ h' => hless (h'.since h₁.onward))
  rintro _ s₂ ⟨text, htext, h₂⟩
  have hcopied : Copied host receiver sender output selection
      ((output ++ [str "collection.json"], encode text ++ encode ['\n'])
        :: (copies.reverse.map (fun c => (output ++ c.target, c.content)) ++ [])) s₂ := by
    refine ⟨copies, text, hfiles, fun c hc => ⟨?_, h₂.onward.found.subset (hfound c hc)⟩, htext,
      List.mem_cons_self⟩
    rw [List.append_nil]
    exact List.mem_cons_of_mem _ (List.mem_map_of_mem (List.mem_reverse.mpr hc))
  cases hcompleted : selection.completed with
  | false =>
    have hmark : output ++ [str (if false then ".complete" else ".failed")]
        ∉ [completeMark output, failedMark output] := by
      simp only [List.mem_cons, List.not_mem_nil, or_false, not_or]
      exact ⟨hname _ _ (by decide), hname _ _ (by decide)⟩
    have hsince {kept' : List (Path × Bytes)} {s' : Collecting}
        (h' : Keeping s₂ output kept' [completeMark output, failedMark output] s') :
        Filling host receiver sender output selection s₀ s' :=
      hless (h'.since (h₁.onward.trans h₂.onward))
    exact wp_mono (writeMarker_spec haloof h₂.rebase hmark)
      (fun _ s' h' => ⟨hsince h'.1, (hcopied.mono h'.1.onward).recorded h'.1⟩)
      (fun _ _ => hsince) fun _ => hsince
  | true =>
    have hmark : output ++ [str (if true then ".complete" else ".failed")]
        ∉ [failedMark output] := by
      simp only [List.mem_cons, List.not_mem_nil, or_false]
      exact hname _ _ (by decide)
    have h₂' := h₂.rebase.weaken (List.Subset.refl _) (List.subset_cons_self _ [failedMark output])
    have hall (s' : Collecting) (h' : Keeping s₂ output _ [failedMark output] s') :
        Filling host receiver sender output selection s₀ s' :=
      .inr ⟨hcompleted, _, h'.since (h₁.onward.trans h₂.onward), hcopied.mono h'.onward⟩
    exact wp_mono (writeMarker_spec haloof h₂' hmark)
      (fun _ s' h' => ⟨hall s' h'.1, (hcopied.mono h'.1.onward).recorded h'.1⟩) (fun _ s' => hall s')
      hall

/-- `mkdir` makes the output where nothing stood, or does nothing. -/
theorem makeOutput_spec :
    wp (ι := ι) (makeOutput output)
      ⟨fun _ s' => s.tree.entry output = none ∧ ∀ s₀ barred, output ∉ barred →
          Keeping s₀ output [] barred s → Keeping s₀ output [] barred s',
        fun _ s' => Watching output s s', fun s' => Watching output s s'⟩ s := by
  refine wp_step fun i d => ?_
  have hnothing := watching_glance haloof (s := s) i []
  rw [glance_nil] at hnothing
  cases d with
  | proceed _ =>
    dsimp only
    split
    · exact hnothing
    · rename_i hmake
      simp only [Bool.or_eq_true, not_or, Option.not_isSome_iff_eq_none] at hmake
      refine ⟨(haloof.files i s.tree output List.prefix_rfl).symm.trans hmake.1,
        fun s₀ barred hbarred h => ?_⟩
      exact h.made haloof i List.prefix_rfl (List.not_mem_nil) (fun hmem => absurd hmem hbarred)
        h.stream
  | fail _ _ => exact hnothing
  | kill _ _ => exact hnothing

/-- The handler leaves things as they are, with a note. -/
theorem handler_spec {start : FileTree} (habsent : start.entry output = none)
    (hchosen : Chosen host receiver sender selection s₀)
    (h : Filling host receiver sender output selection s₀ s) (e : ExperimentError) :
    wp (ι := ι) (do markFailed output; (raise e : Collection ι Unit))
      ⟨fun _ _ => False, fun _ => Ending host receiver sender output start,
        Ending host receiver sender output start⟩ s := by
  have hmarks : failedMark output ≠ completeMark output := fun heq =>
    absurd (List.cons.inj (List.append_cancel_left heq)).1 (by decide)
  rcases h with h | ⟨hcompleted, kept, h, hcopied⟩
  · have h' := h.weaken (List.Subset.refl _) (List.cons_subset_cons (completeMark output)
      (List.nil_subset [failedMark output]))
    refine wp_bind (wp_mono (markFailed_spec haloof h' List.not_mem_nil ?_)
      (fun _ _ h'' => wp_raise (.unfinished habsent h''.1)) (fun _ _ => .unfinished habsent)
      fun _ => .unfinished habsent)
    exact fun hmem => hmarks (List.mem_singleton.mp hmem)
  · have hkept : failedMark output ∉ kept.map Prod.fst := by
      intro hmem
      obtain ⟨f, hf, heq⟩ := List.mem_map.mp hmem
      have hfile := (h.files f hf).2
      rw [heq] at hfile
      rcases (h.absent _ List.mem_cons_self).2 with hnone | hdir
      · rw [hnone] at hfile
        cases hfile
      · rw [hdir] at hfile
        cases hfile
    have h' := h.rebase.weaken (List.Subset.refl _) (List.nil_subset _)
    have hall (s' : Collecting) (h'' : Keeping s output kept [] s') :
        Ending host receiver sender output start s' :=
      .finished habsent hcompleted hchosen (h''.since h.onward) (hcopied.mono h''.onward)
    exact wp_bind (wp_mono (markFailed_spec haloof h' hkept List.not_mem_nil)
      (fun _ s' h'' => wp_raise (hall s' h''.1)) (fun _ s' => hall s') hall)

/-- **Every run of `collect_results`**, by how it ends. -/
theorem collectResults_spec {start : FileTree}
    (hstart : ∀ p, output <+: p → (start.entry p).isSome → (start.entry output).isSome)
    (floatEq : List Char → List Char → Bool) :
    wp (ι := ι) (collectResults host floatEq receiver sender output)
      ⟨fun _ s' => start.entry output = none ∧ Ending host receiver sender output start s'
          ∧ ∃ selection, Chosen host receiver sender selection s'
            ∧ Recorded host receiver sender output selection s',
        fun _ => Ending host receiver sender output start,
        Ending host receiver sender output start⟩ (.start start) := by
  have huntouched (s' : Collecting) (hw : Watching output (.start start) s') :
      Ending host receiver sender output start s' :=
    .untouched (fun c hc => (hw.unchanged c hc).resolve_left (List.not_mem_nil)) hw.tree
  refine wp_bind (wp_mono (watched_selectArtifacts haloof host) ?_ (fun _ s' => huntouched s')
    huntouched)
  rintro selection s₁ ⟨hw, hchosen⟩
  refine wp_bind (wp_mono (makeOutput_spec haloof) ?_ (fun _ s' h' => huntouched s' (hw.trans h'))
    fun s' h' => huntouched s' (hw.trans h'))
  rintro _ s₂ ⟨hnone, hmade⟩
  have habsent : start.entry output = none := (hw.tree output List.prefix_rfl).symm.trans hnone
  have hout : output ∉ [completeMark output, failedMark output] := by
    simp only [List.mem_cons, List.not_mem_nil, or_false, completeMark, failedMark,
      List.self_eq_append_right, List.cons_ne_nil, not_false_eq_true]
  have h₂ := hmade s₁ _ hout (hw.keeping_marks fun p hp => absent_below hstart habsent hp)
  refine wp_handle (wp_mono (fillOutput_spec haloof h₂ fun _ => hchosen.notMem_marks)
    (fun _ s' h => ⟨habsent, h.1.ending habsent hchosen, selection, hchosen.mono h.1.onward, h.2⟩) ?_
    fun _ h => h.ending habsent hchosen)
  exact fun e s' h => wp_mono (handler_spec haloof habsent hchosen h e) (fun _ _ => False.elim)
    (fun _ _ => id) fun _ => id

end Runs

/-- A run that counts as done has the marker and has been verified. -/
theorem of_isDone {analyse : FileTree → Path → Members → Checked Unit} {tree : FileTree}
    {directory : Path} (h : (inspectRun host analyse tree directory).isDone = true) :
    tree.entry.isFile (completeMark directory) = true
      ∧ verifyCollection host tree directory = .ok () := by
  unfold inspectRun at h
  extract_lets fs failed at h
  split at h
  · cases h
  split at h
  · split at h <;> cases h
  split at h
  · cases h
  split at h
  · cases h
  split at h
  · cases h
  rename_i hmark
  simp only [Bool.or_eq_true, not_or, Bool.not_eq_true', Bool.not_eq_false] at hmark
  refine ⟨hmark.1, ?_⟩
  unfold inspectCompleted at h
  split at h
  · cases h
  · assumption

/-! ### A run -/

def sampleHost : Host where
  sha256 content := [content.length]
  floatEqInt _ _ := false
  cwd := []

/-- A run over one flow, as both sides describe it. -/
def sampleDescriptor : Bytes :=
  encode ("\x7b\"schema_version\":1,\"run_id\":\"r1\",\"mode\":\"socket-only\",\"state\":\"completed\","
    ++ "\"flows\":[\x7b\"flow_id\":1,\"count\":2,\"period_ns\":5\x7d]\x7d").toList

/-- Both directories of the run. -/
def sampleTree : FileTree :=
  .ofEntries [([], .directory), ([str "rx"], .directory), ([str "tx"], .directory),
    ([str "rx", str "run.json"], .file sampleDescriptor), ([str "rx", str ".complete"], .file []),
    ([str "tx", str "run.json"], .file sampleDescriptor), ([str "tx", str ".complete"], .file []),
    ([str "tx", str "sender-flow1.json"], .file (encode "\x7b\"expected_count\":2\x7d".toList))]

/-- The call, with nothing in its way. -/
def sampleRun : Outcome ExperimentError Unit × Collecting × List Decision :=
  collectResults sampleHost (fun _ _ => false) [str "rx"] [str "tx"] [str "out"] []
    (.start sampleTree)

/-- Nothing is below the output at the start. -/
theorem sampleRun_absent (p : Path) (hp : [str "out"] <+: p) : sampleTree.entry p = none := by
  have hnames : ∀ p ∈ sampleTree.names, ¬[str "out"] <+: p := by decide +kernel
  by_contra hsome
  exact hnames p (sampleTree.named p (Option.isSome_iff_ne_none.mpr hsome)) hp

/-- Without others the output is left alone. -/
theorem aloof_decision (output : Path) : Aloof Decision output :=
  ⟨fun _ _ _ _ => rfl, fun _ _ _ _ _ h => FileSystem.read_file h⟩

end Results

end AceXdp.Collect
