import AceXdp.Monitor.Partition

/-!
# AceXdp — releasing the CPU partition

* `readLease_stateText`: the ownership state is read back as it was written;
* `Owned`: the lease is written down, and the group has its cpuset files while it exists;
* `keeps_releasePartition`: a release keeps it so, wherever it ends;
* **`releasePartition_restores`** — from there a release without mishaps restores the machine;
* `releasePartition_stranded`: a group without its files is stuck.
-/

namespace AceXdp

open Decimal Fault Fault.Prog

/-! ## CPU lists

The lists in the state file are short and printed in one form, so they are read back and compared as
texts. -/

theorem length_natText_le {n : Nat} (h : n < 4096) : (natText n).length ≤ 4 := by
  have hiff := Nat.length_toDigits_le_iff (b := 10) (n := n) (k := 4) (by decide) (by decide)
  exact hiff.mpr (by omega)

theorem CpuSet.parse_format (set : CpuSet) :
    parseCpuList (CpuList.format set.cpus) = some set.cpus := by
  refine CpuList.parse_format set.nonempty set.ascending set.bound ?_
  rintro n hn w ⟨⟩
  exact length_natText_le (set.bound n hn)

/-- What a script reads with at least one CPU is a set. -/
theorem exists_cpuSet {text : List Char} {cpus : List Nat} (h : parseCpuList text = some cpus)
    (hne : cpus ≠ []) : ∃ set : CpuSet, set.cpus = cpus :=
  ⟨⟨cpus, hne, (CpuList.parse_ascending h).1, (CpuList.parse_ascending h).2⟩, rfl⟩

theorem CpuSet.format_inj {set set' : CpuSet}
    (h : CpuList.format set.cpus = CpuList.format set'.cpus) : set.cpus = set'.cpus := by
  have hparse := set.parse_format
  rw [h, set'.parse_format] at hparse
  exact (Option.some.inj hparse).symm

/-! ## The ownership state

Four lines: owner, available CPUs, the dedicated one and whether the controller was added. They are
written in one piece and read back line by line. -/

theorem mapfile_lines {lines : List (List Char)} (h : ∀ line ∈ lines, '\n' ∉ line) :
    mapfile (lines.flatMap (· ++ ['\n'])) = lines := by
  have hjoin : lines.flatMap (· ++ ['\n']) = ['\n'].intercalate (lines ++ [[]]) := by
    clear h
    induction lines with
    | nil => rfl
    | cons line lines ih =>
      rw [List.flatMap_cons, ih, List.cons_append]
      cases lines with
      | nil => simp
      | cons line' lines => simp
  have hsplit : (lines.flatMap (· ++ ['\n'])).splitOn '\n' = lines ++ [[]] := by
    rw [hjoin]
    refine List.splitOn_intercalate '\n' ?_ (by simp)
    intro line hline
    rcases List.mem_append.mp hline with hline | hline
    · exact h line hline
    · rw [List.mem_singleton.mp hline]
      exact List.not_mem_nil
  unfold mapfile
  rw [hsplit]
  simp

theorem notMem_newline_format (cpus : List Nat) : '\n' ∉ CpuList.format cpus := by
  intro h
  rcases CpuList.mem_format h with h | h
  · cases h
  · cases h

/-- What was written down is read back. -/
theorem readLease_stateText {lease : Lease} {set : CpuSet} (hset : set.cpus = lease.available)
    (howner : '\n' ∉ lease.owner) (hdedicated : lease.dedicated ∈ lease.available) :
    readLease lease.owner lease.stateText = some lease := by
  obtain ⟨owner, available, dedicated, added⟩ := lease
  obtain rfl : set.cpus = available := hset
  have hlines : mapfile (Lease.stateText ⟨owner, set.cpus, dedicated, added⟩)
      = [owner, CpuList.format set.cpus, natText dedicated, if added then ['1'] else ['0']] := by
    refine mapfile_lines ?_
    intro line hline
    simp only [List.mem_cons, List.not_mem_nil, or_false] at hline
    rcases hline with rfl | rfl | rfl | rfl
    · exact howner
    · exact notMem_newline_format _
    · exact CpuList.notMem_natText (by decide) _
    · cases added <;> simp [Lease.addedText]
  have hnumber : CpuList.number (some 4) (natText dedicated) = some dedicated := by
    refine CpuList.number_natText dedicated ?_
    rintro w ⟨⟩
    exact length_natText_le (set.bound dedicated hdedicated)
  unfold readLease
  rw [hlines]
  simp only [set.parse_format, hnumber]
  cases added <;> simp [show dedicated ∈ set.cpus from hdedicated]

/-! ## Single commands

Every command of the script may be cut off, before or after it has done its work, and other groups
act between any two. A part of the script that keeps an invariant keeps it however it ends. -/

variable {α : Type} {s : Shell} {post : Post Shell Nat α}

theorem wp_command {traps : Bool} {f : Shell → Except Nat (α × Shell)}
    (h : ∀ m, match f (s.turn m) with
      | .ok (a, s') => post.returned a s'
      | .error status => post.raised status (s.turn m))
    (hraised : ∀ m status, post.raised status (s.turn m)) (hkilled : ∀ m, post.killed (s.turn m)) :
    wp (command traps f) post s := by
  refine wp_op fun m => ?_
  have hm := h m
  cases m.mishap with
  | none =>
    simp only
    revert hm
    cases f (s.turn m) with
    | ok r => exact id
    | error status => exact id
  | fails => exact hraised m 1
  | trap signal =>
    simp only
    split
    · exact hraised m _
    · exact hkilled m
  | kill => exact hkilled m

/-- `I` is kept by everything the other groups do. -/
def Stable (I : Shell → Prop) : Prop := ∀ s m, I s → I (s.turn m)

/-- `m` keeps `I`, however it ends. -/
def Keeps (I : Shell → Prop) (m : Script α) : Prop :=
  ∀ s, I s → wp m ⟨fun _ => I, fun _ => I, I⟩ s

section Keeps

variable {I : Shell → Prop} {β : Type}

/-- The state a part ends in, returned, raised or killed. -/
theorem Keeps.final {m : Script α} (hm : Keeps I m) {s : Shell} (hs : I s) (script : List Moment) :
    I (m script s).2.1 := by
  have hrun := hm s hs script
  revert hrun
  cases (m script s).1 <;> exact id

theorem Keeps.pure (a : α) : Keeps I (Pure.pure a : Script α) := fun _ hs => wp_pure hs

theorem Keeps.raise (status : Nat) : Keeps I (Prog.raise status : Script α) :=
  fun _ hs => wp_raise hs

theorem Keeps.bind {m : Script α} {f : α → Script β} (hm : Keeps I m) (hf : ∀ a, Keeps I (f a)) :
    Keeps I (m >>= f) := by
  intro s hs
  exact wp_bind (wp_mono (hm s hs) (fun a s' hs' => hf a s' hs') (fun _ _ h => h) fun _ h => h)

theorem Keeps.handle {m : Script α} {handler : Nat → Script α} (hm : Keeps I m)
    (hhandler : ∀ e, Keeps I (handler e)) : Keeps I (Prog.handle m handler) := by
  intro s hs
  exact wp_handle (wp_mono (hm s hs) (fun _ _ h => h) (fun e s' hs' => hhandler e s' hs')
    fun _ h => h)

theorem keeps_change (hI : Stable I) (traps : Bool) {f : Machine → Option Machine}
    (hf : ∀ s M, I s → f s.machine = some M → I { s with machine := M }) :
    Keeps I (change traps f) := by
  intro s hs
  refine wp_command (fun m => ?_) (fun m _ => hI s m hs) fun m => hI s m hs
  have hstep := hf (s.turn m)
  cases hM : f (s.turn m).machine with
  | none => exact hI s m hs
  | some M => exact hstep M (hI s m hs) hM

theorem keeps_look (hI : Stable I) (traps : Bool) (f : Machine → Option α) :
    Keeps I (look traps f) := by
  intro s hs
  refine wp_command (fun m => ?_) (fun m _ => hI s m hs) fun m => hI s m hs
  cases f (s.turn m).machine with
  | none => exact hI s m hs
  | some a => exact hI s m hs

theorem keeps_assign (hI : Stable I) {f : ReserveProgress → ReserveProgress}
    (hf : ∀ s, I s → I { s with progress := f s.progress }) : Keeps I (assign f) := by
  intro s hs
  have hset : ∀ m, I { s.turn m with progress := f s.progress } := by
    intro m
    have hprogress : (s.turn m).progress = s.progress := by
      unfold Shell.turn
      split <;> rfl
    rw [← hprogress]
    exact hf _ (hI s m hs)
  refine wp_op fun m => ?_
  cases m.mishap with
  | none => exact hset m
  | fails => exact hset m
  | trap signal => exact hI s m hs
  | kill => exact hI s m hs

theorem keeps_disableUnused (hI : Stable I)
    (hf : ∀ s, I s → s.machine.controllerInUse = false → I { s with machine := s.machine.disable }) :
    Keeps I disableUnused := by
  intro s hs
  refine wp_op fun m => ?_
  cases m.mishap with
  | none =>
    simp only
    split
    · exact hI s m hs
    · rename_i hunused
      exact hf _ (hI s m hs) (Bool.eq_false_of_not_eq_true hunused)
  | fails =>
    simp only
    split
    · exact hI s m hs
    · exact hI s m hs
  | trap signal => exact hI s m hs
  | kill => exact hI s m hs

end Keeps

/-! ## A machine that can be restored

The lease has been written down and the machine is as the lease says. A release can start from any
such machine, a release that was cut off included. -/

/-- The lease was written down, and the group has its files while it exists; `blocked` says whether
the name of the release record is taken by something else than a file. -/
structure Owned (lease : Lease) (blocked : Bool) (M : Machine) : Prop where
  owner : M.validateOwner lease.owner
  state : M.state = .regular lease.stateText
  root : M.root.cpus = lease.available
  dedicated : lease.dedicated ∈ lease.available
  files : M.group = true → M.controller.isSome
  enabled : lease.added = false → M.controller.isSome
  restored : M.restored = .special ↔ blocked

variable {lease : Lease} {blocked : Bool} {M : Machine}

theorem Owned.setOthers (h : Owned lease blocked M) (others : List Cpuset) :
    Owned lease blocked (M.setOthers others) := by
  refine ⟨h.owner, h.state, h.root, h.dedicated, ?_, ?_, h.restored⟩
  · simpa [Machine.setOthers] using h.files
  · simpa [Machine.setOthers] using h.enabled

theorem Owned.setOwn (h : Owned lease blocked M) (f : Cpuset → Cpuset) :
    Owned lease blocked (M.setOwn f) := by
  refine ⟨h.owner, h.state, h.root, h.dedicated, ?_, ?_, h.restored⟩
  · simpa [Machine.setOwn] using h.files
  · simpa [Machine.setOwn] using h.enabled

theorem Owned.removeGroup (h : Owned lease blocked M) : Owned lease blocked (M.setGroup false) := by
  refine ⟨h.owner, h.state, h.root, h.dedicated, ?_, ?_, h.restored⟩
  · simp [Machine.setGroup]
  · simpa [Machine.setGroup] using h.enabled

/-- The controller can go when no group is left that needs it. -/
theorem Owned.disable (h : Owned lease blocked M) (hgroup : M.group = false)
    (hadded : lease.added) : Owned lease blocked M.disable := by
  refine ⟨h.owner, h.state, h.root, h.dedicated, ?_, ?_, h.restored⟩
  · simp [Machine.disable, hgroup]
  · simp [hadded]

theorem Owned.not_newline (h : Owned lease blocked M) : '\n' ∉ lease.owner := by
  intro hmem
  have hdigits : lease.owner.all Char.isDigit := by
    have howner := h.owner
    simp only [Machine.validateOwner, Bool.and_eq_true] at howner
    exact howner.1.1.1.2
  have := List.all_eq_true.mp hdigits _ hmem
  cases this

theorem Owned.readLease (h : Owned lease blocked M) :
    readLease lease.owner lease.stateText = some lease :=
  readLease_stateText h.root h.not_newline h.dedicated

theorem Stable.machine {P : Machine → Prop} (h : ∀ M others, P M → P (M.setOthers others)) :
    Stable fun s => P s.machine := by
  intro s m hs
  unfold Shell.turn
  split
  · exact h _ _ hs
  · exact hs

theorem stable_owned : Stable fun s => Owned lease blocked s.machine :=
  .machine fun _ others h => h.setOthers others

/-- The group is gone as well. -/
def Vacated (lease : Lease) (blocked : Bool) (M : Machine) : Prop :=
  Owned lease blocked M ∧ M.group = false

theorem stable_vacated : Stable fun s => Vacated lease blocked s.machine :=
  .machine fun _ others h => ⟨h.1.setOthers others, h.2⟩

/-! ## `release_partition` keeps it so, however it ends

The commands come in the order group, controller, record. After each of them the machine is one that
can be restored. -/

variable {kernel : Kernel}

theorem wp_look {traps : Bool} {f : Machine → Option α}
    (h : ∀ m a, f (s.turn m).machine = some a → post.returned a (s.turn m))
    (hraised : ∀ m status, post.raised status (s.turn m)) (hkilled : ∀ m, post.killed (s.turn m)) :
    wp (look traps f) post s := by
  refine wp_command (fun m => ?_) hraised hkilled
  have hm := h m
  cases ha : f (s.turn m).machine with
  | none => exact hraised m 1
  | some a => exact hm a ha

theorem removePresent_spec {present : Bool} (hs : Owned lease blocked s.machine)
    (hpresent : present = false → s.machine.group = false) :
    wp (removePresent present) ⟨fun _ s => Vacated lease blocked s.machine,
      fun _ s => Owned lease blocked s.machine, fun s => Owned lease blocked s.machine⟩ s := by
  unfold removePresent
  split
  · refine wp_bind (wp_mono (keeps_change stable_owned false ?_ s hs) ?_ (fun _ _ h => h)
      fun _ h => h)
    · intro s' M hs' hM
      split at hM
      · obtain rfl := Option.some.inj hM
        exact Owned.setOwn hs' fun c => { c with partition := .member }
      · cases hM
    · intro _ s' hs'
      exact wp_command (fun m => ⟨(stable_owned s' m hs').removeGroup, rfl⟩)
        (fun m _ => stable_owned s' m hs') fun m => stable_owned s' m hs'
  · rename_i habsent
    exact wp_pure ⟨hs, hpresent (Bool.eq_false_of_not_eq_true habsent)⟩

theorem keeps_disableAdded (enabled : Bool) :
    Keeps (fun s => Vacated lease blocked s.machine) (disableAdded lease enabled) := by
  unfold disableAdded
  split
  · rename_i hadded
    exact keeps_disableUnused stable_vacated fun s hs _ => ⟨hs.1.disable hs.2 hadded.1, hs.2⟩
  · exact .pure ()

theorem Vacated.addRestored {M' : Machine} {root : List Char} (h : Vacated lease blocked M)
    (hadd : M.addRestored lease root = some M') :
    Vacated lease blocked M' ∧ M'.controller = M.controller := by
  obtain ⟨⟨howner, hstate, hroot, hdedicated, hfiles, henabled, hrestored⟩, hgroup⟩ := h
  unfold Machine.addRestored at hadd
  split at hadd
  · rename_i hnone
    obtain rfl := Option.some.inj hadd
    refine ⟨⟨⟨howner, hstate, hroot, hdedicated, hfiles, henabled, ?_⟩, hgroup⟩, rfl⟩
    rw [← hrestored, hnone]
    simp
  · obtain rfl := Option.some.inj hadd
    exact ⟨⟨⟨howner, hstate, hroot, hdedicated, hfiles, henabled, hrestored⟩, hgroup⟩, rfl⟩
  · cases hadd

theorem keeps_recordRestored (root : List Char) :
    Keeps (fun s => Vacated lease blocked s.machine) (recordRestored lease root) :=
  keeps_change stable_vacated false fun _ _ hs hM => (hs.addRestored hM).1

theorem keeps_releaseOwned :
    Keeps (fun s => Owned lease blocked s.machine) (releaseOwned kernel lease) := by
  intro s hs
  refine wp_bind (wp_look ?_ (fun m _ => stable_owned s m hs) fun m => stable_owned s m hs)
  intro m present hpresent
  obtain rfl := Option.some.inj hpresent
  refine wp_bind (wp_mono (removePresent_spec (stable_owned s m hs) id) ?_ (fun _ _ h => h)
    fun _ h => h)
  intro _ s' hs'
  have hrest : Keeps (fun s => Vacated lease blocked s.machine) (do
      let root ← readRoot kernel lease.available
      let enabled ← look false fun M => some M.controller.isSome
      disableAdded lease enabled
      recordRestored lease root
      look false fun _ => some ()) :=
    (keeps_look stable_vacated false _).bind fun root =>
      (keeps_look stable_vacated false _).bind fun enabled =>
        (keeps_disableAdded enabled).bind fun _ =>
          (keeps_recordRestored root).bind fun _ => keeps_look stable_vacated false _
  exact wp_mono (hrest s' hs') (fun _ _ h => h.1) (fun _ _ h => h.1) fun _ h => h.1

theorem keeps_releasePartition :
    Keeps (fun s => Owned lease blocked s.machine) (releasePartition kernel lease.owner) := by
  intro s hs
  refine wp_bind (wp_command ?_ (fun m _ => stable_owned s m hs) fun m => stable_owned s m hs)
  intro m
  rw [if_pos (stable_owned s m hs).owner]
  have hs' := stable_owned s m hs
  generalize s.turn m = s' at hs'
  refine wp_bind (wp_look ?_ (fun m _ => stable_owned s' m hs') fun m => stable_owned s' m hs')
  intro m' state hstate
  have hs'' := stable_owned s' m' hs'
  obtain rfl := Option.some.inj hstate
  simp only [hs''.state, releaseState, hs''.readLease]
  exact keeps_releaseOwned _ hs''

/-! ## Commands that are carried out

Without mishaps a command does what it says. -/

section Passes

variable {script : List Moment} {traps : Bool} {M' : Machine}

theorem command_passes {f : Shell → Except Nat (α × Shell)} {a : α} {s' : Shell}
    (hm : (script.headD default).mishap = .none)
    (h : f (s.turn (script.headD default)) = .ok (a, s')) :
    command traps f script s = (.returned a, s', script.tail) := by
  rw [command, op_apply]
  simp only [hm, h]

theorem command_fails {f : Shell → Except Nat (α × Shell)} {status : Nat}
    (hm : (script.headD default).mishap = .none)
    (h : f (s.turn (script.headD default)) = .error status) :
    command traps f script s = (.raised status, s.turn (script.headD default), script.tail) := by
  rw [command, op_apply]
  simp only [hm, h]

theorem change_passes {f : Machine → Option Machine}
    (hm : (script.headD default).mishap = .none)
    (h : f (s.turn (script.headD default)).machine = some M') :
    change traps f script s
      = (.returned (), { s.turn (script.headD default) with machine := M' }, script.tail) := by
  refine command_passes hm ?_
  simp only [h]

theorem change_fails {f : Machine → Option Machine}
    (hm : (script.headD default).mishap = .none)
    (h : f (s.turn (script.headD default)).machine = none) :
    change traps f script s = (.raised 1, s.turn (script.headD default), script.tail) := by
  refine command_fails hm ?_
  simp only [h]

theorem look_passes {f : Machine → Option α} {a : α}
    (hm : (script.headD default).mishap = .none)
    (h : f (s.turn (script.headD default)).machine = some a) :
    look traps f script s = (.returned a, s.turn (script.headD default), script.tail) := by
  refine command_passes hm ?_
  simp only [h]

/-- A look that always succeeds. -/
theorem look_gets (traps : Bool) (g : Machine → α) (hm : (script.headD default).mishap = .none) :
    look traps (fun M => some (g M)) script s
      = (.returned (g (s.turn (script.headD default)).machine), s.turn (script.headD default),
        script.tail) :=
  look_passes hm rfl

end Passes

/-! ## `release_partition` without mishaps

Then the release goes through to its end, unless something else stands in the place of its
record. -/

theorem Owned.rootEffective (h : Owned lease blocked M) (hgroup : M.group = false) :
    M.rootEffective = lease.available := by
  rw [← h.root, Machine.rootEffective, Machine.partitionCpus, hgroup]
  simp

theorem removePresent_nil (hs : Owned lease blocked s.machine) :
    ∃ s', removePresent s.machine.group [] s = (.returned (), s', [])
      ∧ Vacated lease blocked s'.machine
      ∧ s'.machine.usedByOthers = s.machine.usedByOthers
      ∧ s'.machine.controller.isSome = s.machine.controller.isSome := by
  cases hgroup : s.machine.group with
  | false => exact ⟨s, rfl, ⟨hs, hgroup⟩, rfl, rfl⟩
  | true =>
    have hfiles := hs.files hgroup
    let member := s.machine.setOwn fun c => { c with partition := .member }
    have hmember : Owned lease blocked member := hs.setOwn _
    refine ⟨{ s with machine := member.setGroup false }, ?_, ⟨hmember.removeGroup, rfl⟩, ?_, ?_⟩
    · rw [removePresent, if_pos rfl, removeGroup]
      rw [bind_of_returned (change_passes rfl (if_pos hfiles))]
      exact change_passes rfl rfl
    · simp only [Machine.usedByOthers, Machine.setGroup, member, Machine.setOwn]
      cases s.machine.controller <;> rfl
    · simp [Machine.setGroup, member, Machine.setOwn]

theorem readRoot_nil (hs : Vacated lease blocked s.machine) :
    readRoot kernel lease.available [] s = (.returned (CpuList.format lease.available), s, []) := by
  refine look_passes rfl ?_
  have hroot := hs.1.rootEffective hs.2
  have hcanonical : canonicalCpus (kernel.listText (s.turn default).machine.rootEffective)
      = some (CpuList.format lease.available) := by
    change canonicalCpus (kernel.listText s.machine.rootEffective) = _
    rw [hroot, ← hs.1.root, canonicalCpus, kernel.parse_listText]
    rfl
  rw [List.headD_nil, hcanonical]
  exact if_pos rfl

/-- The controller stays on exactly when it was on before or somebody else uses it. -/
def Machine.Settled (lease : Lease) (M : Machine) : Prop :=
  M.controller.isSome = (!lease.added || M.usedByOthers)

theorem controllerInUse_of_vacated (hgroup : M.group = false) :
    M.controllerInUse = M.usedByOthers := by
  simp only [Machine.controllerInUse, Machine.usedByOthers, hgroup, Bool.false_and, Bool.or_false]

theorem disableAdded_nil (hs : Vacated lease blocked s.machine) :
    ∃ s', disableAdded lease s.machine.controller.isSome [] s = (.returned (), s', [])
      ∧ Vacated lease blocked s'.machine ∧ s'.machine.Settled lease := by
  unfold disableAdded
  by_cases hadded : lease.added ∧ s.machine.controller.isSome
  · rw [if_pos hadded, disableUnused, op_apply]
    by_cases hused : s.machine.controllerInUse
    · refine ⟨s, ?_, hs, ?_⟩
      · show (Outcome.returned (), (if s.machine.controllerInUse then s else _), _) = _
        rw [if_pos hused]
        rfl
      · rw [controllerInUse_of_vacated hs.2] at hused
        rw [Machine.Settled, hused, hadded.2, Bool.or_true]
    · refine ⟨{ s with machine := s.machine.disable }, ?_,
        ⟨hs.1.disable hs.2 hadded.1, hs.2⟩, ?_⟩
      · show (Outcome.returned (), (if s.machine.controllerInUse then s else _), _) = _
        rw [if_neg hused]
        rfl
      · rw [Machine.Settled, hadded.1]
        rfl
  · rw [if_neg hadded]
    refine ⟨s, rfl, hs, ?_⟩
    cases hval : lease.added with
    | false => rw [Machine.Settled, hs.1.enabled hval, hval, Bool.not_false, Bool.true_or]
    | true =>
      have hoff : s.machine.controller = none := by
        simpa [hval] using hadded
      rw [Machine.Settled, hval, Machine.usedByOthers, hoff]
      rfl

theorem isSome_addRestored (root : List Char) :
    (M.addRestored lease root).isSome ↔ M.restored ≠ .special := by
  unfold Machine.addRestored
  split <;> rename_i h <;> simp [h]

theorem Machine.Settled.of_controller {M' : Machine} (h : M.Settled lease)
    (hcontroller : M'.controller = M.controller) : M'.Settled lease := by
  rw [Machine.Settled, Machine.usedByOthers, hcontroller]
  exact h

/-- The start of `release_partition` up to the record of the release. -/
theorem releaseOwned_nil (kernel : Kernel) (hs : Owned lease blocked s.machine) :
    ∃ s' root, releaseOwned kernel lease [] s = (do
        recordRestored lease root
        look false fun _ => some ()) [] s'
      ∧ Vacated lease blocked s'.machine ∧ s'.machine.Settled lease := by
  obtain ⟨s₁, hremove, hs₁, -, -⟩ := removePresent_nil hs
  obtain ⟨s₂, hdisable, hs₂, hsettled⟩ := disableAdded_nil hs₁
  refine ⟨s₂, CpuList.format lease.available, ?_, hs₂, hsettled⟩
  calc releaseOwned kernel lease [] s
    _ = _ := bind_of_returned (look_gets false Machine.group rfl)
    _ = _ := bind_of_returned hremove
    _ = _ := bind_of_returned (readRoot_nil hs₁)
    _ = _ := bind_of_returned (look_gets false (fun M => M.controller.isSome) rfl)
    _ = _ := bind_of_returned hdisable

theorem releasePartition_eq {owner : List Char} (howner : s.machine.validateOwner owner) :
    releasePartition kernel owner [] s = releaseState kernel owner s.machine.state [] s := by
  calc releasePartition kernel owner [] s
    _ = _ := bind_of_returned (command_passes rfl (if_pos howner))
    _ = _ := bind_of_returned (look_gets false Machine.state rfl)

theorem releasePartition_nil (hs : Owned lease blocked s.machine) :
    releasePartition kernel lease.owner [] s = releaseOwned kernel lease [] s := by
  rw [releasePartition_eq hs.owner]
  simp only [hs.state, releaseState, hs.readLease]

/-- **A machine that can be restored is restored.** -/
theorem releasePartition_restores (kernel : Kernel) (hs : Owned lease false s.machine) :
    ∃ s', releasePartition kernel lease.owner [] s = (.returned (), s', [])
      ∧ Vacated lease false s'.machine ∧ s'.machine.Settled lease := by
  obtain ⟨s', root, hrun, hvacated, hsettled⟩ := releaseOwned_nil kernel hs
  have hplain : s'.machine.restored ≠ .special := by
    rw [Ne, hvacated.1.restored]
    decide
  obtain ⟨M, hM⟩ := Option.isSome_iff_exists.mp ((isSome_addRestored root).mpr hplain)
  obtain ⟨hM', hcontroller⟩ := hvacated.addRestored hM
  refine ⟨{ s' with machine := M }, ?_, hM', hsettled.of_controller hcontroller⟩
  rw [releasePartition_nil hs, hrun]
  exact (bind_of_returned (change_passes rfl hM)).trans (look_gets false (fun _ => ()) rfl)

/-- The record cannot be made: the release fails. -/
theorem releasePartition_blocked (kernel : Kernel) (hs : Owned lease true s.machine) :
    ∃ s', releasePartition kernel lease.owner [] s = (.raised 1, s', []) := by
  obtain ⟨s', root, hrun, hvacated, -⟩ := releaseOwned_nil kernel hs
  have hspecial : s'.machine.restored = .special := hvacated.1.restored.mpr rfl
  refine ⟨s', ?_⟩
  rw [releasePartition_nil hs, hrun]
  have hrecord : recordRestored lease root [] s' = (.raised 1, s', []) := by
    refine change_fails rfl ?_
    show s'.machine.addRestored lease root = none
    rw [Machine.addRestored, hspecial]
  exact bind_of_raised hrecord

/-- Without a state file there is nothing to do. -/
theorem releasePartition_unrecorded {owner : List Char} (howner : s.machine.validateOwner owner)
    (hstate : s.machine.state = .absent) (hgroup : s.machine.group = false) :
    releasePartition kernel owner [] s = (.returned (), s, []) := by
  rw [releasePartition_eq howner, hstate]
  show look false (fun M => if M.group then none else some ()) [] s = _
  refine look_passes rfl ?_
  show (if s.machine.group then none else some ()) = some ()
  rw [hgroup]
  rfl

/-- **A group without its files is stuck**: the partition cannot be written back. -/
theorem releasePartition_stranded (howner : s.machine.validateOwner lease.owner)
    (hstate : s.machine.state = .regular lease.stateText)
    (hread : readLease lease.owner lease.stateText = some lease)
    (hgroup : s.machine.group = true) (hcontroller : s.machine.controller = none) :
    releasePartition kernel lease.owner [] s = (.raised 1, s, []) := by
  rw [releasePartition_eq howner]
  simp only [hstate, releaseState, hread]
  refine (bind_of_returned (look_gets false Machine.group rfl)).trans (bind_of_raised ?_)
  show removePresent s.machine.group [] s = _
  rw [hgroup, removePresent, if_pos rfl, removeGroup]
  refine bind_of_raised (change_fails rfl ?_)
  show (if s.machine.controller.isSome then _ else none) = none
  rw [hcontroller]
  rfl

end AceXdp
