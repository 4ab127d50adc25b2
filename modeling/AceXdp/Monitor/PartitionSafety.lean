import AceXdp.Monitor.PartitionRelease

/-!
# AceXdp — acquiring and releasing the CPU partition restores the machine

* `Safe`, `Working`, `Window`: what the variables of `acquire_partition` know of the machine;
* `reserve_spec`: the commands behind the traps leave a machine the rollback does not spoil, unless
  a signal is handled between `mkdir` and `created=1`;
* `acquirePartition_leaves`: every run of `acquire_partition`, by what it leaves behind;
* **`acquire_release_restores`** — when the release behind it restores the machine.
-/

namespace AceXdp

open Decimal Fault Fault.Prog

variable {α : Type} {s : Shell} {lease : Lease} {blocked : Bool}
  {M : Machine} {kernel : Kernel}

/-! ## Accepted arguments

The script checks its arguments against the machine before it sets its traps. From then on other
groups may still come and go, but what was checked of the machine's own files stays. -/

/-- A machine in front of the traps of `acquire_partition`. -/
structure Ready (lease : Lease) (blocked : Bool) (M : Machine) : Prop where
  owner : M.validateOwner lease.owner
  state : M.state = .absent
  root : M.root.cpus = lease.available
  dedicated : lease.dedicated ∈ lease.available
  group : M.group = false
  enabled : M.controller.isSome = !lease.added
  restored : M.restored = .special ↔ blocked

/-- Other groups have no part in what was checked. -/
theorem Ready.setOthers (h : Ready lease blocked M) (others : List Cpuset) :
    Ready lease blocked (M.setOthers others) := by
  refine ⟨h.owner, h.state, h.root, h.dedicated, h.group, ?_, h.restored⟩
  simpa [Machine.setOthers] using h.enabled

/-- So the checks hold whenever the next command starts. -/
theorem stable_ready : Stable fun s => Ready lease blocked s.machine :=
  .machine fun _ others h => h.setOthers others

/-- What the checks have seen. -/
theorem lease_of_accepted {owner available dedicated : List Char}
    (h : M.accepted kernel owner available dedicated) :
    ∃ lease, M.lease kernel owner available dedicated = some lease ∧ lease.owner = owner
      ∧ parseCpuList available = some lease.available ∧ lease.added = M.controller.isNone
      ∧ Ready lease (M.restored = .special) M := by
  have haccepted := h
  simp only [Machine.accepted, Bool.and_eq_true, decide_eq_true_eq, Bool.not_eq_true'] at h
  obtain ⟨⟨⟨howner, hcheck⟩, hgroup⟩, hstate⟩ := h
  unfold Machine.checkCpuAvailability at hcheck
  cases hcpu : CpuList.number (some 4) dedicated with
  | none =>
    rw [hcpu] at hcheck
    cases hcheck
  | some cpu =>
    cases hrequested : parseCpuList available with
    | none =>
      rw [hcpu, hrequested] at hcheck
      cases hcheck
    | some requested =>
      simp only [hcpu, hrequested] at hcheck
      split at hcheck
      swap
      · cases hcheck
      rename_i hall
      obtain ⟨hlength, hmem, -, -, -, hroot⟩ := hall
      have heffective : M.rootEffective = M.root.cpus := by
        rw [Machine.rootEffective, Machine.partitionCpus, hgroup]
        simp
      obtain ⟨set, hset⟩ := exists_cpuSet hrequested (by rintro rfl; simp at hlength)
      rw [heffective, canonicalCpus, kernel.parse_listText, canonicalCpus, hrequested] at hroot
      have hcpus : M.root.cpus = requested := by
        rw [← hset] at hroot ⊢
        exact CpuSet.format_inj (Option.some.inj hroot)
      refine ⟨⟨owner, requested, cpu, M.controller.isNone⟩, ?_, rfl, rfl, rfl, ?_⟩
      · rw [Machine.lease, if_pos haccepted, hrequested, hcpu]
      · refine ⟨howner, hstate, hcpus, hmem, hgroup, ?_, by simp⟩
        cases M.controller <;> rfl

/-- The other groups have no say in the checks. -/
theorem lease_setOthers (owner available dedicated : List Char) (others : List Cpuset) :
    (M.setOthers others).lease kernel owner available dedicated
      = M.lease kernel owner available dedicated := by
  have hcpus : (M.setOthers others).partitionCpus = M.partitionCpus := by
    unfold Machine.partitionCpus Machine.setOthers
    cases M.group <;> cases M.controller <;> rfl
  have hroot : (M.setOthers others).rootEffective = M.rootEffective := by
    rw [Machine.rootEffective, hcpus]
    rfl
  have hcheck : (M.setOthers others).checkCpuAvailability kernel available dedicated
      = M.checkCpuAvailability kernel available dedicated := by
    unfold Machine.checkCpuAvailability
    rw [hroot]
    rfl
  have haccepted : (M.setOthers others).accepted kernel owner available dedicated
      = M.accepted kernel owner available dedicated := by
    unfold Machine.accepted
    rw [hcheck]
    rfl
  have hnone : (M.setOthers others).controller.isNone = M.controller.isNone := by
    simp [Machine.setOthers]
  unfold Machine.lease
  rw [haccepted, hnone]

/-! ## The rollback

The rollback takes the controller away only when the script has enabled it and says so in
`enabled_added`, and the group only when `created` is set. `Safe` is what the two variables must not
claim for the lease to be releasable afterwards. -/

/-- The variables of the shell do not let the rollback take the controller from a group. -/
structure Safe (lease : Lease) (blocked : Bool) (s : Shell) : Prop where
  owned : Owned lease blocked s.machine
  added : s.progress.enabledAdded → lease.added
  window : s.progress.enabledAdded → s.progress.created = false → s.machine.group = false

/-- Others do not touch the variables of the shell. -/
theorem progress_turn (s : Shell) (m : Moment) : (s.turn m).progress = s.progress := by
  unfold Shell.turn
  split <;> rfl

theorem group_turn (s : Shell) (m : Moment) : (s.turn m).machine.group = s.machine.group := by
  unfold Shell.turn
  split <;> rfl

/-- Nor what the rollback relies on. -/
theorem stable_safe : Stable (Safe lease blocked) := by
  intro s m hs
  refine ⟨stable_owned s m hs.owned, ?_, ?_⟩
  · rw [progress_turn]
    exact hs.added
  · rw [progress_turn, group_turn]
    exact hs.window

/-- Wherever the rollback stops, the lease that is written down is one that a release can undo. -/
theorem rollback_spec (kernel : Kernel) (status : Nat) (hs : Safe lease blocked s) :
    wp (rollback kernel lease status) ⟨fun _ s => Owned lease blocked s.machine,
      fun _ s => Owned lease blocked s.machine, fun s => Owned lease blocked s.machine⟩ s := by
  refine wp_bind (wp_get ?_)
  dsimp only
  split
  · exact wp_pure hs.owned
  · split
    · exact ((keeps_releasePartition.bind fun _ => .pure status).handle fun _ => .pure 1) s hs.owned
    · rename_i hcreated
      split
      · rename_i hadded
        have hgroup := hs.window hadded (Bool.eq_false_of_not_eq_true hcreated)
        have hdisable : Keeps (fun s => Vacated lease blocked s.machine)
            (handle (do disableUnused; pure status) fun _ => pure 1) :=
          ((keeps_disableUnused stable_vacated fun s' hs' _ =>
            ⟨hs'.1.disable hs'.2 (hs.added hadded), hs'.2⟩).bind fun _ => .pure status).handle
              fun _ => .pure 1
        exact wp_mono (hdisable s ⟨hs.owned, hgroup⟩) (fun _ _ h => h.1) (fun _ _ h => h.1)
          fun _ h => h.1
      · exact wp_pure hs.owned

/-- What follows the commands behind the traps. -/
def finish (kernel : Kernel) (lease : Lease) (r : Outcome Nat Unit × Shell × List Moment) :
    Outcome Nat Nat × Shell × List Moment :=
  match r with
  | (.returned _, s, script) => rollback kernel lease 0 script s
  | (.raised status, s, script) => rollback kernel lease status script s
  | (.killed, s, script) => (.killed, s, script)

/-- The commands behind the traps have left a machine that the rollback, or the kill, leaves
restorable. -/
def Leaves (lease : Lease) (blocked : Bool) (r : Outcome Nat Unit × Shell × List Moment) : Prop :=
  Safe lease blocked r.2.1 ∨ r.1 = .killed ∧ Owned lease blocked r.2.1.machine

/-- Behind the traps the machine is restorable, whichever of rollback, kill or success follows. -/
theorem Leaves.finish {r : Outcome Nat Unit × Shell × List Moment} (h : Leaves lease blocked r) :
    Owned lease blocked (finish kernel lease r).2.1.machine := by
  obtain ⟨o, s, script⟩ := r
  have hrollback : ∀ status, Safe lease blocked s →
      Owned lease blocked (rollback kernel lease status script s).2.1.machine := by
    intro status hs
    have hrun := rollback_spec kernel status hs script
    revert hrun
    cases (rollback kernel lease status script s).1 <;> exact id
  rcases h with hs | ⟨rfl, howned⟩
  · cases o with
    | returned _ => exact hrollback 0 hs
    | raised status => exact hrollback status hs
    | killed => exact hs.owned
  · exact howned

/-- With accepted arguments the script is its commands behind the traps and what the traps make of
their end. -/
theorem acquirePartition_eq {owner available dedicated : List Char} {script : List Moment}
    (hm : (script.headD default).mishap = .none)
    (hlease : s.machine.lease kernel owner available dedicated = some lease) :
    acquirePartition kernel owner available dedicated script s
      = finish kernel lease
          (reserve kernel lease script.tail (s.turn (script.headD default))) := by
  have hlease' : (s.turn (script.headD default)).machine.lease kernel owner available dedicated
      = some lease := by
    unfold Shell.turn
    split
    · exact (lease_setOthers owner available dedicated _).trans hlease
    · exact hlease
  refine (bind_of_returned (look_passes hm hlease')).trans ?_
  generalize hr : reserve kernel lease script.tail (s.turn (script.headD default)) = r
  obtain ⟨o, s', script'⟩ := r
  cases o with
  | returned _ =>
    refine bind_of_returned ?_
    show handle _ _ _ _ = _
    rw [handle, bind_of_returned hr]
    rfl
  | raised status =>
    refine bind_of_returned ?_
    show handle _ _ _ _ = _
    rw [handle, bind_of_raised hr]
    rfl
  | killed =>
    refine bind_of_killed ?_
    show handle _ _ _ _ = _
    rw [handle, bind_of_killed hr]

/-! ## The commands behind the traps

Enabling the controller and making the group are the two commands that the rollback has to know
about. Behind both, the script only writes into its own group. -/

/-- The controller may be enabled while the lease says that it was not. -/
theorem Owned.enable (h : Owned lease blocked M) : Owned lease blocked M.enable := by
  unfold Machine.enable
  split
  · exact h
  · exact ⟨h.owner, h.state, h.root, h.dedicated, fun _ => rfl, fun _ => rfl, h.restored⟩

/-- A group can be made when the controller's files are there. -/
theorem Owned.makeGroup (h : Owned lease blocked M) (hfiles : M.controller.isSome) :
    Owned lease blocked (M.setGroup true) := by
  refine ⟨h.owner, h.state, h.root, h.dedicated, ?_, ?_, h.restored⟩
  · simpa [Machine.setGroup] using hfiles
  · simpa [Machine.setGroup] using h.enabled

/-- A state of the commands that leave the controller alone: there is one, and the rollback will
not take it before the group is gone. -/
structure Working (lease : Lease) (blocked : Bool) (s : Shell) : Prop where
  owned : Owned lease blocked s.machine
  files : s.machine.controller.isSome
  added : s.progress.enabledAdded → lease.added
  created : s.progress.enabledAdded → s.progress.created

/-- With `created` set the rollback removes the group before it touches the controller. -/
theorem Working.safe (h : Working lease blocked s) : Safe lease blocked s :=
  ⟨h.owned, h.added, fun henabled hcreated => by
    rw [h.created henabled] at hcreated
    cases hcreated⟩

/-- Others do not switch the controller. -/
theorem isSome_turn (s : Shell) (m : Moment) :
    (s.turn m).machine.controller.isSome = s.machine.controller.isSome := by
  unfold Shell.turn
  split
  · simp [Machine.setOthers]
  · rfl

/-- Others leave the group's files alone. -/
theorem stable_working : Stable (Working lease blocked) := by
  intro s m hs
  refine ⟨stable_owned s m hs.owned, ?_, ?_, ?_⟩
  · rw [isSome_turn]
    exact hs.files
  · rw [progress_turn]
    exact hs.added
  · rw [progress_turn]
    exact hs.created

/-- A write into the group's own files. -/
theorem keeps_setOwn (f : Cpuset → Cpuset) :
    Keeps (Working lease blocked) (change true fun M =>
      if M.controller.isSome then some (M.setOwn f) else none) := by
  refine keeps_change stable_working true fun s M hs hM => ?_
  rw [if_pos hs.files] at hM
  obtain rfl := Option.some.inj hM
  exact ⟨Owned.setOwn hs.owned f, by simpa [Machine.setOwn] using hs.files, hs.added, hs.created⟩

/-- The state is written once more, with what the kernel made of the CPUs. -/
theorem keeps_recordActive (actual root : List Char) :
    Keeps (Working lease blocked) (recordActive lease actual root) := by
  refine keeps_change stable_working true fun s M hs hM => ?_
  obtain ⟨⟨howner, hstate, hroot, hdedicated, hgroup, henabled, hrestored⟩, hfiles, hadded,
    hcreated⟩ := hs
  split at hM
  · obtain rfl := Option.some.inj hM
    exact ⟨⟨howner, hstate, hroot, hdedicated, hgroup, henabled, hrestored⟩, hfiles, hadded,
      hcreated⟩
  · cases hM

/-- `reserve` behind the creation of the group. -/
def reserveGroup (kernel : Kernel) (lease : Lease) : Script Unit := do
  isolateGroup kernel lease
  let report ← verifyPartition kernel lease
  recordActive lease report.1 report.2
  assign fun p => { p with committed := true }
  look true fun _ => some ()

/-- All commands behind the creation of the group. -/
theorem keeps_reserveGroup : Keeps (Working lease blocked) (reserveGroup kernel lease) :=
  (((keeps_setOwn _).bind fun _ => keeps_setOwn _).bind fun _ =>
    (keeps_look stable_working true _).bind fun _ => (keeps_recordActive _ _).bind fun _ =>
      (keeps_assign stable_working fun _ hs => ⟨hs.owned, hs.files, hs.added, hs.created⟩).bind
        fun _ => keeps_look stable_working true _)

/-- `mkdir` and the assignment behind it, on a group that is there. -/
theorem keeps_makeGroup :
    Keeps (Working lease blocked) makeGroup := by
  refine Keeps.bind (keeps_change stable_working true fun s M hs hM => ?_) fun _ =>
    keeps_assign stable_working fun s hs => ⟨hs.owned, hs.files, hs.added, fun _ => rfl⟩
  split at hM
  · cases hM
  · obtain rfl := Option.some.inj hM
    exact ⟨Owned.makeGroup hs.owned hs.files, by simpa [Machine.setGroup] using hs.files, hs.added,
      hs.created⟩

/-! ## The moments of a run

A command fails, is cut off, or is followed by a trap. The `n`-th entry of the script says which, so
a condition on a run is one on its entries. -/

/-- What happens at the `n`-th command. -/
def momentAt (script : List Moment) (n : Nat) : Moment := (script.drop n).headD default

/-- An assignment is made. -/
def Moment.assigns (m : Moment) : Bool := m.mishap = .none || m.mishap = .fails

/-- A signal is handled behind the command. -/
def Moment.traps (m : Moment) : Bool :=
  match m.mishap with
  | .trap _ => true
  | _ => false

/-- Where the trap runs, the assignment behind the command does not. -/
theorem Moment.not_assigns {m : Moment} (h : m.traps) : m.assigns = false := by
  unfold Moment.traps at h
  unfold Moment.assigns
  split at h
  · rename_i signal hm
    rw [hm]
    rfl
  · cases h

/-- Whether other groups use the controller from then on. -/
def Moment.uses (m : Moment) (before : Bool) : Bool :=
  match m.others with
  | some others => others.any Cpuset.inUse
  | none => before

section Moments

variable {script : List Moment} {n : Nat}

/-- The outcome of a part that does not come to its end. -/
def Stopped (o : Outcome Nat α) : Prop := ∀ a, o ≠ .returned a

theorem bind_of_stopped {β : Type} {m : Script α} {f : α → Script β} {o : Outcome Nat α}
    {s' : Shell} {script' : List Moment} (h : m script s = (o, s', script')) (ho : Stopped o) :
    ∃ o', Stopped o' ∧ (m >>= f) script s = (o', s', script') := by
  cases o with
  | returned a => exact absurd rfl (ho a)
  | raised status => exact ⟨.raised status, by simp [Stopped], bind_of_raised h⟩
  | killed => exact ⟨.killed, by simp [Stopped], bind_of_killed h⟩

/-- A part that stops in a safe state leaves a restorable machine. -/
theorem leaves_of_stopped {m : Script α} {f : α → Script Unit} {o : Outcome Nat α} {s' : Shell}
    {script' : List Moment} (h : m script s = (o, s', script')) (ho : Stopped o)
    (hs' : Safe lease blocked s') : Leaves lease blocked ((m >>= f) script s) := by
  obtain ⟨o', -, hrun⟩ : ∃ o', Stopped o' ∧ (m >>= f) script s = (o', s', script') :=
    bind_of_stopped h ho
  rw [hrun]
  exact .inl hs'

/-- A part that keeps a safe invariant leaves a restorable machine wherever it stops. -/
theorem Keeps.leaves {m : Script Unit} {I : Shell → Prop} (hm : Keeps I m) (hs : I s)
    (hI : ∀ s, I s → Safe lease blocked s) : Leaves lease blocked (m script s) :=
  .inl (hI _ (hm.final hs script))

/-- A command with a mishap does not come to its end. -/
theorem command_stops {traps : Bool} {f : Shell → Except Nat (α × Shell)}
    (hm : (script.headD default).mishap ≠ .none) :
    ∃ o, Stopped o
      ∧ command traps f script s = (o, s.turn (script.headD default), script.tail) := by
  rw [command, op_apply]
  cases hmishap : (script.headD default).mishap with
  | none => exact absurd hmishap hm
  | fails => exact ⟨.raised 1, by simp [Stopped], rfl⟩
  | trap signal =>
    cases traps with
    | false => exact ⟨.killed, by simp [Stopped], rfl⟩
    | true => exact ⟨.raised signal.status, by simp [Stopped], rfl⟩
  | kill => exact ⟨.killed, by simp [Stopped], rfl⟩

/-- The `n`-th command is a change: it is made and the script goes on, or made and trapped, or not
made. -/
theorem change_at (script : List Moment) (n : Nat) (f : Machine → Option Machine) {M' : Machine}
    (h : f (s.turn (momentAt script n)).machine = some M') :
    ((momentAt script n).mishap = .none
      ∧ change true f (script.drop n) s
        = (.returned (), { s.turn (momentAt script n) with machine := M' }, script.drop (n + 1)))
    ∨ ((momentAt script n).mishap ≠ .none ∧ ∃ o, Stopped o
      ∧ change true f (script.drop n) s
        = (o, s.turn (momentAt script n), script.drop (n + 1))) := by
  by_cases hm : (momentAt script n).mishap = .none
  · refine .inl ⟨hm, ?_⟩
    rw [← List.tail_drop]
    exact change_passes hm h
  · refine .inr ⟨hm, ?_⟩
    rw [← List.tail_drop]
    exact command_stops hm

/-- The `n`-th command is an assignment. -/
theorem assign_at (s : Shell) (script : List Moment) (n : Nat)
    (f : ReserveProgress → ReserveProgress) :
    ((momentAt script n).assigns
      ∧ assign f (script.drop n) s
        = (.returned (), { s.turn (momentAt script n) with progress := f s.progress },
          script.drop (n + 1)))
    ∨ ((momentAt script n).assigns = false ∧ (momentAt script n).traps
      ∧ ∃ status, assign f (script.drop n) s
        = (.raised status, s.turn (momentAt script n), script.drop (n + 1)))
    ∨ ((momentAt script n).assigns = false ∧ (momentAt script n).traps = false
      ∧ assign f (script.drop n) s
        = (.killed, s.turn (momentAt script n), script.drop (n + 1))) := by
  rw [assign, op_apply, List.tail_drop]
  show _ ∨ _ ∨ _
  rw [← momentAt]
  unfold Moment.assigns Moment.traps
  cases (momentAt script n).mishap with
  | none => exact .inl ⟨rfl, rfl⟩
  | fails => exact .inl ⟨rfl, rfl⟩
  | trap signal => exact .inr (.inl ⟨rfl, rfl, signal.status, rfl⟩)
  | kill => exact .inr (.inr ⟨rfl, rfl, rfl⟩)

/-! ## From the first write to the creation of the group

Between the first write and `created=1` the variables of the shell lag behind the machine. Four
states follow one another: the lease is written down, the controller is enabled, the group is there,
the group is known to be there. The third one is the window in which a trap can take the controller
from a group that exists. -/

/-- The lease has been written down and nothing else has happened. -/
structure Begun (lease : Lease) (blocked : Bool) (s : Shell) : Prop where
  owned : Owned lease blocked s.machine
  group : s.machine.group = false
  enabled : s.machine.controller.isSome = !lease.added
  progress : s.progress = ⟨false, false, false⟩

/-- `enabled_added=1` was the last command; `used` says whether other groups use the controller. -/
structure Enabled (lease : Lease) (blocked used : Bool) (s : Shell) : Prop where
  owned : Owned lease blocked s.machine
  group : s.machine.group = false
  files : s.machine.controller.isSome
  used : s.machine.usedByOthers = used
  progress : s.progress = ⟨false, false, true⟩

/-- The group has been made and `created=1` is still to come. -/
structure Window (lease : Lease) (blocked used : Bool) (s : Shell) : Prop where
  owned : Owned lease blocked s.machine
  group : s.machine.group = true
  idle : ∀ c ∈ s.machine.controller, c.own.inUse = false
  used : s.machine.usedByOthers = used
  progress : s.progress = ⟨false, false, true⟩

/-- What the others do with the controller is what the moment says. -/
theorem usedByOthers_turn (hfiles : s.machine.controller.isSome) (m : Moment) :
    (s.turn m).machine.usedByOthers = m.uses s.machine.usedByOthers := by
  obtain ⟨c, hc⟩ := Option.isSome_iff_exists.mp hfiles
  unfold Shell.turn Moment.uses
  cases m.others with
  | none => rfl
  | some others => simp [Machine.usedByOthers, Machine.setOthers, hc]

/-- A controller that was off was used by nobody. -/
theorem usedByOthers_enable (hnone : M.controller = none) : M.enable.usedByOthers = false := by
  simp only [Machine.enable, hnone, Machine.usedByOthers]
  rw [List.any_eq_false]
  intro c hc
  obtain ⟨name, -, rfl⟩ := List.mem_map.mp hc
  decide

/-- The group of the lease is not one of the others. -/
theorem usedByOthers_setGroup (present : Bool) :
    (M.setGroup present).usedByOthers = M.usedByOthers := by
  simp only [Machine.usedByOthers, Machine.setGroup]
  cases M.controller <;> rfl

/-- As long as the script's own group is idle, `controller_in_use` asks about the others. -/
theorem controllerInUse_of_idle (hidle : ∀ c ∈ M.controller, c.own.inUse = false) :
    M.controllerInUse = M.usedByOthers := by
  unfold Machine.controllerInUse Machine.usedByOthers
  cases hc : M.controller with
  | none => rfl
  | some c =>
    have hown := hidle c hc
    simp [hown]

/-- Others do not use the script's own group. -/
theorem idle_turn (hidle : ∀ c ∈ s.machine.controller, c.own.inUse = false) (m : Moment) :
    ∀ c ∈ (s.turn m).machine.controller, c.own.inUse = false := by
  unfold Shell.turn
  cases m.others with
  | none => exact hidle
  | some others =>
    intro c hc
    obtain ⟨c', hc', rfl⟩ := Option.mem_map.mp hc
    exact hidle c' hc'

/-- Others may begin or cease to use the controller. -/
theorem Enabled.turn {used : Bool} (h : Enabled lease blocked used s) (m : Moment) :
    Enabled lease blocked (m.uses used) (s.turn m) := by
  refine ⟨stable_owned s m h.owned, ?_, ?_, ?_, ?_⟩
  · rw [group_turn, h.group]
  · rw [isSome_turn]
    exact h.files
  · rw [usedByOthers_turn h.files, h.used]
  · rw [progress_turn, h.progress]

theorem Window.turn {used : Bool} (h : Window lease blocked used s) (m : Moment) :
    Window lease blocked (m.uses used) (s.turn m) := by
  refine ⟨stable_owned s m h.owned, ?_, idle_turn h.idle m, ?_, ?_⟩
  · rw [group_turn, h.group]
  · rw [usedByOthers_turn (h.owned.files h.group), h.used]
  · rw [progress_turn, h.progress]

/-- Before anything is enabled others change nothing that matters. -/
theorem Begun.turn (h : Begun lease blocked s) (m : Moment) : Begun lease blocked (s.turn m) := by
  refine ⟨stable_owned s m h.owned, ?_, ?_, ?_⟩
  · rw [group_turn, h.group]
  · rw [isSome_turn, h.enabled]
  · rw [progress_turn, h.progress]

/-- Nothing has been enabled, so the rollback takes nothing away. -/
theorem Begun.safe (h : Begun lease blocked s) : Safe lease blocked s := by
  refine ⟨h.owned, ?_, fun _ _ => h.group⟩
  rw [h.progress]
  intro h
  cases h

/-- There is no group yet, so the rollback may take the controller back. -/
theorem Enabled.safe {used : Bool} (h : Enabled lease blocked used s) (hadded : lease.added) :
    Safe lease blocked s :=
  ⟨h.owned, fun _ => hadded, fun _ _ => h.group⟩

/-- The machine behind the write that enables the controller. -/
theorem Begun.enable (h : Begun lease blocked s) (hadded : lease.added) :
    Owned lease blocked s.machine.enable ∧ s.machine.enable.group = false
      ∧ s.machine.enable.controller.isSome ∧ s.machine.enable.usedByOthers = false := by
  have hnone : s.machine.controller = none := by
    have henabled := h.enabled
    rwa [hadded, Bool.not_true, Option.isSome_eq_false_iff, Option.isNone_iff_eq_none] at henabled
  refine ⟨h.owned.enable, ?_, ?_, usedByOthers_enable hnone⟩
  · rw [Machine.enable, hnone]
    exact h.group
  · rw [Machine.enable, hnone]
    rfl

/-- The controller is enabled, or the machine is safe as it is. -/
theorem enableController_spec (script : List Moment) (hadded : lease.added)
    (hs : Begun lease blocked s) :
    ((momentAt script 2).mishap = .none ∧ (momentAt script 3).assigns
      ∧ ∃ s', enableController lease (script.drop 2) s = (.returned (), s', script.drop 4)
        ∧ Enabled lease blocked ((momentAt script 3).uses false) s')
    ∨ (¬ ((momentAt script 2).mishap = .none ∧ (momentAt script 3).assigns)
      ∧ ∃ o s' script', Stopped o ∧ Safe lease blocked s'
        ∧ enableController lease (script.drop 2) s = (o, s', script')) := by
  have hs₂ := hs.turn (momentAt script 2)
  rw [enableController, if_pos hadded]
  rcases change_at script 2 (fun M => some M.enable) rfl with ⟨hm, hrun⟩ | ⟨hm, o, ho, hrun⟩
  · obtain ⟨howned, hgroup, hfiles, hused⟩ := hs₂.enable hadded
    have hprogress := hs₂.progress
    generalize hs₃ : ({ s.turn (momentAt script 2) with
      machine := (s.turn (momentAt script 2)).machine.enable } : Shell) = s₃ at hrun
    have hmachine : (s.turn (momentAt script 2)).machine.enable = s₃.machine := by rw [← hs₃]
    have hstart : s₃.progress = ⟨false, false, false⟩ := by rw [← hs₃, hprogress]
    rw [hmachine] at howned hgroup hfiles hused
    -- `enabled_added=1` is a command of its own: a trap in front of it finds the variable unset
    have hbefore : Safe lease blocked (s₃.turn (momentAt script 3)) := by
      refine stable_safe s₃ _ ⟨howned, ?_, fun _ _ => hgroup⟩
      rw [hstart]
      intro h
      cases h
    rcases assign_at s₃ script 3 (fun p => { p with enabledAdded := true }) with
      ⟨ha, hassign⟩ | ⟨ha, -, status, hassign⟩ | ⟨ha, -, hassign⟩
    · refine .inl ⟨hm, ha, _, (bind_of_returned hrun).trans hassign, ?_⟩
      refine ⟨stable_owned s₃ _ howned, ?_, ?_, ?_, ?_⟩
      · exact (group_turn s₃ _).trans hgroup
      · exact (isSome_turn s₃ _).trans hfiles
      · exact (usedByOthers_turn hfiles _).trans (by rw [hused])
      · rw [hstart]
    · refine .inr ⟨?_, _, _, _, ?_, hbefore, (bind_of_returned hrun).trans hassign⟩
      · rintro ⟨-, ha'⟩
        rw [ha] at ha'
        cases ha'
      · simp [Stopped]
    · refine .inr ⟨?_, _, _, _, ?_, hbefore, (bind_of_returned hrun).trans hassign⟩
      · rintro ⟨-, ha'⟩
        rw [ha] at ha'
        cases ha'
      · simp [Stopped]
  · obtain ⟨o', ho', hbind⟩ := bind_of_stopped hrun ho
    exact .inr ⟨fun h => hm h.1, o', _, _, ho', hs₂.safe, hbind⟩

theorem Enabled.makeGroup {used : Bool} (h : Enabled lease blocked used s) :
    Window lease blocked used { s with machine := s.machine.setGroup true } := by
  refine ⟨h.owned.makeGroup h.files, rfl, ?_, ?_, h.progress⟩
  · intro c hc
    obtain ⟨c', -, rfl⟩ := Option.mem_map.mp hc
    rfl
  · exact (usedByOthers_setGroup true).trans h.used

theorem Window.working {used : Bool} (h : Window lease blocked used s) (hadded : lease.added) :
    Working lease blocked { s with progress := { s.progress with created := true } } :=
  ⟨h.owned, h.owned.files h.group, fun _ => hadded, fun _ => rfl⟩

/-- **The group is made**, and unless a signal is handled right behind it the rollback will know. -/
theorem makeGroup_spec (script : List Moment) (hadded : lease.added) {used : Bool}
    (hs : Enabled lease blocked used s) (f : Unit → Script Unit)
    (hf : ∀ u, Keeps (Working lease blocked) (f u)) :
    ((momentAt script 4).mishap = .none ∧ (momentAt script 5).traps
      ∧ ∃ status s', (makeGroup >>= f) (script.drop 4) s = (.raised status, s', script.drop 6)
        ∧ Window lease blocked ((momentAt script 5).uses ((momentAt script 4).uses used)) s')
    ∨ (¬ ((momentAt script 4).mishap = .none ∧ (momentAt script 5).traps)
      ∧ Leaves lease blocked ((makeGroup >>= f) (script.drop 4) s)) := by
  have hs₄ := hs.turn (momentAt script 4)
  have hfree : (if (s.turn (momentAt script 4)).machine.group then none
      else some ((s.turn (momentAt script 4)).machine.setGroup true))
        = some ((s.turn (momentAt script 4)).machine.setGroup true) := by
    rw [hs₄.group]
    rfl
  rcases change_at script 4 (fun M => if M.group then none else some (M.setGroup true)) hfree with
    ⟨hm, hrun⟩ | ⟨hm, o, ho, hrun⟩
  · have hwindow := hs₄.makeGroup
    generalize ({ s.turn (momentAt script 4) with
      machine := (s.turn (momentAt script 4)).machine.setGroup true } : Shell) = s₅
      at hrun hwindow
    have hwindow' := hwindow.turn (momentAt script 5)
    rcases assign_at s₅ script 5 (fun p => { p with created := true }) with
      ⟨ha, hassign⟩ | ⟨-, ht, status, hassign⟩ | ⟨-, ht, hassign⟩
    · refine .inr ⟨fun h => ?_, ?_⟩
      · exact absurd ha (by rw [Moment.not_assigns h.2]; decide)
      · have hgroup : makeGroup (script.drop 4) s = _ := (bind_of_returned hrun).trans hassign
        rw [bind_of_returned hgroup]
        refine (hf ()).leaves ?_ fun _ => Working.safe
        have hworking := hwindow'.working hadded
        rwa [progress_turn] at hworking
    · have hgroup : makeGroup (script.drop 4) s = _ := (bind_of_returned hrun).trans hassign
      exact .inl ⟨hm, ht, status, _, bind_of_raised hgroup, hwindow'⟩
    · have hgroup : makeGroup (script.drop 4) s = _ := (bind_of_returned hrun).trans hassign
      refine .inr ⟨fun h => ?_, ?_⟩
      · rw [ht] at h
        cases h.2
      · rw [bind_of_killed hgroup]
        exact .inr ⟨rfl, hwindow'.owned⟩
  · obtain ⟨o', ho', hbind⟩ := bind_of_stopped hrun ho
    exact .inr ⟨fun h => hm h.1, leaves_of_stopped hbind ho' (hs₄.safe hadded)⟩

/-- A signal is handled between `mkdir` and `created=1`, with a controller that the script has
enabled itself. -/
def TrapAfterMkdir (script : List Moment) : Prop :=
  (momentAt script 2).mishap = .none ∧ (momentAt script 3).assigns
    ∧ (momentAt script 4).mishap = .none ∧ (momentAt script 5).traps

/-- Whether other groups use the controller when the rollback looks. -/
def usedAtRollback (script : List Moment) : Bool :=
  (momentAt script 6).uses ((momentAt script 5).uses ((momentAt script 4).uses
    ((momentAt script 3).uses false)))

/-- The commands behind the traps, in their order. -/
theorem reserve_eq (kernel : Kernel) (lease : Lease) :
    reserve kernel lease = (do
      recordOwnership lease
      enableController lease
      makeGroup
      reserveGroup kernel lease) := rfl

/-- The first write: the lease is in the state file and nothing else has happened. -/
theorem Ready.record (h : Ready lease blocked s.machine)
    (hprogress : s.progress = ⟨false, false, false⟩) :
    Begun lease blocked
      { s with machine := { s.machine with state := .regular lease.stateText } } := by
  refine ⟨⟨h.owner, rfl, h.root, h.dedicated, ?_, ?_, h.restored⟩, h.group, h.enabled, hprogress⟩
  · intro hgroup
    rw [h.group] at hgroup
    cases hgroup
  · intro hadded
    have henabled := h.enabled
    rwa [hadded] at henabled

/-- The ownership is written down, or nothing is done. -/
theorem recordOwnership_spec (script : List Moment) (hs : Ready lease blocked s.machine)
    (hprogress : s.progress = ⟨false, false, false⟩) :
    ((momentAt script 1).mishap = .none
      ∧ ∃ s', recordOwnership lease (script.drop 1) s = (.returned (), s', script.drop 2)
        ∧ Begun lease blocked s')
    ∨ ((momentAt script 1).mishap ≠ .none
      ∧ ∃ o, Stopped o ∧ recordOwnership lease (script.drop 1) s
        = (o, s.turn (momentAt script 1), script.drop 2)) := by
  have hs₁ : Ready lease blocked (s.turn (momentAt script 1)).machine := stable_ready s _ hs
  have hfree : (if (s.turn (momentAt script 1)).machine.state = .absent then
        some { (s.turn (momentAt script 1)).machine with state := .regular lease.stateText }
      else none)
      = some { (s.turn (momentAt script 1)).machine with state := .regular lease.stateText } :=
    if_pos hs₁.state
  rcases change_at script 1 (fun M => if M.state = .absent then
      some { M with state := .regular lease.stateText } else none) hfree with
    ⟨hm, hrun⟩ | ⟨hm, o, ho, hrun⟩
  · exact .inl ⟨hm, _, hrun, hs₁.record ((progress_turn s _).trans hprogress)⟩
  · exact .inr ⟨hm, o, ho, hrun⟩

/-- **Only the trap between `mkdir` and `created=1` leaves a machine the rollback spoils.** -/
theorem reserve_spec (kernel : Kernel) (script : List Moment) (hs : Ready lease blocked s.machine)
    (hprogress : s.progress = ⟨false, false, false⟩) (hm : (momentAt script 1).mishap = .none) :
    (lease.added ∧ TrapAfterMkdir script
      ∧ ∃ status s', reserve kernel lease (script.drop 1) s = (.raised status, s', script.drop 6)
        ∧ Window lease blocked ((momentAt script 5).uses ((momentAt script 4).uses
          ((momentAt script 3).uses false))) s')
    ∨ (¬ (lease.added ∧ TrapAfterMkdir script)
      ∧ Leaves lease blocked (reserve kernel lease (script.drop 1) s)) := by
  rcases recordOwnership_spec script hs hprogress with ⟨-, s₂, hrecord, hbegun⟩ | ⟨hm', -⟩
  swap
  · exact absurd hm hm'
  rw [reserve_eq, bind_of_returned hrecord]
  cases hadded : lease.added with
  | false =>
    refine .inr ⟨by simp, ?_⟩
    have henable : enableController lease (script.drop 2) s₂
        = (.returned (), s₂, script.drop 2) := by
      rw [enableController, hadded]
      rfl
    rw [bind_of_returned henable]
    refine Keeps.leaves (keeps_makeGroup.bind fun _ => keeps_reserveGroup) ?_ fun _ => Working.safe
    refine ⟨hbegun.owned, hbegun.owned.enabled hadded, ?_, ?_⟩
    · rw [hbegun.progress]
      intro h
      cases h
    · rw [hbegun.progress]
      intro h
      cases h
  | true =>
    rcases enableController_spec script hadded hbegun with
      ⟨hm₂, hm₃, s₄, henable, hs₄⟩ | ⟨hnot, o, s', script', ho, hs', henable⟩
    · rw [bind_of_returned henable]
      rcases makeGroup_spec script hadded hs₄ (fun _ => reserveGroup kernel lease)
          (fun _ => keeps_reserveGroup) with ⟨hm₄, hm₅, hrun⟩ | ⟨hnot, hleaves⟩
      · exact .inl ⟨rfl, ⟨hm₂, hm₃, hm₄, hm₅⟩, hrun⟩
      · exact .inr ⟨fun h => hnot h.2.2.2, hleaves⟩
    · exact .inr ⟨fun h => hnot ⟨h.2.1, h.2.2.1⟩, leaves_of_stopped henable ho hs'⟩

/-- The rollback behind such a trap: a controller that nobody else uses goes, with the files of the
group that it does not know of. -/
theorem rollback_window (kernel : Kernel) (script : List Moment) (status : Nat) {used : Bool}
    (hs : Window lease blocked used s) :
    ((momentAt script 6).mishap = .none ∧ (momentAt script 6).uses used = false
      ∧ (rollback kernel lease status (script.drop 6) s).2.1.machine
        = (s.turn (momentAt script 6)).machine.disable)
    ∨ (¬ ((momentAt script 6).mishap = .none ∧ (momentAt script 6).uses used = false)
      ∧ Owned lease blocked (rollback kernel lease status (script.drop 6) s).2.1.machine) := by
  have hs₆ := hs.turn (momentAt script 6)
  have hinUse : (s.turn (momentAt script 6)).machine.controllerInUse
      = (momentAt script 6).uses used := by
    rw [controllerInUse_of_idle hs₆.idle, hs₆.used]
  have hrollback : rollback kernel lease status (script.drop 6) s
      = handle (do disableUnused; pure status) (fun _ => pure 1) (script.drop 6) s := by
    show (if s.progress.committed then _ else if s.progress.created then _
      else if s.progress.enabledAdded then _ else _ : Script Nat) (script.drop 6) s = _
    rw [hs.progress]
    rfl
  have hdisable : disableUnused (script.drop 6) s = _ := op_apply _ (script.drop 6) s
  rw [← momentAt] at hdisable
  simp only [hinUse] at hdisable
  rw [hrollback, handle]
  cases hm : (momentAt script 6).mishap with
  | none =>
    rw [hm] at hdisable
    rw [bind_of_returned hdisable]
    cases hused : (momentAt script 6).uses used with
    | false => exact .inl ⟨rfl, rfl, rfl⟩
    | true => exact .inr ⟨by simp, hs₆.owned⟩
  | fails =>
    rw [hm] at hdisable
    cases hused : (momentAt script 6).uses used with
    | false =>
      rw [hused] at hdisable
      rw [bind_of_raised hdisable]
      exact .inr ⟨by simp, hs₆.owned⟩
    | true =>
      rw [hused] at hdisable
      rw [bind_of_returned hdisable]
      exact .inr ⟨by simp, hs₆.owned⟩
  | trap signal =>
    rw [hm] at hdisable
    rw [bind_of_killed hdisable]
    exact .inr ⟨by simp, hs₆.owned⟩
  | kill =>
    rw [hm] at hdisable
    rw [bind_of_killed hdisable]
    exact .inr ⟨by simp, hs₆.owned⟩

end Moments

/-! ## Whole runs

A run of `acquire_partition` leaves one of three machines: one on which nothing was recorded, one
with a lease that a release can undo, and a stranded one, with a group whose files are gone. The
last takes a trap in the window and no other user of the controller. -/

/-- `acquire_partition` under `script`, and behind it a release without mishaps; in between the other
groups may change what they do once more. -/
def acquireRelease (kernel : Kernel) (owner available dedicated : List Char) (M : Machine)
    (script : List Moment) (later : Option (List Cpuset)) : Outcome Nat Unit × Shell :=
  let s := (acquirePartition kernel owner available dedicated script (Shell.start M)).2.1.turn
    ⟨later, .none⟩
  let result := releasePartition kernel owner [] s
  (result.1, result.2.1)

/-- The release succeeds, and the machine is as it was: no group, all CPUs, and the controller
enabled exactly if it was or some other group has come to use it. -/
structure Restored (M : Machine) (available : List Char)
    (result : Outcome Nat Unit × Shell) : Prop where
  succeeds : result.1 = .returned ()
  absent : result.2.machine.group = false
  full : parseCpuList available = some result.2.machine.rootEffective
  controller : result.2.machine.controller.isSome = (M.controller.isSome || result.2.used)

/-- The ownership state is written. -/
def Recorded (script : List Moment) : Prop :=
  (momentAt script 0).mishap = .none ∧ (momentAt script 1).mishap = .none

/-- The trap behind `mkdir` takes the controller away: it was off before, nobody else uses it and the
rollback comes to its write. -/
def Strands (M : Machine) (script : List Moment) : Prop :=
  M.controller = none ∧ Recorded script ∧ TrapAfterMkdir script
    ∧ (momentAt script 6).mishap = .none ∧ usedAtRollback script = false

/-- The group is there and its files are not. -/
structure Stranded (lease : Lease) (M : Machine) : Prop where
  owner : M.validateOwner lease.owner
  state : M.state = .regular lease.stateText
  read : readLease lease.owner lease.stateText = some lease
  group : M.group = true
  controller : M.controller = none

/-- Others do not bring the files back. -/
theorem Stranded.turn (h : Stranded lease s.machine) (m : Moment) :
    Stranded lease (s.turn m).machine := by
  unfold Shell.turn
  cases m.others with
  | none => exact h
  | some others =>
    refine ⟨h.owner, h.state, h.read, h.group, ?_⟩
    show s.machine.controller.map _ = none
    rw [h.controller]
    rfl

/-- With nothing done there is nothing to roll back. -/
theorem rollback_idle (script : List Moment) (status : Nat)
    (hprogress : s.progress = ⟨false, false, false⟩) :
    rollback kernel lease status script s = (.returned status, s, script) := by
  show (if s.progress.committed then _ else if s.progress.created then _
    else if s.progress.enabledAdded then _ else _ : Script Nat) script s = _
  rw [hprogress]
  rfl

/-- Before the traps are set there is nothing to undo. -/
theorem acquirePartition_stops {owner available dedicated : List Char} {script : List Moment}
    (hm : (momentAt script 0).mishap ≠ .none) :
    (acquirePartition kernel owner available dedicated script s).2.1
      = s.turn (momentAt script 0) := by
  have hstop : ∃ o, Stopped o
      ∧ look false (fun M => M.lease kernel owner available dedicated) script s
        = (o, s.turn (momentAt script 0), script.tail) := command_stops hm
  obtain ⟨o, ho, hlook⟩ := hstop
  have hbind : ∃ o', Stopped o' ∧ acquirePartition kernel owner available dedicated script s
      = (o', s.turn (momentAt script 0), script.tail) := bind_of_stopped hlook ho
  obtain ⟨o', -, hrun⟩ := hbind
  rw [hrun]

/-- Neither is there before the ownership is written down. -/
theorem finish_unrecorded {script : List Moment} (hs : Ready lease blocked s.machine)
    (hprogress : s.progress = ⟨false, false, false⟩) (hm : (momentAt script 1).mishap ≠ .none) :
    (finish kernel lease (reserve kernel lease (script.drop 1) s)).2.1
      = s.turn (momentAt script 1) := by
  rcases recordOwnership_spec script hs hprogress with ⟨hm', -⟩ | ⟨-, o, ho, hrecord⟩
  · exact absurd hm' hm
  · have hprogress' := (progress_turn s (momentAt script 1)).trans hprogress
    cases o with
    | returned a => exact absurd rfl (ho a)
    | raised status =>
      rw [reserve_eq, bind_of_raised hrecord, finish, rollback_idle _ _ hprogress']
    | killed => rw [reserve_eq, bind_of_killed hrecord, finish]

/-- Taking the controller away in the window takes the files of the group. -/
theorem Window.stranded {used : Bool} (h : Window lease blocked used s) :
    Stranded lease s.machine.disable :=
  ⟨h.owned.owner, h.owned.state, h.owned.readLease, h.group, rfl⟩

/-- Behind the record of the ownership, the machine can be restored unless the trap strands the
group. -/
theorem finish_recorded (kernel : Kernel) {script : List Moment} (hs : Ready lease blocked s.machine)
    (hprogress : s.progress = ⟨false, false, false⟩) (hm : (momentAt script 1).mishap = .none) :
    (¬ (lease.added ∧ TrapAfterMkdir script ∧ (momentAt script 6).mishap = .none
        ∧ usedAtRollback script = false)
      ∧ Owned lease blocked
        (finish kernel lease (reserve kernel lease (script.drop 1) s)).2.1.machine)
    ∨ ((lease.added ∧ TrapAfterMkdir script ∧ (momentAt script 6).mishap = .none
        ∧ usedAtRollback script = false)
      ∧ Stranded lease
        (finish kernel lease (reserve kernel lease (script.drop 1) s)).2.1.machine) := by
  rcases reserve_spec kernel script hs hprogress hm with
    ⟨hadded, htrap, status, s', hrun, hwindow⟩ | ⟨hnot, hleaves⟩
  · rw [hrun, finish]
    rcases rollback_window kernel script status hwindow with ⟨hm₆, hused, hmachine⟩ | ⟨hnot, howned⟩
    · refine .inr ⟨⟨hadded, htrap, hm₆, hused⟩, ?_⟩
      rw [hmachine]
      exact (hwindow.turn _).stranded
    · exact .inl ⟨fun h => hnot h.2.2, howned⟩
  · exact .inl ⟨fun h => hnot ⟨h.1, h.2.1⟩, hleaves.finish⟩

/-- **Every run of `acquire_partition`**, by what it leaves behind. -/
theorem acquirePartition_leaves {owner available dedicated : List Char} (script : List Moment)
    (hlease : M.lease kernel owner available dedicated = some lease)
    (hadded : lease.added = M.controller.isNone) (hM : Ready lease blocked M) {s' : Shell}
    (hs' : (acquirePartition kernel owner available dedicated script
      (Shell.start M)).2.1 = s') :
    (¬ Recorded script ∧ Ready lease blocked s'.machine)
    ∨ (Recorded script ∧ ¬ Strands M script ∧ Owned lease blocked s'.machine)
    ∨ (Strands M script ∧ Stranded lease s'.machine) := by
  subst hs'
  have hready := stable_ready (Shell.start M) (momentAt script 0) hM
  have hprogress := progress_turn (Shell.start M) (momentAt script 0)
  have hoff : lease.added ↔ M.controller = none := by
    rw [hadded, Option.isNone_iff_eq_none]
  by_cases hm₀ : (momentAt script 0).mishap = .none
  swap
  · refine .inl ⟨fun h => hm₀ h.1, ?_⟩
    rw [acquirePartition_stops hm₀]
    exact hready
  have hrun : acquirePartition kernel owner available dedicated script (Shell.start M)
      = finish kernel lease (reserve kernel lease (script.drop 1)
        ((Shell.start M).turn (momentAt script 0))) := by
    rw [List.drop_one]
    exact acquirePartition_eq hm₀ hlease
  rw [hrun]
  by_cases hm₁ : (momentAt script 1).mishap = .none
  swap
  · refine .inl ⟨fun h => hm₁ h.2, ?_⟩
    rw [finish_unrecorded hready hprogress hm₁]
    exact stable_ready _ _ hready
  rcases finish_recorded kernel hready hprogress hm₁ with ⟨hnot, howned⟩ | ⟨⟨ha, htrap⟩, hstranded⟩
  · exact .inr (.inl ⟨⟨hm₀, hm₁⟩, fun h => hnot ⟨hoff.mpr h.1, h.2.2⟩, howned⟩)
  · exact .inr (.inr ⟨⟨hoff.mp ha, ⟨hm₀, hm₁⟩, htrap⟩, hstranded⟩)

/-! ## The release behind each kind of run

The release is run on the machine that the acquisition has left, with whatever the others do in
between. `Honest` ties the ghost variable `used` of the shell to the machine it starts from, so that
what is said about the controller afterwards is about its users before. -/

section Release

variable {owner available dedicated : List Char} {script : List Moment}
  {later : Option (List Cpuset)}

/-- Both halves share the state in the middle. -/
theorem acquireRelease_eq {result : Outcome Nat Unit × Shell × List Moment}
    (h : releasePartition kernel owner [] ((acquirePartition kernel owner available dedicated script
      (Shell.start M)).2.1.turn ⟨later, .none⟩) = result) :
    acquireRelease kernel owner available dedicated M script later = (result.1, result.2.1) := by
  rw [← h]
  rfl

/-- `used` says what the other groups do with the controller, and that a controller which is gone
was used by none of them. -/
def Honest (s : Shell) : Prop := s.used = s.machine.usedByOthers

/-- Others change the machine and `used` together. -/
theorem stable_honest : Stable Honest := by
  intro s m hs
  unfold Honest Shell.turn at *
  cases m.others with
  | none => exact hs
  | some others =>
    simp only [Machine.usedByOthers, Machine.setOthers] at hs ⊢
    cases hcontroller : s.machine.controller with
    | none => simpa [hcontroller] using hs
    | some c => rfl

/-- A command of the scripts leaves the files of the other groups alone. -/
theorem keeps_honest {f : Machine → Option Machine} (traps : Bool)
    (hf : ∀ M M', f M = some M' → M'.usedByOthers = M.usedByOthers) :
    Keeps Honest (change traps f) :=
  keeps_change stable_honest traps fun s M hs hM => Eq.trans hs (hf s.machine M hM).symm

/-- Writes into the own group do not count as use by others. -/
theorem usedByOthers_setOwn (M : Machine) (f : Cpuset → Cpuset) :
    (M.setOwn f).usedByOthers = M.usedByOthers := by
  unfold Machine.usedByOthers Machine.setOwn
  cases M.controller <;> rfl

/-- The look in front of the write sees to it. -/
theorem keeps_honest_disableUnused : Keeps Honest disableUnused := by
  refine keeps_disableUnused stable_honest fun s hs hunused => ?_
  have hothers : s.machine.usedByOthers = false := by
    unfold Machine.controllerInUse at hunused
    unfold Machine.usedByOthers
    cases hcontroller : s.machine.controller with
    | none => rfl
    | some c =>
      rw [hcontroller] at hunused
      exact (Bool.or_eq_false_iff.mp hunused).1
  exact Eq.trans hs hothers

/-- They do not switch the controller either. -/
theorem keeps_honest_setOwn (traps : Bool) (f : Cpuset → Cpuset) :
    Keeps Honest (change traps fun M =>
      if M.controller.isSome then some (M.setOwn f) else none) := by
  refine keeps_honest traps fun M M' hM => ?_
  split at hM
  · obtain rfl := Option.some.inj hM
    exact usedByOthers_setOwn M f
  · cases hM

/-- The state file is not part of the controller. -/
theorem keeps_honest_recordRestored (root : List Char) :
    Keeps Honest (recordRestored lease root) := by
  refine keeps_honest false fun M M' hM => ?_
  unfold Machine.addRestored at hM
  split at hM
  · obtain rfl := Option.some.inj hM
    rfl
  · obtain rfl := Option.some.inj hM
    rfl
  · cases hM

/-- Nor is the group of the lease. -/
theorem keeps_honest_removeGroup : Keeps Honest removeGroup :=
  (keeps_honest_setOwn false _).bind fun _ => keeps_honest false fun M M' hM => by
    obtain rfl := Option.some.inj hM
    exact usedByOthers_setGroup false

/-- The release of a lease that is the caller's own. -/
theorem keeps_honest_releaseOwned : Keeps Honest (releaseOwned kernel lease) := by
  refine (keeps_look stable_honest false _).bind fun present => ?_
  have hremove : Keeps Honest (removePresent present) := by
    cases present with
    | false => exact .pure ()
    | true => exact keeps_honest_removeGroup
  refine hremove.bind fun _ => (keeps_look stable_honest false _).bind fun root =>
    (keeps_look stable_honest false _).bind fun enabled => ?_
  have hdisable : Keeps Honest (disableAdded lease enabled) := by
    unfold disableAdded
    split
    · exact keeps_honest_disableUnused
    · exact .pure ()
  exact hdisable.bind fun _ => (keeps_honest_recordRestored root).bind fun _ =>
    keeps_look stable_honest false _

theorem keeps_honest_releasePartition (owner : List Char) :
    Keeps Honest (releasePartition kernel owner) := by
  have howner : Keeps Honest (command false fun s =>
      if s.machine.validateOwner owner then .ok ((), s) else .error 2) := by
    intro s hs
    refine wp_command (fun m => ?_) (fun m _ => stable_honest s m hs) fun m => stable_honest s m hs
    cases (s.turn m).machine.validateOwner owner <;> exact stable_honest s m hs
  refine howner.bind fun _ => (keeps_look stable_honest false _).bind fun state => ?_
  cases state with
  | absent => exact keeps_look stable_honest false _
  | special => exact .raise 1
  | regular text =>
    rw [releaseState]
    cases readLease owner text with
    | none => exact .raise 1
    | some lease => exact keeps_honest_releaseOwned

/-- The commands behind the traps. -/
theorem keeps_honest_reserve : Keeps Honest (reserve kernel lease) := by
  have hassign : ∀ f, Keeps Honest (assign f) := fun _ => keeps_assign stable_honest fun _ hs => hs
  have hrecord : Keeps Honest (recordOwnership lease) := by
    refine keeps_honest true fun M M' hM => ?_
    split at hM
    · obtain rfl := Option.some.inj hM
      rfl
    · cases hM
  have henable : Keeps Honest (enableController lease) := by
    unfold enableController
    split
    · refine (keeps_honest true fun M M' hM => ?_).bind fun _ => hassign _
      obtain rfl := Option.some.inj hM
      cases hcontroller : M.controller with
      | none => rw [usedByOthers_enable hcontroller, Machine.usedByOthers, hcontroller]
      | some c => rw [Machine.enable, hcontroller]
    · exact .pure ()
  have hgroup : Keeps Honest makeGroup := by
    refine (keeps_honest true fun M M' hM => ?_).bind fun _ => hassign _
    split at hM
    · cases hM
    · obtain rfl := Option.some.inj hM
      exact usedByOthers_setGroup true
  have hactive : ∀ actual root, Keeps Honest (recordActive lease actual root) := by
    intro actual root
    refine keeps_honest true fun M M' hM => ?_
    split at hM
    · obtain rfl := Option.some.inj hM
      rfl
    · cases hM
  exact hrecord.bind fun _ => henable.bind fun _ => hgroup.bind fun _ =>
    ((keeps_honest_setOwn true _).bind fun _ => keeps_honest_setOwn true _).bind fun _ =>
      (keeps_look stable_honest true _).bind fun _ => (hactive _ _).bind fun _ =>
        (hassign _).bind fun _ => keeps_look stable_honest true _

theorem keeps_honest_rollback (status : Nat) : Keeps Honest (rollback kernel lease status) := by
  intro s hs
  refine wp_bind (wp_get ?_)
  dsimp only
  split
  · exact wp_pure hs
  · split
    · exact (((keeps_honest_releasePartition _).bind fun _ => .pure status).handle
        fun _ => .pure 1) s hs
    · split
      · exact ((keeps_honest_disableUnused.bind fun _ => .pure status).handle fun _ => .pure 1) s hs
      · exact wp_pure hs

/-- The whole run, to the end of the release. -/
theorem honest_acquireRelease (kernel : Kernel) (owner available dedicated : List Char)
    (M : Machine) (script : List Moment) (later : Option (List Cpuset)) :
    Honest (acquireRelease kernel owner available dedicated M script later).2 := by
  have hacquire : Keeps Honest (acquirePartition kernel owner available dedicated) :=
    (keeps_look stable_honest false _).bind fun _ =>
      ((keeps_honest_reserve.bind fun _ => .pure 0).handle fun status => .pure status).bind
        fun status => keeps_honest_rollback status
  have hstart : Honest (Shell.start M) := rfl
  exact (keeps_honest_releasePartition owner).final
    (stable_honest _ _ (hacquire.final hstart script)) []

/-- A controller that is off is used by nobody. -/
theorem usedByOthers_of_off (h : M.controller.isSome = false) : M.usedByOthers = false := by
  rw [Option.isSome_eq_false_iff, Option.isNone_iff_eq_none] at h
  rw [Machine.usedByOthers, h]

/-- Nothing was done: the release has nothing to undo. -/
theorem restored_of_ready {s' : Shell} (hadded : lease.added = M.controller.isNone)
    (havailable : parseCpuList available = some lease.available)
    (hs' : Ready lease blocked s'.machine) (hhonest : Honest s') :
    Restored M available (.returned (), s') := by
  refine ⟨rfl, hs'.group, ?_, ?_⟩
  · rw [havailable, Machine.rootEffective, Machine.partitionCpus, hs'.group, hs'.root]
    simp
  · have hsame : s'.machine.controller.isSome = M.controller.isSome := by
      rw [hs'.enabled, hadded, Option.not_isNone]
    show s'.machine.controller.isSome = (M.controller.isSome || s'.used)
    rw [hhonest, hsame]
    cases hon : M.controller.isSome with
    | false => rw [usedByOthers_of_off (hsame.trans hon), Bool.or_false]
    | true => rw [Bool.true_or]

/-- A machine that the release has vacated is as it was, its controller included. -/
theorem restored_of_vacated {s' : Shell} (hadded : lease.added = M.controller.isNone)
    (havailable : parseCpuList available = some lease.available)
    (hs' : Vacated lease blocked s'.machine) (hsettled : s'.machine.Settled lease)
    (hhonest : Honest s') : Restored M available (.returned (), s') := by
  refine ⟨rfl, hs'.2, ?_, ?_⟩
  · rw [havailable, hs'.1.rootEffective hs'.2]
  · have hcontroller : s'.machine.controller.isSome = _ := hsettled
    rw [hadded, Option.not_isNone, ← hhonest] at hcontroller
    exact hcontroller

/-- A release that fails has not restored the machine. -/
theorem not_restored_of_raised {status : Nat} {s' : Shell} :
    ¬ Restored M available (.raised status, s') := by
  intro h
  cases h.succeeds

/-- In the window the group stays behind: the release finds no controller and fails. -/
theorem acquireRelease_strands (later : Option (List Cpuset))
    (h : M.accepted kernel owner available dedicated)
    (hstrands : Strands M script) :
    ∃ s', acquireRelease kernel owner available dedicated M script later = (.raised 1, s')
      ∧ s'.machine.group = true := by
  obtain ⟨lease, hlease, rfl, -, hadded, hready⟩ := lease_of_accepted h
  rcases acquirePartition_leaves script hlease hadded hready rfl with
    ⟨hnot, -⟩ | ⟨-, hnot, -⟩ | ⟨-, hstranded⟩
  · exact absurd hstrands.2.1 hnot
  · exact absurd hstrands hnot
  · have hlater := hstranded.turn ⟨later, .none⟩
    refine ⟨_, acquireRelease_eq (releasePartition_stranded hlater.owner hlater.state hlater.read
      hlater.group hlater.controller), hlater.group⟩

end Release

/-! ## A machine on which it happens

Two CPUs and nobody else. The trap behind `mkdir` strands the group there; a kill at the same place
does not, since no rollback runs. -/

/-- The kernel prints every CPU by itself. -/
def plainKernel : Kernel := ⟨CpuList.format, CpuSet.parse_format, true⟩

def twoCpus : CpuSet := ⟨[0, 1], by decide, by decide, by decide⟩

/-- Two CPUs, and a cpuset controller that nobody has enabled. -/
def idleMachine : Machine where
  online := some (CpuList.format [0, 1])
  isolated := some []
  controllers := some ["cpuset".toList]
  root := twoCpus
  groups := []
  controller := none
  group := false
  stateDir := true
  state := .absent
  active := .absent
  restored := .absent

/-- The available CPUs are read back. -/
theorem parse_twoCpus : parseCpuList (CpuList.format [0, 1]) = some [0, 1] := twoCpus.parse_format

/-- The arguments pass the checks. -/
theorem accepted_idleMachine :
    idleMachine.accepted plainKernel ['7'] (CpuList.format [0, 1]) ['1'] := by
  have hroot : idleMachine.rootEffective = [0, 1] := by decide
  have hnumber : CpuList.number (some 4) ['1'] = some 1 := by decide
  have hcheck : idleMachine.checkCpuAvailability plainKernel (CpuList.format [0, 1]) ['1'] = 0 := by
    unfold Machine.checkCpuAvailability
    rw [hnumber, parse_twoCpus]
    refine if_pos ⟨by decide, by decide, ?_, by decide, by decide, ?_⟩
    · have honline : idleMachine.online.bind parseCpuList = some [0, 1] := parse_twoCpus
      rw [Machine.allOnline, honline]
      decide
    · rw [hroot]
      rfl
  rw [Machine.accepted, hcheck]
  decide

/-- `TERM` comes while `mkdir` runs and is handled behind it. -/
def trapBehindMkdir : List Moment :=
  List.replicate 5 ⟨none, .none⟩ ++ [⟨none, .trap .term⟩]

end AceXdp
