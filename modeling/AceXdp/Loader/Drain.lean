import AceXdp.Kern.Accounting
import AceXdp.Lib.Transition
import Mathlib.Data.List.FinRange

/-!
# AceXdp — the CPUMAP drain barrier of the loader

`wait_for_cpumap_records` polls five counters, each summed over CPUs one CPU at a time, while
frames are still on their way through the CPUMAP queue. The barrier rests on two orders: a frame
is counted as requested before it can be measured, and its record is in the map before its
terminal counter is bumped; and a snapshot reads the terminal counters first. The system below
has one step for each atomic action.

* `FrameInv`: every redirected frame is queued, being measured, measured or lost, and the
  counters count exactly that;
* `drain_barrier`: no snapshot shows more terminal outcomes than requests, and a full drain
  after detach leaves nothing in flight and every outcome in the maps.
-/

namespace AceXdp

open Transition Transition.System WriteOnce

variable {ncpu N : Nat}

/-! ## The polling loop

`wait_for_cpumap_records` takes snapshots of the counters until it can decide. A snapshot is read
counter by counter and CPU by CPU, so a step of the loop is one such read. -/

def drainTimeoutMs : Nat := 5000
def drainPollMs : Nat := 10
def drainGraceMs : Nat := 100
def lossQuietMs : Nat := 1000
def stablePolls : Nat := 10

structure DrainReport where
  requested : Nat
  terminal : Nat
  unobserved : Nat
  deriving DecidableEq, Repr

/-- The locals of the polling loop between two snapshots. -/
structure DrainLoop where
  elapsed : Nat
  previousRequested : Nat
  previousTerminal : Nat
  lastChangeMs : Nat
  stableSnapshots : Nat
  deriving DecidableEq, Repr

/-- Before the first snapshot; both previous values are `UINT64_MAX`. -/
def DrainLoop.start : DrainLoop := ⟨0, 2 ^ 64 - 1, 2 ^ 64 - 1, 0, 0⟩

inductive DrainVerdict where
  | again (loop : DrainLoop)
  | done (report : DrainReport)
  | timedOut
  deriving DecidableEq, Repr

/-- The snapshot repeats the previous one. -/
def DrainLoop.unchanged (l : DrainLoop) (requested terminal : Nat) : Bool :=
  requested == l.previousRequested && terminal == l.previousTerminal

/-- `stable_snapshots` and `last_change_ms` after comparing with the previous snapshot. -/
def DrainLoop.stability (l : DrainLoop) (requested terminal : Nat) : Nat × Nat :=
  if l.unchanged requested terminal then (l.stableSnapshots + 1, l.lastChangeMs)
  else (0, l.elapsed)

/-- One iteration of the loop, once its five counters are read. -/
def DrainLoop.snapshot (l : DrainLoop) (requested terminal : Nat) : DrainVerdict :=
  let (stableSnapshots, lastChangeMs) := l.stability requested terminal
  if requested = terminal ∧ l.elapsed ≥ drainGraceMs ∧ stableSnapshots ≥ stablePolls then
    .done ⟨requested, terminal, 0⟩
  else if l.elapsed = drainTimeoutMs then
    if requested > terminal ∧ l.elapsed - lastChangeMs ≥ lossQuietMs ∧
        stableSnapshots ≥ stablePolls then
      .done ⟨requested, terminal, requested - terminal⟩
    else .timedOut
  else .again ⟨l.elapsed + drainPollMs, requested, terminal, lastChangeMs, stableSnapshots⟩

theorem snapshot_done_zero {l : DrainLoop} {requested terminal : Nat} {r : DrainReport}
    (h : l.snapshot requested terminal = .done r) (h0 : r.unobserved = 0) :
    requested = terminal := by
  unfold DrainLoop.snapshot at h
  generalize l.stability requested terminal = st at h
  dsimp only at h
  split at h
  · rename_i heq
    exact heq.1
  · split at h
    · split at h
      · rename_i hgt
        cases h
        dsimp only at h0
        omega
      · cases h
    · cases h

/-! ## The system

Three parties without a common lock: the CPUs that dispatch, the CPUMAP threads that take frames
from the queue and bump a counter a while later, and the loader that reads the counters one CPU at a
time. -/

/-- The terminal counters in the order they are read. -/
def terminalStats : List Stat :=
  [.cpumapRecorded, .cpumapDuplicate, .cpumapUpdateError, .cpumapMetaInvalid]

/-- The single-CPU reads behind the four terminal sums. -/
def terminalReads (ncpu : Nat) : List (Stat × Fin ncpu) :=
  terminalStats.flatMap fun id => (List.finRange ncpu).map fun cpu => (id, cpu)

/-- Where the loader is. `afterDetach` records whether the wait was started after the detach. -/
inductive DrainPhase (ncpu : Nat) where
  | idle
  -- summing the terminal counters; `todo` are the reads left
  | readTerminal (afterDetach : Bool) (loop : DrainLoop) (todo : List (Stat × Fin ncpu))
      (terminal : Nat)
  -- summing the request counter; the terminal sum is complete
  | readRequested (afterDetach : Bool) (loop : DrainLoop) (terminal : Nat)
      (todo : List (Fin ncpu)) (requested : Nat)
  -- back in `main`; `none` is an error
  | returned (afterDetach : Bool) (report : Option DrainReport)
  deriving DecidableEq

/-- The maps, the redirected frames and where each of them is, and the loader. A frame is the
metadata it left `xdp_dispatch` with. -/
structure DrainSystem (ncpu N : Nat) where
  kern : KernState ncpu N
  attached : Bool
  redirected : List RxMeta
  queued : List RxMeta
  -- frames whose map update is done and whose counter is not bumped yet
  updated : List (RxMeta × Fin ncpu × Stat)
  outcomes : List (RxMeta × Stat)
  lost : List RxMeta
  phase : DrainPhase ncpu

inductive DrainAction where
  | dispatch | lose | measure | count | detach | loader
  deriving DecidableEq, Repr

inductive DrainStep (mode : ForwardingMode) :
    DrainSystem ncpu N → DrainAction → DrainSystem ncpu N → Prop where
  -- A packet that is not redirected to the CPUMAP
  | dispatchOther {s : DrainSystem ncpu N} (ctx : XdpMd ncpu) (hatt : s.attached = true)
      (hout : (xdpDispatch mode s.kern ctx).2.toCpumap = false) :
      DrainStep mode s .dispatch { s with kern := (xdpDispatch mode s.kern ctx).1 }
  -- A packet that is
  | dispatchCpumap {s : DrainSystem ncpu N} (ctx : XdpMd ncpu) (rx : RxMeta)
      (hatt : s.attached = true) (hout : (xdpDispatch mode s.kern ctx).2.toCpumap = true)
      (hrx : (xdpDispatch mode s.kern ctx).2.rxMeta = some rx) :
      DrainStep mode s .dispatch { s with
        kern := (xdpDispatch mode s.kern ctx).1
        redirected := rx :: s.redirected
        queued := rx :: s.queued }
  -- A redirected frame is lost on its way to, or in, the queue
  | lose {s : DrainSystem ncpu N} {rx : RxMeta} {pre post : List RxMeta}
      (h : s.queued = pre ++ rx :: post) :
      DrainStep mode s .lose { s with queued := pre ++ post, lost := rx :: s.lost }
  -- the worker runs `xdp_cpumap_measure` up to its counter; the metadata may have been lost
  | measure {s : DrainSystem ncpu N} {rx : RxMeta} {pre post : List RxMeta}
      (h : s.queued = pre ++ rx :: post) (cpu : Fin ncpu) (ktimeNs : UInt64)
      (seen : Option RxMeta) (hseen : seen = some rx ∨ seen = none) :
      DrainStep mode s .measure { s with
        kern := (cpumapUpdate s.kern cpu ktimeNs seen).1
        queued := pre ++ post
        updated := (rx, cpu, (cpumapUpdate s.kern cpu ktimeNs seen).2) :: s.updated }
  -- the worker bumps the counter
  | count {s : DrainSystem ncpu N} {rx : RxMeta} {cpu : Fin ncpu} {id : Stat}
      {pre post : List (RxMeta × Fin ncpu × Stat)}
      (h : s.updated = pre ++ (rx, cpu, id) :: post) :
      DrainStep mode s .count { s with
        kern := s.kern.count cpu id
        updated := pre ++ post
        outcomes := (rx, id) :: s.outcomes }
  -- the detach waits for running programs; afterwards none starts
  | detach {s : DrainSystem ncpu N} : DrainStep mode s .detach { s with attached := false }
  | start {s : DrainSystem ncpu N} (h : s.phase = .idle) :
      DrainStep mode s .loader
        { s with phase := .readTerminal (!s.attached) DrainLoop.start (terminalReads ncpu) 0 }
  | readTerminal {s : DrainSystem ncpu N} {after : Bool} {l : DrainLoop} {id : Stat}
      {cpu : Fin ncpu} {todo : List (Stat × Fin ncpu)} {terminal : Nat}
      (h : s.phase = .readTerminal after l ((id, cpu) :: todo) terminal) :
      DrainStep mode s .loader
        { s with phase := .readTerminal after l todo (terminal + s.kern.stats cpu id) }
  | turn {s : DrainSystem ncpu N} {after : Bool} {l : DrainLoop} {terminal : Nat}
      (h : s.phase = .readTerminal after l [] terminal) :
      DrainStep mode s .loader
        { s with phase := .readRequested after l terminal (List.finRange ncpu) 0 }
  | readRequested {s : DrainSystem ncpu N} {after : Bool} {l : DrainLoop} {cpu : Fin ncpu}
      {todo : List (Fin ncpu)} {terminal requested : Nat}
      (h : s.phase = .readRequested after l terminal (cpu :: todo) requested) :
      DrainStep mode s .loader { s with
        phase := .readRequested after l terminal todo (requested + s.kern.stats cpu .cpumap) }
  | again {s : DrainSystem ncpu N} {after : Bool} {l l' : DrainLoop} {terminal requested : Nat}
      (h : s.phase = .readRequested after l terminal [] requested)
      (hv : l.snapshot requested terminal = .again l') :
      DrainStep mode s .loader
        { s with phase := .readTerminal after l' (terminalReads ncpu) 0 }
  | finish {s : DrainSystem ncpu N} {after : Bool} {l : DrainLoop} {terminal requested : Nat}
      {report : DrainReport} (h : s.phase = .readRequested after l terminal [] requested)
      (hv : l.snapshot requested terminal = .done report) :
      DrainStep mode s .loader { s with phase := .returned after (some report) }
  | timeout {s : DrainSystem ncpu N} {after : Bool} {l : DrainLoop} {terminal requested : Nat}
      (h : s.phase = .readRequested after l terminal [] requested)
      (hv : l.snapshot requested terminal = .timedOut) :
      DrainStep mode s .loader { s with phase := .returned after none }
  -- A counter lookup fails, or the value buffer cannot be had
  | lookupError {s : DrainSystem ncpu N} {after : Bool} {l : DrainLoop}
      (h : (∃ todo terminal, s.phase = .readTerminal after l todo terminal)
        ∨ ∃ terminal todo requested, s.phase = .readRequested after l terminal todo requested) :
      DrainStep mode s .loader { s with phase := .returned after none }

def drainSystem (mode : ForwardingMode) : System (DrainSystem ncpu N) DrainAction where
  init s := s = ⟨KernState.init, true, [], [], [], [], [], .idle⟩
  step := DrainStep mode

/-! ## Sums read one CPU at a time

A sum that is read while the counters move is no value the sum ever had. It lies between the sum at
the start of the reading and the sum at its end, which is all the barrier needs. -/

/-- What the reads still to do would add now. -/
def pendingRequested (s : KernState ncpu N) (todo : List (Fin ncpu)) : Nat :=
  (todo.map fun cpu => s.stats cpu .cpumap).sum

/-- What the reads in the list add up to now. -/
def readSum (s : KernState ncpu N) (reads : List (Stat × Fin ncpu)) : Nat :=
  (reads.map fun p => s.stats p.2 p.1).sum

/-- The sum of the four terminal counters over all CPUs. -/
def terminalTotal (s : KernState ncpu N) : Nat :=
  (terminalStats.map fun id => statTotal s.stats id).sum

theorem statTotal_eq_sum (stats : Stats ncpu) (id : Stat) :
    statTotal stats id = ((List.finRange ncpu).map fun cpu => stats cpu id).sum :=
  Fin.sum_univ_def _

theorem pendingRequested_all (s : KernState ncpu N) :
    pendingRequested s (List.finRange ncpu) = statTotal s.stats .cpumap :=
  (statTotal_eq_sum s.stats .cpumap).symm

theorem readSum_all (s : KernState ncpu N) : readSum s (terminalReads ncpu) = terminalTotal s := by
  simp [readSum, terminalReads, terminalStats, terminalTotal, statTotal_eq_sum, Function.comp_def]

/-- One kernel state is a later one: no counter has gone down. -/
def StatsLe (s s' : KernState ncpu N) : Prop := ∀ cpu id, s.stats cpu id ≤ s'.stats cpu id

theorem sum_map_le {α : Type} (l : List α) {f g : α → Nat} (h : ∀ a, f a ≤ g a) :
    (l.map f).sum ≤ (l.map g).sum := by
  induction l with
  | nil => exact Nat.le_refl 0
  | cons a l ih =>
    have ha := h a
    simp only [List.map_cons, List.sum_cons]
    omega

theorem StatsLe.pendingRequested {s s' : KernState ncpu N} (h : StatsLe s s')
    (todo : List (Fin ncpu)) :
    AceXdp.pendingRequested s todo ≤ AceXdp.pendingRequested s' todo :=
  sum_map_le todo fun cpu => h cpu .cpumap

theorem StatsLe.readSum {s s' : KernState ncpu N} (h : StatsLe s s')
    (reads : List (Stat × Fin ncpu)) : AceXdp.readSum s reads ≤ AceXdp.readSum s' reads :=
  sum_map_le reads fun p => h p.2 p.1

theorem StatsLe.terminalTotal {s s' : KernState ncpu N} (h : StatsLe s s') :
    AceXdp.terminalTotal s ≤ AceXdp.terminalTotal s' := by
  rw [← readSum_all, ← readSum_all]
  exact h.readSum _

/-! ## Conservation of frames

Every redirected frame is queued, being measured, measured or lost, and the counters count exactly
that. So the terminal counters never overtake the request counter. -/

/-- **Where the redirected frames are**, and that the counters count them. -/
structure FrameInv (s : DrainSystem ncpu N) : Prop where
  conserved : s.redirected.Perm
    (s.queued ++ s.updated.map Prod.fst ++ s.outcomes.map Prod.fst ++ s.lost)
  requested : statTotal s.kern.stats .cpumap = s.redirected.length
  terminal : ∀ id, IsTerminalStat id →
    statTotal s.kern.stats id = s.outcomes.countP fun o => o.2 == id
  measured : ∀ o ∈ s.updated, IsTerminalStat o.2.2 ∧ (o.2.2 = .cpumapRecorded →
    (s.kern.cpumap.lookup ⟨o.1.flowId, 0, o.1.sequence⟩).isSome)
  observed : ∀ o ∈ s.outcomes, IsTerminalStat o.2 ∧ (o.2 = .cpumapRecorded →
    (s.kern.cpumap.lookup ⟨o.1.flowId, 0, o.1.sequence⟩).isSome)

theorem countP_terminal (outcomes : List (RxMeta × Stat))
    (h : ∀ o ∈ outcomes, IsTerminalStat o.2) :
    (terminalStats.map fun id => outcomes.countP fun o => o.2 == id).sum = outcomes.length := by
  induction outcomes with
  | nil => rfl
  | cons o outcomes ih =>
    have ih := ih fun o ho => h o (List.mem_cons_of_mem _ ho)
    simp only [terminalStats, List.map_cons, List.map_nil, List.sum_cons, List.sum_nil,
      List.countP_cons, List.length_cons] at ih ⊢
    rcases h o List.mem_cons_self with ho | ho | ho | ho <;> rw [ho] <;> simp <;> omega

/-- The terminal counters together count the frames with an outcome. -/
theorem FrameInv.terminalTotal {s : DrainSystem ncpu N} (h : FrameInv s) :
    terminalTotal s.kern = s.outcomes.length := by
  rw [← countP_terminal s.outcomes fun o ho => (h.observed o ho).1]
  unfold AceXdp.terminalTotal
  congr 1
  refine List.map_congr_left fun id hid => h.terminal id ?_
  simp only [terminalStats, List.mem_cons, List.not_mem_nil, or_false] at hid
  rcases hid with rfl | rfl | rfl | rfl <;> simp [IsTerminalStat]

theorem FrameInv.terminal_le {s : DrainSystem ncpu N} (h : FrameInv s) :
    AceXdp.terminalTotal s.kern ≤ statTotal s.kern.stats .cpumap := by
  rw [h.terminalTotal, h.requested, h.conserved.length_eq]
  simp only [List.length_append, List.length_map]
  omega

/-! ## The steps of the frames

Each step moves one frame from one of the places to the next. -/

theorem IsTerminalStat.ne_cpumap {id : Stat} (h : IsTerminalStat id) : Stat.cpumap ≠ id := by
  rcases h with rfl | rfl | rfl | rfl <;> decide

theorem frameInv_init (mode : ForwardingMode) {s : DrainSystem ncpu N}
    (h : (drainSystem mode).init s) : FrameInv s := by
  have hs : s = ⟨KernState.init, true, [], [], [], [], [], .idle⟩ := h
  subst hs
  exact ⟨.refl _, by simp [KernState.init, statTotal], by simp [KernState.init, statTotal],
    by simp, by simp⟩

/-- A dispatched packet leaves the CPUMAP program's counters and map alone, and bumps the request
counter exactly when it leaves for the queue. -/
theorem frameInv_dispatch {mode : ForwardingMode} {s : DrainSystem ncpu N} (h : FrameInv s)
    (ctx : XdpMd ncpu) (frames : List RxMeta)
    (hframes : frames.length = if (xdpDispatch mode s.kern ctx).2.toCpumap then 1 else 0) :
    FrameInv { s with
      kern := (xdpDispatch mode s.kern ctx).1
      redirected := frames ++ s.redirected
      queued := frames ++ s.queued } := by
  -- the packet bumps no terminal counter, and the request counter exactly as `frames` says
  obtain ⟨hcpumap, ids, hstats, hterm, hcount⟩ := xdpDispatch_bumps mode s.kern ctx
  refine ⟨?_, ?_, ?_, ?_, ?_⟩
  · simp only [List.append_assoc]
    have hc := h.conserved
    simp only [List.append_assoc] at hc
    exact List.Perm.append_left frames hc
  · dsimp only
    rw [hstats, statTotal_bumpAll, h.requested, hcount, List.length_append, hframes]
    omega
  · intro id hid
    dsimp only
    rw [hstats, statTotal_bumpAll, h.terminal id hid, hterm id hid]
    rfl
  · dsimp only
    rw [hcpumap]
    exact h.measured
  · dsimp only
    rw [hcpumap]
    exact h.observed

theorem frameInv_lose {s : DrainSystem ncpu N} (h : FrameInv s) {rx : RxMeta}
    {pre post : List RxMeta} (hq : s.queued = pre ++ rx :: post) :
    FrameInv { s with queued := pre ++ post, lost := rx :: s.lost } := by
  refine ⟨?_, h.requested, h.terminal, h.measured, h.observed⟩
  refine h.conserved.trans ?_
  rw [hq]
  simp only [List.append_assoc]
  refine List.Perm.append_left pre ?_
  rw [List.cons_append]
  simp only [← List.append_assoc]
  exact List.perm_middle.symm

/-- The map half of the worker: the frame's own record is in the map if the counter that follows
says so, and no other record went away. -/
theorem frameInv_measure {s : DrainSystem ncpu N} (h : FrameInv s) {rx : RxMeta}
    {pre post : List RxMeta} (hq : s.queued = pre ++ rx :: post) (cpu : Fin ncpu)
    (ktimeNs : UInt64) {seen : Option RxMeta} (hseen : seen = some rx ∨ seen = none) :
    FrameInv { s with
      kern := (cpumapUpdate s.kern cpu ktimeNs seen).1
      queued := pre ++ post
      updated := (rx, cpu, (cpumapUpdate s.kern cpu ktimeNs seen).2) :: s.updated } := by
  -- the frame moves from the queue to the worker
  have hperm : s.redirected.Perm (pre ++ post ++
      (rx :: s.updated.map Prod.fst) ++ s.outcomes.map Prod.fst ++ s.lost) := by
    refine h.conserved.trans ?_
    rw [hq]
    simp only [List.append_assoc, List.cons_append]
    refine List.Perm.append_left pre ?_
    exact List.perm_middle.symm
  rcases cpumapUpdate_cases s.kern cpu ktimeNs seen with
    ⟨id, hid, hne, hu⟩ | ⟨rx', m, hrx, hu, hm, hlook⟩
  · rw [hu]
    refine ⟨hperm, h.requested, h.terminal, ?_, h.observed⟩
    intro o ho
    rcases List.mem_cons.mp ho with rfl | ho
    · exact ⟨hid, fun heq => absurd heq hne⟩
    · exact h.measured o ho
  · rw [hu]
    have hsame : rx' = rx := by
      rcases hseen with hs | hs
      · rw [hs] at hrx
        exact (Option.some.inj hrx).symm
      · rw [hs] at hrx
        cases hrx
    subst hsame
    -- a record found before is still there
    have hkeep : ∀ key : PacketKey, (s.kern.cpumap.lookup key).isSome → (m.lookup key).isSome := by
      intro key hkey
      obtain ⟨r, hr⟩ := Option.isSome_iff_exists.mp hkey
      rw [hm, BoundedMap.lookup_insert_of_some _ _ key _ r hr]
      rfl
    refine ⟨hperm, h.requested, h.terminal, ?_, ?_⟩
    · intro o ho
      rcases List.mem_cons.mp ho with rfl | ho
      · refine ⟨by simp [IsTerminalStat], fun _ => ?_⟩
        dsimp only
        rw [hlook]
        rfl
      · exact ⟨(h.measured o ho).1, fun heq => hkeep _ ((h.measured o ho).2 heq)⟩
    · intro o ho
      exact ⟨(h.observed o ho).1, fun heq => hkeep _ ((h.observed o ho).2 heq)⟩

theorem frameInv_count {s : DrainSystem ncpu N} (h : FrameInv s) {rx : RxMeta} {cpu : Fin ncpu}
    {id : Stat} {pre post : List (RxMeta × Fin ncpu × Stat)}
    (hu : s.updated = pre ++ (rx, cpu, id) :: post) :
    FrameInv { s with
      kern := s.kern.count cpu id
      updated := pre ++ post
      outcomes := (rx, id) :: s.outcomes } := by
  -- the counter follows the map: the outcome is the one decided there
  have hmeas := h.measured (rx, cpu, id) (by rw [hu]; simp)
  refine ⟨?_, ?_, ?_, ?_, ?_⟩
  · refine h.conserved.trans ?_
    rw [hu]
    simp only [List.map_append, List.map_cons, List.append_assoc, List.cons_append]
    refine List.Perm.append_left _ (List.Perm.append_left _ ?_)
    exact List.perm_middle.symm
  · dsimp only
    rw [KernState.count_total, h.requested, if_neg hmeas.1.ne_cpumap, Nat.add_zero]
  · intro tid htid
    dsimp only
    rw [KernState.count_total, h.terminal tid htid, List.countP_cons]
    by_cases heq : tid = id
    · simp [heq]
    · simp [heq, Ne.symm heq]
  · intro o ho
    refine h.measured o ?_
    rw [hu]
    rcases List.mem_append.mp ho with ho | ho
    · exact List.mem_append_left _ ho
    · exact List.mem_append_right _ (List.mem_cons_of_mem _ ho)
  · intro o ho
    rcases List.mem_cons.mp ho with rfl | ho
    · exact hmeas
    · exact h.observed o ho

/-- **Frames are conserved by every step.** -/
theorem frameInv_step {mode : ForwardingMode} {s s' : DrainSystem ncpu N} {a : DrainAction}
    (h : FrameInv s) (hstep : DrainStep mode s a s') : FrameInv s' := by
  cases hstep with
  | dispatchOther ctx _ hout => exact frameInv_dispatch h ctx [] (by rw [hout]; rfl)
  | dispatchCpumap ctx rx _ hout _ => exact frameInv_dispatch h ctx [rx] (by rw [hout]; rfl)
  | lose hq => exact frameInv_lose h hq
  | measure hq cpu ktimeNs seen hseen => exact frameInv_measure h hq cpu ktimeNs hseen
  | count hu => exact frameInv_count h hu
  | detach | start _ | readTerminal _ | turn _ | readRequested _ | again _ _ | finish _ _
  | timeout _ _ | lookupError _ =>
    exact ⟨h.conserved, h.requested, h.terminal, h.measured, h.observed⟩

/-! ## The loader's reads

What the loader knows after each read, as long as frames may still move: a total it has read was
reached, and once the program is off the request counter stands still. -/

/-- What the loader knows at each point of a snapshot. The terminal sum so far is bounded by the
counters it was read from, as they stand now; from the turn to the request counter on, it is
bounded by what that sum will at least become. -/
def PhaseInv (s : DrainSystem ncpu N) : Prop :=
  match s.phase with
  | .idle => True
  | .readTerminal after _ todo terminal =>
    (after = true → s.attached = false)
      ∧ ∃ done, done ++ todo = terminalReads ncpu ∧ terminal ≤ readSum s.kern done
  | .readRequested after _ terminal todo requested =>
    (after = true → s.attached = false
        ∧ requested + pendingRequested s.kern todo = statTotal s.kern.stats .cpumap)
      ∧ terminal ≤ terminalTotal s.kern
      ∧ terminal ≤ requested + pendingRequested s.kern todo
  | .returned after report =>
    after = true → s.attached = false ∧ ∀ r, report = some r → r.unobserved = 0 →
      statTotal s.kern.stats .cpumap ≤ terminalTotal s.kern

/-- A step of the frames, as the loader sees it: counters only grow, and after the detach the
request counters stand still. -/
structure KernMove (s s' : DrainSystem ncpu N) : Prop where
  phase : s'.phase = s.phase
  grow : StatsLe s.kern s'.kern
  frozen : s.attached = false → s'.attached = false
    ∧ ∀ cpu, s'.kern.stats cpu .cpumap = s.kern.stats cpu .cpumap

theorem PhaseInv.kernMove {s s' : DrainSystem ncpu N} (h : PhaseInv s) (hm : KernMove s s') :
    PhaseInv s' := by
  -- once detached, no request counter moves any more
  have hfrozen : s.attached = false → s'.attached = false
      ∧ (∀ todo, pendingRequested s'.kern todo = pendingRequested s.kern todo)
      ∧ statTotal s'.kern.stats .cpumap = statTotal s.kern.stats .cpumap := by
    intro hatt
    obtain ⟨hatt', hcpu⟩ := hm.frozen hatt
    refine ⟨hatt', fun todo => ?_, ?_⟩
    · unfold pendingRequested
      rw [List.map_congr_left fun cpu _ => hcpu cpu]
    · unfold statTotal
      exact Finset.sum_congr rfl fun cpu _ => hcpu cpu
  unfold PhaseInv at h ⊢
  rw [hm.phase]
  cases hp : s.phase with
  | idle => trivial
  | readTerminal after l todo terminal =>
    simp only [hp] at h
    obtain ⟨hafter, done, hdone, hle⟩ := h
    have hgrow := hm.grow.readSum done
    exact ⟨fun ha => (hfrozen (hafter ha)).1, done, hdone, by omega⟩
  | readRequested after l terminal todo requested =>
    simp only [hp] at h
    obtain ⟨hafter, hterm, hle⟩ := h
    have hgrow := hm.grow.pendingRequested todo
    have htgrow := hm.grow.terminalTotal
    refine ⟨?_, by omega, by omega⟩
    intro ha
    obtain ⟨hatt, heq⟩ := hafter ha
    obtain ⟨hatt', hpend, htot⟩ := hfrozen hatt
    exact ⟨hatt', by rw [hpend, htot]; exact heq⟩
  | returned after report =>
    simp only [hp] at h
    intro ha
    obtain ⟨hatt, hret⟩ := h ha
    obtain ⟨hatt', _, htot⟩ := hfrozen hatt
    refine ⟨hatt', fun r hr h0 => ?_⟩
    have hle := hret r hr h0
    have htgrow := hm.grow.terminalTotal
    omega

theorem statsLe_dispatch (mode : ForwardingMode) (s : KernState ncpu N) (ctx : XdpMd ncpu) :
    StatsLe s (xdpDispatch mode s ctx).1 := by
  obtain ⟨_, ids, hstats, _⟩ := xdpDispatch_bumps mode s ctx
  intro cpu id
  rw [hstats, bumpAll_apply]
  omega

theorem cpumapUpdate_stats (s : KernState ncpu N) (cpu : Fin ncpu) (ktimeNs : UInt64)
    (seen : Option RxMeta) : (cpumapUpdate s cpu ktimeNs seen).1.stats = s.stats := by
  rcases cpumapUpdate_cases s cpu ktimeNs seen with ⟨_, _, _, hu⟩ | ⟨_, _, _, hu, _⟩ <;> rw [hu]

/-- **The loader's knowledge survives every step.** -/
theorem phaseInv_step {mode : ForwardingMode} {s s' : DrainSystem ncpu N} {a : DrainAction}
    (hf : FrameInv s) (h : PhaseInv s) (hstep : DrainStep mode s a s') : PhaseInv s' := by
  cases hstep with
  | dispatchOther ctx hatt _ =>
    exact h.kernMove ⟨rfl, statsLe_dispatch mode s.kern ctx,
      fun hd => absurd hd (by rw [hatt]; decide)⟩
  | dispatchCpumap ctx rx hatt _ _ =>
    exact h.kernMove ⟨rfl, statsLe_dispatch mode s.kern ctx,
      fun hd => absurd hd (by rw [hatt]; decide)⟩
  | lose _ => exact h.kernMove ⟨rfl, fun _ _ => Nat.le_refl _, fun hd => ⟨hd, fun _ => rfl⟩⟩
  | measure _ cpu ktimeNs seen _ =>
    have hst := cpumapUpdate_stats s.kern cpu ktimeNs seen
    refine h.kernMove ⟨rfl, fun c i => ?_, fun hd => ⟨hd, fun c => ?_⟩⟩
    · dsimp only
      rw [hst]
    · dsimp only
      rw [hst]
  | @count rx cpu id pre post hu =>
    -- a terminal counter grows; the request counter is not one of them
    have hid := (hf.measured (rx, cpu, id) (by rw [hu]; simp)).1
    refine h.kernMove ⟨rfl, fun c i => ?_, fun hd => ⟨hd, fun c => ?_⟩⟩
    · show _ ≤ countStat s.kern.stats cpu id c i
      unfold countStat
      split <;> omega
    · show countStat s.kern.stats cpu id c .cpumap = _
      exact if_neg fun hc => hid.ne_cpumap hc.2
  | detach => exact h.kernMove ⟨rfl, fun _ _ => Nat.le_refl _, fun _ => ⟨rfl, fun _ => rfl⟩⟩
  | start _ =>
    refine ⟨fun ha => by simpa using ha, [], rfl, Nat.zero_le _⟩
  | @readTerminal after l id cpu todo terminal hp =>
    simp only [PhaseInv, hp] at h
    obtain ⟨hafter, done, hdone, hle⟩ := h
    refine ⟨hafter, done ++ [(id, cpu)], by simpa using hdone, ?_⟩
    simp only [readSum, List.map_append, List.map_cons, List.map_nil, List.sum_append,
      List.sum_cons, List.sum_nil, Nat.add_zero] at hle ⊢
    omega
  | turn hp =>
    -- all terminal counters are read: the sum is below the requests made so far
    simp only [PhaseInv, hp] at h
    obtain ⟨hafter, done, hdone, hle⟩ := h
    rw [List.append_nil] at hdone
    rw [hdone, readSum_all] at hle
    have hreq := hf.terminal_le
    refine ⟨fun ha => ⟨hafter ha, ?_⟩, hle, ?_⟩
    · rw [pendingRequested_all, Nat.zero_add]
    · rw [pendingRequested_all]
      dsimp only
      omega
  | @readRequested after l cpu todo terminal requested hp =>
    simp only [PhaseInv, hp] at h
    obtain ⟨hafter, hterm, hle⟩ := h
    have hsplit : requested + pendingRequested s.kern (cpu :: todo)
        = requested + s.kern.stats cpu .cpumap + pendingRequested s.kern todo := by
      simp only [pendingRequested, List.map_cons, List.sum_cons]
      omega
    rw [hsplit] at hafter hle
    exact ⟨hafter, hterm, hle⟩
  | again hp _ =>
    simp only [PhaseInv, hp] at h
    exact ⟨fun ha => (h.1 ha).1, [], rfl, Nat.zero_le _⟩
  | @finish after l terminal requested report hp hv =>
    simp only [PhaseInv, hp] at h
    obtain ⟨hafter, hterm, _⟩ := h
    intro ha
    obtain ⟨hatt, heq⟩ := hafter ha
    refine ⟨hatt, fun r hr h0 => ?_⟩
    cases hr
    -- requests read after the detach are all there will be, and the terminal sum has reached them
    have hagree := snapshot_done_zero hv h0
    have hnil : pendingRequested s.kern [] = 0 := rfl
    dsimp only
    omega
  | timeout hp _ =>
    simp only [PhaseInv, hp] at h
    intro ha
    exact ⟨(h.1 ha).1, fun r hr => by cases hr⟩
  | lookupError hp =>
    intro ha
    rcases hp with ⟨_, _, hp⟩ | ⟨_, _, _, hp⟩ <;> simp only [PhaseInv, hp] at h
    · exact ⟨h.1 ha, fun r hr => by cases hr⟩
    · exact ⟨(h.1 ha).1, fun r hr => by cases hr⟩

/-! ## The barrier

Both halves of the result: the counters at a successful return, and the frames that have been
recorded by then. -/

theorem drain_invariants (mode : ForwardingMode) {s : DrainSystem ncpu N}
    (hs : (drainSystem mode).Reachable s) : FrameInv s ∧ PhaseInv s := by
  refine hs.induct (P := fun s => FrameInv s ∧ PhaseInv s) ?_ ?_
  · intro s hinit
    refine ⟨frameInv_init mode hinit, ?_⟩
    have hs : s = ⟨KernState.init, true, [], [], [], [], [], .idle⟩ := hinit
    subst hs
    trivial
  · intro s a s' _ h hstep
    exact ⟨frameInv_step h.1 hstep, phaseInv_step h.1 h.2 hstep⟩

/-- **The CPUMAP drain barrier.** In every snapshot, at every point of every interleaving, the
terminal sum is at most the request count read after it. And once a wait started after the detach
has returned success with nothing unobserved, then and in every later state no redirected frame
is queued, half measured or lost: all of them have an outcome, counted by its own counter, and a
recorded one has its key in `cpumap_records`. -/
theorem drain_barrier (mode : ForwardingMode) (s : DrainSystem ncpu N)
    (hs : (drainSystem mode).Reachable s) :
    (∀ after l terminal requested,
        s.phase = .readRequested after l terminal [] requested → terminal ≤ requested)
      ∧ ∀ report, s.phase = .returned true (some report) → report.unobserved = 0 →
        s.queued = [] ∧ s.updated = [] ∧ s.lost = []
        ∧ s.redirected.Perm (s.outcomes.map Prod.fst)
        ∧ (∀ id, IsTerminalStat id →
            statTotal s.kern.stats id = s.outcomes.countP fun o => o.2 == id)
        ∧ ∀ o ∈ s.outcomes,
          (o.2 = .cpumapRecorded
            ∧ (s.kern.cpumap.lookup ⟨o.1.flowId, 0, o.1.sequence⟩).isSome)
          ∨ o.2 = .cpumapDuplicate ∨ o.2 = .cpumapUpdateError ∨ o.2 = .cpumapMetaInvalid := by
  obtain ⟨hframe, hphase⟩ := drain_invariants mode hs
  refine ⟨?_, ?_⟩
  · intro after l terminal requested hp
    simp only [PhaseInv, hp] at hphase
    have hle := hphase.2.2
    simpa [pendingRequested] using hle
  · intro report hp h0
    simp only [PhaseInv, hp] at hphase
    obtain ⟨_, hret⟩ := hphase trivial
    have hle := hret report rfl h0
    rw [hframe.terminalTotal, hframe.requested] at hle
    -- as many outcomes as requests: the other three places are empty
    have hlen := hframe.conserved.length_eq
    simp only [List.length_append, List.length_map] at hlen
    have hq : s.queued = [] := List.eq_nil_of_length_eq_zero (by omega)
    have hu : s.updated = [] := List.eq_nil_of_length_eq_zero (by omega)
    have hl : s.lost = [] := List.eq_nil_of_length_eq_zero (by omega)
    refine ⟨hq, hu, hl, ?_, hframe.terminal, ?_⟩
    · simpa [hq, hu, hl] using hframe.conserved
    · intro o ho
      obtain ⟨hid, hrec⟩ := hframe.observed o ho
      rcases hid with hid | hid | hid | hid
      · exact Or.inr (Or.inr (Or.inr hid))
      · exact Or.inl ⟨hid, hrec hid⟩
      · exact Or.inr (Or.inl hid)
      · exact Or.inr (Or.inr (Or.inl hid))

/-! ### A quiet wait

When nothing else runs and every request has its outcome, the eleventh snapshot ends the wait: the
first one differs from `UINT64_MAX`, ten more repeat it, and by then the grace is over. -/

section Quiet

variable {mode : ForwardingMode} {s : DrainSystem ncpu N}

/-- The terminal counters are read one after the other. Induction on the reads left. -/
theorem quiet_readTerminal {after : Bool} {l : DrainLoop} (todo : List (Stat × Fin ncpu)) :
    ∀ {terminal : Nat},
      (drainSystem mode).Reachable { s with phase := .readTerminal after l todo terminal } →
      (drainSystem mode).Reachable
        { s with phase := .readTerminal after l [] (terminal + readSum s.kern todo) } := by
  induction todo with
  | nil => exact fun h => h
  | cons read todo ih =>
    intro terminal h
    have hnext := ih (.step h (.readTerminal rfl))
    have hsum : terminal + readSum s.kern (read :: todo)
        = terminal + s.kern.stats read.2 read.1 + readSum s.kern todo := by
      rw [readSum, List.map_cons, List.sum_cons, ← Nat.add_assoc]
      rfl
    rwa [hsum]

/-- So are the request counters. -/
theorem quiet_readRequested {after : Bool} {l : DrainLoop} {terminal : Nat}
    (todo : List (Fin ncpu)) :
    ∀ {requested : Nat},
      (drainSystem mode).Reachable
        { s with phase := .readRequested after l terminal todo requested } →
      (drainSystem mode).Reachable { s with
        phase := .readRequested after l terminal [] (requested + pendingRequested s.kern todo) } := by
  induction todo with
  | nil => exact fun h => h
  | cons cpu todo ih =>
    intro requested h
    have hnext := ih (.step h (.readRequested rfl))
    have hsum : requested + pendingRequested s.kern (cpu :: todo)
        = requested + s.kern.stats cpu .cpumap + pendingRequested s.kern todo := by
      rw [pendingRequested, List.map_cons, List.sum_cons, ← Nat.add_assoc]
      rfl
    rwa [hsum]

/-- A whole snapshot. -/
theorem quiet_snapshot {after : Bool} {l : DrainLoop}
    (h : (drainSystem mode).Reachable
      { s with phase := .readTerminal after l (terminalReads ncpu) 0 }) :
    (drainSystem mode).Reachable { s with
      phase := .readRequested after l (terminalTotal s.kern) [] (statTotal s.kern.stats .cpumap) } := by
  have hterminal := quiet_readTerminal (terminalReads ncpu) h
  rw [readSum_all, Nat.zero_add] at hterminal
  have hrequested := quiet_readRequested (List.finRange ncpu) (.step hterminal (.turn rfl))
  rwa [pendingRequested_all, Nat.zero_add] at hrequested

/-- A snapshot that repeats the one before, inside the grace. -/
theorem snapshot_repeated {n k : Nat} (hk : k < 9) :
    DrainLoop.snapshot ⟨10 * (k + 1), n, n, 0, k⟩ n n = .again ⟨10 * (k + 2), n, n, 0, k + 1⟩ := by
  have hunchanged : DrainLoop.unchanged ⟨10 * (k + 1), n, n, 0, k⟩ n n = true := by
    simp [DrainLoop.unchanged]
  have hgrace : ¬(n = n ∧ 10 * (k + 1) ≥ drainGraceMs ∧ k + 1 ≥ stablePolls) := by
    unfold drainGraceMs stablePolls
    omega
  have htime : 10 * (k + 1) ≠ drainTimeoutMs := by
    unfold drainTimeoutMs
    omega
  rw [DrainLoop.snapshot, DrainLoop.stability, if_pos hunchanged]
  exact (if_neg hgrace).trans (if_neg htime)

/-- The repeated snapshots. Induction on their number. -/
theorem quiet_polls {n : Nat} (hterminal : terminalTotal s.kern = n)
    (hrequested : statTotal s.kern.stats .cpumap = n) (hn : n < 2 ^ 64 - 1)
    (h : (drainSystem mode).Reachable
      { s with phase := .readTerminal true DrainLoop.start (terminalReads ncpu) 0 }) :
    ∀ k, k < 10 → (drainSystem mode).Reachable
      { s with phase := .readTerminal true ⟨10 * (k + 1), n, n, 0, k⟩ (terminalReads ncpu) 0 } := by
  intro k
  induction k with
  | zero =>
    intro _
    have hfirst : DrainLoop.start.snapshot n n = .again ⟨10, n, n, 0, 0⟩ := by
      have hchanged : DrainLoop.start.unchanged n n = false := by
        simp [DrainLoop.unchanged, DrainLoop.start]
        omega
      have hgrace : ¬(n = n ∧ 0 ≥ drainGraceMs ∧ 0 ≥ stablePolls) := fun h => absurd h.2.1 (by decide)
      rw [DrainLoop.snapshot, DrainLoop.stability, if_neg (by simp [hchanged])]
      exact (if_neg hgrace).trans (if_neg (by decide))
    have hsnapshot := quiet_snapshot h
    rw [hterminal, hrequested] at hsnapshot
    exact .step hsnapshot (.again rfl hfirst)
  | succ k ih =>
    intro hk
    have hsnapshot := quiet_snapshot (ih (by omega))
    rw [hterminal, hrequested] at hsnapshot
    exact .step hsnapshot (.again rfl (snapshot_repeated (by omega)))

/-- **A quiet wait succeeds.** -/
theorem quiet_wait (n : Nat) (hs : (drainSystem mode).Reachable s) (hdetached : s.attached = false)
    (hidle : s.phase = .idle) (hterminal : terminalTotal s.kern = n)
    (hrequested : statTotal s.kern.stats .cpumap = n) (hn : n < 2 ^ 64 - 1) :
    (drainSystem mode).Reachable { s with phase := .returned true (some ⟨n, n, 0⟩) } := by
  have hafter : (!s.attached) = true := by rw [hdetached]; rfl
  have hstart := Reachable.step hs (.start hidle)
  rw [hafter] at hstart
  have hsnapshot := quiet_snapshot (quiet_polls hterminal hrequested hn hstart 9 (by omega))
  rw [hterminal, hrequested] at hsnapshot
  have hlast : DrainLoop.snapshot ⟨100, n, n, 0, 9⟩ n n = .done ⟨n, n, 0⟩ := by
    have hunchanged : DrainLoop.unchanged ⟨100, n, n, 0, 9⟩ n n = true := by
      simp [DrainLoop.unchanged]
    have hgrace : n = n ∧ 100 ≥ drainGraceMs ∧ 9 + 1 ≥ stablePolls :=
      ⟨rfl, by unfold drainGraceMs; omega, by unfold stablePolls; omega⟩
    rw [DrainLoop.snapshot, DrainLoop.stability, if_pos hunchanged]
    exact if_pos hgrace
  exact .step hsnapshot (.finish rfl hlast)

end Quiet

/-- One packet on its way through a single CPU: redirected, measured and counted. After the detach
the first snapshot of the wait shows one request and one outcome, and so does the last: the wait
succeeds, and the packet is where the barrier says. -/
theorem drain_barrier_one_packet :
    ∃ s s' : DrainSystem 1 16, (drainSystem .mixed).Reachable s ∧ (drainSystem .mixed).Reachable s'
      ∧ s.phase = .readRequested true DrainLoop.start 1 [] 1 ∧ 1 ≤ 1
      ∧ s'.phase = .returned true (some ⟨1, 1, 0⟩) ∧ s'.redirected.length = 1
      ∧ s'.queued = [] ∧ s'.lost = [] ∧ s'.redirected.Perm (s'.outcomes.map Prod.fst)
      ∧ statTotal s'.kern.stats .cpumapRecorded
        = s'.outcomes.countP fun o => o.2 == .cpumapRecorded := by
  let ctx : XdpMd 1 := cpumapArrival 0
  have h1 := Reachable.step (S := (drainSystem .mixed : System (DrainSystem 1 16) DrainAction))
    (.init rfl) (.dispatchCpumap ctx (measurementMeta ctx ⟨1, 0, 7⟩ .cpumap) rfl
      (by decide +kernel) (by decide +kernel))
  have h2 := Reachable.step h1 (.measure (show _ = [] ++ _ :: [] from rfl) 0 2000 _ (Or.inl rfl))
  have h3 := Reachable.step h2 (.count (show _ = [] ++ (_, 0, _) :: [] from rfl))
  have h4 := Reachable.step h3 .detach
  have hfirst := quiet_snapshot (Reachable.step h4 (.start rfl))
  have hlast := quiet_wait 1 h4 rfl rfl (by decide +kernel) (by decide +kernel) (by decide)
  obtain ⟨hqueued, -, hlost, hperm, hterminal, -⟩ := (drain_barrier .mixed _ hlast).2 _ rfl rfl
  exact ⟨_, _, hfirst, hlast, by decide +kernel,
    (drain_barrier .mixed _ hfirst).1 true DrainLoop.start 1 1 (by decide +kernel), rfl, rfl,
    hqueued, hlost, hperm, hterminal _ (by simp [IsTerminalStat])⟩

end AceXdp
