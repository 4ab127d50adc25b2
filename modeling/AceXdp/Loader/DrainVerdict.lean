import AceXdp.Lib.Plateau
import AceXdp.Loader.Drain

/-!
# AceXdp — the verdict of the CPUMAP drain

`wait_for_cpumap_records` as a whole, over any stream of counter totals its polls may find. The
loop keeps a repetition count and the time of the last change, both next to a sentinel that no
snapshot has to differ from; `DrainLoopInv` says what they mean for the stream.

* `drainLoopInv_again`: one poll that goes on keeps the meaning;
* `snapshot_verdict`: what one poll decides, in terms of the stream;
* `drain_verdict`: the three ways the wait can end, and when it takes which.
-/

namespace AceXdp

open Plateau

/-! ## The function -/

/-- The counter totals of one poll. -/
structure CpumapTotals where
  recorded : UInt64
  duplicate : UInt64
  updateError : UInt64
  invalid : UInt64
  requested : UInt64
  deriving DecidableEq, Repr

/-- `terminal = recorded + duplicate + update_error + invalid`. -/
def CpumapTotals.terminal (t : CpumapTotals) : UInt64 :=
  t.recorded + t.duplicate + t.updateError + t.invalid

/-- `-ETIMEDOUT`. -/
def etimedout : Int := -110

/-- What the function returns, what it leaves in `*report`, and how many snapshots it took. -/
structure DrainReturn where
  err : Int
  report : DrainReport
  snapshots : Nat
  deriving DecidableEq, Repr

theorem snapshot_again {l l' : DrainLoop} {requested terminal : Nat}
    (h : l.snapshot requested terminal = .again l') :
    l' = ⟨l.elapsed + drainPollMs, requested, terminal, (l.stability requested terminal).2,
      (l.stability requested terminal).1⟩ := by
  unfold DrainLoop.snapshot at h
  dsimp only at h
  repeat' split at h
  all_goals cases h
  rfl

/-- The `for` loop from poll `n` on. A poll whose lookups fail yields the error of the first
failing one. -/
def drainLoop (poll : Nat → Except Int CpumapTotals) (report : DrainReport) (n : Nat)
    (l : DrainLoop) : DrainReturn :=
  if l.elapsed ≤ drainTimeoutMs then
    match poll n with
    | .error err => ⟨err, report, n + 1⟩
    | .ok t =>
      match h : l.snapshot t.requested.toNat t.terminal.toNat with
      | .done report => ⟨0, report, n + 1⟩
      | .timedOut => ⟨etimedout, report, n + 1⟩
      | .again l' => drainLoop poll report (n + 1) l'
  else ⟨0, report, n⟩
termination_by drainTimeoutMs + 1 - l.elapsed
decreasing_by
  rw [snapshot_again h]
  dsimp only [drainPollMs]
  omega

/-- `wait_for_cpumap_records`, once it has its value buffer. -/
def waitForCpumapRecords (poll : Nat → Except Int CpumapTotals) (report : DrainReport) :
    DrainReturn :=
  drainLoop poll report 0 DrainLoop.start

/-! ## What the locals mean -/

/-- The pair the loop compares from poll to poll. -/
def CpumapTotals.pair (t : CpumapTotals) : Nat × Nat := (t.requested.toNat, t.terminal.toNat)

/-- The two ways the wait can end well at poll `n` or at the last one. -/
def Settled (s : Nat → Nat × Nat) (n : Nat) : Prop :=
  stablePolls ≤ n ∧ Flat s (n - stablePolls) n ∧ (s n).1 = (s n).2

/-- The number of the last poll: 500. -/
def lastPoll : Nat := drainTimeoutMs / drainPollMs

/-- The number of polls in the quiet interval: 100. -/
def quietPolls : Nat := lossQuietMs / drainPollMs

def LostAtEnd (s : Nat → Nat × Nat) : Prop :=
  Flat s (lastPoll - quietPolls) lastPoll ∧ (s lastPoll).2 < (s lastPoll).1

/-- A repetition count at poll `n`: one for each poll since the run began, and one more when the
very first snapshot equals the sentinel. -/
def CountsRun (s : Nat → Nat × Nat) (n count : Nat) : Prop :=
  count + start s n = n ∨ start s n = 0 ∧ count = n + 1

/-- The locals before poll `n`. -/
structure DrainLoopInv (s : Nat → Nat × Nat) (n : Nat) (l : DrainLoop) : Prop where
  elapsed : l.elapsed = drainPollMs * n
  first : n = 0 → l = DrainLoop.start
  previous : ∀ k, n = k + 1 → (l.previousRequested, l.previousTerminal) = s k
    ∧ l.lastChangeMs = drainPollMs * start s k ∧ CountsRun s k l.stableSnapshots

/-- **What a poll makes of the repetition count and the time of the last change.** -/
theorem stability_spec {s : Nat → Nat × Nat} {n : Nat} {l : DrainLoop} (h : DrainLoopInv s n l) :
    CountsRun s n (l.stability (s n).1 (s n).2).1
      ∧ (l.stability (s n).1 (s n).2).2 = drainPollMs * start s n := by
  unfold DrainLoop.stability
  cases n with
  | zero =>
    rw [h.first rfl]
    by_cases hsent : DrainLoop.start.unchanged (s 0).1 (s 0).2 = true
    · rw [if_pos hsent]
      exact ⟨Or.inr ⟨rfl, rfl⟩, rfl⟩
    · rw [if_neg hsent]
      exact ⟨Or.inl rfl, rfl⟩
  | succ k =>
    obtain ⟨hprev, hchange, hcount⟩ := h.previous k rfl
    have hsame : l.unchanged (s (k + 1)).1 (s (k + 1)).2 = true ↔ s (k + 1) = s k := by
      rw [← hprev, DrainLoop.unchanged, Bool.and_eq_true, beq_iff_eq, beq_iff_eq, Prod.ext_iff]
    by_cases heq : s (k + 1) = s k
    · rw [if_pos (hsame.mpr heq), CountsRun, start_succ_eq heq]
      refine ⟨?_, hchange⟩
      rcases hcount with hcount | ⟨hstart, hcount⟩
      · exact Or.inl (by dsimp only; omega)
      · exact Or.inr ⟨hstart, by dsimp only; omega⟩
    · rw [if_neg (mt hsame.mp heq), CountsRun, start_succ_ne heq]
      exact ⟨Or.inl (Nat.zero_add _), h.elapsed⟩

/-- Once ten polls are behind, a count of ten says that the last eleven snapshots are equal. -/
theorem CountsRun.stable_iff {s : Nat → Nat × Nat} {n count : Nat} (h : CountsRun s n count)
    (hn : stablePolls ≤ n) : stablePolls ≤ count ↔ Flat s (n - stablePolls) n := by
  rw [← start_le_iff (Nat.sub_le n stablePolls)]
  rcases h with h | ⟨hstart, hcount⟩
  · omega
  · omega

/-- **What one poll decides**, and what the locals mean when it goes on. -/
theorem snapshot_verdict {s : Nat → Nat × Nat} {n : Nat} {l : DrainLoop} (h : DrainLoopInv s n l)
    (hn : n ≤ lastPoll) :
    (Settled s n ∧ l.snapshot (s n).1 (s n).2 = .done ⟨(s n).1, (s n).2, 0⟩)
      ∨ ¬Settled s n ∧ n = lastPoll ∧ LostAtEnd s
        ∧ l.snapshot (s n).1 (s n).2 = .done ⟨(s n).1, (s n).2, (s n).1 - (s n).2⟩
      ∨ ¬Settled s n ∧ n = lastPoll ∧ ¬LostAtEnd s ∧ l.snapshot (s n).1 (s n).2 = .timedOut
      ∨ ¬Settled s n ∧ n < lastPoll
        ∧ ∃ l', l.snapshot (s n).1 (s n).2 = .again l' ∧ DrainLoopInv s (n + 1) l' := by
  obtain ⟨hcount, hchange⟩ := stability_spec h
  have helapsed := h.elapsed
  have hlast : lastPoll = 500 := rfl
  have hquiet : quietPolls = 100 := rfl
  -- the loop's numbers next to those of the definitions
  simp only [drainPollMs] at helapsed hchange
  have hsettled : ((s n).1 = (s n).2 ∧ l.elapsed ≥ drainGraceMs ∧
      (l.stability (s n).1 (s n).2).1 ≥ stablePolls) ↔ Settled s n := by
    have hgrace : l.elapsed ≥ drainGraceMs ↔ stablePolls ≤ n := by
      rw [helapsed, drainGraceMs, stablePolls]
      omega
    constructor
    · rintro ⟨heq, hlate, hstable⟩
      exact ⟨hgrace.mp hlate, (hcount.stable_iff (hgrace.mp hlate)).mp hstable, heq⟩
    · rintro ⟨hlate, hflat, heq⟩
      exact ⟨heq, hgrace.mpr hlate, (hcount.stable_iff hlate).mpr hflat⟩
  unfold DrainLoop.snapshot
  dsimp only
  by_cases hset : Settled s n
  · exact Or.inl ⟨hset, if_pos (hsettled.mpr hset)⟩
  · rw [if_neg (mt hsettled.mp hset)]
    right
    by_cases hend : n = lastPoll
    · have htimeout : l.elapsed = drainTimeoutMs := by rw [helapsed, hend]; rfl
      have hlost : ((s n).1 > (s n).2 ∧
          l.elapsed - (l.stability (s n).1 (s n).2).2 ≥ lossQuietMs ∧
          (l.stability (s n).1 (s n).2).1 ≥ stablePolls) ↔ LostAtEnd s := by
        have hstart := start_le s n
        rw [LostAtEnd, ← hend, ← start_le_iff (Nat.sub_le n quietPolls), hchange, helapsed,
          lossQuietMs, and_comm (a := start s n ≤ n - quietPolls)]
        refine and_congr_right fun _ => ?_
        rw [ge_iff_le, ge_iff_le, hcount.stable_iff (by rw [hend]; decide),
          ← start_le_iff (Nat.sub_le n stablePolls), stablePolls]
        omega
      rw [if_pos htimeout]
      by_cases hl : LostAtEnd s
      · exact Or.inl ⟨hset, hend, hl, if_pos (hlost.mpr hl)⟩
      · exact Or.inr (Or.inl ⟨hset, hend, hl, if_neg (mt hlost.mp hl)⟩)
    · have hearly : ¬l.elapsed = drainTimeoutMs := by
        rw [helapsed, drainTimeoutMs]
        omega
      refine Or.inr (Or.inr ⟨hset, by omega, _, if_neg hearly, ?_, ?_, ?_⟩)
      · dsimp only
        rw [helapsed, drainPollMs]
        omega
      · intro h0
        omega
      · intro k hk
        obtain rfl : n = k := by omega
        exact ⟨rfl, hchange, hcount⟩

/-! ## The whole wait -/

theorem drainLoopInv_start (s : Nat → Nat × Nat) : DrainLoopInv s 0 DrainLoop.start where
  elapsed := rfl
  first := fun _ => rfl
  previous := fun k hk => by omega

/-- How a wait over `s` may end. -/
inductive DrainEnd (s : Nat → Nat × Nat) (report : DrainReport) : DrainReturn → Prop where
  | settled {n : Nat} (hn : n ≤ lastPoll) (h : Settled s n) (hfirst : ∀ m < n, ¬Settled s m) :
      DrainEnd s report ⟨0, ⟨(s n).1, (s n).2, 0⟩, n + 1⟩
  | lost (hnever : ∀ m ≤ lastPoll, ¬Settled s m) (h : LostAtEnd s) :
      DrainEnd s report ⟨0, ⟨(s lastPoll).1, (s lastPoll).2,
        (s lastPoll).1 - (s lastPoll).2⟩, lastPoll + 1⟩
  | timedOut (hnever : ∀ m ≤ lastPoll, ¬Settled s m) (h : ¬LostAtEnd s) :
      DrainEnd s report ⟨etimedout, report, lastPoll + 1⟩

theorem drainLoop_ok {poll : Nat → Except Int CpumapTotals} {n : Nat} {t : CpumapTotals}
    (hpoll : poll n = .ok t) (report : DrainReport) {l : DrainLoop}
    (hle : l.elapsed ≤ drainTimeoutMs) : drainLoop poll report n l
      = match l.snapshot t.requested.toNat t.terminal.toNat with
        | .done report => ⟨0, report, n + 1⟩
        | .timedOut => ⟨etimedout, report, n + 1⟩
        | .again l' => drainLoop poll report (n + 1) l' := by
  rw [drainLoop, if_pos hle, hpoll]
  dsimp only
  split
  · rename_i hv; rw [hv]
  · rename_i hv; rw [hv]
  · rename_i hv; rw [hv]

/-- **The loop from poll `n` on.** Induction on the polls left. -/
theorem drainLoop_ends (t : Nat → CpumapTotals) (report : DrainReport) (n : Nat) {l : DrainLoop}
    (hn : n ≤ lastPoll) (h : DrainLoopInv (fun i => (t i).pair) n l)
    (hfirst : ∀ m < n, ¬Settled (fun i => (t i).pair) m) :
    DrainEnd (fun i => (t i).pair) report (drainLoop (fun i => .ok (t i)) report n l) := by
  have hle : l.elapsed ≤ drainTimeoutMs := by
    rw [h.elapsed, drainPollMs, drainTimeoutMs]
    have hlast : lastPoll = 500 := rfl
    omega
  have hupto : ¬Settled (fun i => (t i).pair) n → ∀ m < n + 1, ¬Settled (fun i => (t i).pair) m := by
    intro hset m hm
    rcases Nat.lt_or_eq_of_le (Nat.le_of_lt_succ hm) with hlt | rfl
    · exact hfirst m hlt
    · exact hset
  rw [drainLoop_ok rfl report hle]
  rcases snapshot_verdict h hn with
    ⟨hset, hv⟩ | ⟨hset, rfl, hlost, hv⟩ | ⟨hset, rfl, hlost, hv⟩ | ⟨hset, hlt, l', hv, hinv⟩
  · rw [show l.snapshot (t n).requested.toNat (t n).terminal.toNat = _ from hv]
    exact .settled hn hset hfirst
  · rw [show l.snapshot (t lastPoll).requested.toNat (t lastPoll).terminal.toNat = _ from hv]
    exact .lost (fun m hm => hupto hset m (Nat.lt_succ_of_le hm)) hlost
  · rw [show l.snapshot (t lastPoll).requested.toNat (t lastPoll).terminal.toNat = _ from hv]
    exact .timedOut (fun m hm => hupto hset m (Nat.lt_succ_of_le hm)) hlost
  · rw [show l.snapshot (t n).requested.toNat (t n).terminal.toNat = _ from hv]
    exact drainLoop_ends t report (n + 1) hlt hinv (hupto hset)
termination_by lastPoll - n

/-- **The verdict of the drain.** Over any stream of totals the wait takes at most 501 snapshots
and
* reports success with nothing unobserved exactly at the first snapshot that closes eleven equal
  ones with as many outcomes as requests, which is 100 ms into the wait at the earliest;
* reports a deficit only at the last snapshot of the window, when it is what the counters show and
  they have not changed for the last 1000 ms;
* times out otherwise. -/
theorem drain_verdict (t : Nat → CpumapTotals) (report : DrainReport) :
    let s := fun i => ((t i).requested.toNat, (t i).terminal.toNat)
    let r := waitForCpumapRecords (fun i => .ok (t i)) report
    let settled := fun n => 10 ≤ n ∧ Flat s (n - 10) n ∧ (s n).1 = (s n).2
    r.snapshots ≤ 501
      ∧ (r.err = 0 ∧ r.report.unobserved = 0 → ∃ n, r.snapshots = n + 1 ∧ settled n
          ∧ (∀ m < n, ¬settled m) ∧ 100 ≤ n * drainPollMs)
      ∧ (∀ n ≤ 500, settled n → (∀ m < n, ¬settled m) →
          r = ⟨0, ⟨(s n).1, (s n).2, 0⟩, n + 1⟩)
      ∧ (r.err = 0 ∧ 0 < r.report.unobserved → r.snapshots = 501
          ∧ r.report.requested = (s 500).1 ∧ r.report.terminal = (s 500).2
          ∧ (s 500).2 < (s 500).1 ∧ r.report.unobserved = (s 500).1 - (s 500).2
          ∧ Flat s 400 500)
      ∧ ((∀ n ≤ 500, ¬settled n) → Flat s 400 500 → (s 500).2 < (s 500).1 →
          r = ⟨0, ⟨(s 500).1, (s 500).2, (s 500).1 - (s 500).2⟩, 501⟩)
      ∧ ((∀ n ≤ 500, ¬settled n) → ¬(Flat s 400 500 ∧ (s 500).2 < (s 500).1) →
          r = ⟨etimedout, report, 501⟩)
      ∧ (r.err = 0 ∨ r.err = etimedout) := by
  intro s r settled
  have hend : DrainEnd s report r :=
    drainLoop_ends t report 0 (Nat.zero_le _) (drainLoopInv_start _) (by intro m hm; omega)
  generalize r = r at hend
  cases hend with
  | @settled n hn h hfirst =>
    have hlast : lastPoll = 500 := rfl
    have hmin : 10 ≤ n := h.1
    refine ⟨by dsimp only; omega, fun _ => ⟨n, rfl, h, hfirst, ?_⟩, ?_, ?_, ?_, ?_, Or.inl rfl⟩
    · rw [drainPollMs]; omega
    · intro m _ hm hmfirst
      obtain rfl : n = m := by
        rcases Nat.lt_trichotomy n m with hlt | heq | hgt
        · exact absurd h (hmfirst n hlt)
        · exact heq
        · exact absurd hm (hfirst m hgt)
      rfl
    · exact fun hpos => absurd hpos.2 (Nat.lt_irrefl 0)
    · exact fun hnever => absurd h (hnever n hn)
    · exact fun hnever => absurd h (hnever n hn)
  | lost hnever h =>
    obtain ⟨hflat, hlt⟩ := h
    have hdiff : (s lastPoll).1 - (s lastPoll).2 ≠ 0 := by omega
    refine ⟨Nat.le_refl _, fun h0 => absurd h0.2 hdiff, fun n hn hset => absurd hset (hnever n hn),
      fun _ => ⟨rfl, rfl, rfl, hlt, rfl, hflat⟩, fun _ _ _ => rfl,
      fun _ hnot => absurd ⟨hflat, hlt⟩ hnot, Or.inl rfl⟩
  | timedOut hnever h =>
    have herr : etimedout ≠ 0 := by decide
    exact ⟨Nat.le_refl _, fun h0 => absurd h0.1 herr, fun n hn hset => absurd hset (hnever n hn),
      fun h0 => absurd h0.1 herr, fun _ hflat hlt => absurd ⟨hflat, hlt⟩ h, fun _ _ => rfl,
      Or.inr rfl⟩

end AceXdp
