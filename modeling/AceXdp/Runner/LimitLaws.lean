import AceXdp.Runner.ConfigLines
import AceXdp.Runner.Limits

/-!
# AceXdp — the limits of one side cover the work of the other

* `load_lifetime_covers`: load, monitor and PHC tracker last until they are stopped;
* `busy_timeout_covers_iff`: when the safety limit of the AF_XDP receiver covers its capture;
* `done_wait_covers_iff`: when the sender waits long enough for `DONE`.
-/

namespace AceXdp

open Choreography Decimal

/-! ## Sums

The limits of the calls of a stretch, added up. Any time that the calls really take is below the
sum. -/

section Sums

variable (c : RunSettings) (who : Side) (mode : RunMode)

@[simp]
theorem limitSum_nil : limitSum c who mode [] = 0 := rfl

@[simp]
theorem limitSum_cons (op : Op Call MsgType) (steps : List (Op Call MsgType)) :
    limitSum c who mode (op :: steps) = opLimit c who mode op + limitSum c who mode steps := by
  simp [limitSum]

@[simp]
theorem limitSum_append (xs ys : List (Op Call MsgType)) :
    limitSum c who mode (xs ++ ys) = limitSum c who mode xs + limitSum c who mode ys := by
  simp [limitSum]

/-- Steps with one limit. -/
theorem limitSum_const {α : Type*} {n : Nat} (f : α → Op Call MsgType) (xs : List α)
    (h : ∀ x, opLimit c who mode (f x) = n) :
    limitSum c who mode (xs.map f) = xs.length * n := by
  simp [limitSum, Function.comp_def, h]

theorem limitSum_initial_le {xs ys : List (Op Call MsgType)} (h : xs <+: ys) :
    limitSum c who mode xs ≤ limitSum c who mode ys := by
  obtain ⟨rest, rfl⟩ := h
  rw [limitSum_append]
  exact Nat.le_add_right _ _

/-- Steps that keep to their limits take no more than the sum. -/
theorem elapsed_le_limitSum (run : List (Op Call MsgType × Nat))
    (h : ∀ step ∈ run, step.2 ≤ opLimit c who mode step.1) :
    (run.map Prod.snd).sum ≤ limitSum c who mode (run.map Prod.fst) := by
  induction run with
  | nil => exact Nat.le_refl _
  | cons step run ih =>
    rw [List.map_cons, List.sum_cons, List.map_cons, limitSum_cons]
    exact Nat.add_le_add (h step List.mem_cons_self)
      (ih fun s hs => h s (List.mem_cons_of_mem _ hs))

end Sums

/-! ## Stretches of the two programs

The calls between the start of a process and its stop, as they stand in the two programs. -/

@[simp]
theorem mem_does {op : Op Call MsgType} {calls : List Call} :
    op ∈ does calls ↔ ∃ call ∈ calls, .act call = op := List.mem_map

theorem stretch_eq {first last : Call} {before inside after : List (Op Call MsgType)}
    (hne : first ≠ last) (hbefore : .act first ∉ before) (hinside : .act last ∉ inside) :
    stretch first last (before ++ .act first :: (inside ++ .act last :: after))
      = .act first :: inside := by
  have hdrop : ∀ op ∈ before, decide (op ≠ .act first) = true := fun op hop =>
    decide_eq_true fun h => hbefore (h ▸ hop)
  have htake : ∀ op ∈ inside, decide (op ≠ .act last) = true := fun op hop =>
    decide_eq_true fun h => hinside (h ▸ hop)
  unfold stretch
  rw [List.dropWhile_append_of_pos hdrop, List.dropWhile_cons_of_neg (by simp),
    List.takeWhile_cons_of_pos (by simpa using hne), List.takeWhile_append_of_pos htake,
    List.takeWhile_cons_of_neg (by simp), List.append_nil]

theorem stretch_of_notMem {first last : Call} {steps : List (Op Call MsgType)}
    (h : .act first ∉ steps) : stretch first last steps = [] := by
  have hdrop : steps.dropWhile (· ≠ .act first) = [] :=
    List.dropWhile_eq_nil_iff.mpr fun op hop => decide_eq_true fun heq => h (heq ▸ hop)
  rw [stretch, hdrop, List.takeWhile_nil]

@[simp]
theorem does_append (xs ys : List Call) : does (xs ++ ys) = does xs ++ does ys := List.map_append

section Programs

variable (rc : RunConfig) (mode : RunMode)

/-- `receiver_run` up to the PHC tracker. -/
def receiverArm : List Call :=
  [.startRun, .beginRun, .prepareEnvironment, .captureState .before]
    ++ callsIf (measured mode && rc.rxCoalesce) [.coalesce .save]
    ++ callsIf (measured mode) [.startLoader]
    ++ rc.flows.map .receiverProcess
    ++ callsIf (measured mode && rc.rxCoalesce) [.coalesce .apply]

/-- From `STOP` to the tracker. -/
def receiverSettle : List Call :=
  [.pauseSettle] ++ rc.flows.map .requestStop ++ [.waitCompletions]
    ++ rc.flows.map .releaseFlush ++ rc.flows.map .waitChild

/-- What both stretches of the receiver go through. -/
def receiverCapture : List (Op Call MsgType) :=
  [.send .rxReady, .recv .txReady] ++ does (receiverWarmup rc mode)
    ++ [.send .start, .recv .started, .recv .stop]

theorem monitor_stretch (h : (rc.monitorOrLoad || rc.networkLoad) = true) :
    stretch .monitorProcess .stopMonitor (receiverRun rc mode)
      = .act .monitorProcess :: (receiverCapture rc mode ++ does (receiverDrain rc mode)
        ++ [.send .done, .recv .ack]) := by
  have hrun : receiverRun rc mode
      = does (receiverArm rc mode ++ callsIf (measured mode && rc.phcTracking) [.startPhcTracking]
          ++ [.captureScheduler])
        ++ .act .monitorProcess :: ((receiverCapture rc mode ++ does (receiverDrain rc mode)
          ++ [.send .done, .recv .ack])
        ++ .act .stopMonitor :: does ((receiverFinish rc mode).drop 1)) := by
    simp [receiverRun, receiverPrepare, receiverArm, receiverCapture, receiverFinish, callsIf, h,
      does]
  rw [hrun]
  refine stretch_eq (by decide) ?_ ?_
  · simp [receiverArm]
  · simp [receiverCapture, receiverWarmup, receiverDrain]

theorem phc_stretch (h : (measured mode && rc.phcTracking) = true) :
    stretch .startPhcTracking .stopPhcTracking (receiverRun rc mode)
      = .act .startPhcTracking :: (does ([.captureScheduler]
          ++ callsIf (rc.monitorOrLoad || rc.networkLoad) [.monitorProcess])
        ++ receiverCapture rc mode ++ does (receiverSettle rc ++ [.pauseClock])) := by
  have hrun : receiverRun rc mode
      = does (receiverArm rc mode) ++ .act .startPhcTracking :: ((does ([.captureScheduler]
          ++ callsIf (rc.monitorOrLoad || rc.networkLoad) [.monitorProcess])
        ++ receiverCapture rc mode ++ does (receiverSettle rc ++ [.pauseClock]))
        ++ .act .stopPhcTracking :: (does (callsIf (measured mode && !rc.phcTracking)
          [.calibrate .after]) ++ [.send .done, .recv .ack] ++ does (receiverFinish rc mode))) := by
    simp [receiverRun, receiverPrepare, receiverArm, receiverCapture, receiverDrain,
      receiverSettle, callsIf, h, does]
  rw [hrun]
  refine stretch_eq (by decide) ?_ ?_
  · simp [receiverArm]
  · simp [receiverCapture, receiverWarmup, receiverSettle]

theorem network_stretch (h : rc.networkLoad = true) :
    stretch .networkProcess .stopNetwork (senderRun rc)
      = .act .networkProcess :: (.act .pauseNetwork :: ([.send .txReady, .recv .start]
        ++ does senderStart ++ [.send .started, .act .waitCompletions, .send .stop, .recv .done]
        ++ does (rc.flows.map .releaseFlush ++ rc.flows.map .waitChild))) := by
  have hrun : senderRun rc
      = (does senderPrepare ++ [.recv .rxReady]
          ++ does ([.captureState .before] ++ rc.flows.map .senderProcess))
        ++ .act .networkProcess :: ((.act .pauseNetwork :: ([.send .txReady, .recv .start]
          ++ does senderStart ++ [.send .started, .act .waitCompletions, .send .stop, .recv .done]
          ++ does (rc.flows.map .releaseFlush ++ rc.flows.map .waitChild)))
        ++ .act .stopNetwork :: (does [.captureState .after, .writeRun .completed]
          ++ [.send .ack] ++ does senderFinish)) := by
    simp [senderRun, senderArm, senderFlush, callsIf, h, does]
  rw [hrun]
  refine stretch_eq (by decide) ?_ ?_
  · simp [senderPrepare]
  · simp [senderStart]

end Programs

/-! ## What they add up to

The sums in terms of the configuration. -/

section Totals

variable (c : RunSettings) (rc : RunConfig) (mode : RunMode) (who : Side)

theorem limitSum_callsIf (cond : Bool) (calls : List Call) :
    limitSum c who mode (does (callsIf cond calls))
      = if cond then limitSum c who mode (does calls) else 0 := by
  cases cond <;> rfl

theorem limitSum_flows {n : Nat} (f : Fin 3 → Call) (flows : List (Fin 3))
    (h : ∀ i, callLimit c who mode (f i) = n) :
    limitSum c who mode (does (flows.map f)) = flows.length * n := by
  rw [does, List.map_map]
  exact limitSum_const c who mode _ flows h

theorem limitSum_warmup : limitSum c receiver mode (does (receiverWarmup rc mode))
    = c.warmupMs + if measured mode && !rc.phcTracking then c.readyMs else 0 := by
  have hgate := limitSum_flows c mode receiver (n := 0) .releaseGate
    (rc.flows.filter (xskPath mode)) fun _ => rfl
  simp only [receiverWarmup, does_append, limitSum_append, limitSum_callsIf, hgate]
  simp [does, opLimit, callLimit]

theorem limitSum_settle : limitSum c receiver mode (does (receiverSettle rc))
    = c.settleMs + c.stopMs + rc.flows.length * c.stopMs := by
  simp only [receiverSettle, does_append, limitSum_append,
    limitSum_flows c mode receiver (n := 0) .requestStop _ fun _ => rfl,
    limitSum_flows c mode receiver (n := 0) .releaseFlush _ fun _ => rfl,
    limitSum_flows c mode receiver (n := c.stopMs) .waitChild _ fun _ => rfl]
  simp [does, opLimit, callLimit]

theorem limitSum_drain : limitSum c receiver mode (does (receiverDrain rc mode))
    = c.settleMs + c.stopMs + rc.flows.length * c.stopMs
      + (if measured mode && rc.phcTracking then 150 + c.stopMs else 0)
      + if measured mode && !rc.phcTracking then c.readyMs else 0 := by
  have hsplit : receiverDrain rc mode = receiverSettle rc
      ++ callsIf (measured mode && rc.phcTracking) [.pauseClock, .stopPhcTracking]
      ++ callsIf (measured mode && !rc.phcTracking) [.calibrate .after] := rfl
  rw [hsplit, does_append, does_append, limitSum_append, limitSum_append, limitSum_settle,
    limitSum_callsIf, limitSum_callsIf]
  rfl

theorem limitSum_capture : limitSum c receiver mode (receiverCapture rc mode)
    = c.readyMs + c.readyMs + (c.warmupMs
      + if measured mode && !rc.phcTracking then c.readyMs else 0)
      + (c.readyMs + c.readyMs + (captureWaitMs c).toNat) := by
  rw [receiverCapture, limitSum_append, limitSum_append, limitSum_warmup]
  simp [opLimit, messageLimit]
  omega

end Totals

/-! ## No overflow

The runner computes its own limits in 64 bits; on accepted configurations nothing wraps. -/

section Accepted

variable {c : RunSettings} (h : Accepted c)

theorem flows_length_le (rc : RunConfig) : rc.flows.length ≤ 3 := by
  have hle := List.length_filter_le rc.flowEnabled (List.finRange 3)
  rwa [List.length_finRange] at hle

theorem flows_length_pos : 0 < (c.control h).flows.length := by
  obtain ⟨i, hi⟩ := c.someFlow
  exact List.length_pos_of_mem (List.mem_filter.mpr ⟨List.mem_finRange i, hi⟩)

include h

theorem captureWaitMs_toNat :
    (captureWaitMs c).toNat = c.durationMs + c.startDelayMs + c.readyMs := by
  obtain ⟨hduration, hready, hstart⟩ := (⟨h.duration, h.ready, h.startDelay⟩ : _ ∧ _ ∧ _)
  simp only [captureWaitMs, UInt32.toNat_add, UInt32.toNat_ofNat']
  omega

theorem startWaitMs_toNat : (startWaitMs c).toNat = c.readyMs + c.warmupMs := by
  obtain ⟨hready, hwarmup⟩ := (⟨h.ready, h.warmup⟩ : _ ∧ _)
  simp only [startWaitMs, UInt32.toNat_add, UInt32.toNat_ofNat']
  omega

theorem doneWaitMs_toNat : (doneWaitMs c).toNat = c.stopMs * 3 + c.settleMs + c.drainMs := by
  obtain ⟨hstop, hsettle, hdrain⟩ := (⟨h.stop, h.settle, h.drain⟩ : _ ∧ _ ∧ _)
  simp only [doneWaitMs, UInt32.toNat_add, UInt32.toNat_mul, UInt32.toNat_ofNat',
    show (3 : UInt32).toNat = 3 from rfl]
  omega

theorem busyTimeoutSec_toNat :
    (busyTimeoutSec c).toNat = (c.durationMs + c.startDelayMs + c.stopMs + 999) / 1000 := by
  obtain ⟨hduration, hstart, hstop⟩ := (⟨h.duration, h.startDelay, h.stop⟩ : _ ∧ _ ∧ _)
  simp only [busyTimeoutSec, UInt64.toNat_div, UInt64.toNat_add, UInt64.toNat_ofNat',
    show (999 : UInt64).toNat = 999 from rfl, show (1000 : UInt64).toNat = 1000 from rfl]
  omega

theorem loadLifetimeSeconds_toNat : (loadLifetimeSeconds c).toNat
    = (c.durationMs + c.warmupMs + c.startDelayMs + c.settleMs + c.drainMs + 8 * c.readyMs
      + 8 * c.stopMs + 999) / 1000 + 5 := by
  obtain ⟨hduration, hwarmup, hready, hstop⟩ :=
    (⟨h.duration, h.warmup, h.ready, h.stop⟩ : _ ∧ _ ∧ _ ∧ _)
  obtain ⟨hstart, hsettle, hdrain⟩ := (⟨h.startDelay, h.settle, h.drain⟩ : _ ∧ _ ∧ _)
  simp only [loadLifetimeSeconds, UInt64.toNat_div, UInt64.toNat_add, UInt64.toNat_mul,
    UInt64.toNat_ofNat', show (999 : UInt64).toNat = 999 from rfl,
    show (1000 : UInt64).toNat = 1000 from rfl, show (8 : UInt64).toNat = 8 from rfl,
    show (5 : UInt64).toNat = 5 from rfl]
  omega

theorem phcBudgetMs_toNat :
    (phcBudgetMs c).toNat = (loadLifetimeSeconds c).toNat * 1000 := by
  have hlife := loadLifetimeSeconds_toNat h
  obtain ⟨hduration, hwarmup, hready, hstop⟩ :=
    (⟨h.duration, h.warmup, h.ready, h.stop⟩ : _ ∧ _ ∧ _ ∧ _)
  obtain ⟨hstart, hsettle, hdrain⟩ := (⟨h.startDelay, h.settle, h.drain⟩ : _ ∧ _ ∧ _)
  simp only [phcBudgetMs, UInt64.toNat_mul, show (1000 : UInt64).toNat = 1000 from rfl]
  omega

theorem parsePhcBudget_phcBudgetMs :
    parsePhcBudget (natText (phcBudgetMs c).toNat) = some (phcBudgetMs c).toNat := by
  have hbudget := phcBudgetMs_toNat h
  have hlife := loadLifetimeSeconds_toNat h
  obtain ⟨hduration, hwarmup, hready, hstop⟩ :=
    (⟨h.duration, h.warmup, h.ready, h.stop⟩ : _ ∧ _ ∧ _ ∧ _)
  obtain ⟨hstart, hsettle, hdrain⟩ := (⟨h.startDelay, h.settle, h.drain⟩ : _ ∧ _ ∧ _)
  exact aceParseU64_natText (by omega) (by omega) (by decide)

theorem parseBusyTimeout_busyTimeoutSec :
    parseBusyTimeout (natText (busyTimeoutSec c).toNat) = some (busyTimeoutSec c).toNat := by
  have hlimit := busyTimeoutSec_toNat h
  obtain ⟨hduration, hstart, hstop⟩ := (⟨h.duration, h.startDelay, h.stop⟩ : _ ∧ _ ∧ _)
  exact aceParseU64_natText (by omega) (by omega) (by decide)

/-! ## Load, monitor and tracker

Each of the three stretches is shorter than the lifetime. -/

theorem monitor_stretch_le (rc : RunConfig) (mode : RunMode) :
    limitSum c receiver mode (stretch .monitorProcess .stopMonitor (receiverRun rc mode))
      ≤ c.durationMs + c.warmupMs + c.startDelayMs + c.settleMs + 8 * c.readyMs + 7 * c.stopMs
        + 150 := by
  by_cases hon : (rc.monitorOrLoad || rc.networkLoad) = true
  · have hflows := Nat.mul_le_mul_right c.stopMs (flows_length_le rc)
    rw [monitor_stretch rc mode hon, limitSum_cons, limitSum_append, limitSum_append,
      limitSum_capture, limitSum_drain, captureWaitMs_toNat h]
    simp only [limitSum_cons, limitSum_nil, opLimit, callLimit, messageLimit, if_pos]
    have hready := h.ready
    have hstop := h.stop
    cases measured mode <;> cases rc.phcTracking <;> simp <;> omega
  · have hoff : .act .monitorProcess ∉ receiverRun rc mode := by
      simp [receiverRun, receiverPrepare, receiverWarmup, receiverDrain, receiverFinish, hon]
    rw [stretch_of_notMem hoff]
    exact Nat.zero_le _

theorem phc_stretch_le (rc : RunConfig) (mode : RunMode) :
    limitSum c receiver mode (stretch .startPhcTracking .stopPhcTracking (receiverRun rc mode))
      ≤ c.durationMs + c.warmupMs + c.startDelayMs + c.settleMs + 8 * c.readyMs + 4 * c.stopMs
        + 150 := by
  by_cases hon : (measured mode && rc.phcTracking) = true
  · have hflows := Nat.mul_le_mul_right c.stopMs (flows_length_le rc)
    obtain ⟨hmeasured, htracking⟩ := Bool.and_eq_true_iff.mp hon
    rw [phc_stretch rc mode hon, limitSum_cons, limitSum_append, limitSum_append, limitSum_capture,
      does_append, does_append, limitSum_append, limitSum_append, limitSum_settle,
      limitSum_callsIf, captureWaitMs_toNat h, hmeasured, htracking]
    simp only [does, List.map_cons, List.map_nil, limitSum_cons, limitSum_nil, opLimit, callLimit]
    cases rc.monitorOrLoad || rc.networkLoad <;> simp <;> omega
  · have hoff : .act .startPhcTracking ∉ receiverRun rc mode := by
      simp [receiverRun, receiverPrepare, receiverWarmup, receiverDrain, receiverFinish, hon]
    rw [stretch_of_notMem hoff]
    exact Nat.zero_le _

theorem network_stretch_le (rc : RunConfig) (mode : RunMode) :
    limitSum c sender mode (stretch .networkProcess .stopNetwork (senderRun rc))
      ≤ c.durationMs + c.warmupMs + c.startDelayMs + c.settleMs + c.drainMs + 4 * c.readyMs
        + 7 * c.stopMs + 100 := by
  by_cases hon : rc.networkLoad = true
  · have hflows := Nat.mul_le_mul_right c.stopMs (flows_length_le rc)
    have hwrite : limitSum c sender mode (does senderStart) = 0 := rfl
    have hflush : limitSum c sender mode
        (does (rc.flows.map .releaseFlush ++ rc.flows.map .waitChild))
        = rc.flows.length * c.stopMs := by
      rw [does_append, limitSum_append, limitSum_flows c mode sender (n := 0) _ _ fun _ => rfl,
        limitSum_flows c mode sender (n := c.stopMs) _ _ fun _ => rfl, Nat.mul_zero, Nat.zero_add]
    rw [network_stretch rc hon]
    simp only [limitSum_cons, limitSum_append, hwrite, hflush, limitSum_nil, opLimit, callLimit,
      messageLimit, show sender ≠ receiver from by decide, if_false, captureWaitMs_toNat h,
      startWaitMs_toNat h, doneWaitMs_toNat h]
    omega
  · have hoff : .act .networkProcess ∉ senderRun rc := by
      simp [senderRun, senderPrepare, senderArm, senderStart, senderFlush, senderFinish, hon]
    rw [stretch_of_notMem hoff]
    exact Nat.zero_le _

end Accepted

/-- **Load, monitor and PHC tracker last until they are stopped.** The waits of any run between the
start of one and the call that stops it, also of a run that breaks off in between and tells its peer
so, take no longer than the lifetime it is given. The numbers do not overflow, and the programs they
are handed to take them. -/
theorem load_lifetime_covers {host : RunnerHost} {content : List Char} {c : RunSettings}
    (h : readRunConfig host content = some c) (mode : RunMode) :
    (loadLifetimeSeconds c).toNat
        = (c.durationMs + c.warmupMs + c.startDelayMs + c.settleMs + c.drainMs + 8 * c.readyMs
          + 8 * c.stopMs + 999) / 1000 + 5
      ∧ (phcBudgetMs c).toNat = (loadLifetimeSeconds c).toNat * 1000
      ∧ (∀ steps, steps <+: stretch .monitorProcess .stopMonitor
            (receiverRun (c.control (readRunConfig_accepted h)) mode) →
          limitSum c receiver mode steps + messageLimit c receiver .fail
            ≤ (loadLifetimeSeconds c).toNat * 1000)
      ∧ (∀ steps, steps <+: stretch .startPhcTracking .stopPhcTracking
            (receiverRun (c.control (readRunConfig_accepted h)) mode) →
          limitSum c receiver mode steps + messageLimit c receiver .fail ≤ (phcBudgetMs c).toNat)
      ∧ (∀ steps, steps <+: stretch .networkProcess .stopNetwork
            (senderRun (c.control (readRunConfig_accepted h))) →
          limitSum c sender mode steps + messageLimit c sender .fail
            ≤ (loadLifetimeSeconds c).toNat * 1000)
      ∧ parsePhcBudget (natText (phcBudgetMs c).toNat) = some (phcBudgetMs c).toNat
      ∧ parseBusyTimeout (natText (busyTimeoutSec c).toNat) = some (busyTimeoutSec c).toNat := by
  have hacc := readRunConfig_accepted h
  have hlife := loadLifetimeSeconds_toNat hacc
  have hbudget := phcBudgetMs_toNat hacc
  have hready := hacc.ready
  have hstop := hacc.stop
  refine ⟨hlife, hbudget, fun steps hsteps => ?_, fun steps hsteps => ?_, fun steps hsteps => ?_,
    parsePhcBudget_phcBudgetMs hacc, parseBusyTimeout_busyTimeoutSec hacc⟩
  · have hsum := (limitSum_initial_le c receiver mode hsteps).trans (monitor_stretch_le hacc _ mode)
    change _ + 1000 ≤ _
    omega
  · have hsum := (limitSum_initial_le c receiver mode hsteps).trans (phc_stretch_le hacc _ mode)
    change _ + 1000 ≤ _
    omega
  · have hsum := (limitSum_initial_le c sender mode hsteps).trans (network_stretch_le hacc _ mode)
    change _ + 1000 ≤ _
    omega

/-- The monitor of a configuration that puts a load on one shared receiver: 1027 seconds are enough
from its start to its stop. -/
theorem load_lifetime_covers_sample :
    ∃ c, ∃ h : readRunConfig sampleHost sampleFile = some c,
      (loadLifetimeSeconds c).toNat = 1027 ∧ (phcBudgetMs c).toNat = 1027000
        ∧ .act .monitorProcess ∈ stretch .monitorProcess .stopMonitor
          (receiverRun (c.control (readRunConfig_accepted h)) .mixed)
        ∧ limitSum c receiver .mixed (stretch .monitorProcess .stopMonitor
          (receiverRun (c.control (readRunConfig_accepted h)) .mixed)) + 1000 ≤ 1027000 := by
  obtain ⟨c, hc, -, -, -, hpercent, -⟩ := sampleConfig_accepted
  obtain ⟨hduration, hwarmup, hsettle, hready, hstop, hstart, hdrain⟩ := sampleConfig_times hc
  obtain ⟨hlife, hbudget, hmonitor, -⟩ := load_lifetime_covers hc .mixed
  have hseconds : (loadLifetimeSeconds c).toNat = 1027 := by
    rw [hlife, hduration, hwarmup, hsettle, hready, hstop, hstart, hdrain]
  have hon : ((c.control (readRunConfig_accepted hc)).monitorOrLoad
      || (c.control (readRunConfig_accepted hc)).networkLoad) = true := by
    simp [RunSettings.control, hpercent]
  have hsum := hmonitor _ List.prefix_rfl
  rw [hseconds] at hbudget hsum
  refine ⟨c, hc, hseconds, hbudget, ?_, hsum⟩
  rw [monitor_stretch _ _ hon]
  exact List.mem_cons_self

/-! ## The safety limit of the AF_XDP receiver

It is computed from duration, start delay and stop timeout, and leaves out the other waits of the
capture; so it covers the capture only for some configurations. -/

/-- What rounding a time up to whole seconds adds to it, in milliseconds. -/
def roundUpGain (ms : Nat) : Nat := (1000 - ms % 1000) % 1000

/-- **The safety limit against the capture.** The limit counts the stop timeout where the capture
spends the settle and drain times, so it covers the capture exactly when these two fit into the
first and what the rounding adds. -/
theorem busy_timeout_covers_iff {host : RunnerHost} {content : List Char} {c : RunSettings}
    (h : readRunConfig host content = some c) (hbusy : c.xskBusy = 1) :
    ∃ text limit, busyTimeoutArg c = some text ∧ parseBusyTimeout text = some limit
      ∧ (c.startDelayMs + c.durationMs + c.settleMs + c.drainMs ≤ limit * 1000 ↔
        c.settleMs + c.drainMs
          ≤ c.stopMs + roundUpGain (c.durationMs + c.startDelayMs + c.stopMs)) := by
  have hacc := readRunConfig_accepted h
  have hlimit := busyTimeoutSec_toNat hacc
  refine ⟨_, _, if_pos (by rw [hbusy]; decide), parseBusyTimeout_busyTimeoutSec hacc, ?_⟩
  rw [hlimit]
  unfold roundUpGain
  omega

/-- At the default stop timeout the longest settle time is not covered. -/
theorem busy_timeout_too_short :
    ∃ c text limit, readRunConfig sampleHost longSettleFile = some c ∧ c.xskBusy = 1
      ∧ busyTimeoutArg c = some text ∧ parseBusyTimeout text = some limit
      ∧ limit * 1000 < c.startDelayMs + c.durationMs + c.settleMs + c.drainMs := by
  obtain ⟨c, hc, hbusy, -, hstart, hduration, -, hstop, hsettle, hdrain, -⟩ := longSettle_accepted
  have hacc := readRunConfig_accepted hc
  refine ⟨c, _, _, hc, hbusy, if_pos (by rw [hbusy]; decide), parseBusyTimeout_busyTimeoutSec hacc,
    ?_⟩
  rw [busyTimeoutSec_toNat hacc, hduration, hstart, hstop, hsettle, hdrain]
  decide

/-- Half a second of settling is. -/
theorem busy_timeout_covers_sample : ∃ c text limit, readRunConfig sampleHost sampleFile = some c
    ∧ busyTimeoutArg c = some text ∧ parseBusyTimeout text = some limit
    ∧ c.startDelayMs + c.durationMs + c.settleMs + c.drainMs ≤ limit * 1000 := by
  obtain ⟨c, hc, hbusy, -⟩ := sampleConfig_accepted
  obtain ⟨-, -, hsettle, -, hstop, -, hdrain⟩ := sampleConfig_times hc
  obtain ⟨text, limit, harg, hparse, hcovers⟩ := busy_timeout_covers_iff hc hbusy
  refine ⟨c, text, limit, hc, harg, hparse, hcovers.mpr ?_⟩
  rw [hsettle, hstop, hdrain]
  omega

/-! ## The sender's two waits

The wait for `START` is long enough for every configuration, the wait for `DONE` only under a
condition. -/

/-- The time the receiver may take between `STOP` and `DONE`, and between `TX_READY` and `START`. -/
def doneWork (c : RunSettings) (rc : RunConfig) (mode : RunMode) : Nat :=
  limitSum c receiver mode (does (receiverDrain rc mode))

def startWork (c : RunSettings) (rc : RunConfig) (mode : RunMode) : Nat :=
  limitSum c receiver mode (does (receiverWarmup rc mode))

/-- What the wait for `DONE` has room for beside the settle time: three stop timeouts and the drain
time. One goes to the completions and one to each receiver; what follows them has to fit into the
rest. -/
inductive DoneRoom (c : RunSettings) (rc : RunConfig) (mode : RunMode) : Prop where
  | smokeOne (flows : rc.flows.length = 1) (smoke : mode = .socketOnly)
  | smokeTwo (flows : rc.flows.length = 2) (smoke : mode = .socketOnly)
  | trackOne (flows : rc.flows.length = 1) (tracking : rc.phcTracking = true)
      (pause : 150 ≤ c.drainMs)
  | calibrateOne (flows : rc.flows.length = 1) (tracking : rc.phcTracking = false)
      (ready : c.readyMs ≤ c.stopMs + c.drainMs)
  | calibrateTwo (flows : rc.flows.length = 2) (tracking : rc.phcTracking = false)
      (ready : c.readyMs ≤ c.drainMs)

theorem doneWork_le_iff {c : RunSettings} (hacc : Accepted c) (rc : RunConfig) (mode : RunMode)
    (hpos : 0 < rc.flows.length) :
    doneWork c rc mode ≤ (doneWaitMs c).toNat ↔ DoneRoom c rc mode := by
  have hflows := flows_length_le rc
  have hdrain := hacc.drainStop
  have hstop := hacc.stop
  have hready := hacc.ready
  rw [doneWork, limitSum_drain, doneWaitMs_toNat hacc]
  constructor
  · intro hle
    have hcount : rc.flows.length = 1 ∨ rc.flows.length = 2 ∨ rc.flows.length = 3 := by omega
    by_cases hsmoke : mode = .socketOnly
    · subst hsmoke
      rcases hcount with hone | htwo | hthree
      · exact .smokeOne hone rfl
      · exact .smokeTwo htwo rfl
      · rw [hthree] at hle
        simp only [measured] at hle
        simp at hle
        omega
    · have hmeasured : measured mode = true := decide_eq_true hsmoke
      rw [hmeasured] at hle
      cases htracking : rc.phcTracking with
      | true =>
        rw [htracking] at hle
        simp only [Bool.true_and, Bool.not_true, if_true, Bool.false_eq_true, if_false] at hle
        rcases hcount with hone | htwo | hthree
        · exact .trackOne hone htracking (by rw [hone] at hle; omega)
        · rw [htwo] at hle
          omega
        · rw [hthree] at hle
          omega
      | false =>
        rw [htracking] at hle
        simp only [Bool.true_and, Bool.not_false, if_true, Bool.false_eq_true, if_false] at hle
        rcases hcount with hone | htwo | hthree
        · exact .calibrateOne hone htracking (by rw [hone] at hle; omega)
        · exact .calibrateTwo htwo htracking (by rw [htwo] at hle; omega)
        · rw [hthree] at hle
          omega
  · intro hroom
    cases hroom with
    | smokeOne flows smoke =>
      subst smoke
      rw [flows]
      simp [measured]
      omega
    | smokeTwo flows smoke =>
      subst smoke
      rw [flows]
      simp [measured]
      omega
    | trackOne flows tracking pause =>
      rw [flows, tracking]
      cases measured mode <;> simp <;> omega
    | calibrateOne flows tracking ready =>
      rw [flows, tracking]
      cases measured mode <;> simp <;> omega
    | calibrateTwo flows tracking ready =>
      rw [flows, tracking]
      cases measured mode <;> simp <;> omega

theorem startWork_le {c : RunSettings} (hacc : Accepted c) (rc : RunConfig) (mode : RunMode) :
    startWork c rc mode ≤ (startWaitMs c).toNat := by
  rw [startWork, limitSum_warmup, startWaitMs_toNat hacc]
  split <;> omega

/-- **The sender's waits against the receiver's work.** The wait for `START` always covers warmup and
calibration. That for `DONE` covers the receiver's steps exactly when there is room for them, and
then no run of these steps within their limits outlasts it. -/
theorem sender_waits_cover_iff {host : RunnerHost} {content : List Char} {c : RunSettings}
    (h : readRunConfig host content = some c) (mode : RunMode) :
    (doneWork c (c.control (readRunConfig_accepted h)) mode ≤ (doneWaitMs c).toNat
        ∧ startWork c (c.control (readRunConfig_accepted h)) mode ≤ (startWaitMs c).toNat ↔
      DoneRoom c (c.control (readRunConfig_accepted h)) mode)
    ∧ (DoneRoom c (c.control (readRunConfig_accepted h)) mode →
      ∀ run : List (Op Call MsgType × Nat),
        run.map Prod.fst = does (receiverDrain (c.control (readRunConfig_accepted h)) mode) →
        (∀ step ∈ run, step.2 ≤ opLimit c receiver mode step.1) →
        (run.map Prod.snd).sum ≤ (doneWaitMs c).toNat) := by
  have hacc := readRunConfig_accepted h
  have hiff := doneWork_le_iff hacc (c.control hacc) mode (flows_length_pos hacc)
  refine ⟨⟨fun hwork => hiff.mp hwork.1,
    fun hroom => ⟨hiff.mpr hroom, startWork_le hacc _ mode⟩⟩, fun hroom run hsteps hlimits => ?_⟩
  calc (run.map Prod.snd).sum ≤ limitSum c receiver mode (run.map Prod.fst) :=
        elapsed_le_limitSum c receiver mode run hlimits
    _ = doneWork c (c.control hacc) mode := by rw [hsteps]; rfl
    _ ≤ (doneWaitMs c).toNat := hiff.mpr hroom

theorem control_flows_of_two {c : RunSettings} (hacc : Accepted c)
    (h : (List.ofFn c.flows).map Option.isSome = [true, false, true]) :
    (c.control hacc).flows.length = 2 := by
  simp only [List.ofFn_succ, List.ofFn_zero, List.map_cons, List.map_nil, List.cons.injEq] at h
  obtain ⟨hfirst, hsecond, hthird, -⟩ := h
  have hflows : (c.control hacc).flows = [0, 1, 2].filter fun i => (c.flows i).isSome := rfl
  rw [hflows]
  change (c.flows 0).isSome = true at hfirst
  change (c.flows 1).isSome = false at hsecond
  change (c.flows 2).isSome = true at hthird
  simp [hfirst, hsecond, hthird]

/-- Two receivers and two calibrations at the default limits outlast the wait. -/
theorem done_wait_too_short :
    ∃ c, ∃ h : readRunConfig sampleHost longSettleFile = some c,
      (doneWaitMs c).toNat < doneWork c (c.control (readRunConfig_accepted h)) .mixed := by
  obtain ⟨c, hc, -, htrack, -, -, hready, hstop, hsettle, hdrain, hflows⟩ := longSettle_accepted
  have hacc := readRunConfig_accepted hc
  have htracking : (c.control hacc).phcTracking = false := by
    simp [RunSettings.control, htrack]
  refine ⟨c, hc, ?_⟩
  rw [doneWork, limitSum_drain, doneWaitMs_toNat hacc, control_flows_of_two hacc hflows, htracking,
    hready, hstop, hsettle, hdrain]
  decide

/-- Without calibration they do not. -/
theorem sender_waits_cover_two_receivers :
    ∃ c, ∃ h : readRunConfig sampleHost longSettleFile = some c,
      doneWork c (c.control (readRunConfig_accepted h)) .socketOnly ≤ (doneWaitMs c).toNat := by
  obtain ⟨c, hc, -, -, -, -, -, -, -, -, hflows⟩ := longSettle_accepted
  have hroom : DoneRoom c (c.control (readRunConfig_accepted hc)) .socketOnly :=
    .smokeTwo (control_flows_of_two (readRunConfig_accepted hc) hflows) rfl
  exact ⟨c, hc, ((sender_waits_cover_iff hc .socketOnly).1.mpr hroom).1⟩

end AceXdp
