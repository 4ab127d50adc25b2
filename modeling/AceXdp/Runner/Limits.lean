import AceXdp.Lib.Decimal
import AceXdp.Runner.Accepted
import AceXdp.Runner.Script

/-!
# AceXdp — the time limits of a run

Each wait of `receiver_run` and `sender_run` has a limit made of the configured times, and four
numbers are handed to other programs as theirs: the lifetime of load and monitor, the budget of the
PHC tracker and the safety limit of the busy AF_XDP receiver.

* `RunSettings.control`: the settings as the two programs of `Runner.Script` branch on them;
* `opLimit`: the limit of a step; `limitSum`: the time a list of steps may take;
* `stretch`: the steps from one call to another.
-/

namespace AceXdp

open Choreography

/-! ## The settings of the control flow -/

theorem zero_notMem_ascii {text : List Char} (h : ∀ c ∈ text, 0 < c.toNat ∧ c.toNat < 128) :
    (0 : UInt8) ∉ ascii text := by
  intro hmem
  obtain ⟨c, hc, hzero⟩ := List.mem_map.mp hmem
  obtain ⟨hpos, hlt⟩ := h c hc
  have hnat : c.toNat % 2 ^ 8 = 0 := by simpa using congrArg UInt8.toNat hzero
  omega

theorem RunName.nul_free (name : RunName) : (0 : UInt8) ∉ ascii name.chars := by
  refine zero_notMem_ascii fun c hc => ?_
  rcases name.name c hc with h | rfl | rfl
  · have hranges := Decimal.toNat_isAlphanum h
    omega
  · decide
  · decide

theorem HexDigest.nul_free (digest : HexDigest) : (0 : UInt8) ∉ ascii digest.chars := by
  refine zero_notMem_ascii fun c hc => ?_
  have h := digest.hex c hc
  simp only [Json.hexValue, Char.isDigit, Char.le_def, Bool.and_eq_true, decide_eq_true_eq,
    ge_iff_le, UInt32.le_iff_toNat_le] at h
  split at h
  · rename_i hrange
    change 48 ≤ c.toNat ∧ c.toNat ≤ 57 at hrange
    omega
  · split at h
    · rename_i hrange
      change 97 ≤ c.toNat ∧ c.toNat ≤ 102 at hrange
      omega
    · split at h
      · rename_i hrange
        change 65 ≤ c.toNat ∧ c.toNat ≤ 70 at hrange
        omega
      · cases h

/-- The settings as the two programs branch on them. -/
def RunSettings.control (c : RunSettings) (h : Accepted c) : RunConfig where
  runId := ⟨ascii c.runId.chars, by
    have hlen := c.runId.length_lt
    simpa [ascii] using hlen, c.runId.nul_free⟩
  digest := ⟨ascii c.digest.chars, by
    have hlen := h.digest
    simp [ascii, hlen], c.digest.nul_free⟩
  modes := c.modes
  repeats := c.repeats
  alternateModeOrder := c.alternateModeOrder ≠ 0
  flowEnabled i := (c.flows i).isSome
  xskBusy := c.xskBusy ≠ 0
  phcTracking := c.phcTracking ≠ 0
  rxCoalesce := c.rxCoalesceUsecs.isSome
  monitorOrLoad := c.monitor ≠ 0 || c.cpuPercent ≠ 0 || c.memoryWorkers ≠ 0 || c.ioWorkers ≠ 0
  networkLoad := c.networkBps ≠ 0
  modes_ne_nil := h.modes.2.2
  modes_length_le := h.modes.1
  repeats_le := h.repeats

/-! ## Numbers handed to other programs -/

section Limits

variable (c : RunSettings)

/-- `load_lifetime_seconds`. -/
def loadLifetimeSeconds : UInt64 :=
  let ms := UInt64.ofNat c.durationMs + UInt64.ofNat c.warmupMs + UInt64.ofNat c.startDelayMs
    + UInt64.ofNat c.settleMs + UInt64.ofNat c.drainMs + 8 * UInt64.ofNat c.readyMs
    + 8 * UInt64.ofNat c.stopMs
  (ms + 999) / 1000 + 5

/-- `budget` of `start_phc_tracking`. -/
def phcBudgetMs : UInt64 := loadLifetimeSeconds c * 1000

/-- `limit` of `receiver_process`. -/
def busyTimeoutSec : UInt64 :=
  (UInt64.ofNat c.durationMs + UInt64.ofNat c.startDelayMs + UInt64.ofNat c.stopMs + 999) / 1000

/-- The value of `--busy-timeout-sec`, where `receiver_process` passes one. -/
def busyTimeoutArg : Option (List Char) :=
  if c.xskBusy ≠ 0 then some (Decimal.natText (busyTimeoutSec c).toNat) else none

/-- The range in which `afxdp_recv` takes it, and that of `phc_track` for its budget. -/
def parseBusyTimeout (text : List Char) : Option Nat := aceParseU64 text 1 172800

def parsePhcBudget (text : List Char) : Option Nat := aceParseU64 text 100 172800000

/-! ## Limits of the steps -/

/-- `(unsigned)duration_ms + start_delay_ms + ready_ms`, the wait of both sides for the end of the
measurement. -/
def captureWaitMs : UInt32 :=
  UInt32.ofNat c.durationMs + UInt32.ofNat c.startDelayMs + UInt32.ofNat c.readyMs

/-- The sender's wait for `START`. -/
def startWaitMs : UInt32 := UInt32.ofNat c.readyMs + UInt32.ofNat c.warmupMs

/-- The sender's wait for `DONE`. -/
def doneWaitMs : UInt32 :=
  UInt32.ofNat c.stopMs * 3 + UInt32.ofNat c.settleMs + UInt32.ofNat c.drainMs

/-- The waits of `prepare_environment`, in milliseconds: the check and the reservation of the CPU
partition, and the preparation itself. -/
def prepareLimit (who : Side) (mode : RunMode) : Nat :=
  if mode = .socketOnly then 0
  else if who = receiver ∧ c.shared.isSome then
    c.readyMs + (if mode = .mixed ∧ (c.flows 1).isSome then c.readyMs else 0) + c.readyMs
  else c.readyMs

/-- The limit of a call, in milliseconds; 0 where it does not wait. -/
def callLimit (who : Side) (mode : RunMode) : Call → Nat
  | .connectPeer => c.readyMs
  | .startRun | .beginRun => 0
  | .prepareEnvironment => prepareLimit c who mode
  | .captureState _ => c.readyMs
  | .coalesce _ => c.readyMs
  | .startLoader => c.readyMs
  | .receiverProcess _ => c.readyMs
  | .startPhcTracking => c.readyMs
  | .captureScheduler => c.readyMs
  | .monitorProcess => c.readyMs
  | .pauseWarmup => c.warmupMs
  | .calibrate _ => c.readyMs
  | .releaseGate _ => 0
  | .writeRun _ => 0
  | .pauseSettle => c.settleMs
  | .requestStop _ => 0
  | .waitCompletions => if who = receiver then c.stopMs else (captureWaitMs c).toNat
  | .releaseFlush _ => 0
  | .waitChild _ => c.stopMs
  | .pauseClock => 150
  | .stopPhcTracking => c.stopMs
  | .stopMonitor => c.stopMs
  | .requestStopLoader => 0
  | .waitLoader => c.stopMs
  | .restoreCpuPartition => c.stopMs
  | .createComplete | .finishComplete => 0
  | .senderProcess _ => c.readyMs
  | .networkProcess => 0
  | .pauseNetwork => 100
  | .publishStart => 0
  | .stopNetwork => c.stopMs

/-- The limit of a message, in milliseconds. -/
def messageLimit (who : Side) : MsgType → Nat
  | .stop => if who = receiver then (captureWaitMs c).toNat else c.stopMs
  | .start => if who = receiver then c.readyMs else (startWaitMs c).toNat
  | .done => if who = receiver then c.stopMs else (doneWaitMs c).toNat
  | .ack => c.stopMs
  | .fail => 1000
  | .hello | .rxReady | .txReady | .started => c.readyMs

def opLimit (who : Side) (mode : RunMode) : Op Call MsgType → Nat
  | .act call => callLimit c who mode call
  | .send m | .recv m => messageLimit c who m

/-- The time that steps which keep to their limits may take. -/
def limitSum (who : Side) (mode : RunMode) (steps : List (Op Call MsgType)) : Nat :=
  (steps.map (opLimit c who mode)).sum

end Limits

/-- The steps from one call up to another. -/
def stretch (first last : Call) (steps : List (Op Call MsgType)) : List (Op Call MsgType) :=
  (steps.dropWhile (· ≠ .act first)).takeWhile (· ≠ .act last)

end AceXdp
