import Mathlib.Data.Option.Basic
import AceXdp.Runner.RunJson

/-!
# AceXdp — what an accepted configuration promises

`read_run_config` checks each number as it reads it and a few of them against each other. Everything
that is computed from a configuration later relies on those checks, in other functions and on the
other host. `Accepted` lists them.

* `readRunConfig_accepted`: an accepted file has all of them;
* `sampleConfig_accepted`: a file with a shared receiver that is accepted.
-/

namespace AceXdp

/-- The checks of `read_run_config` on times, CPUs and load. -/
structure Accepted (c : RunSettings) : Prop where
  duration : 1 ≤ c.durationMs ∧ c.durationMs ≤ 86400000
  warmup : c.warmupMs ≤ 3600000
  ready : 100 ≤ c.readyMs ∧ c.readyMs ≤ 600000
  stop : 100 ≤ c.stopMs ∧ c.stopMs ≤ 600000
  startDelay : 10 ≤ c.startDelayMs ∧ c.startDelayMs ≤ 60000
  drain : c.drainMs ≤ 60000
  drainStop : c.drainMs + 100 ≤ c.stopMs
  settle : c.settleMs ≤ 60000
  xskBusy : c.xskBusy ≤ 1
  phcTracking : c.phcTracking ≤ 1
  irq : irqAllowed c.shared c.cpumapCpu c.rxIrqCpu = true
  workers : workersAllowed c.shared c.cpuPercent (isSharedLayout c.cpuLayout) c.cpuCpus.chars = true
  sharedLoad : sharedLoadAllowed c.shared (isSharedLayout c.cpuLayout) c.cpuCpus.chars = true
  period : ∀ i f, c.flows i = some f → 1 ≤ f.periodNs ∧ f.periodNs ≤ 1000000000000
  inherit : ∀ i f, c.flows i = some f → c.shared.isSome → f.rxCpu = none ∧ f.allPassRxCpu = none
  records : 0 < totalRecords (List.ofFn c.flows) c.durationMs
    ∧ totalRecords (List.ofFn c.flows) c.durationMs ≤ runMaxRecords
  repeats : c.repeats ≤ 10000
  modes : c.modes.length ≤ 4 ∧ c.modes.Nodup ∧ c.modes ≠ []
  digest : c.digest.chars.length = 64

variable {host : RunnerHost} {p : List ConfigEntry} {content : List Char}

theorem aceParseU64_range {text : List Char} {lo hi n : Nat} (h : aceParseU64 text lo hi = some n) :
    lo ≤ n ∧ n ≤ hi := by
  unfold aceParseU64 at h
  split at h
  · split at h
    · rename_i hrange
      cases h
      exact hrange.2
    · cases h
  · cases h

theorem configNumber_range {key : ConfigKey} {fallback : Option PrintableText} {lo hi n : Nat}
    (h : configNumber p key fallback lo hi = some n) : lo ≤ n ∧ n ≤ hi := by
  obtain ⟨value, _, hvalue⟩ := Option.bind_eq_some_iff.mp h
  exact aceParseU64_range hvalue

/-- The times. -/
theorem readControl_ranges {c : ControlSettings} (h : readControl host p = some c) :
    (1 ≤ c.durationMs ∧ c.durationMs ≤ 86400000) ∧ c.warmupMs ≤ 3600000
      ∧ (100 ≤ c.readyMs ∧ c.readyMs ≤ 600000) ∧ (100 ≤ c.stopMs ∧ c.stopMs ≤ 600000)
      ∧ (10 ≤ c.startDelayMs ∧ c.startDelayMs ≤ 60000) ∧ c.drainMs ≤ 60000
      ∧ c.drainMs + 100 ≤ c.stopMs ∧ c.settleMs ≤ 60000 ∧ c.repeats ≤ 10000 := by
  unfold readControl at h
  iterate 7 obtain ⟨_, _, h⟩ := Option.bind_eq_some_iff.mp h
  obtain ⟨repeats, hrepeats, h⟩ := Option.bind_eq_some_iff.mp h
  iterate 2 obtain ⟨_, _, h⟩ := Option.bind_eq_some_iff.mp h
  obtain ⟨duration, hduration, h⟩ := Option.bind_eq_some_iff.mp h
  obtain ⟨warmup, hwarmup, h⟩ := Option.bind_eq_some_iff.mp h
  obtain ⟨ready, hready, h⟩ := Option.bind_eq_some_iff.mp h
  obtain ⟨stop, hstop, h⟩ := Option.bind_eq_some_iff.mp h
  obtain ⟨startDelay, hstart, h⟩ := Option.bind_eq_some_iff.mp h
  obtain ⟨drain, hdrain, h⟩ := Option.bind_eq_some_iff.mp h
  obtain ⟨_, hguard, h⟩ := Option.bind_eq_some_iff.mp h
  obtain ⟨settle, hsettle, h⟩ := Option.bind_eq_some_iff.mp h
  cases h
  exact ⟨configNumber_range hduration, (configNumber_range hwarmup).2, configNumber_range hready,
    configNumber_range hstop, configNumber_range hstart, (configNumber_range hdrain).2,
    (Option.guard_eq_some' _).mp hguard, (configNumber_range hsettle).2,
    (configNumber_range hrepeats).2⟩

/-- The modes of the receiver, and its interrupt CPU. -/
theorem readReceiver_ranges {c : ReceiverSettings} (h : readReceiver p = some c) :
    c.xskBusy ≤ 1 ∧ c.phcTracking ≤ 1 ∧ irqAllowed c.shared c.cpumapCpu c.rxIrqCpu = true := by
  unfold readReceiver at h
  obtain ⟨xskBusy, hbusy, h⟩ := Option.bind_eq_some_iff.mp h
  obtain ⟨phcTracking, htracking, h⟩ := Option.bind_eq_some_iff.mp h
  iterate 12 obtain ⟨_, _, h⟩ := Option.bind_eq_some_iff.mp h
  obtain ⟨rxIrqCpu, _, h⟩ := Option.bind_eq_some_iff.mp h
  obtain ⟨_, hirq, h⟩ := Option.bind_eq_some_iff.mp h
  split at h
  · cases h
    exact ⟨(configNumber_range hbusy).2, (configNumber_range htracking).2,
      (Option.guard_eq_some' _).mp hirq⟩
  · cases h

theorem readLoad_checks {controlPort : Nat} {shared : Option SharedDomain} {c : LoadSettings}
    (h : readLoad p controlPort shared = some c) :
    workersAllowed shared c.cpuPercent (isSharedLayout c.cpuLayout) c.cpuCpus.chars = true
      ∧ sharedLoadAllowed shared (isSharedLayout c.cpuLayout) c.cpuCpus.chars = true := by
  unfold readLoad at h
  iterate 8 obtain ⟨_, _, h⟩ := Option.bind_eq_some_iff.mp h
  obtain ⟨_, hworkers, h⟩ := Option.bind_eq_some_iff.mp h
  iterate 16 obtain ⟨_, _, h⟩ := Option.bind_eq_some_iff.mp h
  cases h
  exact (Option.guard_eq_some' _).mp hworkers

theorem readEnabledFlow_checks {shared : Option SharedDomain} {i : Fin 3} {f : FlowSettings}
    (h : readEnabledFlow p shared i = some f) :
    (1 ≤ f.periodNs ∧ f.periodNs ≤ 1000000000000)
      ∧ (shared.isSome → f.rxCpu = none ∧ f.allPassRxCpu = none) := by
  unfold readEnabledFlow at h
  obtain ⟨periodNs, hperiod, h⟩ := Option.bind_eq_some_iff.mp h
  iterate 4 obtain ⟨_, _, h⟩ := Option.bind_eq_some_iff.mp h
  obtain ⟨_, hinherit, h⟩ := Option.bind_eq_some_iff.mp h
  iterate 4 obtain ⟨_, _, h⟩ := Option.bind_eq_some_iff.mp h
  split at h
  · cases h
    exact ⟨configNumber_range hperiod, (Option.guard_eq_some' _).mp hinherit⟩
  · cases h

theorem readFlow_checks {shared : Option SharedDomain} {i : Fin 3} {f : Option FlowSettings}
    (h : readFlow p shared i = some f) : ∀ flow, f = some flow →
      (1 ≤ flow.periodNs ∧ flow.periodNs ≤ 1000000000000)
        ∧ (shared.isSome → flow.rxCpu = none ∧ flow.allPassRxCpu = none) := by
  obtain ⟨enabled, _, h⟩ := Option.bind_eq_some_iff.mp h
  intro flow hflow
  subst hflow
  split at h
  · cases h
  · obtain ⟨read, hread, hsome⟩ := Option.map_eq_some_iff.mp h
    cases hsome
    exact readEnabledFlow_checks hread

theorem readModes_checks {modes : List RunMode} (h : readModes p = some modes) :
    modes.length ≤ 4 ∧ modes.Nodup ∧ modes ≠ [] := by
  unfold readModes at h
  obtain ⟨_, _, h⟩ := Option.bind_eq_some_iff.mp h
  obtain ⟨read, _, h⟩ := Option.bind_eq_some_iff.mp h
  obtain ⟨_, hguard, h⟩ := Option.bind_eq_some_iff.mp h
  cases h
  exact (Option.guard_eq_some' _).mp hguard

theorem configHash_length {digest : HexDigest} (h : configHash host content = some digest) :
    digest.chars.length = 64 := by
  obtain ⟨line, _, h⟩ := Option.bind_eq_some_iff.mp h
  split at h
  · rename_i hline
    cases h
    simpa using hline.1
  · cases h

/-- **Every check holds of an accepted file.** -/
theorem readRunConfig_accepted {c : RunSettings} (h : readRunConfig host content = some c) :
    Accepted c := by
  unfold readRunConfig at h
  obtain ⟨p, _, h⟩ := Option.bind_eq_some_iff.mp h
  obtain ⟨control, hcontrol, h⟩ := Option.bind_eq_some_iff.mp h
  obtain ⟨receiver, hreceiver, h⟩ := Option.bind_eq_some_iff.mp h
  obtain ⟨load, hload, h⟩ := Option.bind_eq_some_iff.mp h
  obtain ⟨modes, hmodes, h⟩ := Option.bind_eq_some_iff.mp h
  obtain ⟨f₁, hf₁, h⟩ := Option.bind_eq_some_iff.mp h
  obtain ⟨f₂, hf₂, h⟩ := Option.bind_eq_some_iff.mp h
  obtain ⟨f₃, hf₃, h⟩ := Option.bind_eq_some_iff.mp h
  obtain ⟨_, htotal, h⟩ := Option.bind_eq_some_iff.mp h
  obtain ⟨digest, hdigest, h⟩ := Option.bind_eq_some_iff.mp h
  split at h
  · cases h
    obtain ⟨hduration, hwarmup, hready, hstop, hstart, hdrain, hguard, hsettle, hrepeats⟩ :=
      readControl_ranges hcontrol
    obtain ⟨hbusy, htracking, hirq⟩ := readReceiver_ranges hreceiver
    obtain ⟨hworkers, hshared⟩ := readLoad_checks hload
    have hflow : ∀ i f, flowTable f₁ f₂ f₃ i = some f →
        (1 ≤ f.periodNs ∧ f.periodNs ≤ 1000000000000)
          ∧ (receiver.shared.isSome → f.rxCpu = none ∧ f.allPassRxCpu = none) := by
      intro i f hf
      match i with
      | 0 => exact readFlow_checks hf₁ f hf
      | 1 => exact readFlow_checks hf₂ f hf
      | 2 => exact readFlow_checks hf₃ f hf
    exact ⟨hduration, hwarmup, hready, hstop, hstart, hdrain, hguard, hsettle, hbusy, htracking,
      hirq, hworkers, hshared, fun i f hf => (hflow i f hf).1, fun i f hf => (hflow i f hf).2,
      (Option.guard_eq_some' _).mp htotal, hrepeats, readModes_checks hmodes,
      configHash_length hdigest⟩
  · cases h

/-! ## A file -/

/-- Three CPUs for general work and CPU 3 for the CPUMAP flow, which is the only one enabled. -/
def sampleFile : List Char :=
  ["run_id=shared",
   "receiver_address=10.0.0.2",
   "modes=mixed,all-pass",
   "repeats=2",
   "duration_ms=60000",
   "warmup_ms=1000",
   "settle_ms=500",
   "monitor=1",
   "receiver.xsk_busy=1",
   "receiver.shared_cpus=0-3",
   "load.cpu_percent=50",
   "load.cpu_layout=shared",
   "load.cpu_workers=3",
   "load.cpu_cpus=0,1,2,3",
   "load.network_bps=0",
   "flow1.enabled=0",
   "flow2.enabled=1",
   "flow2.period_ns=1000000",
   "flow2.tx_cpu=inherit",
   "flow2.rx_cpu=inherit",
   "flow2.tx_policy=other",
   "flow2.rx_policy=other",
   "flow2.tx_priority=0",
   "flow2.rx_priority=0",
   "flow3.enabled=0"].flatMap fun line => line.toList ++ ['\n']

def sampleHost : RunnerHost where
  exe := some ['/', 'a', '/', 'b']
  sha256sum _ := some (List.replicate 64 '0')

theorem sampleConfig_accepted : ∃ c, readRunConfig sampleHost sampleFile = some c
    ∧ c.xskBusy = 1 ∧ c.shared.isSome ∧ (c.flows 1).isSome ∧ c.cpuPercent = 50
    ∧ c.repeats = 2 := by
  have hreads : (readRunConfig sampleHost sampleFile).any (fun c => c.xskBusy = 1
      ∧ c.shared.isSome ∧ (c.flows 1).isSome ∧ c.cpuPercent = 50 ∧ c.repeats = 2) = true := by
    decide +kernel
  obtain ⟨c, hc, hall⟩ := (Option.any_eq_true _ _).mp hreads
  exact ⟨c, hc, by simpa using hall⟩

/-- The times it is read with: those it does not give are the defaults. -/
theorem sampleConfig_times {c : RunSettings} (h : readRunConfig sampleHost sampleFile = some c) :
    c.durationMs = 60000 ∧ c.warmupMs = 1000 ∧ c.settleMs = 500 ∧ c.readyMs = 60000
      ∧ c.stopMs = 60000 ∧ c.startDelayMs = 250 ∧ c.drainMs = 100 := by
  have hreads : (readRunConfig sampleHost sampleFile).all (fun c => c.durationMs = 60000
      ∧ c.warmupMs = 1000 ∧ c.settleMs = 500 ∧ c.readyMs = 60000 ∧ c.stopMs = 60000
      ∧ c.startDelayMs = 250 ∧ c.drainMs = 100) = true := by
    decide +kernel
  rw [h] at hreads
  simpa using hreads

/-- The default limits, the longest settle time, and the first and third flow. -/
def longSettleFile : List Char :=
  ["run_id=settle",
   "receiver_address=10.0.0.2",
   "modes=mixed",
   "repeats=1",
   "duration_ms=1750",
   "warmup_ms=0",
   "settle_ms=60000",
   "monitor=0",
   "receiver.xsk_busy=1",
   "load.cpu_percent=0",
   "load.network_bps=0",
   "flow1.enabled=1",
   "flow1.period_ns=1000000",
   "flow1.tx_cpu=inherit",
   "flow1.rx_cpu=inherit",
   "flow1.tx_policy=other",
   "flow1.rx_policy=other",
   "flow1.tx_priority=0",
   "flow1.rx_priority=0",
   "flow2.enabled=0",
   "flow3.enabled=1",
   "flow3.period_ns=1000000",
   "flow3.tx_cpu=inherit",
   "flow3.rx_cpu=inherit",
   "flow3.tx_policy=other",
   "flow3.rx_policy=other",
   "flow3.tx_priority=0",
   "flow3.rx_priority=0"].flatMap fun line => line.toList ++ ['\n']

theorem longSettle_accepted : ∃ c, readRunConfig sampleHost longSettleFile = some c
    ∧ c.xskBusy = 1 ∧ c.phcTracking = 0 ∧ c.startDelayMs = 250 ∧ c.durationMs = 1750
    ∧ c.readyMs = 60000 ∧ c.stopMs = 60000 ∧ c.settleMs = 60000 ∧ c.drainMs = 100
    ∧ (List.ofFn c.flows).map Option.isSome = [true, false, true] := by
  have hreads : (readRunConfig sampleHost longSettleFile).any (fun c => c.xskBusy = 1
      ∧ c.phcTracking = 0 ∧ c.startDelayMs = 250 ∧ c.durationMs = 1750 ∧ c.readyMs = 60000
      ∧ c.stopMs = 60000 ∧ c.settleMs = 60000 ∧ c.drainMs = 100
      ∧ (List.ofFn c.flows).map Option.isSome = [true, false, true]) = true := by decide +kernel
  obtain ⟨c, hc, hall⟩ := (Option.any_eq_true _ _).mp hreads
  exact ⟨c, hc, by simpa using hall⟩

end AceXdp
