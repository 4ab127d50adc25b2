import AceXdp.Lib.Transition
import AceXdp.Loader.Hwtstamp

/-!
# AceXdp — the loader and its recovery around `SIOCSHWTSTAMP`

The loader keeps the saved and the effective configuration in its memory and in the pinned
`runtime_config`, and updates the two at different moments around `SIOCSHWTSTAMP`. The system
below runs `main` of the loader with a crash possible between any two steps, then any number of
`--recover` runs, each of which may crash, while others write the device at any time.
`Loader.RecoverySafety` proves what recovery can rely on.
-/

namespace AceXdp

open Transition Transition.System

/-! ## The loader -/

/-- What `main` puts into the runtime configuration before anything else. The capacity is in the
range of `parse_options`; the kernel gives a loaded program and a process nonzero ids. -/
structure LoaderIdentity where
  ifindex : UInt32
  recordCapacity : UInt32
  xdpProgramId : UInt32
  ownerPid : UInt32
  ownerStartTicks : UInt64
  mode : ForwardingMode
  capacity_ne_zero : recordCapacity ≠ 0
  capacity_le : recordCapacity.toNat ≤ recordMaxEntries
  program_ne_zero : xdpProgramId ≠ 0
  pid_ne_zero : ownerPid ≠ 0
  ticks_ne_zero : ownerStartTicks ≠ 0

def modeFlags : ForwardingMode → UInt32
  | .mixed => 0
  | .allPass => runtimeAllPass
  | .passXsk => runtimePassXsk

/-- `runtime` before `runtime_set_hwtstamp`. -/
def LoaderIdentity.runtime (me : LoaderIdentity) : RuntimeConfig where
  abiVersion := runtimeAbiVersion
  ifindex := me.ifindex
  recordCapacity := me.recordCapacity
  xdpProgramId := me.xdpProgramId
  ownerStartTicks := me.ownerStartTicks
  ownerPid := me.ownerPid
  flags := modeFlags me.mode
  savedFlags := 0
  savedTxType := 0
  savedRxFilter := 0
  effectiveFlags := 0
  effectiveTxType := 0
  effectiveRxFilter := 0

/-- The locals of `main` that matter here. -/
structure LoaderMem where
  runtime : RuntimeConfig
  hwtstamp : HwtstampState
  attached : Bool
  mapsPinned : Bool
  measurementComplete : Bool
  preservePins : Bool
  deriving DecidableEq, Repr

/-- Where `main` is; each point is before the call it names. -/
inductive LoaderPc where
  | capture
  | load
  | configureMaps
  | pin
  | attach
  | verify
  | publishBaseline
  | publishApplying
  | apply
  | publishApplied
  | measure
  | out
  | detach
  | drain
  | restore
  | publishRestored
  | unpin
  | exited
  deriving DecidableEq, Repr

/-! ## Recovery -/

/-- Where `recover_pinned_measurement` is, with its copy of the runtime configuration. -/
inductive RecoverPc where
  | idle
  | read
  | checkOwner (runtime : RuntimeConfig)
  | publish (runtime : RuntimeConfig)
  -- opens the other maps, sweeps the claims and detaches
  | detach (runtime : RuntimeConfig)
  | restore (runtime : RuntimeConfig)
  | publishRestored (runtime : RuntimeConfig)
  -- drain, export and `--cleanup-pins`
  | finish (stateError : Bool)
  deriving DecidableEq, Repr

/-! ## The system -/

/-- The device, the value in `runtime_config` once it has one, whether that map is pinned,
whether `ace_hwtstamp_capture` has succeeded, and the two programs. -/
structure RecoverySystem where
  device : HwtstampConfig
  map : Option RuntimeConfig
  pinned : Bool
  captured : Bool
  pc : LoaderPc
  mem : LoaderMem
  recovery : RecoverPc
  deriving DecidableEq, Repr

/-- The saved and effective configuration on record: the map's, and before there is one those in
the loader's memory. -/
def RecoverySystem.recorded (s : RecoverySystem) : Option (HwtstampConfig × HwtstampConfig) :=
  match s.map with
  | some r => some (r.saved, r.effective)
  | none =>
    if s.captured then some (s.mem.hwtstamp.saved, s.mem.hwtstamp.effective) else none

/-- The steps by who takes them; restores that return 0 are named. -/
inductive RecoveryAction where
  | outsider | loader | loaderRestored | recovery | recoveryRestored
  deriving DecidableEq, Repr

def restoreAction (err : Int) (restored other : RecoveryAction) : RecoveryAction :=
  if err = 0 then restored else other

/-- One atomic step. A call that fails takes `main` to `out`. -/
inductive RecoveryStep (me : LoaderIdentity) :
    RecoverySystem → RecoveryAction → RecoverySystem → Prop where
  -- anybody else sets the device
  | outsider {s : RecoverySystem} (config : HwtstampConfig) :
      RecoveryStep me s .outsider { s with device := config }
  -- `main` up to the measurement
  | capture {s : RecoverySystem} (driver : HwtstampDriver) (h : s.pc = .capture) :
      RecoveryStep me s .loader { s with
        mem := { s.mem with hwtstamp := (hwtstampCapture driver s.device).1 }
        captured := decide ((hwtstampCapture driver s.device).2 = 0)
        pc := if (hwtstampCapture driver s.device).2 = 0 then .load else .out }
  -- the object is opened and loaded and its program identified; `runtime` is filled in
  | load {s : RecoverySystem} (h : s.pc = .load) :
      RecoveryStep me s .loader { s with
        mem := { s.mem with runtime := me.runtime.setHwtstamp s.mem.hwtstamp false }
        pc := .configureMaps }
  | configureMaps {s : RecoverySystem} (h : s.pc = .configureMaps) :
      RecoveryStep me s .loader { s with map := some s.mem.runtime, pc := .pin }
  | pin {s : RecoverySystem} (h : s.pc = .pin) :
      RecoveryStep me s .loader
        { s with pinned := true, mem := { s.mem with mapsPinned := true }, pc := .attach }
  | attach {s : RecoverySystem} (h : s.pc = .attach) :
      RecoveryStep me s .loader { s with mem := { s.mem with attached := true }, pc := .verify }
  -- the configuration is still the captured one: prepare the new one
  | verify {s : RecoverySystem} (h : s.pc = .verify) (hsame : s.device = s.mem.hwtstamp.saved) :
      RecoveryStep me s .loader { s with
        mem := { s.mem with
          hwtstamp := (prepareRxAll s.mem.hwtstamp).1
          runtime := if (prepareRxAll s.mem.hwtstamp).2 = 0
            then s.mem.runtime.setHwtstampApplying (prepareRxAll s.mem.hwtstamp).1
            else s.mem.runtime }
        pc := if (prepareRxAll s.mem.hwtstamp).2 = 0 then .publishApplying else .out }
  -- it is not: the newer one becomes the baseline
  | verifyChanged {s : RecoverySystem} {state : HwtstampState} (h : s.pc = .verify)
      (hne : s.device ≠ s.mem.hwtstamp.saved)
      (hstate : state = { s.mem.hwtstamp with
        saved := s.device, effective := s.device, changed := false }) :
      RecoveryStep me s .loader { s with
        mem := { s.mem with hwtstamp := state, runtime := s.mem.runtime.setHwtstamp state false }
        pc := .publishBaseline }
  | publishBaseline {s : RecoverySystem} (h : s.pc = .publishBaseline) :
      RecoveryStep me s .loader { s with map := some s.mem.runtime, pc := .out }
  | publishApplying {s : RecoverySystem} (h : s.pc = .publishApplying) :
      RecoveryStep me s .loader { s with map := some s.mem.runtime, pc := .apply }
  | apply {s : RecoverySystem} (driver : HwtstampDriver) (hexact : driver.Exact)
      {r : HwtstampResult} (h : s.pc = .apply)
      (hr : r = applyPreparedRxAll driver s.device s.mem.hwtstamp) :
      RecoveryStep me s .loader { s with
        device := r.device
        mem := { s.mem with
          hwtstamp := r.state
          runtime := if r.err = 0 then s.mem.runtime.setHwtstamp r.state true
            else s.mem.runtime }
        pc := if r.err = 0 then .publishApplied else .out }
  | publishApplied {s : RecoverySystem} (h : s.pc = .publishApplied) :
      RecoveryStep me s .loader { s with map := some s.mem.runtime, pc := .measure }
  | measure {s : RecoverySystem} (h : s.pc = .measure) :
      RecoveryStep me s .loader
        { s with mem := { s.mem with measurementComplete := true }, pc := .out }
  -- A call fails, or a signal is seen before the attach
  | fail {s : RecoverySystem}
      (h : s.pc ∈ [LoaderPc.load, .configureMaps, .pin, .attach, .verify, .publishBaseline,
        .publishApplying, .publishApplied, .measure]) :
      RecoveryStep me s .loader { s with pc := .out }
  -- `main` from the label `out`
  | outDetached {s : RecoverySystem} (h : s.pc = .out) (hatt : s.mem.attached = false) :
      RecoveryStep me s .loader { s with pc := .drain }
  | outStopping {s : RecoverySystem} (h : s.pc = .out) (hatt : s.mem.attached = true) :
      RecoveryStep me s .loader { s with
        mem := { s.mem with runtime := s.mem.runtime.markStopping }
        map := some s.mem.runtime.markStopping
        pc := .detach }
  | outFails {s : RecoverySystem} (h : s.pc = .out) (hatt : s.mem.attached = true) :
      RecoveryStep me s .loader { s with
        mem := { s.mem with
          runtime := s.mem.runtime.markStopping, preservePins := s.mem.mapsPinned }
        pc := .drain }
  | detach {s : RecoverySystem} (h : s.pc = .detach) :
      RecoveryStep me s .loader { s with mem := { s.mem with attached := false }, pc := .drain }
  | detachFails {s : RecoverySystem} (h : s.pc = .detach) :
      RecoveryStep me s .loader
        { s with mem := { s.mem with preservePins := s.mem.mapsPinned }, pc := .drain }
  -- the drain and the export, if there is a measurement and the program is off
  | drain {s : RecoverySystem} (ok : Bool) (h : s.pc = .drain) :
      RecoveryStep me s .loader { s with
        mem := { s.mem with preservePins :=
          if s.mem.measurementComplete && !s.mem.attached && !ok then s.mem.mapsPinned
          else s.mem.preservePins }
        pc := .restore }
  | restoreSkipped {s : RecoverySystem} (h : s.pc = .restore) (hatt : s.mem.attached = true) :
      RecoveryStep me s .loader { s with pc := .unpin }
  | restore {s : RecoverySystem} (driver : HwtstampDriver) (hexact : driver.Exact)
      {r : HwtstampResult} (h : s.pc = .restore) (hatt : s.mem.attached = false)
      (hr : r = restoreAllowSaved driver s.device s.mem.hwtstamp true) :
      RecoveryStep me s (restoreAction r.err .loaderRestored .loader) { s with
        device := r.device
        mem := { s.mem with
          hwtstamp := r.state
          preservePins := if r.err = 0 then s.mem.preservePins else s.mem.mapsPinned
          runtime := if r.err = 0 ∧ s.mem.preservePins = true
            then s.mem.runtime.setHwtstamp r.state false else s.mem.runtime }
        pc := if r.err = 0 ∧ s.mem.preservePins = true then .publishRestored else .unpin }
  | publishRestored {s : RecoverySystem} (written : Bool) (h : s.pc = .publishRestored) :
      RecoveryStep me s .loader
        { s with map := if written then some s.mem.runtime else s.map, pc := .unpin }
  | unpin {s : RecoverySystem} (h : s.pc = .unpin) (hpins : s.mem.mapsPinned = true)
      (hpreserve : s.mem.preservePins = false) (unpinned : Bool) :
      RecoveryStep me s .loader
        { s with pinned := if unpinned then false else s.pinned, pc := .exited }
  -- A crash at any point, or the end of `main`
  | exit {s : RecoverySystem} (h : s.pc ≠ .exited) :
      RecoveryStep me s .loader { s with pc := .exited }
  -- `recover_pinned_measurement`, one run after the other
  | recoverStart {s : RecoverySystem} (hdead : s.pc = .exited) (h : s.recovery = .idle) :
      RecoveryStep me s .recovery { s with recovery := .read }
  | recoverRead {s : RecoverySystem} {r : RuntimeConfig} (h : s.recovery = .read)
      (hpinned : s.pinned = true) (hmap : s.map = some r)
      (haccept : r.recoveryAccepts me.ifindex = true) :
      RecoveryStep me s .recovery { s with recovery := .checkOwner r }
  | recoverOwner {s : RecoverySystem} {r : RuntimeConfig} (h : s.recovery = .checkOwner r)
      (hdead : s.pc = .exited) :
      RecoveryStep me s .recovery { s with recovery := .publish r.markStopping }
  | recoverPublish {s : RecoverySystem} {r : RuntimeConfig} (h : s.recovery = .publish r) :
      RecoveryStep me s .recovery { s with map := some r, recovery := .detach r }
  | recoverDetach {s : RecoverySystem} {r : RuntimeConfig} (h : s.recovery = .detach r) :
      RecoveryStep me s .recovery { s with recovery := .restore r }
  -- the control socket cannot be had, or the configuration was never captured
  | recoverNoState {s : RecoverySystem} {r : RuntimeConfig} (h : s.recovery = .restore r) :
      RecoveryStep me s .recovery { s with recovery := .finish true }
  | recoverRestore {s : RecoverySystem} (driver : HwtstampDriver) (hexact : driver.Exact)
      {r : RuntimeConfig} {state : HwtstampState} {result : HwtstampResult}
      (h : s.recovery = .restore r) (hstate : hwtstampStateFromRuntime r = .ok state)
      (hr : result = restoreAllowSaved driver s.device state true) :
      RecoveryStep me s (restoreAction result.err .recoveryRestored .recovery) { s with
        device := result.device
        recovery := if result.err = 0 then .publishRestored r.markRestored else .finish true }
  | recoverPublishRestored {s : RecoverySystem} {r : RuntimeConfig} (written : Bool)
      (h : s.recovery = .publishRestored r) :
      RecoveryStep me s .recovery
        { s with map := if written then some r else s.map, recovery := .finish (!written) }
  | recoverCleanup {s : RecoverySystem} (h : s.recovery = .finish false) :
      RecoveryStep me s .recovery { s with pinned := false, recovery := .idle }
  -- A crash at any point, a refusal or the end of the run
  | recoverEnd {s : RecoverySystem} :
      RecoveryStep me s .recovery { s with recovery := .idle }

/-- The system from the start of `main`, on a device in any configuration. -/
def recoverySystem (me : LoaderIdentity) : System RecoverySystem RecoveryAction where
  init s := ∃ device, s =
    { device, map := none, pinned := false, captured := false, pc := .capture
      mem := ⟨me.runtime, ⟨⟨0, 0, 0⟩, ⟨0, 0, 0⟩, false, false⟩, false, false, false, false⟩
      recovery := .idle }
  step := RecoveryStep me

end AceXdp
