import AceXdp.Loader.Runtime

/-!
# AceXdp — capture, apply and restore of the device timestamp configuration

`include/ace_hwtstamp.h`. Each call reads the device and may write it once; between its query and
its write nobody else does, so a call is a function of the device configuration and of the
driver's answers. `SIOCSHWTSTAMP` may normalise the request in place: the driver reports what it
applied, and the calls keep that.

* `applyPreparedRxAll_exact`, `restoreAllowSaved_exact`: the calls against a driver that applies
  a request exactly or rejects it.
-/

namespace AceXdp

abbrev Errno := { e : Nat // 0 < e }

def eInval : Errno := ⟨22, by decide⟩
def eOpnotsupp : Errno := ⟨95, by decide⟩
def eStale : Errno := ⟨116, by decide⟩
def eNodata : Errno := ⟨61, by decide⟩

def Errno.code (e : Errno) : Int := -(e.val : Int)

theorem Errno.code_neg (e : Errno) : e.code < 0 := by
  have hpos : (0 : Int) < (e.val : Int) := by exact_mod_cast e.property
  unfold Errno.code
  omega

/-- The driver's answers during one call: whether `SIOCGHWTSTAMP` fails, and what
`SIOCSHWTSTAMP` applies and reports for each request. -/
structure HwtstampDriver where
  getError : Option Errno
  set : HwtstampConfig → Except Errno HwtstampConfig

/-- A request is applied as it is, or rejected. -/
def HwtstampDriver.Exact (driver : HwtstampDriver) : Prop :=
  ∀ request actual, driver.set request = .ok actual → actual = request

/-! ## The calls -/

/-- What a call leaves on the device and in the state, and what it returns. -/
structure HwtstampResult where
  device : HwtstampConfig
  state : HwtstampState
  err : Int
  deriving DecidableEq, Repr

def hwtstampCapture (driver : HwtstampDriver) (device : HwtstampConfig) : HwtstampState × Int :=
  match driver.getError with
  | some e => (⟨⟨0, 0, 0⟩, ⟨0, 0, 0⟩, false, false⟩, e.code)
  | none => (⟨device, device, true, false⟩, 0)

/-- `ace_hwtstamp_prepare_rx_all`. -/
def prepareRxAll (state : HwtstampState) : HwtstampState × Int :=
  if state.active then
    let effective := { state.saved with flags := 0, rxFilter := hwtstampFilterAll }
    ({ state with effective, changed := decide (state.saved ≠ effective) }, 0)
  else (state, eInval.code)

/-- `ace_hwtstamp_apply_prepared_rx_all`. -/
def applyPreparedRxAll (driver : HwtstampDriver) (device : HwtstampConfig)
    (state : HwtstampState) : HwtstampResult :=
  if state.active = false ∨ state.effective.rxFilter ≠ hwtstampFilterAll then
    ⟨device, state, eInval.code⟩
  else match driver.getError with
    | some e => ⟨device, state, e.code⟩
    | none =>
      if device ≠ state.saved then ⟨device, state, eStale.code⟩
      else match driver.set state.effective with
        | .error e => ⟨device, state, e.code⟩
        | .ok desired =>
          let state := { state with
            effective := desired, changed := decide (state.saved ≠ desired) }
          if desired.rxFilter ≠ hwtstampFilterAll then
            match driver.set state.saved with
            | .error e => ⟨desired, state, e.code⟩
            | .ok actual =>
              ⟨actual, { state with saved := actual, effective := actual, changed := false },
                eOpnotsupp.code⟩
          else ⟨desired, state, 0⟩

/-- `ace_hwtstamp_restore_allow_saved`. -/
def restoreAllowSaved (driver : HwtstampDriver) (device : HwtstampConfig)
    (state : HwtstampState) (allowSaved : Bool) : HwtstampResult :=
  if state.active = false then ⟨device, state, 0⟩
  else match driver.getError with
    | some e => ⟨device, state, e.code⟩
    | none =>
      if device ≠ state.effective ∧ ¬ (allowSaved = true ∧ device = state.saved) then
        ⟨device, state, 1⟩
      else match driver.set state.saved with
        | .error e => ⟨device, state, e.code⟩
        | .ok actual => ⟨actual, ⟨actual, actual, false, false⟩, 0⟩

def hwtstampStateFromRuntime (runtime : RuntimeConfig) : Except Errno HwtstampState :=
  if runtime.flags &&& runtimeCaptured = 0 then .error eNodata
  else .ok ⟨runtime.saved, runtime.effective, true, decide (runtime.saved ≠ runtime.effective)⟩

/-! ## Against an exact driver -/

/-- **Apply.** The state keeps the two configurations it came with, and the device is written
only when it had the saved one. -/
theorem applyPreparedRxAll_exact {driver : HwtstampDriver} (hexact : driver.Exact)
    (device : HwtstampConfig) (state : HwtstampState) :
    let r := applyPreparedRxAll driver device state
    r.state.saved = state.saved ∧ r.state.effective = state.effective
      ∧ r.state.active = state.active ∧ (device ≠ state.saved → r.device = device) := by
  intro r
  have hr : r = applyPreparedRxAll driver device state := rfl
  unfold applyPreparedRxAll at hr
  split at hr
  · rw [hr]
    exact ⟨rfl, rfl, rfl, fun _ => rfl⟩
  · rename_i hprepared
    cases hget : driver.getError with
    | some e =>
      rw [hget] at hr
      rw [hr]
      exact ⟨rfl, rfl, rfl, fun _ => rfl⟩
    | none =>
      rw [hget] at hr
      dsimp only at hr
      split at hr
      · rw [hr]
        exact ⟨rfl, rfl, rfl, fun _ => rfl⟩
      · rename_i hsaved
        cases hset : driver.set state.effective with
        | error e =>
          rw [hset] at hr
          rw [hr]
          exact ⟨rfl, rfl, rfl, fun _ => rfl⟩
        | ok desired =>
          -- an exact driver keeps the filter, so the roll-back is not reached
          have hdesired := hexact _ _ hset
          subst hdesired
          rw [hset] at hr
          dsimp only at hr
          rw [if_neg (fun hne => hprepared (Or.inr hne))] at hr
          rw [hr]
          exact ⟨rfl, rfl, rfl, fun hne => absurd hne hsaved⟩

/-- **Restore.** The device is written only when it has the saved or the effective configuration.
A zero result of an active state leaves the saved one there; any other result changes nothing. -/
theorem restoreAllowSaved_exact {driver : HwtstampDriver} (hexact : driver.Exact)
    (device : HwtstampConfig) (state : HwtstampState) :
    let r := restoreAllowSaved driver device state true
    (device ≠ state.saved → device ≠ state.effective → r.device = device)
      ∧ (r.err = 0 → state.active = true → r.device = state.saved)
      ∧ r.state.saved = state.saved := by
  intro r
  have hr : r = restoreAllowSaved driver device state true := rfl
  unfold restoreAllowSaved at hr
  split at hr
  · rename_i hinactive
    rw [hr]
    exact ⟨fun _ _ => rfl, fun _ hactive => by simp [hinactive] at hactive, rfl⟩
  · cases hget : driver.getError with
    | some e =>
      rw [hget] at hr
      rw [hr]
      refine ⟨fun _ _ => rfl, fun h0 => ?_, rfl⟩
      have hneg := e.code_neg
      dsimp only at h0
      omega
    | none =>
      rw [hget] at hr
      dsimp only at hr
      split at hr
      · rw [hr]
        exact ⟨fun _ _ => rfl, fun h0 => absurd h0 Int.one_ne_zero, rfl⟩
      · rename_i hknown
        cases hset : driver.set state.saved with
        | error e =>
          rw [hset] at hr
          rw [hr]
          refine ⟨fun _ _ => rfl, fun h0 => ?_, rfl⟩
          have hneg := e.code_neg
          dsimp only at h0
          omega
        | ok actual =>
          have hactual := hexact _ _ hset
          rw [hset] at hr
          rw [hr]
          refine ⟨fun hs he => absurd ⟨he, fun h => hs h.2⟩ hknown, fun _ _ => hactual, hactual⟩

theorem hwtstampStateFromRuntime_ok {runtime : RuntimeConfig} {state : HwtstampState}
    (h : hwtstampStateFromRuntime runtime = .ok state) :
    state.saved = runtime.saved ∧ state.effective = runtime.effective ∧ state.active = true := by
  unfold hwtstampStateFromRuntime at h
  split at h
  · cases h
  · cases h
    exact ⟨rfl, rfl, rfl⟩

end AceXdp
