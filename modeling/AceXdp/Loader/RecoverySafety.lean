import AceXdp.Loader.Recovery

/-!
# AceXdp — crash recovery of the device timestamp configuration

* `RecoveryInv`: what map and memory agree on at each point of `main`, and what a recovery
  finds;
* `recovery_restartable`: a recovery can always be repeated;
* `hwtstamp_recovery`: the pinned value is always acceptable, a foreign configuration is never
  overwritten, and a restore that returns 0 has restored.
-/

namespace AceXdp

open Transition Transition.System

/-! ## What map and memory agree on

The configuration to go back to is on record twice, in the loader's memory and in the pinned map. A
recovery has only the map; it is written before the device is changed, so that it names that
configuration whenever the loader dies. -/

/-- The value records the two configurations of the state. -/
def Records (r : RuntimeConfig) (state : HwtstampState) : Prop :=
  r.saved = state.saved ∧ r.effective = state.effective

theorem records_setHwtstamp (r : RuntimeConfig) (state : HwtstampState) (applied : Bool) :
    Records (r.setHwtstamp state applied) state := ⟨rfl, rfl⟩

/-- `main` has not restored yet. -/
def LoaderPc.unrestored : LoaderPc → Bool
  | .publishRestored | .unpin | .exited => false
  | _ => true

/-- `main` can be here without a configured map: before `configure_maps`, or after a failure. -/
def LoaderPc.mapless : LoaderPc → Bool
  | .capture | .load | .configureMaps | .out | .drain | .restore | .unpin | .exited => true
  | _ => false

/-- `main` is here only with its program attached. -/
def LoaderPc.afterAttach : LoaderPc → Bool
  | .verify | .publishBaseline | .publishApplying | .apply | .publishApplied | .measure
  | .detach => true
  | _ => false

theorem LoaderPc.not_afterAttach {pc : LoaderPc} (h : pc.mapless = true) :
    pc.afterAttach = false := by
  cases pc <;> first | rfl | cases h

/-- Nothing is in the map yet, and nothing depends on it. -/
structure Unconfigured (me : LoaderIdentity) (s : RecoverySystem) : Prop where
  map : s.map = none
  pinned : s.pinned = false
  attached : s.mem.attached = false
  mapsPinned : s.mem.mapsPinned = false
  preservePins : s.mem.preservePins = false
  pc : s.pc.mapless = true
  captured : s.pc = .load ∨ s.pc = .configureMaps → s.captured = true
  active : s.pc.unrestored = true → s.mem.hwtstamp.active = s.captured
  built : s.pc = .configureMaps →
    s.mem.runtime.recoveryAccepts me.ifindex = true ∧ Records s.mem.runtime s.mem.hwtstamp

/-- The map has the value `r`. Until the restore the loader's own copy is in step with its state,
and once the program is off, or was never on, so is the map. -/
structure Configured (me : LoaderIdentity) (s : RecoverySystem) (r : RuntimeConfig) : Prop where
  map : s.map = some r
  accepts : r.recoveryAccepts me.ifindex = true
  runtime : s.mem.runtime.recoveryAccepts me.ifindex = true
  active : s.pc.unrestored = true → s.mem.hwtstamp.active = true
  sync : s.pc.unrestored = true → Records s.mem.runtime s.mem.hwtstamp
  agree : s.pc.unrestored = true → s.mem.attached = false → Records r s.mem.hwtstamp
  published : s.pc = .apply ∨ s.pc = .detach → r = s.mem.runtime
  attached : s.pc.afterAttach = true → s.mem.attached = true
  pc : s.pc ≠ .capture ∧ s.pc ≠ .load ∧ s.pc ≠ .configureMaps

/-- What a recovery relies on: the loader is gone and the map records what it has read. -/
def RecoverPc.Follows (me : LoaderIdentity) (s : RecoverySystem) : RecoverPc → Prop
  | .idle => True
  | .read | .finish _ => s.pc = .exited
  | .checkOwner r | .publish r | .detach r | .restore r =>
    s.pc = .exited ∧ r.recoveryAccepts me.ifindex = true
      ∧ ∃ m, s.map = some m ∧ m.saved = r.saved ∧ m.effective = r.effective
  | .publishRestored r =>
    s.pc = .exited ∧ r.recoveryAccepts me.ifindex = true ∧ ∃ m, s.map = some m

/-- **The invariant.** -/
structure RecoveryInv (me : LoaderIdentity) (s : RecoverySystem) : Prop where
  loader : Unconfigured me s ∨ ∃ r, Configured me s r
  recovery : s.recovery.Follows me s

variable {me : LoaderIdentity} {s : RecoverySystem}

theorem RecoveryInv.idle (h : RecoveryInv me s) (hpc : s.pc ≠ .exited) : s.recovery = .idle := by
  have hrec := h.recovery
  cases hr : s.recovery with
  | idle => rfl
  | read | finish _ =>
    rw [hr] at hrec
    exact absurd hrec hpc
  | checkOwner _ | publish _ | detach _ | restore _ | publishRestored _ =>
    rw [hr] at hrec
    exact absurd hrec.1 hpc

theorem RecoveryInv.configured (h : RecoveryInv me s) (hpc : s.pc.mapless = false) :
    ∃ r, Configured me s r := by
  rcases h.loader with hu | hc
  · rw [hu.pc] at hpc
    cases hpc
  · exact hc

theorem RecoveryInv.configured_at {pc : LoaderPc} (h : RecoveryInv me s) (hpc : s.pc = pc)
    (hmap : pc.mapless = false) (hun : pc.unrestored = true) :
    ∃ r, Configured me s r ∧ s.pc.unrestored = true := by
  subst hpc
  obtain ⟨r, hc⟩ := h.configured hmap
  exact ⟨r, hc, hun⟩

theorem RecoveryInv.configured_of_attached (h : RecoveryInv me s)
    (hatt : s.mem.attached = true) : ∃ r, Configured me s r := by
  rcases h.loader with hu | hc
  · rw [hu.attached] at hatt
    cases hatt
  · exact hc

/-- A loader step owes the loader's part. -/
theorem RecoveryInv.loaderStep {s' : RecoverySystem} (h : RecoveryInv me s) (hpc : s.pc ≠ .exited)
    (hsame : s'.recovery = s.recovery) (hl : Unconfigured me s' ∨ ∃ r, Configured me s' r) :
    RecoveryInv me s' := by
  refine ⟨hl, ?_⟩
  rw [hsame, h.idle hpc]
  trivial

theorem RecoveryInv.frame {device : HwtstampConfig} {recovery : RecoverPc} (h : RecoveryInv me s)
    (hrec : recovery.Follows me s) :
    RecoveryInv me { s with device := device, recovery := recovery } := by
  refine ⟨?_, by cases recovery <;> exact hrec⟩
  rcases h.loader with hu | ⟨r, hc⟩
  · exact Or.inl ⟨hu.map, hu.pinned, hu.attached, hu.mapsPinned, hu.preservePins, hu.pc,
      hu.captured, hu.active, hu.built⟩
  · exact Or.inr ⟨r, hc.map, hc.accepts, hc.runtime, hc.active, hc.sync, hc.agree, hc.published,
      hc.attached, hc.pc⟩

theorem recoveryAccepts_initial (me : LoaderIdentity) (state : HwtstampState) :
    (me.runtime.setHwtstamp state false).recoveryAccepts me.ifindex = true := by
  have hid : (me.runtime.setHwtstamp state false).identified me.ifindex = true := by
    simp [RuntimeConfig.identified, RuntimeConfig.setHwtstamp, LoaderIdentity.runtime,
      me.capacity_ne_zero, me.capacity_le, me.program_ne_zero, me.pid_ne_zero, me.ticks_ne_zero]
  have hflags : RuntimeConfig.recoveryFlags (me.runtime.setHwtstamp state false).flags = true := by
    show RuntimeConfig.recoveryFlags ((modeFlags me.mode ||| runtimeCaptured)
      &&& ~~~(runtimeApplying ||| runtimeApplied)) = true
    cases me.mode <;> decide
  unfold RuntimeConfig.recoveryAccepts
  rw [hid, hflags]
  rfl

/-! ## The loader's steps

A step of `main` changes the program counter and one of memory, map or device. Four lemmas say what
is owed in each case: a jump, a write of the map, a change of the memory behind a configured map,
and a step before there is one. -/

theorem Unconfigured.goto {pc : LoaderPc} (h : Unconfigured me s) (hmapless : pc.mapless = true)
    (hearly : pc ≠ .load ∧ pc ≠ .configureMaps)
    (hun : pc.unrestored = true → s.pc.unrestored = true) :
    Unconfigured me { s with pc := pc } where
  map := h.map
  pinned := h.pinned
  attached := h.attached
  mapsPinned := h.mapsPinned
  preservePins := h.preservePins
  pc := hmapless
  captured hpc := (hpc.elim hearly.1 hearly.2).elim
  active hu := h.active (hun hu)
  built hpc := absurd hpc hearly.2

theorem Configured.goto {r : RuntimeConfig} {pc : LoaderPc} (h : Configured me s r)
    (hun : pc.unrestored = true → s.pc.unrestored = true)
    (hlate : pc.mapless = true)
    (hpc : pc ≠ .capture ∧ pc ≠ .load ∧ pc ≠ .configureMaps) :
    Configured me { s with pc := pc } r where
  map := h.map
  accepts := h.accepts
  runtime := h.runtime
  active hu := h.active (hun hu)
  sync hu := h.sync (hun hu)
  agree hu := h.agree (hun hu)
  published hp := by rcases hp with rfl | rfl <;> cases hlate
  attached ha := by
    rw [LoaderPc.not_afterAttach hlate] at ha
    cases ha
  pc := hpc

/-- A jump to a point where the map may be missing keeps the loader's part. -/
theorem RecoveryInv.jump {pc : LoaderPc} (h : RecoveryInv me s) (hexited : s.pc ≠ .exited)
    (hmapless : pc.mapless = true)
    (hearly : pc ≠ .capture ∧ pc ≠ .load ∧ pc ≠ .configureMaps)
    (hun : pc.unrestored = true → s.pc.unrestored = true) :
    RecoveryInv me { s with pc := pc } := by
  refine h.loaderStep hexited rfl ?_
  rcases h.loader with hu | ⟨r, hc⟩
  · exact Or.inl (hu.goto hmapless hearly.2 hun)
  · exact Or.inr ⟨r, hc.goto hun hmapless hearly⟩

theorem RecoveryInv.write {pc : LoaderPc} {r : RuntimeConfig} (h : RecoveryInv me s)
    (hc : Configured me s r) (hexited : s.pc ≠ .exited)
    (hun : pc.unrestored = true → s.pc.unrestored = true)
    (hatt : pc.afterAttach = true → s.pc.afterAttach = true)
    (hearly : pc ≠ .capture ∧ pc ≠ .load ∧ pc ≠ .configureMaps) :
    RecoveryInv me { s with map := some s.mem.runtime, pc := pc } := by
  refine h.loaderStep hexited rfl (Or.inr ⟨s.mem.runtime, ?_⟩)
  exact { map := rfl, accepts := hc.runtime, runtime := hc.runtime
          active := fun hu => hc.active (hun hu)
          sync := fun hu => hc.sync (hun hu)
          agree := fun hu _ => hc.sync (hun hu)
          published := fun _ => rfl
          attached := fun ha => hc.attached (hatt ha)
          pc := hearly }

theorem RecoveryInv.remember {pc : LoaderPc} {mem : LoaderMem} {device : HwtstampConfig}
    {r : RuntimeConfig} (h : RecoveryInv me s) (hmap : s.map = some r)
    (haccepts : r.recoveryAccepts me.ifindex = true) (hexited : s.pc ≠ .exited)
    (hruntime : mem.runtime.recoveryAccepts me.ifindex = true)
    (hactive : pc.unrestored = true → mem.hwtstamp.active = true)
    (hsync : pc.unrestored = true → Records mem.runtime mem.hwtstamp)
    (hagree : pc.unrestored = true → mem.attached = false → Records r mem.hwtstamp)
    (hatt : pc.afterAttach = true → mem.attached = true)
    (hpc : pc ≠ .capture ∧ pc ≠ .load ∧ pc ≠ .configureMaps ∧ pc ≠ .apply ∧ pc ≠ .detach) :
    RecoveryInv me { s with device := device, mem := mem, pc := pc } := by
  refine h.loaderStep hexited rfl (Or.inr ⟨r, ?_⟩)
  exact { map := hmap, accepts := haccepts, runtime := hruntime, active := hactive
          sync := hsync, agree := hagree
          published := fun hp => (hp.elim hpc.2.2.2.1 hpc.2.2.2.2).elim
          attached := hatt
          pc := ⟨hpc.1, hpc.2.1, hpc.2.2.1⟩ }

theorem RecoveryInv.forget {pc : LoaderPc} {mem : LoaderMem} {device : HwtstampConfig}
    (h : RecoveryInv me s) (hexited : s.pc ≠ .exited) (hu : Unconfigured me s)
    (hattached : mem.attached = false) (hpins : mem.mapsPinned = false)
    (hpreserve : mem.preservePins = false) (hlate : pc.mapless = true)
    (hactive : pc.unrestored = true → mem.hwtstamp.active = s.captured)
    (hpc : pc ≠ .load ∧ pc ≠ .configureMaps) :
    RecoveryInv me { s with device := device, mem := mem, pc := pc } := by
  refine h.loaderStep hexited rfl (Or.inl ?_)
  exact { map := hu.map, pinned := hu.pinned, attached := hattached, mapsPinned := hpins
          preservePins := hpreserve, pc := hlate
          captured := fun hp => (hp.elim hpc.1 hpc.2).elim
          active := hactive
          built := fun hp => absurd hp hpc.2 }

/-! ### `main` up to the measurement

Until the map is configured the loader has nothing on record; from then on the map holds a value
that a recovery accepts, and from `configureMaps` to the end of `main` each step either writes
the loader's own copy to it or changes the copy alone. -/

/-- A failed `SIOCGHWTSTAMP` leaves the state inactive and nothing to restore. -/
theorem RecoveryInv.captured (h : RecoveryInv me s) (hexited : s.pc ≠ .exited)
    (driver : HwtstampDriver) (hpc : s.pc = .capture) :
    RecoveryInv me { s with
      mem := { s.mem with hwtstamp := (hwtstampCapture driver s.device).1 }
      captured := decide ((hwtstampCapture driver s.device).2 = 0)
      pc := if (hwtstampCapture driver s.device).2 = 0 then .load else .out } := by
  rcases h.loader with hu | ⟨r, hc⟩
  · refine h.loaderStep hexited rfl (Or.inl ?_)
    unfold hwtstampCapture
    cases driver.getError with
    | some e =>
      have hneg : ¬ e.code = 0 := by have := e.code_neg; omega
      simp only [hneg, if_false, decide_false]
      exact ⟨hu.map, hu.pinned, hu.attached, hu.mapsPinned, hu.preservePins, rfl, by simp,
        fun _ => rfl, by simp⟩
    | none =>
      simp only [if_true, decide_true]
      exact ⟨hu.map, hu.pinned, hu.attached, hu.mapsPinned, hu.preservePins, rfl,
        fun _ => rfl, fun _ => rfl, by simp⟩
  · exact absurd hpc hc.pc.1

theorem RecoveryInv.loaded (h : RecoveryInv me s) (hexited : s.pc ≠ .exited)
    (hpc : s.pc = .load) :
    RecoveryInv me { s with
      mem := { s.mem with runtime := me.runtime.setHwtstamp s.mem.hwtstamp false }
      pc := .configureMaps } := by
  rcases h.loader with hu | ⟨r, hc⟩
  · refine h.loaderStep hexited rfl (Or.inl ?_)
    exact ⟨hu.map, hu.pinned, hu.attached, hu.mapsPinned, hu.preservePins, rfl,
      fun _ => hu.captured (Or.inl hpc),
      fun _ => hu.active (by rw [hpc]; rfl),
      fun _ => ⟨recoveryAccepts_initial me _, records_setHwtstamp _ _ _⟩⟩
  · exact absurd hpc hc.pc.2.1

/-- The first write of the map: what it holds is the loader's copy. -/
theorem RecoveryInv.mapsConfigured (h : RecoveryInv me s) (hexited : s.pc ≠ .exited)
    (hpc : s.pc = .configureMaps) :
    RecoveryInv me { s with map := some s.mem.runtime, pc := .pin } := by
  rcases h.loader with hu | ⟨r, hc⟩
  · obtain ⟨haccepts, hrecords⟩ := hu.built hpc
    refine h.loaderStep hexited rfl (Or.inr ⟨s.mem.runtime, ?_⟩)
    exact { map := rfl, accepts := haccepts, runtime := haccepts
            active := fun _ =>
              (hu.active (by rw [hpc]; rfl)).trans (hu.captured (Or.inr hpc))
            sync := fun _ => hrecords
            agree := fun _ _ => hrecords
            published := fun _ => rfl
            attached := fun ha => by cases ha
            pc := by simp }
  · exact absurd hpc hc.pc.2.2

theorem RecoveryInv.pin (h : RecoveryInv me s) (hexited : s.pc ≠ .exited) (hpc : s.pc = .pin) :
    RecoveryInv me
      { s with pinned := true, mem := { s.mem with mapsPinned := true }, pc := .attach } := by
  obtain ⟨r, hc, hun⟩ := h.configured_at hpc rfl rfl
  refine h.loaderStep hexited rfl (Or.inr ⟨r, ?_⟩)
  exact ⟨hc.map, hc.accepts, hc.runtime, fun _ => hc.active hun, fun _ => hc.sync hun,
    fun _ => hc.agree hun, by simp, by simp [LoaderPc.afterAttach], by simp⟩

/-- From the attach to the detach the map may lag behind the loader's copy. -/
theorem RecoveryInv.attach (h : RecoveryInv me s) (hexited : s.pc ≠ .exited)
    (hpc : s.pc = .attach) :
    RecoveryInv me { s with mem := { s.mem with attached := true }, pc := .verify } := by
  obtain ⟨r, hc, hun⟩ := h.configured_at hpc rfl rfl
  exact h.remember hc.map hc.accepts hexited hc.runtime (fun _ => hc.active hun)
    (fun _ => hc.sync hun) (fun _ ha => by cases ha) (fun _ => rfl) (by simp)

theorem RecoveryInv.verify (h : RecoveryInv me s) (hexited : s.pc ≠ .exited)
    (hpc : s.pc = .verify) :
    RecoveryInv me { s with
      mem := { s.mem with
        hwtstamp := (prepareRxAll s.mem.hwtstamp).1
        runtime := if (prepareRxAll s.mem.hwtstamp).2 = 0
          then s.mem.runtime.setHwtstampApplying (prepareRxAll s.mem.hwtstamp).1
          else s.mem.runtime }
      pc := if (prepareRxAll s.mem.hwtstamp).2 = 0 then .publishApplying else .out } := by
  obtain ⟨r, hc, hun⟩ := h.configured_at hpc rfl rfl
  have hactive := hc.active hun
  have hattached := hc.attached (by rw [hpc]; rfl)
  simp only [prepareRxAll, hactive, if_true]
  exact h.remember hc.map hc.accepts hexited
    (RuntimeConfig.recoveryAccepts_setHwtstampApplying _ hc.runtime) (fun _ => rfl)
    (fun _ => ⟨rfl, rfl⟩) (fun _ ha => by rw [hattached] at ha; cases ha)
    (fun _ => hattached) (by simp)

/-- A configuration newer than the captured one becomes the baseline. -/
theorem RecoveryInv.verifyChanged (h : RecoveryInv me s) (hexited : s.pc ≠ .exited)
    {state : HwtstampState} (hpc : s.pc = .verify)
    (hstate : state = { s.mem.hwtstamp with
      saved := s.device, effective := s.device, changed := false }) :
    RecoveryInv me { s with
      mem := { s.mem with hwtstamp := state, runtime := s.mem.runtime.setHwtstamp state false }
      pc := .publishBaseline } := by
  obtain ⟨r, hc, hun⟩ := h.configured_at hpc rfl rfl
  have hattached := hc.attached (by rw [hpc]; rfl)
  refine h.remember hc.map hc.accepts hexited
    (RuntimeConfig.recoveryAccepts_setHwtstamp _ _ hc.runtime) (fun _ => ?_)
    (fun _ => records_setHwtstamp _ _ _) (fun _ ha => by rw [hattached] at ha; cases ha)
    (fun _ => hattached) (by simp)
  rw [hstate]
  exact hc.active hun

/-- The device may change now, but what is on record of it does not. -/
theorem RecoveryInv.applied (h : RecoveryInv me s) (hexited : s.pc ≠ .exited)
    {driver : HwtstampDriver} (hexact : driver.Exact) {r : HwtstampResult} (hpc : s.pc = .apply)
    (hr : r = applyPreparedRxAll driver s.device s.mem.hwtstamp) :
    RecoveryInv me { s with
      device := r.device
      mem := { s.mem with
        hwtstamp := r.state
        runtime := if r.err = 0 then s.mem.runtime.setHwtstamp r.state true
          else s.mem.runtime }
      pc := if r.err = 0 then .publishApplied else .out } := by
  obtain ⟨m, hc, hun⟩ := h.configured_at hpc rfl rfl
  have hattached := hc.attached (by rw [hpc]; rfl)
  obtain ⟨hsaved, heffective, hactive, _⟩ :=
    applyPreparedRxAll_exact hexact s.device s.mem.hwtstamp
  rw [← hr] at hsaved heffective hactive
  refine h.remember hc.map hc.accepts hexited ?_ (fun _ => ?_) (fun _ => ?_)
    (fun _ ha => by rw [hattached] at ha; cases ha) (fun _ => hattached) ?_
  · dsimp only
    split
    · exact RuntimeConfig.recoveryAccepts_setHwtstamp _ _ hc.runtime
    · exact hc.runtime
  · rw [hactive]
    exact hc.active hun
  · dsimp only
    split
    · exact records_setHwtstamp _ _ _
    · exact ⟨(hc.sync hun).1.trans hsaved.symm, (hc.sync hun).2.trans heffective.symm⟩
  · split <;> simp

/-- Every call that can fail comes before the restore. -/
theorem RecoveryInv.failed (h : RecoveryInv me s) (hexited : s.pc ≠ .exited)
    (hpc : s.pc ∈ [LoaderPc.load, .configureMaps, .pin, .attach, .verify, .publishBaseline,
      .publishApplying, .publishApplied, .measure]) :
    RecoveryInv me { s with pc := .out } := by
  refine h.jump hexited rfl (by simp) (fun _ => ?_)
  simp only [List.mem_cons, List.not_mem_nil, or_false] at hpc
  rcases hpc with hpc | hpc | hpc | hpc | hpc | hpc | hpc | hpc | hpc <;> rw [hpc] <;> rfl

/-! ### `main` from the label `out`

The published `STOPPING` value is the loader's copy, so map and memory agree again when the
program comes off. -/

theorem RecoveryInv.outStopping (h : RecoveryInv me s) (hexited : s.pc ≠ .exited)
    (hpc : s.pc = .out) (hatt : s.mem.attached = true) :
    RecoveryInv me { s with
      mem := { s.mem with runtime := s.mem.runtime.markStopping }
      map := some s.mem.runtime.markStopping
      pc := .detach } := by
  obtain ⟨r, hc⟩ := h.configured_of_attached hatt
  have hun : s.pc.unrestored = true := by rw [hpc]; rfl
  have haccepts := RuntimeConfig.recoveryAccepts_markStopping hc.runtime
  refine h.loaderStep hexited rfl (Or.inr ⟨s.mem.runtime.markStopping, ?_⟩)
  exact ⟨rfl, haccepts, haccepts, fun _ => hc.active hun, fun _ => hc.sync hun,
    fun _ _ => hc.sync hun, fun _ => rfl, fun _ => hatt, by simp⟩

theorem RecoveryInv.outFails (h : RecoveryInv me s) (hexited : s.pc ≠ .exited)
    (hpc : s.pc = .out) (hatt : s.mem.attached = true) :
    RecoveryInv me { s with
      mem := { s.mem with
        runtime := s.mem.runtime.markStopping, preservePins := s.mem.mapsPinned }
      pc := .drain } := by
  obtain ⟨r, hc⟩ := h.configured_of_attached hatt
  have hun : s.pc.unrestored = true := by rw [hpc]; rfl
  exact h.remember hc.map hc.accepts hexited
    (RuntimeConfig.recoveryAccepts_markStopping hc.runtime) (fun _ => hc.active hun)
    (fun _ => hc.sync hun) (fun _ ha => by rw [hatt] at ha; cases ha)
    (by simp [LoaderPc.afterAttach]) (by simp)

theorem RecoveryInv.detached (h : RecoveryInv me s) (hexited : s.pc ≠ .exited)
    (hpc : s.pc = .detach) :
    RecoveryInv me { s with mem := { s.mem with attached := false }, pc := .drain } := by
  obtain ⟨r, hc, hun⟩ := h.configured_at hpc rfl rfl
  have hsync : Records r s.mem.hwtstamp := by
    rw [hc.published (Or.inr hpc)]
    exact hc.sync hun
  exact h.remember hc.map hc.accepts hexited hc.runtime (fun _ => hc.active hun)
    (fun _ => hc.sync hun) (fun _ _ => hsync) (by simp [LoaderPc.afterAttach]) (by simp)

theorem RecoveryInv.detachFails (h : RecoveryInv me s) (hexited : s.pc ≠ .exited)
    (hpc : s.pc = .detach) :
    RecoveryInv me
      { s with mem := { s.mem with preservePins := s.mem.mapsPinned }, pc := .drain } := by
  obtain ⟨r, hc, hun⟩ := h.configured_at hpc rfl rfl
  exact h.remember hc.map hc.accepts hexited hc.runtime (fun _ => hc.active hun)
    (fun _ => hc.sync hun) (fun _ => hc.agree hun) (by simp [LoaderPc.afterAttach]) (by simp)

theorem RecoveryInv.drained (h : RecoveryInv me s) (hexited : s.pc ≠ .exited) (ok : Bool)
    (hpc : s.pc = .drain) :
    RecoveryInv me { s with
      mem := { s.mem with preservePins :=
        if s.mem.measurementComplete && !s.mem.attached && !ok then s.mem.mapsPinned
        else s.mem.preservePins }
      pc := .restore } := by
  have hun : s.pc.unrestored = true := by rw [hpc]; rfl
  rcases h.loader with hu | ⟨r, hc⟩
  · exact h.forget hexited hu hu.attached hu.mapsPinned
      (by simp [hu.mapsPinned, hu.preservePins]) rfl (fun _ => hu.active hun) (by simp)
  · exact h.remember hc.map hc.accepts hexited hc.runtime (fun _ => hc.active hun)
      (fun _ => hc.sync hun) (fun _ => hc.agree hun) (by simp [LoaderPc.afterAttach]) (by simp)

/-- After the restore nothing is claimed about the memory: the loader only publishes and
unpins. -/
theorem RecoveryInv.deviceRestored (h : RecoveryInv me s) (hexited : s.pc ≠ .exited)
    (r : HwtstampResult) :
    RecoveryInv me { s with
      device := r.device
      mem := { s.mem with
        hwtstamp := r.state
        preservePins := if r.err = 0 then s.mem.preservePins else s.mem.mapsPinned
        runtime := if r.err = 0 ∧ s.mem.preservePins = true
          then s.mem.runtime.setHwtstamp r.state false else s.mem.runtime }
      pc := if r.err = 0 ∧ s.mem.preservePins = true then .publishRestored else .unpin } := by
  rcases h.loader with hu | ⟨m, hc⟩
  · simp only [hu.preservePins, hu.mapsPinned, Bool.false_eq_true, and_false, if_false,
      ite_self]
    exact h.forget hexited hu hu.attached rfl rfl rfl (by simp [LoaderPc.unrestored]) (by simp)
  · have hlate : (if r.err = 0 ∧ s.mem.preservePins = true then LoaderPc.publishRestored
        else .unpin).unrestored = false := by split <;> rfl
    refine h.remember hc.map hc.accepts hexited ?_ (fun hu => ?_) (fun hu => ?_)
      (fun hu => ?_) ?_ ?_
    · dsimp only
      split
      · exact RuntimeConfig.recoveryAccepts_setHwtstamp _ _ hc.runtime
      · exact hc.runtime
    · rw [hlate] at hu
      cases hu
    · rw [hlate] at hu
      cases hu
    · rw [hlate] at hu
      cases hu
    · split <;> simp [LoaderPc.afterAttach]
    · split <;> simp

theorem RecoveryInv.publishRestored (h : RecoveryInv me s) (hexited : s.pc ≠ .exited)
    (written : Bool) (hpc : s.pc = .publishRestored) :
    RecoveryInv me
      { s with map := if written then some s.mem.runtime else s.map, pc := .unpin } := by
  obtain ⟨r, hc⟩ := h.configured (by rw [hpc]; rfl)
  cases written with
  | false => exact h.jump hexited rfl (by simp) (by simp [LoaderPc.unrestored])
  | true =>
    exact h.write hc hexited (by simp [LoaderPc.unrestored]) (by simp [LoaderPc.afterAttach])
      (by simp)

theorem RecoveryInv.unpinned (h : RecoveryInv me s) (hexited : s.pc ≠ .exited)
    (hpins : s.mem.mapsPinned = true) (unpinned : Bool) :
    RecoveryInv me
      { s with pinned := if unpinned then false else s.pinned, pc := .exited } := by
  rcases h.loader with hu | ⟨r, hc⟩
  · rw [hu.mapsPinned] at hpins
    cases hpins
  · refine h.loaderStep hexited rfl (Or.inr ⟨r, ?_⟩)
    exact ⟨hc.map, hc.accepts, hc.runtime, by simp [LoaderPc.unrestored],
      by simp [LoaderPc.unrestored], by simp [LoaderPc.unrestored], by simp,
      by simp [LoaderPc.afterAttach], by simp⟩

/-- **The loader's steps keep the invariant**, one lemma for each. -/
theorem recoveryInv_loader {s' : RecoverySystem} {a : RecoveryAction} (h : RecoveryInv me s)
    (hstep : RecoveryStep me s a s') (hexited : s.pc ≠ .exited) : RecoveryInv me s' := by
  cases hstep with
  | outsider config => exact h.frame h.recovery
  | capture driver hpc => exact h.captured hexited driver hpc
  | load hpc => exact h.loaded hexited hpc
  | configureMaps hpc => exact h.mapsConfigured hexited hpc
  | pin hpc => exact h.pin hexited hpc
  | attach hpc => exact h.attach hexited hpc
  | verify hpc hsame => exact h.verify hexited hpc
  | verifyChanged hpc hne hstate => exact h.verifyChanged hexited hpc hstate
  | publishBaseline hpc | publishApplying hpc | publishApplied hpc =>
    obtain ⟨r, hc⟩ := h.configured (by rw [hpc]; rfl)
    exact h.write hc hexited (fun _ => by rw [hpc]; rfl) (fun _ => by rw [hpc]; rfl) (by simp)
  | apply driver hexact hpc hr => exact h.applied hexited hexact hpc hr
  | measure hpc =>
    obtain ⟨r, hc, hun⟩ := h.configured_at hpc rfl rfl
    exact h.remember hc.map hc.accepts hexited hc.runtime (fun _ => hc.active hun)
      (fun _ => hc.sync hun) (fun _ => hc.agree hun) (by simp [LoaderPc.afterAttach]) (by simp)
  | fail hpc => exact h.failed hexited hpc
  | outDetached hpc _ => exact h.jump hexited rfl (by simp) (fun _ => by rw [hpc]; rfl)
  | outStopping hpc hatt => exact h.outStopping hexited hpc hatt
  | outFails hpc hatt => exact h.outFails hexited hpc hatt
  | detach hpc => exact h.detached hexited hpc
  | detachFails hpc => exact h.detachFails hexited hpc
  | drain ok hpc => exact h.drained hexited ok hpc
  | restoreSkipped hpc _ => exact h.jump hexited rfl (by simp) (by simp [LoaderPc.unrestored])
  | restore driver hexact hpc hatt hr => exact h.deviceRestored hexited _
  | publishRestored written hpc => exact h.publishRestored hexited written hpc
  | unpin hpc hpins _ unpinned => exact h.unpinned hexited hpins unpinned
  | exit _ => exact h.jump hexited rfl (by simp) (by simp [LoaderPc.unrestored])
  | recoverStart hdead _ => exact absurd hdead hexited
  | recoverRead hr _ _ _ | recoverOwner hr _ | recoverPublish hr | recoverDetach hr
  | recoverNoState hr | recoverRestore _ _ hr _ _ | recoverPublishRestored _ hr
  | recoverCleanup hr =>
    -- no recovery acts while the loader is alive
    rw [h.idle hexited] at hr
    cases hr
  | recoverEnd => exact h.frame trivial

/-! ## The recovery's steps

A recovery runs after the loader's death and takes its word from the map. It may die as well, and
the next one starts from the map again. -/

theorem RecoveryInv.configured_of_map (h : RecoveryInv me s) {m : RuntimeConfig}
    (hmap : s.map = some m) : ∃ r, Configured me s r := by
  rcases h.loader with hu | hc
  · rw [hu.map] at hmap
    cases hmap
  · exact hc

theorem RecoveryInv.rewrite {m r : RuntimeConfig} {recovery : RecoverPc} (h : RecoveryInv me s)
    (hexited : s.pc = .exited) (hmap : s.map = some m)
    (haccepts : r.recoveryAccepts me.ifindex = true)
    (hrec : recovery.Follows me { s with map := some r, recovery := recovery }) :
    RecoveryInv me { s with map := some r, recovery := recovery } := by
  obtain ⟨_, hc⟩ := h.configured_of_map hmap
  have hlate : s.pc.unrestored = false := by rw [hexited]; rfl
  refine ⟨Or.inr ⟨r, ?_⟩, hrec⟩
  exact { map := rfl, accepts := haccepts, runtime := hc.runtime
          active := fun hu => by rw [hlate] at hu; cases hu
          sync := fun hu => by rw [hlate] at hu; cases hu
          agree := fun hu => by rw [hlate] at hu; cases hu
          published := by simp [hexited]
          attached := by simp [hexited, LoaderPc.afterAttach]
          pc := hc.pc }

/-- **Every step keeps the invariant.** -/
theorem recoveryInv_step {s' : RecoverySystem} {a : RecoveryAction} (h : RecoveryInv me s)
    (hstep : RecoveryStep me s a s') : RecoveryInv me s' := by
  by_cases hexited : s.pc = .exited
  · have hrec := h.recovery
    cases hstep with
    | outsider _ => exact h.frame hrec
    | recoverStart _ _ => exact h.frame hexited
    | @recoverRead r _ _ hmap haccept => exact h.frame ⟨hexited, haccept, r, hmap, rfl, rfl⟩
    | recoverOwner hr _ =>
      rw [hr] at hrec
      obtain ⟨_, haccepts, m, hmap, hsaved, heffective⟩ := hrec
      exact h.frame ⟨hexited, RuntimeConfig.recoveryAccepts_markStopping haccepts, m, hmap,
        hsaved, heffective⟩
    | @recoverPublish r hr =>
      -- what was read is written back with STOPPING: the configurations stay on record
      rw [hr] at hrec
      obtain ⟨_, haccepts, m, hmap, _⟩ := hrec
      exact h.rewrite hexited hmap haccepts ⟨hexited, haccepts, r, rfl, rfl, rfl⟩
    | recoverDetach hr =>
      rw [hr] at hrec
      exact h.frame hrec
    | recoverNoState _ => exact h.frame hexited
    | @recoverRestore driver hexact r state result hr hstate hresult =>
      rw [hr] at hrec
      obtain ⟨_, haccepts, m, hmap, _⟩ := hrec
      refine h.frame ?_
      split
      · exact ⟨hexited, RuntimeConfig.recoveryAccepts_markRestored haccepts, m, hmap⟩
      · exact hexited
    | @recoverPublishRestored r written hr =>
      rw [hr] at hrec
      obtain ⟨_, haccepts, m, hmap⟩ := hrec
      cases written with
      | false => exact h.frame hexited
      | true => exact h.rewrite hexited hmap haccepts hexited
    | recoverCleanup _ =>
      refine ⟨?_, trivial⟩
      rcases h.loader with hu | ⟨r, hc⟩
      · exact Or.inl ⟨hu.map, rfl, hu.attached, hu.mapsPinned, hu.preservePins, hu.pc,
          hu.captured, hu.active, hu.built⟩
      · exact Or.inr ⟨r, hc.map, hc.accepts, hc.runtime, hc.active, hc.sync, hc.agree,
          hc.published, hc.attached, hc.pc⟩
    | recoverEnd => exact h.frame trivial
    | exit hpc => exact absurd hexited hpc
    | fail hpc => simp [hexited] at hpc
    | capture _ hpc | load hpc | configureMaps hpc | pin hpc | attach hpc | verify hpc _
    | verifyChanged hpc _ _ | publishBaseline hpc | publishApplying hpc | apply _ _ hpc _
    | publishApplied hpc | measure hpc | outDetached hpc _ | outStopping hpc _ | outFails hpc _
    | detach hpc | detachFails hpc | drain _ hpc | restoreSkipped hpc _ | restore _ _ hpc _ _
    | publishRestored _ hpc | unpin hpc _ _ _ =>
      rw [hexited] at hpc
      cases hpc
  · exact recoveryInv_loader h hstep hexited

theorem recoveryInv_init (h : (recoverySystem me).init s) : RecoveryInv me s := by
  obtain ⟨device, rfl⟩ := h
  exact ⟨Or.inl ⟨rfl, rfl, rfl, rfl, rfl, rfl, by simp, fun _ => rfl, by simp⟩, trivial⟩

theorem recovery_invariant (hs : (recoverySystem me).Reachable s) : RecoveryInv me s :=
  hs.induct (fun _ hinit => recoveryInv_init hinit) fun _ _ _ _ h hstep =>
    recoveryInv_step h hstep

/-! ## The results

Whatever the interleaving, a restore puts back the configuration on record, and a recovery that is
started again can still do so. -/

/-- At the loader's restore the record is what the call works with, and an inactive state means
that there is none. -/
theorem RecoveryInv.recorded_of_restore (h : RecoveryInv me s) (hpc : s.pc = .restore)
    (hatt : s.mem.attached = false) :
    s.recorded = if s.mem.hwtstamp.active then
      some (s.mem.hwtstamp.saved, s.mem.hwtstamp.effective) else none := by
  have hun : s.pc.unrestored = true := by rw [hpc]; rfl
  unfold RecoverySystem.recorded
  rcases h.loader with hu | ⟨r, hc⟩
  · rw [hu.map, hu.active hun]
  · obtain ⟨hsaved, heffective⟩ := hc.agree hun hatt
    rw [hc.map, hc.active hun]
    simp [hsaved, heffective]

/-- A recovery restores from what is on record. -/
theorem RecoveryInv.recorded_of_recover {r : RuntimeConfig} (h : RecoveryInv me s)
    (hr : s.recovery = .restore r) : s.recorded = some (r.saved, r.effective) := by
  have hrec := h.recovery
  rw [hr] at hrec
  obtain ⟨_, _, m, hmap, hsaved, heffective⟩ := hrec
  unfold RecoverySystem.recorded
  rw [hmap]
  simp [hsaved, heffective]

/-- **Foreign configurations survive.** A step of the loader or of a recovery leaves the device
alone unless it has the saved or the effective configuration on record. -/
theorem RecoveryInv.device_kept {s' : RecoverySystem} {a : RecoveryAction}
    (h : RecoveryInv me s) (hstep : RecoveryStep me s a s') (ha : a ≠ .outsider)
    (hforeign : ∀ saved effective, s.recorded = some (saved, effective) →
      s.device ≠ saved ∧ s.device ≠ effective) : s'.device = s.device := by
  cases hstep with
  | outsider _ => exact absurd rfl ha
  | @apply driver hexact r hpc hr =>
    obtain ⟨m, hc⟩ := h.configured (by rw [hpc]; rfl)
    have hrecorded : s.recorded = some (m.saved, m.effective) := by
      unfold RecoverySystem.recorded
      rw [hc.map]
    have hsaved : m.saved = s.mem.hwtstamp.saved := by
      rw [hc.published (Or.inl hpc)]
      exact (hc.sync (by rw [hpc]; rfl)).1
    have hne := (hforeign _ _ hrecorded).1
    rw [hsaved] at hne
    rw [hr]
    exact (applyPreparedRxAll_exact hexact s.device s.mem.hwtstamp).2.2.2 hne
  | @restore driver hexact r hpc hatt hr =>
    have hrecorded := h.recorded_of_restore hpc hatt
    rw [hr]
    cases hactive : s.mem.hwtstamp.active with
    | false => simp [restoreAllowSaved, hactive]
    | true =>
      rw [hactive] at hrecorded
      obtain ⟨hsaved, heffective⟩ := hforeign _ _ hrecorded
      exact (restoreAllowSaved_exact hexact s.device s.mem.hwtstamp).1 hsaved heffective
  | @recoverRestore driver hexact r state result hr hstate hresult =>
    obtain ⟨hsaved, heffective⟩ := hforeign _ _ (h.recorded_of_recover hr)
    obtain ⟨hs, he, _⟩ := hwtstampStateFromRuntime_ok hstate
    rw [hresult]
    exact (restoreAllowSaved_exact hexact s.device state).1 (hs ▸ hsaved) (he ▸ heffective)
  | _ => rfl

/-- **A restore that returns 0 has restored.** -/
theorem RecoveryInv.restored {s' : RecoverySystem} {a : RecoveryAction} (h : RecoveryInv me s)
    (hstep : RecoveryStep me s a s') (ha : a = .loaderRestored ∨ a = .recoveryRestored)
    {saved effective : HwtstampConfig} (hrec : s'.recorded = some (saved, effective)) :
    s'.device = saved := by
  cases hstep with
  | @restore driver hexact r hpc hatt hr =>
    have hzero : r.err = 0 := by
      by_contra hne
      simp [restoreAction, hne] at ha
    obtain ⟨_, hdevice, hkept⟩ := restoreAllowSaved_exact hexact s.device s.mem.hwtstamp
    rw [← hr] at hdevice hkept
    have hun : s.pc.unrestored = true := by rw [hpc]; rfl
    rcases h.loader with hu | ⟨m, hc⟩
    · simp only [RecoverySystem.recorded, hu.map] at hrec
      split at hrec
      · rename_i hcap
        cases hrec
        rw [hkept]
        exact hdevice hzero ((hu.active hun).trans hcap)
      · cases hrec
    · simp only [RecoverySystem.recorded, hc.map] at hrec
      cases hrec
      rw [(hc.agree hun hatt).1]
      exact hdevice hzero (hc.active hun)
  | @recoverRestore driver hexact r state result hr hstate hresult =>
    have hzero : result.err = 0 := by
      by_contra hne
      simp [restoreAction, hne] at ha
    obtain ⟨hs, _, hactive⟩ := hwtstampStateFromRuntime_ok hstate
    have hdevice := (restoreAllowSaved_exact hexact s.device state).2.1
    rw [← hresult] at hdevice
    have hsame : s.recorded = some (saved, effective) := hrec
    rw [h.recorded_of_recover hr] at hsame
    cases hsame
    rw [← hs]
    exact hdevice hzero hactive
  | _ => simp at ha

/-- **A pinned value can be recovered from.** -/
theorem RecoveryInv.pinned_accepted (h : RecoveryInv me s) (hpinned : s.pinned = true) :
    ∃ r, s.map = some r ∧ r.recoveryAccepts me.ifindex = true := by
  rcases h.loader with hu | ⟨r, hc⟩
  · rw [hu.pinned] at hpinned
    cases hpinned
  · exact ⟨r, hc.map, hc.accepts⟩

/-- However often a recovery has crashed, the next one gets past its validation, with the same
configurations on record. -/
theorem recovery_restartable (hs : (recoverySystem me).Reachable s) (hpinned : s.pinned = true)
    (hdead : s.pc = .exited) (hidle : s.recovery = .idle) :
    ∃ r s', (recoverySystem me).Run s [.recovery, .recovery, .recovery, .recovery] s'
      ∧ s'.recovery = .detach r ∧ s'.recorded = s.recorded := by
  obtain ⟨r, hmap, haccepts⟩ := (recovery_invariant hs).pinned_accepted hpinned
  refine ⟨_, _, .cons (.recoverStart hdead hidle) (.cons (.recoverRead rfl hpinned hmap haccepts)
    (.cons (.recoverOwner rfl hdead) (.cons (.recoverPublish rfl) (.nil _)))), rfl, ?_⟩
  unfold RecoverySystem.recorded
  rw [hmap]
  rfl

/-- **HWTSTAMP crash recovery.** Whatever crashes where, in every state that can be reached: a
pinned value passes recovery's validation; no step of the loader or of a recovery overwrites a
device configuration that is neither the saved nor the effective one on record; and a restore
that returns 0 leaves the device in the saved configuration on record. -/
theorem hwtstamp_recovery (me : LoaderIdentity) (s : RecoverySystem)
    (hs : (recoverySystem me).Reachable s) :
    (s.pinned = true → ∃ r, s.map = some r ∧ r.recoveryAccepts me.ifindex = true)
      ∧ (∀ a s', (recoverySystem me).step s a s' → a ≠ .outsider →
          (∀ saved effective, s.recorded = some (saved, effective) →
            s.device ≠ saved ∧ s.device ≠ effective) → s'.device = s.device)
      ∧ ∀ a s', (recoverySystem me).step s a s' → a = .loaderRestored ∨ a = .recoveryRestored →
          ∀ saved effective, s'.recorded = some (saved, effective) → s'.device = saved := by
  have hinv := recovery_invariant hs
  exact ⟨fun hpinned => hinv.pinned_accepted hpinned,
    fun a s' hstep ha hforeign => hinv.device_kept hstep ha hforeign,
    fun a s' hstep ha saved effective hrec => hinv.restored hstep ha hrec⟩

/-- The loader dies after it has set the device and before it can publish that; the recovery
puts the captured configuration back. -/
theorem hwtstamp_recovery_after_apply :
    ∃ me : LoaderIdentity, ∃ s s' : RecoverySystem, (recoverySystem me).Reachable s
      ∧ (recoverySystem me).step s .recoveryRestored s' ∧ s.device = ⟨0, 1, hwtstampFilterAll⟩
      ∧ s'.device = ⟨0, 1, 0⟩ := by
  let me : LoaderIdentity := ⟨2, 1024, 7, 40, 500, .mixed, by decide, by decide, by decide,
    by decide, by decide⟩
  let driver : HwtstampDriver := ⟨none, .ok⟩
  have hexact : driver.Exact := fun _ _ h => by cases h; rfl
  let before : HwtstampConfig := ⟨0, 1, 0⟩
  let after : HwtstampConfig := ⟨0, 1, hwtstampFilterAll⟩
  let captured : HwtstampState := ⟨before, before, true, false⟩
  let prepared : HwtstampState := ⟨before, after, true, true⟩
  let r := me.runtime.setHwtstamp captured false
  let applying := r.setHwtstampApplying prepared
  let applied := applying.setHwtstamp prepared true
  have h0 : (recoverySystem me).Reachable ⟨before, none, false, false, .capture,
      ⟨me.runtime, ⟨⟨0, 0, 0⟩, ⟨0, 0, 0⟩, false, false⟩, false, false, false, false⟩, .idle⟩ :=
    .init ⟨before, rfl⟩
  have h1 : (recoverySystem me).Reachable ⟨before, none, false, true, .load,
      ⟨me.runtime, captured, false, false, false, false⟩, .idle⟩ := .step h0 (.capture driver rfl)
  have h2 : (recoverySystem me).Reachable ⟨before, none, false, true, .configureMaps,
      ⟨r, captured, false, false, false, false⟩, .idle⟩ := .step h1 (.load rfl)
  have h3 : (recoverySystem me).Reachable ⟨before, some r, false, true, .pin,
      ⟨r, captured, false, false, false, false⟩, .idle⟩ := .step h2 (.configureMaps rfl)
  have h4 : (recoverySystem me).Reachable ⟨before, some r, true, true, .attach,
      ⟨r, captured, false, true, false, false⟩, .idle⟩ := .step h3 (.pin rfl)
  have h5 : (recoverySystem me).Reachable ⟨before, some r, true, true, .verify,
      ⟨r, captured, true, true, false, false⟩, .idle⟩ := .step h4 (.attach rfl)
  have h6 : (recoverySystem me).Reachable ⟨before, some r, true, true, .publishApplying,
      ⟨applying, prepared, true, true, false, false⟩, .idle⟩ := .step h5 (.verify rfl rfl)
  have h7 : (recoverySystem me).Reachable ⟨before, some applying, true, true, .apply,
      ⟨applying, prepared, true, true, false, false⟩, .idle⟩ := .step h6 (.publishApplying rfl)
  have h8 : (recoverySystem me).Reachable ⟨after, some applying, true, true, .publishApplied,
      ⟨applied, prepared, true, true, false, false⟩, .idle⟩ :=
    .step h7 (.apply driver hexact rfl rfl)
  have h9 : (recoverySystem me).Reachable ⟨after, some applying, true, true, .exited,
      ⟨applied, prepared, true, true, false, false⟩, .idle⟩ := .step h8 (.exit (by simp))
  have h10 := Reachable.step h9 (.recoverStart rfl rfl)
  have h11 := Reachable.step h10 (.recoverRead rfl rfl rfl (by decide +kernel))
  have h12 := Reachable.step h11 (.recoverOwner rfl rfl)
  have h13 := Reachable.step h12 (.recoverPublish rfl)
  have h14 := Reachable.step h13 (.recoverDetach rfl)
  have hstate : hwtstampStateFromRuntime applying.markStopping = .ok prepared :=
    if_neg (by decide +kernel)
  have hstep : (recoverySystem me).step _ .recoveryRestored _ :=
    RecoveryStep.recoverRestore (s := ⟨after, some applying.markStopping, true, true, .exited,
      ⟨applied, prepared, true, true, false, false⟩, .restore applying.markStopping⟩)
      driver hexact rfl hstate rfl
  exact ⟨me, _, _, h14, hstep, rfl,
    (hwtstamp_recovery me _ h14).2.2 _ _ hstep (Or.inr rfl) _ _ rfl⟩

end AceXdp
