import AceXdp.Lib.ClaimTable
import AceXdp.Loader.Ownership

/-!
# AceXdp — safety of the XSK ownership protocol

The handshake is store-then-load on both sides: a receiver stores its claim and then loads
`STOPPING`, a controller stores `STOPPING` and then loads the claims. What has to be found is who
may still rely on a claim once both have started.

* `OwnershipState.claims`: that relation, an instance of `ClaimTable`;
* `OwnershipInv`: the table is sound, and what each controller has learned from it;
* `detach_without_receivers`: a detach finds no receiver in `xsk_map`, and none gets in later.
-/

namespace AceXdp

open Transition Transition.System

/-! ## Claims that are relied on

A receiver relies on its claim once it has read back a configuration without `STOPPING`; before
that, a claim may be swept without harm. The table is sound in this sense: only the owner that an
entry names relies on it. -/

/-- A receiver relies on its claim while nobody is stopping, and afterwards if it has passed the
re-read or its socket is in `xsk_map`. -/
def OwnershipState.claims (s : OwnershipState) : ClaimTable UInt32 XskOwner where
  owner := s.owners
  claimed self queue := ∃ pc, s.procs self = .live queue pc ∧ pc.claimed = true
  holds self queue := ∃ pc, s.procs self = .live queue pc ∧ pc.claimed = true
    ∧ (¬ s.runtime.Stopping ∨ pc.committed = true ∨ ∃ key, s.xskMap key = some self)

/-- What a controller knows where it is. -/
def OwnershipState.Knows (s : OwnershipState) : CtrlPc → Prop
  | .running _ | .readRuntime | .checkOwner _ | .exited | .reaped => True
  | .publish r => r.Stopping
  | .scan r (.liveness key owner) =>
    s.runtime.Stopping ∧ r.Stopping ∧ ∀ self, s.claims.holds self key → self = owner
  | .scan r (.delete key) => s.runtime.Stopping ∧ r.Stopping ∧ ∀ self, ¬ s.claims.holds self key
  | .scan r _ => s.runtime.Stopping ∧ r.Stopping
  | .queryProgram r | .queryOwned r | .detach r | .detached r =>
    s.runtime.Stopping ∧ r.Stopping ∧ ∀ self queue, ¬ s.claims.holds self queue

/-- **The invariant.** The claim table is sound; only a receiver that captures, or is about to
close its socket, is in `xsk_map`; `STOPPING` is nowhere while the loader runs, and no recovery
acts before the loader is gone. -/
structure OwnershipInv (s : OwnershipState) : Prop where
  sound : s.claims.Sound
  entry : ∀ {key self}, s.xskMap key = some self →
    ∃ pc, s.procs self = .live key pc ∧ pc.registered = true
  copy : ∀ {self queue pc r}, s.procs self = .live queue pc → pc.runtime = some r → ¬ r.Stopping
  running : ∀ {r}, s.ctrl .loader = .running r → ¬ s.runtime.Stopping ∧ ¬ r.Stopping
  solo : s.LoaderAlive → ∀ n, (s.ctrl (.recover n)).waiting = true
  knows : ∀ c, s.Knows (s.ctrl c)

/-- Once somebody is stopping, that stays so and no claim becomes relied on. -/
structure Evolves (s s' : OwnershipState) : Prop where
  stopping : s.runtime.Stopping → s'.runtime.Stopping
  holds : s.runtime.Stopping → ∀ {self queue}, s'.claims.holds self queue →
    s.claims.holds self queue

theorem OwnershipState.Knows.evolve {s s' : OwnershipState} {pc : CtrlPc} (h : s.Knows pc)
    (he : Evolves s s') : s'.Knows pc := by
  cases pc with
  | running _ | readRuntime | checkOwner _ | exited | reaped => trivial
  | publish r => exact h
  | scan r pc =>
    cases pc with
    | nextKey | lookup _ | relookup _ => exact ⟨he.stopping h.1, h.2⟩
    | liveness key owner =>
      exact ⟨he.stopping h.1, h.2.1, fun self hh => h.2.2 self (he.holds h.1 hh)⟩
    | delete key => exact ⟨he.stopping h.1, h.2.1, fun self hh => h.2.2 self (he.holds h.1 hh)⟩
  | queryProgram r | queryOwned r | detach r | detached r =>
    exact ⟨he.stopping h.1, h.2.1, fun self queue hh => h.2.2 self queue (he.holds h.1 hh)⟩

/-- A controller knows what its place says. -/
theorem OwnershipInv.knows_at {s : OwnershipState} (h : OwnershipInv s) {c : Controller}
    {pc : CtrlPc} (hpc : s.ctrl c = pc) : s.Knows pc :=
  hpc ▸ h.knows c

theorem OwnershipInv.not_registered {s : OwnershipState} (h : OwnershipInv s) {self : XskOwner}
    {queue : UInt32} {pc : RecvPc} (hpc : s.procs self = .live queue pc)
    (hreg : pc.registered = false) {key : UInt32} : s.xskMap key ≠ some self := by
  intro hkey
  obtain ⟨pc', hpc', hreg'⟩ := h.entry hkey
  rw [hpc] at hpc'
  cases hpc'
  rw [hreg] at hreg'
  cases hreg'

/-! ## Receiver steps

A receiver changes its own program counter and the entries under its own queue. What each of its
steps owes is what it claims to hold at the next point. -/

/-- What a receiver step leaves alone. -/
structure SameControl (s s' : OwnershipState) : Prop where
  runtime : s'.runtime = s.runtime
  ctrl : s'.ctrl = s.ctrl

/-- A receiver step owes the receivers' part of the invariant only. -/
theorem OwnershipInv.receiver {s s' : OwnershipState} (h : OwnershipInv s)
    (hsame : SameControl s s') (hsound : s'.claims.Sound)
    (hentry : ∀ {key self}, s'.xskMap key = some self →
      ∃ pc, s'.procs self = .live key pc ∧ pc.registered = true)
    (hcopy : ∀ {self queue pc r}, s'.procs self = .live queue pc → pc.runtime = some r →
      ¬ r.Stopping)
    (hholds : s.runtime.Stopping → ∀ {self queue}, s'.claims.holds self queue →
      s.claims.holds self queue) : OwnershipInv s' ∧ Evolves s s' := by
  have he : Evolves s s' := ⟨fun hs => by rw [hsame.runtime]; exact hs, hholds⟩
  refine ⟨⟨hsound, hentry, hcopy, ?_, ?_, ?_⟩, he⟩
  · intro r hr
    rw [hsame.ctrl] at hr
    rw [hsame.runtime]
    exact h.running hr
  · intro halive n
    rw [OwnershipState.LoaderAlive, hsame.ctrl] at halive
    rw [hsame.ctrl]
    exact h.solo halive n
  · intro c
    rw [hsame.ctrl]
    exact (h.knows c).evolve he

/-- One process changes its own state, and perhaps entries of its own socket. -/
structure Rewrites (s s' : OwnershipState) (who : XskOwner) (proc : RecvProc) : Prop
    extends SameControl s s' where
  procs : s'.procs = Function.update s.procs who proc
  others : ∀ {key other}, other ≠ who → s'.xskMap key = some other → s.xskMap key = some other

namespace Rewrites

variable {s s' : OwnershipState} {self : XskOwner} {proc : RecvProc}

theorem procs_self (h : Rewrites s s' self proc) : s'.procs self = proc := by
  rw [h.procs, Function.update_self]

theorem procs_other (h : Rewrites s s' self proc) {other : XskOwner} (hne : other ≠ self) :
    s'.procs other = s.procs other := by
  rw [h.procs, Function.update_of_ne hne]

theorem holds_other (h : Rewrites s s' self proc) {other : XskOwner} (hne : other ≠ self)
    {queue : UInt32} (hh : s'.claims.holds other queue) : s.claims.holds other queue := by
  obtain ⟨pc, hpc, hclaimed, hwhy⟩ := hh
  refine ⟨pc, by rw [← h.procs_other hne, hpc], hclaimed, ?_⟩
  rcases hwhy with hrun | hcom | ⟨key, hkey⟩
  · rw [h.runtime] at hrun
    exact Or.inl hrun
  · exact Or.inr (Or.inl hcom)
  · exact Or.inr (Or.inr ⟨key, h.others hne hkey⟩)

theorem claimed_other (h : Rewrites s s' self proc) {other : XskOwner} (hne : other ≠ self)
    {queue : UInt32} (hc : s'.claims.claimed other queue) : s.claims.claimed other queue := by
  obtain ⟨pc, hpc, hclaimed⟩ := hc
  exact ⟨pc, by rw [← h.procs_other hne, hpc], hclaimed⟩

theorem shrinks (h : Rewrites s s' self proc)
    (hclaimed : ∀ {queue}, s'.claims.claimed self queue → s.claims.claimed self queue)
    (hholds : ∀ {queue}, s'.claims.holds self queue → s.claims.holds self queue) :
    s.claims.Shrinks s'.claims where
  claimed {other queue} hc := by
    by_cases hne : other = self
    · subst hne
      exact hclaimed hc
    · exact h.claimed_other hne hc
  holds {other queue} hh := by
    by_cases hne : other = self
    · subst hne
      exact hholds hh
    · exact h.holds_other hne hh

theorem entry (h : Rewrites s s' self proc) (hinv : OwnershipInv s)
    (hself : ∀ {key}, s'.xskMap key = some self →
      ∃ pc, proc = .live key pc ∧ pc.registered = true) {key : UInt32} {other : XskOwner}
    (hkey : s'.xskMap key = some other) :
    ∃ pc, s'.procs other = .live key pc ∧ pc.registered = true := by
  by_cases hne : other = self
  · subst hne
    rw [h.procs_self]
    exact hself hkey
  · rw [h.procs_other hne]
    exact hinv.entry (h.others hne hkey)

theorem copy (h : Rewrites s s' self proc) (hinv : OwnershipInv s)
    (hself : ∀ {queue pc r}, proc = .live queue pc → pc.runtime = some r → ¬ r.Stopping)
    {other : XskOwner} {queue : UInt32} {pc : RecvPc} {r : RuntimeConfig}
    (hpc : s'.procs other = .live queue pc) (hr : pc.runtime = some r) : ¬ r.Stopping := by
  by_cases hne : other = self
  · subst hne
    rw [h.procs_self] at hpc
    exact hself hpc hr
  · rw [h.procs_other hne] at hpc
    exact hinv.copy hpc hr

/-- A process that only gives up beliefs of its own keeps the invariant. -/
theorem keeps (h : Rewrites s s' self proc) (hinv : OwnershipInv s) (howners : s'.owners = s.owners)
    (hclaimed : ∀ {queue}, s'.claims.claimed self queue → s.claims.claimed self queue)
    (hholds : ∀ {queue}, s'.claims.holds self queue → s.claims.holds self queue)
    (hentry : ∀ {key}, s'.xskMap key = some self →
      ∃ pc, proc = .live key pc ∧ pc.registered = true)
    (hcopy : ∀ {queue pc r}, proc = .live queue pc → pc.runtime = some r → ¬ r.Stopping) :
    OwnershipInv s' ∧ Evolves s s' := by
  have hshrink := h.shrinks hclaimed hholds
  refine hinv.receiver h.toSameControl (hinv.sound.shrink hshrink howners) ?_ ?_ ?_
  · intro key other hkey
    exact h.entry hinv hentry hkey
  · intro other queue pc r hpc hr
    exact h.copy hinv hcopy hpc hr
  · intro _ _ _ hh
    exact hshrink.holds hh

end Rewrites

/-- **A receiver moves on without touching a map.** It keeps its claim or gives it up, passes the
re-read only while nobody is stopping, and stays where a registered socket may be. -/
theorem OwnershipInv.move {s : OwnershipState} (h : OwnershipInv s) {self : XskOwner}
    {queue : UInt32} {pc pc' : RecvPc} (hpc : s.procs self = .live queue pc)
    (hclaimed : pc'.claimed = true → pc.claimed = true)
    (hcommitted : pc'.committed = true → pc.committed = true ∨ ¬ s.runtime.Stopping)
    (hregistered : pc.registered = true → pc'.registered = true)
    (hcopy : ∀ r, pc'.runtime = some r → ¬ r.Stopping) :
    OwnershipInv (s.setPc self queue pc') ∧ Evolves s (s.setPc self queue pc') := by
  have hrw : Rewrites s (s.setPc self queue pc') self (.live queue pc') :=
    ⟨⟨rfl, rfl⟩, rfl, fun _ hkey => hkey⟩
  refine hrw.keeps h rfl ?_ ?_ ?_ ?_
  · rintro q ⟨pc₁, hpc₁, hcl⟩
    rw [hrw.procs_self] at hpc₁
    cases hpc₁
    exact ⟨pc, hpc, hclaimed hcl⟩
  · rintro q ⟨pc₁, hpc₁, hcl, hwhy⟩
    rw [hrw.procs_self] at hpc₁
    cases hpc₁
    refine ⟨pc, hpc, hclaimed hcl, ?_⟩
    rcases hwhy with hrun | hcom | hkey
    · exact Or.inl hrun
    · exact (hcommitted hcom).elim (fun hc => Or.inr (Or.inl hc)) Or.inl
    · exact Or.inr (Or.inr hkey)
  · intro key hkey
    obtain ⟨pc₁, hpc₁, hreg⟩ := h.entry hkey
    rw [hpc] at hpc₁
    cases hpc₁
    exact ⟨pc', rfl, hregistered hreg⟩
  · intro q pc₁ r hp hr
    cases hp
    exact hcopy r hr

theorem OwnershipInv.start {s : OwnershipState} (h : OwnershipInv s) {self : XskOwner}
    (queue : UInt32) (hborn : s.procs self = .unborn) :
    OwnershipInv (s.setPc self queue .readRuntime)
      ∧ Evolves s (s.setPc self queue .readRuntime) := by
  have hrw : Rewrites s (s.setPc self queue .readRuntime) self (.live queue .readRuntime) :=
    ⟨⟨rfl, rfl⟩, rfl, fun _ hkey => hkey⟩
  -- before `readRuntime` it has claimed nothing and copied nothing
  have hnone : ∀ {q}, ¬ (s.setPc self queue .readRuntime).claims.claimed self q := by
    rintro q ⟨pc, hpc, hcl⟩
    rw [hrw.procs_self] at hpc
    cases hpc
    cases hcl
  refine hrw.keeps h rfl (fun hc => absurd hc hnone) ?_ ?_ ?_
  · rintro q ⟨pc, hpc, hcl, _⟩
    exact absurd ⟨pc, hpc, hcl⟩ hnone
  · intro key hkey
    obtain ⟨pc, hpc, _⟩ := h.entry hkey
    rw [hborn] at hpc
    cases hpc
  · intro q pc r hp hr
    cases hp
    cases hr

/-- **The claim.** While nobody is stopping it is relied on from the start; every other claim on
the queue would be too, so there is none. -/
theorem OwnershipInv.claim {s : OwnershipState} (h : OwnershipInv s) {self : XskOwner}
    {queue : UInt32} {r : RuntimeConfig} (hpc : s.procs self = .live queue (.claim r))
    (hfree : s.owners queue = none) :
    OwnershipInv ((s.setPc self queue (.reread r)).setOwner queue (some self))
      ∧ Evolves s ((s.setPc self queue (.reread r)).setOwner queue (some self)) := by
  set s' := (s.setPc self queue (.reread r)).setOwner queue (some self) with hs'
  have hrw : Rewrites s s' self (.live queue (.reread r)) :=
    ⟨⟨rfl, rfl⟩, rfl, fun _ hkey => hkey⟩
  have hunregistered : ∀ {key}, s.xskMap key ≠ some self := h.not_registered hpc rfl
  -- the claim is relied on only while nobody is stopping
  have hnew : ∀ {q}, s'.claims.holds self q → q = queue ∧ ¬ s.runtime.Stopping := by
    rintro q ⟨pc, hp, _, hwhy⟩
    rw [hrw.procs_self] at hp
    cases hp
    rcases hwhy with hrun | hcom | ⟨key, hkey⟩
    · exact ⟨rfl, hrun⟩
    · cases hcom
    · exact absurd hkey hunregistered
  refine h.receiver hrw.toSameControl ?_ ?_ ?_ ?_
  · refine h.sound.claim (i := self) (k := queue) hfree rfl ?_ ?_ ?_
    · intro other q hc
      by_cases hne : other = self
      · subst hne
        obtain ⟨pc, hp, _⟩ := hc
        rw [hrw.procs_self] at hp
        cases hp
        exact Or.inr ⟨rfl, rfl⟩
      · exact Or.inl (hrw.claimed_other hne hc)
    · intro other q hh
      by_cases hne : other = self
      · subst hne
        exact Or.inr ⟨rfl, (hnew hh).1⟩
      · exact Or.inl (hrw.holds_other hne hh)
    · rintro hh other ⟨pc, hp, hcl⟩
      exact ⟨pc, hp, hcl, Or.inl (hnew hh).2⟩
  · intro key other hkey
    exact hrw.entry h (fun hk => absurd hk hunregistered) hkey
  · intro other q pc r' hp hr
    refine hrw.copy h (fun {q pc r'} hp hr => ?_) hp hr
    cases hp
    cases hr
    exact h.copy hpc rfl
  · intro hstop other q hh
    by_cases hne : other = self
    · subst hne
      exact absurd hstop (hnew hh).2
    · exact hrw.holds_other hne hh

theorem OwnershipInv.register {s : OwnershipState} (h : OwnershipInv s) {self : XskOwner}
    {queue : UInt32} {r : RuntimeConfig} (hpc : s.procs self = .live queue (.register r)) :
    OwnershipInv ((s.setPc self queue .capture).setEntry queue self)
      ∧ Evolves s ((s.setPc self queue .capture).setEntry queue self) := by
  set s' := (s.setPc self queue .capture).setEntry queue self with hs'
  have hrw : Rewrites s s' self (.live queue .capture) := by
    refine ⟨⟨rfl, rfl⟩, rfl, fun {key other} hne hkey => ?_⟩
    by_cases hq : key = queue
    · subst hq
      have hself : s'.xskMap key = some self := Function.update_self ..
      rw [hself] at hkey
      exact absurd (Option.some.inj hkey).symm hne
    · rw [show s'.xskMap key = s.xskMap key from Function.update_of_ne hq ..] at hkey
      exact hkey
  refine hrw.keeps h rfl ?_ ?_ ?_ ?_
  · rintro q ⟨pc, hp, _⟩
    rw [hrw.procs_self] at hp
    cases hp
    exact ⟨_, hpc, rfl⟩
  -- it passed the re-read before it registers
  · rintro q ⟨pc, hp, _, _⟩
    rw [hrw.procs_self] at hp
    cases hp
    exact ⟨_, hpc, rfl, Or.inr (Or.inl rfl)⟩
  · intro key hkey
    by_cases hq : key = queue
    · subst hq
      exact ⟨_, rfl, rfl⟩
    · rw [show s'.xskMap key = s.xskMap key from Function.update_of_ne hq ..] at hkey
      exact absurd hkey (h.not_registered hpc rfl)
  · intro q pc r' hp hr
    cases hp
    cases hr

/-- A closed socket has left `xsk_map`, and only that socket has. -/
theorem OwnershipState.dropEntries_xskMap (s : OwnershipState) (self : XskOwner) {key : UInt32}
    {other : XskOwner} (h : (s.dropEntries self).xskMap key = some other) :
    other ≠ self ∧ s.xskMap key = some other := by
  unfold OwnershipState.dropEntries at h
  dsimp only at h
  split at h
  · cases h
  · rename_i hne
    refine ⟨?_, h⟩
    rintro rfl
    exact hne h

/-- **The socket is closed**, by a process that goes on to release its claim or by its death. -/
theorem OwnershipInv.close {s s' : OwnershipState} (h : OwnershipInv s) {self : XskOwner}
    {queue : UInt32} {pc : RecvPc} {proc : RecvProc} (hpc : s.procs self = .live queue pc)
    (hprocs : s'.procs = Function.update s.procs self proc)
    (hmap : s'.xskMap = (s.dropEntries self).xskMap) (howners : s'.owners = s.owners)
    (hsame : SameControl s s')
    (hproc : ∀ {q pc'}, proc = .live q pc' → q = queue ∧ pc'.committed = false
      ∧ pc'.runtime = none ∧ (pc'.claimed = true → pc.claimed = true)) :
    OwnershipInv s' ∧ Evolves s s' := by
  have hdropped : ∀ {key other}, s'.xskMap key = some other →
      other ≠ self ∧ s.xskMap key = some other := by
    intro key other hkey
    rw [hmap] at hkey
    exact s.dropEntries_xskMap self hkey
  have hrw : Rewrites s s' self proc := ⟨hsame, hprocs, fun _ hkey => (hdropped hkey).2⟩
  refine hrw.keeps h howners ?_ ?_ ?_ ?_
  · rintro q ⟨pc', hp, hcl⟩
    rw [hrw.procs_self] at hp
    obtain ⟨rfl, _, _, hclaimed⟩ := hproc hp
    exact ⟨pc, hpc, hclaimed hcl⟩
  -- a claim relied on for being committed or in the map no longer is
  · rintro q ⟨pc', hp, hcl, hwhy⟩
    rw [hrw.procs_self] at hp
    obtain ⟨rfl, hcommitted, _, hclaimed⟩ := hproc hp
    refine ⟨pc, hpc, hclaimed hcl, ?_⟩
    rcases hwhy with hrun | hcom | ⟨key, hkey⟩
    · rw [hsame.runtime] at hrun
      exact Or.inl hrun
    · rw [hcommitted] at hcom
      cases hcom
    · exact absurd rfl (hdropped hkey).1
  · intro key hkey
    exact absurd rfl (hdropped hkey).1
  · intro q pc' r hp hr
    rw [(hproc hp).2.2.1] at hr
    cases hr

/-- **The release.** Whoever relies on the queue's claim is the releasing process itself. -/
theorem OwnershipInv.release {s : OwnershipState} (h : OwnershipInv s) {self : XskOwner}
    {queue : UInt32} (hpc : s.procs self = .live queue .releaseDelete) :
    OwnershipInv ((s.setPc self queue .leave).setOwner queue none)
      ∧ Evolves s ((s.setPc self queue .leave).setOwner queue none) := by
  set s' := (s.setPc self queue .leave).setOwner queue none with hs'
  have hrw : Rewrites s s' self (.live queue .leave) := ⟨⟨rfl, rfl⟩, rfl, fun _ hkey => hkey⟩
  -- the releasing process no longer counts its claim
  have hgone : ∀ {q}, ¬ s'.claims.claimed self q := by
    rintro q ⟨pc, hp, hcl⟩
    rw [hrw.procs_self] at hp
    cases hp
    cases hcl
  have hshrink : s.claims.Shrinks s'.claims := by
    refine hrw.shrinks (fun hc => absurd hc hgone) ?_
    rintro q ⟨pc, hp, hcl, _⟩
    exact absurd ⟨pc, hp, hcl⟩ hgone
  refine h.receiver hrw.toSameControl (h.sound.drop hshrink rfl ?_) ?_ ?_ ?_
  · rintro other hh
    have hsole : self = other := h.sound.sole ⟨_, hpc, rfl⟩ (hshrink.holds hh)
    subst hsole
    obtain ⟨pc, hp, hcl, _⟩ := hh
    exact hgone ⟨pc, hp, hcl⟩
  · intro key other hkey
    exact hrw.entry h (fun hk => absurd hk (h.not_registered hpc rfl)) hkey
  · intro other q pc r hp hr
    refine hrw.copy h (fun {q pc r} hp hr => ?_) hp hr
    cases hp
    cases hr
  · intro _ _ _ hh
    exact hshrink.holds hh

/-! ## Controller steps

A controller is the loader in its shutdown, or a recovery after the loader's death. It publishes
`STOPPING`, sweeps the claims of dead owners and detaches when the table is empty. -/

/-- What a controller step leaves alone, and how the controller moves. -/
structure Controls (s s' : OwnershipState) (c : Controller) (pc : CtrlPc) : Prop where
  procs : s'.procs = s.procs
  xskMap : s'.xskMap = s.xskMap
  ctrl : s'.ctrl = Function.update s.ctrl c pc
  alive : s.ctrl c ≠ .reaped
  quits : ∀ r, pc ≠ .running r
  waits : (s.ctrl c).waiting = true → pc.waiting = true ∨ ¬ s.LoaderAlive

/-- **A controller step** owes soundness of the table and what the controller knows next. -/
theorem OwnershipInv.control {s s' : OwnershipState} (h : OwnershipInv s) {c : Controller}
    {pc : CtrlPc} (hc : Controls s s' c pc) (hsound : s'.claims.Sound) (he : Evolves s s')
    (hknows : s'.Knows pc)
    (hrun : ∀ {r}, s.ctrl .loader = .running r → ¬ s'.runtime.Stopping) :
    OwnershipInv s' ∧ Evolves s s' := by
  have hself : s'.ctrl c = pc := by rw [hc.ctrl, Function.update_self]
  have hother : ∀ {d}, d ≠ c → s'.ctrl d = s.ctrl d := fun hd => by
    rw [hc.ctrl, Function.update_of_ne hd]
  -- a controller that acts was not reaped, so the loader cannot come back to life
  have halive : s'.LoaderAlive → s.LoaderAlive := by
    intro halive hreaped
    by_cases hcl : Controller.loader = c
    · subst hcl
      exact hc.alive hreaped
    · exact halive (by rw [hother hcl, hreaped])
  refine ⟨⟨hsound, ?_, ?_, ?_, ?_, ?_⟩, he⟩
  · intro key other hkey
    rw [hc.xskMap] at hkey
    rw [hc.procs]
    exact h.entry hkey
  · intro other q pc' r hp hr
    rw [hc.procs] at hp
    exact h.copy hp hr
  · intro r hr
    by_cases hcl : Controller.loader = c
    · rw [hcl, hself] at hr
      exact absurd hr (hc.quits r)
    · rw [hother hcl] at hr
      exact ⟨hrun hr, (h.running hr).2⟩
  · intro hl n
    by_cases hcn : Controller.recover n = c
    · rw [hcn, hself]
      have hwaiting : (s.ctrl c).waiting = true := by rw [← hcn]; exact h.solo (halive hl) n
      exact (hc.waits hwaiting).resolve_right (fun hd => hd (halive hl))
    · rw [hother hcn]
      exact h.solo (halive hl) n
  · intro d
    by_cases hd : d = c
    · rw [hd, hself]
      exact hknows
    · rw [hother hd]
      exact (h.knows d).evolve he

theorem OwnershipInv.quiet {s : OwnershipState} (h : OwnershipInv s) {c : Controller}
    {pc : CtrlPc} (halive : s.ctrl c ≠ .reaped) (hquits : ∀ r, pc ≠ .running r)
    (hwaits : (s.ctrl c).waiting = true → pc.waiting = true ∨ ¬ s.LoaderAlive)
    (hknows : s.Knows pc) : OwnershipInv (s.setCtrl c pc) ∧ Evolves s (s.setCtrl c pc) := by
  have he : Evolves s (s.setCtrl c pc) := ⟨fun hs => hs, fun _ _ _ hh => hh⟩
  exact h.control ⟨rfl, rfl, rfl, halive, hquits, hwaits⟩ h.sound he (hknows.evolve he)
    fun hr => (h.running hr).1

/-- Setting `STOPPING` makes some claims unreliable and none reliable. -/
theorem shrinks_setRuntime (s : OwnershipState) {r : RuntimeConfig} (hr : r.Stopping) :
    s.claims.Shrinks (s.setRuntime r).claims where
  claimed hc := hc
  holds := by
    rintro other q ⟨pc, hp, hcl, hwhy⟩
    refine ⟨pc, hp, hcl, ?_⟩
    rcases hwhy with hrun | hrest
    · exact absurd hr hrun
    · exact Or.inr hrest

/-- **A controller publishes a stopping configuration.** -/
theorem OwnershipInv.publish {s : OwnershipState} (h : OwnershipInv s) {c : Controller}
    {pc : CtrlPc} {r : RuntimeConfig} (hr : r.Stopping) (hacts : (s.ctrl c).waiting = false)
    (hrunning : ∀ r, s.ctrl c ≠ .running r) (hquits : ∀ r, pc ≠ .running r)
    (hknows : (s.setRuntime r).Knows pc) :
    OwnershipInv ((s.setRuntime r).setCtrl c pc)
      ∧ Evolves s ((s.setRuntime r).setCtrl c pc) := by
  have halive : s.ctrl c ≠ .reaped := fun hreaped => by
    rw [hreaped] at hacts
    cases hacts
  have hshrink := shrinks_setRuntime s hr
  refine h.control ⟨rfl, rfl, rfl, halive, hquits, fun hw => ?_⟩ (h.sound.shrink hshrink rfl)
    ⟨fun _ => hr, fun _ _ _ hh => hshrink.holds hh⟩
    (hknows.evolve ⟨fun hs => hs, fun _ _ _ hh => hh⟩) ?_
  · rw [hacts] at hw
    cases hw
  -- a running loader is not this controller, and no recovery acts beside it
  · intro r' hr'
    exfalso
    cases c with
    | loader => exact hrunning r' hr'
    | recover n =>
      have hwaiting := h.solo (fun hreaped => by rw [hr'] at hreaped; cases hreaped) n
      rw [hacts] at hwaiting
      cases hwaiting

/-- **The sweep removes a dead owner's claim**, or a younger one that nobody relies on. -/
theorem OwnershipInv.sweep {s : OwnershipState} (h : OwnershipInv s) {c : Controller}
    {r : RuntimeConfig} {key : UInt32} (hpc : s.ctrl c = .scan r (.delete key)) :
    OwnershipInv ((s.setOwner key none).setCtrl c (.scan r .nextKey))
      ∧ Evolves s ((s.setOwner key none).setCtrl c (.scan r .nextKey)) := by
  obtain ⟨hstop, hr, hnone⟩ := h.knows_at hpc
  refine h.control ⟨rfl, rfl, rfl, ?_, by simp, ?_⟩
    (h.sound.drop ⟨fun hc => hc, fun hh => hh⟩ rfl hnone) ⟨fun hs => hs, fun _ _ _ hh => hh⟩
    ⟨hstop, hr⟩ fun hr' => (h.running hr').1
  · rw [hpc]
    simp
  · intro hw
    rw [hpc] at hw
    cases hw

/-- The loader publishes a later stage of its start-up: nobody is stopping before or after. -/
theorem OwnershipInv.startUp {s : OwnershipState} (h : OwnershipInv s) {r r' : RuntimeConfig}
    (written : Bool) (hpc : s.ctrl .loader = .running r) (hr' : ¬ r'.Stopping) :
    OwnershipInv ((s.setRuntime (if written then r' else s.runtime)).setCtrl .loader (.running r'))
      ∧ Evolves s
        ((s.setRuntime (if written then r' else s.runtime)).setCtrl .loader (.running r')) := by
  obtain ⟨hrun, _⟩ := h.running hpc
  set s' := (s.setRuntime (if written then r' else s.runtime)).setCtrl .loader (.running r')
    with hs'
  have hrun' : ¬ s'.runtime.Stopping := by
    cases written with
    | false => exact hrun
    | true => exact hr'
  -- nobody was stopping, so every claim was relied on already
  have hsame : s.claims.Shrinks s'.claims := by
    refine ⟨fun hc => hc, ?_⟩
    rintro other q ⟨pc, hp, hcl, _⟩
    exact ⟨pc, hp, hcl, Or.inl hrun⟩
  have halive : s.LoaderAlive := fun hreaped => by
    rw [hpc] at hreaped
    cases hreaped
  refine ⟨⟨h.sound.shrink hsame rfl, h.entry, h.copy, ?_, ?_, ?_⟩,
    fun hs => absurd hs hrun, fun hs => absurd hs hrun⟩
  · intro r₁ hr₁
    have hpc' : s'.ctrl .loader = .running r' := by simp [hs', OwnershipState.setCtrl]
    rw [hpc'] at hr₁
    cases hr₁
    exact ⟨hrun', hr'⟩
  · intro _ n
    exact h.solo halive n
  · intro c
    cases c with
    | loader => trivial
    | recover n =>
      -- a recovery beside a live loader has read the map at most
      have hwaiting := h.solo halive n
      show s'.Knows (s.ctrl (.recover n))
      cases hn : s.ctrl (.recover n) with
      | readRuntime | checkOwner _ | exited | reaped => trivial
      | running _ | publish _ | scan _ _ | queryProgram _ | queryOwned _ | detach _
      | detached _ =>
        rw [hn] at hwaiting
        cases hwaiting

/-! ## One lemma for each action

What is left for a step is what it knows next. A receiver's copy never carries `STOPPING` before
it registers; a controller past its update knows that the map does, and what it has read of the
table tells it who may still rely on the key in its hand. -/

section Actions

variable {s : OwnershipState} {self : XskOwner} {queue : UInt32} {c : Controller}
  {r : RuntimeConfig} {key : UInt32} {owner : XskOwner}

theorem OwnershipInv.readRuntime {ifindex : UInt32} (h : OwnershipInv s)
    (hpc : s.procs self = .live queue .readRuntime)
    (haccept : s.runtime.receiverAccepts ifindex = true) :
    OwnershipInv (s.setPc self queue (.requireOwner s.runtime))
      ∧ Evolves s (s.setPc self queue (.requireOwner s.runtime)) := by
  refine h.move hpc (by simp [RecvPc.claimed]) (by simp [RecvPc.committed])
    (by simp [RecvPc.registered]) ?_
  rintro r hr
  cases hr
  exact RuntimeConfig.not_stopping_of_receiverAccepts haccept

/-- The copy has no `STOPPING`, so neither has the map it is compared with. -/
theorem OwnershipInv.reread (h : OwnershipInv s) (hpc : s.procs self = .live queue (.reread r))
    (hsame : s.runtime = r) :
    OwnershipInv (s.setPc self queue (.requireOwnerAgain r))
      ∧ Evolves s (s.setPc self queue (.requireOwnerAgain r)) := by
  have hcopy := h.copy hpc rfl
  refine h.move hpc (fun _ => rfl) (fun _ => Or.inr ?_) (by simp [RecvPc.registered])
    fun r hr => h.copy hpc hr
  rw [hsame]
  exact hcopy

theorem OwnershipInv.bail {pc : RecvPc} (h : OwnershipInv s)
    (hpc : s.procs self = .live queue pc) :
    OwnershipInv (s.setPc self queue pc.bail) ∧ Evolves s (s.setPc self queue pc.bail) := by
  refine h.move hpc ?_ ?_ ?_ ?_ <;> cases pc <;>
    simp [RecvPc.bail, RecvPc.claimed, RecvPc.committed, RecvPc.registered, RecvPc.runtime]

theorem OwnershipInv.closeSocket {claimed : Bool} (h : OwnershipInv s)
    (hpc : s.procs self = .live queue (.closeSocket claimed)) :
    OwnershipInv
        ((s.setPc self queue (if claimed then .releaseLookup else .leave)).dropEntries self)
      ∧ Evolves s
        ((s.setPc self queue (if claimed then .releaseLookup else .leave)).dropEntries self) := by
  refine h.close hpc rfl rfl rfl ⟨rfl, rfl⟩ ?_
  intro q pc' hp
  cases hp
  cases claimed <;> simp [RecvPc.claimed, RecvPc.committed, RecvPc.runtime]

theorem OwnershipInv.die {pc : RecvPc} (h : OwnershipInv s)
    (hpc : s.procs self = .live queue pc) :
    OwnershipInv ((s.bury self).dropEntries self)
      ∧ Evolves s ((s.bury self).dropEntries self) := by
  refine h.close hpc rfl rfl rfl ⟨rfl, rfl⟩ ?_
  intro q pc' hp
  cases hp

/-- The table is sound: only the owner read there can rely on the key. -/
theorem OwnershipInv.lookup (h : OwnershipInv s) (hpc : s.ctrl c = .scan r (.lookup key))
    (hown : s.owners key = some owner) :
    OwnershipInv (s.setCtrl c (.scan r (.liveness key owner)))
      ∧ Evolves s (s.setCtrl c (.scan r (.liveness key owner))) := by
  have hknown := h.knows_at hpc
  exact h.quiet (by simp [hpc]) (by simp) (by simp [hpc, CtrlPc.waiting])
    ⟨hknown.1, hknown.2, fun _ hh => h.sound.holder_of_owner hown hh⟩

/-- Only the owner could rely on the claim, and it is dead. -/
theorem OwnershipInv.ownerDead (h : OwnershipInv s)
    (hpc : s.ctrl c = .scan r (.liveness key owner)) (hdead : ¬ s.Live owner) :
    OwnershipInv (s.setCtrl c (.scan r (.delete key)))
      ∧ Evolves s (s.setCtrl c (.scan r (.delete key))) := by
  obtain ⟨hstop, hr, honly⟩ := h.knows_at hpc
  refine h.quiet (by simp [hpc]) (by simp) (by simp [hpc, CtrlPc.waiting]) ⟨hstop, hr, ?_⟩
  intro self hh
  have howner := honly self hh
  obtain ⟨pc, hp, _⟩ := hh
  rw [howner] at hp
  exact hdead ⟨key, pc, hp⟩

/-- **An empty table leaves nothing to rely on**, and as the map is stopping nothing will be. -/
theorem OwnershipInv.scanEnd (h : OwnershipInv s) (hpc : s.ctrl c = .scan r .nextKey)
    (hempty : ∀ key, s.owners key = none) :
    OwnershipInv (s.setCtrl c (if c = .loader then .queryOwned r else .queryProgram r))
      ∧ Evolves s (s.setCtrl c (if c = .loader then .queryOwned r else .queryProgram r)) := by
  have hknown := h.knows_at hpc
  have hnone : ∀ self queue, ¬ s.claims.holds self queue := fun self queue =>
    h.sound.not_holds_of_free (hempty queue) self
  refine h.quiet (by simp [hpc]) ?_ (by simp [hpc, CtrlPc.waiting]) ?_
  · intro r'
    split <;> simp
  · split
    · exact ⟨hknown.1, hknown.2, hnone⟩
    · exact ⟨hknown.1, hknown.2, hnone⟩

theorem OwnershipInv.detached (h : OwnershipInv s) (hpc : s.ctrl c = .detach r) :
    OwnershipInv ({ s with attached := 0 }.setCtrl c (.detached r))
      ∧ Evolves s ({ s with attached := 0 }.setCtrl c (.detached r)) := by
  have hknown := h.knows_at hpc
  exact h.control ⟨rfl, rfl, rfl, by simp [hpc], by simp, by simp [hpc, CtrlPc.waiting]⟩
    h.sound ⟨fun hs => hs, fun _ _ _ hh => hh⟩ hknown fun hr => (h.running hr).1

/-- The value published after the restore keeps `STOPPING`. -/
theorem OwnershipInv.publishRestored {r' : RuntimeConfig} {state : HwtstampState}
    (h : OwnershipInv s) (hpc : s.ctrl c = .detached r)
    (hr' : r' = if c = .loader then r.setHwtstamp state false else r.markRestored) :
    OwnershipInv ((s.setRuntime r').setCtrl c (.detached r'))
      ∧ Evolves s ((s.setRuntime r').setCtrl c (.detached r')) := by
  obtain ⟨_, hr, hnone⟩ := h.knows_at hpc
  have hstop : r'.Stopping := by
    rw [hr']
    split
    · simpa using hr
    · simpa using hr
  exact h.publish hstop (by simp [hpc, CtrlPc.waiting]) (by simp [hpc]) (by simp)
    ⟨hstop, hstop, fun self queue hh =>
      hnone self queue ((shrinks_setRuntime s hstop).holds hh)⟩

end Actions

/-! ## Every step

The lemmas above cover the actions; the theorem is the table of them. -/

theorem ownershipInv_init {ifindex : UInt32} {s : OwnershipState}
    (h : (ownershipSystem ifindex).init s) : OwnershipInv s := by
  obtain ⟨runtime, attached, hrun, rfl⟩ := h
  refine ⟨⟨?_, ?_⟩, ?_, ?_, ?_, ?_, ?_⟩
  · rintro other q ⟨pc, hp, _⟩
    cases hp
  · rintro other other' q ⟨pc, hp, _⟩
    cases hp
  · intro key other hkey
    cases hkey
  · intro other q pc r hp
    cases hp
  · intro r hr
    cases hr
    exact ⟨hrun, hrun⟩
  · intro _ n
    rfl
  · intro c
    cases c with
    | loader => trivial
    | recover n => trivial

/-- **Every step keeps the invariant**, and once somebody is stopping no claim becomes relied
on. -/
theorem ownershipInv_step {ifindex : UInt32} {s s' : OwnershipState} {a : OwnershipAction}
    (h : OwnershipInv s) (hstep : OwnershipStep ifindex s a s') :
    OwnershipInv s' ∧ Evolves s s' := by
  cases hstep with
  | start queue hborn _ _ => exact h.start queue hborn
  | readRuntime hpc haccept => exact h.readRuntime hpc haccept
  | requireOwner hpc _ | validateProgram hpc _ | createSocket hpc =>
    exact h.move hpc (by simp [RecvPc.claimed]) (by simp [RecvPc.committed])
      (by simp [RecvPc.registered]) fun r hr => h.copy hpc hr
  | claim hpc hfree => exact h.claim hpc hfree
  | reread hpc hsame => exact h.reread hpc hsame
  | requireOwnerAgain hpc _ | validateProgramAgain hpc _ =>
    exact h.move hpc (fun _ => rfl) (fun _ => Or.inl rfl) (by simp [RecvPc.registered])
      fun r hr => h.copy hpc hr
  | register hpc _ => exact h.register hpc
  | bail hpc => exact h.bail hpc
  | closeSocket hpc => exact h.closeSocket hpc
  | releaseLookup hpc _ =>
    exact h.move hpc (fun _ => rfl) (by simp [RecvPc.committed]) (by simp [RecvPc.registered])
      (by simp [RecvPc.runtime])
  | releaseDelete hpc => exact h.release hpc
  | die hpc => exact h.die hpc
  | startUp hpc state applied written hr' =>
    have hr := (h.running hpc).2
    exact h.startUp written hpc (by rcases hr' with rfl | rfl <;> simpa using hr)
  | shutDown hpc =>
    exact h.quiet (by simp [hpc]) (by simp) (by simp [hpc, CtrlPc.waiting])
      (RuntimeConfig.stopping_markStopping _)
  | recoverRead hpc _ =>
    exact h.quiet (by simp [hpc]) (by simp) (by simp [CtrlPc.waiting]) trivial
  | recoverOwner hpc hdead =>
    exact h.quiet (by simp [hpc]) (by simp) (fun _ => Or.inr hdead)
      (RuntimeConfig.stopping_markStopping _)
  | @publish c r hpc =>
    have hr : r.Stopping := h.knows_at hpc
    exact h.publish hr (by simp [hpc, CtrlPc.waiting]) (by simp [hpc]) (by simp) ⟨hr, hr⟩
  | lookup hpc hown _ => exact h.lookup hpc hown
  | nextKey hpc _ | lookupGone hpc _ | relookupGone hpc _ | queryProgram hpc _
  | queryProgramNone hpc _ | queryOwned hpc _ | queryOwnedNone hpc _ =>
    have hknown := h.knows_at hpc
    exact h.quiet (by simp [hpc]) (by simp) (by simp [hpc, CtrlPc.waiting]) hknown
  | ownerAlive hpc =>
    have hknown := h.knows_at hpc
    exact h.quiet (by simp [hpc]) (by simp) (by simp [hpc, CtrlPc.waiting])
      ⟨hknown.1, hknown.2.1⟩
  | ownerDead hpc hdead => exact h.ownerDead hpc hdead
  | delete hpc => exact h.sweep hpc
  | scanEnd hpc hempty => exact h.scanEnd hpc hempty
  | detach hpc _ => exact h.detached hpc
  | detachFails hpc =>
    exact h.quiet (by simp [hpc]) (by simp) (by simp [hpc, CtrlPc.waiting]) trivial
  | publishRestored hpc state hr' => exact h.publishRestored hpc hr'
  | exit halive => exact h.quiet halive (by simp) (by simp [CtrlPc.waiting]) trivial
  | reap hpc => exact h.quiet (by simp [hpc]) (by simp) (by simp [CtrlPc.waiting]) trivial

theorem ownership_invariant {ifindex : UInt32} {s : OwnershipState}
    (hs : (ownershipSystem ifindex).Reachable s) : OwnershipInv s :=
  hs.induct (fun _ hinit => ownershipInv_init hinit) fun _ _ _ _ h hstep =>
    (ownershipInv_step h hstep).1

/-! ## The detach

Nobody relies on a claim when the program is detached: after the scan has found the table empty, no
claim that is made later can become one that is relied on, since the map says `STOPPING`. -/

/-- Somebody is stopping and no claim is relied on. -/
def OwnershipState.Quiesced (s : OwnershipState) : Prop :=
  s.runtime.Stopping ∧ ∀ self queue, ¬ s.claims.holds self queue

theorem OwnershipInv.holds_of_entry {s : OwnershipState} (h : OwnershipInv s) {key : UInt32}
    {self : XskOwner} (hkey : s.xskMap key = some self) : s.claims.holds self key := by
  obtain ⟨pc, hpc, hreg⟩ := h.entry hkey
  refine ⟨pc, hpc, ?_, Or.inr (Or.inr ⟨key, hkey⟩)⟩
  cases pc with
  | capture => rfl
  | closeSocket claimed =>
    cases claimed with
    | false => cases hreg
    | true => rfl
  | _ => cases hreg

/-- So does one that is about to register. -/
theorem OwnershipStep.holds_of_register {ifindex : UInt32} {s s' : OwnershipState}
    {self : XskOwner} (hstep : OwnershipStep ifindex s (.register self) s') :
    ∃ queue, s.claims.holds self queue := by
  cases hstep with
  | @register _ queue r hpc _ => exact ⟨queue, _, hpc, rfl, Or.inr (Or.inl rfl)⟩

theorem OwnershipState.Quiesced.step {ifindex : UInt32} {s s' : OwnershipState}
    {a : OwnershipAction} (hq : s.Quiesced) (h : OwnershipInv s)
    (hstep : OwnershipStep ifindex s a s') : s'.Quiesced := by
  have he := (ownershipInv_step h hstep).2
  exact ⟨he.stopping hq.1, fun self queue hh => hq.2 self queue (he.holds hq.1 hh)⟩

theorem OwnershipState.Quiesced.run {ifindex : UInt32} {s t : OwnershipState}
    {as : List OwnershipAction} (hrun : (ownershipSystem ifindex).Run s as t)
    (hs : (ownershipSystem ifindex).Reachable s) (hq : s.Quiesced) :
    t.Quiesced ∧ ∀ self, OwnershipAction.register self ∉ as := by
  induction hrun with
  | nil _ => exact ⟨hq, fun _ => List.not_mem_nil⟩
  | @cons s s' t a as hstep _ ih =>
    obtain ⟨hqt, hnone⟩ := ih (.step hs hstep) (hq.step (ownership_invariant hs) hstep)
    refine ⟨hqt, fun self hmem => ?_⟩
    rcases List.mem_cons.mp hmem with heq | hmem
    · subst heq
      obtain ⟨queue, hh⟩ := OwnershipStep.holds_of_register hstep
      exact hq.2 self queue hh
    · exact hnone self hmem

/-- **XSK ownership safety.** In every interleaving of receivers, the loader's shutdown and
recoveries, with crashes anywhere: when `bpf_xdp_detach` is executed no live receiver has an entry
in `xsk_map`, and afterwards no receiver registers one. -/
theorem detach_without_receivers (ifindex : UInt32) (s s' : OwnershipState) (c : Controller)
    (hs : (ownershipSystem ifindex).Reachable s)
    (hdetach : (ownershipSystem ifindex).step s (.detach c) s') :
    (∀ self, s.Live self → ∀ key, s.xskMap key ≠ some self)
      ∧ ∀ as t, (ownershipSystem ifindex).Run s' as t →
        (∀ self, OwnershipAction.register self ∉ as)
        ∧ ∀ self, t.Live self → ∀ key, t.xskMap key ≠ some self := by
  have hinv := ownership_invariant hs
  have hq : s.Quiesced := by
    have hknown := hinv.knows c
    cases hdetach with
    | detach hpc _ | detachFails hpc =>
      rw [hpc] at hknown
      exact ⟨hknown.1, hknown.2.2⟩
  refine ⟨fun self _ key hkey => hq.2 self key (hinv.holds_of_entry hkey), ?_⟩
  intro as t hrun
  have hs' := Reachable.step hs hdetach
  obtain ⟨hqt, hnone⟩ := OwnershipState.Quiesced.run hrun hs' (hq.step hinv hdetach)
  refine ⟨hnone, fun self _ key hkey => ?_⟩
  exact hqt.2 self key ((ownership_invariant (hs'.run hrun)).holds_of_entry hkey)

/-- A receiver captures on queue 0 and leaves; then the loader stops and detaches. -/
theorem detach_after_one_receiver :
    ∃ s s' : OwnershipState, (ownershipSystem 2).Reachable s
      ∧ (ownershipSystem 2).step s (.detach .loader) s'
      ∧ ∀ self, s.Live self → ∀ key, s.xskMap key ≠ some self := by
  let runtime : RuntimeConfig := ⟨runtimeAbiVersion, 2, 1024, 7, 500, 40,
    runtimeCaptured ||| runtimeApplied, 0, 0, 0, 0, 0, hwtstampFilterAll⟩
  let stopped := runtime.markStopping
  let me : XskOwner := ⟨600, 41, 0⟩
  have h0 : (ownershipSystem 2).Reachable ⟨runtime, fun _ => none, fun _ => none, 7,
      fun _ => .unborn, fun c => if c = .loader then .running runtime else .readRuntime⟩ :=
    .init ⟨runtime, 7, by decide, rfl⟩
  have h1 := Reachable.step h0 (.start 0 (show (_ : OwnershipState).procs me = .unborn from rfl)
    (by decide) (by decide))
  have h2 := Reachable.step h1 (.readRuntime
    (show (_ : OwnershipState).procs me = .live 0 .readRuntime from rfl) (by decide +kernel))
  have h3 := Reachable.step h2 (.requireOwner
    (show (_ : OwnershipState).procs me = .live 0 (.requireOwner runtime) from rfl)
    (by decide +kernel))
  have h4 := Reachable.step h3 (.validateProgram
    (show (_ : OwnershipState).procs me = .live 0 (.validateProgram runtime) from rfl) rfl)
  have h5 := Reachable.step h4 (.createSocket
    (show (_ : OwnershipState).procs me = .live 0 (.createSocket runtime) from rfl))
  have h6 := Reachable.step h5 (.claim
    (show (_ : OwnershipState).procs me = .live 0 (.claim runtime) from rfl) rfl)
  have h7 := Reachable.step h6 (.reread
    (show (_ : OwnershipState).procs me = .live 0 (.reread runtime) from rfl) rfl)
  have h8 := Reachable.step h7 (.requireOwnerAgain
    (show (_ : OwnershipState).procs me = .live 0 (.requireOwnerAgain runtime) from rfl)
    (by decide +kernel))
  have h9 := Reachable.step h8 (.validateProgramAgain
    (show (_ : OwnershipState).procs me = .live 0 (.validateProgramAgain runtime) from rfl) rfl)
  have h10 := Reachable.step h9 (.register
    (show (_ : OwnershipState).procs me = .live 0 (.register runtime) from rfl) rfl)
  have h11 := Reachable.step h10 (.bail
    (show (_ : OwnershipState).procs me = .live 0 .capture from rfl))
  have h12 := Reachable.step h11 (.closeSocket
    (show (_ : OwnershipState).procs me = .live 0 (.closeSocket true) from rfl))
  have h13 := Reachable.step h12 (.releaseLookup
    (show (_ : OwnershipState).procs me = .live 0 .releaseLookup from rfl) (by decide +kernel))
  have h14 := Reachable.step h13 (.releaseDelete
    (show (_ : OwnershipState).procs me = .live 0 .releaseDelete from rfl))
  have h15 := Reachable.step h14 (.shutDown
    (show (_ : OwnershipState).ctrl .loader = (.running runtime) from rfl))
  have h16 := Reachable.step h15 (.publish
    (show (_ : OwnershipState).ctrl .loader = (.publish stopped) from rfl))
  have h17 := Reachable.step h16 (.scanEnd
    (show (_ : OwnershipState).ctrl .loader = (.scan stopped .nextKey) from rfl) fun key => by
      show Function.update (Function.update (fun _ => none) 0 (some me)) 0 none key = none
      simp)
  have h18 := Reachable.step h17 (.queryOwned
    (show (_ : OwnershipState).ctrl .loader = (.queryOwned stopped) from rfl) rfl)
  refine ⟨_, _, h18, .detach
    (show (_ : OwnershipState).ctrl .loader = .detach stopped from rfl) rfl, ?_⟩
  exact (detach_without_receivers 2 _ _ .loader h18 (.detach
    (show (_ : OwnershipState).ctrl .loader = .detach stopped from rfl) rfl)).1

end AceXdp
