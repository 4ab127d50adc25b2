import AceXdp.Lib.Transition
import AceXdp.Loader.Runtime
import Mathlib.Logic.Function.Basic

/-!
# AceXdp — the XSK ownership protocol

Receivers claim a queue in `xsk_owners`, re-read `runtime_config` and only then register in
`xsk_map`; the loader in shutdown, or `--recover` after its death, publishes `STOPPING`, sweeps
`xsk_owners` and only then detaches. The system below has one step for each map operation,
liveness check and program query of either side, any number of receivers and recoveries, and a
crash at any point. `Loader.OwnershipSafety` proves what the protocol is for.
-/

namespace AceXdp

open Transition Transition.System

/-! ## Receivers -/

/-- Where `afxdp_recv` is. The argument is its local copy of the runtime configuration. -/
inductive RecvPc where
  | readRuntime
  | requireOwner (runtime : RuntimeConfig)
  | validateProgram (runtime : RuntimeConfig)
  | createSocket (runtime : RuntimeConfig)
  | claim (runtime : RuntimeConfig)
  | reread (runtime : RuntimeConfig)
  | requireOwnerAgain (runtime : RuntimeConfig)
  | validateProgramAgain (runtime : RuntimeConfig)
  | register (runtime : RuntimeConfig)
  | capture
  -- the label `out`, with `owner_claimed`
  | closeSocket (ownerClaimed : Bool)
  | releaseLookup
  | releaseDelete
  | leave
  deriving DecidableEq, Repr

namespace RecvPc

/-- Where a failed call, or the end of the capture, leads. -/
def bail : RecvPc → RecvPc
  | readRuntime | requireOwner _ | validateProgram _ | createSocket _ | claim _ =>
    closeSocket false
  | reread _ | requireOwnerAgain _ | validateProgramAgain _ | register _ | capture =>
    closeSocket true
  | closeSocket claimed => closeSocket claimed
  | releaseLookup | releaseDelete | leave => leave

/-- From the claim to its release. -/
def claimed : RecvPc → Bool
  | reread _ | requireOwnerAgain _ | validateProgramAgain _ | register _ | capture
  | closeSocket true | releaseLookup | releaseDelete => true
  | _ => false

/-- From the passed re-read to the end of the capture. -/
def committed : RecvPc → Bool
  | requireOwnerAgain _ | validateProgramAgain _ | register _ | capture => true
  | _ => false

/-- The socket may be in `xsk_map`. -/
def registered : RecvPc → Bool
  | capture | closeSocket true => true
  | _ => false

/-- The local copy of the runtime configuration while it is used. -/
def runtime : RecvPc → Option RuntimeConfig
  | requireOwner r | validateProgram r | createSocket r | claim r | reread r
  | requireOwnerAgain r | validateProgramAgain r | register r => some r
  | _ => none

end RecvPc

/-- A process identity over time; it is never used again once dead. -/
inductive RecvProc where
  | unborn
  | live (queue : UInt32) (pc : RecvPc)
  | dead
  deriving DecidableEq, Repr

/-! ## Controllers -/

inductive Controller where
  | loader
  | recover (n : Nat)
  deriving DecidableEq, Repr

/-- Where `xsk_owners_have_live_claim` is. -/
inductive ScanPc where
  | nextKey
  | lookup (key : UInt32)
  | liveness (key : UInt32) (owner : XskOwner)
  | relookup (key : UInt32)
  | delete (key : UInt32)
  deriving DecidableEq, Repr

/-- Where a controller is. The argument is its local copy of the runtime configuration. -/
inductive CtrlPc where
  -- the loader before the label `out`
  | running (runtime : RuntimeConfig)
  -- A recovery, started or not, before it has read the pinned value
  | readRuntime
  | checkOwner (runtime : RuntimeConfig)
  | publish (runtime : RuntimeConfig)
  | scan (runtime : RuntimeConfig) (pc : ScanPc)
  -- the query `recover_pinned_measurement` makes itself
  | queryProgram (runtime : RuntimeConfig)
  -- the query inside `detach_if_owned`
  | queryOwned (runtime : RuntimeConfig)
  | detach (runtime : RuntimeConfig)
  -- detached, or nothing was attached: drain, restore and export
  | detached (runtime : RuntimeConfig)
  | exited
  -- `/proc` no longer has the process
  | reaped
  deriving DecidableEq, Repr

/-- A recovery that has not found the loader dead yet, or that is over. -/
def CtrlPc.waiting : CtrlPc → Bool
  | readRuntime | checkOwner _ | exited | reaped => true
  | _ => false

/-! ## The system -/

/-- The three maps, the attached program (`0` for none) and the processes. A socket in `xsk_map`
is named by the process that has it open. -/
structure OwnershipState where
  runtime : RuntimeConfig
  owners : UInt32 → Option XskOwner
  xskMap : UInt32 → Option XskOwner
  attached : UInt32
  procs : XskOwner → RecvProc
  ctrl : Controller → CtrlPc

namespace OwnershipState

def setPc (s : OwnershipState) (self : XskOwner) (queue : UInt32) (pc : RecvPc) :
    OwnershipState :=
  { s with procs := Function.update s.procs self (.live queue pc) }

def setOwner (s : OwnershipState) (key : UInt32) (owner : Option XskOwner) : OwnershipState :=
  { s with owners := Function.update s.owners key owner }

def setEntry (s : OwnershipState) (key : UInt32) (self : XskOwner) : OwnershipState :=
  { s with xskMap := Function.update s.xskMap key (some self) }

/-- Closing a socket removes the entries that point at it. -/
def dropEntries (s : OwnershipState) (self : XskOwner) : OwnershipState :=
  { s with xskMap := fun key => if s.xskMap key = some self then none else s.xskMap key }

def bury (s : OwnershipState) (self : XskOwner) : OwnershipState :=
  { s with procs := Function.update s.procs self .dead }

def setCtrl (s : OwnershipState) (c : Controller) (pc : CtrlPc) : OwnershipState :=
  { s with ctrl := Function.update s.ctrl c pc }

def setRuntime (s : OwnershipState) (runtime : RuntimeConfig) : OwnershipState :=
  { s with runtime }

def Live (s : OwnershipState) (self : XskOwner) : Prop := ∃ queue pc, s.procs self = .live queue pc

def LoaderAlive (s : OwnershipState) : Prop := s.ctrl .loader ≠ .reaped

instance (s : OwnershipState) : Decidable s.LoaderAlive := inferInstanceAs (Decidable (_ ≠ _))

end OwnershipState

/-- The validity check of `xsk_owners_have_live_claim`. -/
def XskOwner.valid (owner : XskOwner) : Bool :=
  owner.pid != 0 && decide (owner.pid.toNat ≤ 2 ^ 31 - 1) && owner.processStartTicks != 0
    && owner.reserved == 0

/-- The steps, by the party that takes them; registrations and detaches are named. -/
inductive OwnershipAction where
  | receiver (self : XskOwner)
  | register (self : XskOwner)
  | controller (c : Controller)
  | detach (c : Controller)
  deriving DecidableEq, Repr

open OwnershipState in
inductive OwnershipStep (ifindex : UInt32) :
    OwnershipState → OwnershipAction → OwnershipState → Prop where
  -- `afxdp_recv`, in program order
  | start {s : OwnershipState} {self : XskOwner} (queue : UInt32) (h : s.procs self = .unborn)
      (hvalid : self.valid = true) (hqueue : queue.toNat < xskMapMaxEntries) :
      OwnershipStep ifindex s (.receiver self) (s.setPc self queue .readRuntime)
  | readRuntime {s : OwnershipState} {self : XskOwner} {queue : UInt32}
      (h : s.procs self = .live queue .readRuntime)
      (haccept : s.runtime.receiverAccepts ifindex = true) :
      OwnershipStep ifindex s (.receiver self) (s.setPc self queue (.requireOwner s.runtime))
  | requireOwner {s : OwnershipState} {self : XskOwner} {queue : UInt32} {r : RuntimeConfig}
      (h : s.procs self = .live queue (.requireOwner r)) (halive : s.LoaderAlive) :
      OwnershipStep ifindex s (.receiver self) (s.setPc self queue (.validateProgram r))
  | validateProgram {s : OwnershipState} {self : XskOwner} {queue : UInt32} {r : RuntimeConfig}
      (h : s.procs self = .live queue (.validateProgram r)) (hatt : s.attached = r.xdpProgramId) :
      OwnershipStep ifindex s (.receiver self) (s.setPc self queue (.createSocket r))
  | createSocket {s : OwnershipState} {self : XskOwner} {queue : UInt32} {r : RuntimeConfig}
      (h : s.procs self = .live queue (.createSocket r)) :
      OwnershipStep ifindex s (.receiver self) (s.setPc self queue (.claim r))
  -- `claim_xsk_queue`, with `BPF_NOEXIST`
  | claim {s : OwnershipState} {self : XskOwner} {queue : UInt32} {r : RuntimeConfig}
      (h : s.procs self = .live queue (.claim r)) (hfree : s.owners queue = none) :
      OwnershipStep ifindex s (.receiver self)
        ((s.setPc self queue (.reread r)).setOwner queue (some self))
  | reread {s : OwnershipState} {self : XskOwner} {queue : UInt32} {r : RuntimeConfig}
      (h : s.procs self = .live queue (.reread r)) (hsame : s.runtime = r) :
      OwnershipStep ifindex s (.receiver self) (s.setPc self queue (.requireOwnerAgain r))
  | requireOwnerAgain {s : OwnershipState} {self : XskOwner} {queue : UInt32}
      {r : RuntimeConfig} (h : s.procs self = .live queue (.requireOwnerAgain r))
      (halive : s.LoaderAlive) :
      OwnershipStep ifindex s (.receiver self) (s.setPc self queue (.validateProgramAgain r))
  | validateProgramAgain {s : OwnershipState} {self : XskOwner} {queue : UInt32}
      {r : RuntimeConfig} (h : s.procs self = .live queue (.validateProgramAgain r))
      (hatt : s.attached = r.xdpProgramId) :
      OwnershipStep ifindex s (.receiver self) (s.setPc self queue (.register r))
  -- `register_socket`, with `BPF_NOEXIST`
  | register {s : OwnershipState} {self : XskOwner} {queue : UInt32} {r : RuntimeConfig}
      (h : s.procs self = .live queue (.register r)) (hfree : s.xskMap queue = none) :
      OwnershipStep ifindex s (.register self)
        ((s.setPc self queue .capture).setEntry queue self)
  -- A call fails, a check does not pass, or the capture ends
  | bail {s : OwnershipState} {self : XskOwner} {queue : UInt32} {pc : RecvPc}
      (h : s.procs self = .live queue pc) :
      OwnershipStep ifindex s (.receiver self) (s.setPc self queue pc.bail)
  | closeSocket {s : OwnershipState} {self : XskOwner} {queue : UInt32} {claimed : Bool}
      (h : s.procs self = .live queue (.closeSocket claimed)) :
      OwnershipStep ifindex s (.receiver self)
        ((s.setPc self queue (if claimed then .releaseLookup else .leave)).dropEntries self)
  -- `release_xsk_queue` finds its own claim
  | releaseLookup {s : OwnershipState} {self : XskOwner} {queue : UInt32}
      (h : s.procs self = .live queue .releaseLookup) (hown : s.owners queue = some self) :
      OwnershipStep ifindex s (.receiver self) (s.setPc self queue .releaseDelete)
  -- the delete is by key: it removes whatever claim is there by now
  | releaseDelete {s : OwnershipState} {self : XskOwner} {queue : UInt32}
      (h : s.procs self = .live queue .releaseDelete) :
      OwnershipStep ifindex s (.receiver self)
        ((s.setPc self queue .leave).setOwner queue none)
  -- A crash at any point, or the end of `main`
  | die {s : OwnershipState} {self : XskOwner} {queue : UInt32} {pc : RecvPc}
      (h : s.procs self = .live queue pc) :
      OwnershipStep ifindex s (.receiver self) ((s.bury self).dropEntries self)
  -- the loader before its shutdown
  -- A later stage of the start-up is published; the update may fail
  | startUp {s : OwnershipState} {r r' : RuntimeConfig} (h : s.ctrl .loader = .running r)
      (state : HwtstampState) (applied written : Bool)
      (hr' : r' = r.setHwtstamp state applied ∨ r' = r.setHwtstampApplying state) :
      OwnershipStep ifindex s (.controller .loader)
        ((s.setRuntime (if written then r' else s.runtime)).setCtrl .loader (.running r'))
  | shutDown {s : OwnershipState} {r : RuntimeConfig} (h : s.ctrl .loader = .running r) :
      OwnershipStep ifindex s (.controller .loader)
        (s.setCtrl .loader (.publish r.markStopping))
  -- `recover_pinned_measurement` up to its update
  | recoverRead {s : OwnershipState} {n : Nat} (h : s.ctrl (.recover n) = .readRuntime)
      (haccept : s.runtime.recoveryAccepts ifindex = true) :
      OwnershipStep ifindex s (.controller (.recover n))
        (s.setCtrl (.recover n) (.checkOwner s.runtime))
  | recoverOwner {s : OwnershipState} {n : Nat} {r : RuntimeConfig}
      (h : s.ctrl (.recover n) = .checkOwner r) (hdead : ¬ s.LoaderAlive) :
      OwnershipStep ifindex s (.controller (.recover n))
        (s.setCtrl (.recover n) (.publish r.markStopping))
  -- shared by both
  | publish {s : OwnershipState} {c : Controller} {r : RuntimeConfig}
      (h : s.ctrl c = .publish r) :
      OwnershipStep ifindex s (.controller c) ((s.setRuntime r).setCtrl c (.scan r .nextKey))
  | nextKey {s : OwnershipState} {c : Controller} {r : RuntimeConfig} {key : UInt32}
      (h : s.ctrl c = .scan r .nextKey) (hkey : s.owners key ≠ none) :
      OwnershipStep ifindex s (.controller c) (s.setCtrl c (.scan r (.lookup key)))
  | lookup {s : OwnershipState} {c : Controller} {r : RuntimeConfig} {key : UInt32}
      {owner : XskOwner} (h : s.ctrl c = .scan r (.lookup key))
      (hown : s.owners key = some owner) (hvalid : owner.valid = true) :
      OwnershipStep ifindex s (.controller c) (s.setCtrl c (.scan r (.liveness key owner)))
  | lookupGone {s : OwnershipState} {c : Controller} {r : RuntimeConfig} {key : UInt32}
      (h : s.ctrl c = .scan r (.lookup key)) (hgone : s.owners key = none) :
      OwnershipStep ifindex s (.controller c) (s.setCtrl c (.scan r .nextKey))
  -- `/proc` still has the identity; of a dead process that is not reaped yet, too
  | ownerAlive {s : OwnershipState} {c : Controller} {r : RuntimeConfig} {key : UInt32}
      {owner : XskOwner} (h : s.ctrl c = .scan r (.liveness key owner)) :
      OwnershipStep ifindex s (.controller c) (s.setCtrl c (.scan r (.relookup key)))
  | ownerDead {s : OwnershipState} {c : Controller} {r : RuntimeConfig} {key : UInt32}
      {owner : XskOwner} (h : s.ctrl c = .scan r (.liveness key owner))
      (hdead : ¬ s.Live owner) :
      OwnershipStep ifindex s (.controller c) (s.setCtrl c (.scan r (.delete key)))
  | relookupGone {s : OwnershipState} {c : Controller} {r : RuntimeConfig} {key : UInt32}
      (h : s.ctrl c = .scan r (.relookup key)) (hgone : s.owners key = none) :
      OwnershipStep ifindex s (.controller c) (s.setCtrl c (.scan r .nextKey))
  | delete {s : OwnershipState} {c : Controller} {r : RuntimeConfig} {key : UInt32}
      (h : s.ctrl c = .scan r (.delete key)) :
      OwnershipStep ifindex s (.controller c)
        ((s.setOwner key none).setCtrl c (.scan r .nextKey))
  -- `bpf_map_get_next_key` reports an empty map: no live claim
  | scanEnd {s : OwnershipState} {c : Controller} {r : RuntimeConfig}
      (h : s.ctrl c = .scan r .nextKey) (hempty : ∀ key, s.owners key = none) :
      OwnershipStep ifindex s (.controller c)
        (s.setCtrl c (if c = .loader then .queryOwned r else .queryProgram r))
  | queryProgram {s : OwnershipState} {c : Controller} {r : RuntimeConfig}
      (h : s.ctrl c = .queryProgram r) (hatt : s.attached = r.xdpProgramId) :
      OwnershipStep ifindex s (.controller c) (s.setCtrl c (.queryOwned r))
  | queryProgramNone {s : OwnershipState} {c : Controller} {r : RuntimeConfig}
      (h : s.ctrl c = .queryProgram r) (hatt : s.attached = 0) :
      OwnershipStep ifindex s (.controller c) (s.setCtrl c (.detached r))
  | queryOwned {s : OwnershipState} {c : Controller} {r : RuntimeConfig}
      (h : s.ctrl c = .queryOwned r) (hatt : s.attached = r.xdpProgramId) :
      OwnershipStep ifindex s (.controller c) (s.setCtrl c (.detach r))
  | queryOwnedNone {s : OwnershipState} {c : Controller} {r : RuntimeConfig}
      (h : s.ctrl c = .queryOwned r) (hatt : s.attached = 0) :
      OwnershipStep ifindex s (.controller c) (s.setCtrl c (.detached r))
  -- `bpf_xdp_detach`, which compares with the owned program
  | detach {s : OwnershipState} {c : Controller} {r : RuntimeConfig}
      (h : s.ctrl c = .detach r) (hatt : s.attached = r.xdpProgramId) :
      OwnershipStep ifindex s (.detach c)
        ({ s with attached := 0 }.setCtrl c (.detached r))
  | detachFails {s : OwnershipState} {c : Controller} {r : RuntimeConfig}
      (h : s.ctrl c = .detach r) :
      OwnershipStep ifindex s (.detach c) (s.setCtrl c .exited)
  -- the restored timestamp configuration is published
  | publishRestored {s : OwnershipState} {c : Controller} {r r' : RuntimeConfig}
      (h : s.ctrl c = .detached r) (state : HwtstampState)
      (hr' : r' = if c = .loader then r.setHwtstamp state false else r.markRestored) :
      OwnershipStep ifindex s (.controller c) ((s.setRuntime r').setCtrl c (.detached r'))
  -- A crash, a refusal, an error or the end of `main`
  | exit {s : OwnershipState} {c : Controller} (h : s.ctrl c ≠ .reaped) :
      OwnershipStep ifindex s (.controller c) (s.setCtrl c .exited)
  | reap {s : OwnershipState} {c : Controller} (h : s.ctrl c = .exited) :
      OwnershipStep ifindex s (.controller c) (s.setCtrl c .reaped)

/-- The system from a loader that has attached its program; no receiver has started. -/
def ownershipSystem (ifindex : UInt32) : System OwnershipState OwnershipAction where
  init s := ∃ runtime attached, ¬ runtime.Stopping ∧ s =
    { runtime, attached, owners := fun _ => none, xskMap := fun _ => none
      procs := fun _ => .unborn
      ctrl := fun c => if c = .loader then .running runtime else .readRuntime }
  step := OwnershipStep ifindex

end AceXdp
