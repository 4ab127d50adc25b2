import AceXdp.Join.Decomposition
import AceXdp.Recv.Classifier
import AceXdp.Recv.Sample
import AceXdp.Lib.Transition

/-!
# AceXdp — producers and joiner agree

The capture of one run as a transition system: honest experiment packets with distinct keys are
dispatched, and each is afterwards lost or delivered by the consumer of its effective path. The
invariant (`CaptureInv`) is provenance: every record of a key was made from the metadata of the
one packet dispatched under it. What the analyser checks about each record and between the
records then follows from the two values the metadata flags can have (`measurementMeta_honest`).
-/

namespace AceXdp

open Transition Transition.System WriteOnce

variable {ncpu N : Nat}

/-! ## Honest packets -/

/-- An experiment packet whose metadata is set up, under positive clocks, with a timestamp kfunc
that either delivers a value or an `errno`. -/
structure HonestPacket (ctx : XdpMd ncpu) (key : PacketKey) (classified : RequestedPath) :
    Prop where
  parsed : ctx.parsed = .experiment key classified
  adjusted : ctx.adjustMetaFails = false
  inBounds : ctx.metaOutOfBounds = false
  clock : 0 < ctx.ktimeNs
  timestamp : (ctx.rxTimestampErr = 0 ∧ 0 < ctx.rxTimestampNs ∧ ctx.rxTimestampNs.toNat < 2 ^ 63)
    ∨ (-4095 ≤ ctx.rxTimestampErr ∧ ctx.rxTimestampErr ≤ -1)

/-- A dispatched packet, with its effective path and the metadata in front of it. -/
structure Flight (ncpu : Nat) where
  ctx : XdpMd ncpu
  key : PacketKey
  path : RequestedPath
  rx : RxMeta

/-- The wire header of the packet, as the UDP receiver finds it in its payload. -/
def Flight.header (f : Flight ncpu) : WireHeader :=
  wireHeaderAt (frameView f.ctx.frame) (udpOffset (frameView f.ctx.frame) + udpHeaderSize)

/-! ## The capture system

Honest experiment packets with distinct keys are dispatched; each is afterwards lost or delivered by
the consumer of its effective path. -/

/-- The measurement state of a run: the maps, the packets dispatched so far, those still under
way (and whether the CPUMAP program has seen them), and what the receivers recorded. -/
structure Capture (ncpu N : Nat) where
  kern : KernState ncpu N
  dispatched : List (Flight ncpu)
  inFlight : List (Flight ncpu × Bool)
  afxdp : List XskUserRecord
  udp : List SampleRecord

/-- The hardware timestamp of a UDP control message is absent, or it is the one the driver gave
the packet. -/
def honestControl (f : Flight ncpu) (m : ControlInfo) : Prop :=
  ∀ v, m.hwRxNs = some v → 0 < v.toInt
    ∧ (f.ctx.rxTimestampErr = 0 → v.toInt = (f.ctx.rxTimestampNs.toNat : Int))

inductive CaptureStep (mode : ForwardingMode) :
    Capture ncpu N → PacketKey → Capture ncpu N → Prop where
  | dispatch {st : Capture ncpu N} {ctx : XdpMd ncpu} {key : PacketKey}
      {classified : RequestedPath} {rx : RxMeta} (h : HonestPacket ctx key classified)
      (fresh : ∀ f ∈ st.dispatched, f.key ≠ key)
      (hrx : (xdpDispatch mode st.kern ctx).2.rxMeta = some rx) :
      CaptureStep mode st key { st with
        kern := (xdpDispatch mode st.kern ctx).1
        dispatched := ⟨ctx, key, effectiveRequestedPath mode classified, rx⟩ :: st.dispatched
        inFlight :=
          (⟨ctx, key, effectiveRequestedPath mode classified, rx⟩, false) :: st.inFlight }
  | lose {st : Capture ncpu N} {f : Flight ncpu} {seen : Bool}
      {pre post : List (Flight ncpu × Bool)} (h : st.inFlight = pre ++ (f, seen) :: post) :
      CaptureStep mode st f.key { st with inFlight := pre ++ post }
  | measure {st : Capture ncpu N} {f : Flight ncpu} {pre post : List (Flight ncpu × Bool)}
      (h : st.inFlight = pre ++ (f, false) :: post) (hpath : f.path = .cpumap)
      (hredirect : f.ctx.redirectAccepted = true) (cpu : Fin ncpu) (ktimeNs : UInt64)
      (hclock : 0 < ktimeNs) :
      CaptureStep mode st f.key { st with
        kern := xdpCpumapMeasure st.kern cpu ktimeNs (some f.rx)
        inFlight := pre ++ (f, true) :: post }
  | receiveXsk {st : Capture ncpu N} {f : Flight ncpu} {seen : Bool}
      {pre post : List (Flight ncpu × Bool)} (h : st.inFlight = pre ++ (f, seen) :: post)
      (hpath : f.path = .xsk) (hredirect : f.ctx.redirectAccepted = true) (env : BatchEnv)
      (hqueue : env.queueId = f.ctx.rxQueueIndex) (mem : Nat → UInt8) (dataAddr addr : Nat)
      (haddr : metadataAddr dataAddr = some addr) (id : ExperimentId)
      (hclass : classifyPacket (frameView f.ctx.frame) f.ctx.frame.length = .experiment id)
      (mono : UInt64) (real : Int64) (len : UInt32) (hclock : 0 < mono) :
      CaptureStep mode st f.key { st with
        afxdp := st.afxdp ++
          [(measuredRecord env (f.rx.store mem addr) dataAddr id mono real len).2]
        inFlight := pre ++ post }
  | receiveUdp {st : Capture ncpu N} {f : Flight ncpu} {seen : Bool}
      {pre post : List (Flight ncpu × Bool)} (h : st.inFlight = pre ++ (f, seen) :: post)
      (hpath : f.path = .pass
        ∨ f.path = .cpumap ∧ (seen = true ∨ f.ctx.redirectAccepted = false))
      (len : UInt32) (mono real : Int64) (m : ControlInfo) (hclock : 0 < mono.toInt)
      (hm : honestControl f m) :
      CaptureStep mode st f.key { st with
        udp := st.udp ++ [sampleRecordOf f.header len mono real m]
        inFlight := pre ++ post }

/-- The captures of a forwarding mode, from freshly created maps. -/
def captureSystem (mode : ForwardingMode) : System (Capture ncpu N) PacketKey where
  init st := st = ⟨KernState.init, [], [], [], []⟩
  step := CaptureStep mode

/-- The records of a key that the analyser joins; the loaders keep the first record of a key. -/
def Capture.sources (st : Capture ncpu N) (key : PacketKey) : Sources where
  ingress := st.kern.ingress.lookup key
  cpumap := st.kern.cpumap.lookup key
  afxdp := st.afxdp.find? fun r => r.flowId == key.flowId && r.sequence == key.sequence
  udp := st.udp.find? fun r => r.flowId == key.flowId && r.seq == key.sequence

/-! ## What each producer leaves

The flags of the metadata have two values, with a hardware timestamp and without; every record
copies one of them with its times. -/

/-- The metadata of an honest packet has one of two shapes. -/
structure HonestMeta (ctx : XdpMd ncpu) (key : PacketKey) (path : RequestedPath) (rx : RxMeta) :
    Prop where
  wellFormed : rx.wellFormed
  flowId : rx.flowId = key.flowId
  sequence : rx.sequence = key.sequence
  rxQueue : rx.rxQueue = ctx.rxQueueIndex
  path : rx.requestedPath = path.code
  initial : 0 < rx.initialXdpNs
  timestamp : (ctx.rxTimestampErr = 0 ∧ rx.flags = 19 ∧ rx.hwRxNs = ctx.rxTimestampNs
      ∧ 0 < rx.hwRxNs ∧ rx.timestampError = 0)
    ∨ (rx.flags = 26 ∧ rx.hwRxNs = 0 ∧ rx.timestampError ≠ 0)

theorem int16_errno_ne_zero {e : Int} (h1 : -4095 ≤ e) (h2 : e ≤ -1) : Int16.ofInt e ≠ 0 := by
  intro h
  have hto : (Int16.ofInt e).toInt = e :=
    Int16.toInt_ofInt_of_le (by omega) (by omega)
  rw [h] at hto
  have : (0 : Int16).toInt = 0 := by decide
  omega

theorem measurementMeta_honest {ctx : XdpMd ncpu} {key : PacketKey} {classified : RequestedPath}
    (h : HonestPacket ctx key classified) (path : RequestedPath) :
    HonestMeta ctx key path (measurementMeta ctx key path) := by
  obtain ⟨hflow, hseq, hpath⟩ := measurementMeta_key ctx key path
  -- the driver either has a positive hardware time or an errno
  rcases h.timestamp with ⟨herr, hpos, hlt⟩ | ⟨hlow, hhigh⟩
  · have hm : measurementMeta ctx key path = { baseMeta ctx key path with
        hwRxNs := ctx.rxTimestampNs
        flags := (baseMeta ctx key path).flags ||| metaHwtsValid } := by
      unfold measurementMeta
      simp [herr]
    refine ⟨?_, hflow, hseq, ?_, hpath, ?_, Or.inl ⟨herr, ?_⟩⟩
    · rw [hm]
      exact ⟨rfl, rfl, rfl, by simp [baseMeta]; decide⟩
    · rw [hm]; rfl
    · rw [hm]; exact h.clock
    · rw [hm]
      refine ⟨?_, rfl, hpos, rfl⟩
      show metaPacketIdValid ||| metaPathRequested ||| metaHwtsValid = 19
      decide
  · have herr : ctx.rxTimestampErr ≠ 0 := by omega
    have hm : measurementMeta ctx key path = { baseMeta ctx key path with
        flags := (baseMeta ctx key path).flags ||| metaTimestampError
        timestampError := Int16.ofInt ctx.rxTimestampErr } := by
      unfold measurementMeta
      simp [herr]
    refine ⟨?_, hflow, hseq, ?_, hpath, ?_, Or.inr ?_⟩
    · rw [hm]
      exact ⟨rfl, rfl, rfl, by simp [baseMeta]; decide⟩
    · rw [hm]; rfl
    · rw [hm]; exact h.clock
    · rw [hm]
      refine ⟨?_, rfl, int16_errno_ne_zero hlow hhigh⟩
      show metaPacketIdValid ||| metaPathRequested ||| metaTimestampError = 26
      decide

theorem parsed_key_reserved {ctx : XdpMd ncpu} {key : PacketKey} {path : RequestedPath}
    (h : ctx.parsed = .experiment key path) : key.reserved = 0 := by
  obtain ⟨_, _, _, _, hkey⟩ := (parseExperimentPacket_eq_experiment_iff _ _ _ _).mp h
  rw [hkey]

/-- The record the AF_XDP receiver makes of a packet. -/
structure HonestXsk (f : Flight ncpu) (r : XskUserRecord) : Prop where
  flowId : r.flowId = f.key.flowId
  sequence : r.sequence = f.key.sequence
  rxQueue : r.rxQueue = f.rx.rxQueue
  clock : 0 < r.userRxMonoNs
  validation : r.validationFlags = 7
  hwRxNs : r.hwRxNs = f.rx.hwRxNs
  initial : r.initialXdpNs = f.rx.initialXdpNs
  flags : r.metaFlags = f.rx.flags
  path : r.requestedPath = f.rx.requestedPath
  error : r.timestampError = f.rx.timestampError

/-- Metadata stored for the packet is what the receiver of the same queue reports. -/
theorem measuredRecord_honest {f : Flight ncpu} (hm : HonestMeta f.ctx f.key .xsk f.rx)
    {env : BatchEnv} (hqueue : env.queueId = f.ctx.rxQueueIndex) (mem : Nat → UInt8)
    {dataAddr addr : Nat} (haddr : metadataAddr dataAddr = some addr) {id : ExperimentId}
    (hflow : id.flowId = f.key.flowId) (hseq : id.sequence = f.key.sequence) {mono : UInt64}
    (real : Int64) (len : UInt32) (hclock : 0 < mono) :
    HonestXsk f (measuredRecord env (f.rx.store mem addr) dataAddr id mono real len).2 := by
  have hread : measuredRecord env (f.rx.store mem addr) dataAddr id mono real len
      = applyMetadata f.rx f.rx.flowId f.rx.sequence (userRecord env id mono real len) := by
    unfold measuredRecord readXdpMetadata
    rw [haddr]
    dsimp only
    rw [rxMetaAt_store, hflow, hseq, ← hm.flowId, ← hm.sequence]
  rw [hread, applyMetadata_honest f.rx _ hm.wellFormed hm.path rfl]
  exact ⟨hflow, hseq, by rw [hm.rxQueue]; exact hqueue, hclock, rfl, rfl, rfl, rfl, rfl, rfl⟩

/-- The record the UDP receiver makes of a packet. -/
structure HonestUdp (f : Flight ncpu) (r : SampleRecord) : Prop where
  flowId : r.flowId = f.key.flowId
  seq : r.seq = f.key.sequence
  selfValid : r.selfValid = true
  sameHw : f.ctx.rxTimestampErr = 0 → r.hwValid = true →
    r.hwRxNs.toInt = (f.ctx.rxTimestampNs.toNat : Int)

theorem sampleRecordOf_honest {f : Flight ncpu} (hflow : f.header.flowId = f.key.flowId)
    (hseq : f.header.sequence = f.key.sequence) (len : UInt32) {mono : Int64} (real : Int64)
    {m : ControlInfo} (hclock : 0 < mono.toInt) (hm : honestControl f m) :
    HonestUdp f (sampleRecordOf f.header len mono real m) := by
  -- a truncated control message never yields a hardware time
  have hhw : ∀ v, m.hardware = some v → m.ctrunc = false ∧ m.hwRxNs = some v := by
    intro v hv
    unfold ControlInfo.hardware at hv
    cases hc : m.ctrunc <;> simp_all
  refine ⟨hflow, hseq, ?_, ?_⟩
  · cases hv : m.hardware with
    | none =>
      have hzero : (0 : Int64).toInt = 0 := by decide
      cases hc : m.ctrunc with
      | false =>
        simp [SampleRecord.selfValid, sampleRecordOf, hv, hc, hclock, positiveValue, hzero]
      | true =>
        simp [SampleRecord.selfValid, sampleRecordOf, hv, hc, hclock, positiveValue, hzero]
        decide
    | some v =>
      obtain ⟨hc, hv'⟩ := hhw v hv
      obtain ⟨hpos, _⟩ := hm v hv'
      simp [SampleRecord.selfValid, sampleRecordOf, hv, hc, hclock, positiveValue, hpos]
      decide
  · intro herr hval
    cases hv : m.hardware with
    | none =>
      have hzero : (0 : Int64).toInt = 0 := by decide
      simp [SampleRecord.hwValid, sampleRecordOf, hv, positiveValue, hzero] at hval
    | some v =>
      obtain ⟨_, hv'⟩ := hhw v hv
      simpa [sampleRecordOf, hv] using (hm v hv').2 herr

/-! ## The invariant

Provenance: every record of a key was made from the metadata of the one packet dispatched
under it. -/

/-- Provenance: every record was made from a packet dispatched under its key. -/
structure CaptureInv (mode : ForwardingMode) (st : Capture ncpu N) : Prop where
  honest : ∀ f ∈ st.dispatched, ∃ classified, HonestPacket f.ctx f.key classified
    ∧ f.path = effectiveRequestedPath mode classified ∧ HonestMeta f.ctx f.key f.path f.rx
  unique : ∀ f ∈ st.dispatched, ∀ g ∈ st.dispatched, f.key = g.key → f = g
  flights : ∀ p ∈ st.inFlight, p.1 ∈ st.dispatched
  ingress : ∀ key r, st.kern.ingress.lookup key = some r →
    ∃ f ∈ st.dispatched, f.key = key ∧ r = ingressRecordOf key f.rx
  cpumap : ∀ key r, st.kern.cpumap.lookup key = some r →
    ∃ f ∈ st.dispatched, f.key = key ∧ f.path = .cpumap
      ∧ ∃ cpu ktimeNs, r = cpumapRecordOf cpu ktimeNs f.rx
  afxdp : ∀ r ∈ st.afxdp, ∃ f ∈ st.dispatched, f.path = .xsk ∧ HonestXsk f r
  udp : ∀ r ∈ st.udp, ∃ f ∈ st.dispatched, f.path ≠ .xsk ∧ HonestUdp f r

theorem CaptureInv.flight {mode : ForwardingMode} {st : Capture ncpu N} (h : CaptureInv mode st)
    {f : Flight ncpu} {seen : Bool} {pre post : List (Flight ncpu × Bool)}
    (hf : st.inFlight = pre ++ (f, seen) :: post) :
    f ∈ st.dispatched ∧ ∀ p ∈ pre ++ post, p.1 ∈ st.dispatched := by
  refine ⟨h.flights (f, seen) (by rw [hf]; simp), ?_⟩
  intro p hp
  refine h.flights p ?_
  rw [hf]
  rcases List.mem_append.mp hp with hp | hp
  · exact List.mem_append_left _ hp
  · exact List.mem_append_right _ (List.mem_cons_of_mem _ hp)

/-- Dispatching an honest packet leaves its own metadata and logs it under its own key. -/
theorem xdpDispatch_honest (mode : ForwardingMode) (s : KernState ncpu N) {ctx : XdpMd ncpu}
    {key : PacketKey} {classified : RequestedPath} (h : HonestPacket ctx key classified) :
    (xdpDispatch mode s ctx).2.rxMeta
        = some (measurementMeta ctx key (effectiveRequestedPath mode classified))
      ∧ (xdpDispatch mode s ctx).1.ingress = (s.ingress.insert key (ingressRecordOf key
          (measurementMeta ctx key (effectiveRequestedPath mode classified)))).2
      ∧ (xdpDispatch mode s ctx).1.cpumap = s.cpumap := by
  rcases xdpDispatch_cases mode s ctx with ⟨hnone, _⟩ | ⟨key', classified', path, rx, r, hp, hpath,
    hrx, _, hr, hx⟩
  -- an honest packet is parsed and has room for its metadata, so it is prepared
  · simp [preparedPacket, h.parsed, h.adjusted, h.inBounds] at hnone
  · rw [h.parsed, ParseResult.experiment.injEq] at hp
    obtain ⟨rfl, rfl⟩ := hp
    subst hpath
    subst hrx
    obtain ⟨hdi, hdc, _⟩ := dispatchRequestedPath_spec
      (preparedState s ctx key (measurementMeta ctx key (effectiveRequestedPath mode classified)))
      ctx (effectiveRequestedPath mode classified)
    rw [hx, hr]
    refine ⟨rfl, ?_, ?_⟩
    · rw [hdi]
      exact (preparedState_spec s ctx key _).1
    · rw [hdc]
      exact recordIngress_cpumap _ _ _ _

theorem captureInv_dispatch {mode : ForwardingMode} {st : Capture ncpu N} (h : CaptureInv mode st)
    {ctx : XdpMd ncpu} {key : PacketKey} {classified : RequestedPath} {rx : RxMeta}
    (hp : HonestPacket ctx key classified) (fresh : ∀ f ∈ st.dispatched, f.key ≠ key)
    (hrx : (xdpDispatch mode st.kern ctx).2.rxMeta = some rx) :
    CaptureInv mode { st with
      kern := (xdpDispatch mode st.kern ctx).1
      dispatched := ⟨ctx, key, effectiveRequestedPath mode classified, rx⟩ :: st.dispatched
      inFlight :=
        (⟨ctx, key, effectiveRequestedPath mode classified, rx⟩, false) :: st.inFlight } := by
  obtain ⟨hmeta, hingress, hcpumap⟩ := xdpDispatch_honest mode st.kern hp
  rw [hmeta] at hrx
  cases hrx
  refine ⟨?_, ?_, ?_, ?_, ?_, ?_, ?_⟩
  · intro f hf
    rcases List.mem_cons.mp hf with rfl | hf
    · exact ⟨classified, hp, rfl, measurementMeta_honest hp _⟩
    · exact h.honest f hf
  -- the sender never reuses a key
  · intro f hf g hg hkey
    rcases List.mem_cons.mp hf with rfl | hf <;> rcases List.mem_cons.mp hg with rfl | hg
    · rfl
    · exact absurd hkey.symm (fresh g hg)
    · exact absurd hkey (fresh f hf)
    · exact h.unique f hf g hg hkey
  · intro p hmem
    rcases List.mem_cons.mp hmem with rfl | hmem
    · exact List.mem_cons_self
    · exact List.mem_cons_of_mem _ (h.flights p hmem)
  -- the new entry is under the new key; the others were there before
  · intro key' r hr
    dsimp only at hr
    rw [hingress, BoundedMap.lookup_insert] at hr
    rcases Option.or_eq_some_iff.mp hr with hr | ⟨_, hr⟩
    · obtain ⟨f, hf, hk, hrec⟩ := h.ingress key' r hr
      exact ⟨f, List.mem_cons_of_mem _ hf, hk, hrec⟩
    · split at hr
      · rename_i hnew
        rw [hnew.1]
        exact ⟨_, List.mem_cons_self, rfl, (Option.some.inj hr).symm⟩
      · cases hr
  · intro key' r hr
    dsimp only at hr
    rw [hcpumap] at hr
    obtain ⟨f, hf, hrest⟩ := h.cpumap key' r hr
    exact ⟨f, List.mem_cons_of_mem _ hf, hrest⟩
  · intro r hr
    obtain ⟨f, hf, hrest⟩ := h.afxdp r hr
    exact ⟨f, List.mem_cons_of_mem _ hf, hrest⟩
  · intro r hr
    obtain ⟨f, hf, hrest⟩ := h.udp r hr
    exact ⟨f, List.mem_cons_of_mem _ hf, hrest⟩

theorem captureInv_measure {mode : ForwardingMode} {st : Capture ncpu N} (h : CaptureInv mode st)
    {f : Flight ncpu} {pre post : List (Flight ncpu × Bool)}
    (hf : st.inFlight = pre ++ (f, false) :: post) (hpath : f.path = .cpumap) (cpu : Fin ncpu)
    (ktimeNs : UInt64) :
    CaptureInv mode { st with
      kern := xdpCpumapMeasure st.kern cpu ktimeNs (some f.rx)
      inFlight := pre ++ (f, true) :: post } := by
  obtain ⟨hmem, hrest⟩ := h.flight hf
  obtain ⟨hingress, hcpumap⟩ := xdpCpumapMeasure_spec st.kern cpu ktimeNs f.rx
  obtain ⟨classified, hp, _, hm⟩ := h.honest f hmem
  -- the CPUMAP program rebuilds the key from the metadata
  have hkey : (⟨f.rx.flowId, 0, f.rx.sequence⟩ : PacketKey) = f.key := by
    rw [hm.flowId, hm.sequence, ← parsed_key_reserved hp.parsed]
  refine ⟨h.honest, h.unique, ?_, ?_, ?_, h.afxdp, h.udp⟩
  · intro p hp
    rcases List.mem_append.mp hp with hp | hp
    · exact hrest p (List.mem_append_left _ hp)
    · rcases List.mem_cons.mp hp with rfl | hp
      · exact hmem
      · exact hrest p (List.mem_append_right _ hp)
  · intro key' r hr
    dsimp only at hr
    rw [hingress] at hr
    exact h.ingress key' r hr
  · intro key' r hr
    dsimp only at hr
    rcases hcpumap with hc | hc
    · rw [hc] at hr
      exact h.cpumap key' r hr
    · rw [hc, BoundedMap.lookup_insert, hkey] at hr
      rcases Option.or_eq_some_iff.mp hr with hr | ⟨_, hr⟩
      · exact h.cpumap key' r hr
      · split at hr
        · rename_i hnew
          exact ⟨f, hmem, hnew.1.symm, hpath, _, _, (Option.some.inj hr).symm⟩
        · cases hr

/-- **The invariant survives every step.** -/
theorem captureInv_step {mode : ForwardingMode} {st st' : Capture ncpu N} {key : PacketKey}
    (h : CaptureInv mode st) (hstep : CaptureStep mode st key st') : CaptureInv mode st' := by
  cases hstep with
  | dispatch hp fresh hrx => exact captureInv_dispatch h hp fresh hrx
  | lose hf => exact ⟨h.honest, h.unique, (h.flight hf).2, h.ingress, h.cpumap, h.afxdp, h.udp⟩
  | measure hf hpath _ cpu ktimeNs _ => exact captureInv_measure h hf hpath cpu ktimeNs
  | @receiveXsk f _ _ _ hf hpath _ env hqueue mem dataAddr addr haddr id hclass mono real len
      hclock =>
    obtain ⟨hmem, hrest⟩ := h.flight hf
    refine ⟨h.honest, h.unique, hrest, h.ingress, h.cpumap, ?_, h.udp⟩
    intro r hr
    rcases List.mem_append.mp hr with hr | hr
    · exact h.afxdp r hr
    · obtain ⟨classified, hp, heff, hm⟩ := h.honest f hmem
      rw [hpath] at heff hm
      have hparsed := hp.parsed
      rw [effective_xsk mode classified heff.symm] at hparsed
      -- the receiver's identity of the packet is the kernel's key
      obtain ⟨id', hclass', hflow, hseq⟩ := classifyPacket_of_parse_xsk _ _ _ hparsed
      rw [hclass'] at hclass
      cases hclass
      rw [List.mem_singleton.mp hr]
      exact ⟨f, hmem, hpath, measuredRecord_honest hm hqueue mem haddr hflow hseq real len hclock⟩
  | @receiveUdp f _ _ _ hf hpath len mono real m hclock hm =>
    obtain ⟨hmem, hrest⟩ := h.flight hf
    refine ⟨h.honest, h.unique, hrest, h.ingress, h.cpumap, h.afxdp, ?_⟩
    intro r hr
    rcases List.mem_append.mp hr with hr | hr
    · exact h.udp r hr
    · obtain ⟨classified, hp, _, _⟩ := h.honest f hmem
      obtain ⟨_, _, _, _, hkey⟩ :=
        (parseExperimentPacket_eq_experiment_iff _ _ _ _).mp hp.parsed
      have hne : f.path ≠ .xsk := by
        rcases hpath with h | ⟨h, _⟩ <;> rw [h] <;> simp
      rw [List.mem_singleton.mp hr]
      exact ⟨f, hmem, hne,
        sampleRecordOf_honest (by rw [hkey]; rfl) (by rw [hkey]; rfl) len real hclock hm⟩

/-! ## The analyser's checks

Each check compares two views of a packet; on honest views none of them fires. -/

theorem validRequestedPath_code (path : RequestedPath) : validRequestedPath path.code = true := by
  cases path <;> decide

theorem positiveU64Value_isSome {x : UInt64} (h : 0 < x) : (positiveU64Value x).isSome = true := by
  simp [positiveU64Value, h]

section Checks

variable {ctx : XdpMd ncpu} {key : PacketKey} {path : RequestedPath} {rx : RxMeta}

/-- The flag tests shared by the ingress and AF_XDP records, on the two possible flag values. -/
theorem HonestMeta.flags_ok (hm : HonestMeta ctx key path rx) :
    (rx.flags &&& metaIngressRequired == metaIngressRequired) = true
      ∧ (rx.flags &&& metaCpumapSeen == 0) = true
      ∧ (rx.flags &&& ~~~metaKnownFlags == 0) = true
      ∧ metadataTimestampCoherent rx.flags rx.hwRxNs rx.timestampError = true := by
  rcases hm.timestamp with ⟨_, hf, _, hpos, herr⟩ | ⟨hf, hhw, herr⟩
  · rw [hf, herr]
    refine ⟨by decide, by decide, by decide, ?_⟩
    unfold metadataTimestampCoherent
    rw [if_neg (by decide), if_neg (by decide), if_pos (by decide), decide_eq_true hpos]
    decide
  · rw [hf, hhw]
    refine ⟨by decide, by decide, by decide, ?_⟩
    have hne : (rx.timestampError != 0) = true := by simpa using herr
    unfold metadataTimestampCoherent
    rw [if_neg (by decide), hne, if_neg (by decide), if_neg (by decide)]
    decide

theorem HonestMeta.ingress_ok (hm : HonestMeta ctx key path rx) :
    (ingressRecordOf key rx).coreValid = true ∧ (ingressRecordOf key rx).coherent = true := by
  obtain ⟨h1, h2, h3, h4⟩ := hm.flags_ok
  refine ⟨?_, h4⟩
  simp only [IngressRecord.coreValid, ingressRecordOf, h1, h2, h3, hm.path,
    validRequestedPath_code, positiveU64Value_isSome hm.initial, Bool.and_true]

theorem HonestMeta.ingress_hw (hm : HonestMeta ctx key path rx)
    (h : (ingressRecordOf key rx).hwValid = true) :
    ctx.rxTimestampErr = 0 ∧ rx.hwRxNs = ctx.rxTimestampNs := by
  rcases hm.timestamp with ⟨herr, _, hhw, _⟩ | ⟨hf, _⟩
  · exact ⟨herr, hhw⟩
  · simp only [IngressRecord.hwValid, ingressRecordOf, hf, Bool.and_eq_true] at h
    exact absurd h.2 (by decide)

theorem HonestMeta.cpumap_ok (hm : HonestMeta ctx key path rx) (cpu : UInt32) (t : UInt64) :
    (cpumapRecordOf cpu t rx).flagsOk = true
      ∧ (cpumapRecordOf cpu t rx).requestedPath = path.code := by
  refine ⟨?_, hm.path⟩
  rcases hm.timestamp with ⟨_, hf, _⟩ | ⟨hf, _⟩ <;>
    simp only [CpumapRecord.flagsOk, cpumapRecordOf, hf] <;> decide

theorem HonestXsk.core_ok {f : Flight ncpu} {r : XskUserRecord} (h : HonestXsk f r)
    (hm : HonestMeta f.ctx f.key .xsk f.rx) :
    r.coreValid r.metaFlags = true ∧ r.matchesIngress (ingressRecordOf f.key f.rx) = true := by
  obtain ⟨h1, h2, h3, h4⟩ := hm.flags_ok
  have hmono : (positiveValue r.userRxMonoNs.toNat).isSome = true := by
    have hpos : 0 < r.userRxMonoNs.toNat := UInt64.lt_iff_toNat_lt.mp h.clock
    simp [positiveValue, hpos]
  refine ⟨?_, ?_⟩
  · simp only [XskUserRecord.coreValid, h.validation, h.flags, h.path, hm.path, h.initial, h.hwRxNs,
      h.error, h1, h2, h3, h4, hmono, positiveU64Value_isSome hm.initial, Bool.and_true]
    decide
  · simp [XskUserRecord.matchesIngress, ingressRecordOf, h.rxQueue, h.hwRxNs, h.initial, h.flags,
      h.path, h.error]

end Checks

theorem any_false {α : Type} {x : Option α} {p : α → Bool} (h : ∀ y, x = some y → p y = false) :
    x.any p = false := by
  cases x with
  | none => rfl
  | some y => exact h y rfl

/-- **Records of one honest packet are never flagged.** Whichever of them are present, each check
of the analyser passes. -/
theorem honest_flags_zero {f : Flight ncpu} (hm : HonestMeta f.ctx f.key f.path f.rx)
    (s : Sources) (hI : ∀ i, s.ingress = some i → i = ingressRecordOf f.key f.rx)
    (hC : ∀ c, s.cpumap = some c → f.path = .cpumap ∧ ∃ cpu t, c = cpumapRecordOf cpu t f.rx)
    (hA : ∀ a, s.afxdp = some a → f.path = .xsk ∧ HonestXsk f a)
    (hU : ∀ u, s.udp = some u → f.path ≠ .xsk ∧ HonestUdp f u) (hF : s.afxdpFlags = none) :
    s.inconsistencies = 0 := by
  obtain ⟨hcore, hcoh⟩ := hm.ingress_ok
  have hIpath : ∀ i, s.ingress = some i → i.requestedPath = f.path.code := by
    intro i hi
    rw [hI i hi]
    exact hm.path
  rw [Sources.inconsistencies_eq_zero_iff]
  refine ⟨?_, ?_, ?_, ?_, ?_, ?_, ?_, ?_, ?_, ?_⟩
  -- the ingress record: its path, then its flags
  · refine any_false fun i hi => ?_
    rw [hIpath i hi, validRequestedPath_code]
    rfl
  · refine any_false fun i hi => ?_
    rw [hI i hi, hcore, hcoh]
    rfl
  -- the CPUMAP record: its path, its flags, and its path against the ingress record's
  · refine any_false fun c hc => ?_
    obtain ⟨hp, cpu, t, rfl⟩ := hC c hc
    rw [(hm.cpumap_ok cpu t).2, hp]
    rfl
  · refine any_false fun c hc => ?_
    obtain ⟨_, cpu, t, rfl⟩ := hC c hc
    rw [(hm.cpumap_ok cpu t).1]
    rfl
  · refine any_false fun c hc => any_false fun i hi => ?_
    obtain ⟨hp, cpu, t, rfl⟩ := hC c hc
    rw [(hm.cpumap_ok cpu t).2, hIpath i hi, hp]
    rfl
  -- the AF_XDP record, alone and against the ingress record
  · refine any_false fun a ha => ?_
    obtain ⟨hp, hx⟩ := hA a ha
    rw [Bool.or_eq_false_iff]
    refine ⟨?_, any_false fun i hi => ?_⟩
    · rw [hx.path, hm.path, hp]
      rfl
    · rw [hIpath i hi, hp]
      rfl
  · cases ha : s.afxdp with
    | none => simp [Sources.badAfXdpMetadata, ha]
    | some a =>
      obtain ⟨hp, hx⟩ := hA a ha
      obtain ⟨hxcore, hmatch⟩ := hx.core_ok (hp ▸ hm)
      have hall : (s.ingress.all fun i => a.matchesIngress i) = true := by
        cases hi : s.ingress with
        | none => rfl
        | some i => rw [hI i hi]; exact hmatch
      simp [Sources.badAfXdpMetadata, Sources.afxdpMetadataConsistent, Sources.afxdpCore, ha, hF,
        hxcore, hall]
  -- the UDP record: never on the XSK path, and its timestamp is the driver's
  · cases hu : s.udp with
    | none => simp [Sources.badUdpPath, hu]
    | some u =>
      obtain ⟨hp, _⟩ := hU u hu
      have hnot : (s.ingress.any fun i => i.requestedPath == acePathXsk) = false := by
        refine any_false fun i hi => ?_
        rw [hIpath i hi]
        cases hfp : f.path with
        | pass => rfl
        | cpumap => rfl
        | xsk => exact absurd hfp hp
      simp [Sources.badUdpPath, hnot]
  · cases hu : s.udp with
    | none => simp [Sources.badUdpFlags, hu]
    | some u =>
      obtain ⟨_, hx⟩ := hU u hu
      -- both timestamps valid means both are the driver's
      have hcross : (u.hwValid && s.ingress.any fun i =>
          i.hwValid && u.hwRxNs.toInt != (i.hwRxNs.toNat : Int)) = false := by
        cases huv : u.hwValid with
        | false => rfl
        | true =>
          rw [Bool.true_and]
          refine any_false fun i hi => ?_
          rw [hI i hi]
          cases hiv : (ingressRecordOf f.key f.rx).hwValid with
          | false => rfl
          | true =>
            obtain ⟨herr, hhw⟩ := hm.ingress_hw hiv
            have hsame := hx.sameHw herr huv
            simp [ingressRecordOf, hhw, hsame]
      simp [Sources.badUdpFlags, Sources.udpValid, hu, hx.selfValid, hcross]
  -- one path, so not both user records
  · intro hamb
    cases ha : s.afxdp with
    | none => cases hu : s.udp <;> simp [Sources.userSource, ha, hu] at hamb
    | some a =>
      cases hu : s.udp with
      | none => simp [Sources.userSource, ha, hu] at hamb
      | some u => exact (hU u hu).1 (hA a ha).1

/-! ## Records found by key

The joiner looks records up by key, so it compares views of one packet. -/

/-- The packet behind an AF_XDP record found under a key was dispatched under that key. -/
theorem CaptureInv.afxdp_found {mode : ForwardingMode} {st : Capture ncpu N}
    (h : CaptureInv mode st) {key : PacketKey} (hkey : key.reserved = 0) {a : XskUserRecord}
    (ha : (st.sources key).afxdp = some a) :
    ∃ f ∈ st.dispatched, f.key = key ∧ f.path = .xsk ∧ HonestXsk f a := by
  obtain ⟨f, hf, hpath, hx⟩ := h.afxdp a (List.mem_of_find?_eq_some ha)
  obtain ⟨_, hp, _⟩ := h.honest f hf
  have hfound := List.find?_some ha
  simp only [Bool.and_eq_true, beq_iff_eq] at hfound
  refine ⟨f, hf, ?_, hpath, hx⟩
  rw [PacketKey.ext_iff, ← hx.flowId, ← hx.sequence, parsed_key_reserved hp.parsed, hkey]
  exact ⟨hfound.1, rfl, hfound.2⟩

theorem CaptureInv.udp_found {mode : ForwardingMode} {st : Capture ncpu N}
    (h : CaptureInv mode st) {key : PacketKey} (hkey : key.reserved = 0) {u : SampleRecord}
    (hu : (st.sources key).udp = some u) :
    ∃ f ∈ st.dispatched, f.key = key ∧ f.path ≠ .xsk ∧ HonestUdp f u := by
  obtain ⟨f, hf, hpath, hx⟩ := h.udp u (List.mem_of_find?_eq_some hu)
  obtain ⟨_, hp, _⟩ := h.honest f hf
  have hfound := List.find?_some hu
  simp only [Bool.and_eq_true, beq_iff_eq] at hfound
  refine ⟨f, hf, ?_, hpath, hx⟩
  rw [PacketKey.ext_iff, ← hx.flowId, ← hx.seq, parsed_key_reserved hp.parsed, hkey]
  exact ⟨hfound.1, rfl, hfound.2⟩

theorem captureInv_init {mode : ForwardingMode} {st : Capture ncpu N}
    (h : (captureSystem mode).init st) : CaptureInv mode st := by
  have hst : st = ⟨KernState.init, [], [], [], []⟩ := h
  subst hst
  refine ⟨by simp, by simp, by simp, ?_, ?_, by simp, by simp⟩ <;>
    simp [KernState.init, BoundedMap.lookup, BoundedMap.empty]

theorem inconsistencies_empty : (⟨none, none, none, none, none⟩ : Sources).inconsistencies = 0 := by
  decide

/-- **Honest captures are never flagged.** In every state the capture of any forwarding mode can
reach, the row of every key, under every calibration, has no inconsistency flag. -/
theorem honest_capture_unflagged (mode : ForwardingMode) (st : Capture ncpu N)
    (hst : (captureSystem mode).Reachable st) (flowId : UInt32) (sequence : UInt64)
    (c : Calibration) (clamp : Bool) :
    (joinedRow (flowId, sequence) (st.sources ⟨flowId, 0, sequence⟩) c clamp).inconsistencyFlags
      = 0 := by
  have hinv : CaptureInv mode st := hst.induct (P := CaptureInv mode)
    (fun _ => captureInv_init) (fun _ _ _ _ h hstep => captureInv_step h hstep)
  show (st.sources ⟨flowId, 0, sequence⟩).inconsistencies = 0
  have hres : (⟨flowId, 0, sequence⟩ : PacketKey).reserved = 0 := rfl
  generalize (⟨flowId, 0, sequence⟩ : PacketKey) = key at hres
  by_cases hdisp : ∃ f ∈ st.dispatched, f.key = key
  -- every record of the key comes from the one packet dispatched under it
  · obtain ⟨f, hf, rfl⟩ := hdisp
    obtain ⟨_, _, _, hm⟩ := hinv.honest f hf
    refine honest_flags_zero hm _ ?_ ?_ ?_ ?_ rfl
    · intro i hi
      obtain ⟨g, hg, hk, hrec⟩ := hinv.ingress _ i hi
      rw [hrec, hinv.unique g hg f hf hk]
    · intro cm hcm
      obtain ⟨g, hg, hk, hpath, hrec⟩ := hinv.cpumap _ cm hcm
      rw [hinv.unique g hg f hf hk] at hpath hrec
      exact ⟨hpath, hrec⟩
    · intro a ha
      obtain ⟨g, hg, hk, hpath, hx⟩ := hinv.afxdp_found hres ha
      rw [hinv.unique g hg f hf hk] at hpath hx
      exact ⟨hpath, hx⟩
    · intro u hu
      obtain ⟨g, hg, hk, hpath, hx⟩ := hinv.udp_found hres hu
      rw [hinv.unique g hg f hf hk] at hpath hx
      exact ⟨hpath, hx⟩
  -- a key nothing was dispatched under has no records
  · have hnone : st.sources key = ⟨none, none, none, none, none⟩ := by
      rw [Sources.mk.injEq]
      refine ⟨?_, ?_, ?_, ?_, rfl⟩
      · refine Option.eq_none_iff_forall_ne_some.mpr fun i hi => ?_
        obtain ⟨f, hf, hk, _⟩ := hinv.ingress _ i hi
        exact hdisp ⟨f, hf, hk⟩
      · refine Option.eq_none_iff_forall_ne_some.mpr fun cm hcm => ?_
        obtain ⟨f, hf, hk, _⟩ := hinv.cpumap _ cm hcm
        exact hdisp ⟨f, hf, hk⟩
      · refine Option.eq_none_iff_forall_ne_some.mpr fun a ha => ?_
        obtain ⟨f, hf, hk, _⟩ := hinv.afxdp_found hres ha
        exact hdisp ⟨f, hf, hk⟩
      · refine Option.eq_none_iff_forall_ne_some.mpr fun u hu => ?_
        obtain ⟨f, hf, hk, _⟩ := hinv.udp_found hres hu
        exact hdisp ⟨f, hf, hk⟩
    rw [hnone, inconsistencies_empty]

/-- The packet is dispatched, measured on the CPUMAP CPU and received over UDP with the same
hardware timestamp: four records, no flag. -/
theorem honest_capture_cpumap :
    ∃ st : Capture 4 16, (captureSystem .mixed).Reachable st ∧ st.udp.length = 1
      ∧ (st.sources ⟨1, 0, 7⟩).cpumap.isSome
      ∧ (joinedRow (1, 7) (st.sources ⟨1, 0, 7⟩) ⟨[⟨0, 0⟩], by simp, by simp⟩
          true).inconsistencyFlags = 0 := by
  have hpacket : HonestPacket (cpumapArrival (1 : Fin 4)) ⟨1, 0, 7⟩ .cpumap :=
    ⟨by decide +kernel, rfl, rfl, by decide, Or.inl ⟨rfl, by decide, by decide⟩⟩
  have hdispatch := Reachable.step
    (S := (captureSystem .mixed : System (Capture 4 16) PacketKey)) (.init rfl)
    (.dispatch hpacket (by simp) (xdpDispatch_honest .mixed KernState.init hpacket).1)
  have hmeasure := Reachable.step hdispatch
    (.measure (show _ = [] ++ (_, false) :: [] from rfl) rfl rfl 3 2000 (by decide))
  have hudp := Reachable.step hmeasure
    (.receiveUdp (show _ = [] ++ (_, true) :: [] from rfl) (Or.inr ⟨rfl, Or.inl rfl⟩) 32 3000 0
      ⟨false, some 500⟩ (by decide) (by intro v hv; cases hv; decide))
  exact ⟨_, hudp, rfl, by decide +kernel,
    honest_capture_unflagged .mixed _ hudp 1 7 ⟨[⟨0, 0⟩], by simp, by simp⟩ true⟩

end AceXdp
