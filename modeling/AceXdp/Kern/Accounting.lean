import AceXdp.Kern.Dispatch
import Mathlib.Algebra.Order.BigOperators.Group.Finset

/-!
# AceXdp — counter balance and the write-once ingress log of `xdp_dispatch`

Twenty-one counters are bumped in five functions with early returns and fall-throughs. The
balance is proved once per function (`recordIngress`, `dispatchRequestedPath`) and once for the
whole program (`xdpDispatch_balanced`), then carried along every sequence of packets
(`runDispatch_balanced`). The ingress map is the write-once map of `WriteOnce`, driven by the
log of prepared packets (`runDispatch_ingress`).
-/

namespace AceXdp

open WriteOnce

variable {ncpu N : Nat}

/-! ## Counters summed over CPUs

The loader only ever looks at sums over the CPUs. A bump adds one to its own sum on whatever CPU it
happens, so a run of the program is a list of counter ids. -/

/-- One bump adds one to its own counter and nothing to any other, whatever the CPU. -/
theorem statTotal_countStat (stats : Stats ncpu) (cpu : Fin ncpu) (id i : Stat) :
    statTotal (countStat stats cpu id) i = statTotal stats i + if i = id then 1 else 0 := by
  unfold statTotal countStat
  by_cases hi : i = id
  · have hsplit : ∀ c, (if c = cpu ∧ i = id then stats c i + 1 else stats c i)
        = stats c i + if c = cpu then 1 else 0 := by
      intro c
      by_cases hc : c = cpu <;> simp [hc, hi]
    simp only [hsplit, Finset.sum_add_distrib, Finset.sum_ite_eq', Finset.mem_univ, if_true,
      if_pos hi]
  · simp [hi]

def bumpAll (stats : Stats ncpu) (cpu : Fin ncpu) (ids : List Stat) : Stats ncpu :=
  ids.foldl (fun stats id => countStat stats cpu id) stats

theorem bumpAll_append (stats : Stats ncpu) (cpu : Fin ncpu) (ids ids' : List Stat) :
    bumpAll (bumpAll stats cpu ids) cpu ids' = bumpAll stats cpu (ids ++ ids') := by
  simp [bumpAll, List.foldl_append]

theorem bumpAll_apply (cpu : Fin ncpu) (ids : List Stat) (c : Fin ncpu) (i : Stat) :
    ∀ stats : Stats ncpu, bumpAll stats cpu ids c i
      = stats c i + if c = cpu then ids.count i else 0 := by
  induction ids with
  | nil => intro stats; simp [bumpAll]
  | cons id ids ih =>
    intro stats
    have hcons : bumpAll stats cpu (id :: ids) = bumpAll (countStat stats cpu id) cpu ids := rfl
    rw [hcons, ih, countStat, List.count_cons]
    by_cases hc : c = cpu
    · by_cases hi : i = id
      · simp [hc, hi]; omega
      · simp [hc, hi, Ne.symm hi]
    · simp [hc]

theorem statTotal_bumpAll (cpu : Fin ncpu) (ids : List Stat) (i : Stat) :
    ∀ stats : Stats ncpu, statTotal (bumpAll stats cpu ids) i
      = statTotal stats i + ids.count i := by
  induction ids with
  | nil => intro stats; simp [bumpAll]
  | cons id ids ih =>
    intro stats
    have hcons : bumpAll stats cpu (id :: ids) = bumpAll (countStat stats cpu id) cpu ids := rfl
    rw [hcons, ih, statTotal_countStat, List.count_cons]
    by_cases hi : i = id
    · simp [hi]; omega
    · simp [hi, Ne.symm hi]

@[simp] theorem KernState.count_total (s : KernState ncpu N) (cpu : Fin ncpu) (id i : Stat) :
    statTotal (s.count cpu id).stats i = statTotal s.stats i + if i = id then 1 else 0 :=
  statTotal_countStat s.stats cpu id i

@[simp] theorem KernState.count_ingress (s : KernState ncpu N) (cpu : Fin ncpu) (id : Stat) :
    (s.count cpu id).ingress = s.ingress := rfl

@[simp] theorem KernState.count_cpumap (s : KernState ncpu N) (cpu : Fin ncpu) (id : Stat) :
    (s.count cpu id).cpumap = s.cpumap := rfl

/-! ## The balance equations

Three equations over the sums, and the size of the ingress map. -/

/-- Packets that got metadata: the common value of the second balance equation. -/
def preparedTotal (stats : Stats ncpu) : Nat :=
  statTotal stats .hwtsValid + statTotal stats .hwtsError

/-- The counter equations and the size of the ingress map. -/
structure Balanced (s : KernState ncpu N) : Prop where
  actions : statTotal s.stats .total
    = statTotal s.stats .pass + statTotal s.stats .cpumap + statTotal s.stats .xsk
  ingress : preparedTotal s.stats
    = statTotal s.stats .ingressRecorded + statTotal s.stats .ingressDuplicate
      + statTotal s.stats .ingressUpdateError
  paths : preparedTotal s.stats
    = statTotal s.stats .experimentPass + statTotal s.stats .cpumap + statTotal s.stats .xsk
      + statTotal s.stats .cpumapFallback + statTotal s.stats .xskFallback
  entries : s.ingress.size = statTotal s.stats .ingressRecorded

theorem balanced_init : Balanced (KernState.init : KernState ncpu N) where
  actions := by simp [KernState.init, statTotal]
  ingress := by simp [KernState.init, preparedTotal, statTotal]
  paths := by simp [KernState.init, preparedTotal, statTotal]
  entries := by simp [KernState.init, statTotal, BoundedMap.size, BoundedMap.empty]

/-! ## One function at a time

Which counters a function bumps, and what it does to the maps. -/

theorem parseUdpPayload_counted (pkt : Nat → UInt8) (len : Nat) (path : RequestedPath)
    {id : Stat} (h : (parseUdpPayload pkt len path).counted = some id) :
    id = .packetHeaderInvalid := by
  unfold parseUdpPayload at h
  simp only at h
  split at h
  · simpa [ParseResult.counted] using h.symm
  · split at h
    · simpa [ParseResult.counted] using h.symm
    · simp [ParseResult.counted] at h

/-- The counters the parser bumps are none of those in the balance. -/
theorem parse_counted (pkt : Nat → UInt8) (len : Nat) {id : Stat}
    (h : (parseExperimentPacket pkt len).counted = some id) :
    id = .ipv4Invalid ∨ id = .ipv4Fragment ∨ id = .packetHeaderInvalid := by
  unfold parseExperimentPacket at h
  -- every early return carries a literal counter; the tail is `parseUdpPayload`
  repeat' split at h
  all_goals first
    | exact Or.inr (Or.inr (parseUdpPayload_counted pkt len _ h))
    | simp only [ParseResult.counted, Option.some.injEq, reduceCtorEq] at h
  all_goals simp [← h]

/-- `record_ingress` bumps exactly one of its three counters, and the map grows exactly with
the first of them. -/
theorem recordIngress_spec (s : KernState ncpu N) (cpu : Fin ncpu) (key : PacketKey)
    (rx : RxMeta) :
    (recordIngress s cpu key rx).ingress = (s.ingress.insert key (ingressRecordOf key rx)).2
      ∧ ∃ id, (id = .ingressRecorded ∨ id = .ingressDuplicate ∨ id = .ingressUpdateError)
        ∧ (recordIngress s cpu key rx).stats = countStat s.stats cpu id
        ∧ (s.ingress.insert key (ingressRecordOf key rx)).2.size
            = s.ingress.size + if id = .ingressRecorded then 1 else 0 := by
  unfold recordIngress
  have hsize := s.ingress.size_insert key (ingressRecordOf key rx)
  cases hins : s.ingress.insert key (ingressRecordOf key rx) with
  | mk err ingress =>
    rw [hins] at hsize
    cases err with
    | inserted => exact ⟨rfl, .ingressRecorded, by simp, rfl, by simpa using hsize⟩
    | present => exact ⟨rfl, .ingressDuplicate, by simp, rfl, by simpa using hsize⟩
    | full => exact ⟨rfl, .ingressUpdateError, by simp, rfl, by simpa using hsize⟩

@[simp] theorem recordIngress_cpumap (s : KernState ncpu N) (cpu : Fin ncpu) (key : PacketKey)
    (rx : RxMeta) : (recordIngress s cpu key rx).cpumap = s.cpumap := by
  unfold recordIngress
  cases s.ingress.insert key (ingressRecordOf key rx) with
  | mk err ingress => cases err <;> rfl

/-! ## One run of the program

A packet is turned away, with one side counter at most, or prepared, logged and sent on its path.
Every statement about a run is read off these two cases. -/

/-- The packet as the ingress log sees it: the key and metadata of a packet that parsed as an
experiment packet and got its metadata. -/
def preparedPacket (mode : ForwardingMode) (ctx : XdpMd ncpu) : Option (PacketKey × RxMeta) :=
  match ctx.parsed with
  | .experiment key classified =>
    if ctx.adjustMetaFails ∨ ctx.metaOutOfBounds then none
    else some (key, measurementMeta ctx key (effectiveRequestedPath mode classified))
  | _ => none

/-- The counters that stand outside the balance: one for each way a packet is turned away. -/
def IsSideStat (id : Stat) : Prop :=
  id = .ipv4Invalid ∨ id = .ipv4Fragment ∨ id = .packetHeaderInvalid
    ∨ id = .metaAdjustError ∨ id = .metaBoundsError

/-- A turned-away packet: `total`, at most one side counter, then `pass`. -/
structure TurnedAway (cpu : Fin ncpu) (s s' : KernState ncpu N) : Prop where
  ingress : s'.ingress = s.ingress
  cpumap : s'.cpumap = s.cpumap
  stats : ∃ side : Option Stat, (∀ id, side = some id → IsSideStat id)
    ∧ s'.stats = bumpAll s.stats cpu (.total :: side.toList ++ [.pass])

theorem countParsed_turnedAway (s : KernState ncpu N) (ctx : XdpMd ncpu) :
    TurnedAway ctx.cpu s
      (((s.count ctx.cpu .total).countParsed ctx.cpu ctx.parsed).count ctx.cpu .pass) := by
  unfold KernState.countParsed
  cases hc : ctx.parsed.counted with
  | none => exact ⟨rfl, rfl, none, by simp, rfl⟩
  | some id =>
    refine ⟨rfl, rfl, some id, ?_, rfl⟩
    intro id' hid
    cases hid
    rcases parse_counted _ _ hc with h | h | h <;> simp [IsSideStat, h]

/-- Before the metadata is prepared, an experiment packet has only been counted in `total`. -/
theorem countParsed_experiment (s : KernState ncpu N) (cpu : Fin ncpu) (key : PacketKey)
    (path : RequestedPath) : s.countParsed cpu (.experiment key path) = s := rfl

/-- The state a prepared packet leaves before its path is dispatched: `total`, the timestamp
outcome, and the ingress log. -/
def preparedState (s : KernState ncpu N) (ctx : XdpMd ncpu) (key : PacketKey) (rx : RxMeta) :
    KernState ncpu N :=
  recordIngress ((s.count ctx.cpu .total).count ctx.cpu
    (if ctx.rxTimestampErr = 0 then .hwtsValid else .hwtsError)) ctx.cpu key rx

/-- **Inversion of `xdp_dispatch`.** Either the packet is turned away, or it is prepared,
logged under its own key and handed to its effective path. -/
theorem xdpDispatch_cases (mode : ForwardingMode) (s : KernState ncpu N) (ctx : XdpMd ncpu) :
    (preparedPacket mode ctx = none ∧ (xdpDispatch mode s ctx).2 = ⟨.pass, none⟩
        ∧ TurnedAway ctx.cpu s (xdpDispatch mode s ctx).1)
      ∨ ∃ key classified path rx r, ctx.parsed = .experiment key classified
        ∧ path = effectiveRequestedPath mode classified
        ∧ rx = measurementMeta ctx key path
        ∧ preparedPacket mode ctx = some (key, rx)
        ∧ r = dispatchRequestedPath (preparedState s ctx key rx) ctx path
        ∧ xdpDispatch mode s ctx = (r.1, ⟨r.2, some rx⟩) := by
  have haway := countParsed_turnedAway s ctx
  cases hp : ctx.parsed with
  | unrelated c =>
    left
    rw [hp] at haway
    exact ⟨by simp [preparedPacket, hp], by simp [xdpDispatch, hp],
      by simpa [xdpDispatch, hp] using haway⟩
  | headerInvalid =>
    left
    rw [hp] at haway
    exact ⟨by simp [preparedPacket, hp], by simp [xdpDispatch, hp],
      by simpa [xdpDispatch, hp] using haway⟩
  | experiment key classified =>
    -- both failures of the preparation come after `total` and before anything is logged
    by_cases hadj : ctx.adjustMetaFails = true
    · left
      refine ⟨by simp [preparedPacket, hp, hadj],
        by simp [xdpDispatch, hp, prepareMeasurementMetadata, hadj], ?_⟩
      simp only [xdpDispatch, hp, countParsed_experiment, prepareMeasurementMetadata, hadj,
        if_true]
      exact ⟨rfl, rfl, some .metaAdjustError, by simp [IsSideStat], rfl⟩
    · by_cases hoob : ctx.metaOutOfBounds = true
      · left
        refine ⟨by simp [preparedPacket, hp, hoob],
          by simp [xdpDispatch, hp, prepareMeasurementMetadata, hadj, hoob], ?_⟩
        simp only [xdpDispatch, hp, countParsed_experiment, prepareMeasurementMetadata, hadj,
          hoob, if_true]
        exact ⟨rfl, rfl, some .metaBoundsError, by simp [IsSideStat], rfl⟩
      · right
        refine ⟨key, classified, _, _, _, rfl, rfl, rfl,
          by simp [preparedPacket, hp, hadj, hoob], rfl, ?_⟩
        simp only [xdpDispatch, hp, countParsed_experiment, prepareMeasurementMetadata, hadj,
          hoob, preparedState, Bool.false_eq_true, if_false]

/-- The counters `dispatch_requested_path` bumps. -/
def dispatchStats (ctx : XdpMd ncpu) : RequestedPath → List Stat
  | .cpumap => if ctx.redirectAccepted then [.cpumap] else [.cpumapFallback, .pass]
  | .xsk => if ctx.redirectAccepted then [.xsk] else [.xskFallback, .pass]
  | .pass => [.experimentPass, .pass]

theorem dispatchRequestedPath_spec (s : KernState ncpu N) (ctx : XdpMd ncpu)
    (path : RequestedPath) :
    (dispatchRequestedPath s ctx path).1.ingress = s.ingress
      ∧ (dispatchRequestedPath s ctx path).1.cpumap = s.cpumap
      ∧ (dispatchRequestedPath s ctx path).1.stats
          = bumpAll s.stats ctx.cpu (dispatchStats ctx path) := by
  cases hr : ctx.redirectAccepted with
  | true => cases path <;> simp only [dispatchRequestedPath, dispatchStats, hr, if_true] <;>
      exact ⟨rfl, rfl, rfl⟩
  | false => cases path <;> simp only [dispatchRequestedPath, dispatchStats, hr] <;>
      exact ⟨rfl, rfl, rfl⟩

/-- One action counter and one path counter are bumped, and no other of the balance. -/
theorem dispatchStats_balanced (ctx : XdpMd ncpu) (path : RequestedPath) :
    (dispatchStats ctx path).count .pass + (dispatchStats ctx path).count .cpumap
        + (dispatchStats ctx path).count .xsk = 1
      ∧ (dispatchStats ctx path).count .experimentPass + (dispatchStats ctx path).count .cpumap
          + (dispatchStats ctx path).count .xsk + (dispatchStats ctx path).count .cpumapFallback
          + (dispatchStats ctx path).count .xskFallback = 1
      ∧ (dispatchStats ctx path).count .total = 0
      ∧ (dispatchStats ctx path).count .hwtsValid + (dispatchStats ctx path).count .hwtsError = 0
      ∧ (dispatchStats ctx path).count .ingressRecorded = 0
      ∧ (dispatchStats ctx path).count .ingressDuplicate
          + (dispatchStats ctx path).count .ingressUpdateError = 0 := by
  cases path <;> unfold dispatchStats <;> cases ctx.redirectAccepted <;> decide

theorem Balanced.bump {s s' : KernState ncpu N} (h : Balanced s) {f : Stat → Nat}
    (hf : ∀ i, statTotal s'.stats i = statTotal s.stats i + f i)
    (hact : f .total = f .pass + f .cpumap + f .xsk)
    (hing : f .hwtsValid + f .hwtsError
      = f .ingressRecorded + f .ingressDuplicate + f .ingressUpdateError)
    (hpath : f .hwtsValid + f .hwtsError
      = f .experimentPass + f .cpumap + f .xsk + f .cpumapFallback + f .xskFallback)
    (hent : s'.ingress.size = s.ingress.size + f .ingressRecorded) : Balanced s' := by
  obtain ⟨h1, h2, h3, h4⟩ := h
  simp only [preparedTotal] at h2 h3
  refine ⟨?_, ?_, ?_, ?_⟩ <;> simp only [preparedTotal, hf] <;> omega

/-- A turned-away packet keeps the balance: it bumps `total` and `pass`, and at most one
counter that is not in it. -/
theorem TurnedAway.balanced {cpu : Fin ncpu} {s s' : KernState ncpu N}
    (haway : TurnedAway cpu s s') (h : Balanced s) : Balanced s' := by
  obtain ⟨hi, _, side, hside, hst⟩ := haway
  refine h.bump (f := fun i => (Stat.total :: side.toList ++ [Stat.pass]).count i) ?_ ?_ ?_ ?_ ?_
  · intro i
    rw [hst, statTotal_bumpAll]
  all_goals
    cases side with
    | none => simp [hi]
    | some id => rcases hside id rfl with rfl | rfl | rfl | rfl | rfl <;> simp [hi]

def hwtsStat (ctx : XdpMd ncpu) : Stat :=
  if ctx.rxTimestampErr = 0 then .hwtsValid else .hwtsError

theorem hwtsStat_cases (ctx : XdpMd ncpu) :
    hwtsStat ctx = .hwtsValid ∨ hwtsStat ctx = .hwtsError := by
  unfold hwtsStat
  by_cases herr : ctx.rxTimestampErr = 0
  · exact Or.inl (if_pos herr)
  · exact Or.inr (if_neg herr)

/-- Preparation bumps `total`, one timestamp counter and one ingress counter, and the map grows
exactly with `ingressRecorded`. -/
theorem preparedState_spec (s : KernState ncpu N) (ctx : XdpMd ncpu) (key : PacketKey)
    (rx : RxMeta) :
    (preparedState s ctx key rx).ingress = (s.ingress.insert key (ingressRecordOf key rx)).2
      ∧ (preparedState s ctx key rx).cpumap = s.cpumap
      ∧ ∃ id, (id = .ingressRecorded ∨ id = .ingressDuplicate ∨ id = .ingressUpdateError)
        ∧ (preparedState s ctx key rx).stats = bumpAll s.stats ctx.cpu [.total, hwtsStat ctx, id]
        ∧ (preparedState s ctx key rx).ingress.size
            = s.ingress.size + if id = .ingressRecorded then 1 else 0 := by
  obtain ⟨hri, id, hid, hrs, hsz⟩ := recordIngress_spec
    ((s.count ctx.cpu .total).count ctx.cpu (hwtsStat ctx)) ctx.cpu key rx
  refine ⟨hri, recordIngress_cpumap _ _ _ _, id, hid, hrs, ?_⟩
  have hing : (preparedState s ctx key rx).ingress = _ := hri
  rw [hing, hsz]
  rfl

/-- **The balance survives one run of the program.** -/
theorem xdpDispatch_balanced (mode : ForwardingMode) (s : KernState ncpu N) (ctx : XdpMd ncpu)
    (h : Balanced s) : Balanced (xdpDispatch mode s ctx).1 := by
  rcases xdpDispatch_cases mode s ctx with ⟨_, _, haway⟩ | ⟨key, _, path, rx, r, _, _, _, _, hr, hx⟩
  · exact haway.balanced h
  -- the prepared packet: `total`, one timestamp counter, one ingress counter, one path
  · obtain ⟨hdi, _, hds⟩ := dispatchRequestedPath_spec (preparedState s ctx key rx) ctx path
    obtain ⟨_, _, id, hid, hprep, hsz⟩ := preparedState_spec s ctx key rx
    obtain ⟨hfact, hfpath, hft, hfh, hfr, hfi⟩ := dispatchStats_balanced ctx path
    have hhw := hwtsStat_cases ctx
    generalize hwtsStat ctx = hw at hprep hhw
    rw [hx, hr]
    refine h.bump (f := fun i => ([Stat.total, hw, id] ++ dispatchStats ctx path).count i)
      ?_ ?_ ?_ ?_ ?_
    · intro i
      rw [hds, hprep, bumpAll_append, statTotal_bumpAll]
    all_goals
      simp only [List.count_append, hdi, hsz]
      rcases hid with rfl | rfl | rfl <;> rcases hhw with rfl | rfl <;> simp <;> omega

/-- The metadata carries the packet's own key and its effective path, on both outcomes of the
timestamp kfunc. -/
theorem measurementMeta_key (ctx : XdpMd ncpu) (key : PacketKey) (path : RequestedPath) :
    (measurementMeta ctx key path).flowId = key.flowId
      ∧ (measurementMeta ctx key path).sequence = key.sequence
      ∧ (measurementMeta ctx key path).requestedPath = path.code := by
  unfold measurementMeta
  by_cases herr : ctx.rxTimestampErr = 0 <;> simp [herr, baseMeta]

/-- The four counters of the CPUMAP program. -/
def IsTerminalStat (id : Stat) : Prop :=
  id = .cpumapMetaInvalid ∨ id = .cpumapRecorded ∨ id = .cpumapDuplicate ∨ id = .cpumapUpdateError

/-- The packet left for the CPUMAP queue: redirected, with CPUMAP metadata. -/
def DispatchOut.toCpumap (out : DispatchOut) : Bool :=
  decide (out.action = .redirect) &&
    out.rxMeta.any fun rx => rx.requestedPath == RequestedPath.cpumap.code

theorem dispatchStats_terminal (ctx : XdpMd ncpu) (path : RequestedPath) {id : Stat}
    (h : IsTerminalStat id) : (dispatchStats ctx path).count id = 0 := by
  cases path <;> unfold dispatchStats <;> cases ctx.redirectAccepted <;>
    rcases h with rfl | rfl | rfl | rfl <;> decide

theorem dispatchStats_cpumap (s : KernState ncpu N) (ctx : XdpMd ncpu) (path : RequestedPath) :
    (dispatchStats ctx path).count .cpumap
      = if (decide ((dispatchRequestedPath s ctx path).2 = .redirect)
          && path.code == RequestedPath.cpumap.code) then 1 else 0 := by
  cases hr : ctx.redirectAccepted with
  | true => cases path <;> simp [dispatchRequestedPath, dispatchStats, hr, RequestedPath.code]
  | false => cases path <;> simp [dispatchRequestedPath, dispatchStats, hr]

/-- **The request counter counts exactly the frames that leave for the CPUMAP queue**, on their
CPU; the CPUMAP program's own counters and its map are untouched. -/
theorem xdpDispatch_bumps (mode : ForwardingMode) (s : KernState ncpu N) (ctx : XdpMd ncpu) :
    (xdpDispatch mode s ctx).1.cpumap = s.cpumap
      ∧ ∃ ids, (xdpDispatch mode s ctx).1.stats = bumpAll s.stats ctx.cpu ids
        ∧ (∀ id, IsTerminalStat id → ids.count id = 0)
        ∧ ids.count .cpumap = if (xdpDispatch mode s ctx).2.toCpumap then 1 else 0 := by
  rcases xdpDispatch_cases mode s ctx with ⟨_, hout, haway⟩ | ⟨key, classified, path, rx, r, _,
    _, hrx, _, hr, hx⟩
  -- turned away: `total`, `pass` and at most one counter of its own
  · obtain ⟨_, hcpumap, side, hside, hst⟩ := haway
    refine ⟨hcpumap, _, hst, ?_, ?_⟩
    · intro id hid
      cases side with
      | none => rcases hid with rfl | rfl | rfl | rfl <;> decide
      | some sid =>
        rcases hside sid rfl with rfl | rfl | rfl | rfl | rfl <;>
          rcases hid with rfl | rfl | rfl | rfl <;> decide
    · rw [hout]
      cases side with
      | none => decide
      | some sid => rcases hside sid rfl with rfl | rfl | rfl | rfl | rfl <;> decide
  · obtain ⟨_, hdc, hds⟩ := dispatchRequestedPath_spec (preparedState s ctx key rx) ctx path
    obtain ⟨_, hpc, id, hid, hprep, _⟩ := preparedState_spec s ctx key rx
    have hhw := hwtsStat_cases ctx
    generalize hwtsStat ctx = hw at hprep hhw
    have hcode : rx.requestedPath = path.code := by
      rw [hrx]; exact (measurementMeta_key ctx key path).2.2
    rw [hx, hr]
    refine ⟨by rw [hdc, hpc], [.total, hw, id] ++ dispatchStats ctx path, ?_, ?_, ?_⟩
    · rw [hds, hprep, bumpAll_append]
    · intro tid htid
      rw [List.count_append, dispatchStats_terminal ctx path htid]
      rcases hid with rfl | rfl | rfl <;> rcases hhw with rfl | rfl <;>
        rcases htid with rfl | rfl | rfl | rfl <;> decide
    · rw [List.count_append, dispatchStats_cpumap (preparedState s ctx key rx) ctx path]
      have hzero : [Stat.total, hw, id].count .cpumap = 0 := by
        rcases hid with rfl | rfl | rfl <;> rcases hhw with rfl | rfl <;> decide
      rw [hzero, Nat.zero_add, DispatchOut.toCpumap, Option.any_some, hcode]

/-! ## A whole sequence of packets

The step lemmas, carried along the list of packets. -/

theorem runDispatch_cons (mode : ForwardingMode) (s : KernState ncpu N) (ctx : XdpMd ncpu)
    (packets : List (XdpMd ncpu)) :
    runDispatch mode s (ctx :: packets) = runDispatch mode (xdpDispatch mode s ctx).1 packets :=
  rfl

/-- **The balance holds after every sequence of packets.** -/
theorem runDispatch_balanced (mode : ForwardingMode) (packets : List (XdpMd ncpu)) :
    ∀ s : KernState ncpu N, Balanced s → Balanced (runDispatch mode s packets) := by
  induction packets with
  | nil => intro s h; exact h
  | cons ctx packets ih =>
    intro s h
    rw [runDispatch_cons]
    exact ih _ (xdpDispatch_balanced mode s ctx h)

/-- The write log of a sequence: key and record of every prepared packet, in order. -/
def ingressLog (mode : ForwardingMode) (packets : List (XdpMd ncpu)) :
    List (PacketKey × IngressRecord) :=
  packets.filterMap fun ctx =>
    (preparedPacket mode ctx).map fun p => (p.1, ingressRecordOf p.1 p.2)

theorem xdpDispatch_ingress (mode : ForwardingMode) (s : KernState ncpu N) (ctx : XdpMd ncpu) :
    (xdpDispatch mode s ctx).1.ingress = s.ingress.insertAll (ingressLog mode [ctx]) := by
  rcases xdpDispatch_cases mode s ctx with ⟨hp, _, haway⟩ | ⟨key, _, path, rx, r, _, _, _, hp, hr,
    hx⟩
  · rw [haway.ingress]
    simp [ingressLog, hp, BoundedMap.insertAll]
  · obtain ⟨hdi, _⟩ := dispatchRequestedPath_spec (preparedState s ctx key rx) ctx path
    rw [hx, hr, hdi, (preparedState_spec s ctx key rx).1]
    simp [ingressLog, hp, BoundedMap.insertAll]

/-- **The ingress map is the write-once map of the log.** Induction on the packets. -/
theorem runDispatch_ingress (mode : ForwardingMode) (packets : List (XdpMd ncpu)) :
    ∀ s : KernState ncpu N, (runDispatch mode s packets).ingress
      = s.ingress.insertAll (ingressLog mode packets) := by
  induction packets with
  | nil => intro s; rfl
  | cons ctx packets ih =>
    intro s
    have hlog : ingressLog mode (ctx :: packets)
        = ingressLog mode [ctx] ++ ingressLog mode packets := by
      rw [ingressLog, ingressLog, ingressLog, ← List.filterMap_append]
      rfl
    rw [runDispatch_cons, ih, xdpDispatch_ingress, hlog]
    simp [BoundedMap.insertAll, List.foldl_append]

/-! ## The counters do not wrap

A packet bumps a counter at most once, whatever its path, so no counter of `xdp_dispatch` is ahead
of the number of packets. Until `2 ^ 64` of them have come, the `__u64` of each CPU and their sum
in the loader are the numbers of the model. -/

/-- A turned-away packet bumps `total`, `pass` and one counter that is neither. -/
theorem turnedAway_nodup {side : Option Stat} (hside : ∀ id, side = some id → IsSideStat id) :
    (Stat.total :: side.toList ++ [Stat.pass]).Nodup := by
  cases side with
  | none => decide
  | some id => rcases hside id rfl with rfl | rfl | rfl | rfl | rfl <;> decide

theorem prepared_nodup (ctx : XdpMd ncpu) (path : RequestedPath) {hw id : Stat}
    (hhw : hw = .hwtsValid ∨ hw = .hwtsError)
    (hid : id = .ingressRecorded ∨ id = .ingressDuplicate ∨ id = .ingressUpdateError) :
    ([.total, hw, id] ++ dispatchStats ctx path).Nodup := by
  cases path <;> unfold dispatchStats <;> cases ctx.redirectAccepted <;>
    rcases hhw with rfl | rfl <;> rcases hid with rfl | rfl | rfl <;> decide

theorem statTotal_bumpAll_le {ids : List Stat} (h : ids.Nodup) (stats : Stats ncpu)
    (cpu : Fin ncpu) (i : Stat) : statTotal (bumpAll stats cpu ids) i ≤ statTotal stats i + 1 := by
  rw [statTotal_bumpAll]
  exact Nat.add_le_add_left (List.nodup_iff_count_le_one.mp h i) _

theorem xdpDispatch_statTotal_le (mode : ForwardingMode) (s : KernState ncpu N)
    (ctx : XdpMd ncpu) (i : Stat) :
    statTotal (xdpDispatch mode s ctx).1.stats i ≤ statTotal s.stats i + 1 := by
  rcases xdpDispatch_cases mode s ctx with ⟨_, _, haway⟩ | ⟨key, _, path, rx, r, _, _, _, _, hr,
    hx⟩
  · obtain ⟨_, _, side, hside, hst⟩ := haway
    rw [hst]
    exact statTotal_bumpAll_le (turnedAway_nodup hside) _ _ _
  · obtain ⟨_, _, hds⟩ := dispatchRequestedPath_spec (preparedState s ctx key rx) ctx path
    obtain ⟨_, _, id, hid, hprep, _⟩ := preparedState_spec s ctx key rx
    rw [hx, hr, hds, hprep, bumpAll_append]
    exact statTotal_bumpAll_le (prepared_nodup ctx path (hwtsStat_cases ctx) hid) _ _ _

theorem runDispatch_statTotal_le (mode : ForwardingMode) (packets : List (XdpMd ncpu))
    (i : Stat) : ∀ s : KernState ncpu N,
      statTotal (runDispatch mode s packets).stats i ≤ statTotal s.stats i + packets.length := by
  induction packets with
  | nil => intro s; exact Nat.le_refl _
  | cons ctx packets ih =>
    intro s
    have hstep := xdpDispatch_statTotal_le mode s ctx i
    have hrest := ih (xdpDispatch mode s ctx).1
    rw [runDispatch_cons, List.length_cons]
    omega

/-- **The 64-bit counters are exact** for fewer than `2 ^ 64` packets: neither the counter of a
CPU nor the sum over the CPUs has wrapped. -/
theorem runDispatch_counters_exact (mode : ForwardingMode) (packets : List (XdpMd ncpu))
    (h : packets.length < 2 ^ 64) (i : Stat) :
    let stats := (runDispatch mode (KernState.init : KernState ncpu N) packets).stats
    (∀ cpu, (UInt64.ofNat (stats cpu i)).toNat = stats cpu i)
      ∧ (UInt64.ofNat (statTotal stats i)).toNat = statTotal stats i := by
  intro stats
  have htotal : statTotal stats i < 2 ^ 64 := by
    have hle : statTotal stats i ≤ statTotal (KernState.init : KernState ncpu N).stats i
        + packets.length := runDispatch_statTotal_le mode packets i KernState.init
    have hzero : statTotal (KernState.init : KernState ncpu N).stats i = 0 := by
      simp [KernState.init, statTotal]
    omega
  refine ⟨fun cpu => ?_, ?_⟩
  · have hcpu : stats cpu i ≤ statTotal stats i :=
      Finset.single_le_sum (f := fun c => stats c i) (fun _ _ => Nat.zero_le _)
        (Finset.mem_univ cpu)
    rw [UInt64.toNat_ofNat']
    exact Nat.mod_eq_of_lt (hcpu.trans_lt htotal)
  · rw [UInt64.toNat_ofNat']
    exact Nat.mod_eq_of_lt htotal

/-! ## Redirects

A frame leaves the ordinary path only with metadata in front of it and only for a path that
redirects. -/

theorem dispatchRequestedPath_redirect (s : KernState ncpu N) (ctx : XdpMd ncpu)
    (path : RequestedPath) (h : (dispatchRequestedPath s ctx path).2 = .redirect) :
    (path = .cpumap ∨ path = .xsk) ∧ ctx.redirectAccepted = true := by
  cases path with
  | pass => simp [dispatchRequestedPath] at h
  | cpumap =>
    refine ⟨Or.inl rfl, ?_⟩
    by_contra hr
    simp [dispatchRequestedPath, hr] at h
  | xsk =>
    refine ⟨Or.inr rfl, ?_⟩
    by_contra hr
    simp [dispatchRequestedPath, hr] at h

/-- **Inversion of a redirect.** The packet parsed as an experiment packet, its metadata was
prepared, and the effective path is a redirecting one. -/
theorem xdpDispatch_redirect (mode : ForwardingMode) (s : KernState ncpu N) (ctx : XdpMd ncpu)
    (h : (xdpDispatch mode s ctx).2.action = .redirect) :
    ∃ key classified, ctx.parsed = .experiment key classified
      ∧ (xdpDispatch mode s ctx).2.rxMeta
          = some (measurementMeta ctx key (effectiveRequestedPath mode classified))
      ∧ (effectiveRequestedPath mode classified = .cpumap
          ∨ effectiveRequestedPath mode classified = .xsk) := by
  rcases xdpDispatch_cases mode s ctx with ⟨_, hout, _⟩ | ⟨key, classified, path, rx, r, hp, hpath,
    hrx, _, hr, hx⟩
  · rw [hout] at h
    cases h
  · rw [hx, hr] at h
    obtain ⟨hredirect, _⟩ := dispatchRequestedPath_redirect _ ctx path h
    refine ⟨key, classified, hp, ?_, ?_⟩
    · rw [hx, hrx, hpath]
    · rw [← hpath]; exact hredirect

/-- **Accounting and the write-once log of `xdp_dispatch`.** After any sequence of packets, on
any CPUs, with any answers of the helpers and any capacity: the counters balance, the ingress
map holds one entry per `INGRESS_RECORDED`, the entry of a key is the record of the first
prepared packet with that key among the first `N` distinct prepared keys and outlives every
later packet, and only packets with metadata for a redirecting path are redirected. -/
theorem dispatch_accounting (mode : ForwardingMode) (packets : List (XdpMd ncpu)) :
    let s := runDispatch mode (KernState.init : KernState ncpu N) packets
    Balanced s
      ∧ (∀ key, s.ingress.lookup key =
          if key ∈ ((ingressLog mode packets).map Prod.fst).eraseDups.take N
          then (ingressLog mode packets).lookup key else none)
      ∧ (∀ later key record, s.ingress.lookup key = some record →
          (runDispatch mode s later).ingress.lookup key = some record)
      ∧ ∀ ctx, (xdpDispatch mode s ctx).2.action = .redirect →
          ∃ key classified rx, ctx.parsed = .experiment key classified
            ∧ (xdpDispatch mode s ctx).2.rxMeta = some rx
            ∧ rx.flowId = key.flowId ∧ rx.sequence = key.sequence
            ∧ rx.requestedPath = (effectiveRequestedPath mode classified).code
            ∧ (effectiveRequestedPath mode classified = .cpumap
                ∨ effectiveRequestedPath mode classified = .xsk) := by
  intro s
  refine ⟨runDispatch_balanced mode packets _ balanced_init, ?_, ?_, ?_⟩
  -- the map is the log of prepared packets, inserted in order
  · intro key
    rw [show s.ingress = (BoundedMap.empty).insertAll (ingressLog mode packets) from
      runDispatch_ingress mode packets KernState.init]
    exact BoundedMap.lookup_insertAll (ingressLog mode packets) key
  · intro later key record h
    rw [runDispatch_ingress mode later s]
    exact BoundedMap.lookup_insertAll_of_some _ key record s.ingress h
  · intro ctx h
    obtain ⟨key, classified, hp, hmeta, hpath⟩ := xdpDispatch_redirect mode s ctx h
    obtain ⟨hflow, hseq, hreq⟩ :=
      measurementMeta_key ctx key (effectiveRequestedPath mode classified)
    exact ⟨key, classified, _, hp, hmeta, hflow, hseq, hreq, hpath⟩

/-! ## The CPUMAP program

It sees the metadata of a redirected frame on another CPU and writes its own map, under the key that
the metadata carries. -/

/-- **Inversion of the map half of `xdp_cpumap_measure`.** Either nothing is written and one of
three failure counters is named, or this very insert put the record into the map and the counter
is `cpumapRecorded`. -/
theorem cpumapUpdate_cases (s : KernState ncpu N) (cpu : Fin ncpu) (ktimeNs : UInt64)
    (rxMeta : Option RxMeta) :
    (∃ id, IsTerminalStat id ∧ id ≠ .cpumapRecorded ∧ cpumapUpdate s cpu ktimeNs rxMeta = (s, id))
      ∨ ∃ rx m, rxMeta = some rx
        ∧ cpumapUpdate s cpu ktimeNs rxMeta = ({ s with cpumap := m }, .cpumapRecorded)
        ∧ m = (s.cpumap.insert ⟨rx.flowId, 0, rx.sequence⟩
            (cpumapRecordOf (UInt32.ofNat cpu) ktimeNs rx)).2
        ∧ m.lookup ⟨rx.flowId, 0, rx.sequence⟩
            = some (cpumapRecordOf (UInt32.ofNat cpu) ktimeNs rx) := by
  cases rxMeta with
  | none => exact Or.inl ⟨_, by simp [IsTerminalStat], by simp, rfl⟩
  | some rx =>
    unfold cpumapUpdate
    dsimp only
    by_cases hok : cpumapMetaOk (some rx)
    · rw [if_neg (not_not.mpr hok)]
      rcases s.cpumap.insert_cases ⟨rx.flowId, 0, rx.sequence⟩
        (cpumapRecordOf (UInt32.ofNat cpu) ktimeNs rx) with
        ⟨_, hins⟩ | ⟨hk, hN, m, hins, _⟩ | ⟨_, _, hins⟩
      · rw [hins]
        exact Or.inl ⟨.cpumapDuplicate, by simp [IsTerminalStat], by simp, rfl⟩
      -- `BPF_NOEXIST` succeeded: the key was absent and is there now
      · have hnone := (s.cpumap.lookup_eq_none_iff_keys ⟨rx.flowId, 0, rx.sequence⟩).mpr hk
        have hlook := s.cpumap.lookup_insert ⟨rx.flowId, 0, rx.sequence⟩
          ⟨rx.flowId, 0, rx.sequence⟩ (cpumapRecordOf (UInt32.ofNat cpu) ktimeNs rx)
        rw [hins, hnone, if_pos ⟨rfl, hN⟩] at hlook
        exact Or.inr ⟨rx, m, rfl, by rw [hins], by rw [hins], hlook⟩
      · rw [hins]
        exact Or.inl ⟨.cpumapUpdateError, by simp [IsTerminalStat], by simp, rfl⟩
    · rw [if_pos hok]
      exact Or.inl ⟨.cpumapMetaInvalid, by simp [IsTerminalStat], by simp, rfl⟩

/-- `xdp_cpumap_measure` never touches the ingress map, and writes the CPUMAP map at most by an
insert under the metadata's own key. -/
theorem xdpCpumapMeasure_spec (s : KernState ncpu N) (cpu : Fin ncpu) (ktimeNs : UInt64)
    (rx : RxMeta) :
    (xdpCpumapMeasure s cpu ktimeNs (some rx)).ingress = s.ingress
      ∧ ((xdpCpumapMeasure s cpu ktimeNs (some rx)).cpumap = s.cpumap
        ∨ (xdpCpumapMeasure s cpu ktimeNs (some rx)).cpumap
          = (s.cpumap.insert ⟨rx.flowId, 0, rx.sequence⟩
              (cpumapRecordOf (UInt32.ofNat cpu) ktimeNs rx)).2) := by
  unfold xdpCpumapMeasure
  rcases cpumapUpdate_cases s cpu ktimeNs (some rx) with
    ⟨id, _, _, hu⟩ | ⟨rx', m, hrx, hu, hm, _⟩
  · rw [hu]
    exact ⟨rfl, Or.inl rfl⟩
  · cases hrx
    rw [hu]
    exact ⟨rfl, Or.inr hm⟩

end AceXdp
