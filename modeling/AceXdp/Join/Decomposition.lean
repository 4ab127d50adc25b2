import AceXdp.Join.Row

/-!
# AceXdp — the latency decomposition of a joined row

Each stage of a row is gated by its own conjunction of validity conditions. The proofs read the
times back from the gated differences (`optSub_eq_some_iff`), so that a sum of present stages is
a telescoping sum of four instants:

* `residual_eq_zero`: present stages always sum up to the total;
* `decomposition_telescopes`: what a row with status `complete` guarantees;
* `path_agreement_iff`: exactly when a row without inconsistency flags has one path.
-/

namespace AceXdp

/-! ## Gated differences

A stage is the difference of two timestamps, present when its own conjunction of conditions holds.
The instants are read back from the stages that are present. -/

theorem optSub_eq_some_iff (a b : Option Int) (d : Int) :
    optSub a b = some d ↔ ∃ x y, a = some x ∧ b = some y ∧ d = x - y := by
  unfold optSub
  cases a with
  | none => simp
  | some x =>
    cases b with
    | none => simp
    | some y => simp [eq_comm]

theorem gated_eq_some_iff {g : Bool} {a : Option Int} {d : Int} :
    (if g = true then a else none) = some d ↔ g = true ∧ a = some d := by
  cases g <;> simp

theorem positiveValue_eq_some_iff (x y : Int) : positiveValue x = some y ↔ 0 < x ∧ y = x := by
  unfold positiveValue
  by_cases h : 0 < x <;> simp [h, eq_comm]

namespace Sources

variable (s : Sources) (c : Calibration) (clamp : Bool)

theorem userRxMonoNs_of_userMono {um : Int} (h : s.userMono = some um) :
    s.userRxMonoNs = some um := by
  unfold userMono at h
  cases hu : s.userRxMonoNs with
  | none => simp [hu] at h
  | some x =>
    rw [hu, Option.bind_some, positiveValue_eq_some_iff] at h
    rw [h.2]

theorem cpumapNs_raw {cm : Int} (h : s.cpumapNs = some cm) :
    (s.cpumap.map fun r => (r.cpumapNs.toNat : Int)) = some cm := by
  unfold cpumapNs at h
  cases hc : s.cpumap with
  | none => simp [hc] at h
  | some r =>
    rw [hc, Option.bind_some, positiveU64Value] at h
    split at h
    · simpa using h
    · cases h

/-! ## Telescoping

With all stages there, the instants in between cancel. -/

/-- The instants behind a row whose three stages are present. For the CPUMAP path there is one
more, between the other two. -/
structure Instants (hw init um : Int) : Prop where
  hwMono : s.hwMono c clamp = some hw
  initialXdp : s.initialXdp.1 = some init
  userMono : s.userMono = some um
  valid : s.userSemanticallyValid = true

theorem userHwMetric_of_instants {hw init um : Int} (h : s.Instants c clamp hw init um) :
    s.userHwMetric c clamp = some (um - hw) := by
  unfold userHwMetric
  rw [gated_eq_some_iff, optSub_eq_some_iff]
  exact ⟨h.valid, um, hw, h.userMono, h.hwMono, rfl⟩

/-- **Present stages are differences of one chain of instants.** -/
theorem stages_some {a b d : Int} (h1 : s.xdpHwMetric c clamp = some a) (h2 : s.d2 = some b)
    (h3 : s.d3 = some d) :
    ∃ hw init um, s.Instants c clamp hw init um ∧ a = init - hw
      ∧ ((s.requestedPath ≠ some acePathCpumap ∧ b = 0 ∧ d = um - init)
        ∨ (s.requestedPath = some acePathCpumap
            ∧ ∃ cm, s.cpumapNs = some cm ∧ b = cm - init ∧ d = um - cm)) := by
  unfold xdpHwMetric at h1
  obtain ⟨init, hw, hinit, hhw, ha⟩ := (optSub_eq_some_iff _ _ _).mp h1
  unfold d2 at h2
  unfold d3 at h3
  by_cases hcpu : s.requestedPath = some acePathCpumap
  · rw [if_pos hcpu] at h2 h3
    unfold cpumapXdpMetric at h2
    unfold userCpumapMetric at h3
    rw [gated_eq_some_iff, optSub_eq_some_iff] at h2 h3
    obtain ⟨_, cm, init', hcm, hinit', hb⟩ := h2
    obtain ⟨hvalid, um, cm', hum, hcm', hd⟩ := h3
    rw [hinit] at hinit'
    rw [hcm] at hcm'
    cases hinit'
    cases hcm'
    rw [Bool.and_eq_true] at hvalid
    exact ⟨hw, init, um, ⟨hhw, hinit, hum, hvalid.1⟩, ha, Or.inr ⟨hcpu, cm, hcm, hb, hd⟩⟩
  · rw [if_neg hcpu] at h2 h3
    split at h2
    · rename_i hpath
      rw [if_pos hpath] at h3
      unfold userXdpMetric at h3
      rw [gated_eq_some_iff, optSub_eq_some_iff] at h3
      obtain ⟨hvalid, um, init', hum, hinit', hd⟩ := h3
      rw [hinit] at hinit'
      cases hinit'
      cases h2
      exact ⟨hw, init, um, ⟨hhw, hinit, hum, hvalid⟩, ha, Or.inl ⟨hcpu, rfl, hd⟩⟩
    · cases h2

theorem stages_of_stageSum {t : Int} (h : s.stageSum c clamp = some t) :
    ∃ a b d, s.xdpHwMetric c clamp = some a ∧ s.d2 = some b ∧ s.d3 = some d := by
  unfold stageSum at h
  split at h
  · rename_i a b d h1 h2 h3
    exact ⟨a, b, d, h1, h2, h3⟩
  · cases h

/-- **Present stages sum up to the total**, so the residual is present and zero. -/
theorem residual_eq_zero {a b d : Int} (h1 : s.xdpHwMetric c clamp = some a)
    (h2 : s.d2 = some b) (h3 : s.d3 = some d) :
    s.userHwMetric c clamp = some (a + b + d) ∧ s.residual c clamp = some 0 := by
  obtain ⟨hw, init, um, hinst, ha, hpath⟩ := s.stages_some c clamp h1 h2 h3
  have htotal := s.userHwMetric_of_instants c clamp hinst
  have hsum : um - hw = a + b + d := by
    rcases hpath with ⟨_, hb, hd⟩ | ⟨_, cm, _, hb, hd⟩ <;> omega
  rw [hsum] at htotal
  refine ⟨htotal, ?_⟩
  unfold residual stageSum
  rw [htotal, h1, h2, h3]
  simp [optSub]

theorem residual_isSome_iff :
    (s.residual c clamp).isSome ↔
      (s.xdpHwMetric c clamp).isSome ∧ s.d2.isSome ∧ s.d3.isSome := by
  constructor
  · intro h
    obtain ⟨r, hr⟩ := Option.isSome_iff_exists.mp h
    unfold residual at hr
    obtain ⟨_, sum, _, hsum, _⟩ := (optSub_eq_some_iff _ _ _).mp hr
    obtain ⟨a, b, d, h1, h2, h3⟩ := s.stages_of_stageSum c clamp hsum
    simp [h1, h2, h3]
  · rintro ⟨h1, h2, h3⟩
    obtain ⟨a, h1⟩ := Option.isSome_iff_exists.mp h1
    obtain ⟨b, h2⟩ := Option.isSome_iff_exists.mp h2
    obtain ⟨d, h3⟩ := Option.isSome_iff_exists.mp h3
    rw [(s.residual_eq_zero c clamp h1 h2 h3).2]
    rfl

theorem residual_cases : s.residual c clamp = none ∨ s.residual c clamp = some 0 := by
  cases hr : s.residual c clamp with
  | none => exact Or.inl rfl
  | some r =>
    right
    have hsome := (s.residual_isSome_iff c clamp).mp (by rw [hr]; rfl)
    obtain ⟨h1, h2, h3⟩ := hsome
    obtain ⟨a, h1⟩ := Option.isSome_iff_exists.mp h1
    obtain ⟨b, h2⟩ := Option.isSome_iff_exists.mp h2
    obtain ⟨d, h3⟩ := Option.isSome_iff_exists.mp h3
    rw [← hr, (s.residual_eq_zero c clamp h1 h2 h3).2]

theorem nonneg_of_not_negative (h : s.negative c clamp = false) :
    (∀ a, s.xdpHwMetric c clamp = some a → 0 ≤ a) ∧ (∀ b, s.d2 = some b → 0 ≤ b)
      ∧ ∀ d, s.d3 = some d → 0 ≤ d := by
  unfold negative at h
  simp only [List.any_cons, List.any_nil, Bool.or_false, Bool.or_eq_false_iff] at h
  obtain ⟨h1, h2, h3, _⟩ := h
  refine ⟨?_, ?_, ?_⟩
  · intro a ha
    rw [ha, Option.any_some, decide_eq_false_iff_not] at h1
    omega
  · intro b hb
    rw [hb, Option.any_some, decide_eq_false_iff_not] at h2
    omega
  · intro d hd
    rw [hd, Option.any_some, decide_eq_false_iff_not] at h3
    omega

theorem complete_cases (h : s.stageStatus c clamp = .complete) :
    s.inconsistencies = 0 ∧ s.negative c clamp = false ∧ s.residual c clamp = some 0 := by
  unfold stageStatus at h
  split at h
  · cases h
  · rename_i hok
    rw [not_or, not_not, Bool.not_eq_true] at hok
    split at h
    · cases h
    · rename_i r hr
      split at h
      · rename_i hr0
        exact ⟨hok.1, hok.2, by rw [hr, hr0]⟩
      · cases h

theorem status_ne_mismatch : s.stageStatus c clamp ≠ .mismatch := by
  unfold stageStatus
  split
  · simp
  · rcases s.residual_cases c clamp with hr | hr <;> simp [hr]

end Sources

/-- **The decomposition telescopes and never mismatches**, for every combination of records,
every calibration and both clamp settings. -/
theorem decomposition_telescopes (key : UInt32 × UInt64) (s : Sources) (c : Calibration)
    (clamp : Bool) :
    let row := joinedRow key s c clamp
    (row.segmentResidualNs = none ∨ row.segmentResidualNs = some 0)
      ∧ row.segmentStatus ≠ .mismatch
      ∧ (row.segmentResidualNs.isSome ↔
          row.d1Ns.isSome ∧ row.d2Ns.isSome ∧ row.d3Ns.isSome)
      ∧ (row.segmentStatus = .complete →
          row.inconsistencyFlags = 0
          ∧ ∃ d1 d2 d3 hw init um, row.d1Ns = some d1 ∧ row.d2Ns = some d2 ∧ row.d3Ns = some d3
            ∧ row.userHwNs = some (d1 + d2 + d3)
            ∧ row.hwRxMonoNs = some hw ∧ row.initialXdpNs = some init
            ∧ row.userRxMonoNs = some um ∧ hw ≤ init ∧ init ≤ um
            ∧ (row.requestedPath = some acePathCpumap →
              ∃ cm, row.cpumapNs = some cm ∧ init ≤ cm ∧ cm ≤ um)) := by
  intro row
  refine ⟨s.residual_cases c clamp, s.status_ne_mismatch c clamp,
    s.residual_isSome_iff c clamp, ?_⟩
  intro hstatus
  obtain ⟨hzero, hneg, hres⟩ := s.complete_cases c clamp hstatus
  obtain ⟨h1, h2, h3⟩ := (s.residual_isSome_iff c clamp).mp (by rw [hres]; rfl)
  obtain ⟨a, h1⟩ := Option.isSome_iff_exists.mp h1
  obtain ⟨b, h2⟩ := Option.isSome_iff_exists.mp h2
  obtain ⟨d, h3⟩ := Option.isSome_iff_exists.mp h3
  obtain ⟨hw, init, um, hinst, ha, hpath⟩ := s.stages_some c clamp h1 h2 h3
  -- nonnegative stages order the instants
  obtain ⟨hn1, hn2, hn3⟩ := s.nonneg_of_not_negative c clamp hneg
  have ha0 := hn1 a h1
  have hb0 := hn2 b h2
  have hd0 := hn3 d h3
  refine ⟨hzero, a, b, d, hw, init, um, h1, h2, h3, (s.residual_eq_zero c clamp h1 h2 h3).1,
    hinst.hwMono, hinst.initialXdp, s.userRxMonoNs_of_userMono hinst.userMono, by omega, ?_, ?_⟩
  · rcases hpath with ⟨_, _, _⟩ | ⟨_, cm, _, _, _⟩ <;> omega
  · intro hcpu
    rcases hpath with ⟨hne, _⟩ | ⟨_, cm, hcm, hb, hd⟩
    · exact absurd hcpu hne
    · exact ⟨cm, s.cpumapNs_raw hcm, by omega, by omega⟩

/-! ## Path agreement

The joiner compares each record's path with the ingress record. Without one, two records that
contradict each other are not compared. -/

namespace Sources

theorem flagBit_eq_zero_iff {b : Bool} {n : Nat} (hn : n ≠ 0) : flagBit b n = 0 ↔ b = false := by
  unfold flagBit
  cases b <;> simp [hn]

/-- **A row without inconsistency flags passed every check.** -/
theorem inconsistencies_eq_zero_iff (s : Sources) :
    s.inconsistencies = 0 ↔ s.badIngressPath = false ∧ s.badIngressFlags = false
      ∧ s.badCpumapPath = false ∧ s.badCpumapFlags = false ∧ s.badCpumapIngressPath = false
      ∧ s.badAfXdpPath = false ∧ s.badAfXdpMetadata = false ∧ s.badUdpPath = false
      ∧ s.badUdpFlags = false ∧ s.userSource ≠ .ambiguous := by
  unfold inconsistencies
  simp only [Nat.or_eq_zero_iff, and_assoc]
  rw [flagBit_eq_zero_iff (by decide), flagBit_eq_zero_iff (by decide),
    flagBit_eq_zero_iff (by decide), flagBit_eq_zero_iff (by decide),
    flagBit_eq_zero_iff (by decide), flagBit_eq_zero_iff (by decide),
    flagBit_eq_zero_iff (by decide), flagBit_eq_zero_iff (by decide),
    flagBit_eq_zero_iff (by decide), flagBit_eq_zero_iff (by decide)]
  simp only [beq_eq_false_iff_ne]

def carriedPaths (s : Sources) : List UInt16 :=
  s.ingressPath.toList ++ s.cpumapPath.toList ++ s.afxdpPath.toList

/-- The records no check compares with each other: a CPUMAP and an AF_XDP record of one key, each
well formed, with neither an ingress nor a UDP record. -/
def UncheckedPair (s : Sources) : Prop :=
  s.ingress = none ∧ s.udp = none ∧ ∃ c a, s.cpumap = some c ∧ s.afxdp = some a
    ∧ c.requestedPath = acePathCpumap ∧ c.flagsOk = true ∧ s.afxdpCore a = true

/-- An ingress record that passes the checks fixes the path of the other two. -/
theorem paths_of_ingress (s : Sources) {i : IngressRecord} (hi : s.ingress = some i)
    (h : s.inconsistencies = 0) :
    (∀ c, s.cpumap = some c → c.requestedPath = i.requestedPath)
      ∧ ∀ a, s.afxdp = some a → a.requestedPath = i.requestedPath := by
  obtain ⟨_, _, _, _, hci, hax, _⟩ := s.inconsistencies_eq_zero_iff.mp h
  refine ⟨?_, ?_⟩
  · intro c hc
    simp only [badCpumapIngressPath, hc, hi, Option.any_some, Bool.or_eq_false_iff,
      bne_eq_false_iff_eq] at hci
    exact hci.2
  · intro a ha
    simp only [badAfXdpPath, ha, hi, Option.any_some, Bool.or_eq_false_iff,
      bne_eq_false_iff_eq] at hax
    rw [hax.1, hax.2]

/-- Without an ingress record, a CPUMAP and an AF_XDP record together pass the checks only as an
unchecked pair. -/
theorem uncheckedPair_of_zero (s : Sources) (hi : s.ingress = none) {c : CpumapRecord}
    {a : XskUserRecord} (hc : s.cpumap = some c) (ha : s.afxdp = some a)
    (h : s.inconsistencies = 0) : s.UncheckedPair := by
  obtain ⟨_, _, hcp, hcf, _, _, ham, _, _, hamb⟩ := s.inconsistencies_eq_zero_iff.mp h
  have hudp : s.udp = none := by
    cases hu : s.udp with
    | none => rfl
    | some u => exact absurd (by simp [userSource, ha, hu]) hamb
  simp only [badCpumapPath, hc, Option.any_some, bne_eq_false_iff_eq] at hcp
  simp only [badCpumapFlags, hc, Option.any_some, Bool.not_eq_false'] at hcf
  simp only [badAfXdpMetadata, afxdpMetadataConsistent, ha, hi, Option.any_some,
    Option.isSome_some, Option.all_none, Bool.and_true, Bool.true_and, Bool.not_eq_false'] at ham
  exact ⟨hi, hudp, c, a, hc, ha, hcp, hcf, ham⟩

theorem UncheckedPair.zero {s : Sources} (h : s.UncheckedPair) : s.inconsistencies = 0 := by
  obtain ⟨hi, hu, c, a, hc, ha, hpath, hflags, hcore⟩ := h
  have hxsk : a.requestedPath = acePathXsk := by
    simp only [afxdpCore, XskUserRecord.coreValid, Bool.and_eq_true, beq_iff_eq] at hcore
    exact hcore.1.1.1.2
  rw [inconsistencies_eq_zero_iff]
  simp [badIngressPath, badIngressFlags, badCpumapPath, badCpumapFlags, badCpumapIngressPath,
    badAfXdpPath, badAfXdpMetadata, badUdpPath, badUdpFlags, afxdpMetadataConsistent, userSource,
    hi, hu, hc, ha, hpath, hflags, hcore, hxsk]

end Sources

/-- **Exactly when a row without inconsistency flags has one path**: for every row but that of an
unchecked pair. -/
theorem path_agreement_iff (key : UInt32 × UInt64) (s : Sources) (c : Calibration)
    (clamp : Bool) :
    ((joinedRow key s c clamp).inconsistencyFlags = 0 →
        ∀ path ∈ s.carriedPaths, (joinedRow key s c clamp).requestedPath = some path) ↔
      ¬s.UncheckedPair := by
  constructor
  · intro h hpair
    have hall := h hpair.zero
    obtain ⟨hi, hu, cm, a, hc, ha, hpath, _, hcore⟩ := hpair
    have hcpu := hall acePathCpumap (by
      simp [Sources.carriedPaths, Sources.ingressPath, Sources.cpumapPath, hi, hc, hpath])
    simp only [joinedRow, Sources.requestedPath, Sources.ingressPath, Sources.afxdpPath, hi, ha,
      Option.map_none, Option.map_some, Option.none_or, Option.some_or, Option.some.injEq] at hcpu
    simp only [Sources.afxdpCore, XskUserRecord.coreValid, Bool.and_eq_true, beq_iff_eq] at hcore
    rw [hcore.1.1.1.2] at hcpu
    exact absurd hcpu (by decide)
  · intro hpair hzero path hmem
    have hzero : s.inconsistencies = 0 := hzero
    show s.requestedPath = some path
    unfold Sources.carriedPaths at hmem
    unfold Sources.requestedPath
    cases hi : s.ingress with
    | some i =>
      obtain ⟨hcpu, hxsk⟩ := s.paths_of_ingress hi hzero
      have hpath : path = i.requestedPath := by
        simp only [List.mem_append, Option.mem_toList, Sources.ingressPath, Sources.cpumapPath,
          Sources.afxdpPath, Option.map_eq_some_iff] at hmem
        rcases hmem with (⟨i', hi', rfl⟩ | ⟨c', hc', rfl⟩) | ⟨a', ha', rfl⟩
        · rw [hi] at hi'
          cases hi'
          rfl
        · exact hcpu c' hc'
        · exact hxsk a' ha'
      simp [Sources.ingressPath, hi, hpath]
    | none =>
      -- at most one of the two remaining records is present
      cases hc : s.cpumap with
      | none =>
        cases ha : s.afxdp with
        | none =>
          simp [Sources.ingressPath, Sources.cpumapPath, Sources.afxdpPath, hi, hc, ha] at hmem
        | some a =>
          simpa [Sources.ingressPath, Sources.cpumapPath, Sources.afxdpPath, hi, hc, ha, eq_comm]
            using hmem
      | some cm =>
        cases ha : s.afxdp with
        | none =>
          simpa [Sources.ingressPath, Sources.cpumapPath, Sources.afxdpPath, hi, hc, ha, eq_comm]
            using hmem
        | some a => exact absurd (s.uncheckedPair_of_zero hi hc ha hzero) hpair

/-- A CPUMAP record and an AF_XDP record of one key, each well formed on its own. -/
def contradictoryPair : Sources where
  ingress := none
  udp := none
  cpumap := some
    { flowId := 1, cpu := 3, sequence := 7, cpumapNs := 2000
      flags := metaPacketIdValid ||| metaCpumapSeen ||| metaPathRequested
      requestedPath := acePathCpumap, reserved := 0 }
  afxdp := some
    { flowId := 1, rxQueue := 0, sequence := 7, txRealtimeNs := 0, userRxMonoNs := 3000
      userRxRealNs := 0, hwRxNs := 0, initialXdpNs := 1000
      metaFlags := metaPacketIdValid ||| metaPathRequested ||| metaTimestampError
      requestedPath := acePathXsk, timestampError := -95, packetLength := 74
      validationFlags := afXdpValidationRequired }

/-- The pair gives a row without any flag whose path is XSK, although its CPUMAP record carries
the path CPUMAP. -/
theorem contradictory_paths_unflagged :
    ¬∀ (key : UInt32 × UInt64) (s : Sources) (c : Calibration) (clamp : Bool),
      (joinedRow key s c clamp).inconsistencyFlags = 0 →
        ∀ path ∈ s.carriedPaths, (joinedRow key s c clamp).requestedPath = some path := by
  intro h
  have hall := h (1, 7) contradictoryPair ⟨[⟨0, 0⟩], by simp, by simp⟩ false (by decide)
    acePathCpumap (by decide)
  exact absurd hall (by decide)

end AceXdp
