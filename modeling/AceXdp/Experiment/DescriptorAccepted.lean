import AceXdp.Lib.Checked
import AceXdp.Runner.Isolation

/-!
# AceXdp — the analysis accepts the runs of the runner

* `checkFlows_run`: the loop over the flows;
* `checkAvailable_shared`: a shared receiver, with the CPU that a mixed run reserves;
* **`run_descriptor_accepted`** — `load_descriptor` accepts the `run.json` of every accepted
  configuration, and what it returns are the CPU sets, counts and periods of the mode.
-/

namespace AceXdp

open Decimal Disk Json Checked

/-! ## The identifier -/

theorem isAsciiAlphanum_toNat {ch : Char} (h : ch.isAlphanum) : isAsciiAlphanum ch.toNat := by
  have hlow : ch.toNat < 128 := by
    have hranges := toNat_isAlphanum h
    omega
  simp [isAsciiAlphanum, hlow, Char.ofNat_toNat, h]

theorem length_fourDigits_le {n : Nat} (h : n < 10 ^ 5) : (fourDigits n).length ≤ 5 := by
  have hdigits : (natText n).length ≤ 5 :=
    (Nat.length_toDigits_le_iff (by decide) (by decide)).mpr h
  rw [fourDigits, List.length_append, List.length_replicate]
  omega

/-- 64 characters of the name, at most 11 of the mode and five of the repeat. -/
theorem isRunId_runIdText (c : RunSettings) (mode : RunMode) {rep : Nat} (hrep : rep < 10 ^ 5) :
    isRunId ((runIdText c mode rep).map Char.toNat) := by
  have hmode : mode.chars.length ≤ 11 := by cases mode <;> decide
  have hlength := c.runId.length_lt
  have hdigits := length_fourDigits_le hrep
  simp only [isRunId, Bool.and_eq_true, decide_eq_true_eq, List.all_eq_true, List.length_map]
  refine ⟨⟨?_, ?_⟩, ?_⟩
  · have hstart := c.runId.start
    unfold runIdText
    cases hchars : c.runId.chars with
    | nil =>
      rw [hchars] at hstart
      cases hstart
    | cons ch rest =>
      rw [hchars] at hstart
      exact isAsciiAlphanum_toNat hstart
  · simp only [runIdText, List.length_append, List.length_cons]
    omega
  · intro n hn
    obtain ⟨ch, hch, rfl⟩ := List.mem_map.mp hn
    rcases name_runIdText c mode rep ch hch with h | rfl | rfl
    · simp [isAsciiAlphanum_toNat h]
    · decide
    · decide

/-! ## The flows -/

section Flows

variable (c : RunSettings) (mode : RunMode) (durationMs : Nat) (host : Host)

/-- The loop over the flows takes flows of different identifiers. Induction on them. -/
theorem checkFlows_run (ids : List Nat) {flows : List (Fin 3 × FlowSettings)}
    (hnodup : (flows.map Prod.fst).Nodup) (hids : ∀ e ∈ flows, e.1.val + 1 ∉ ids) :
    checkFlows host ids (flows.map fun e => .obj (flowMembers c mode durationMs e.1 e.2))
      = .ok (flows.map fun e => flowMembers c mode durationMs e.1 e.2) := by
  induction flows generalizing ids with
  | nil => rfl
  | cons e flows ih =>
    obtain ⟨i, f⟩ := e
    have hid : field (flowMembers c mode durationMs i f) "flow_id" = some (natValue (i.val + 1)) :=
      field_of_mem (nodup_flowMembers c mode durationMs i f) (by simp [flowMembers])
    have hfresh := hids (i, f) List.mem_cons_self
    have hrange : ¬(0xFFFFFFFF < i.val + 1 ∨ i.val + 1 ∈ ids) := by
      rintro (hlarge | hmem)
      · omega
      · exact hfresh hmem
    have hrest := ih ((i.val + 1) :: ids) (List.nodup_cons.mp hnodup).2 (by
      intro e he hmem
      rcases List.mem_cons.mp hmem with heq | hmem
      · have hfst : e.1 = i := Fin.ext (by omega)
        exact (List.nodup_cons.mp hnodup).1 (List.mem_map.mpr ⟨e, he, hfst⟩)
      · exact hids e (List.mem_cons_of_mem _ he) hmem)
    rw [List.map_cons, checkFlows, hid]
    simp only [natValue, unsigned, Int.natCast_nonneg, if_true, Int.toNat_natCast, bind, Except.bind,
      if_neg hrange, checkFlow_flow, hrest]
    rfl

theorem map_fst_enabledFlows :
    (enabledFlows c).map Prod.fst = (List.finRange 3).filter fun i => (c.flows i).isSome := by
  rw [enabledFlows]
  induction List.finRange 3 with
  | nil => rfl
  | cons i rest ih =>
    cases hflow : c.flows i with
    | none =>
      rw [List.filterMap_cons_none (by rw [hflow]; rfl), ih,
        List.filter_cons_of_neg (by simp [hflow])]
    | some f =>
      rw [List.filterMap_cons_some (by rw [hflow]; rfl), List.map_cons, ih,
        List.filter_cons_of_pos (by simp [hflow])]

theorem nodup_enabledFlows : ((enabledFlows c).map Prod.fst).Nodup := by
  rw [map_fst_enabledFlows]
  exact (List.nodup_finRange 3).filter _

theorem flowPlacement_flow (i : Fin 3) (f : FlowSettings) :
    flowPlacement host (flowMembers c mode durationMs i f)
      = .ok (some (natValue (i.val + 1)), rxCpusText (runRxCpuSet c i f mode)) := by
  have hid : field (flowMembers c mode durationMs i f) "flow_id" = some (natValue (i.val + 1)) :=
    field_of_mem (nodup_flowMembers c mode durationMs i f) (by simp [flowMembers])
  rw [flowPlacement, receiverCpuList_flow, hid]
  rfl

/-- Only the second flow can ask for the CPUMAP path, and it does in a mixed run. -/
theorem wantsCpumap_flow (i : Fin 3) (f : FlowSettings) :
    wantsCpumap host (flowMembers c mode durationMs i f) = true ↔ i = 1 ∧ mode = .mixed := by
  have hid : field (flowMembers c mode durationMs i f) "flow_id" = some (natValue (i.val + 1)) :=
    field_of_mem (nodup_flowMembers c mode durationMs i f) (by simp [flowMembers])
  have hpath : field (flowMembers c mode durationMs i f) "requested_path"
      = some (textValue (runFlowPath mode i)) :=
    field_of_mem (nodup_flowMembers c mode durationMs i f) (by simp [flowMembers])
  have hall : ∀ i : Fin 3, ((i.val : Int) + 1 = 2
      ∧ (runFlowPath mode i).map Char.toNat = str "cpumap") ↔ i = 1 ∧ mode = .mixed := by
    cases mode <;> decide
  rw [wantsCpumap, hid, hpath, Bool.and_eq_true]
  simpa [equalsInt, equalsStr, natValue, textValue] using hall i

end Flows

/-! ## The placement -/

section Placement

variable {c : RunSettings} (mode : RunMode) (host : Host)

theorem runFormatCpus_eq_nil {mask : CpuMask} : runFormatCpus mask = [] ↔ mask.cpus = [] := by
  constructor
  · intro h
    by_contra hne
    exact CpuList.format_ne_nil hne h
  · intro h
    rw [runFormatCpus, h, CpuList.format_nil]

theorem environmentText_mask {key : String} {mask : CpuMask}
    (h : (str key, textValue (runFormatCpus mask)) ∈ environmentOf c mode) :
    environmentText (environmentOf c mode) key = .ok ((runFormatCpus mask).map Char.toNat) := by
  rw [environmentText, field_of_mem (nodup_environmentOf c mode) h]
  rfl

theorem sharedCpuList_environment :
    sharedCpuList (environmentOf c mode) = .ok (runFormatCpus (runGeneralCpuSet c mode)) := by
  have hmem : (str "receiver_shared_cpus", textValue (runFormatCpus (runGeneralCpuSet c mode)))
      ∈ environmentOf c mode := by simp [environmentOf]
  rw [sharedCpuList, environmentText_mask mode hmem]
  by_cases hempty : (runGeneralCpuSet c mode).cpus = []
  · rw [runFormatCpus_eq_nil.mpr hempty]
    rfl
  · have hne : (runFormatCpus (runGeneralCpuSet c mode)).map Char.toNat ≠ [] := by
      simpa [runFormatCpus_eq_nil] using hempty
    have hcanonical := canonicalCpuList_format hempty "receiver_shared_cpus"
    simp only [bind, Except.bind, if_neg hne]
    rw [textValue] at hcanonical
    rw [hcanonical]
    simp only [if_neg (runFormatCpus_ne_inherit _)]
    rfl

theorem cpumapTarget_environment :
    cpumapTarget (environmentOf c mode) = .ok (if c.shared.isSome then some 3 else none) := by
  have hfield : field (environmentOf c mode) "receiver_cpumap_cpu"
      = some (if c.shared.isSome then natValue c.cpumapCpu else .null) :=
    field_of_mem (nodup_environmentOf c mode) (by simp [environmentOf])
  rw [cpumapTarget, hfield]
  by_cases hshared : c.shared.isSome = true
  · rw [if_pos hshared, if_pos hshared, c.cpumap_eq hshared]
    rfl
  · rw [if_neg hshared, if_neg hshared]

/-- A mixed run with flow 2 is what the analysis expects the reservation for. -/
theorem expectedActive_run (hshared : c.shared.isSome = true) (rep : Nat) (role : RunRole)
    (state : RunState) :
    expectedActive host (runMembers c mode rep role state)
        ((enabledFlows c).map fun e => flowMembers c mode c.durationMs e.1 e.2)
      = runCpumapActive c mode := by
  have hmode : field (runMembers c mode rep role state) "mode" = some (textValue mode.chars) :=
    field_of_mem (nodup_runMembers c mode rep role state) (by simp [runMembers])
  have hmixed : equalsStr (some (textValue mode.chars)) (str "mixed") = true ↔ mode = .mixed := by
    cases mode <;> decide
  have hsecond : (∃ e ∈ enabledFlows c, e.1 = 1) ↔ (c.flows 1).isSome = true := by
    have hmem := congrArg (fun l => (1 : Fin 3) ∈ l) (map_fst_enabledFlows c)
    simpa using hmem
  rw [Bool.eq_iff_iff, runCpumapActive_iff hshared, expectedActive, hmode, Bool.and_eq_true, hmixed,
    List.any_map, List.any_eq_true]
  simp only [Function.comp_apply, wantsCpumap_flow]
  rw [← hsecond]
  constructor
  · rintro ⟨hm, e, he, hi, -⟩
    exact ⟨hm, e, he, hi⟩
  · rintro ⟨hm, e, he, hi⟩
    exact ⟨hm, e, he, hi, hm⟩

/-- What is left when the target is reserved. -/
theorem generalCpus_format {mask : CpuMask} (hne : mask.cpus ≠ []) (cpu : Nat) (active : Bool) :
    generalCpus (runFormatCpus mask) (natText cpu) active
      = runFormatCpus (if active then mask.clear cpu else mask) := by
  rw [generalCpus, runFormatCpus, CpuList.splitOn_format hne]
  cases active with
  | false => simp [runFormatCpus, CpuList.format]
  | true =>
    have hfilter : (mask.cpus.map natText).filter (fun text => decide (text ≠ natText cpu))
        = (mask.cpus.filter (· ≠ cpu)).map natText := by
      rw [List.filter_map]
      congr 1
      refine List.filter_congr fun n _ => decide_eq_decide.mpr ?_
      exact not_congr natText_injective.eq_iff
    simpa [runFormatCpus, CpuMask.clear, CpuList.format] using congrArg [','].intercalate hfilter

section Shared

variable (hacc : Accepted c) (hshared : c.shared.isSome = true)

include hacc hshared

theorem general_ne_nil : (runGeneralCpuSet c mode).cpus ≠ [] := by
  by_cases hactive : runCpumapActive c mode = true
  · exact (general_cpus hacc hshared hactive).1.nonempty
  · rw [runGeneralCpuSet, if_neg hactive]
    exact List.ne_nil_of_mem (rxIrq_mem hacc hshared).1

/-- The CPUs of a flow, as the analysis expects them. -/
theorem rxCpusText_flow (i : Fin 3) (f : FlowSettings) :
    rxCpusText (runRxCpuSet c i f mode)
      = if (runCpumapActive c mode && decide (i.val + 1 = 2)) = true then natText 3
        else runFormatCpus (runGeneralCpuSet c mode) := by
  obtain ⟨domain, hdomain⟩ := Option.isSome_iff_exists.mp hshared
  have hindex : i.val + 1 = 2 ↔ i = 1 := ⟨fun h => Fin.ext (by omega), fun h => by rw [h]; rfl⟩
  have hreserved : (runCpumapActive c mode && decide (i.val + 1 = 2)) = true
      ↔ i = 1 ∧ runCpumapActive c mode = true := by
    rw [Bool.and_eq_true, decide_eq_true_iff, hindex, and_comm]
  simp only [runRxCpuSet, hdomain]
  by_cases htarget : i = 1 ∧ runCpumapActive c mode = true
  · have hformat : runFormatCpus (targetMask domain) = natText 3 := CpuList.format_singleton 3
    rw [if_pos htarget, if_pos (hreserved.mpr htarget), rxCpusText, hformat,
      if_neg (natText_ne_nil 3)]
  · rw [if_neg htarget, if_neg (mt hreserved.mp htarget), rxCpusText,
      if_neg (mt runFormatCpus_eq_nil.mp (general_ne_nil mode hacc hshared))]

/-- Every flow runs where the reservation puts it. Induction on the flows. -/
theorem checkFlowCpus_run (flows : List (Fin 3 × FlowSettings)) :
    checkFlowCpus host (natText 3) (runFormatCpus (runGeneralCpuSet c mode))
        (runCpumapActive c mode) (flows.map fun e => flowMembers c mode c.durationMs e.1 e.2)
      = .ok () := by
  induction flows with
  | nil => rfl
  | cons e flows ih =>
    obtain ⟨i, f⟩ := e
    have hid : field (flowMembers c mode c.durationMs i f) "flow_id" = some (natValue (i.val + 1)) :=
      field_of_mem (nodup_flowMembers c mode c.durationMs i f) (by simp [flowMembers])
    have hsecond : equalsInt host (some (natValue (i.val + 1))) 2 = decide (i.val + 1 = 2) := by
      simp only [equalsInt, natValue]
      exact decide_eq_decide.mpr (by omega)
    rw [List.map_cons, checkFlowCpus, receiverCpuList_flow, hid, hsecond]
    simp only [bind, Except.bind, rxCpusText_flow mode hacc hshared, ne_eq, not_true_eq_false,
      if_false, ih]

/-- **The reservation is recovered.** -/
theorem checkAvailable_shared (rep : Nat) (role : RunRole) (state : RunState) :
    checkAvailable host (runMembers c mode rep role state) (environmentOf c mode)
        ((enabledFlows c).map fun e => flowMembers c mode c.durationMs e.1 e.2)
        (runFormatCpus (runGeneralCpuSet c mode)) (some 3) ((availableCpus c).map Char.toNat)
      = .ok (availableCpus c, runCpumapActive c mode) := by
  have hirq := (rxIrq_mem hacc hshared).1
  have hne := List.ne_nil_of_mem hirq
  have hcanonical := canonicalCpuList_format hne "receiver_available_cpus"
  have htarget : natText 3 ∈ (availableCpus c).splitOn ',' := by
    obtain ⟨domain, hdomain⟩ := Option.isSome_iff_exists.mp hshared
    rw [availableCpus, runFormatCpus, CpuList.splitOn_format hne, sharedMask, hdomain]
    exact List.mem_map_of_mem domain.target
  have hguard : ¬(availableCpus c = "inherit".toList ∨ natText 3 ∉ (availableCpus c).splitOn ',') :=
    not_or.mpr ⟨runFormatCpus_ne_inherit _, not_not_intro htarget⟩
  have hactive : field (environmentOf c mode) "receiver_cpumap_active"
      = some (.bool (runCpumapActive c mode)) :=
    field_of_mem (nodup_environmentOf c mode) (by simp [environmentOf])
  have hgeneral : generalCpus (availableCpus c) (natText 3) (runCpumapActive c mode)
      = runFormatCpus (runGeneralCpuSet c mode) := by
    rw [availableCpus, generalCpus_format hne, runGeneralCpuSet, c.cpumap_eq hshared]
  have hgeneralNe : ¬(runFormatCpus (runGeneralCpuSet c mode) = []) :=
    mt runFormatCpus_eq_nil.mp (general_ne_nil mode hacc hshared)
  rw [textValue] at hcanonical
  rw [checkAvailable]
  simp only [availableCpus] at *
  simp only [hcanonical, bind, Except.bind, if_neg hguard, hactive,
    expectedActive_run mode host hshared rep role state, ne_eq, not_true_eq_false, if_false,
    hgeneral, hgeneralNe, or_self, checkFlowCpus_run mode host hacc hshared]
  rfl

end Shared

theorem receiverPlacement_run (hacc : Accepted c) (rep : Nat) (role : RunRole) (state : RunState) :
    ∃ placement,
      receiverPlacement host (runMembers c mode rep role state)
          ((enabledFlows c).map fun e => flowMembers c mode c.durationMs e.1 e.2) = .ok placement
        ∧ placement.sharedCpus = runFormatCpus (runGeneralCpuSet c mode)
        ∧ placement.cpumapCpu = (if c.shared.isSome then some 3 else none)
        ∧ placement.flows = (enabledFlows c).map (fun e =>
            (some (natValue (e.1.val + 1)), rxCpusText (runRxCpuSet c e.1 e.2 mode)))
        ∧ placement.available = (if c.shared.isSome then
            some (availableCpus c, runCpumapActive c mode) else none) := by
  have henvironment : environmentMembers (runMembers c mode rep role state) = environmentOf c mode := by
    have hfield : field (runMembers c mode rep role state) "environment"
        = some (.obj (environmentOf c mode)) :=
      field_of_mem (nodup_runMembers c mode rep role state) (by simp [runMembers])
    rw [environmentMembers, hfield]
  have hflows : ((enabledFlows c).map fun e => flowMembers c mode c.durationMs e.1 e.2).mapM
      (flowPlacement host) = .ok ((enabledFlows c).map fun e =>
        (some (natValue (e.1.val + 1)), rxCpusText (runRxCpuSet c e.1 e.2 mode))) := by
    rw [List.mapM_map]
    exact mapM_ok_of_forall fun e _ => flowPlacement_flow c mode c.durationMs host e.1 e.2
  have havailable : environmentText (environmentOf c mode) "receiver_available_cpus"
      = .ok ((availableCpus c).map Char.toNat) :=
    environmentText_mask mode (by simp [environmentOf, availableCpus])
  rw [receiverPlacement, henvironment]
  simp only [sharedCpuList_environment, cpumapTarget_environment, hflows, havailable, bind,
    Except.bind]
  by_cases hshared : c.shared.isSome = true
  · have hne : (availableCpus c).map Char.toNat ≠ [] := by
      have hmask := List.ne_nil_of_mem (rxIrq_mem hacc hshared).1
      simpa [availableCpus, runFormatCpus_eq_nil] using hmask
    simp only [if_neg hne, hshared, if_true,
      checkAvailable_shared mode host hacc hshared rep role state]
    exact ⟨_, rfl, rfl, rfl, rfl, rfl⟩
  · have hempty : (availableCpus c).map Char.toNat = [] := by
      have hnone : c.shared = none := by simpa using hshared
      rw [availableCpus, sharedMask, hnone]
      rfl
    simp only [if_pos hempty, hshared]
    exact ⟨_, rfl, rfl, rfl, rfl, rfl⟩

end Placement

/-! ## `load_descriptor` -/

theorem checkDescriptor_run {c : RunSettings} (hacc : Accepted c) (mode : RunMode) {rep : Nat}
    (hrep : rep ≤ c.repeats) (role : RunRole) (state : RunState) (host : Host)
    {placement : Placement}
    (h : receiverPlacement host (runMembers c mode rep role state)
      ((enabledFlows c).map fun e => flowMembers c mode c.durationMs e.1 e.2) = .ok placement) :
    checkDescriptor host (runMembers c mode rep role state)
      = .ok ((enabledFlows c).map (fun e => flowMembers c mode c.durationMs e.1 e.2),
          placement) := by
  have hnodup := nodup_runMembers c mode rep role state
  have hversion : field (runMembers c mode rep role state) "schema_version" = some (natValue 1) :=
    field_of_mem hnodup (by simp [runMembers])
  have hrunId : field (runMembers c mode rep role state) "run_id"
      = some (textValue (runIdText c mode rep)) := field_of_mem hnodup (by simp [runMembers])
  have hmode : field (runMembers c mode rep role state) "mode" = some (textValue mode.chars) :=
    field_of_mem hnodup (by simp [runMembers])
  have hflows : field (runMembers c mode rep role state) "flows"
      = some (.arr ((enabledFlows c).map fun e =>
          .obj (flowMembers c mode c.durationMs e.1 e.2))) :=
    field_of_mem hnodup (by simp [runMembers])
  have henvironment : field (runMembers c mode rep role state) "environment"
      = some (.obj (environmentOf c mode)) := field_of_mem hnodup (by simp [runMembers])
  have hone : equalsInt host (some (natValue 1)) 1 = true := rfl
  have hid : checkRunId (runMembers c mode rep role state) = .ok () := by
    rw [checkRunId, hrunId]
    exact if_pos (isRunId_runIdText c mode
      (Nat.lt_of_le_of_lt (hrep.trans hacc.repeats) (by decide)))
  have hmodeName : checkMode (runMembers c mode rep role state) = .ok () := by
    have hmem : mode.chars.map Char.toNat ∈ modeNames := by cases mode <;> decide
    rw [checkMode, hmode]
    exact if_pos hmem
  have hobject : checkEnvironment (runMembers c mode rep role state) = .ok () := by
    rw [checkEnvironment, henvironment]
  have hvalues : descriptorFlows (runMembers c mode rep role state)
      = .ok ((enabledFlows c).map fun e => .obj (flowMembers c mode c.durationMs e.1 e.2)) := by
    rw [descriptorFlows, hflows]
    exact if_neg (by simpa using enabledFlows_ne_nil c)
  rw [checkDescriptor, hversion, hone]
  simp only [bind, Except.bind, hid, hmodeName, hobject, hvalues, Bool.not_true, Bool.false_eq_true,
    if_false, h, checkFlows_run c mode c.durationMs host [] (nodup_enabledFlows c) (by simp)]
  rfl

/-- **The analysis accepts what the runner writes**, for every accepted configuration, mode and
repeat: `run.json` is the document of the configuration, `load_descriptor` takes it, and the CPU
lists, the CPUMAP reservation, the counts and the periods are those of the mode. -/
theorem run_descriptor_accepted {runner : RunnerHost} {content : List Char} {c : RunSettings}
    (h : readRunConfig runner content = some c) (mode : RunMode) (rep : Nat) (hrep : rep ≤ c.repeats)
    (role : RunRole) (state : RunState) (host : Host) :
    loadJson (encode (writeRun c mode rep role state)) = .ok (runMembers c mode rep role state)
      ∧ ∃ flows placement,
          checkDescriptor host (runMembers c mode rep role state) = .ok (flows, placement)
          ∧ List.Forall₂ (fun members (e : Fin 3 × FlowSettings) =>
              members = flowMembers c mode c.durationMs e.1 e.2
              ∧ receiverCpuList host members = .ok (rxCpusText (runRxCpuSet c e.1 e.2 mode))
              ∧ field members "rx_cpu" = some (.int (onlyCpu (runRxCpuSet c e.1 e.2 mode)))
              ∧ field members "count" = some (natValue (e.2.flowCount c.durationMs))
              ∧ field members "period_ns" = some (natValue e.2.periodNs))
            flows (enabledFlows c)
          ∧ placement.sharedCpus = runFormatCpus (runGeneralCpuSet c mode)
          ∧ placement.flows = (enabledFlows c).map (fun e =>
              (some (natValue (e.1.val + 1)), rxCpusText (runRxCpuSet c e.1 e.2 mode)))
          ∧ placement.available = (if c.shared.isSome then
              some (availableCpus c, runCpumapActive c mode) else none) := by
  have hacc := readRunConfig_accepted h
  obtain ⟨placement, hplacement, hshared, -, hflows, havailable⟩ :=
    receiverPlacement_run mode host hacc rep role state
  refine ⟨loadJson_writeRun c mode rep role state, _, placement,
    checkDescriptor_run hacc mode hrep role state host hplacement, ?_, hshared, hflows, havailable⟩
  rw [List.forall₂_map_left_iff, List.forall₂_same]
  intro e _
  have hnodup := nodup_flowMembers c mode c.durationMs e.1 e.2
  exact ⟨rfl, receiverCpuList_flow c mode c.durationMs e.1 e.2 host,
    field_of_mem hnodup (by simp [flowMembers]), field_of_mem hnodup (by simp [flowMembers]),
    field_of_mem hnodup (by simp [flowMembers])⟩

/-- The second repeat of a mixed run. -/
theorem run_descriptor_accepted_sample : ∃ c, readRunConfig sampleHost sampleFile = some c
    ∧ ∀ host, ∃ flows placement,
        checkDescriptor host (runMembers c .mixed 2 .receiver .completed) = .ok (flows, placement)
        ∧ placement.available = some (availableCpus c, runCpumapActive c .mixed) := by
  obtain ⟨c, hc, -, hshared, -, -, hrepeats⟩ := sampleConfig_accepted
  refine ⟨c, hc, fun host => ?_⟩
  obtain ⟨-, flows, placement, haccepted, -, -, -, havailable⟩ :=
    run_descriptor_accepted hc .mixed 2 hrepeats.ge .receiver .completed host
  exact ⟨flows, placement, haccepted, by rw [havailable, if_pos hshared]⟩

end AceXdp
