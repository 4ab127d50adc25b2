import AceXdp.Runner.Accepted
import AceXdp.Runner.CpuCodec

/-!
# AceXdp — the CPU of the CPUMAP flow is its own

The CPU sets that the runner derives from an accepted configuration with a shared receiver. A mixed
run with flow 2 reserves CPU 3 for it; every other run shares the whole domain.

* `general_cpus`: the general set without the reserved CPU;
* `cpumap_isolation`: all sets of a run.
-/

namespace AceXdp

/-- A nonempty set of shared CPUs without the reserved one. -/
structure GeneralCpus (c : RunSettings) (set : CpuMask) : Prop where
  nonempty : set.cpus ≠ []
  shared : ∀ n ∈ set.cpus, n ∈ (sharedMask c).cpus
  reserved : 3 ∉ set.cpus

theorem runParseCpus_runFormatCpus {mask : CpuMask} (hne : mask.cpus ≠ []) :
    runParseCpus (runFormatCpus mask) = some mask :=
  runParseCpus_eq_some_iff.mpr
    (CpuList.parse_format hne mask.ascending mask.bound fun _ _ _ hw => by cases hw)

theorem mem_clear {mask : CpuMask} {cpu n : Nat} :
    n ∈ (mask.clear cpu).cpus ↔ n ∈ mask.cpus ∧ n ≠ cpu := by
  simp [CpuMask.clear]

section Shared

variable {c : RunSettings} (hacc : Accepted c) (hshared : c.shared.isSome = true)

include hacc hshared

/-- The RX interrupt has a CPU of the domain that is not the reserved one. -/
theorem rxIrq_mem : c.rxIrqCpu ∈ (sharedMask c).cpus ∧ c.rxIrqCpu ≠ 3 := by
  have hirq := hacc.irq
  have htarget := c.cpumap_eq hshared
  obtain ⟨domain, hdomain⟩ := Option.isSome_iff_exists.mp hshared
  simp only [irqAllowed, hdomain, htarget, ne_eq, Bool.and_eq_true, decide_eq_true_eq] at hirq
  unfold sharedMask
  rw [hdomain]
  exact hirq

/-- A load on a shared receiver has the shared layout. -/
theorem shared_layout (hload : 0 < c.cpuPercent) : isSharedLayout c.cpuLayout = true := by
  have hworkers := hacc.workers
  obtain ⟨domain, hdomain⟩ := Option.isSome_iff_exists.mp hshared
  simp only [workersAllowed, hdomain, if_pos (Nat.pos_iff_ne_zero.mp hload)] at hworkers
  split at hworkers
  · exact (Bool.and_eq_true_iff.mp hworkers).2
  · cases hworkers

theorem general_cpus {mode : RunMode} (hactive : runCpumapActive c mode = true) :
    GeneralCpus c (runGeneralCpuSet c mode) ∧ c.rxIrqCpu ∈ (runGeneralCpuSet c mode).cpus := by
  obtain ⟨hmem, hne⟩ := rxIrq_mem hacc hshared
  have hset : runGeneralCpuSet c mode = (sharedMask c).clear 3 := by
    rw [runGeneralCpuSet, if_pos hactive, c.cpumap_eq hshared]
  rw [hset]
  have hirq := mem_clear.mpr ⟨hmem, hne⟩
  exact ⟨⟨List.ne_nil_of_mem hirq, fun n hn => (mem_clear.mp hn).1, fun h => (mem_clear.mp h).2 rfl⟩,
    hirq⟩

/-- The load runs on the general set. -/
theorem load_cpus {mode : RunMode} (hload : 0 < c.cpuPercent)
    (hne : (runGeneralCpuSet c mode).cpus ≠ []) :
    runParseCpus (runLoadCpus c mode) = some (runGeneralCpuSet c mode) := by
  rw [runLoadCpus, if_pos (shared_layout hacc hshared hload), runParseCpus_runFormatCpus hne]

end Shared

theorem runCpumapActive_iff {c : RunSettings} (hshared : c.shared.isSome = true) (mode : RunMode) :
    runCpumapActive c mode = true ↔ mode = .mixed ∧ (c.flows 1).isSome = true := by
  simp [runCpumapActive, hshared]

/-- **The CPUs of a run on a shared receiver.** In a mixed run with flow 2 that flow has CPU 3, and
nobody else has; in any other run everybody has the whole domain. -/
theorem cpumap_isolation {host : RunnerHost} {content : List Char} {c : RunSettings}
    (h : readRunConfig host content = some c) (hshared : c.shared.isSome = true) (mode : RunMode)
    (f : FlowSettings) :
    (mode = .mixed ∧ (c.flows 1).isSome = true →
      (runRxCpuSet c 1 f mode).cpus = [3]
      ∧ (∀ i, i ≠ 1 → GeneralCpus c (runRxCpuSet c i f mode))
      ∧ GeneralCpus c (runGeneralCpuSet c mode)
      ∧ c.rxIrqCpu ∈ (runGeneralCpuSet c mode).cpus
      ∧ (0 < c.cpuPercent →
          ∃ load, runParseCpus (runLoadCpus c mode) = some load ∧ GeneralCpus c load))
    ∧ (¬(mode = .mixed ∧ (c.flows 1).isSome = true) →
      (∀ i, runRxCpuSet c i f mode = sharedMask c)
      ∧ runGeneralCpuSet c mode = sharedMask c
      ∧ (0 < c.cpuPercent → runParseCpus (runLoadCpus c mode) = some (sharedMask c))) := by
  have hacc := readRunConfig_accepted h
  obtain ⟨domain, hdomain⟩ := Option.isSome_iff_exists.mp hshared
  constructor
  · intro hmixed
    have hactive := (runCpumapActive_iff hshared mode).mpr hmixed
    obtain ⟨hgeneral, hirq⟩ := general_cpus hacc hshared hactive
    refine ⟨?_, fun i hi => ?_, hgeneral, hirq, fun hload =>
      ⟨_, load_cpus hacc hshared hload hgeneral.nonempty, hgeneral⟩⟩
    · simp only [runRxCpuSet, hdomain, hactive, and_self, if_true, targetMask]
    · simp only [runRxCpuSet, hdomain, hi, false_and, if_false]
      exact hgeneral
  · intro hother
    have hinactive : ¬runCpumapActive c mode = true := fun hactive =>
      hother ((runCpumapActive_iff hshared mode).mp hactive)
    have hgeneral : runGeneralCpuSet c mode = sharedMask c := if_neg hinactive
    have hne : (sharedMask c).cpus ≠ [] := List.ne_nil_of_mem (rxIrq_mem hacc hshared).1
    refine ⟨fun i => ?_, hgeneral, fun hload => ?_⟩
    · simp only [runRxCpuSet, hdomain, hinactive, Bool.false_eq_true, and_false, if_false]
      exact hgeneral
    · rw [load_cpus hacc hshared hload (hgeneral ▸ hne), hgeneral]

/-- A mixed run with a load next to the CPUMAP flow. -/
theorem cpumap_isolation_sample : ∃ c, readRunConfig sampleHost sampleFile = some c
    ∧ ∀ f, (runRxCpuSet c 1 f .mixed).cpus = [3] := by
  obtain ⟨c, hc, -, hshared, hflow, -⟩ := sampleConfig_accepted
  exact ⟨c, hc, fun f => ((cpumap_isolation hc hshared .mixed f).1 ⟨rfl, hflow⟩).1⟩

end AceXdp
