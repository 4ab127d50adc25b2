import AceXdp.Runner.RunJson
import AceXdp.Experiment.Descriptor

/-!
# AceXdp — the analysis reads back what the runner writes

* `runMembers`: the document of `run.json`, with the strings of the configuration;
* `loads_writeRun`: the text the runner writes is that document;
* `checkFlow_flow`: the checks on a flow accept its member.
-/

namespace AceXdp

open Decimal Disk Json

/-! ## The document

What `run.json` says, as a value; one definition for each function of the writer. -/

variable (c : RunSettings)

/-- A text as a value. -/
def textValue (chars : List Char) : Value := .string (chars.map Char.toNat)

def natValue (n : Nat) : Value := .int n

@[simp] theorem strict_textValue (chars : List Char) : (textValue chars).strict = true :=
  Value.strict_string _

@[simp] theorem strict_natValue (n : Nat) : (natValue n).strict = true := Value.strict_int n

def flowMembers (mode : RunMode) (durationMs : Nat) (i : Fin 3) (f : FlowSettings) : Members :=
  [(str "flow_id", natValue (i.val + 1)),
    (str "port", natValue (9000 + i.val)),
    (str "count", natValue (f.flowCount durationMs)),
    (str "period_ns", natValue f.periodNs),
    (str "deadline_ns", if f.deadlineNs = 0 then .null else natValue f.deadlineNs),
    (str "requested_path", textValue (runFlowPath mode i)),
    (str "tx_cpu", .int (cpuInt f.txCpu)),
    (str "rx_cpu", .int (onlyCpu (runRxCpuSet c i f mode))),
    (str "rx_cpus", textValue (rxCpusText (runRxCpuSet c i f mode))),
    (str "tx_policy", natValue f.txPolicy.code),
    (str "rx_policy", natValue f.rxPolicy.code),
    (str "tx_priority", natValue f.txPriority),
    (str "rx_priority", natValue f.rxPriority)]

def loadMembers (mode : RunMode) : Members :=
  [(str "cpu_percent", natValue c.cpuPercent),
    (str "cpu_cpus", textValue (runLoadCpus c mode)),
    (str "cpu_layout", textValue c.cpuLayout.chars),
    (str "cpu_workers", natValue c.cpuWorkers),
    (str "memory_workers", natValue c.memoryWorkers),
    (str "memory_bytes", textValue c.memoryBytes.chars),
    (str "io_workers", natValue c.ioWorkers),
    (str "network_bps", natValue c.networkBps),
    (str "network_protocol", textValue c.networkProtocol.chars),
    (str "network_direction", textValue c.networkDirection.chars),
    (str "network_parallel", natValue c.networkParallel),
    (str "on_sec", natValue c.onSec),
    (str "off_sec", natValue c.offSec)]

def environmentOf (mode : RunMode) : Members :=
  [(str "governor", textValue c.governor.chars),
    (str "alternate_mode_order", natValue c.alternateModeOrder),
    (str "xsk_busy", natValue c.xskBusy),
    (str "rx_coalesce_usecs", .int (match c.rxCoalesceUsecs with
      | some n => n
      | none => -1)),
    (str "phc_tracking", natValue c.phcTracking),
    (str "receiver_supervisor_cpu", .int (cpuInt c.receiverSupervisorCpu)),
    (str "sender_supervisor_cpu", .int (cpuInt c.senderSupervisorCpu)),
    (str "receiver_network_cpu", .int (cpuInt c.receiverNetworkCpu)),
    (str "sender_network_cpu", .int (cpuInt c.senderNetworkCpu)),
    (str "receiver_available_cpus", textValue (availableCpus c)),
    (str "receiver_shared_cpus", textValue (runFormatCpus (runGeneralCpuSet c mode))),
    (str "receiver_cpumap_active", .bool (runCpumapActive c mode)),
    (str "receiver_cpumap_cpu", if c.shared.isSome then natValue c.cpumapCpu else .null),
    (str "rx_irq_cpu", natValue c.rxIrqCpu)]

def configMembers : Members :=
  [(str "sha256", textValue c.digest.chars),
    (str "warmup_ms", natValue c.warmupMs),
    (str "settle_ms", natValue c.settleMs),
    (str "drain_ms", natValue c.drainMs),
    (str "monitor", natValue c.monitor)]

def runMembers (mode : RunMode) (rep : Nat) (role : RunRole) (state : RunState) : Members :=
  [(str "schema_version", natValue 1),
    (str "run_id", textValue (runIdText c mode rep)),
    (str "case_id", textValue c.runId.chars),
    (str "repeat", natValue rep),
    (str "role", textValue role.chars),
    (str "purpose", textValue (purposeText mode)),
    (str "state", textValue state.chars),
    (str "warmup_s", .float (milliText c.warmupMs)),
    (str "mode", textValue mode.chars),
    (str "duration_s", .float (milliText c.durationMs)),
    (str "flows", .arr ((enabledFlows c).map fun e =>
      .obj (flowMembers c mode c.durationMs e.1 e.2))),
    (str "load", .obj (loadMembers c mode)),
    (str "environment", .obj (environmentOf c mode)),
    (str "config", .obj (configMembers c))]

/-! ## Texts of values

The printers of single values, each with the value it denotes. -/

theorem denotes_natText (n : Nat) : Denotes (natText n) (natValue n) := denotes_int n

theorem denotes_quoted {s : List Char} (h : ∀ ch ∈ s, isPlain ch) :
    Denotes (quoted s) (textValue s) :=
  denotes_string (spells_plain h)

theorem scansTo_jsonEscape {ch : Char} (h : isPrintable ch) : ScansTo (jsonEscape ch) [ch.toNat] := by
  simp only [isPrintable, Bool.and_eq_true, decide_eq_true_eq] at h
  unfold jsonEscape
  split
  · rename_i hquote
    rcases hquote with rfl | rfl
    · exact scansTo_escape rfl
    · exact scansTo_escape rfl
  · rename_i hquote
    rw [not_or] at hquote
    rw [if_neg (by omega)]
    exact scansTo_plain hquote.1 hquote.2 h.1

theorem denotes_jsonString {s : List Char} (h : ∀ ch ∈ s, isPrintable ch) :
    Denotes (jsonString s) (textValue s) := by
  have hscan : ScansTo (s.flatMap jsonEscape) (s.flatMap fun ch => [ch.toNat]) :=
    scansTo_flatMap fun ch hch => scansTo_jsonEscape (h ch hch)
  rw [← List.map_eq_flatMap] at hscan
  exact denotes_string (hscan.spells (joinSurrogates_chars s))

theorem denotes_milliText (ms : Nat) : Denotes (milliText ms) (.float (milliText ms)) := by
  have hdigit : ∀ n, n < 10 → n.digitChar.isDigit := by decide
  refine denotes_fraction false (ms / 1000) (by simp) ?_
  simp only [List.mem_cons, List.not_mem_nil, or_false, forall_eq_or_imp, forall_eq]
  exact ⟨hdigit _ (by omega), hdigit _ (by omega), hdigit _ (by omega)⟩

theorem denotes_boolText (b : Bool) : Denotes (boolText b) (.bool b) := by
  cases b
  · exact denotes_false
  · exact denotes_true

theorem prints {key : String} {text : List Char} {value : Value} (h : Denotes text value)
    (hkey : ∀ ch ∈ key.toList, isPlain ch) : Prints (key.toList, text) (str key, value) :=
  ⟨rfl, hkey, h⟩

/-! ## The texts of the runner

Every string that the runner prints is printable or made of names, so that nothing has to be escaped
that the reader would read differently. -/

section Texts

variable {c} {mode : RunMode} {durationMs : Nat}

theorem isPrintable_format (cpus : List Nat) : ∀ ch ∈ CpuList.format cpus, isPrintable ch := by
  intro ch hch
  rcases CpuList.mem_format hch with h | rfl
  · simp only [Char.isDigit, Bool.and_eq_true, decide_eq_true_eq] at h
    simp only [isPrintable, Bool.and_eq_true, decide_eq_true_eq]
    have hlow : '0'.toNat ≤ ch.toNat := h.1
    have hhigh : ch.toNat ≤ '9'.toNat := h.2
    have h0 : '0'.toNat = 48 := rfl
    have h9 : '9'.toNat = 57 := rfl
    omega
  · decide

theorem isPrintable_rxCpusText (mask : CpuMask) : ∀ ch ∈ rxCpusText mask, isPrintable ch := by
  unfold rxCpusText
  split
  · decide
  · exact isPrintable_format _

theorem isPrintable_runLoadCpus (c : RunSettings) (mode : RunMode) :
    ∀ ch ∈ runLoadCpus c mode, isPrintable ch := by
  unfold runLoadCpus
  split
  · exact isPrintable_format _
  · exact c.cpuCpus.printable

theorem isPlain_runFlowPath (mode : RunMode) (i : Fin 3) :
    ∀ ch ∈ runFlowPath mode i, isPlain ch := by
  unfold runFlowPath
  split
  · decide
  · split <;> decide

theorem denotes_writeFlow (c : RunSettings) (mode : RunMode) (durationMs : Nat) (i : Fin 3)
    (f : FlowSettings) :
    Denotes (writeFlow c mode durationMs i f) (.obj (flowMembers c mode durationMs i f)) := by
  have hdeadline : Denotes (if f.deadlineNs = 0 then "null".toList else natText f.deadlineNs)
      (if f.deadlineNs = 0 then .null else natValue f.deadlineNs) := by
    split
    · exact denotes_null
    · exact denotes_natText _
  refine denotes_objectText ?_ (by simp)
  exact .cons (prints (denotes_natText _) (by decide))
    (.cons (prints (denotes_natText _) (by decide))
    (.cons (prints (denotes_natText _) (by decide))
    (.cons (prints (denotes_natText _) (by decide))
    (.cons (prints hdeadline (by decide))
    (.cons (prints (denotes_quoted (isPlain_runFlowPath mode i)) (by decide))
    (.cons (prints (denotes_int _) (by decide))
    (.cons (prints (denotes_int _) (by decide))
    (.cons (prints (denotes_jsonString (isPrintable_rxCpusText _)) (by decide))
    (.cons (prints (denotes_natText _) (by decide))
    (.cons (prints (denotes_natText _) (by decide))
    (.cons (prints (denotes_natText _) (by decide))
    (.cons (prints (denotes_natText _) (by decide)) .nil))))))))))))

theorem denotes_writeLoad (c : RunSettings) (mode : RunMode) :
    Denotes (writeLoad c mode) (.obj (loadMembers c mode)) := by
  have hprotocol : ∀ ch ∈ c.networkProtocol.chars, isPlain ch := by
    cases c.networkProtocol <;> decide
  have hdirection : ∀ ch ∈ c.networkDirection.chars, isPlain ch := by
    cases c.networkDirection <;> decide
  refine denotes_objectText ?_ (by simp)
  exact .cons (prints (denotes_natText _) (by decide))
    (.cons (prints (denotes_jsonString (isPrintable_runLoadCpus c mode)) (by decide))
    (.cons (prints (denotes_jsonString c.cpuLayout.printable) (by decide))
    (.cons (prints (denotes_natText _) (by decide))
    (.cons (prints (denotes_natText _) (by decide))
    (.cons (prints (denotes_jsonString c.memoryBytes.printable) (by decide))
    (.cons (prints (denotes_natText _) (by decide))
    (.cons (prints (denotes_natText _) (by decide))
    (.cons (prints (denotes_quoted hprotocol) (by decide))
    (.cons (prints (denotes_quoted hdirection) (by decide))
    (.cons (prints (denotes_natText _) (by decide))
    (.cons (prints (denotes_natText _) (by decide))
    (.cons (prints (denotes_natText _) (by decide)) .nil))))))))))))

theorem denotes_writeEnvironment (c : RunSettings) (mode : RunMode) :
    Denotes (writeEnvironment c mode) (.obj (environmentOf c mode)) := by
  have htarget : Denotes (if c.shared.isSome then natText c.cpumapCpu else "null".toList)
      (if c.shared.isSome then natValue c.cpumapCpu else .null) := by
    split
    · exact denotes_natText _
    · exact denotes_null
  refine denotes_objectText ?_ (by simp)
  exact .cons (prints (denotes_jsonString c.governor.printable) (by decide))
    (.cons (prints (denotes_natText _) (by decide))
    (.cons (prints (denotes_natText _) (by decide))
    (.cons (prints (denotes_int _) (by decide))
    (.cons (prints (denotes_natText _) (by decide))
    (.cons (prints (denotes_int _) (by decide))
    (.cons (prints (denotes_int _) (by decide))
    (.cons (prints (denotes_int _) (by decide))
    (.cons (prints (denotes_int _) (by decide))
    (.cons (prints (denotes_jsonString (isPrintable_format _)) (by decide))
    (.cons (prints (denotes_jsonString (isPrintable_format _)) (by decide))
    (.cons (prints (denotes_boolText _) (by decide))
    (.cons (prints htarget (by decide))
    (.cons (prints (denotes_natText _) (by decide)) .nil)))))))))))))

/-- A character between two that are above the blank, the quote and the backslash apart. -/
theorem isPlain_of_between {low high ch : Char} (hlow : low ≤ ch) (hhigh : ch ≤ high)
    (hblank : ' ' ≤ low) (hquote : ¬ (low ≤ '"' ∧ '"' ≤ high))
    (hbackslash : ¬ (low ≤ '\\' ∧ '\\' ≤ high)) : isPlain ch := by
  simp only [isPlain, Bool.and_eq_true, decide_eq_true_eq]
  refine ⟨⟨?_, ?_⟩, ?_⟩
  · rintro rfl
    exact hquote ⟨hlow, hhigh⟩
  · rintro rfl
    exact hbackslash ⟨hlow, hhigh⟩
  · have hle : ' '.toNat ≤ ch.toNat := le_trans hblank hlow
    exact hle

theorem isPlain_of_isDigit {ch : Char} (h : ch.isDigit) : isPlain ch := by
  simp only [Char.isDigit, Bool.and_eq_true, decide_eq_true_eq] at h
  have hlow : '0' ≤ ch := h.1
  have hhigh : ch ≤ '9' := h.2
  exact isPlain_of_between hlow hhigh (by decide) (by decide) (by decide)

theorem isPlain_of_hex {ch : Char} (h : (hexValue ch).isSome) : isPlain ch := by
  unfold hexValue at h
  split at h
  · rename_i hdigit
    exact isPlain_of_isDigit hdigit
  · split at h
    · rename_i hlower
      exact isPlain_of_between hlower.1 hlower.2 (by decide) (by decide) (by decide)
    · split at h
      · rename_i hupper
        exact isPlain_of_between hupper.1 hupper.2 (by decide) (by decide) (by decide)
      · cases h

theorem denotes_writeConfig (c : RunSettings) :
    Denotes (writeConfig c) (.obj (configMembers c)) := by
  refine denotes_objectText ?_ (by simp)
  exact .cons (prints (denotes_quoted fun ch hch => isPlain_of_hex (c.digest.hex ch hch)) (by decide))
    (.cons (prints (denotes_natText _) (by decide))
    (.cons (prints (denotes_natText _) (by decide))
    (.cons (prints (denotes_natText _) (by decide))
    (.cons (prints (denotes_natText _) (by decide)) .nil))))

theorem enabledFlows_ne_nil (c : RunSettings) : enabledFlows c ≠ [] := by
  obtain ⟨i, hi⟩ := c.someFlow
  obtain ⟨f, hf⟩ := Option.isSome_iff_exists.mp hi
  have hmem : (i, f) ∈ enabledFlows c := by
    refine List.mem_filterMap.mpr ⟨i, List.mem_finRange i, ?_⟩
    rw [hf]
    rfl
  exact List.ne_nil_of_mem hmem

theorem denotes_flows (c : RunSettings) (mode : RunMode) (durationMs : Nat) :
    Denotes (arrayText ((enabledFlows c).map fun e => writeFlow c mode durationMs e.1 e.2))
      (.arr ((enabledFlows c).map fun e => .obj (flowMembers c mode durationMs e.1 e.2))) := by
  refine denotes_arrayText ?_ (by simpa using enabledFlows_ne_nil c)
  rw [List.forall₂_map_left_iff, List.forall₂_map_right_iff, List.forall₂_same]
  exact fun e _ => denotes_writeFlow c mode durationMs e.1 e.2

theorem isPlain_of_name {ch : Char} (h : ch.isAlphanum ∨ ch = '-' ∨ ch = '_') : isPlain ch := by
  rcases h with h | rfl | rfl
  · obtain hletter | hdigit := (Bool.or_eq_true _ _).mp h
    · obtain hupper | hlower := (Bool.or_eq_true _ _).mp hletter
      · have hbounds : 'A' ≤ ch ∧ ch ≤ 'Z' := of_decide_eq_true hupper
        exact isPlain_of_between hbounds.1 hbounds.2 (by decide) (by decide) (by decide)
      · have hbounds := (Bool.and_eq_true _ _).mp hlower
        have hlow : 'a' ≤ ch := of_decide_eq_true hbounds.1
        have hhigh : ch ≤ 'z' := of_decide_eq_true hbounds.2
        exact isPlain_of_between hlow hhigh (by decide) (by decide) (by decide)
    · exact isPlain_of_isDigit hdigit
  · decide
  · decide

theorem isPlain_runId (c : RunSettings) : ∀ ch ∈ c.runId.chars, isPlain ch :=
  fun ch hch => isPlain_of_name (c.runId.name ch hch)

theorem isPlain_mode (mode : RunMode) : ∀ ch ∈ mode.chars, isPlain ch := by
  cases mode <;> decide

/-- The characters of a printed run identifier. -/
theorem name_runIdText (c : RunSettings) (mode : RunMode) (rep : Nat) :
    ∀ ch ∈ runIdText c mode rep, ch.isAlphanum ∨ ch = '-' ∨ ch = '_' := by
  have hmode : ∀ ch ∈ mode.chars, ch.isAlphanum ∨ ch = '-' ∨ ch = '_' := by
    cases mode <;> decide
  have hdigits : ∀ ch ∈ fourDigits rep, ch.isAlphanum := by
    intro ch hch
    rcases List.mem_append.mp hch with hch | hch
    · rw [(List.mem_replicate.mp hch).2]
      decide
    · rw [Char.isAlphanum, isDigit_of_mem_natText hch, Bool.or_true]
  intro ch hch
  rcases List.mem_append.mp hch with hch | hch
  · exact c.runId.name ch hch
  · rcases List.mem_cons.mp hch with rfl | hch
    · exact .inr (.inl rfl)
    · rcases List.mem_append.mp hch with hch | hch
      · exact hmode ch hch
      · rcases List.mem_cons.mp hch with rfl | hch
        · exact .inr (.inl rfl)
        · rcases List.mem_cons.mp hch with rfl | hch
          · exact .inl (by decide)
          · exact .inl (hdigits ch hch)

theorem prints_run (c : RunSettings) (mode : RunMode) (rep : Nat) (role : RunRole)
    (state : RunState) :
    List.Forall₂ Prints (headerMembers c mode rep role state ++ conditionMembers c mode c.durationMs)
      (runMembers c mode rep role state) := by
  have hrunId : ∀ ch ∈ runIdText c mode rep, isPlain ch :=
    fun ch hch => isPlain_of_name (name_runIdText c mode rep ch hch)
  have hrole : ∀ ch ∈ role.chars, isPlain ch := by cases role <;> decide
  have hstate : ∀ ch ∈ state.chars, isPlain ch := by cases state <;> decide
  have hpurpose : ∀ ch ∈ purposeText mode, isPlain ch := by
    unfold purposeText
    split <;> decide
  exact .cons (prints (denotes_natText _) (by decide))
    (.cons (prints (denotes_quoted hrunId) (by decide))
    (.cons (prints (denotes_quoted (isPlain_runId c)) (by decide))
    (.cons (prints (denotes_natText _) (by decide))
    (.cons (prints (denotes_quoted hrole) (by decide))
    (.cons (prints (denotes_quoted hpurpose) (by decide))
    (.cons (prints (denotes_quoted hstate) (by decide))
    (.cons (prints (denotes_milliText _) (by decide))
    (.cons (prints (denotes_quoted (isPlain_mode mode)) (by decide))
    (.cons (prints (denotes_milliText _) (by decide))
    (.cons (prints (denotes_flows c mode _) (by decide))
    (.cons (prints (denotes_writeLoad c mode) (by decide))
    (.cons (prints (denotes_writeEnvironment c mode) (by decide))
    (.cons (prints (denotes_writeConfig c) (by decide)) .nil)))))))))))))

/-- Putting the two parts of `write_run` together. -/
theorem writeRun_eq (c : RunSettings) (mode : RunMode) (rep : Nat) (role : RunRole)
    (state : RunState) :
    writeRun c mode rep role state
      = objectText (headerMembers c mode rep role state ++ conditionMembers c mode c.durationMs)
        ++ ['\n'] := by
  have hcondition : (conditionMembers c mode c.durationMs).map (fun m => memberText m.1 m.2) ≠ [] := by
    simp [conditionMembers]
  rw [writeRun, writeCondition, objectText, objectText, List.map_append,
    joinItems_append _ hcondition]
  simp [List.flatMap_map]

/-- **The text of the runner is the document.** -/
theorem loads_writeRun (c : RunSettings) (mode : RunMode) (rep : Nat) (role : RunRole)
    (state : RunState) :
    loads (writeRun c mode rep role state) = some (.obj (runMembers c mode rep role state)) := by
  have hdenotes := denotes_objectText (prints_run c mode rep role state)
    (by simp [headerMembers])
  have hloads := @loads_of_denotes _ _ hdenotes [] ['\n'] (by simp) (by decide)
  rw [List.nil_append, ← writeRun_eq] at hloads
  exact hloads

end Texts

/-! ## The fields

No key is written twice, so the strict loader accepts the document and each field is found. -/

theorem nodup_flowMembers (c : RunSettings) (mode : RunMode) (durationMs : Nat) (i : Fin 3)
    (f : FlowSettings) : ((flowMembers c mode durationMs i f).map Prod.fst).Nodup := by
  have hkeys : (["flow_id", "port", "count", "period_ns", "deadline_ns", "requested_path", "tx_cpu",
      "rx_cpu", "rx_cpus", "tx_policy", "rx_policy", "tx_priority", "rx_priority"].map str).Nodup :=
    List.Nodup.map str_injective (by decide)
  exact hkeys

theorem nodup_loadMembers (c : RunSettings) (mode : RunMode) :
    ((loadMembers c mode).map Prod.fst).Nodup := by
  have hkeys : (["cpu_percent", "cpu_cpus", "cpu_layout", "cpu_workers", "memory_workers",
      "memory_bytes", "io_workers", "network_bps", "network_protocol", "network_direction",
      "network_parallel", "on_sec", "off_sec"].map str).Nodup :=
    List.Nodup.map str_injective (by decide)
  exact hkeys

theorem nodup_environmentOf (c : RunSettings) (mode : RunMode) :
    ((environmentOf c mode).map Prod.fst).Nodup := by
  have hkeys : (["governor", "alternate_mode_order", "xsk_busy", "rx_coalesce_usecs", "phc_tracking",
      "receiver_supervisor_cpu", "sender_supervisor_cpu", "receiver_network_cpu",
      "sender_network_cpu", "receiver_available_cpus", "receiver_shared_cpus",
      "receiver_cpumap_active", "receiver_cpumap_cpu", "rx_irq_cpu"].map str).Nodup :=
    List.Nodup.map str_injective (by decide)
  exact hkeys

theorem nodup_configMembers (c : RunSettings) : ((configMembers c).map Prod.fst).Nodup := by
  have hkeys : (["sha256", "warmup_ms", "settle_ms", "drain_ms", "monitor"].map str).Nodup :=
    List.Nodup.map str_injective (by decide)
  exact hkeys

theorem nodup_runMembers (c : RunSettings) (mode : RunMode) (rep : Nat) (role : RunRole)
    (state : RunState) : ((runMembers c mode rep role state).map Prod.fst).Nodup := by
  have hkeys : (["schema_version", "run_id", "case_id", "repeat", "role", "purpose", "state",
      "warmup_s", "mode", "duration_s", "flows", "load", "environment", "config"].map str).Nodup :=
    List.Nodup.map str_injective (by decide)
  exact hkeys

theorem strict_flow (c : RunSettings) (mode : RunMode) (durationMs : Nat) (i : Fin 3)
    (f : FlowSettings) : (Value.obj (flowMembers c mode durationMs i f)).strict := by
  have hdeadline : (if f.deadlineNs = 0 then Value.null else natValue f.deadlineNs).strict := by
    split <;> simp
  rw [Value.strict, decide_eq_true (nodup_flowMembers c mode durationMs i f)]
  simp [flowMembers, strictMembers, hdeadline]

theorem strict_run (c : RunSettings) (mode : RunMode) (rep : Nat) (role : RunRole)
    (state : RunState) : (Value.obj (runMembers c mode rep role state)).strict := by
  have hload : (Value.obj (loadMembers c mode)).strict := by
    rw [Value.strict, decide_eq_true (nodup_loadMembers c mode)]
    simp [loadMembers, strictMembers]
  have htarget : (if c.shared.isSome then natValue c.cpumapCpu else Value.null).strict := by
    split <;> simp
  have henvironment : (Value.obj (environmentOf c mode)).strict := by
    rw [Value.strict, decide_eq_true (nodup_environmentOf c mode)]
    simp [environmentOf, strictMembers, htarget]
  have hconfig : (Value.obj (configMembers c)).strict := by
    rw [Value.strict, decide_eq_true (nodup_configMembers c)]
    simp [configMembers, strictMembers]
  have hflows : ∀ l : List (Fin 3 × FlowSettings),
      strictItems (l.map fun e => .obj (flowMembers c mode c.durationMs e.1 e.2)) := by
    intro l
    induction l with
    | nil => rfl
    | cons e l ih =>
      rw [List.map_cons, strictItems, strict_flow, ih]
      rfl
  rw [Value.strict, decide_eq_true (nodup_runMembers c mode rep role state)]
  have hflows' : (Value.arr ((enabledFlows c).map fun e =>
      .obj (flowMembers c mode c.durationMs e.1 e.2))).strict := by
    rw [Value.strict]
    exact hflows _
  simp [runMembers, strictMembers, hload, henvironment, hconfig, hflows']

theorem loadJson_writeRun (c : RunSettings) (mode : RunMode) (rep : Nat) (role : RunRole)
    (state : RunState) :
    loadJson (encode (writeRun c mode rep role state)) = .ok (runMembers c mode rep role state) := by
  rw [loadJson, decode_encode, Option.bind_some, loads_writeRun]
  exact if_pos (strict_run c mode rep role state)

/-! ## CPU lists

The writer prints a mask, the checks parse and print it again; the two texts agree. -/

theorem asciiText_chars (chars : List Char) : asciiText (chars.map Char.toNat) = chars := by
  simp [asciiText, Function.comp_def]

theorem parse_runFormatCpus {mask : CpuMask} (hne : mask.cpus ≠ []) :
    CpuList.parse 1024 (some maxDigits) false (runFormatCpus mask) = some mask.cpus := by
  refine CpuList.parse_format hne mask.ascending mask.bound ?_
  rintro n hn w ⟨⟩
  have hlength : (natText n).length ≤ 4 :=
    (Nat.length_toDigits_le_iff (by decide) (by decide)).mpr
      (lt_of_lt_of_le (mask.bound n hn) (by decide))
  exact hlength.trans (by decide)

theorem runFormatCpus_ne_inherit (mask : CpuMask) : runFormatCpus mask ≠ "inherit".toList := by
  intro h
  have hmem : 'i' ∈ runFormatCpus mask := h ▸ by decide
  rcases CpuList.mem_format hmem with h | h
  · cases h
  · cases h

/-- A text that is neither empty nor `inherit` is read as a list. -/
theorem canonicalCpuList_text {text : List Char} (hne : text ≠ [])
    (hinherit : text ≠ "inherit".toList) (label : String) :
    canonicalCpuList (some (textValue text)) label =
      match CpuList.parse 1024 (some maxDigits) false text with
      | some cpus => .ok (CpuList.format cpus)
      | none => .error (cpuListComplaint label text) := by
  have hchars : text.map Char.toNat ≠ [] := by simpa using hne
  have hnot : text.map Char.toNat ≠ str "inherit" := by
    intro h
    refine hinherit ?_
    rw [← asciiText_chars text, h]
    exact asciiText_chars _
  cases hparse : CpuList.parse 1024 (some maxDigits) false text with
  | none => simp only [canonicalCpuList, textValue, hchars, hnot, if_false, asciiText_chars, hparse]
  | some cpus =>
    simp only [canonicalCpuList, textValue, hchars, hnot, if_false, asciiText_chars, hparse]

theorem canonicalCpuList_format {mask : CpuMask} (hne : mask.cpus ≠ []) (label : String) :
    canonicalCpuList (some (textValue (runFormatCpus mask))) label = .ok (runFormatCpus mask) := by
  have hchars : runFormatCpus mask ≠ [] := CpuList.format_ne_nil hne
  rw [canonicalCpuList_text hchars (runFormatCpus_ne_inherit mask), parse_runFormatCpus hne]
  rfl

theorem canonicalCpuList_rxCpusText (mask : CpuMask) (label : String) :
    canonicalCpuList (some (textValue (rxCpusText mask))) label = .ok (rxCpusText mask) := by
  unfold rxCpusText
  split
  · have hne : str "inherit" ≠ [] := by decide
    have htext : textValue "inherit".toList = .string (str "inherit") := rfl
    simp only [canonicalCpuList, htext, hne, if_false, if_true]
  · rename_i hformat
    refine canonicalCpuList_format ?_ label
    intro hcpus
    exact hformat (by rw [runFormatCpus, hcpus]; rfl)

/-! ## One flow

Each check of the reader on a flow of the runner. -/

section Flow

variable (mode : RunMode) (durationMs : Nat) (i : Fin 3) (f : FlowSettings) (host : Host)

theorem receiverCpuList_flow :
    receiverCpuList host (flowMembers c mode durationMs i f)
      = .ok (rxCpusText (runRxCpuSet c i f mode)) := by
  have hfield : field (flowMembers c mode durationMs i f) "rx_cpus"
      = some (textValue (rxCpusText (runRxCpuSet c i f mode))) :=
    field_of_mem (nodup_flowMembers c mode durationMs i f) (by simp [flowMembers])
  rw [receiverCpuList, hfield]
  exact canonicalCpuList_rxCpusText _ _

/-- `rx_cpu` is the number that `rx_cpus` stands for. -/
theorem onlyCpu_eq (mask : CpuMask) :
    onlyCpu mask = if rxCpusText mask = "inherit".toList ∨ ',' ∈ rxCpusText mask then (-1 : Int)
      else Nat.ofDigitChars 10 (rxCpusText mask) 0 := by
  unfold onlyCpu rxCpusText
  match hcpus : mask.cpus with
  | [] =>
    have hformat : runFormatCpus mask = [] := by rw [runFormatCpus, hcpus]; rfl
    simp [hformat]
  | [n] =>
    have hformat : runFormatCpus mask = natText n := by
      rw [runFormatCpus, hcpus, CpuList.format_singleton]
    have hne : ¬ natText n = "inherit".toList := hformat ▸ runFormatCpus_ne_inherit mask
    have hcomma : ',' ∉ natText n := CpuList.notMem_natText (by decide) n
    rw [hformat, if_neg (natText_ne_nil n), if_neg (not_or.mpr ⟨hne, hcomma⟩)]
    simp [natText]
  | n :: m :: rest =>
    have hlength : 2 ≤ mask.cpus.length := by rw [hcpus]; simp
    have hcomma : ',' ∈ runFormatCpus mask := CpuList.comma_mem_format hlength
    rw [if_neg (List.ne_nil_of_mem hcomma), if_pos (.inr hcomma)]

theorem checkFlow_flow :
    checkFlow host (flowMembers c mode durationMs i f) = .ok () := by
  have hnodup := nodup_flowMembers c mode durationMs i f
  have hcount : field (flowMembers c mode durationMs i f) "count"
      = some (natValue (f.flowCount durationMs)) := field_of_mem hnodup (by simp [flowMembers])
  have hperiod : field (flowMembers c mode durationMs i f) "period_ns"
      = some (natValue f.periodNs) := field_of_mem hnodup (by simp [flowMembers])
  have hdeadline : field (flowMembers c mode durationMs i f) "deadline_ns"
      = some (if f.deadlineNs = 0 then .null else natValue f.deadlineNs) :=
    field_of_mem hnodup (by simp [flowMembers])
  have hrxCpu : field (flowMembers c mode durationMs i f) "rx_cpu"
      = some (.int (onlyCpu (runRxCpuSet c i f mode))) := field_of_mem hnodup (by simp [flowMembers])
  have hrxCpus : field (flowMembers c mode durationMs i f) "rx_cpus"
      = some (textValue (rxCpusText (runRxCpuSet c i f mode))) :=
    field_of_mem hnodup (by simp [flowMembers])
  have hdeadlineOk : checkDeadline (flowMembers c mode durationMs i f) = .ok () := by
    rw [checkDeadline, hdeadline]
    by_cases hzero : f.deadlineNs = 0
    · rw [if_pos hzero]
    · rw [if_neg hzero]
      simp [natValue, unsigned]
  have hrxOk : checkRxCpu (flowMembers c mode durationMs i f)
      (rxCpusText (runRxCpuSet c i f mode)) = .ok () := by
    rw [checkRxCpu, hrxCpus, hrxCpu]
    exact if_pos (onlyCpu_eq _)
  have hpos : f.periodNs ≠ 0 := Nat.pos_iff_ne_zero.mp f.period_pos
  rw [checkFlow, hcount, hperiod, receiverCpuList_flow, hdeadlineOk]
  simp [natValue, unsigned, hpos, hrxOk, bind, Except.bind]

end Flow

end AceXdp
