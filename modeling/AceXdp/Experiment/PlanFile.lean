import AceXdp.Experiment.Plan
import AceXdp.Lib.Csv
import AceXdp.Runner.ConfigLines

/-!
# AceXdp — the file of a row, key by key

* `Planned`: what the rows of a profile have in common;
* `configValues_eq`: every key that `config` prints is one of the runner's;
* **`parseEntries_config`** — the file is read as the values that were meant.
-/

namespace AceXdp.Plan

open Json Decimal Disk Rounding

/-! ## What the rows have in common -/

def caseIds : List (List Char) :=
  ["single-1", "single-2", "single-3", "main-01", "main-02", "main-03", "main-04"].map String.toList

def modeLists : List (List String) :=
  [["all-pass"], ["mixed"], ["pass-xsk"], ["all-pass", "pass-xsk", "mixed"]]

/-- The row belongs to the design of the profile. -/
structure Planned (profile : Profile) (row : Row) : Prop where
  caseId : row.caseId ∈ caseIds
  cpuPercent : row.cpuPercent ≤ 100
  loadWorkers : row.loadWorkers = profile.loadWorkers
  modes : row.modes ∈ modeLists

variable {profile : Profile} {row : Row}

theorem planned_of_mem (h : row ∈ rows profile) : Planned profile row := by
  rcases List.mem_append.mp h with hsingle | hmain
  · obtain ⟨i, -, rfl⟩ := List.mem_map.mp hsingle
    have hcase : ∀ i : Fin 3, "single-".toList ++ natText (i.val + 1) ∈ caseIds := by decide +kernel
    have hmodes : ∀ i : Fin 3, [singleModes i] ∈ modeLists := by decide +kernel
    exact ⟨hcase i, Nat.zero_le _, rfl, hmodes i⟩
  · obtain ⟨⟨⟨cpu, network⟩, number⟩, hcondition, rfl⟩ := List.mem_map.mp hmain
    have hall : ∀ condition ∈ ([0, 100].flatMap fun cpu =>
        [NetworkLoad.none, .high].map fun network => (cpu, network)).zipIdx,
        "main-".toList ++ (if condition.2 + 1 < 10 then ['0'] else []) ++ natText (condition.2 + 1)
            ∈ caseIds
          ∧ condition.1.1 ≤ 100 := by decide +kernel
    exact ⟨(hall _ hcondition).1, (hall _ hcondition).2, rfl, by simp [mainRow, modeLists]⟩

/-! ## Words -/

theorem graphic_of_isDigit {c : Char} (h : c.isDigit) : 33 ≤ c.toNat ∧ c.toNat ≤ 126 := by
  have hbounds := isDigit_bounds h
  have hzero : '0'.toNat = 48 := rfl
  have hnine : '9'.toNat = 57 := rfl
  omega

def plainWord (s : String) (h : s.toList ≠ [] ∧ (∀ c ∈ s.toList, 33 ≤ c.toNat ∧ c.toNat ≤ 126)
    ∧ s.toList.length < 4096) : ConfigWord := ⟨s.toList, h.1, h.2.1, h.2.2⟩

theorem isSome_parseOctet {text : List Char} (h : (parseOctet text).isSome = true) :
    isOctet text = true ∧ text.length ≤ 3 := by
  unfold parseOctet at h
  split at h
  · cases h
  rename_i hne
  split at h
  · cases h
  rename_i hdigits
  split at h
  · cases h
  rename_i hlength
  split at h
  · cases h
  rename_i hzero
  split at h
  · cases h
  rename_i hvalue
  refine ⟨?_, not_lt.mp hlength⟩
  simp only [isOctet, Bool.and_eq_true, Bool.or_eq_true, decide_eq_true_eq]
  exact ⟨⟨⟨hne, not_not.mp hdigits⟩, or_iff_not_imp_left.mpr fun hne' hhead => hzero ⟨hne', hhead⟩⟩,
    not_lt.mp hvalue⟩

/-- What `ipaddress` takes, `inet_pton` takes. -/
theorem isIpv4_of_isDottedQuad {text : List Char} (h : isDottedQuad text = true) :
    isIpv4 text = true := by
  obtain ⟨hlength, hall⟩ := (Bool.and_eq_true _ _).mp h
  refine (Bool.and_eq_true _ _).mpr ⟨hlength, List.all_eq_true.mpr fun octet hoctet => ?_⟩
  exact (isSome_parseOctet (List.all_eq_true.mp hall octet hoctet)).1

/-- Four short runs of digits with points between them. -/
theorem isDottedQuad_word {text : List Char} (h : isDottedQuad text = true) :
    text ≠ [] ∧ (∀ c ∈ text, 33 ≤ c.toNat ∧ c.toNat ≤ 126) ∧ text.length ≤ 15 := by
  obtain ⟨hlength, hall⟩ := (Bool.and_eq_true _ _).mp h
  have hoctet := fun octet hoctet => isSome_parseOctet (List.all_eq_true.mp hall octet hoctet)
  have htext : ['.'].intercalate (text.splitOn '.') = text := List.intercalate_splitOn '.'
  have hdigits : ∀ octet ∈ text.splitOn '.', ∀ c ∈ octet, 33 ≤ c.toNat ∧ c.toNat ≤ 126 := by
    intro octet hmem c hc
    have hisOctet := (hoctet octet hmem).1
    simp only [isOctet, Bool.and_eq_true] at hisOctet
    exact graphic_of_isDigit (List.all_eq_true.mp hisOctet.1.1.2 c hc)
  match hsplit : text.splitOn '.', of_decide_eq_true hlength with
  | [a, b, c, d], _ =>
    rw [hsplit] at htext hoctet hdigits
    have hshape : text = a ++ '.' :: (b ++ '.' :: (c ++ '.' :: d)) := by
      rw [← htext]
      simp [List.intercalate]
    have ha := (hoctet a (by simp)).2
    have hb := (hoctet b (by simp)).2
    have hc := (hoctet c (by simp)).2
    have hd := (hoctet d (by simp)).2
    refine ⟨by rw [hshape]; simp, ?_, ?_⟩
    · intro ch hch
      rw [hshape] at hch
      simp only [List.mem_append, List.mem_cons] at hch
      rcases hch with h | rfl | h | rfl | h | rfl | h
      · exact hdigits a (by simp) ch h
      · decide
      · exact hdigits b (by simp) ch h
      · decide
      · exact hdigits c (by simp) ch h
      · decide
      · exact hdigits d (by simp) ch h
    · rw [hshape]
      simp only [List.length_append, List.length_cons]
      omega

theorem natText_length_lt {n : Nat} (h : n < 10 ^ 20) : (natText n).length ≤ 20 :=
  (Nat.length_toDigits_le_iff (by decide) (by decide)).mpr h

theorem Address.word (address : Address) : address.chars ≠ []
    ∧ (∀ c ∈ address.chars, 33 ≤ c.toNat ∧ c.toNat ≤ 126) ∧ address.chars.length ≤ 20 := by
  match address with
  | .text chars quad =>
    obtain ⟨hne, hgraphic, hlength⟩ := isDottedQuad_word quad
    exact ⟨hne, hgraphic, hlength.trans (by decide)⟩
  | .number n =>
    have hbound := n.property.2
    exact ⟨natText_ne_nil _, fun c hc => graphic_of_isDigit (isDigit_of_mem_natText hc),
      natText_length_lt (by omega)⟩
  | .truth true => exact ⟨by decide, by decide, by decide⟩
  | .truth false => exact ⟨by decide, by decide, by decide⟩

def addressWord (address : Address) : ConfigWord :=
  ⟨address.chars, address.word.1, address.word.2.1, address.word.2.2.trans_lt (by decide)⟩

/-- Only text is an address to the runner. -/
def Address.isText : Address → Bool
  | .text _ _ => true
  | _ => false

theorem isIpv4_address (address : Address) : isIpv4 address.chars = address.isText := by
  match address with
  | .text chars quad => exact isIpv4_of_isDottedQuad quad
  | .number n =>
    have hsplit : (natText n.val).splitOn '.' = [natText n.val] := by
      have h : (['.'].intercalate [natText n.val]).splitOn '.' = [natText n.val] :=
        List.splitOn_intercalate '.' (by simpa using CpuList.notMem_natText (by decide) n.val)
          (by simp)
      simpa using h
    simp [Address.chars, Address.isText, isIpv4, hsplit]
  | .truth true => decide
  | .truth false => decide

/-! ## The file -/

theorem caseId_word (h : Planned profile row) : row.caseId ≠ []
    ∧ (∀ c ∈ row.caseId, 33 ≤ c.toNat ∧ c.toNat ≤ 126) ∧ row.caseId.length < 64
    ∧ (row.caseId.head?.any Char.isAlphanum) = true
    ∧ ∀ c ∈ row.caseId, c.isAlphanum ∨ c = '-' ∨ c = '_' := by
  have hall : ∀ caseId ∈ caseIds, caseId ≠ []
      ∧ (∀ c ∈ caseId, 33 ≤ c.toNat ∧ c.toNat ≤ 126) ∧ caseId.length < 64
      ∧ (caseId.head?.any Char.isAlphanum) = true
      ∧ ∀ c ∈ caseId, c.isAlphanum ∨ c = '-' ∨ c = '_' := by decide +kernel
  exact hall row.caseId h.caseId

/-- The modes as the file has them. -/
def modesText (row : Row) (index : Nat) : List Char :=
  commaText ((rotatedModes row.modes index).map String.toList)

/-- The runner's names for them. -/
def plannedModes (row : Row) (index : Nat) : List RunMode :=
  (rotatedModes row.modes index).filterMap fun name => parseMode name.toList

/-- The number of the row only counts modulo the number of modes. -/
theorem forall_rotations {P : List String → Prop}
    (hall : ∀ modes ∈ modeLists, ∀ offset < 3, P (modes.drop (offset % modes.length)
      ++ modes.take (offset % modes.length))) (h : Planned profile row) (index : Nat) :
    P (rotatedModes row.modes index) := by
  have hlength : ∀ modes ∈ modeLists, 0 < modes.length ∧ modes.length ≤ 3 := by decide
  obtain ⟨hpos, hle⟩ := hlength row.modes h.modes
  have hlt : index % row.modes.length < 3 := Nat.lt_of_lt_of_le (Nat.mod_lt _ hpos) hle
  have hP := hall row.modes h.modes (index % row.modes.length) hlt
  rwa [Nat.mod_mod] at hP

theorem modesText_word (h : Planned profile row) (index : Nat) : modesText row index ≠ []
    ∧ (∀ c ∈ modesText row index, 33 ≤ c.toNat ∧ c.toNat ≤ 126)
    ∧ (modesText row index).length < 64 := by
  refine forall_rotations (P := fun modes => commaText (modes.map String.toList) ≠ []
    ∧ (∀ c ∈ commaText (modes.map String.toList), 33 ≤ c.toNat ∧ c.toNat ≤ 126)
    ∧ (commaText (modes.map String.toList)).length < 64) ?_ h index
  decide +kernel

/-- The period is between that of the fastest flow and a second. -/
theorem periodNs_range {pps : Nat} (hpos : 1 ≤ pps) (hle : pps ≤ 1000000) :
    1000 ≤ periodNs pps ∧ periodNs pps ≤ 1000000000 := by
  have hposQ : (1 : ℚ) ≤ pps := by exact_mod_cast hpos
  have hleQ : (pps : ℚ) ≤ 1000000 := by exact_mod_cast hle
  have hlow : ((1000 : ℤ) : ℚ) ≤ 1000000000 / pps := by
    rw [le_div_iff₀ (by linarith)]
    push_cast
    linarith
  have hhigh : (1000000000 / pps : ℚ) ≤ ((1000000000 : ℤ) : ℚ) := by
    push_cast
    exact div_le_self (by norm_num) hposQ
  have hquotient : (0 : ℚ) < 1000000000 / pps := by
    push_cast at hlow
    linarith
  have hlt : (1000000000 / pps : ℚ) < 2 ^ 53 := by
    push_cast at hhigh
    linarith
  exact ⟨le_roundEven (le_binary64 hquotient hlt hlow),
    roundEven_le (binary64_le hquotient hlt hhigh)⟩

theorem rowPps_le (profile : Profile) (row : Row) (i : Fin 3) :
    rowPps profile row i ≤ 1000000 := by
  have hrate := (profile.flowPps i).property.2
  unfold rowPps
  split
  · split <;> omega
  · exact hrate

/-- What stands for the period of a flow in the file. -/
def filePeriodNs (pps : Nat) : Nat := if pps ≠ 0 then (periodNs pps).toNat else 1000000

theorem filePeriodNs_range {pps : Nat} (hle : pps ≤ 1000000) :
    1 ≤ filePeriodNs pps ∧ filePeriodNs pps ≤ 1000000000 := by
  unfold filePeriodNs
  split
  · rename_i hne
    have hrange := periodNs_range (Nat.one_le_iff_ne_zero.mpr hne) hle
    omega
  · decide

theorem period_text {pps : Nat} (hle : pps ≤ 1000000) :
    (if pps ≠ 0 then intText (periodNs pps) else natText 1000000) = natText (filePeriodNs pps) := by
  unfold filePeriodNs
  split
  · rename_i hne
    have hrange := periodNs_range (Nat.one_le_iff_ne_zero.mpr hne) hle
    obtain ⟨n, hn⟩ := Int.eq_ofNat_of_zero_le (by omega : 0 ≤ periodNs pps)
    rw [hn]
    rfl
  · rfl

theorem policyText_word (policy : SchedPolicy) : policyText policy ≠ []
    ∧ (∀ c ∈ policyText policy, 33 ≤ c.toNat ∧ c.toNat ≤ 126)
    ∧ (policyText policy).length < 4096 := by
  cases policy <;> decide

def policyWord (policy : SchedPolicy) : ConfigWord :=
  ⟨policyText policy, (policyText_word policy).1, (policyText_word policy).2.1,
    (policyText_word policy).2.2⟩

/-- A number from a checked range. -/
def withinWord {low high : Nat} (n : Within low high) (hhigh : high < 10 ^ 20) : ConfigWord :=
  numberWord n (n.property.2.trans_lt hhigh)

theorem cpus_word : commaText (sharedCpus.map natText) ≠ []
    ∧ (∀ c ∈ commaText (sharedCpus.map natText), 33 ≤ c.toNat ∧ c.toNat ≤ 126)
    ∧ (commaText (sharedCpus.map natText)).length < 4096 := by decide +kernel

def cpusWord : ConfigWord :=
  ⟨commaText (sharedCpus.map natText), cpus_word.1, cpus_word.2.1, cpus_word.2.2⟩

section Entries

variable (h : Planned profile row) (index : Nat)

def runIdWord : ConfigWord :=
  ⟨row.caseId, (caseId_word h).1, (caseId_word h).2.1, (caseId_word h).2.2.1.trans (by decide)⟩

def modesWord : ConfigWord :=
  ⟨modesText row index, (modesText_word h index).1, (modesText_word h index).2.1,
    (modesText_word h index).2.2.trans (by decide)⟩

def commonEntries : List WordEntry :=
  [(.runId, runIdWord h),
    (.receiverAddress, addressWord profile.address),
    (.controlPort, numberWord 49090 (by decide)),
    (.repo, plainWord "AUTO" (by decide)),
    (.outputRoot, plainWord "results/experiment" (by decide)),
    (.interface, plainWord "eth0" (by decide)),
    (.modes, modesWord h index),
    (.repeats, numberWord repeats (by decide)),
    (.alternateModeOrder, numberWord 1 (by decide)),
    (.verifyPlacement, numberWord 1 (by decide)),
    (.durationMs, numberWord 60000 (by decide)),
    (.warmupMs, numberWord 5000 (by decide)),
    (.settleMs, withinWord profile.settleMs (by decide)),
    (.readyTimeoutMs, numberWord 60000 (by decide)),
    (.stopTimeoutMs, numberWord 60000 (by decide)),
    (.startDelayMs, numberWord 250 (by decide)),
    (.drainMs, numberWord 100 (by decide)),
    (.supervisorCpu, plainWord "inherit" (by decide)),
    (.monitor, numberWord 1 (by decide))]

/-- The background traffic of a row. -/
def rowNetworkBps (profile : Profile) (row : Row) : Nat :=
  if row.network = .none then 0 else profile.networkHighBps

theorem rowNetworkBps_le (profile : Profile) (row : Row) :
    rowNetworkBps profile row ≤ 1000000000 := by
  have hbps := profile.networkHighBps.property.2
  unfold rowNetworkBps
  split <;> omega

include h in
theorem row_numbers : row.cpuPercent < 10 ^ 20 ∧ row.loadWorkers < 10 ^ 20
    ∧ rowNetworkBps profile row < 10 ^ 20 := by
  have hpercent := h.cpuPercent
  have hworkers := profile.loadWorkers.property.2
  have hbps := rowNetworkBps_le profile row
  rw [h.loadWorkers]
  omega

def placementEntries : List WordEntry :=
  [(.receiverSupervisorCpu, plainWord "inherit" (by decide)),
    (.sharedCpus, cpusWord),
    (.cpumapCpu, numberWord cpumapCpu (by decide)),
    (.senderSupervisorCpu, withinWord profile.senderSupervisorCpu (by decide)),
    (.receiverNetworkCpu, plainWord "inherit" (by decide)),
    (.senderNetworkCpu, numberWord 3 (by decide)),
    (.governor, plainWord "performance" (by decide)),
    (.rxIrqCpu, numberWord 2 (by decide)),
    (.cpuPercent, numberWord row.cpuPercent (row_numbers h).1),
    (.cpuCpus, cpusWord),
    (.cpuLayout, plainWord "shared" (by decide)),
    (.cpuWorkers, numberWord row.loadWorkers (row_numbers h).2.1),
    (.cpuMethod, plainWord "all" (by decide)),
    (.memoryWorkers, numberWord 0 (by decide)),
    (.memoryBytes, numberWord 0 (by decide)),
    (.ioWorkers, numberWord 0 (by decide)),
    (.ioPath, plainWord "/tmp" (by decide)),
    (.networkBps, numberWord (rowNetworkBps profile row) (row_numbers h).2.2),
    (.networkProtocol, plainWord "udp" (by decide)),
    (.networkDirection, plainWord "forward" (by decide)),
    (.networkPort, numberWord 5201 (by decide)),
    (.networkParallel, numberWord 1 (by decide)),
    (.onSec, numberWord 0 (by decide)),
    (.offSec, numberWord 0 (by decide))]

def optionalEntry {low high : Nat} (key : ConfigKey) (value : Option (Within low high))
    (hhigh : high < 10 ^ 20) : List WordEntry :=
  match value with
  | some n => [(key, withinWord n hhigh)]
  | none => []

def optionalEntries (profile : Profile) : List WordEntry :=
  optionalEntry .xskBusy profile.xskBusy (by decide)
    ++ optionalEntry .phcTracking profile.phcTracking (by decide)
    ++ optionalEntry .rxCoalesceUsecs profile.rxCoalesceUsecs (by decide)

theorem flow_numbers (profile : Profile) (row : Row) (i : Fin 3) :
    (if 0 < rowPps profile row i then 1 else 0) < 10 ^ 20
      ∧ filePeriodNs (rowPps profile row i) < 10 ^ 20
      ∧ (if i = 0 then 0 else 100000) < 10 ^ 20 ∧ i.val < 10 ^ 20
      ∧ ((profile.sender i).priority : Nat) < 10 ^ 20
      ∧ ((profile.receiver i).priority : Nat) < 10 ^ 20 := by
  have hperiod := (filePeriodNs_range (rowPps_le profile row i)).2
  have hsender := (profile.sender i).priority.property.2
  have hreceiver := (profile.receiver i).priority.property.2
  refine ⟨?_, by omega, ?_, by omega, ?_, ?_⟩
  · split <;> decide
  · split <;> decide
  · split at hsender <;> omega
  · split at hreceiver <;> omega

def flowEntries (profile : Profile) (row : Row) (i : Fin 3) : List WordEntry :=
  have hnumbers := flow_numbers profile row i
  [(.flow i .enabled, numberWord (if 0 < rowPps profile row i then 1 else 0) hnumbers.1),
    (.flow i .periodNs, numberWord (filePeriodNs (rowPps profile row i)) hnumbers.2.1),
    (.flow i .deadlineNs, numberWord (if i = 0 then 0 else 100000) hnumbers.2.2.1),
    (.flow i .txCpu, numberWord i hnumbers.2.2.2.1),
    (.flow i .rxCpu, plainWord "inherit" (by decide)),
    (.flow i .txPolicy, policyWord (profile.sender i).policy),
    (.flow i .rxPolicy, policyWord (profile.receiver i).policy),
    (.flow i .txPriority, numberWord (profile.sender i).priority hnumbers.2.2.2.2.1),
    (.flow i .rxPriority, numberWord (profile.receiver i).priority hnumbers.2.2.2.2.2)]

def entries : List WordEntry :=
  commonEntries h index ++ placementEntries h ++ optionalEntries profile
    ++ (List.finRange 3).flatMap (flowEntries profile row)

/-- **Every key of the file is one of the runner's.** -/
theorem configValues_eq :
    configValues profile row index = (entries h index).map fun e => (e.1.text, e.2.chars) := by
  have hoptional {low high : Nat} (key : ConfigKey) (name : String) (hname : name.toList = key.text)
      (value : Option (Within low high)) (hhigh : high < 10 ^ 20) :
      optionalValue name value
        = (optionalEntry key value hhigh).map fun e => (e.1.text, e.2.chars) := by
    cases value with
    | none => rfl
    | some n => rw [optionalValue, optionalEntry, entry, hname]; rfl
  have hflow (i : Fin 3) : flowValues profile row i
      = (flowEntries profile row i).map fun e => (e.1.text, e.2.chars) := by
    rw [flowValues, period_text (rowPps_le profile row i)]
    rfl
  have hcommon : commonValues profile row index
      = (commonEntries h index).map fun e => (e.1.text, e.2.chars) := rfl
  have hplacement : placementValues profile row
      = (placementEntries h).map fun e => (e.1.text, e.2.chars) := rfl
  rw [configValues, entries, List.map_append, List.map_append, List.map_append, ← hcommon,
    ← hplacement, optionalValues, optionalEntries, List.map_append, List.map_append,
    ← hoptional .xskBusy "receiver.xsk_busy" rfl, ← hoptional .phcTracking
      "measurement.phc_tracking" rfl, ← hoptional .rxCoalesceUsecs
      "environment.rx_coalesce_usecs" rfl, List.map_flatMap]
  congr 2
  exact funext hflow

/-- The keys a file can have, in this order. -/
def planKeys : List ConfigKey :=
  [.runId, .receiverAddress, .controlPort, .repo, .outputRoot, .interface, .modes, .repeats,
    .alternateModeOrder, .verifyPlacement, .durationMs, .warmupMs, .settleMs, .readyTimeoutMs,
    .stopTimeoutMs, .startDelayMs, .drainMs, .supervisorCpu, .monitor, .receiverSupervisorCpu,
    .sharedCpus, .cpumapCpu, .senderSupervisorCpu, .receiverNetworkCpu, .senderNetworkCpu, .governor,
    .rxIrqCpu, .cpuPercent, .cpuCpus, .cpuLayout, .cpuWorkers, .cpuMethod, .memoryWorkers,
    .memoryBytes, .ioWorkers, .ioPath, .networkBps, .networkProtocol, .networkDirection, .networkPort,
    .networkParallel, .onSec, .offSec, .xskBusy, .phcTracking, .rxCoalesceUsecs]
    ++ (List.finRange 3).flatMap fun i => [.flow i .enabled, .flow i .periodNs, .flow i .deadlineNs,
      .flow i .txCpu, .flow i .rxCpu, .flow i .txPolicy, .flow i .rxPolicy, .flow i .txPriority,
      .flow i .rxPriority]

theorem keys_sublist : List.Sublist ((entries h index).map Prod.fst) planKeys := by
  have hoptional {low high : Nat} (key : ConfigKey) (value : Option (Within low high))
      (hhigh : high < 10 ^ 20) :
      List.Sublist ((optionalEntry key value hhigh).map Prod.fst) [key] := by
    cases value with
    | none => exact List.nil_sublist _
    | some n => exact List.Sublist.refl _
  have hflows : ((List.finRange 3).flatMap (flowEntries profile row)).map Prod.fst
      = (List.finRange 3).flatMap fun i => [.flow i .enabled, .flow i .periodNs,
        .flow i .deadlineNs, .flow i .txCpu, .flow i .rxCpu, .flow i .txPolicy, .flow i .rxPolicy,
        .flow i .txPriority, .flow i .rxPriority] := by
    rw [List.map_flatMap]
    rfl
  rw [entries, List.map_append, List.map_append, List.map_append, hflows, optionalEntries,
    List.map_append, List.map_append]
  refine List.Sublist.append ?_ (List.Sublist.refl _)
  exact ((List.Sublist.refl ((commonEntries h index).map Prod.fst)).append
    (List.Sublist.refl ((placementEntries h).map Prod.fst))).append
      (((hoptional .xskBusy _ (by decide)).append (hoptional .phcTracking _ (by decide))).append
        (hoptional .rxCoalesceUsecs _ (by decide)))

theorem nodup_keys : ((entries h index).map Prod.fst).Nodup :=
  List.Nodup.sublist (keys_sublist h index) (by decide)

/-- **The file is read as the values that were meant.** -/
theorem parseEntries_config : parseEntries (config profile row index)
    = some ((entries h index).map WordEntry.parsed) := by
  have hlines : (configValues profile row index).flatMap line
      = (entries h index).flatMap WordEntry.line := by
    rw [configValues_eq h index, List.flatMap_map]
    rfl
  have hlength : (entries h index).length ≤ 100 := by
    have hkeys := (keys_sublist h index).length_le
    rw [List.length_map] at hkeys
    exact hkeys.trans (by decide)
  rw [config, hlines]
  exact parseEntries_lines (by decide) (by decide +kernel) (by decide) (by decide) (by decide) hlength
    (nodup_keys h index)

end Entries

end AceXdp.Plan
