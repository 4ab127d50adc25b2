import AceXdp.Lib.Checked
import AceXdp.Experiment.PlanFile
import AceXdp.Runner.Accepted

/-!
# AceXdp — the runner reads what the plan was made for

* `readControl_plan` … `readFlow_plan`: each part of the file passes the checks of its reader;
* **`config_accepted_iff`** — the file of a row is accepted exactly when the address is text and the
  packets of the row fit the capture;
* **`config_settings`** — and then the runner's settings are those of the profile.
-/

namespace AceXdp.Plan

open Json Decimal Disk Rounding Checked

variable {profile : Profile} {row : Row}

section Readers

variable (h : Planned profile row) (index : Nat)

/-- What the runner has read. -/
def fileEntries : List ConfigEntry := (entries h index).map WordEntry.parsed

/-- The keys are those of the plan, in their order. -/
theorem map_fst_fileEntries :
    (fileEntries h index).map Prod.fst = (entries h index).map Prod.fst := by
  rw [fileEntries, List.map_map]
  rfl

/-- No key is written twice, so a reader finds the word that the plan wrote for it. -/
theorem lookup_entry {key : ConfigKey} {word : ConfigWord} (hmem : (key, word) ∈ entries h index) :
    (fileEntries h index).lookup key = some word.text := by
  refine Csv.lookup_of_mem (p := (key, word.text)) ?_ (List.mem_map.mpr ⟨_, hmem, rfl⟩)
  rw [map_fst_fileEntries]
  exact nodup_keys h index

/-- The part that every file of a profile has in common. -/
theorem lookup_common {key : ConfigKey} {word : ConfigWord}
    (hmem : (key, word) ∈ commonEntries h index) :
    (fileEntries h index).lookup key = some word.text :=
  lookup_entry h index (List.mem_append_left _ (List.mem_append_left _
    (List.mem_append_left _ hmem)))

/-- The part that places the processes. -/
theorem lookup_placement {key : ConfigKey} {word : ConfigWord}
    (hmem : (key, word) ∈ placementEntries h) :
    (fileEntries h index).lookup key = some word.text :=
  lookup_entry h index (List.mem_append_left _ (List.mem_append_left _
    (List.mem_append_right _ hmem)))

theorem lookup_flow {i : Fin 3} {key : ConfigKey} {word : ConfigWord}
    (hmem : (key, word) ∈ flowEntries profile row i) :
    (fileEntries h index).lookup key = some word.text :=
  lookup_entry h index (List.mem_append_right _
    (List.mem_flatMap.mpr ⟨i, List.mem_finRange i, hmem⟩))

/-- A key that is not written is not found. -/
theorem lookup_absent {key : ConfigKey} (hkey : key ∉ (entries h index).map Prod.fst) :
    (fileEntries h index).lookup key = none := by
  rw [List.lookup_eq_none_iff]
  intro e he
  rw [bne_iff_ne]
  rintro rfl
  exact hkey (map_fst_fileEntries h index ▸ List.mem_map_of_mem he)

variable (host : RunnerHost)

/-- What the plan relies on: the runner stands in a repository, and `sha256sum` prints a digest. -/
structure RunnerReady : Prop where
  repo : (resolveRepo host (plainWord "AUTO" (by decide)).text).isSome
  digest : ∀ content, (configHash host content).isSome

/-- One step of a reader that goes through. -/
theorem exists_bind {α β : Type} {x : Option α} {f : α → Option β} {P : β → Prop} {a : α}
    (ha : x = some a) (hb : ∃ b, f a = some b ∧ P b) : ∃ b, x >>= f = some b ∧ P b := by
  rw [ha]
  exact hb

/-- A check that the plan's value passes. -/
theorem guard_of {P : Prop} [Decidable P] (hP : P) : (guard P : Option Unit) = some () :=
  if_pos hP

/-- The settings of the first reader. The repository is the one the runner stands in. -/
structure ControlPlanned (host : RunnerHost) (profile : Profile) (row : Row)
    (c : ControlSettings) : Prop where
  runId : c.runId.chars = row.caseId
  address : c.address.chars = profile.address.chars
  interface : c.interface.chars = "eth0".toList
  repo : resolveRepo host (plainWord "AUTO" (by decide)).text = some c.repo
  output : c.output.chars = "results/experiment".toList
  controlPort : c.controlPort = 49090
  repeats : c.repeats = repeats
  alternateModeOrder : c.alternateModeOrder = 1
  verifyPlacement : c.verifyPlacement = 1
  durationMs : c.durationMs = 60000
  warmupMs : c.warmupMs = 5000
  readyMs : c.readyMs = 60000
  stopMs : c.stopMs = 60000
  startDelayMs : c.startDelayMs = 250
  drainMs : c.drainMs = 100
  settleMs : c.settleMs = profile.settleMs

/-- The first reader: addresses, timings and limits. Each value of the plan lies in the range that
the reader demands. -/
theorem readControl_plan {host : RunnerHost} (hready : RunnerReady host)
    (haddress : profile.address.isText = true) :
    ∃ c, readControl host (fileEntries h index) = some c ∧ ControlPlanned host profile row c := by
  obtain ⟨-, -, hlength, hstart, hname⟩ := caseId_word h
  obtain ⟨repo, hrepo⟩ := Option.isSome_iff_exists.mp hready.repo
  have hsettle := profile.settleMs.property
  have number {key : ConfigKey} {lo hi : Nat} (n : Nat) (hn : n < 10 ^ 20)
      (hmem : (key, numberWord n hn) ∈ commonEntries h index) (hrange : lo ≤ n ∧ n ≤ hi)
      (hhi : hi < 2 ^ 64) (fallback : Option PrintableText) :
      configNumber (fileEntries h index) key fallback lo hi = some n :=
    configNumber_word hn (lookup_common h index hmem) hrange hhi fallback
  have word {key : ConfigKey} {size : Nat} (w : ConfigWord)
      (hmem : (key, w) ∈ commonEntries h index) (hsize : w.chars.length < size)
      (fallback : Option PrintableText) :
      configString (fileEntries h index) key fallback size = some w.text :=
    configString_word (lookup_common h index hmem) hsize fallback
  have plain {key : ConfigKey} {size : Nat} (s : String) (hs)
      (hmem : (key, plainWord s hs) ∈ commonEntries h index) (hsize : s.toList.length < size)
      (fallback : Option PrintableText) :
      configString (fileEntries h index) key fallback size = some (plainWord s hs).text :=
    word (plainWord s hs) hmem hsize fallback
  unfold readControl
  refine exists_bind (a := ⟨row.caseId, hstart, hname, hlength.trans (by decide)⟩) ?_ ?_
  · rw [word (runIdWord h) (by simp [commonEntries]) (hlength.trans (by decide))]
    exact dif_pos ⟨hstart, hname, hlength.trans (by decide)⟩
  refine exists_bind (word (addressWord profile.address) (by simp [commonEntries])
    (profile.address.word.2.2.trans_lt (by decide)) none) ?_
  refine exists_bind (guard_of ((isIpv4_address profile.address).trans haddress)) ?_
  refine exists_bind (plain "eth0" (by decide) (by simp [commonEntries]) (by decide) _) ?_
  refine exists_bind (a := repo) ?_ ?_
  · rw [plain "AUTO" (by decide) (by simp [commonEntries]) (by decide)]
    exact hrepo
  refine exists_bind (plain "results/experiment" (by decide) (by simp [commonEntries]) (by decide) _) ?_
  refine exists_bind (number 49090 (by decide) (by simp [commonEntries]) (by decide) (by decide) _) ?_
  refine exists_bind (number repeats (by decide) (by simp [commonEntries]) (by decide) (by decide) none) ?_
  refine exists_bind (number 1 (by decide) (by simp [commonEntries]) (by decide) (by decide) _) ?_
  refine exists_bind (number 1 (by decide) (by simp [commonEntries]) (by decide) (by decide) _) ?_
  refine exists_bind (number 60000 (by decide) (by simp [commonEntries]) (by decide) (by decide) none) ?_
  refine exists_bind (number 5000 (by decide) (by simp [commonEntries]) (by decide) (by decide) none) ?_
  refine exists_bind (number 60000 (by decide) (by simp [commonEntries]) (by decide) (by decide) _) ?_
  refine exists_bind (number 60000 (by decide) (by simp [commonEntries]) (by decide) (by decide) _) ?_
  refine exists_bind (number 250 (by decide) (by simp [commonEntries]) (by decide) (by decide) _) ?_
  refine exists_bind (number 100 (by decide) (by simp [commonEntries]) (by decide) (by decide) _) ?_
  refine exists_bind (guard_of (by decide)) ?_
  refine exists_bind (number profile.settleMs (by omega) (by simp [commonEntries, withinWord])
    hsettle (by decide) none) ?_
  exact ⟨_, rfl, rfl, rfl, rfl, hrepo, rfl, rfl, rfl, rfl, rfl, rfl, rfl, rfl, rfl, rfl, rfl, rfl⟩

/-! ### The receiver

The options of a profile may be missing. The reader then takes its default, which is what
`ReceiverPlanned` says of a profile without the option. -/

/-- The shared CPUs are read back as the list they were printed from. -/
theorem runParseCpus_cpusWord :
    ∃ mask, runParseCpus cpusWord.chars = some mask ∧ mask.cpus = sharedCpus := by
  have hparse : CpuList.parse cpuSetSize none true cpusWord.chars = some sharedCpus :=
    CpuList.parse_format (by decide) (by decide) (by decide) (by simp)
  unfold runParseCpus
  split
  · rename_i cpus hcpus
    rw [hparse] at hcpus
    exact ⟨_, rfl, (Option.some.inj hcpus).symm⟩
  · rename_i hcpus
    rw [hparse] at hcpus
    cases hcpus

/-- The settings of the second reader. -/
structure ReceiverPlanned (profile : Profile) (c : ReceiverSettings) : Prop where
  xskBusy : c.xskBusy = (profile.xskBusy.map Subtype.val).getD 0
  phcTracking : c.phcTracking = (profile.phcTracking.map Subtype.val).getD 0
  rxCoalesceUsecs : c.rxCoalesceUsecs = profile.rxCoalesceUsecs.map Subtype.val
  supervisorCpu : c.supervisorCpu = none
  receiverSupervisorCpu : c.receiverSupervisorCpu = none
  senderSupervisorCpu : c.senderSupervisorCpu.map Fin.val = some profile.senderSupervisorCpu.val
  receiverNetworkCpu : c.receiverNetworkCpu = none
  senderNetworkCpu : c.senderNetworkCpu.map Fin.val = some 3
  cpumapCpu : c.cpumapCpu = cpumapCpu
  shared : ∃ domain, c.shared = some domain ∧ domain.mask.cpus = sharedCpus
  governor : c.governor.chars = "performance".toList
  rxIrqCpu : c.rxIrqCpu = 2

/-- Neither of the other parts has a key of the options. -/
theorem optional_keys {key : ConfigKey} (hkey : key ∈ [.xskBusy, .phcTracking, .rxCoalesceUsecs])
    (habsent : key ∉ (optionalEntries profile).map Prod.fst) :
    (fileEntries h index).lookup key = none := by
  refine lookup_absent h index ?_
  have hcommon : key ∉ (commonEntries h index).map Prod.fst := by
    have hall : ∀ key ∈ [.xskBusy, .phcTracking, .rxCoalesceUsecs],
        key ∉ (commonEntries h index).map Prod.fst := by
      simp [commonEntries]
    exact hall key hkey
  have hplacement : key ∉ (placementEntries h).map Prod.fst := by
    have hall : ∀ key ∈ [.xskBusy, .phcTracking, .rxCoalesceUsecs],
        key ∉ (placementEntries h).map Prod.fst := by
      simp [placementEntries]
    exact hall key hkey
  have hflow : key ∉ ((List.finRange 3).flatMap (flowEntries profile row)).map Prod.fst := by
    have hall : ∀ key ∈ [.xskBusy, .phcTracking, .rxCoalesceUsecs],
        key ∉ ((List.finRange 3).flatMap (flowEntries profile row)).map Prod.fst := by
      simp [flowEntries]
    exact hall key hkey
  rw [entries, List.map_append, List.map_append, List.map_append]
  simp only [List.mem_append, not_or]
  exact ⟨⟨⟨hcommon, hplacement⟩, habsent⟩, hflow⟩

theorem lookup_optional {key : ConfigKey} {word : ConfigWord}
    (hmem : (key, word) ∈ optionalEntries profile) :
    (fileEntries h index).lookup key = some word.text :=
  lookup_entry h index (List.mem_append_left _ (List.mem_append_right _ hmem))

/-- An option is in the file when the profile has it. -/
theorem lookup_options :
    (fileEntries h index).lookup .xskBusy
        = profile.xskBusy.map (fun n => (withinWord n (by decide)).text)
      ∧ (fileEntries h index).lookup .phcTracking
        = profile.phcTracking.map (fun n => (withinWord n (by decide)).text)
      ∧ (fileEntries h index).lookup .rxCoalesceUsecs
        = profile.rxCoalesceUsecs.map (fun n => (withinWord n (by decide)).text) := by
  have hoption {low high : Nat} {key : ConfigKey} {value : Option (Within low high)}
      {hhigh : high < 10 ^ 20} (hkey : key ∈ [.xskBusy, .phcTracking, .rxCoalesceUsecs])
      (hmem : ∀ e ∈ optionalEntry key value hhigh, e ∈ optionalEntries profile)
      (habsent : value = none → key ∉ (optionalEntries profile).map Prod.fst) :
      (fileEntries h index).lookup key = value.map (fun n => (withinWord n hhigh).text) := by
    cases hvalue : value with
    | none => exact optional_keys h index hkey (habsent hvalue)
    | some n =>
      refine lookup_optional h index (hmem _ ?_)
      rw [hvalue]
      exact List.mem_cons_self
  have hfst {low high : Nat} {key other : ConfigKey} {value : Option (Within low high)}
      {hhigh : high < 10 ^ 20} (hmem : other ∈ (optionalEntry key value hhigh).map Prod.fst) :
      other = key ∧ value ≠ none := by
    cases value with
    | none => cases hmem
    | some n => exact ⟨List.mem_singleton.mp hmem, Option.some_ne_none n⟩
  have hkeys {key : ConfigKey} (hmem : key ∈ (optionalEntries profile).map Prod.fst) :
      (key = .xskBusy ∧ profile.xskBusy ≠ none) ∨ (key = .phcTracking ∧ profile.phcTracking ≠ none)
        ∨ (key = .rxCoalesceUsecs ∧ profile.rxCoalesceUsecs ≠ none) := by
    rw [optionalEntries, List.map_append, List.map_append] at hmem
    rcases List.mem_append.mp hmem with hmem | hmem
    · rcases List.mem_append.mp hmem with hmem | hmem
      · exact .inl (hfst hmem)
      · exact .inr (.inl (hfst hmem))
    · exact .inr (.inr (hfst hmem))
  refine ⟨hoption (by simp) (fun e he => ?_) fun hnone hmem => ?_,
    hoption (by simp) (fun e he => ?_) fun hnone hmem => ?_,
    hoption (by simp) (fun e he => ?_) fun hnone hmem => ?_⟩
  · exact List.mem_append_left _ (List.mem_append_left _ he)
  · simpa [hnone] using hkeys hmem
  · exact List.mem_append_left _ (List.mem_append_right _ he)
  · simpa [hnone] using hkeys hmem
  · exact List.mem_append_right _ he
  · simpa [hnone] using hkeys hmem

/-- An option that is missing is read as `0`, the default of its reader. -/
theorem configNumber_optional {p : List ConfigEntry} {key : ConfigKey} {high : Nat}
    {value : Option (Within 0 high)} {hhigh : high < 10 ^ 20} (hhi : high < 2 ^ 64)
    (hlookup : p.lookup key = value.map (fun n => (withinWord n hhigh).text)) :
    configNumber p key (literal ['0'] (by decide)) 0 high
      = some ((value.map Subtype.val).getD 0) := by
  cases value with
  | none =>
    rw [configNumber, lookupEntry, hlookup]
    exact aceParseU64_natText (Nat.le_refl 0) (Nat.zero_le _) hhi
  | some n => exact configNumber_word (n.property.2.trans_lt hhigh) hlookup n.property hhi _

/-- Interrupt coalescing is left as it is when the profile does not say. -/
theorem readCoalesce_plan : readCoalesce (fileEntries h index)
    = some (profile.rxCoalesceUsecs.map Subtype.val) := by
  have hlookup := (lookup_options h index).2.2
  unfold readCoalesce
  cases hvalue : profile.rxCoalesceUsecs with
  | none =>
    rw [hvalue] at hlookup
    rw [lookupEntry, hlookup]
    rfl
  | some n =>
    rw [hvalue] at hlookup
    have hne : natText n ≠ "keep".toList := by
      intro heq
      have hmem : 'k' ∈ natText n := by
        rw [heq]
        decide
      exact CpuList.notMem_natText (by decide) n.val hmem
    have hnumber := configNumber_word (n.property.2.trans_lt (by decide)) hlookup n.property (by decide) none
    rw [lookupEntry_word hlookup, Option.bind_some, hnumber]
    exact if_neg hne

/-- The second reader: placement, busy polling and tracking. -/
theorem readReceiver_plan : ∃ c, readReceiver (fileEntries h index) = some c
    ∧ ReceiverPlanned profile c := by
  obtain ⟨hbusy, htracking, -⟩ := lookup_options h index
  obtain ⟨mask, hmask, hcpus⟩ := runParseCpus_cpusWord
  have htarget : 3 ∈ mask.cpus := by rw [hcpus]; decide
  have hgeneral : 2 ≤ mask.cpus.length := by rw [hcpus]; decide
  have hsupervisor := profile.senderSupervisorCpu.property
  have number {key : ConfigKey} {lo hi : Nat} (n : Nat) (hn : n < 10 ^ 20)
      (hmem : (key, numberWord n hn) ∈ placementEntries h) (hrange : lo ≤ n ∧ n ≤ hi)
      (hhi : hi < 2 ^ 64) (fallback : Option PrintableText) :
      configNumber (fileEntries h index) key fallback lo hi = some n :=
    configNumber_word hn (lookup_placement h index hmem) hrange hhi fallback
  have inherit {key : ConfigKey}
      (hmem : (key, plainWord "inherit" (by decide)) ∈ placementEntries h)
      (fallback : Option PrintableText) : configCpu (fileEntries h index) key fallback = some none :=
    configCpu_inherit (lookup_placement h index hmem) rfl fallback
  have hsupervisorCpu : (fileEntries h index).lookup .supervisorCpu
      = some (plainWord "inherit" (by decide)).text :=
    lookup_common h index (by simp [commonEntries])
  have hshared : readShared (fileEntries h index) cpumapCpu
      = some (some ⟨mask, htarget, hgeneral⟩) := by
    have hlookup : (fileEntries h index).lookup .sharedCpus = some cpusWord.text :=
      lookup_placement h index (by simp [placementEntries])
    rw [readShared, hlookup]
    show (if cpusWord.chars = [] then _ else (runParseCpus cpusWord.chars).bind _) = _
    rw [if_neg cpusWord.ne, hmask]
    exact dif_pos ⟨rfl, htarget, hgeneral⟩
  have hirq : irqAllowed (some ⟨mask, htarget, hgeneral⟩) cpumapCpu 2 = true := by
    simp [irqAllowed, hcpus, sharedCpus, cpumapCpu]
  unfold readReceiver
  refine exists_bind (configNumber_optional (by decide) hbusy) ?_
  refine exists_bind (configNumber_optional (by decide) htracking) ?_
  refine exists_bind (readCoalesce_plan h index) ?_
  refine exists_bind (configCpu_inherit hsupervisorCpu rfl _) ?_
  refine exists_bind (lookupEntry_word hsupervisorCpu _) ?_
  refine exists_bind (inherit (by simp [placementEntries]) _) ?_
  refine exists_bind (configCpu_word (by omega) (hsupervisor.2.trans_lt (by decide))
    (lookup_placement h index (by simp [placementEntries, withinWord])) _) ?_
  refine exists_bind (inherit (by simp [placementEntries]) _) ?_
  refine exists_bind (configCpu_word (n := 3) (by decide) (by decide)
    (lookup_placement h index (by simp [placementEntries])) _) ?_
  refine exists_bind (number cpumapCpu (by decide) (by simp [placementEntries]) (by decide)
    (by decide) _) ?_
  refine exists_bind hshared ?_
  refine exists_bind (guard_of fun _ => ⟨rfl, rfl⟩) ?_
  refine exists_bind (configString_word (w := plainWord "performance" (by decide))
    (lookup_placement h index (by simp [placementEntries])) (by decide) _) ?_
  refine exists_bind (guard_of (by decide)) ?_
  refine exists_bind (number 2 (by decide) (by simp [placementEntries]) (by decide) (by decide) _) ?_
  refine exists_bind (guard_of hirq) ?_
  exact ⟨_, dif_pos fun _ => rfl, rfl, rfl, rfl, rfl, rfl, rfl, rfl, rfl, rfl, ⟨_, rfl, hcpus⟩, rfl,
    rfl⟩

/-! ### The load

The layout of the load refers to the shared CPUs that the second reader has found. -/

/-- The settings of the third reader. -/
structure LoadPlanned (profile : Profile) (row : Row) (c : LoadSettings) : Prop where
  monitor : c.monitor = 1
  cpuPercent : c.cpuPercent = row.cpuPercent
  cpuLayout : c.cpuLayout.chars = "shared".toList
  cpuWorkers : c.cpuWorkers = profile.loadWorkers
  cpuCpus : c.cpuCpus.chars = CpuList.format sharedCpus
  cpuMethod : c.cpuMethod.chars = "all".toList
  memoryWorkers : c.memoryWorkers = 0
  memoryBytes : c.memoryBytes.chars = natText 0
  ioWorkers : c.ioWorkers = 0
  ioPath : c.ioPath.chars = "/tmp".toList
  networkBps : c.networkBps = rowNetworkBps profile row
  networkPort : c.networkPort = 5201
  networkParallel : c.networkParallel = 1
  networkProtocol : c.networkProtocol = .udp
  networkDirection : c.networkDirection = .forward
  onSec : c.onSec = 0
  offSec : c.offSec = 0

/-- The third reader: the load of the row on the shared CPUs. -/
theorem readLoad_plan {shared : Option SharedDomain} {domain : SharedDomain}
    (hshared : shared = some domain) (hcpus : domain.mask.cpus = sharedCpus) :
    ∃ c, readLoad (fileEntries h index) 49090 shared = some c ∧ LoadPlanned profile row c := by
  subst hshared
  obtain ⟨mask, hmask, hworkers⟩ := runParseCpus_cpusWord
  obtain ⟨hpercent, hloadWorkers, hbps⟩ := row_numbers h
  have hcount := profile.loadWorkers.property
  have hbpsLe := rowNetworkBps_le profile row
  have number {key : ConfigKey} {lo hi : Nat} (n : Nat) (hn : n < 10 ^ 20)
      (hmem : (key, numberWord n hn) ∈ placementEntries h) (hrange : lo ≤ n ∧ n ≤ hi)
      (hhi : hi < 2 ^ 64) (fallback : Option PrintableText) :
      configNumber (fileEntries h index) key fallback lo hi = some n :=
    configNumber_word hn (lookup_placement h index hmem) hrange hhi fallback
  have word {key : ConfigKey} {size : Nat} (w : ConfigWord)
      (hmem : (key, w) ∈ placementEntries h) (hsize : w.chars.length < size)
      (fallback : Option PrintableText) :
      configString (fileEntries h index) key fallback size = some w.text :=
    configString_word (lookup_placement h index hmem) hsize fallback
  have hallowed : workersAllowed (some domain) row.cpuPercent true cpusWord.chars = true := by
    rw [workersAllowed, hmask]
    simp [hworkers, hcpus]
  have hsharedLoad : sharedLoadAllowed (some domain) true cpusWord.chars = true := by
    simp [sharedLoadAllowed, hmask, hworkers, hcpus]
  have hlayout : isSharedLayout (plainWord "shared" (by decide)).text = true := by decide
  unfold readLoad
  refine exists_bind (configNumber_word (n := 1) (by decide)
    (lookup_common h index (by simp [commonEntries])) (by decide) (by decide) none) ?_
  refine exists_bind (number row.cpuPercent hpercent (by simp [placementEntries])
    ⟨Nat.zero_le _, h.cpuPercent⟩ (by decide) none) ?_
  refine exists_bind (word (plainWord "shared" (by decide)) (by simp [placementEntries]) (by decide)
    _) ?_
  refine exists_bind (guard_of (by decide)) ?_
  simp only [hlayout, if_true]
  refine exists_bind (number row.loadWorkers hloadWorkers (by simp [placementEntries])
    (by rw [h.loadWorkers]; omega) (by decide) none) ?_
  refine exists_bind (guard_of rfl) ?_
  refine exists_bind (lookupEntry_word (w := cpusWord)
    (lookup_placement h index (by simp [placementEntries])) _) ?_
  refine exists_bind (guard_of ⟨by decide +kernel, by decide +kernel, fun _ => cpusWord.ne⟩) ?_
  refine exists_bind (guard_of ⟨hallowed, hsharedLoad⟩) ?_
  refine exists_bind (word (plainWord "all" (by decide)) (by simp [placementEntries]) (by decide) _) ?_
  refine exists_bind (guard_of (by decide)) ?_
  refine exists_bind (number 0 (by decide) (by simp [placementEntries]) (by decide) (by decide) _) ?_
  refine exists_bind (word (numberWord 0 (by decide)) (by simp [placementEntries]) (by decide) _) ?_
  refine exists_bind (number 0 (by decide) (by simp [placementEntries]) (by decide) (by decide) _) ?_
  refine exists_bind (word (plainWord "/tmp" (by decide)) (by simp [placementEntries]) (by decide)
    _) ?_
  refine exists_bind (number (rowNetworkBps profile row) hbps (by simp [placementEntries])
    (by omega) (by decide) none) ?_
  refine exists_bind (number 5201 (by decide) (by simp [placementEntries]) (by decide) (by decide)
    _) ?_
  refine exists_bind (number 1 (by decide) (by simp [placementEntries]) (by decide) (by decide) _) ?_
  refine exists_bind (guard_of Nat.one_le_iff_ne_zero.mpr) ?_
  refine exists_bind (a := .udp) ?_ ?_
  · rw [word (plainWord "udp" (by decide)) (by simp [placementEntries]) (by decide)]
    rfl
  refine exists_bind (a := .forward) ?_ ?_
  · rw [word (plainWord "forward" (by decide)) (by simp [placementEntries]) (by decide)]
    rfl
  refine exists_bind (number 0 (by decide) (by simp [placementEntries]) (by decide) (by decide) _) ?_
  refine exists_bind (number 0 (by decide) (by simp [placementEntries]) (by decide) (by decide) _) ?_
  refine exists_bind (guard_of Iff.rfl) ?_
  refine exists_bind (guard_of (by decide)) ?_
  exact ⟨_, rfl, rfl, rfl, rfl, h.loadWorkers, rfl, rfl, rfl, rfl, rfl, rfl, rfl, rfl, rfl, rfl, rfl,
    rfl, rfl⟩

/-! ### The modes

One mode for a row of a single mode, and the order of the index for a row of all. -/

theorem readModes_plan : readModes (fileEntries h index) = some (plannedModes row index) := by
  have hmodes : (((modesText row index).splitOn ',').filter (· ≠ [])).mapM parseMode
        = some (plannedModes row index)
      ∧ (plannedModes row index).length ≤ 4 ∧ (plannedModes row index).Nodup
      ∧ plannedModes row index ≠ [] := by
    refine forall_rotations (P := fun modes =>
      (((commaText (modes.map String.toList)).splitOn ',').filter (· ≠ [])).mapM parseMode
          = some (modes.filterMap fun name => parseMode name.toList)
        ∧ (modes.filterMap fun name => parseMode name.toList).length ≤ 4
        ∧ (modes.filterMap fun name => parseMode name.toList).Nodup
        ∧ modes.filterMap (fun name => parseMode name.toList) ≠ []) ?_ h index
    decide +kernel
  have hlookup : (fileEntries h index).lookup .modes = some (modesWord h index).text :=
    lookup_common h index (by simp [commonEntries])
  rw [readModes, configString_word hlookup (modesText_word h index).2.2]
  show ((((modesText row index).splitOn ',').filter (· ≠ [])).mapM parseMode).bind _ = _
  rw [hmodes.1]
  show (guard _ : Option Unit).bind _ = _
  rw [guard_of hmodes.2]
  rfl

/-! ### The flows

A flow that does not send in a row is switched off in the file, and its other keys are then not
looked at. -/

/-- The settings of one flow. -/
structure FlowPlanned (profile : Profile) (row : Row) (i : Fin 3) (f : FlowSettings) : Prop where
  periodNs : f.periodNs = filePeriodNs (rowPps profile row i)
  deadlineNs : f.deadlineNs = if i = 0 then 0 else 100000
  txCpu : f.txCpu.map Fin.val = some i.val
  rxCpu : f.rxCpu = none ∧ f.allPassRxCpu = none
  tx : f.txPolicy = (profile.sender i).policy ∧ f.txPriority = (profile.sender i).priority
  rx : f.rxPolicy = (profile.receiver i).policy ∧ f.rxPriority = (profile.receiver i).priority

/-- The packets of a flow in a minute. -/
def flowRecords (profile : Profile) (row : Row) (i : Fin 3) : Nat :=
  if rowPps profile row i = 0 then 0
  else (60000 * 1000000 + filePeriodNs (rowPps profile row i) - 1)
    / filePeriodNs (rowPps profile row i)

/-- The packets of a row. -/
def planRecords (profile : Profile) (row : Row) : Nat :=
  ((List.finRange 3).map (flowRecords profile row)).sum

/-- The two policies have names of their own. -/
theorem parsePolicy_policyText (policy : SchedPolicy) :
    parsePolicy (policyText policy) = some policy := by cases policy <;> decide

/-- A flow that sends: period, packets, deadline and priority are those of the profile. -/
theorem readEnabledFlow_plan (shared : Option SharedDomain) (i : Fin 3) :
    ∃ f, readEnabledFlow (fileEntries h index) shared i = some f ∧ FlowPlanned profile row i f := by
  obtain ⟨-, hperiodLt, hdeadlineLt, htxCpu, htxLt, hrxLt⟩ := flow_numbers profile row i
  have hperiod := filePeriodNs_range (rowPps_le profile row i)
  have htx := (profile.sender i).priority.property
  have hrx := (profile.receiver i).priority.property
  have number {key : ConfigKey} {lo hi : Nat} (n : Nat) (hn : n < 10 ^ 20)
      (hmem : (key, numberWord n hn) ∈ flowEntries profile row i) (hrange : lo ≤ n ∧ n ≤ hi)
      (hhi : hi < 2 ^ 64) (fallback : Option PrintableText) :
      configNumber (fileEntries h index) key fallback lo hi = some n :=
    configNumber_word hn (lookup_flow h index hmem) hrange hhi fallback
  have policy {key : ConfigKey} (policy : SchedPolicy)
      (hmem : (key, policyWord policy) ∈ flowEntries profile row i) :
      configPolicy (fileEntries h index) key = some policy :=
    configPolicy_word (lookup_flow h index hmem) (parsePolicy_policyText policy)
  have hallPass : (fileEntries h index).lookup (.flow i .allPassRxCpu) = none := by
    refine lookup_absent h index fun hmem => ?_
    have hall : ∀ i : Fin 3, ConfigKey.flow i .allPassRxCpu ∉ planKeys := by decide
    exact hall i ((keys_sublist h index).subset hmem)
  have hallPassCpu : allPassCpu (fileEntries h index) i none = some none := by
    rw [allPassCpu, hallPass]
    rfl
  unfold readEnabledFlow
  refine exists_bind (number (filePeriodNs (rowPps profile row i)) hperiodLt
    (by simp [flowEntries]) (by omega) (by decide) none) ?_
  refine exists_bind (number (if i = 0 then 0 else 100000) hdeadlineLt (by simp [flowEntries])
    (by split <;> decide) (by decide) _) ?_
  refine exists_bind (configCpu_word (n := i) htxCpu (i.isLt.trans (by decide))
    (lookup_flow h index (i := i) (by simp [flowEntries])) none) ?_
  refine exists_bind (configCpu_inherit (w := plainWord "inherit" (by decide))
    (lookup_flow h index (i := i) (by simp [flowEntries])) rfl none) ?_
  refine exists_bind hallPassCpu ?_
  refine exists_bind (guard_of fun _ => ⟨rfl, rfl⟩) ?_
  refine exists_bind (policy (profile.sender i).policy (by simp [flowEntries])) ?_
  refine exists_bind (policy (profile.receiver i).policy (by simp [flowEntries])) ?_
  refine exists_bind (number (profile.sender i).priority htxLt (by simp [flowEntries]) htx
    (by split <;> decide) none) ?_
  refine exists_bind (number (profile.receiver i).priority hrxLt (by simp [flowEntries]) hrx
    (by split <;> decide) none) ?_
  exact ⟨_, dif_pos hperiod.1, rfl, rfl, rfl, ⟨rfl, rfl⟩, ⟨rfl, rfl⟩, ⟨rfl, rfl⟩⟩

/-- A flow without a rate is off. -/
theorem readFlow_plan (shared : Option SharedDomain) (i : Fin 3) :
    ∃ f, readFlow (fileEntries h index) shared i = some f
      ∧ (f.isSome ↔ 0 < rowPps profile row i) ∧ (∀ flow, f = some flow → FlowPlanned profile row i flow)
      ∧ (f.map fun flow => flow.flowCount 60000).getD 0 = flowRecords profile row i := by
  have henabled : configNumber (fileEntries h index) (.flow i .enabled) none 0 1
      = some (if 0 < rowPps profile row i then 1 else 0) :=
    configNumber_word (flow_numbers profile row i).1
      (lookup_flow h index (i := i) (by simp [flowEntries])) (by split <;> decide) (by decide) none
  rw [readFlow, henabled, Option.bind_some]
  by_cases hpps : 0 < rowPps profile row i
  · obtain ⟨f, hf, hplanned⟩ := readEnabledFlow_plan h index shared i
    refine ⟨some f, ?_, by simpa using hpps, ?_, ?_⟩
    · rw [if_pos hpps, hf]
      rfl
    · rintro flow ⟨⟩
      exact hplanned
    · rw [flowRecords, if_neg (Nat.ne_of_gt hpps), ← hplanned.periodNs]
      rfl
  · refine ⟨none, ?_, by simpa using hpps, by simp, ?_⟩
    · rw [if_neg hpps]
      rfl
    · rw [flowRecords, if_pos (Nat.eq_zero_of_not_pos hpps)]
      rfl

end Readers

/-! ## The whole file

The readers run one after the other. Of all their checks only two can fail on a file of the
plan: the address, which the plan takes as it is, and the sum of the packets, which it does
not compute. -/

/-- The runner's settings, field by field, are those of the profile and the row; what the plan
leaves to the machine is the repository and the digest of the file. -/
structure Follows (host : RunnerHost) (profile : Profile) (row : Row) (index : Nat)
    (c : RunSettings) : Prop where
  control : ControlPlanned host profile row c.toControlSettings
  receiver : ReceiverPlanned profile c.toReceiverSettings
  load : LoadPlanned profile row c.toLoadSettings
  modes : c.modes = plannedModes row index
  enabled : ∀ i, (c.flows i).isSome ↔ 0 < rowPps profile row i
  flows : ∀ i f, c.flows i = some f → FlowPlanned profile row i f
  digest : configHash host (config profile row index) = some c.digest

/-- Some flow of a row sends. -/
theorem exists_rowPps_pos (profile : Profile) (row : Row) : ∃ i, 0 < rowPps profile row i := by
  cases hsingle : row.singleFlow with
  | none => exact ⟨0, by rw [rowPps, hsingle]; exact (profile.flowPps 0).property.1⟩
  | some i =>
    refine ⟨i, ?_⟩
    have hrate := (profile.flowPps i).property.1
    have hpps : rowPps profile row i = profile.flowPps i := by simp [rowPps, hsingle]
    omega

/-- Some flow sends, and in a minute it sends at least one packet. -/
theorem planRecords_pos (profile : Profile) (row : Row) : 0 < planRecords profile row := by
  obtain ⟨i, hi⟩ := exists_rowPps_pos profile row
  have hperiod := filePeriodNs_range (rowPps_le profile row i)
  have hrecords : 0 < flowRecords profile row i := by
    rw [flowRecords, if_neg (Nat.ne_of_gt hi)]
    exact Nat.div_pos (by omega) (by omega)
  refine hrecords.trans_le ?_
  exact List.single_le_sum (fun _ _ => Nat.zero_le _) _ (List.mem_map_of_mem (List.mem_finRange i))

variable {host : RunnerHost}

/-- What the file is read as, when the address is text. -/
theorem readRunConfig_config (hready : RunnerReady host) (h : Planned profile row) (index : Nat)
    (haddress : profile.address.isText = true) :
    (readRunConfig host (config profile row index)).isSome
        = decide (planRecords profile row ≤ runMaxRecords)
      ∧ ∀ c, readRunConfig host (config profile row index) = some c →
          Follows host profile row index c := by
  obtain ⟨control, hcontrol, hcontrolPlanned⟩ := readControl_plan h index hready haddress
  obtain ⟨receiver, hreceiver, hreceiverPlanned⟩ := readReceiver_plan h index
  obtain ⟨domain, hdomain, hcpus⟩ := hreceiverPlanned.shared
  obtain ⟨load, hload, hloadPlanned⟩ := readLoad_plan h index hdomain hcpus
  obtain ⟨f₁, hf₁, hon₁, hflow₁, hcount₁⟩ := readFlow_plan h index receiver.shared 0
  obtain ⟨f₂, hf₂, hon₂, hflow₂, hcount₂⟩ := readFlow_plan h index receiver.shared 1
  obtain ⟨f₃, hf₃, hon₃, hflow₃, hcount₃⟩ := readFlow_plan h index receiver.shared 2
  obtain ⟨digest, hdigest⟩ := Option.isSome_iff_exists.mp
    (hready.digest (config profile row index))
  have htotal : totalRecords [f₁, f₂, f₃] control.durationMs = planRecords profile row := by
    rw [hcontrolPlanned.durationMs, planRecords]
    simp only [totalRecords, List.map_cons, List.map_nil, hcount₁, hcount₂, hcount₃]
    rfl
  have hon : ∀ i, (flowTable f₁ f₂ f₃ i).isSome ↔ 0 < rowPps profile row i := by
    intro i
    match i with
    | 0 => exact hon₁
    | 1 => exact hon₂
    | 2 => exact hon₃
  have hflow : ∀ i f, flowTable f₁ f₂ f₃ i = some f → FlowPlanned profile row i f := by
    intro i
    match i with
    | 0 => exact hflow₁
    | 1 => exact hflow₂
    | 2 => exact hflow₃
  have hsome : ∃ i, (flowTable f₁ f₂ f₃ i).isSome := by
    obtain ⟨i, hi⟩ := exists_rowPps_pos profile row
    exact ⟨i, (hon i).mpr hi⟩
  rw [← hcontrolPlanned.controlPort] at hload
  by_cases hrecords : planRecords profile row ≤ runMaxRecords
  · obtain ⟨c, hc, hfollows⟩ : ∃ c, readRunConfig host (config profile row index) = some c
        ∧ Follows host profile row index c := by
      unfold readRunConfig
      refine exists_bind (parseEntries_config h index) ?_
      refine exists_bind hcontrol ?_
      refine exists_bind hreceiver ?_
      refine exists_bind hload ?_
      refine exists_bind (readModes_plan h index) ?_
      refine exists_bind hf₁ ?_
      refine exists_bind hf₂ ?_
      refine exists_bind hf₃ ?_
      refine exists_bind (guard_of ?_) ?_
      · rw [htotal]
        exact ⟨planRecords_pos profile row, hrecords⟩
      refine exists_bind hdigest ?_
      exact ⟨_, dif_pos hsome, hcontrolPlanned, hreceiverPlanned, hloadPlanned, rfl, hon, hflow,
        hdigest⟩
    rw [hc, decide_eq_true hrecords]
    refine ⟨rfl, ?_⟩
    rintro _ ⟨⟩
    exact hfollows
  · have hnone : readRunConfig host (config profile row index) = none := by
      rw [Option.eq_none_iff_forall_ne_some]
      intro c hc
      unfold readRunConfig at hc
      obtain ⟨p, hp, hc⟩ := Option.bind_eq_some_iff.mp hc
      obtain rfl := Option.some.inj ((parseEntries_config h index).symm.trans hp)
      obtain ⟨control', hcontrol', hc⟩ := Option.bind_eq_some_iff.mp hc
      obtain rfl := Option.some.inj (hcontrol.symm.trans hcontrol')
      obtain ⟨receiver', hreceiver', hc⟩ := Option.bind_eq_some_iff.mp hc
      obtain rfl := Option.some.inj (hreceiver.symm.trans hreceiver')
      obtain ⟨_, _, hc⟩ := Option.bind_eq_some_iff.mp hc
      obtain ⟨_, _, hc⟩ := Option.bind_eq_some_iff.mp hc
      obtain ⟨f₁', hf₁', hc⟩ := Option.bind_eq_some_iff.mp hc
      obtain rfl := Option.some.inj (hf₁.symm.trans hf₁')
      obtain ⟨f₂', hf₂', hc⟩ := Option.bind_eq_some_iff.mp hc
      obtain rfl := Option.some.inj (hf₂.symm.trans hf₂')
      obtain ⟨f₃', hf₃', hc⟩ := Option.bind_eq_some_iff.mp hc
      obtain rfl := Option.some.inj (hf₃.symm.trans hf₃')
      obtain ⟨_, hguard, _⟩ := Option.bind_eq_some_iff.mp hc
      have htotalLe := ((Option.guard_eq_some' _).mp hguard).2
      rw [htotal] at htotalLe
      exact hrecords htotalLe
    rw [hnone, decide_eq_false hrecords]
    exact ⟨rfl, fun c hc => nomatch hc⟩

/-- Without it the second check of the file fails. -/
theorem readRunConfig_of_not_isText (h : Planned profile row) (index : Nat)
    (haddress : ¬profile.address.isText = true) :
    readRunConfig host (config profile row index) = none := by
  have hmem : (.receiverAddress, addressWord profile.address) ∈ commonEntries h index := by
    simp [commonEntries]
  have hstring : configString (fileEntries h index) .receiverAddress none 64
      = some (addressWord profile.address).text :=
    configString_word (lookup_common h index hmem)
      (profile.address.word.2.2.trans_lt (by decide)) none
  rw [Option.eq_none_iff_forall_ne_some]
  intro c hc
  unfold readRunConfig at hc
  obtain ⟨p, hp, hc⟩ := Option.bind_eq_some_iff.mp hc
  obtain rfl := Option.some.inj ((parseEntries_config h index).symm.trans hp)
  obtain ⟨control, hcontrol, -⟩ := Option.bind_eq_some_iff.mp hc
  unfold readControl at hcontrol
  obtain ⟨_, _, hcontrol⟩ := Option.bind_eq_some_iff.mp hcontrol
  obtain ⟨address, haddr, hcontrol⟩ := Option.bind_eq_some_iff.mp hcontrol
  obtain rfl := Option.some.inj (hstring.symm.trans haddr)
  obtain ⟨_, hguard, -⟩ := Option.bind_eq_some_iff.mp hcontrol
  have hipv4 : isIpv4 profile.address.chars = true := (Option.guard_eq_some' _).mp hguard
  rw [isIpv4_address] at hipv4
  exact haddress hipv4

/-- The address is text when the profile has it as text. -/
theorem validate_address {members : Members} (hvalid : validate members = .ok profile) :
    profile.address.isText = true ↔ ∃ s, field members "receiver_address" = some (.string s) := by
  unfold validate at hvalid
  obtain ⟨_, _, hvalid⟩ := bind_eq_ok.mp hvalid
  obtain ⟨address, haddress, hvalid⟩ := bind_eq_ok.mp hvalid
  iterate 18 obtain ⟨_, _, hvalid⟩ := bind_eq_ok.mp hvalid
  cases hvalid
  show address.isText = true ↔ _
  rw [member] at haddress
  cases hfield : field members "receiver_address" with
  | none =>
    rw [hfield] at haddress
    cases haddress
  | some value =>
    rw [hfield, Option.getD_some] at haddress
    unfold ipv4Address at haddress
    split at haddress
    · split at haddress
      · cases haddress
        simp [Address.isText]
      · cases haddress
    · cases haddress
      simp [Address.isText]
    · split at haddress
      · cases haddress
        simp [Address.isText]
      · cases haddress
    · cases haddress

/-- **When the file of a row is accepted.** -/
theorem config_accepted_iff {members : Members} (hready : RunnerReady host)
    (hvalid : validate members = .ok profile) (hrow : row ∈ rows profile) (index : Nat) :
    (readRunConfig host (config profile row index)).isSome = true
      ↔ (∃ s, field members "receiver_address" = some (.string s))
        ∧ planRecords profile row ≤ runMaxRecords := by
  have hplanned := planned_of_mem hrow
  rw [← validate_address hvalid]
  by_cases haddress : profile.address.isText = true
  · rw [(readRunConfig_config hready hplanned index haddress).1, decide_eq_true_eq]
    exact (and_iff_right haddress).symm
  · rw [readRunConfig_of_not_isText hplanned index haddress]
    simp [haddress]

/-- The example profile with its two open choices made. -/
def sampleMembers : Members :=
  [(str "receiver_address", .string (str "192.168.10.10")),
    (str "receiver_shared_cpus", .arr [.int 0, .int 1, .int 2, .int 3]),
    (str "receiver_cpumap_cpu", .int 3),
    (str "receiver_policies", .arr (List.replicate 3 (.string (str "other")))),
    (str "receiver_priorities", .arr (List.replicate 3 (.int 0))),
    (str "sender_policies",
      .arr [.string (str "other"), .string (str "fifo"), .string (str "fifo")]),
    (str "sender_priorities", .arr [.int 0, .int 80, .int 80]),
    (str "receiver_supervisor_cpu", .string (str "inherit")),
    (str "sender_supervisor_cpu", .int 3),
    (str "receiver_network_cpu", .string (str "inherit")),
    (str "network_high_bps", .int 800000000),
    (str "settle_ms", .int 100)]

/-- The sample host stands in a repository and prints digests. -/
theorem sampleHost_ready : RunnerReady sampleHost := ⟨by decide +kernel, fun _ => rfl⟩

/-- The sample profile is accepted, and its row fits the capture. -/
theorem sample_validated : ∃ profile, validate sampleMembers = .ok profile
    ∧ planRecords profile (singleRow profile 1) ≤ runMaxRecords := by
  have hvalid : (validate sampleMembers).toOption.any (fun profile =>
      decide (planRecords profile (singleRow profile 1) ≤ runMaxRecords)) = true := by
    decide +kernel
  obtain ⟨profile, hprofile, hrecords⟩ := (Option.any_eq_true _ _).mp hvalid
  refine ⟨profile, ?_, of_decide_eq_true hrecords⟩
  cases hresult : validate sampleMembers with
  | error e =>
    rw [hresult] at hprofile
    cases hprofile
  | ok validated =>
    rw [hresult] at hprofile
    exact congrArg Except.ok (Option.some.inj hprofile)

/-- Each flow has a row of its own. -/
theorem mem_rows_single (profile : Profile) (i : Fin 3) : singleRow profile i ∈ rows profile :=
  List.mem_append_left _ (List.mem_map_of_mem (List.mem_finRange i))

/-- The row of the second flow is accepted. -/
theorem config_accepted_sample : ∃ profile, validate sampleMembers = .ok profile
    ∧ (readRunConfig sampleHost (config profile (singleRow profile 1) 1)).isSome = true := by
  obtain ⟨profile, hvalid, hrecords⟩ := sample_validated
  refine ⟨profile, hvalid, ?_⟩
  exact (config_accepted_iff sampleHost_ready hvalid (mem_rows_single profile 1) 1).mpr
    ⟨⟨str "192.168.10.10", rfl⟩, hrecords⟩

/-- **An accepted file says what the profile says.** -/
theorem config_settings {c : RunSettings} (hready : RunnerReady host) (hrow : row ∈ rows profile)
    (index : Nat) (hc : readRunConfig host (config profile row index) = some c) :
    Follows host profile row index c := by
  have hplanned := planned_of_mem hrow
  by_cases haddress : profile.address.isText = true
  · exact (readRunConfig_config hready hplanned index haddress).2 c hc
  · rw [readRunConfig_of_not_isText hplanned index haddress] at hc
    cases hc

/-- And the runner's settings are those of that row. -/
theorem config_settings_sample : ∃ profile c, validate sampleMembers = .ok profile
    ∧ readRunConfig sampleHost (config profile (singleRow profile 1) 1) = some c
    ∧ Follows sampleHost profile (singleRow profile 1) 1 c := by
  obtain ⟨profile, hvalid, hrecords⟩ := sample_validated
  have haddress : profile.address.isText = true :=
    (validate_address hvalid).mpr ⟨str "192.168.10.10", rfl⟩
  have hread := (readRunConfig_config sampleHost_ready
    (planned_of_mem (mem_rows_single profile 1)) 1 haddress).1
  rw [decide_eq_true hrecords] at hread
  obtain ⟨c, hc⟩ := Option.isSome_iff_exists.mp hread
  exact ⟨profile, c, hvalid, hc,
    config_settings sampleHost_ready (mem_rows_single profile 1) 1 hc⟩

end AceXdp.Plan
