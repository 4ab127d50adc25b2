import AceXdp.Recv.Loop
import AceXdp.Recv.Stale

/-!
# AceXdp — an AF_XDP capture is complete or fails

The records of a run are the experiment frames it consumed, in order, as far as their clocks could
be read and the array had room (`LoopInv`); an iteration that drops one ends the loop with an
error that nothing after it takes back.

* `loopBody_advances`: one iteration; `captureLoop_inv`: the whole loop;
* `loopBody_fails`: an iteration that loses a frame does not go on;
* `capture_complete`: exit code 0 means one row per experiment frame, and the first frame that
  gets no row ends the process, which then reports its failure.
-/

namespace AceXdp

/-! ## Frames and rows

The rows that a list of frames should give: those of its experiment frames, in order. -/

/-- What `packet_udp_info`, the port test and `experiment_packet_id` make of a frame. -/
def ConsumedFrame.experiment (f : ConsumedFrame) : Option ExperimentId :=
  (packetUdpInfo f.packet f.length).bind fun info =>
    if info.destinationPort = xskPort then experimentPacketId f.packet info else none

/-- An experiment frame whose clocks could be read. -/
def ConsumedFrame.offered (f : ConsumedFrame) : Option ExperimentId :=
  match f.clock with
  | .error _ => none
  | .ok _ => f.experiment

/-- The identity a row carries. -/
def XskUserRecord.id (r : XskUserRecord) : ExperimentId := ⟨r.flowId, r.sequence, r.txRealtimeNs⟩

theorem experiment_of_classify (f : ConsumedFrame) :
    f.experiment = match classifyPacket f.packet f.length with
      | .experiment id => some id
      | _ => none := by
  unfold ConsumedFrame.experiment classifyPacket
  cases packetUdpInfo f.packet f.length with
  | none => rfl
  | some info =>
    dsimp only [Option.bind_some]
    by_cases hport : info.destinationPort = xskPort
    · rw [if_pos hport, if_neg (not_not.mpr hport)]
      cases experimentPacketId f.packet info <;> rfl
    · rw [if_neg hport, if_pos hport]

theorem applyMetadata_txRealtimeNs (rx : RxMeta) (flowId : UInt32) (sequence : UInt64)
    (record : XskUserRecord) :
    (applyMetadata rx flowId sequence record).2.txRealtimeNs = record.txRealtimeNs := by
  unfold applyMetadata
  by_cases hw : rx.wellFormed
  · rw [if_neg (not_not.mpr hw)]
    dsimp only
    split <;> rfl
  · rw [if_pos hw]

theorem measuredRecord_id (env : BatchEnv) (mem : Nat → UInt8) (addr : Nat) (id : ExperimentId)
    (mono : UInt64) (real : Int64) (len : UInt32) :
    (measuredRecord env mem addr id mono real len).2.id = id := by
  obtain ⟨hflow, hseq⟩ := readXdpMetadata_identity mem addr id.flowId id.sequence
    (userRecord env id mono real len)
  have htx : (readXdpMetadata mem addr id.flowId id.sequence
      (userRecord env id mono real len)).2.txRealtimeNs = id.txRealtimeNs := by
    unfold readXdpMetadata
    cases metadataAddr addr with
    | none => rfl
    | some m => exact applyMetadata_txRealtimeNs _ _ _ _
  unfold measuredRecord XskUserRecord.id
  rw [hflow, hseq, htx]
  rfl

/-- The frame of the `i`-th descriptor of a batch. -/
def frameOf (env : BatchEnv) (mem : Nat → UInt8) (desc : XdpDesc) (i : Nat) : ConsumedFrame :=
  ⟨packetView mem desc.dataAddr, desc.len.toNat, env.clock i⟩

theorem offeredRecord_id (env : BatchEnv) (mem : Nat → UInt8) (i : Nat) (desc : XdpDesc) :
    (offeredRecord env mem i desc).map XskUserRecord.id = (frameOf env mem desc i).offered := by
  unfold offeredRecord ConsumedFrame.offered
  rw [experiment_of_classify]
  dsimp only [frameOf]
  cases env.clock i with
  | error errno => rfl
  | ok now =>
    dsimp only
    cases classifyPacket (packetView mem desc.dataAddr) desc.len.toNat with
    | experiment id => exact congrArg some (measuredRecord_id env mem _ id now.1 now.2 desc.len)
    | malformed => rfl
    | unexpectedPort => rfl
    | noExperiment => rfl

/-- The records a batch offers carry the identities of its frames. Induction on the batch. -/
theorem offeredRecords_id (env : BatchEnv) (mem : Nat → UInt8) :
    ∀ (descs : List XdpDesc) (i : Nat), (offeredRecords env mem i descs).map XskUserRecord.id
      = ((descs.zipIdx i).map fun (desc, j) => frameOf env mem desc j).filterMap
          ConsumedFrame.offered
  | [], _ => rfl
  | desc :: descs, i => by
    rw [offeredRecords, List.map_append, offeredRecords_id env mem descs (i + 1),
      List.zipIdx_cons, List.map_cons, List.filterMap_cons, ← offeredRecord_id]
    cases offeredRecord env mem i desc <;> rfl

/-! ## One iteration

An iteration polls, takes a batch, stores its records and returns the frames. It ends well, with the
counters advanced by what it took, or it ends the loop. -/

/-- Everything consumed has its row: each clock was read and the array had room. -/
def Stored (opts : ReceiverOptions) (consumed : List ConsumedFrame) : Prop :=
  (∀ f ∈ consumed, ∃ now, f.clock = .ok now)
    ∧ (consumed.filterMap ConsumedFrame.offered).length ≤ opts.recordCapacity

/-- A frame whose clock could not be read, or one more experiment frame than the array holds. -/
def Lost (opts : ReceiverOptions) (consumed : List ConsumedFrame) : Prop :=
  (∃ f ∈ consumed, ∃ errno, f.clock = .error errno)
    ∨ opts.recordCapacity < (consumed.filterMap ConsumedFrame.offered).length

theorem Lost.not_stored {opts : ReceiverOptions} {consumed : List ConsumedFrame}
    (h : Lost opts consumed) : ¬Stored opts consumed := by
  rintro ⟨hclocks, hfits⟩
  rcases h with ⟨f, hf, errno, herrno⟩ | hover
  · obtain ⟨now, hnow⟩ := hclocks f hf
    rw [hnow] at herrno
    cases herrno
  · exact absurd hfits (Nat.not_le.mpr hover)

/-- The records are the offered frames, in consumption order, as far as the array reaches. -/
structure LoopInv (opts : ReceiverOptions) (s : LoopState) : Prop where
  clean : UserspaceClean s.recv
  counted : s.recv.counters.receivedPackets = s.recv.counters.recycledFrames
  records : s.recv.records.map XskUserRecord.id
    = (s.consumed.filterMap ConsumedFrame.offered).take opts.recordCapacity

/-- What one call adds: the rows of the frames it consumed, as far as there is room. -/
theorem receiveBatch_frames (env : BatchEnv) {s : RecvState} (h : UserspaceClean s) :
    let s' := (receiveBatch env s).1
    let ids := (consumedFrames env s).filterMap ConsumedFrame.offered
    s.records <+: s'.records
      ∧ s'.records.map XskUserRecord.id = s.records.map XskUserRecord.id
          ++ ids.take (env.recordCapacity - s.records.length)
      ∧ (s.counters.receivedPackets = s.counters.recycledFrames →
          s'.counters.receivedPackets = s'.counters.recycledFrames)
      ∧ ((∃ n, (receiveBatch env s).2 = .ok n) →
          (∀ f ∈ consumedFrames env s, ∃ now, f.clock = .ok now)
            ∧ ids.length ≤ env.recordCapacity - s.records.length) := by
  rcases receiveBatch_effect env s h.owned with ⟨hun, _⟩ | ⟨taken, hc⟩
  · have hnone : consumedFrames env s = [] := by
      rw [consumedFrames, hun.count]
      rfl
    dsimp only
    rw [hun.records, hun.received, hun.recycled, hnone]
    simp
  · have hframes : consumedFrames env s
        = ((s.rx.take rxBatchSize).zipIdx 0).map fun (desc, i) => frameOf env s.mem desc i := by
      rw [consumedFrames, hc.count, List.length_take, ← List.take_take, List.take_length]
      rfl
    have hids := offeredRecords_id env s.mem (s.rx.take rxBatchSize) 0
    rw [← hframes] at hids
    refine ⟨?_, ?_, ?_, ?_⟩
    · rw [hc.effect.records]
      exact List.prefix_append _ _
    · rw [hc.effect.records, List.map_append, List.map_take, hids]
    · intro heq
      rw [hc.effect.received, hc.recycles.recycled, heq]
    · intro hok
      obtain ⟨hclocks, hfits⟩ := hc.ok_iff.mp hok
      refine ⟨?_, by rw [← hids, List.length_map]; exact hfits⟩
      intro f hf
      rw [hframes] at hf
      obtain ⟨⟨desc, i⟩, hmem, rfl⟩ := List.mem_map.mp hf
      have hi := (List.mem_zipIdx hmem).2.1
      rw [Nat.zero_add] at hi
      obtain ⟨now, hnow⟩ := hclocks i hi
      rw [Nat.zero_add] at hnow
      exact ⟨now, hnow⟩

def LoopStep.state : LoopStep → LoopState
  | .again s => s
  | .done s _ => s

/-- The loop goes on, or ends without an error. -/
def LoopStep.ok : LoopStep → Prop
  | .again _ => True
  | .done _ ending => ending.err = none

/-- What an iteration from `s` leaves: the invariant, all earlier rows, and, unless it reports an
error, a row for every experiment frame so far. -/
structure Advances (opts : ReceiverOptions) (s : LoopState) (step : LoopStep) : Prop where
  inv : LoopInv opts step.state
  rows : s.recv.records <+: step.state.recv.records
  stored : step.ok → Stored opts step.state.consumed

/-- A step that leaves the receiver alone. -/
theorem advances_of_same {opts : ReceiverOptions} {s : LoopState} (h : LoopInv opts s)
    (hs : Stored opts s.consumed) {step : LoopStep} (hrecv : step.state.recv = s.recv)
    (hconsumed : step.state.consumed = s.consumed) : Advances opts s step := by
  refine ⟨⟨?_, ?_, ?_⟩, ?_, fun _ => ?_⟩
  · rw [hrecv]
    exact h.clean
  · rw [hrecv]
    exact h.counted
  · rw [hrecv, hconsumed]
    exact h.records
  · rw [hrecv]
  · rw [hconsumed]
    exact hs

theorem waitForPackets_state (opts : ReceiverOptions) (s : LoopState) (poll : PollOutcome) :
    (waitForPackets opts s poll).state = s := by
  unfold waitForPackets
  split
  · rfl
  · cases poll <;> rfl

theorem KernelWork.clean {w : KernelWork} {s : RecvState} (h : UserspaceClean s) :
    UserspaceClean (w.apply s) :=
  ⟨h.flags, h.owned⟩

/-- The environment of the call in an iteration. -/
def LoopInput.env (input : LoopInput) (opts : ReceiverOptions) : BatchEnv :=
  ⟨opts.queueId, opts.recordCapacity, input.clock⟩

/-- The state behind the call, however the iteration goes on. -/
theorem receivePackets_state (opts : ReceiverOptions) (s : LoopState) (input : LoopInput) :
    (receivePackets opts s input).state = { s with
      recv := (receiveBatch (input.env opts) (input.kernel.apply s.recv)).1
      consumed := s.consumed ++ consumedFrames (input.env opts) (input.kernel.apply s.recv) } := by
  unfold receivePackets LoopInput.env
  dsimp only
  split
  · rfl
  · split
    · rfl
    · exact waitForPackets_state _ _ _

theorem receivePackets_ok {opts : ReceiverOptions} {s : LoopState} {input : LoopInput}
    (h : (receivePackets opts s input).ok) :
    ∃ n, (receiveBatch (input.env opts) (input.kernel.apply s.recv)).2 = .ok n := by
  unfold receivePackets at h
  dsimp only at h
  split at h
  · cases h
  · rename_i n hn
    exact ⟨n, hn⟩

theorem receivePackets_advances {opts : ReceiverOptions} {s : LoopState} (h : LoopInv opts s)
    (hs : Stored opts s.consumed) (input : LoopInput) :
    Advances opts s (receivePackets opts s input) := by
  have hclean : UserspaceClean (input.kernel.apply s.recv) := KernelWork.clean h.clean
  obtain ⟨hrows, hids, hcounted, hok⟩ := receiveBatch_frames (input.env opts) hclean
  have hlen : s.recv.records.length
      = (s.consumed.filterMap ConsumedFrame.offered).length := by
    have hmap := congrArg List.length h.records
    rwa [List.length_map, List.take_of_length_le hs.2] at hmap
  refine ⟨⟨?_, ?_, ?_⟩, ?_, fun hstep => ?_⟩
  · rw [receivePackets_state]
    exact receiveBatch_clean _ hclean
  · rw [receivePackets_state]
    exact hcounted h.counted
  · rw [receivePackets_state]
    dsimp only
    rw [hids, List.filterMap_append, List.take_append, ← hlen]
    exact congrArg (· ++ _) h.records
  · rw [receivePackets_state]
    exact hrows
  · obtain ⟨hclocks, hfits⟩ := hok (receivePackets_ok hstep)
    rw [receivePackets_state]
    refine ⟨fun f hf => ?_, ?_⟩
    · rcases List.mem_append.mp hf with hf | hf
      · exact hs.1 f hf
      · exact hclocks f hf
    · dsimp only
      rw [List.filterMap_append, List.length_append]
      have hroom : (input.env opts).recordCapacity = opts.recordCapacity := rfl
      have hsame : (input.kernel.apply s.recv).records = s.recv.records := rfl
      have hold := hs.2
      rw [hroom, hsame, hlen] at hfits
      omega

/-- **One iteration.** -/
theorem loopBody_advances {opts : ReceiverOptions} {s : LoopState} (h : LoopInv opts s)
    (hs : Stored opts s.consumed) (input : LoopInput) :
    Advances opts s (loopBody opts s input) := by
  unfold loopBody
  dsimp only
  cases input.now with
  | error errno => exact advances_of_same h hs rfl rfl
  | ok now =>
    dsimp only
    -- neither a signal nor the drain touches the receiver
    have hsame : ((s.onSignals input.signals).beginDrain opts now).recv = s.recv
        ∧ ((s.onSignals input.signals).beginDrain opts now).consumed = s.consumed := by
      unfold LoopState.beginDrain
      split <;> exact ⟨rfl, rfl⟩
    generalize (s.onSignals input.signals).beginDrain opts now = s₁ at hsame
    split
    · exact advances_of_same h hs hsame.1 hsame.2
    · have hinv : LoopInv opts s₁ :=
        ⟨by rw [hsame.1]; exact h.clean, by rw [hsame.1]; exact h.counted,
          by rw [hsame.1, hsame.2]; exact h.records⟩
      have hadv := receivePackets_advances hinv (by rw [hsame.2]; exact hs) input
      exact ⟨hadv.inv, by rw [← hsame.1]; exact hadv.rows, hadv.stored⟩

/-- An iteration that loses a frame, or cannot read the loop's own clock, is the last one. -/
theorem loopBody_fails {opts : ReceiverOptions} {s : LoopState} {input : LoopInput}
    (h : LoopInv opts s) (hs : Stored opts s.consumed)
    (hfail : Lost opts (loopBody opts s input).state.consumed
      ∨ ∃ errno, input.now = .error errno) :
    ∃ s' ending, loopBody opts s input = .done s' ending ∧ ending.err ≠ none := by
  rcases hfail with hlost | ⟨errno, hnow⟩
  · have hbad : ¬(loopBody opts s input).ok := fun hok =>
      hlost.not_stored ((loopBody_advances h hs input).stored hok)
    cases hstep : loopBody opts s input with
    | again s' =>
      rw [hstep] at hbad
      exact absurd trivial hbad
    | done s' ending =>
      rw [hstep] at hbad
      exact ⟨s', ending, rfl, hbad⟩
  · refine ⟨s.onSignals input.signals, ⟨some (.clock errno), .clockError⟩, ?_, nofun⟩
    rw [loopBody, hnow]

/-! ## The loop

The step lemma carried along the iterations; an iteration that loses a frame or fails a clock is the
last one. -/

/-- **The whole loop.** Induction on the inputs. -/
theorem captureLoop_inv {opts : ReceiverOptions} {s' : LoopState} {ending : Ending}
    (inputs : List LoopInput) :
    ∀ {s : LoopState}, LoopInv opts s → Stored opts s.consumed →
      captureLoop opts s inputs = some (s', ending) →
      LoopInv opts s' ∧ s.recv.records <+: s'.recv.records
        ∧ (ending.err = none → Stored opts s'.consumed) := by
  induction inputs with
  | nil => intro s _ _ hrun; cases hrun
  | cons input rest ih =>
    intro s h hs hrun
    have hadv := loopBody_advances h hs input
    unfold captureLoop at hrun
    cases hstep : loopBody opts s input with
    | done s₁ ending₁ =>
      rw [hstep] at hadv hrun
      cases hrun
      exact ⟨hadv.inv, hadv.rows, hadv.stored⟩
    | again s₁ =>
      rw [hstep] at hadv hrun
      obtain ⟨hinv, hrows, hstored⟩ := ih hadv.inv (hadv.stored trivial) hrun
      exact ⟨hinv, hadv.rows.trans hrows, hstored⟩

/-- A loop that has not ended still has what `Stored` says. Induction on the inputs. -/
theorem capturing_inv {opts : ReceiverOptions} {s₁ : LoopState} (before : List LoopInput) :
    ∀ {s : LoopState}, LoopInv opts s → Stored opts s.consumed →
      capturing opts s before = some s₁ → LoopInv opts s₁ ∧ Stored opts s₁.consumed := by
  induction before with
  | nil =>
    intro s h hs hcap
    cases hcap
    exact ⟨h, hs⟩
  | cons input rest ih =>
    intro s h hs hcap
    have hadv := loopBody_advances h hs input
    unfold capturing at hcap
    cases hstep : loopBody opts s input with
    | done s₂ ending₂ => rw [hstep] at hcap; cases hcap
    | again s₂ =>
      rw [hstep] at hadv hcap
      exact ih hadv.inv (hadv.stored trivial) hcap

/-- The loop goes on from where it has got to. Induction on the inputs it has seen. -/
theorem captureLoop_append {opts : ReceiverOptions} {s₁ : LoopState} (before : List LoopInput)
    (after : List LoopInput) :
    ∀ {s : LoopState}, capturing opts s before = some s₁ →
      captureLoop opts s (before ++ after) = captureLoop opts s₁ after := by
  induction before with
  | nil =>
    intro s hcap
    cases hcap
    rfl
  | cons input rest ih =>
    intro s hcap
    unfold capturing at hcap
    rw [List.cons_append, captureLoop]
    cases hstep : loopBody opts s input with
    | done s₂ ending₂ => rw [hstep] at hcap; cases hcap
    | again s₂ =>
      rw [hstep] at hcap
      exact ih hcap

/-- The rows of a loop that has not ended are a prefix of those it ends with. -/
theorem capturing_rows {opts : ReceiverOptions} {s s₁ s' : LoopState} {ending : Ending}
    {before after : List LoopInput} (h : LoopInv opts s) (hs : Stored opts s.consumed)
    (hcap : capturing opts s before = some s₁)
    (hrun : captureLoop opts s (before ++ after) = some (s', ending)) :
    s₁.recv.records <+: s'.recv.records := by
  obtain ⟨hinv, hstored⟩ := capturing_inv before h hs hcap
  rw [captureLoop_append before after hcap] at hrun
  exact (captureLoop_inv after hinv hstored hrun).2.1

theorem start_inv {opts : ReceiverOptions} {stopSignal : Option StopSignal} {s : LoopState}
    (h : LoopState.start stopSignal = some s) : LoopInv opts s ∧ Stored opts s.consumed := by
  rw [LoopState.start, fillInitialFrames_fresh] at h
  cases h
  exact ⟨⟨⟨fun _ _ => rfl, rfl⟩, rfl, List.take_nil.symm⟩,
    ⟨fun f hf => absurd hf List.not_mem_nil, Nat.zero_le _⟩⟩

/-! ## After the loop

The way out only adds errors to the outcome, it takes none back. So what the loop noted is what the
process reports. -/

theorem Ending.unlessFailed_err {α : Type} {ending : Ending} {result : Except Int α}
    {err : Int → CaptureError} {reason : TerminationReason}
    (h : (ending.unlessFailed result err reason).err = none) : ending.err = none := by
  unfold Ending.unlessFailed at h
  cases result with
  | ok _ => exact h
  | error errno =>
    dsimp only at h
    split at h
    · cases h
    · exact h

theorem Ending.named_err {ending : Ending} {result : Except Int Unit} {err : Int → CaptureError}
    {reason : TerminationReason} (h : (ending.named result err reason).err = none) :
    ending.err = none ∧ result.isOk = true := by
  unfold Ending.named at h
  cases result with
  | ok _ => exact ⟨h, rfl⟩
  | error errno =>
    dsimp only at h
    cases herr : ending.err with
    | none => rw [herr] at h; cases h
    | some e => rw [herr] at h; cases h

theorem Ending.captured_err {ending : Ending} {stopSignal : Option StopSignal} {epi : Epilogue}
    (h : (ending.captured stopSignal epi).err = none) : ending.err = none := by
  have hend := Ending.unlessFailed_err h
  split at hend
  · cases hend
  · exact hend

/-- Nothing after the completion byte takes an error back, and a failed save is one. -/
theorem Ending.settled_err {opts : ReceiverOptions} {ending : Ending} {epi : Epilogue}
    (h : (ending.settled opts epi).err = none) : ending.err = none ∧ epi.save.isOk = true := by
  unfold Ending.settled at h
  dsimp only at h
  have hrelease : (((if opts.deferFlush then
      (if opts.completionFd then ending.unlessFailed epi.pipeWrite .completion .completionError
        else ending).unlessFailed epi.flushWait .flushWait .flushWaitError
      else if opts.completionFd then ending.unlessFailed epi.pipeWrite .completion .completionError
        else ending).named epi.save (fun _ => .csvWrite) .csvWriteError).named epi.release .release
      .cleanupError).err = none := by
    split at h
    · cases hstats : epi.stats with
      | ok _ => rw [hstats] at h; exact h
      | error errno => rw [hstats] at h; cases h
    · exact h
  obtain ⟨hflush, hsave⟩ := Ending.named_err (Ending.named_err hrelease).1
  refine ⟨?_, hsave⟩
  have hpipe : (if opts.completionFd then
      ending.unlessFailed epi.pipeWrite .completion .completionError else ending).err = none := by
    split at hflush
    · exact Ending.unlessFailed_err hflush
    · exact hflush
  split at hpipe
  · exact Ending.unlessFailed_err hpipe
  · exact hpipe

/-- What a process that started in `s₀` and failed leaves behind: a nonzero exit code, byte 1 on the
completion pipe, and, if the file could be written, the rows of the frames stored, in order, which
begin with those stored at any earlier point of the loop. -/
structure ReportsFailure (opts : ReceiverOptions) (s₀ : LoopState) (inputs : List LoopInput)
    (epi : Epilogue) (report : ExitReport) : Prop where
  exit : report.exitCode ≠ 0
  pipe : opts.completionFd = true → epi.pipeWrite.isOk = true → report.pipe = [1]
  rows : epi.save.isOk = true → ∃ rows, report.csv = some (saveUserRecords rows)
    ∧ rows.map XskUserRecord.id
        = (report.consumed.filterMap ConsumedFrame.offered).take opts.recordCapacity
    ∧ ∀ before after s, inputs = before ++ after → capturing opts s₀ before = some s →
        s.recv.records <+: rows

/-- A loop that ends with an error leaves a process that says so. -/
theorem finishCapture_fails {opts : ReceiverOptions} {s₀ s : LoopState} {ending : Ending}
    {inputs : List LoopInput} (epi : Epilogue) (h : LoopInv opts s₀) (hs : Stored opts s₀.consumed)
    (hrun : captureLoop opts s₀ inputs = some (s, ending)) (hfailed : ending.err ≠ none) :
    ReportsFailure opts s₀ inputs epi (finishCapture opts epi s ending) := by
  have hinv := (captureLoop_inv inputs h hs hrun).1
  have herr : (ending.captured (epi.signals.foldl onSignal s.stopSignal) epi).err ≠ none :=
    fun hnone => hfailed (Ending.captured_err hnone)
  refine ⟨?_, fun hfd hpipe => ?_, fun hsave => ⟨s.recv.records, if_pos hsave, hinv.records, ?_⟩⟩
  · dsimp only [finishCapture]
    rw [if_neg fun hnone => herr (Ending.settled_err hnone).1]
    decide
  · dsimp only [finishCapture]
    rw [if_pos ⟨hfd, hpipe⟩, if_neg herr]
  · intro before after s₁ hsplit hcap
    subst hsplit
    exact capturing_rows h hs hcap hrun

/-- **AF_XDP capture completeness.** If the process exits with code 0, the CSV has exactly one row
per consumed descriptor whose frame is an experiment packet to port 9002, in consumption order and
with the frame's flow, sequence and transmit time, and every received packet was recycled. The
iteration in which a timestamp cannot be read or a frame does not fit into the array is the last
one: the process ends with it, reports failure on the completion pipe and exits nonzero, and the
rows it saves are the frames stored, in order, beginning with those stored before. No process that
lost a frame ends in another way. -/
theorem capture_complete (opts : ReceiverOptions) (stopSignal : Option StopSignal)
    (inputs : List LoopInput) (epi : Epilogue) :
    (∀ report, captureProcess opts stopSignal inputs epi = some report → report.exitCode = 0 →
        ∃ rows, report.csv = some (saveUserRecords rows)
          ∧ rows.map XskUserRecord.id = report.consumed.filterMap ConsumedFrame.experiment
          ∧ report.recv.counters.receivedPackets = report.recv.counters.recycledFrames)
      ∧ (∀ s₀ before s input after, LoopState.start stopSignal = some s₀ →
          inputs = before ++ input :: after → capturing opts s₀ before = some s →
          (Lost opts (loopBody opts s input).state.consumed ∨ ∃ errno, input.now = .error errno) →
          ∃ report, captureProcess opts stopSignal inputs epi = some report
            ∧ report.consumed = (loopBody opts s input).state.consumed
            ∧ ReportsFailure opts s₀ inputs epi report)
      ∧ (∀ s₀ report, LoopState.start stopSignal = some s₀ →
          captureProcess opts stopSignal inputs epi = some report → Lost opts report.consumed →
          ReportsFailure opts s₀ inputs epi report) := by
  refine ⟨fun report h hexit => ?_, fun s₀ before s input after hstart hsplit hcap hfail => ?_,
    fun s₀ report hstart h hlost => ?_⟩
  · obtain ⟨s₀, hstart, hmap⟩ := Option.bind_eq_some_iff.mp h
    obtain ⟨⟨s, ending⟩, hrun, rfl⟩ := Option.map_eq_some_iff.mp hmap
    obtain ⟨hinv₀, hstored₀⟩ := start_inv hstart
    obtain ⟨hinv, -, hstored⟩ := captureLoop_inv inputs hinv₀ hstored₀ hrun
    have hsettled : ((ending.captured (epi.signals.foldl onSignal s.stopSignal) epi).settled opts
        epi).err = none := by
      by_contra herr
      dsimp only [finishCapture] at hexit
      rw [if_neg herr] at hexit
      cases hexit
    obtain ⟨hcaptured, hsave⟩ := Ending.settled_err hsettled
    obtain ⟨hclocks, hfits⟩ := hstored (Ending.captured_err hcaptured)
    refine ⟨s.recv.records, if_pos hsave, ?_, hinv.counted⟩
    rw [hinv.records, List.take_of_length_le hfits]
    refine List.filterMap_congr fun f hf => ?_
    obtain ⟨now, hnow⟩ := hclocks f hf
    rw [ConsumedFrame.offered, hnow]
  · obtain ⟨hinv₀, hstored₀⟩ := start_inv hstart
    obtain ⟨hinv, hstored⟩ := capturing_inv before hinv₀ hstored₀ hcap
    obtain ⟨s', ending, hstep, herr⟩ := loopBody_fails hinv hstored hfail
    have hrun : captureLoop opts s₀ inputs = some (s', ending) := by
      rw [hsplit, captureLoop_append before _ hcap, captureLoop, hstep]
    refine ⟨finishCapture opts epi s' ending, ?_, ?_,
      finishCapture_fails epi hinv₀ hstored₀ hrun herr⟩
    · rw [captureProcess, hstart, Option.bind_some, hrun]
      rfl
    · rw [hstep]
      rfl
  · obtain ⟨hinv₀, hstored₀⟩ := start_inv hstart
    rw [captureProcess, hstart, Option.bind_some] at h
    obtain ⟨⟨s, ending⟩, hrun, rfl⟩ := Option.map_eq_some_iff.mp h
    obtain ⟨-, -, hstored⟩ := captureLoop_inv inputs hinv₀ hstored₀ hrun
    exact finishCapture_fails epi hinv₀ hstored₀ hrun fun hnone =>
      hlost.not_stored (hstored hnone)

/-- The iteration in which one packet is delivered. -/
def oneFrameInput : LoopInput :=
  ⟨[], .ok 0, ⟨xskMem, 1, [xskUse.desc]⟩, fun _ => .ok (1000, 2000), .returned⟩

/-- Two iterations: the packet, then the receiver is stopped with an empty drain window. -/
def oneFrameInputs : List LoopInput :=
  [oneFrameInput,
    ⟨[.sigint], .ok 1, ⟨xskMem, 0, []⟩, fun _ => .ok (1000, 2000), .returned⟩]

def quietEpilogue : Epilogue := ⟨[], .ok 2, .ok (), .ok (), .ok (), .ok (), .ok ()⟩

/-- `main` with room for `capacity` records, a completion pipe and deferred flushing. -/
def oneFrameOptions (capacity : Nat) : ReceiverOptions := ⟨0, capacity, 0, true, true, false, true⟩

set_option maxRecDepth 100000 in
/-- With room for a record the packet is saved and the process ends well; without, its iteration is
the last one and the process reports the failure. -/
theorem capture_complete_one_frame :
    (∃ report rows,
      captureProcess (oneFrameOptions 8) none oneFrameInputs quietEpilogue = some report
        ∧ report.exitCode = 0 ∧ report.pipe = [0] ∧ report.csv = some (saveUserRecords rows)
        ∧ rows.map XskUserRecord.id = [⟨1, 7, 9⟩])
      ∧ ∃ report,
        captureProcess (oneFrameOptions 0) none oneFrameInputs quietEpilogue = some report
          ∧ report.exitCode ≠ 0 ∧ report.pipe = [1] ∧ report.csv = some (saveUserRecords []) := by
  refine ⟨?_, ?_⟩
  · have hsome : ((captureProcess (oneFrameOptions 8) none oneFrameInputs quietEpilogue).map
        fun r => (r.exitCode, r.pipe, r.consumed.filterMap ConsumedFrame.experiment))
          = some (0, [0], [⟨1, 7, 9⟩]) := by
      decide +kernel
    obtain ⟨report, hreport, heq⟩ := Option.map_eq_some_iff.mp hsome
    simp only [Prod.mk.injEq] at heq
    obtain ⟨hexit, hpipe, hframes⟩ := heq
    obtain ⟨rows, hcsv, hrows, _⟩ :=
      (capture_complete _ none oneFrameInputs quietEpilogue).1 report hreport hexit
    exact ⟨report, rows, hreport, hexit, hpipe, hcsv, by rw [hrows, hframes]⟩
  · obtain ⟨s₀, hstart⟩ : ∃ s₀, LoopState.start none = some s₀ := by
      rw [LoopState.start, fillInitialFrames_fresh]
      exact ⟨_, rfl⟩
    have hlost : ((LoopState.start none).map fun s₀ =>
        ((loopBody (oneFrameOptions 0) s₀ oneFrameInput).state.consumed.filterMap
          ConsumedFrame.offered).length) = some 1 := by
      decide +kernel
    rw [hstart, Option.map_some] at hlost
    have hroom : (oneFrameOptions 0).recordCapacity < ((loopBody (oneFrameOptions 0) s₀
        oneFrameInput).state.consumed.filterMap ConsumedFrame.offered).length := by
      rw [Option.some.inj hlost]
      decide
    obtain ⟨report, hreport, -, hfails⟩ :=
      (capture_complete (oneFrameOptions 0) none oneFrameInputs quietEpilogue).2.1 s₀ [] s₀ _ _
        hstart rfl rfl (.inl (.inr hroom))
    obtain ⟨rows, hcsv, hrows, -⟩ := hfails.rows rfl
    have hnone : rows = [] := List.map_eq_nil_iff.mp hrows
    exact ⟨report, hreport, hfails.exit, hfails.pipe rfl rfl, by rw [hcsv, hnone]⟩

end AceXdp
