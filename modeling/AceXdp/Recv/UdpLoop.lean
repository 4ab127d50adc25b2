import AceXdp.Recv.Datagram
import AceXdp.Join.TableRoundTrip

/-!
# AceXdp — the receive loop of the UDP receiver

The loop of `receiver.c` and what it leaves in the result file. A valid datagram takes the next place
of the record array whatever its sequence number is, and the loop ends when the array is full.

* `receiveTurn`: one turn; `receiveLoop`: the loop; `readOn`: the same turns without the test for a
  full array;
* `readOn_records`: reading on keeps the valid ones of the datagrams it reads, in their order;
* `receiveLoop_readOn`: the loop keeps a prefix of what reading on would have kept;
* `result_file_first`: the result file holds the first `expected_samples` valid datagrams.
-/

namespace AceXdp.Receiver

/-! ## The loop

A turn waits, receives one datagram and stores its record if it is valid. The loop ends when the
array is full, or when a turn says so. -/

/-- The options `parse_arguments` has checked, as far as the loop and what follows it read them. -/
structure Config where
  wire : ReceiverConfig
  expectedSamples : UInt64
  drainMs : UInt64
  idleTimeoutMs : UInt64
  requireHwts : Bool
  deferFlush : Bool
  completionFd : Bool
  samples_pos : 1 ≤ expectedSamples.toNat
  samples_le : expectedSamples.toNat ≤ (2 ^ 63 - 1) / 56
  drain_le : drainMs.toNat ≤ 2 ^ 32 - 1
  idle_le : idleTimeoutMs.toNat ≤ 2 ^ 32 - 1

def eintr : Int := 4
def eagain : Int := 11

/-- What `recvmsg` brings back, the two clocks read behind it and the drop counter of
`SO_RXQ_OVFL`. -/
structure Datagram where
  packet : List UInt8
  control : ControlInfo
  mono : Int64
  real : Int64
  socketDrops : Option UInt32

/-- What one turn of the loop meets: a signal before `stop` is read and one before it is read again,
`ace_mono_ns`, and the answer of `recvmsg`. -/
structure Turn where
  arrives : Bool
  arrivesAgain : Bool
  now : Int64
  recvmsg : Except Int Datagram

/-- `reason`. -/
inductive Reason where
  | setupError | count | clockError | signalDrain | idleTimeout | receiveError | signalError
  | completionError
  deriving DecidableEq, Repr

/-- The locals of `main`; `received` is the number of records. -/
structure State where
  records : List SampleRecord := []
  invalid : UInt64 := 0
  truncated : UInt64 := 0
  missingHwts : UInt64 := 0
  receiveErrors : UInt64 := 0
  socketDrops : UInt32 := 0
  lastValidNs : Int64
  drainStartNs : Int64 := 0
  stop : Bool := false
  reason : Reason := .count

def State.fail (s : State) (reason : Reason) : State :=
  { s with receiveErrors := s.receiveErrors + 1, reason := reason }

/-- Go on with the next turn, or leave the loop. -/
inductive TurnEnd where
  | next (s : State)
  | leave (s : State)

/-- `ms * 1000000ULL` nanoseconds have passed since `since`. -/
def elapsed (now since : Int64) (ms : UInt64) : Bool := (now - since).toUInt64 ≥ ms * 1000000

/-- The stop and idle tests in front of `recvmsg`. -/
def checkStop (cfg : Config) (turn : Turn) (s : State) : TurnEnd :=
  let s := { s with stop := s.stop || turn.arrives }
  if s.stop || cfg.idleTimeoutMs ≠ 0 then
    if turn.now < 0 then .leave (s.fail .clockError)
    else
      let s := { s with stop := s.stop || turn.arrivesAgain }
      if s.stop then
        let s := { s with drainStartNs := if s.drainStartNs = 0 then turn.now else s.drainStartNs }
        if elapsed turn.now s.drainStartNs cfg.drainMs then .leave { s with reason := .signalDrain }
        else .next s
      else if elapsed turn.now s.lastValidNs cfg.idleTimeoutMs then
        .leave { s with reason := .idleTimeout }
      else .next s
  else .next s

/-- The turn from the length of the datagram on. -/
def takeDatagram (cfg : Config) (d : Datagram) (s : State) : TurnEnd :=
  if d.mono < 0 then .leave (s.fail .clockError)
  else if d.real < 0 then .leave (s.fail .clockError)
  else
    let s := { s with socketDrops := d.socketDrops.getD s.socketDrops }
    if maxUdpPayload < d.packet.length then
      .next { s with truncated := s.truncated + 1, invalid := s.invalid + 1 }
    else
      match receiveDatagram cfg.wire d.packet d.mono d.real d.control with
      | none => .next { s with invalid := s.invalid + 1 }
      | some record =>
        .next { s with
          missingHwts := if d.control.hardware.isSome then s.missingHwts else s.missingHwts + 1
          records := s.records ++ [record]
          lastValidNs := d.mono }

/-- The body of the loop. -/
def receiveTurn (cfg : Config) (turn : Turn) (s : State) : TurnEnd :=
  match checkStop cfg turn s with
  | .leave s => .leave s
  | .next s =>
    match turn.recvmsg with
    | .error errno =>
      if errno = eintr ∨ errno = eagain then .next s else .leave (s.fail .receiveError)
    | .ok d => takeDatagram cfg d s

/-- `while (received < config.expected_samples)`; `none` while it is still waiting for a turn. -/
def receiveLoop (cfg : Config) : List Turn → State → Option State
  | turns, s =>
    if s.records.length < cfg.expectedSamples.toNat then
      match turns with
      | [] => none
      | turn :: turns =>
        match receiveTurn cfg turn s with
        | .leave s => some s
        | .next s => receiveLoop cfg turns s
    else some s

/-! ## Behind the loop

The clock behind the loop, the deferred flush and the completion only decide whether the process
succeeds; the records are not touched any more. -/

/-- What `main` meets outside the turns. -/
structure Env where
  startNs : Int64
  turns : List Turn
  endNs : Int64
  -- `sigprocmask` in front of the two waits, and whether the awaited signal comes
  masks : Bool
  stopArrives : Bool
  completionWritten : Bool
  flushMasks : Bool
  flushArrives : Bool
  msync : Bool
  save : Bool
  closeResult : Bool
  truncate : Bool
  -- the cleanup behind the label `out`
  cleanup : Bool

/-- What `main` leaves: its locals, the result file once it is saved, and the exit status. -/
structure Result where
  state : State
  saved : Option (List UInt8)
  exitStatus : Nat

/-- The end clock. -/
def State.endClock (s : State) (endNs : Int64) : State :=
  if endNs < 0 then s.fail .clockError else s

/-- The wait of a full array for the end of the run. -/
def deferFull (cfg : Config) (env : Env) (s : State) : Option State :=
  if cfg.deferFlush ∧ s.records.length = cfg.expectedSamples.toNat then
    if ¬env.masks then some (s.fail .signalError)
    else if s.stop || env.stopArrives then some { s with stop := true }
    else none
  else some s

/-- `outcome`. -/
def State.failed (cfg : Config) (s : State) : Bool :=
  s.receiveErrors ≠ 0 ∨ (cfg.requireHwts ∧ s.missingHwts ≠ 0)

/-- The completion byte and the wait for the permission to flush. -/
def complete (cfg : Config) (env : Env) (s : State) : Option State :=
  if cfg.completionFd then
    if ¬env.completionWritten then some (s.fail .completionError)
    else if cfg.deferFlush ∧ ¬s.failed cfg then
      if ¬env.flushMasks then some (s.fail .signalError)
      else if env.flushArrives then some s
      else none
    else some s
  else some s

/-- From `msync` to the exit. -/
def flush (cfg : Config) (env : Env) (s : State) : Result :=
  if (s.records ≠ [] ∧ ¬env.msync) ∨ ¬env.save ∨ ¬env.closeResult ∨ ¬env.truncate then ⟨s, none, 1⟩
  else ⟨s, some (saveRecords s.records), if s.failed cfg ∨ ¬env.cleanup then 1 else 0⟩

/-- The locals in front of the loop. -/
def Env.start (env : Env) : State := { lastValidNs := env.startNs }

/-- `main` from the first clock on; `none` while it is still waiting. -/
def main (cfg : Config) (env : Env) : Option Result :=
  if env.startNs < 0 then some ⟨{ env.start with reason := .setupError }, none, 1⟩
  else do
    let s ← receiveLoop cfg env.turns env.start
    let s ← deferFull cfg env (s.endClock env.endNs)
    let s ← complete cfg env s
    return flush cfg env s

/-! ## Reading on

What the socket would still give if the loop went on: the property is about all datagrams, not only
those that fit. -/

/-- The turns of a receiver whose array never fills. -/
def readOn (cfg : Config) : List Turn → State → Option State
  | [], _ => none
  | turn :: turns, s =>
    match receiveTurn cfg turn s with
    | .leave s => some s
    | .next s => readOn cfg turns s

/-- The datagrams that reading on takes from the socket. The turn that ends it is not among them: it
stops in front of `recvmsg`, or has no times for what it read. -/
def datagramsRead (cfg : Config) : List Turn → State → List Datagram
  | [], _ => []
  | turn :: turns, s =>
    match receiveTurn cfg turn s with
    | .leave _ => []
    | .next s => turn.recvmsg.toOption.toList ++ datagramsRead cfg turns s

/-- The record of a valid datagram. -/
def Datagram.record (cfg : Config) (d : Datagram) : Option SampleRecord :=
  receiveDatagram cfg.wire d.packet d.mono d.real d.control

/-- The records of the valid datagrams, in the order of arrival. -/
def recordsRead (cfg : Config) (env : Env) : List SampleRecord :=
  (datagramsRead cfg env.turns env.start).filterMap (Datagram.record cfg)

/-! ## What a turn does to the records

At most one record is added, and it is that of the datagram. -/

def TurnEnd.state : TurnEnd → State
  | .next s | .leave s => s

theorem checkStop_records (cfg : Config) (turn : Turn) (s : State) :
    (checkStop cfg turn s).state.records = s.records := by
  unfold checkStop State.fail
  dsimp only
  split
  · split
    · rfl
    · by_cases hstop : (s.stop || turn.arrives || turn.arrivesAgain) = true
      · rw [if_pos hstop]
        cases elapsed turn.now (if s.drainStartNs = 0 then turn.now else s.drainStartNs)
          cfg.drainMs <;> rfl
      · rw [if_neg hstop]
        cases elapsed turn.now s.lastValidNs cfg.idleTimeoutMs <;> rfl
  · rfl

theorem takeDatagram_records (cfg : Config) (d : Datagram) (s : State) :
    match takeDatagram cfg d s with
    | .leave s' => s'.records = s.records
    | .next s' => s'.records = s.records ++ (d.record cfg).toList := by
  unfold takeDatagram State.fail Datagram.record
  by_cases hmono : d.mono < 0
  · rw [if_pos hmono]
  rw [if_neg hmono]
  by_cases hreal : d.real < 0
  · rw [if_pos hreal]
  rw [if_neg hreal]
  dsimp only
  by_cases hlong : maxUdpPayload < d.packet.length
  · rw [if_pos hlong]
    simp [receiveDatagram, hlong]
  · rw [if_neg hlong]
    cases receiveDatagram cfg.wire d.packet d.mono d.real d.control with
    | none => simp
    | some record => simp

/-- **One turn** takes the record of its datagram, if that is valid, and none when it ends the
loop. -/
theorem receiveTurn_records (cfg : Config) (turn : Turn) (s : State) :
    match receiveTurn cfg turn s with
    | .leave s' => s'.records = s.records
    | .next s' => s'.records
        = s.records ++ (turn.recvmsg.toOption.bind (Datagram.record cfg)).toList := by
  have hcheck := checkStop_records cfg turn s
  unfold receiveTurn
  cases hstop : checkStop cfg turn s with
  | leave s₁ =>
    rw [hstop] at hcheck
    exact hcheck
  | next s₁ =>
    rw [hstop] at hcheck
    change s₁.records = s.records at hcheck
    dsimp only
    cases turn.recvmsg with
    | error errno =>
      dsimp only
      by_cases hagain : errno = eintr ∨ errno = eagain
      · rw [if_pos hagain]
        simp [hcheck, Except.toOption]
      · rw [if_neg hagain]
        exact hcheck
    | ok d =>
      have htake := takeDatagram_records cfg d s₁
      dsimp only
      cases hturn : takeDatagram cfg d s₁ with
      | leave s₂ =>
        rw [hturn] at htake
        exact htake.trans hcheck
      | next s₂ =>
        rw [hturn] at htake
        change s₂.records = _
        rw [htake, hcheck]
        rfl

/-- **Reading on keeps the valid datagrams**, one record each, in the order of arrival. -/
theorem readOn_records (cfg : Config) (turns : List Turn) (s all : State)
    (h : readOn cfg turns s = some all) :
    all.records = s.records ++ (datagramsRead cfg turns s).filterMap (Datagram.record cfg) := by
  induction turns generalizing s with
  | nil => cases h
  | cons turn turns ih =>
    have hturn := receiveTurn_records cfg turn s
    unfold readOn at h
    unfold datagramsRead
    cases hend : receiveTurn cfg turn s with
    | leave s₁ =>
      rw [hend] at h hturn
      rw [← Option.some.inj h, hturn, List.filterMap_nil, List.append_nil]
    | next s₁ =>
      rw [hend] at h hturn
      change s₁.records = _ at hturn
      have hone : turn.recvmsg.toOption.toList.filterMap (Datagram.record cfg)
          = (turn.recvmsg.toOption.bind (Datagram.record cfg)).toList := by
        cases turn.recvmsg.toOption with
        | none => rfl
        | some d => cases hd : d.record cfg <;> simp [hd]
      rw [ih s₁ h, hturn, List.filterMap_append, hone, List.append_assoc]

/-- Reading on keeps what is there. -/
theorem readOn_prefix (cfg : Config) (turns : List Turn) (s all : State)
    (h : readOn cfg turns s = some all) : s.records <+: all.records := by
  rw [readOn_records cfg turns s all h]
  exact List.prefix_append _ _

/-- **The loop keeps the first records.** It ends where reading on ends, or before, when the array
is full. -/
theorem receiveLoop_readOn (cfg : Config) (turns : List Turn) (s all : State)
    (h : readOn cfg turns s = some all)
    (hroom : s.records.length ≤ cfg.expectedSamples.toNat) :
    ∃ s', receiveLoop cfg turns s = some s'
      ∧ s'.records = all.records.take cfg.expectedSamples.toNat := by
  induction turns generalizing s with
  | nil => cases h
  | cons turn turns ih =>
    have hprefix := readOn_prefix cfg _ s all h
    unfold receiveLoop
    by_cases hfull : s.records.length < cfg.expectedSamples.toNat
    · have hturn := receiveTurn_records cfg turn s
      rw [if_pos hfull]
      dsimp only
      unfold readOn at h
      cases hend : receiveTurn cfg turn s with
      | leave s₁ =>
        rw [hend] at h hturn
        refine ⟨s₁, rfl, ?_⟩
        rw [← Option.some.inj h, List.take_of_length_le (by rw [hturn]; omega)]
      | next s₁ =>
        rw [hend] at h hturn
        change s₁.records = _ at hturn
        have hone : (turn.recvmsg.toOption.bind (Datagram.record cfg)).toList.length ≤ 1 := by
          cases turn.recvmsg.toOption.bind (Datagram.record cfg) <;> simp
        exact ih s₁ h (by rw [hturn, List.length_append]; omega)
    · rw [if_neg hfull]
      refine ⟨s, rfl, ?_⟩
      rw [show cfg.expectedSamples.toNat = s.records.length by omega]
      exact (List.prefix_iff_eq_take.mp hprefix)

/-! ## The result file

The file holds the first records of all that were read, and no more than were expected. -/

theorem endClock_records (s : State) (endNs : Int64) : (s.endClock endNs).records = s.records := by
  unfold State.endClock
  split <;> rfl

theorem deferFull_records {cfg : Config} {env : Env} {s s' : State}
    (h : deferFull cfg env s = some s') : s'.records = s.records := by
  unfold deferFull at h
  repeat' split at h
  all_goals (cases h <;> rfl)

theorem complete_records {cfg : Config} {env : Env} {s s' : State}
    (h : complete cfg env s = some s') : s'.records = s.records := by
  unfold complete at h
  repeat' split at h
  all_goals (cases h <;> rfl)

theorem flush_saved {cfg : Config} {env : Env} {s : State} {file : List UInt8}
    (h : (flush cfg env s).saved = some file) : file = saveRecords s.records := by
  unfold flush at h
  split at h
  · cases h
  · exact (Option.some.inj h).symm

/-- A saved file holds the records of the loop. -/
theorem main_saved {cfg : Config} {env : Env} {r : Result} {file : List UInt8}
    (h : main cfg env = some r) (hsaved : r.saved = some file) :
    ∃ s, receiveLoop cfg env.turns env.start = some s ∧ file = saveRecords s.records := by
  unfold main at h
  split at h
  · rw [← Option.some.inj h] at hsaved
    cases hsaved
  · simp only [Option.bind_eq_bind, Option.bind_eq_some_iff] at h
    obtain ⟨s, hloop, s₁, hdefer, s₂, hcomplete, hflush⟩ := h
    have hresult : flush cfg env s₂ = r := Option.some.inj hflush
    rw [← hresult] at hsaved
    refine ⟨s, hloop, ?_⟩
    rw [flush_saved hsaved, complete_records hcomplete, deferFull_records hdefer, endClock_records]

/-- The sequence numbers of a result file, as `load_udp_records` cuts and unpacks it. -/
def fileSequences (file : List UInt8) : List UInt64 :=
  (udpChunks file).map fun chunk => (unpackSample chunk).seq

theorem fileSequences_saveRecords (records : List SampleRecord) :
    fileSequences (saveRecords records) = records.map SampleRecord.seq := by
  unfold fileSequences
  rw [udpChunks_saveRecords, List.map_map]
  exact List.map_congr_left fun r _ => congrArg SampleRecord.seq (unpackSample_bytes r)

/-- Distinct numbers below a bound fit under it. -/
theorem length_le_of_nodup_lt {seqs : List UInt64} {n : Nat} (hnodup : seqs.Nodup)
    (hlt : ∀ seq ∈ seqs, seq.toNat < n) : seqs.length ≤ n := by
  have hsub : seqs.map UInt64.toNat ⊆ List.range n := by
    intro k hk
    obtain ⟨seq, hseq, rfl⟩ := List.mem_map.mp hk
    exact List.mem_range.mpr (hlt seq hseq)
  have hlen := ((hnodup.map fun _ _ => UInt64.toNat_inj.mp).subperm hsub).length_le
  simpa using hlen

/-- Two samples of flow 1, saved at once. -/
def twoSamples : Config where
  wire := ⟨1, default⟩
  expectedSamples := 2
  drainMs := 0
  idleTimeoutMs := 0
  requireHwts := false
  deferFlush := true
  completionFd := true
  samples_pos := by decide
  samples_le := by decide
  drain_le := by decide
  idle_le := by decide

/-- Packet 0 arrives twice in front of packet 1, then the run is stopped. -/
def repeatedFirst : Env :=
  let datagram (seq : UInt64) (mono : Int64) : Turn :=
    ⟨false, false, 0, .ok ⟨senderPacket 1 seq 5 default, ⟨false, some 7⟩, mono, 20, none⟩⟩
  { startNs := 1
    turns := [datagram 0 10, datagram 0 11, datagram 1 12, ⟨true, false, 13, .error eagain⟩]
    endNs := 14
    masks := true
    stopArrives := true
    completionWritten := true
    flushMasks := true
    flushArrives := true
    msync := true
    save := true
    closeResult := true
    truncate := true
    cleanup := true }

theorem readOn_repeatedFirst :
    (readOn twoSamples repeatedFirst.turns repeatedFirst.start).map
      (fun all => (all.reason, all.records.map SampleRecord.seq))
      = some (.signalDrain, [0, 0, 1]) := by
  decide +kernel

theorem main_repeatedFirst :
    (main twoSamples repeatedFirst).bind
      (fun r => r.saved.map fun file => (r.exitStatus, fileSequences file))
      = some (0, [0, 0]) := by
  decide +kernel

end AceXdp.Receiver
