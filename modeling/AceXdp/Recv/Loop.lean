import AceXdp.Export
import AceXdp.Recv.Records

/-!
# AceXdp — the capture loop of `afxdp_recv` and its exit

`main` from the first `ace_mono_ns` of the loop to the exit code: peek before poll, one fixed
drain window after the first stop signal, then the completion byte, the flush wait, the CSV, the
queue ownership and the statistics file. Whatever the process is told from outside (clocks,
signals, the kernel's end of the rings, `poll`, the results of writes) is an input. Times are far
below the range of `int64_t`.
-/

namespace AceXdp

/-! ## The drain window -/

/-- `struct ace_xsk_drain`. -/
structure XskDrain where
  active : Bool := false
  deadlineNs : Int := 0

def xskDrainBegin (drain : XskDrain) (nowNs : Int) (durationMs : Nat) : XskDrain :=
  if drain.active then drain else ⟨true, nowNs + durationMs * 1000000⟩

def xskDrainPollMs (drain : XskDrain) (nowNs : Int) : Int :=
  if ¬drain.active then 1000
  else
    let remaining := drain.deadlineNs - nowNs
    if remaining ≤ 0 then -1
    else if remaining ≥ 1000000000 then 1000
    else (remaining + 999999) / 1000000

/-! ## Inputs -/

/-- The options the loop and the code after it read. -/
structure ReceiverOptions where
  queueId : UInt32
  recordCapacity : Nat
  drainMs : Nat
  -- `--completion-fd` was given
  completionFd : Bool
  deferFlush : Bool
  busyPoll : Bool
  -- `--stats` was given
  statsPath : Bool

/-- The signals `on_signal` is installed for. -/
inductive StopSignal where
  | sigint | sigterm | sigalrm
  deriving DecidableEq, Repr

/-- `on_signal`: the first signal is remembered. `none` is `stop = 0`. -/
def onSignal (stopSignal : Option StopSignal) (signo : StopSignal) : Option StopSignal :=
  stopSignal.or (some signo)

/-- The kernel's end of the rings since the last call. -/
structure KernelWork where
  mem : Nat → UInt8
  taken : Nat
  delivered : List XdpDesc

def KernelWork.apply (w : KernelWork) (s : RecvState) : RecvState :=
  { s with mem := w.mem, fill := s.fill.drop w.taken, rx := s.rx ++ w.delivered }

inductive PollOutcome where
  | interrupted
  | failed (errno : Int)
  -- a timeout, or descriptors to read
  | returned
  -- `POLLERR`, `POLLHUP` or `POLLNVAL`, with what `getsockopt(SO_ERROR)` says
  | broken (soError : Except Int Int)

/-- What one iteration sees. Signals are those handled before it tests `stop`. -/
structure LoopInput where
  signals : List StopSignal
  now : Except Int Int
  kernel : KernelWork
  clock : Nat → Except Int (UInt64 × Int64)
  poll : PollOutcome

/-! ## The loop -/

/-- The places that set `err`. -/
inductive CaptureError where
  | clock (errno : Int)
  | batch (err : BatchError)
  | poll (errno : Int)
  | socket (errno : Int)
  | timedOut
  | completion (errno : Int)
  | flushWait (errno : Int)
  | csvWrite
  | release (errno : Int)
  | stats
  deriving DecidableEq, Repr

inductive TerminationReason where
  | signal | clockError | recordOverflow | receiveError | pollError | socketError | busyTimeout
  | completionError | flushWaitError | csvWriteError | cleanupError
  deriving DecidableEq, Repr

/-- `err` and `termination_reason`; `none` is `err = 0`. -/
structure Ending where
  err : Option CaptureError
  reason : TerminationReason
  deriving DecidableEq, Repr

/-- A consumed RX entry: the packet in UMEM when the call began, its length and its clocks. -/
structure ConsumedFrame where
  packet : Nat → UInt8
  length : Nat
  clock : Except Int (UInt64 × Int64)

/-- The frames a call of `receive_batch` consumes, in order. -/
def consumedFrames (env : BatchEnv) (s : RecvState) : List ConsumedFrame :=
  (s.rx.take (consumedCount env s)).zipIdx.map fun (desc, i) =>
    ⟨packetView s.mem desc.dataAddr, desc.len.toNat, env.clock i⟩

/-- The locals of the loop. `consumed` is a ghost: the RX entries released so far. -/
structure LoopState where
  recv : RecvState
  stopSignal : Option StopSignal
  drain : XskDrain := {}
  receivedAtStop : Nat := 0
  consumed : List ConsumedFrame := []

inductive LoopStep where
  | again (s : LoopState)
  | done (s : LoopState) (ending : Ending)

/-- `SO_ERROR`, or why it could not be read; `EIO` when it says nothing. -/
def socketError : Except Int Int → Int
  | .error errno => errno
  | .ok e => if e = 0 then 5 else e

/-- The tail of an iteration: `poll`, unless the loop spins. -/
def waitForPackets (opts : ReceiverOptions) (s : LoopState) (poll : PollOutcome) : LoopStep :=
  if ¬s.drain.active ∧ opts.busyPoll then .again s
  else match poll with
    | .interrupted => .again s
    | .failed errno => .done s ⟨some (.poll errno), .pollError⟩
    | .returned => .again s
    | .broken soError => .done s ⟨some (.socket (socketError soError)), .socketError⟩

/-- The middle of an iteration: `receive_batch`. -/
def receivePackets (opts : ReceiverOptions) (s : LoopState) (input : LoopInput) : LoopStep :=
  let env : BatchEnv := ⟨opts.queueId, opts.recordCapacity, input.clock⟩
  let recv := input.kernel.apply s.recv
  let s := { s with
    recv := (receiveBatch env recv).1
    consumed := s.consumed ++ consumedFrames env recv }
  match (receiveBatch env recv).2 with
  | .error err => .done s ⟨some (.batch err),
      if s.recv.counters.recordOverflowPackets ≠ 0 then .recordOverflow else .receiveError⟩
  | .ok received => if received ≠ 0 then .again s else waitForPackets opts s input.poll

def LoopState.onSignals (s : LoopState) (signals : List StopSignal) : LoopState :=
  { s with stopSignal := signals.foldl onSignal s.stopSignal }

/-- `if (stop && !drain.active)`. -/
def LoopState.beginDrain (opts : ReceiverOptions) (s : LoopState) (now : Int) : LoopState :=
  if s.stopSignal.isSome ∧ ¬s.drain.active then
    { s with
      receivedAtStop := s.recv.counters.receivedPackets
      drain := xskDrainBegin s.drain now opts.drainMs }
  else s

/-- One iteration. -/
def loopBody (opts : ReceiverOptions) (s : LoopState) (input : LoopInput) : LoopStep :=
  let s := s.onSignals input.signals
  match input.now with
  | .error errno => .done s ⟨some (.clock errno), .clockError⟩
  | .ok now =>
    let s := s.beginDrain opts now
    if xskDrainPollMs s.drain now < 0 then .done s ⟨none, .signal⟩
    else receivePackets opts s input

/-- The loop; `none` while it has not ended. -/
def captureLoop (opts : ReceiverOptions) (s : LoopState) :
    List LoopInput → Option (LoopState × Ending)
  | [] => none
  | input :: rest =>
    match loopBody opts s input with
    | .again s => captureLoop opts s rest
    | .done s ending => some (s, ending)

/-- The state of a loop that has not ended yet. -/
def capturing (opts : ReceiverOptions) (s : LoopState) : List LoopInput → Option LoopState
  | [] => some s
  | input :: rest =>
    match loopBody opts s input with
    | .again s => capturing opts s rest
    | .done _ _ => none

/-! ## After the loop -/

/-- The results the code after the loop gets. `pipeWrite` is the completion write once it is no
longer interrupted. -/
structure Epilogue where
  signals : List StopSignal
  endNow : Except Int Int
  pipeWrite : Except Int Unit
  flushWait : Except Int Unit
  save : Except Int Unit
  release : Except Int Unit
  stats : Except Int Unit

/-- `if (failed && !err)`. -/
def Ending.unlessFailed {α : Type} (ending : Ending) (result : Except Int α)
    (err : Int → CaptureError) (reason : TerminationReason) : Ending :=
  match result with
  | .ok _ => ending
  | .error errno => if ending.err = none then ⟨some (err errno), reason⟩ else ending

/-- A failure that always names the reason and keeps an earlier error. -/
def Ending.named (ending : Ending) (result : Except Int Unit) (err : Int → CaptureError)
    (reason : TerminationReason) : Ending :=
  match result with
  | .ok _ => ending
  | .error errno => ⟨ending.err.or (some (err errno)), reason⟩

/-- `err` up to the completion byte: a busy timeout replaces any other end. -/
def Ending.captured (ending : Ending) (stopSignal : Option StopSignal) (epi : Epilogue) : Ending :=
  let ending := if stopSignal = some .sigalrm then ⟨some .timedOut, .busyTimeout⟩ else ending
  ending.unlessFailed epi.endNow .clock .clockError

/-- The rest of `main`. The descriptor of the pipe is closed by the first notification, so the one
behind `out:` does nothing here. -/
def Ending.settled (opts : ReceiverOptions) (ending : Ending) (epi : Epilogue) : Ending :=
  let ending :=
    if opts.completionFd then ending.unlessFailed epi.pipeWrite .completion .completionError
    else ending
  let ending :=
    if opts.deferFlush then ending.unlessFailed epi.flushWait .flushWait .flushWaitError else ending
  let ending := ending.named epi.save (fun _ => .csvWrite) .csvWriteError
  let ending := ending.named epi.release .release .cleanupError
  if opts.statsPath then
    match epi.stats with
    | .ok _ => ending
    | .error _ => { ending with err := some .stats }
  else ending

/-- What is left of the process. `csv` is the output file once it is completely written; after a
failed save nothing is known of it. -/
structure ExitReport where
  exitCode : Nat
  reason : TerminationReason
  pipe : List UInt8
  csv : Option (List Char)
  recv : RecvState
  consumed : List ConsumedFrame

def finishCapture (opts : ReceiverOptions) (epi : Epilogue) (s : LoopState) (ending : Ending) :
    ExitReport :=
  let stopSignal := epi.signals.foldl onSignal s.stopSignal
  let captured := ending.captured stopSignal epi
  let settled := captured.settled opts epi
  { exitCode := if settled.err = none then 0 else 1
    reason := settled.reason
    pipe := if opts.completionFd ∧ epi.pipeWrite.isOk then [if captured.err = none then 0 else 1]
      else []
    csv := if epi.save.isOk then some (saveUserRecords s.recv.records) else none
    recv := s.recv
    consumed := s.consumed }

/-- The loop starts from the state `fill_initial_frames` leaves. A receiver that waited for its
start signal may have been stopped before. -/
def LoopState.start (stopSignal : Option StopSignal) : Option LoopState :=
  (fillInitialFrames RecvState.fresh).map fun recv => { recv, stopSignal }

/-- The process from the loop on; `none` while the loop has not ended. -/
def captureProcess (opts : ReceiverOptions) (stopSignal : Option StopSignal)
    (inputs : List LoopInput) (epi : Epilogue) : Option ExitReport :=
  (LoopState.start stopSignal).bind fun s =>
    (captureLoop opts s inputs).map fun (s, ending) => finishCapture opts epi s ending

end AceXdp
