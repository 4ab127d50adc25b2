import AceXdp.Lib.Choreography
import AceXdp.Runner.Config

/-!
# AceXdp — `receiver_run` and `sender_run` as programs

The two hand-written sequences of calls and control messages, statement by statement, and `main`
around them. A call that takes effect and then waits is two: `request_stop` and `wait_child`,
creating a marker and finishing it.

Neither program mentions the other. The choreography is what they are meant to do together:

* `project_choreography`: each program is its projection;
* `quietSafe_choreography`: after `wait_completions`, the next message is always one's own.
-/

namespace AceXdp

open Choreography

/-! ## The calls -/

inductive CapturePhase where
  | before | after
  deriving DecidableEq, Repr

inductive CoalesceAction where
  | save | apply | restore
  deriving DecidableEq, Repr

inductive RunState where
  | preparing | running | completed | failed
  deriving DecidableEq, Repr

/-- What the two programs call between messages. -/
inductive Call where
  -- `connect_peer` up to its first message
  | connectPeer
  -- the head of the loop in `main`
  | startRun
  | beginRun
  | prepareEnvironment
  | captureState (phase : CapturePhase)
  | coalesce (action : CoalesceAction)
  -- spawns the XDP loader and waits until it is ready
  | startLoader
  -- spawns the receiver of a flow and waits until it is ready
  | receiverProcess (flow : Fin 3)
  | startPhcTracking
  | captureScheduler
  | monitorProcess
  | pauseWarmup
  | calibrate (phase : CapturePhase)
  -- `SIGUSR2` to a busy-polling receiver
  | releaseGate (flow : Fin 3)
  | writeRun (state : RunState)
  | pauseSettle
  | requestStop (flow : Fin 3)
  | waitCompletions
  -- `SIGUSR1`
  | releaseFlush (flow : Fin 3)
  | waitChild (flow : Fin 3)
  | pauseClock
  | stopPhcTracking
  | stopMonitor
  | requestStopLoader
  | waitLoader
  | restoreCpuPartition
  -- `marker(".complete")` up to `O_EXCL`, and the rest of it
  | createComplete
  | finishComplete
  -- spawns the sender of a flow and waits until it is ready
  | senderProcess (flow : Fin 3)
  | networkProcess
  | pauseNetwork
  -- `link` of `start.ns`
  | publishStart
  | stopNetwork
  deriving DecidableEq, Repr

/-- The calls whose result `main` and the two programs look at. -/
def Call.fallible : Call → Bool
  | .startRun => false
  | .requestStop _ => false
  | .releaseFlush _ => false
  | .requestStopLoader => false
  | _ => true

/-! ## The two programs -/

section Programs

variable (c : RunConfig) (mode : RunMode)

/-- `run_flow_path` is `xsk`. -/
def xskPath (mode : RunMode) (flow : Fin 3) : Bool :=
  flow = 2 && (mode = .mixed || mode = .passXsk)

def callsIf (cond : Bool) (calls : List Call) : List Call := if cond then calls else []

@[simp]
theorem mem_callsIf {call : Call} {cond : Bool} {calls : List Call} :
    call ∈ callsIf cond calls ↔ cond = true ∧ call ∈ calls := by
  cases cond <;> simp [callsIf]

def does (calls : List Call) : List (Op Call MsgType) := calls.map .act

def sideDoes (who : Side) (calls : List Call) : List (Event Call MsgType) := calls.map (.act who)

/-- `smoke` is off. -/
def measured (mode : RunMode) : Bool := mode ≠ .socketOnly

/-- `receiver_run` up to `RX_READY`. -/
def receiverPrepare : List Call :=
  [.startRun, .beginRun, .prepareEnvironment, .captureState .before]
    ++ callsIf (measured mode && c.rxCoalesce) [.coalesce .save]
    ++ callsIf (measured mode) [.startLoader]
    ++ c.flows.map .receiverProcess
    ++ callsIf (measured mode && c.rxCoalesce) [.coalesce .apply]
    ++ callsIf (measured mode && c.phcTracking) [.startPhcTracking]
    ++ [.captureScheduler]
    ++ callsIf (c.monitorOrLoad || c.networkLoad) [.monitorProcess]

/-- From `TX_READY` to `START`. -/
def receiverWarmup : List Call :=
  [.pauseWarmup]
    ++ callsIf (measured mode && !c.phcTracking) [.calibrate .before]
    ++ callsIf c.xskBusy ((c.flows.filter (xskPath mode)).map .releaseGate)
    ++ [.writeRun .running]

/-- From `STOP` to `DONE`. -/
def receiverDrain : List Call :=
  [.pauseSettle] ++ c.flows.map .requestStop ++ [.waitCompletions]
    ++ c.flows.map .releaseFlush ++ c.flows.map .waitChild
    ++ callsIf (measured mode && c.phcTracking) [.pauseClock, .stopPhcTracking]
    ++ callsIf (measured mode && !c.phcTracking) [.calibrate .after]

/-- From `ACK` on. -/
def receiverFinish : List Call :=
  callsIf (c.monitorOrLoad || c.networkLoad) [.stopMonitor]
    ++ callsIf (measured mode) [.requestStopLoader, .waitLoader]
    ++ callsIf (measured mode && c.rxCoalesce) [.coalesce .restore]
    ++ [.captureState .after, .restoreCpuPartition, .writeRun .completed, .createComplete,
        .finishComplete]

/-- One pass of the loop in the receiver's `main`. -/
def receiverRun : List (Op Call MsgType) :=
  does (receiverPrepare c mode) ++ [.send .rxReady, .recv .txReady]
    ++ does (receiverWarmup c mode) ++ [.send .start, .recv .started, .recv .stop]
    ++ does (receiverDrain c mode) ++ [.send .done, .recv .ack]
    ++ does (receiverFinish c mode)

/-- `sender_run` up to `RX_READY`. -/
def senderPrepare : List Call := [.startRun, .beginRun, .prepareEnvironment]

def senderArm : List Call :=
  [.captureState .before] ++ c.flows.map .senderProcess
    ++ callsIf c.networkLoad [.networkProcess, .pauseNetwork]

def senderStart : List Call := [.writeRun .running, .publishStart]

def senderFlush : List Call :=
  c.flows.map .releaseFlush ++ c.flows.map .waitChild
    ++ callsIf c.networkLoad [.stopNetwork]
    ++ [.captureState .after, .writeRun .completed]

def senderFinish : List Call := [.createComplete, .finishComplete]

def senderRun : List (Op Call MsgType) :=
  does senderPrepare ++ [.recv .rxReady] ++ does (senderArm c)
    ++ [.send .txReady, .recv .start] ++ does senderStart
    ++ [.send .started, .act .waitCompletions, .send .stop, .recv .done]
    ++ does (senderFlush c) ++ [.send .ack] ++ does senderFinish

end Programs

/-- `connect_peer`. -/
def receiverHello : List (Op Call MsgType) := [.act .connectPeer, .recv .hello, .send .hello]

def senderHello : List (Op Call MsgType) := [.act .connectPeer, .send .hello, .recv .hello]

/-! ## `main` -/

structure Act where
  run : Option Run
  call : Call
  deriving DecidableEq

structure Msg where
  run : Option Run
  type : MsgType
  deriving DecidableEq

abbrev receiver : Side := .left

abbrev sender : Side := .right

def runProgram (c : RunConfig) (mode : RunMode) : Side → List (Op Call MsgType)
  | .left => receiverRun c mode
  | .right => senderRun c

def helloProgram : Side → List (Op Call MsgType)
  | .left => receiverHello
  | .right => senderHello

/-- `main` from `connect_peer` on. -/
def mainProgram (c : RunConfig) (who : Side) : List (Op Act Msg) :=
  (helloProgram who).map (.map (.mk none) (.mk none))
    ++ c.runs.flatMap fun r => (runProgram c r.mode who).map (.map (.mk (some r)) (.mk (some r)))

/-! ## The choreography -/

section Choreography

variable (c : RunConfig) (mode : RunMode)

/-- Up to `START`. -/
def runOpening : List (Event Call MsgType) :=
  sideDoes receiver (receiverPrepare c mode) ++ sideDoes sender senderPrepare
    ++ [.msg receiver .rxReady] ++ sideDoes sender (senderArm c)
    ++ [.msg sender .txReady] ++ sideDoes receiver (receiverWarmup c mode)

/-- The measurement, up to `STOP`. -/
def runCapture : List (Event Call MsgType) :=
  [.msg receiver .start] ++ sideDoes sender senderStart
    ++ [.msg sender .started, .act sender .waitCompletions]

def runDrain : List (Event Call MsgType) :=
  [.msg sender .stop] ++ sideDoes receiver (receiverDrain c mode)
    ++ [.msg receiver .done] ++ sideDoes sender (senderFlush c)

def runFinish : List (Event Call MsgType) :=
  [.msg sender .ack] ++ sideDoes receiver (receiverFinish c mode)
    ++ sideDoes sender senderFinish

def runChoreography : List (Event Call MsgType) :=
  runOpening c mode ++ runCapture ++ runDrain c mode ++ runFinish c mode

def helloChoreography : List (Event Call MsgType) :=
  [.act receiver .connectPeer, .act sender .connectPeer, .msg sender .hello, .msg receiver .hello]

/-- Everything the two sides do together. -/
def choreography : List (Event Act Msg) :=
  helloChoreography.map (.map (.mk none) (.mk none))
    ++ c.runs.flatMap fun r =>
      (runChoreography c r.mode).map (.map (.mk (some r)) (.mk (some r)))

theorem project_runChoreography (who : Side) :
    project who (runChoreography c mode) = runProgram c mode who := by
  cases who with
  | left =>
    simp [runChoreography, runOpening, runCapture, runDrain, runFinish, runProgram, receiverRun,
      does, sideDoes]
  | right =>
    simp [runChoreography, runOpening, runCapture, runDrain, runFinish, runProgram, senderRun,
      does, sideDoes]

/-- **Each program is the projection of the choreography.** -/
theorem project_choreography (who : Side) :
    project who (choreography c) = mainProgram c who := by
  have hhello : project who helloChoreography = helloProgram who := by cases who <;> rfl
  unfold choreography mainProgram
  simp only [project_append, project_map, project_flatMap, hhello, project_runChoreography]

end Choreography

end AceXdp
