import AceXdp.Lib.Framing
import AceXdp.Lib.Transition
import AceXdp.Runner.Order

/-!
# AceXdp — the two runners over their control connection

`ace-run receiver` and `ace-run sender`, each at its own pace, over a byte stream in each
direction. A frame leaves in as many `send`s as the socket likes and is read once all of it is
there; `wait_completions` polls the socket while flows are outstanding; anything can fail at any
call, after which `main` writes `FAIL`, possibly behind a torn frame, and cleans up; and either
side can be killed at any time. `Runner.ControlSafety` proves what holds of every interleaving.
-/

namespace AceXdp

open Choreography Transition Transition.System

/-! ## A side -/

/-- Where a side is within an operation. -/
inductive Phase where
  | ready
  -- in `transfer`, with what the socket has not taken yet
  | sending (rest : List UInt8)
  -- in `wait_completions`, with the flows that have not reported
  | polling (pending : List (Fin 3))
  -- after a failure, writing `FAIL`
  | failing (rest : List UInt8)
  -- `cleanup_children` and the failure marker
  | cleanup
  | closed
  deriving DecidableEq, Repr

/-- `struct context`, what is left of the program, and the record of what was done. -/
structure Party where
  todo : List (Op Act Msg)
  phase : Phase
  nonce : List UInt8
  -- every byte the socket has taken
  wire : List UInt8
  -- the messages it began to write
  begun : List Msg
  -- the messages it read and accepted
  accepted : List Msg
  done : List Act
  -- the completion bytes 0 it read
  reported : List (Option Run × Fin 3)
  deriving DecidableEq

/-- `x->index` and `x->run_id` where a message is written or expected. -/
def Msg.label (c : RunConfig) (m : Msg) : MsgLabel :=
  match m.run with
  | none => ⟨m.type, 0, c.caseId⟩
  | some r => ⟨m.type, r.index, r.runId⟩

/-- The runs it has gone through, the current one last. -/
def startedRuns (done : List Act) : List Run :=
  done.filterMap fun a => if a.call = .startRun then a.run else none

namespace Party

def started (p : Party) : List Run := startedRuns p.done

/-- The call returns 0. -/
def finishCall (p : Party) (a : Act) (ops : List (Op Act Msg)) : Party :=
  { p with todo := ops, phase := .ready, done := p.done ++ [a] }

/-- `message(x, type, 1, …)` fills its frame. -/
def beginSend (c : RunConfig) (p : Party) (m : Msg) (ops : List (Op Act Msg)) : Party :=
  { p with
    todo := ops
    phase := .sending (messageFrame c.digest p.nonce (m.label c)).bytes
    begun := p.begun ++ [m] }

/-- `message(x, type, 0, …)` accepts. -/
def accept (p : Party) (m : Msg) (ops : List (Op Act Msg)) (nonce : List UInt8) : Party :=
  { p with todo := ops, nonce := nonce, accepted := p.accepted ++ [m] }

/-- `main` after a failure: in a run it writes `FAIL`, in `connect_peer` it just closes. -/
def fail (c : RunConfig) (p : Party) : Party :=
  match p.started.getLast? with
  | none => { p with phase := .closed }
  | some r =>
    { p with
      phase := .failing (messageFrame c.digest p.nonce (Msg.label c ⟨some r, .fail⟩)).bytes }

/-- Whether what it is doing can return an error. -/
def canFail (p : Party) : Bool :=
  match p.phase, p.todo with
  | .ready, .act a :: _ => a.call.fallible
  | .ready, .recv _ :: _ => true
  | .sending rest, _ => rest ≠ []
  | .polling _, _ => true
  | _, _ => false

def Finished (p : Party) : Prop := p.phase = .closed ∧ p.todo = []

end Party

/-! ## The two sides -/

abbrev ControlState := Side → Party

/-- `x->nonce` as `main` clears it. -/
def zeroNonce : List UInt8 := List.replicate 16 0

/-- Before `connect_peer`; `nonce` is what `getrandom` will give the receiver. -/
def ControlState.initial (config : Side → RunConfig) (nonce : List UInt8) : ControlState :=
  fun who =>
    { todo := mainProgram (config who) who
      phase := .ready
      nonce := if who = receiver then nonce else zeroNonce
      wire := [], begun := [], accepted := [], done := [], reported := [] }

/-- The next frame in the peer's stream, once all of it is there. -/
def ControlState.nextFrame (s : ControlState) (who : Side) : Option Frame :=
  let k := (s who).accepted.length
  if wireSize * (k + 1) ≤ (s who.other).wire.length then
    some (decodeFrame (Framing.block wireSize k (s who.other).wire))
  else none

/-- Steps by what they tell a side: it went on; a call failed, a signal or a timeout came, or it
was killed; it saw something else than the frame it expected; or `wait_completions` saw the
control socket readable. -/
inductive ControlAction where
  | progress | fault | unexpected | peerBytes
  deriving DecidableEq, Repr

inductive ControlStep (config : Side → RunConfig) (who : Side) :
    ControlState → ControlAction → ControlState → Prop where
  | call {s : ControlState} {a : Act} {ops : List (Op Act Msg)}
      (hphase : (s who).phase = .ready) (htodo : (s who).todo = .act a :: ops)
      (hcall : ¬ a.call.polls) :
      ControlStep config who s .progress (Function.update s who ((s who).finishCall a ops))
  | sendBegin {s : ControlState} {m : Msg} {ops : List (Op Act Msg)}
      (hphase : (s who).phase = .ready) (htodo : (s who).todo = .send m :: ops) :
      ControlStep config who s .progress
        (Function.update s who ((s who).beginSend (config who) m ops))
  -- `send` takes some of the bytes
  | transmit {s : ControlState} {rest : List UInt8} (n : Nat)
      (hphase : (s who).phase = .sending rest) (hn : 0 < n ∧ n ≤ rest.length) :
      ControlStep config who s .progress
        (Function.update s who
          { s who with phase := .sending (rest.drop n), wire := (s who).wire ++ rest.take n })
  | sendReturn {s : ControlState} (hphase : (s who).phase = .sending []) :
      ControlStep config who s .progress
        (Function.update s who { s who with phase := .ready })
  -- `send` on a connection the peer has closed
  | reset {s : ControlState} {rest : List UInt8} (hphase : (s who).phase = .sending rest)
      (hrest : rest ≠ []) (hpeer : (s who.other).phase = .closed) :
      ControlStep config who s .unexpected
        (Function.update s who ((s who).fail (config who)))
  | receive {s : ControlState} {m : Msg} {ops : List (Op Act Msg)} {f : Frame}
      {nonce : List UInt8} (hphase : (s who).phase = .ready)
      (htodo : (s who).todo = .recv m :: ops) (hframe : s.nextFrame who = some f)
      (hcheck : messageCheck (who = receiver) (config who).digest (s who).nonce
        (m.label (config who)) f = some nonce) :
      ControlStep config who s .progress
        (Function.update s who ((s who).accept m ops nonce))
  | reject {s : ControlState} {m : Msg} {ops : List (Op Act Msg)} {f : Frame}
      (hphase : (s who).phase = .ready) (htodo : (s who).todo = .recv m :: ops)
      (hframe : s.nextFrame who = some f)
      (hcheck : messageCheck (who = receiver) (config who).digest (s who).nonce
        (m.label (config who)) f = none) :
      ControlStep config who s .unexpected
        (Function.update s who ((s who).fail (config who)))
  -- `recv` returns 0 before the frame is whole
  | eof {s : ControlState} {m : Msg} {ops : List (Op Act Msg)}
      (hphase : (s who).phase = .ready) (htodo : (s who).todo = .recv m :: ops)
      (hframe : s.nextFrame who = none) (hpeer : (s who.other).phase = .closed) :
      ControlStep config who s .unexpected
        (Function.update s who ((s who).fail (config who)))
  | pollBegin {s : ControlState} {a : Act} {ops : List (Op Act Msg)}
      (hphase : (s who).phase = .ready) (htodo : (s who).todo = .act a :: ops)
      (hcall : a.call.polls) :
      ControlStep config who s .progress
        (Function.update s who { s who with phase := .polling (config who).flows })
  -- A completion pipe has the byte 0
  | report {s : ControlState} {a : Act} {ops : List (Op Act Msg)} {pending : List (Fin 3)}
      {flow : Fin 3} (hphase : (s who).phase = .polling pending)
      (htodo : (s who).todo = .act a :: ops) (hflow : flow ∈ pending) :
      ControlStep config who s .progress
        (Function.update s who
          { s who with
            phase := .polling (pending.erase flow)
            reported := (s who).reported ++ [(a.run, flow)] })
  | pollReturn {s : ControlState} {a : Act} {ops : List (Op Act Msg)}
      (hphase : (s who).phase = .polling []) (htodo : (s who).todo = .act a :: ops) :
      ControlStep config who s .progress (Function.update s who ((s who).finishCall a ops))
  -- `p[0].revents`: bytes from the peer, or the end of its stream
  | peerBytes {s : ControlState} {a : Act} {ops : List (Op Act Msg)} {pending : List (Fin 3)}
      (hphase : (s who).phase = .polling pending) (htodo : (s who).todo = .act a :: ops)
      (hpending : pending ≠ [])
      (hpeer : wireSize * (s who).accepted.length < (s who.other).wire.length
        ∨ (s who.other).phase = .closed) :
      ControlStep config who s .peerBytes
        (Function.update s who ((s who).fail (config who)))
  | fault {s : ControlState} (hfail : (s who).canFail) :
      ControlStep config who s .fault (Function.update s who ((s who).fail (config who)))
  | failTransmit {s : ControlState} {rest : List UInt8} (n : Nat)
      (hphase : (s who).phase = .failing rest) (hn : n ≤ rest.length) :
      ControlStep config who s .progress
        (Function.update s who
          { s who with phase := .failing (rest.drop n), wire := (s who).wire ++ rest.take n })
  -- the result of writing `FAIL` is ignored
  | failReturn {s : ControlState} {rest : List UInt8} (hphase : (s who).phase = .failing rest) :
      ControlStep config who s .progress
        (Function.update s who { s who with phase := .cleanup })
  | cleanup {s : ControlState} (hphase : (s who).phase = .cleanup) :
      ControlStep config who s .progress
        (Function.update s who { s who with phase := .closed })
  -- `SIGKILL`, or the host goes away
  | kill {s : ControlState} :
      ControlStep config who s .fault (Function.update s who { s who with phase := .closed })
  | finish {s : ControlState} (hphase : (s who).phase = .ready) (htodo : (s who).todo = []) :
      ControlStep config who s .progress
        (Function.update s who { s who with phase := .closed })

/-- All interleavings, with failures anywhere. -/
def control (config : Side → RunConfig) : System ControlState ControlAction where
  init s := ∃ nonce, nonce.length = 16 ∧ s = ControlState.initial config nonce
  step s a s' := ∃ who, ControlStep config who s a s'

/-- The interleavings in which no call fails, no signal comes and nothing times out. -/
def faultless (config : Side → RunConfig) : System ControlState ControlAction where
  init := (control config).init
  step s a s' := (control config).step s a s' ∧ a ≠ .fault

end AceXdp
