import AceXdp.Lib.Transition
import Mathlib.Data.List.Basic

/-!
# AceXdp — the receive path of the macb driver

`gem_rx` of the patched driver on one queue: the NIC completes prepared descriptors, a NAPI poll
takes them one by one, and `gem_rx_refill` puts new buffers into the ring at the end of the poll.
With an XDP program attached a frame has to fit one descriptor; the descriptors of any other frame
are discarded, in a state of the queue that outlives the poll.

A buffer is a fragment of a page of the pool, named by a number. Pad, headroom and metadata decide
where in the buffer the frame lies, not who owns it, and are left out; so are the checksum, the
timestamp and the device's own copy of the drop counter.
-/

namespace AceXdp.Macb

open Transition

/-! ## The queue -/

/-- `rx_ring_size`, `rx_buffer_size`, `rx_ip_align` and `ARRAY_SIZE(shinfo->frags)`. -/
structure RxConfig where
  ringSize : Nat
  ringPos : 0 < ringSize
  bufferSize : Nat
  ipAlign : Nat
  maxFrags : Nat

/-- The length of an skb and its buffers, the head first. -/
structure Skb where
  len : Nat
  buffers : List Nat
  deriving DecidableEq, Repr

/-- `struct macb_queue`: the ring with its two counters, the frame that is being put together, the
discard state and the statistics. -/
structure RxQueue (cfg : RxConfig) where
  rxTail : Nat
  rxPreparedHead : Nat
  rxBuff : Vector (Option Nat) cfg.ringSize
  skb : Option Skb
  xdpRxDropMultidesc : Bool
  rxPackets : Nat
  rxBytes : Nat
  rxDropped : Nat
  rxXdpMultidescDrops : Nat
  deriving DecidableEq

/-- `macb_rx_ring_wrap`. -/
def RxConfig.entry (cfg : RxConfig) (index : Nat) : Fin cfg.ringSize :=
  ⟨index % cfg.ringSize, Nat.mod_lt _ cfg.ringPos⟩

/-- What happens to buffers: they are taken from the pool, put back, freed with an skb (which puts
them back too), given to the stack with an skb, or handed over by a redirect or `XDP_TX`. -/
inductive RxEffect where
  | take (buffer : Nat)
  | put (buffer : Nat)
  | freeSkb (buffers : List Nat)
  | deliver (buffers : List Nat)
  | handOver (buffer : Nat)
  deriving DecidableEq, Repr

/-- What `gem_rx` does with a descriptor: it finds no buffer there, discards it, or passes it on. -/
inductive RxFate where
  | missing
  | discarded
  | processed
  deriving DecidableEq, Repr

/-- `RX_SOF`, `RX_EOF` and the frame length of a completed descriptor. -/
structure RxDesc where
  sof : Bool
  eof : Bool
  frameLen : Nat
  deriving DecidableEq, Repr

variable {cfg : RxConfig}

/-- `queue->rx_buff[entry] = NULL`. -/
def RxQueue.clearSlot (q : RxQueue cfg) (entry : Fin cfg.ringSize) : RxQueue cfg :=
  { q with rxBuff := q.rxBuff.set entry none }

/-! ## `gem_rx_data_len` -/

/-- `none` is the result -1. -/
def gemRxDataLen (q : RxQueue cfg) (d : RxDesc) : Option Nat :=
  let len :=
    if d.eof then d.frameLen
    else if d.sof then cfg.bufferSize - cfg.ipAlign
    else cfg.bufferSize
  match q.skb with
  | none => if d.sof then some len else none
  | some skb =>
    if d.eof && !d.sof then if len < skb.len then none else some (len - skb.len)
    else some len

/-! ## `gem_xdp_run` -/

inductive XdpAction where
  | aborted
  | drop
  | pass
  | tx
  | redirect
  -- any other number
  | unknown
  deriving DecidableEq, Repr

/-- The program's verdict, `data_end - data` behind it, and whether the redirect or the submission
of the frame succeeds. -/
structure XdpVerdict where
  act : XdpAction
  len : Nat
  accepted : Bool
  deriving DecidableEq, Repr

structure XdpRun where
  act : XdpAction
  len : Nat
  effects : List RxEffect
  deriving DecidableEq, Repr

/-- `gem_xdp_run`, with what the program does if `bp->prog` is there. -/
def gemXdpRun (prog : Option XdpVerdict) (len buffer : Nat) : XdpRun :=
  match prog with
  | none => ⟨.pass, len, []⟩
  | some verdict =>
    match verdict.act with
    | .pass => ⟨.pass, verdict.len, []⟩
    | .redirect =>
      if verdict.accepted then ⟨.redirect, len, [.handOver buffer]⟩ else ⟨.drop, len, [.put buffer]⟩
    | .tx => if verdict.accepted then ⟨.tx, len, [.handOver buffer]⟩ else ⟨.drop, len, [.put buffer]⟩
    | act => ⟨act, len, [.put buffer]⟩

/-! ## One descriptor -/

structure RxOutcome (cfg : RxConfig) where
  queue : RxQueue cfg
  fate : RxFate
  effects : List RxEffect

/-- What one turn of the loop meets: the program at the second look at `bp->prog`, and whether
`napi_build_skb` gets its memory. -/
structure RxAnswers where
  prog : Option XdpVerdict
  skbBuilt : Bool
  deriving DecidableEq, Repr

/-- `dev_kfree_skb`, where there is an skb. -/
def freed : Option Skb → List RxEffect
  | none => []
  | some skb => [.freeSkb skb.buffers]

/-- `free_frags`. -/
def freeFrags (q : RxQueue cfg) (entry : Fin cfg.ringSize) (buffer : Nat) : RxOutcome cfg where
  queue := { q.clearSlot entry with skb := none, rxDropped := q.rxDropped + 1 }
  fate := .processed
  effects := freed q.skb ++ [.put buffer]

/-- From `last_frame` on: the finished skb goes to the stack. -/
def finish (q : RxQueue cfg) (skb : Skb) (d : RxDesc) (entry : Fin cfg.ringSize)
    (effects : List RxEffect) : RxOutcome cfg :=
  if d.eof then
    { queue :=
        { q.clearSlot entry with
          skb := none, rxPackets := q.rxPackets + 1, rxBytes := q.rxBytes + skb.len }
      fate := .processed
      effects := effects ++ [.deliver skb.buffers] }
  else ⟨{ q.clearSlot entry with skb := some skb }, .processed, effects⟩

/-- An skb that was left incomplete is freed, and the pointer to it stays until the next skb is
built. -/
def RxQueue.countIncomplete (q : RxQueue cfg) : RxQueue cfg :=
  { q with rxDropped := if q.skb.isSome then q.rxDropped + 1 else q.rxDropped }

/-- Only a whole frame is shown to the program. -/
def frameRun (env : RxAnswers) (d : RxDesc) (buffer len : Nat) : XdpRun :=
  if d.eof then gemXdpRun env.prog len buffer else ⟨.pass, len, []⟩

/-- A first descriptor. -/
def firstFrame (q : RxQueue cfg) (env : RxAnswers) (d : RxDesc) (entry : Fin cfg.ringSize)
    (buffer len : Nat) : RxOutcome cfg :=
  let run := frameRun env d buffer len
  if run.act ≠ .pass then
    ⟨q.countIncomplete.clearSlot entry, .processed, freed q.skb ++ run.effects⟩
  else if env.skbBuilt then finish q.countIncomplete ⟨run.len, [buffer]⟩ d entry (freed q.skb)
  else
    let failed := freeFrags { q.countIncomplete with skb := none } entry buffer
    ⟨failed.queue, failed.fate, freed q.skb ++ failed.effects⟩

/-- A later descriptor is one more fragment. -/
def laterFrame (q : RxQueue cfg) (skb : Skb) (d : RxDesc) (entry : Fin cfg.ringSize)
    (buffer len : Nat) : RxOutcome cfg :=
  if cfg.maxFrags ≤ skb.buffers.length - 1 then freeFrags q entry buffer
  else finish q ⟨skb.len + len, skb.buffers ++ [buffer]⟩ d entry []

/-- The normal processing of a descriptor. -/
def process (q : RxQueue cfg) (env : RxAnswers) (d : RxDesc) (entry : Fin cfg.ringSize)
    (buffer : Nat) : RxOutcome cfg :=
  match gemRxDataLen q d with
  | none => freeFrags q entry buffer
  | some len =>
    if d.sof then firstFrame q env d entry buffer len
    else
      match q.skb with
      -- `gem_rx_data_len` has refused it
      | none => freeFrags q entry buffer
      | some skb => laterFrame q skb d entry buffer len

/-- The discarding branch. -/
def discard (q : RxQueue cfg) (d : RxDesc) (entry : Fin cfg.ringSize) (buffer : Nat) :
    RxOutcome cfg where
  queue :=
    { q.clearSlot entry with
      skb := none
      xdpRxDropMultidesc := !d.eof
      rxDropped := if q.xdpRxDropMultidesc then q.rxDropped else q.rxDropped + 1
      rxXdpMultidescDrops :=
        if q.xdpRxDropMultidesc then q.rxXdpMultidescDrops else q.rxXdpMultidescDrops + 1 }
  fate := .discarded
  effects := freed q.skb ++ [.put buffer]

/-- The test in front of the discarding branch. -/
def discards (q : RxQueue cfg) (attached : Bool) (d : RxDesc) : Bool :=
  q.xdpRxDropMultidesc || (attached && (!d.sof || !d.eof))

/-- A new SOF ends the frame that is being discarded, also where its EOF was lost. -/
def RxQueue.resync (q : RxQueue cfg) (d : RxDesc) : RxQueue cfg :=
  if q.xdpRxDropMultidesc && d.sof then { q with xdpRxDropMultidesc := false } else q

/-- One turn of the loop of `gem_rx` on a completed descriptor; `attached` is the first look at
`bp->prog`. -/
def rxTurn (q : RxQueue cfg) (attached : Bool) (env : RxAnswers) (d : RxDesc) : RxOutcome cfg :=
  let entry := cfg.entry q.rxTail
  let q := { q with rxTail := q.rxTail + 1 }
  match q.rxBuff[entry] with
  | none => ⟨{ q with rxDropped := q.rxDropped + 1 }, .missing, []⟩
  | some buffer =>
    let q := q.resync d
    if discards q attached d then discard q d entry buffer else process q env d entry buffer

/-! ## `gem_rx_refill` -/

/-- `CIRC_SPACE(rx_prepared_head, rx_tail, rx_ring_size)`. -/
def circSpace (q : RxQueue cfg) : Nat := cfg.ringSize - 1 - (q.rxPreparedHead - q.rxTail)

/-- The loop, for the space that is left, with the answers of the page pool. -/
def refillLoop : Nat → RxQueue cfg → List (Option Nat) → RxQueue cfg × List RxEffect
  | 0, q, _ => (q, [])
  | space + 1, q, answers =>
    let entry := cfg.entry q.rxPreparedHead
    let next := { q with rxPreparedHead := q.rxPreparedHead + 1 }
    match q.rxBuff[entry] with
    | some _ => refillLoop space next answers
    | none =>
      match answers with
      | some buffer :: answers =>
        let rest := refillLoop space { next with rxBuff := q.rxBuff.set entry (some buffer) } answers
        (rest.1, .take buffer :: rest.2)
      -- the pool is out of memory
      | _ => (q, [])

def gemRxRefill (q : RxQueue cfg) (answers : List (Option Nat)) : RxQueue cfg × List RxEffect :=
  refillLoop (circSpace q) q answers

/-! ## The system -/

/-- Where the driver is: in `gem_init_rx_ring`, between two polls, in the loop of `gem_rx` with the
budget that is left, or behind it. -/
inductive RxPhase where
  | opening
  | idle
  | polling (budget : Nat)
  | leaving
  deriving DecidableEq, Repr

/-- What a turn found and did: the slot of the ring before and after it. -/
structure RxTurn where
  desc : RxDesc
  attached : Bool
  before : Option Nat
  after : Option Nat
  fate : RxFate
  effects : List RxEffect
  deriving DecidableEq, Repr

/-- The queue, whether `bp->prog` is set, the descriptors that are completed and not looked at, and
the history: the turns, the newest first, and what happened to buffers. -/
structure RxNic (cfg : RxConfig) where
  queue : RxQueue cfg
  attached : Bool
  completed : List RxDesc
  phase : RxPhase
  turns : List RxTurn
  log : List RxEffect

inductive RxOp where
  | complete (d : RxDesc)
  | setProg (attached : Bool)
  | poll (budget : Nat)
  | turn (env : RxAnswers)
  | stop
  | refill (answers : List (Option Nat))
  deriving DecidableEq

def RxNic.afterTurn (s : RxNic cfg) (budget : Nat) (env : RxAnswers) (d : RxDesc)
    (rest : List RxDesc) : RxNic cfg :=
  let entry := cfg.entry s.queue.rxTail
  let outcome := rxTurn s.queue s.attached env d
  { queue := outcome.queue
    attached := s.attached
    completed := rest
    phase := if outcome.fate = .missing then .leaving else .polling budget
    turns := ⟨d, s.attached, s.queue.rxBuff[entry], outcome.queue.rxBuff[entry], outcome.fate,
      outcome.effects⟩ :: s.turns
    log := outcome.effects ++ s.log }

def RxNic.afterRefill (s : RxNic cfg) (answers : List (Option Nat)) : RxNic cfg :=
  let refilled := gemRxRefill s.queue answers
  { s with queue := refilled.1, phase := .idle, log := refilled.2 ++ s.log }

@[simp]
theorem RxNic.afterTurn_queue (s : RxNic cfg) (budget : Nat) (env : RxAnswers) (d : RxDesc)
    (rest : List RxDesc) :
    (s.afterTurn budget env d rest).queue = (rxTurn s.queue s.attached env d).queue := rfl

@[simp]
theorem RxNic.afterTurn_log (s : RxNic cfg) (budget : Nat) (env : RxAnswers) (d : RxDesc)
    (rest : List RxDesc) :
    (s.afterTurn budget env d rest).log = (rxTurn s.queue s.attached env d).effects ++ s.log := rfl

@[simp]
theorem RxNic.afterRefill_queue (s : RxNic cfg) (answers : List (Option Nat)) :
    (s.afterRefill answers).queue = (gemRxRefill s.queue answers).1 := rfl

@[simp]
theorem RxNic.afterRefill_log (s : RxNic cfg) (answers : List (Option Nat)) :
    (s.afterRefill answers).log = (gemRxRefill s.queue answers).2 ++ s.log := rfl

inductive RxNic.Step : RxNic cfg → RxOp → RxNic cfg → Prop where
  -- the NIC completes prepared descriptors only, in their order
  | complete {s : RxNic cfg} (d : RxDesc)
      (h : s.completed.length < s.queue.rxPreparedHead - s.queue.rxTail) :
      Step s (.complete d) { s with completed := s.completed ++ [d] }
  -- `bp->prog` is replaced; `gem_xdp_setup` closes a running device before it changes between a
  -- program and none, and what is opened behind that is a new run
  | setProg {s : RxNic cfg} (attached : Bool) :
      Step s (.setProg attached) { s with attached := attached }
  | poll {s : RxNic cfg} (budget : Nat) (h : s.phase = .idle) :
      Step s (.poll budget) { s with phase := .polling budget }
  | turn {s : RxNic cfg} {budget : Nat} (env : RxAnswers) {d : RxDesc} {rest : List RxDesc}
      (h : s.phase = .polling (budget + 1)) (hd : s.completed = d :: rest) :
      Step s (.turn env) (s.afterTurn budget env d rest)
  -- `gem_rx` stops at a descriptor without `RX_USED`: the first one that is not completed. As
  -- only prepared descriptors are completed, it never meets an empty slot, and `rxTurn`'s
  -- `!buff_head` branch is not taken in a run
  | stop {s : RxNic cfg} {budget : Nat} (h : s.phase = .polling budget)
      (hstop : budget = 0 ∨ s.completed = []) :
      Step s .stop { s with phase := .leaving }
  | refill {s : RxNic cfg} (answers : List (Option Nat))
      (h : s.phase = .opening ∨ s.phase = .leaving) :
      Step s (.refill answers) (s.afterRefill answers)

/-- The ring that `gem_init_rx_ring` starts from. The statistics are those of the device so far. -/
structure RxNic.Opened (s : RxNic cfg) : Prop where
  tail : s.queue.rxTail = 0
  head : s.queue.rxPreparedHead = 0
  buff : s.queue.rxBuff = Vector.replicate cfg.ringSize none
  skb : s.queue.skb = none
  drop : s.queue.xdpRxDropMultidesc = false
  completed : s.completed = []
  phase : s.phase = .opening
  turns : s.turns = []
  log : s.log = []

def rxSystem (cfg : RxConfig) : System (RxNic cfg) RxOp where
  init := RxNic.Opened
  step := RxNic.Step

end AceXdp.Macb
