import Mathlib.Data.Option.Basic
import AceXdp.Send.Packet

/-!
# AceXdp — the sender's `main`

From the ready marker to the completion byte of `sender.c`. The deadline of the next packet is kept
in a `struct timespec` that `add_ns` moves by one period a turn; every clock, sleep and `sendto` may
fail, and a signal may arrive at any of the points where `stop` is read.
-/

namespace AceXdp.Sender

/-! ## Deadlines -/

/-- `struct timespec`; `time_t` and `long` have 64 bits. -/
structure Timespec where
  sec : Int64
  nsec : Int64
  deriving DecidableEq

/-- `add_ns`. -/
def addNs (time : Timespec) (nanoseconds : UInt64) : Timespec :=
  let sec := time.sec + (nanoseconds / 1000000000).toInt64
  let nsec := time.nsec + (nanoseconds % 1000000000).toInt64
  if nsec ≥ 1000000000 then ⟨sec + 1, nsec - 1000000000⟩ else ⟨sec, nsec⟩

/-- `(int64_t)time.tv_sec * 1000000000LL + time.tv_nsec`. -/
def Timespec.nanos (time : Timespec) : Int64 := time.sec * 1000000000 + time.nsec

/-- The two parts of `base_ns`. -/
def Timespec.ofNs (ns : UInt64) : Timespec :=
  ⟨(ns / 1000000000).toInt64, (ns % 1000000000).toInt64⟩

/-! ## `sleep_until` -/

def eintr : Int := 4
def eio : Int := 5

/-- What one pass of the sleeping loop meets: a signal before `stop` is read, the clock (or its
`errno`), and the answer of `clock_nanosleep` to the wake-up time it is given. -/
structure SleepTurn where
  arrives : Bool
  now : Except Int Int64
  nanosleep : Timespec → Int

/-- The longest sleep is 10 ms. -/
def wakeTime (now target : Int64) : Int64 :=
  if target - now > 10000000 then now + 10000000 else target

/-- `sleep_until`: its result and `stop` when it returns, or `none` while it is still waiting. -/
def sleepUntil (target : Int64) (stop : Bool) : List SleepTurn → Option (Int × Bool)
  | [] => none
  | turn :: turns =>
    if stop || turn.arrives then some (eintr, true)
    else
      match turn.now with
      | .error errno => some (errno, false)
      | .ok now =>
        if now ≥ target then some (0, false)
        else
          let wake := wakeTime now target
          let result := turn.nanosleep ⟨wake / 1000000000, wake % 1000000000⟩
          if result ≠ 0 ∧ result ≠ eintr then some (result, false)
          else sleepUntil target false turns

/-! ## The send loop -/

/-- The options `parse_arguments` has checked. -/
structure Config where
  flowId : UInt32
  payload : PayloadSize
  periodNs : UInt64
  packetCount : UInt64
  startAtNs : UInt64
  startFile : Bool
  completionFd : Bool
  period_pos : 1 ≤ periodNs.toNat
  period_le : periodNs.toNat ≤ 2 ^ 63 - 1
  count_pos : 1 ≤ packetCount.toNat
  startAt_le : startAtNs.toNat ≤ 2 ^ 63 - 1

/-- `termination_reason`. -/
inductive TerminationReason where
  | count | setupError | signal | startFileError | clockError | startDeadlineExpired
  | configurationError | sleepError | sendError
  deriving DecidableEq, Repr

/-- What one turn of the send loop meets. -/
structure SendTurn where
  -- a signal before the loop test, and one before the test behind the sleep
  arrives : Bool
  arrivesAfter : Bool
  sleep : List SleepTurn
  mono : Except Int Int64
  real : Except Int Int64
  -- the number of bytes `sendto` takes, or its `errno`
  sendto : List UInt8 → Except Int Nat

/-- A call of `sendto`: the packet, the deadline it was paced by, whether all of it was taken. -/
structure SendAttempt where
  seq : UInt64
  deadline : Timespec
  packet : List UInt8
  taken : Bool
  deriving DecidableEq

/-- The locals of `main`. `paced` and `attempts` are what the rest of the world sees of the loop: the
deadlines it kept to and the packets it handed over. -/
structure SendState where
  nextSend : Timespec
  stop : Bool
  sent : UInt64 := 0
  errors : UInt64 := 0
  attempted : UInt64 := 0
  lateCount : UInt64 := 0
  latePeriods : UInt64 := 0
  lateMax : UInt64 := 0
  intervalCount : UInt64 := 0
  intervalMin : UInt64 := UInt64.ofNat (2 ^ 64 - 1)
  intervalMax : UInt64 := 0
  previousTxNs : Int64 := 0
  firstTxNs : Int64 := 0
  lastTxNs : Int64 := 0
  lastSendErrno : Int := 0
  reason : TerminationReason := .count
  paced : List (UInt64 × Timespec) := []
  attempts : List SendAttempt := []

/-- Go on with the next packet, or leave the loop. -/
inductive TurnEnd where
  | next (s : SendState)
  | leave (s : SendState)

def SendState.fail (s : SendState) (reason : TerminationReason) : SendState :=
  { s with errors := s.errors + 1, reason := reason }

/-- The deadline in force for packet `seq`. -/
def SendState.pace (s : SendState) (period seq : UInt64) : SendState :=
  let nextSend := if seq ≠ 0 then addNs s.nextSend period else s.nextSend
  { s with nextSend := nextSend, paced := s.paced ++ [(seq, nextSend)] }

/-- The lateness and interval statistics of a packet. -/
def SendState.measure (s : SendState) (period : UInt64) (actualNs : Int64) : SendState :=
  let deadlineNs := s.nextSend.nanos
  let lateness : UInt64 := if actualNs > deadlineNs then (actualNs - deadlineNs).toUInt64 else 0
  let interval := (actualNs - s.previousTxNs).toUInt64
  let again := s.previousTxNs ≠ 0
  { s with
    lateCount := if lateness ≠ 0 then s.lateCount + 1 else s.lateCount
    latePeriods := if lateness ≥ period then s.latePeriods + 1 else s.latePeriods
    lateMax := if lateness > s.lateMax then lateness else s.lateMax
    intervalMin := if again ∧ interval < s.intervalMin then interval else s.intervalMin
    intervalMax := if again ∧ interval > s.intervalMax then interval else s.intervalMax
    intervalCount := if again then s.intervalCount + 1 else s.intervalCount
    previousTxNs := actualNs }

/-- The header, the packet and the call of `sendto`. -/
def SendState.send (s : SendState) (cfg : Config) (turn : SendTurn) (seq : UInt64)
    (actualNs txNs : Int64) : SendState :=
  let packet := senderPacket cfg.flowId seq txNs cfg.payload
  let s := { s with
    firstTxNs := if s.attempted = 0 then actualNs else s.firstTxNs
    lastTxNs := actualNs
    attempted := s.attempted + 1 }
  match turn.sendto packet with
  | .ok n =>
    if n = packet.length then
      { s with sent := s.sent + 1, attempts := s.attempts ++ [⟨seq, s.nextSend, packet, true⟩] }
    else
      { s with errors := s.errors + 1, lastSendErrno := eio,
               attempts := s.attempts ++ [⟨seq, s.nextSend, packet, false⟩] }
  | .error errno =>
    { s with errors := s.errors + 1, lastSendErrno := errno,
             attempts := s.attempts ++ [⟨seq, s.nextSend, packet, false⟩] }

/-- The part of a turn behind the sleep. -/
def sendPaced (cfg : Config) (turn : SendTurn) (seq : UInt64) (s : SendState) : TurnEnd :=
  match turn.mono with
  | .error _ => .leave (s.fail .clockError)
  | .ok actualNs =>
    let s := s.measure cfg.periodNs actualNs
    match turn.real with
    | .error _ => .leave (s.fail .clockError)
    | .ok txNs => .next (s.send cfg turn seq actualNs txNs)

/-- A turn of the loop. The first packet of a run without a start deadline is sent at once. -/
def sendTurn (cfg : Config) (startAt : UInt64) (turn : SendTurn) (seq : UInt64)
    (s : SendState) : Option TurnEnd :=
  let s := s.pace cfg.periodNs seq
  if seq ≠ 0 ∨ startAt ≠ 0 then
    match sleepUntil s.nextSend.nanos s.stop turn.sleep with
    | none => none
    | some (result, stop) =>
      let s := { s with stop := stop }
      if result ≠ 0 ∧ result ≠ eintr then some (.leave (s.fail .sleepError))
      else
        let s := { s with stop := stop || turn.arrivesAfter }
        if s.stop then some (.leave s) else some (sendPaced cfg turn seq s)
  else some (sendPaced cfg turn seq s)

theorem toNat_succ {seq count : UInt64} (h : seq < count) : (seq + 1).toNat = seq.toNat + 1 := by
  have hlt := UInt64.lt_iff_toNat_lt.mp h
  have hcount := count.toNat_lt
  rw [UInt64.toNat_add]
  exact Nat.mod_eq_of_lt (by rw [show (1 : UInt64).toNat = 1 from rfl]; omega)

/-- `for (uint64_t seq = 0; seq < config.packet_count && !stop; seq++)`. -/
def sendLoop (cfg : Config) (startAt : UInt64) (turns : UInt64 → SendTurn) (seq : UInt64)
    (s : SendState) : Option SendState :=
  if _h : seq < cfg.packetCount then
    let s := { s with stop := s.stop || (turns seq).arrives }
    if s.stop then some s
    else
      match sendTurn cfg startAt (turns seq) seq s with
      | none => none
      | some (.leave s) => some s
      | some (.next s) => sendLoop cfg startAt turns (seq + 1) s
  else some s
termination_by cfg.packetCount.toNat - seq.toNat
decreasing_by
  rw [toNat_succ _h]
  have hlt := UInt64.lt_iff_toNat_lt.mp _h
  omega

/-! ## Before and after the loop -/

/-- What `wait_start_file` ends with: the deadline of the file, which has been checked, a signal, or
an error. -/
inductive StartFile where
  | deadline (ns : UInt64) (range : 1 ≤ ns.toNat ∧ ns.toNat ≤ 2 ^ 63 - 1)
  | signal
  | failed

structure Env where
  ready : Bool
  startFile : StartFile
  -- `ace_mono_ns`, which is not negative
  startClock : Except Int Nat
  turns : UInt64 → SendTurn
  -- a signal before the reason is settled, and one before the completion byte
  arrivesAtEnd : Bool
  endClock : Except Int Int64
  arrivesAtOutcome : Bool
  startClock_lt : ∀ ns, startClock = .ok ns → ns ≤ 2 ^ 63 - 1

/-- What `main` leaves: the base of the schedule if it got that far, its locals, and the byte it
writes to the completion pipe. -/
structure Result where
  base : Option UInt64
  state : SendState
  completion : Option UInt8

/-- `INT64_MAX` as a `uint64_t`. -/
def int64Max : UInt64 := 9223372036854775807

/-- From the label `finished` to the completion byte. -/
def finish (cfg : Config) (env : Env) (base : Option UInt64) (s : SendState) :
    Result :=
  let s := match env.endClock with
    | .error _ => { s with errors := s.errors + 1 }
    | .ok _ => s
  let s := { s with stop := s.stop || env.arrivesAtOutcome }
  let outcome : UInt8 :=
    if s.errors ≠ 0 ∨ s.stop = true ∨ s.attempted ≠ cfg.packetCount then 1 else 0
  ⟨base, s, if cfg.completionFd then some outcome else none⟩

/-- The reason behind the loop. -/
def SendState.settleReason (s : SendState) (arrives : Bool) : SendState :=
  let s := { s with stop := s.stop || arrives }
  if s.stop then { s with reason := .signal }
  else if s.errors ≠ 0 ∧ s.reason = .count then { s with reason := .sendError }
  else s

/-- The deadline check and the loop. -/
def sendFrom (cfg : Config) (env : Env) (startAt startNs : UInt64) (s : SendState) :
    Option Result :=
  let base := if startAt ≠ 0 then startAt else startNs
  if startAt ≠ 0 ∧ base ≤ startNs then
    some (finish cfg env none (s.fail .startDeadlineExpired))
  else if cfg.packetCount - 1 > (int64Max - base) / cfg.periodNs then
    some (finish cfg env none (s.fail .configurationError))
  else
    match sendLoop cfg startAt env.turns 0 { s with nextSend := Timespec.ofNs base } with
    | none => none
    | some s => some (finish cfg env (some base) (s.settleReason env.arrivesAtEnd))

/-- `main` from the ready marker on; `none` while it is still sleeping. -/
def main (cfg : Config) (env : Env) : Option Result :=
  let s : SendState := { nextSend := ⟨0, 0⟩, stop := false }
  if ¬env.ready then some (finish cfg env none (s.fail .setupError))
  else
    let start (startAt : UInt64) : Option Result :=
      match env.startClock with
      | .error _ => some (finish cfg env none (s.fail .clockError))
      | .ok startNs => sendFrom cfg env startAt (UInt64.ofNat startNs) s
    if cfg.startFile then
      match env.startFile with
      | .signal => some (finish cfg env none { s with stop := true, reason := .signal })
      | .failed => some (finish cfg env none (s.fail .startFileError))
      | .deadline ns _ => start ns
    else start cfg.startAtNs

end AceXdp.Sender
