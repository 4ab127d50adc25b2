import AceXdp.Runner.ControlInv

/-!
# AceXdp — the two runners stay in step

* `ControlInv.ordered`: what one side does only after the other, in every interleaving with
  failures and kills;
* `step_expected`: without failures, nobody sees a frame other than the one it expects, the end
  of the stream, or bytes during `wait_completions`;
* `step_of_not_closed`: nor do the two wait for each other.
-/

namespace AceXdp

open Choreography Framing Transition Transition.System

/-! ## Only after

The order of the common text is the order of the run, across the two machines. -/

/-- What a side has done it did after what the other had to do first. -/
structure ControlState.Ordered (config : Side → RunConfig) (s : ControlState) : Prop where
  -- `start.ns` after every receiver is ready
  start : ∀ r, ⟨some r, .publishStart⟩ ∈ (s sender).done →
    ∀ flow ∈ (config receiver).flows, ⟨some r, .receiverProcess flow⟩ ∈ (s receiver).done
  -- receivers are stopped after every sender reported 0
  stop : ∀ r flow, ⟨some r, .requestStop flow⟩ ∈ (s receiver).done →
    ∀ flow' ∈ (config sender).flows, (some r, flow') ∈ (s sender).reported
  -- the loader is stopped after the sender's `ACK`
  loader : ∀ r, ⟨some r, .requestStopLoader⟩ ∈ (s receiver).done →
    ⟨some r, .ack⟩ ∈ (s receiver).accepted ∧ ⟨some r, .ack⟩ ∈ (s sender).begun
  -- `.complete` after the sender's `run.json` says `completed`, in the same session
  complete : ∀ r, ⟨some r, .createComplete⟩ ∈ (s receiver).done →
    ⟨some r, .writeRun .completed⟩ ∈ (s sender).done
      ∧ (s sender).nonce = (s receiver).nonce
      ∧ (config sender).digest = (config receiver).digest

section Ordered

variable {c : RunConfig} {nonce : List UInt8} {d : Side → List (Event Act Msg)}
  {s : ControlState}

/-- A message separates two calls of a run: whoever made the second knows of the first. -/
theorem ControlInv.call_after (h : ControlInv c nonce d s) (src : Side) {t : MsgType}
    {first second : Call} (h₁ : ∀ mode, Precedes (runChoreography c mode) (.act src first)
      (.msg src t)) (h₂ : ∀ mode, Precedes (runChoreography c mode) (.msg src t)
      (.act src.other second)) {r : Run} (hdone : ⟨some r, second⟩ ∈ (s src.other).done) :
    ⟨some r, first⟩ ∈ (s src).done ∧ ⟨some r, t⟩ ∈ (s src).begun := by
  rw [(h.party src.other).done_eq, mem_acts] at hdone
  obtain ⟨hmsg, hact⟩ := h.causal.only_after h.isPrefix (precedes_choreography r h₁)
    (precedes_choreography r h₂) hdone
  refine ⟨?_, ?_⟩
  · rw [(h.party src).done_eq, mem_acts]
    exact hact
  · rw [(h.party src).begun_eq, mem_sent]
    exact hmsg

/-- **Every reachable state is ordered.** -/
theorem ControlInv.ordered (h : ControlInv c nonce d s) : s.Ordered fun _ => c := by
  refine ⟨?_, ?_, ?_, ?_⟩
  · intro r hdone flow hflow
    exact (h.call_after receiver (fun mode => ready_before_start c mode hflow)
      (start_before_publish c) hdone).1
  · intro r flow hdone flow' hflow'
    have hpolled := (h.call_after sender (completions_before_stop c)
      (fun mode => stop_before_request c mode flow) hdone).1
    exact (h.party sender).polled _ hpolled rfl flow' hflow'
  · intro r hdone
    refine ⟨?_, (h.call_after sender (completed_before_ack c)
      (ack_before_stopLoader c) hdone).2⟩
    rw [(h.party receiver).done_eq, mem_acts] at hdone
    rw [(h.party receiver).accepted_eq, mem_sent]
    exact (precedes_choreography r (ack_before_stopLoader c)).mem (h.isPrefix receiver) hdone
  · intro r hdone
    have hcompleted := (h.call_after sender (completed_before_ack c)
      (ack_before_complete c) hdone).1
    refine ⟨hcompleted, ?_, rfl⟩
    -- both have accepted the peer's `HELLO`, so both have the receiver's nonce
    have haccepted : ∀ who, ⟨none, .hello⟩ ∈ sent who.other (d who) → (s who).nonce = nonce := by
      intro who hhello
      rw [← (h.party who).accepted_eq] at hhello
      exact (h.party who).nonce_of_accepted (List.ne_nil_of_mem hhello)
    rw [haccepted sender ((h.party sender).hello_of_started hcompleted _),
      haccepted receiver ((h.party receiver).hello_of_started hdone _)]

end Ordered

/-! ## The sequence of runs

Both sides go through the same list of runs, and a side that has finished is through with it. -/

section Sequence

variable {c : RunConfig}

theorem startedRuns_append (as bs : List Act) :
    startedRuns (as ++ bs) = startedRuns as ++ startedRuns bs := List.filterMap_append

theorem startedRuns_eq_nil {run : Option Run} {calls : List Call} (h : .startRun ∉ calls) :
    startedRuns (calls.map (.mk run)) = [] := by
  rw [List.eq_nil_iff_forall_not_mem]
  intro r hr
  obtain ⟨k, hk, heq⟩ := List.mem_map.mp (mem_startedRuns.mp hr)
  cases heq
  exact h hk

/-- A run begins with its `startRun` and has no other. -/
theorem acts_runChoreography (mode : RunMode) (who : Side) :
    ∃ calls, acts who (runChoreography c mode) = .startRun :: calls ∧ Call.startRun ∉ calls := by
  have hself : ∀ calls, acts who (sideDoes who calls) = calls := by
    intro calls
    induction calls with
    | nil => rfl
    | cons k calls ih => rw [sideDoes, List.map_cons, acts_act_self, ← sideDoes, ih]
  have hother : ∀ other, other ≠ who → ∀ calls, acts who (sideDoes other calls) = [] := by
    intro other hne calls
    induction calls with
    | nil => rfl
    | cons k calls ih =>
      rw [sideDoes, List.map_cons, acts_act_of_ne _ _ hne, ← sideDoes, ih]
  cases who with
  | left =>
    refine ⟨(receiverPrepare c mode).tail ++ receiverWarmup c mode ++ receiverDrain c mode
      ++ receiverFinish c mode, ?_, ?_⟩
    · simp [runChoreography, runOpening, runCapture, runDrain, runFinish, hself, hother,
        receiverPrepare]
    · simp [receiverPrepare, receiverWarmup, receiverDrain, receiverFinish]
  | right =>
    refine ⟨senderPrepare.tail ++ senderArm c ++ senderStart ++ [.waitCompletions]
      ++ senderFlush c ++ senderFinish, ?_, ?_⟩
    · simp [runChoreography, runOpening, runCapture, runDrain, runFinish, hself, hother,
        senderPrepare]
    · simp [senderPrepare, senderArm, senderStart, senderFlush, senderFinish]

/-- **A side that goes through the choreography goes through the runs.** -/
theorem startedRuns_choreography (who : Side) :
    startedRuns (acts who (choreography c)) = c.runs := by
  have hrun : ∀ r : Run, startedRuns (acts who
      ((runChoreography c r.mode).map (Event.map (Act.mk (some r)) (Msg.mk (some r))))) = [r] := by
    intro r
    obtain ⟨calls, hcalls, hnone⟩ := acts_runChoreography (c := c) r.mode who
    rw [acts_map, hcalls, List.map_cons, ← List.singleton_append, startedRuns_append,
      startedRuns_eq_nil hnone]
    rfl
  have hruns : ∀ rs : List Run, startedRuns (acts who (rs.flatMap fun r =>
      (runChoreography c r.mode).map (Event.map (Act.mk (some r)) (Msg.mk (some r))))) = rs := by
    intro rs
    induction rs with
    | nil => rfl
    | cons r rs ih =>
      rw [List.flatMap_cons, acts_append, startedRuns_append, hrun, ih, List.singleton_append]
  unfold choreography
  rw [acts_append, startedRuns_append, hruns, acts_map,
    startedRuns_eq_nil (by cases who <;> decide), List.nil_append]

variable {nonce : List UInt8} {who : Side} {p : Party} {d : List (Event Act Msg)}

theorem PartyInv.started_isPrefix (h : PartyInv c nonce who p d) : p.started <+: c.runs := by
  obtain ⟨rest, hrest⟩ := h.at_todo.isPrefix
  have hruns := startedRuns_choreography (c := c) who
  rw [← hrest, acts_append, startedRuns_append] at hruns
  rw [Party.started, h.done_eq]
  exact ⟨_, hruns⟩

theorem PartyInv.started_of_done (h : PartyInv c nonce who p d) (htodo : p.todo = []) :
    p.started = c.runs := by
  have hat : At who (choreography c) d [] := htodo ▸ h.at_todo
  rw [Party.started, h.done_eq, hat.acts_of_nil, startedRuns_choreography]

end Sequence

/-! ## Without failures

If no call fails and no stream is cut, no check fails either. -/

def ReadInv (s : ControlState) : Prop :=
  ∀ who, wireSize * (s who).accepted.length ≤ (s who.other).wire.length

/-- A side that has not failed: it is at work, or at its end with everything written. -/
def Healthy (c : RunConfig) (nonce : List UInt8) (who : Side) (p : Party) : Prop :=
  match p.phase with
  | .ready => True
  | .polling _ => True
  | .sending _ => True
  | .failing _ => False
  | .cleanup => False
  | .closed => p.todo = [] ∧ p.wire = p.begun.flatMap (messageBytes c nonce who)

structure FaultlessInv (c : RunConfig) (nonce : List UInt8) (d : Side → List (Event Act Msg))
    (s : ControlState) : Prop extends ControlInv c nonce d s where
  read : ReadInv s
  healthy : ∀ who, Healthy c nonce who (s who)

section Faultless

variable {c : RunConfig} {nonce : List UInt8} {d : Side → List (Event Act Msg)}
  {s s' : ControlState} {who : Side}

@[simp]
theorem Party.fail_wire (c : RunConfig) (p : Party) : (p.fail c).wire = p.wire := by
  unfold Party.fail
  split <;> rfl

@[simp]
theorem Party.fail_accepted (c : RunConfig) (p : Party) : (p.fail c).accepted = p.accepted := by
  unfold Party.fail
  split <;> rfl

theorem ReadInv.update (h : ReadInv s) {p : Party}
    (hread : wireSize * p.accepted.length ≤ (s who.other).wire.length)
    (hwire : (s who).wire.length ≤ p.wire.length) : ReadInv (Function.update s who p) := by
  intro x
  rcases Side.eq_or_eq_other x who with rfl | rfl
  · rw [Function.update_self, Function.update_of_ne (Side.other_ne x)]
    exact hread
  · rw [Side.other_other, Function.update_self, Function.update_of_ne (Side.other_ne who)]
    have hother := h who.other
    rw [Side.other_other] at hother
    exact hother.trans hwire

theorem ReadInv.step (h : ReadInv s) {config : Side → RunConfig} {a : ControlAction}
    (hstep : ControlStep config who s a s') : ReadInv s' := by
  cases hstep with
  | receive _ _ hframe _ =>
    refine h.update ?_ (Nat.le_refl _)
    rw [Party.accept, List.length_append]
    exact (nextFrame_eq_some hframe).1
  | transmit _ _ _ => exact h.update (h who) (by simp)
  | failTransmit _ _ _ => exact h.update (h who) (by simp)
  | call _ _ _ => exact h.update (h who) (Nat.le_refl _)
  | sendBegin _ _ => exact h.update (h who) (Nat.le_refl _)
  | sendReturn _ => exact h.update (h who) (Nat.le_refl _)
  | reset _ _ _ => exact h.update (by simpa using h who) (by simp)
  | reject _ _ _ _ => exact h.update (by simpa using h who) (by simp)
  | eof _ _ _ _ => exact h.update (by simpa using h who) (by simp)
  | pollBegin _ _ _ => exact h.update (h who) (Nat.le_refl _)
  | report _ _ _ => exact h.update (h who) (Nat.le_refl _)
  | pollReturn _ _ => exact h.update (h who) (Nat.le_refl _)
  | peerBytes _ _ _ _ => exact h.update (by simpa using h who) (by simp)
  | fault _ => exact h.update (by simpa using h who) (by simp)
  | failReturn _ => exact h.update (h who) (Nat.le_refl _)
  | cleanup _ => exact h.update (h who) (Nat.le_refl _)
  | kill => exact h.update (h who) (Nat.le_refl _)
  | finish _ _ => exact h.update (h who) (Nat.le_refl _)

theorem FaultlessInv.wire_isPrefix (h : FaultlessInv c nonce d s) (who : Side) :
    (s who).wire <+: (s who).begun.flatMap (messageBytes c nonce who) := by
  have hhealthy := h.healthy who
  unfold Healthy at hhealthy
  cases hphase : (s who).phase with
  | ready => exact ⟨[], (List.append_nil _).trans ((h.party who).output_of hphase)⟩
  | polling _ => exact ⟨[], (List.append_nil _).trans ((h.party who).output_of hphase)⟩
  | sending rest => exact ⟨rest, (h.party who).output_of hphase⟩
  | failing _ => simp [hphase] at hhealthy
  | cleanup => simp [hphase] at hhealthy
  | closed =>
    simp only [hphase] at hhealthy
    exact ⟨[], (List.append_nil _).trans hhealthy.2⟩

theorem FaultlessInv.wire_length_le (h : FaultlessInv c nonce d s) (who : Side) :
    (s who).wire.length ≤ wireSize * (s who).begun.length := by
  rw [← (h.party who).length_frames h.nonce_length]
  exact (h.wire_isPrefix who).length_le

/-- A side at its end has passed every message and written all its frames. -/
theorem FaultlessInv.of_closed (h : FaultlessInv c nonce d s)
    (hclosed : (s who).phase = .closed) :
    (∀ src, sent src (d who) = sent src (choreography c))
      ∧ (s who).wire.length = wireSize * (s who).begun.length := by
  have hhealthy := h.healthy who
  unfold Healthy at hhealthy
  simp only [hclosed] at hhealthy
  have hat : At who (choreography c) (d who) [] := hhealthy.1 ▸ (h.party who).at_todo
  refine ⟨hat.sent_of_nil, ?_⟩
  rw [hhealthy.2, (h.party who).length_frames h.nonce_length]

theorem ControlInv.accepted_append (h : ControlInv c nonce d s) {m : Msg}
    {ops : List (Op Act Msg)} (htodo : (s who).todo = .recv m :: ops) :
    (s who).accepted ++ [m] <+: sent who.other (choreography c) := by
  obtain ⟨d', hat, -, -, -, haccepted⟩ := At.recv (htodo ▸ (h.party who).at_todo)
  rw [← (h.party who).accepted_eq] at haccepted
  obtain ⟨rest, hrest⟩ := hat.isPrefix
  rw [← haccepted, ← hrest, sent_append]
  exact List.prefix_append _ _

/-- **The next frame is the expected one.** -/
theorem FaultlessInv.expected_frame (h : FaultlessInv c nonce d s) {m : Msg}
    {ops : List (Op Act Msg)} {f : Frame} (htodo : (s who).todo = .recv m :: ops)
    (hframe : s.nextFrame who = some f) :
    f = messageFrame c.digest (messageNonce nonce who.other m) (m.label c) := by
  have hpeer := h.party who.other
  obtain ⟨hlen, rfl⟩ := nextFrame_eq_some hframe
  -- the peer has begun more than was accepted, so `m` is the next it began
  have hmore : (s who).accepted ++ [m] <+: (s who.other).begun := by
    have hbegun : (s who.other).begun <+: sent who.other (choreography c) := by
      obtain ⟨rest, hrest⟩ := h.isPrefix who.other
      rw [hpeer.begun_eq, ← hrest, sent_append]
      exact List.prefix_append _ _
    refine List.prefix_of_prefix_length_le (h.accepted_append htodo) hbegun ?_
    have hle := hlen.trans (h.wire_length_le who.other)
    rw [List.length_append]
    exact Nat.le_of_mul_le_mul_left hle (by decide)
  obtain ⟨later, hlater⟩ := hmore
  rw [List.append_assoc, List.singleton_append] at hlater
  have hmem : m ∈ sent who.other (d who.other) := by
    rw [← hpeer.begun_eq, ← hlater]
    simp
  have hsize : ∀ x ∈ (s who).accepted ++ m :: later,
      (messageBytes c nonce who.other x).length = wireSize := by
    rw [hlater, hpeer.begun_eq]
    exact fun x hx => length_messageBytes h.nonce_length _ (h.isPrefix who.other) hx
  have hwire := h.wire_isPrefix who.other
  rw [← hlater] at hwire
  rw [block_eq_frame hsize hwire hlen, messageBytes]
  exact (messageFrame_sized_of_mem h.nonce_length _
    ((h.isPrefix who.other).subset (mem_sent.mp hmem))).decodeFrame_bytes

/-- **It passes every check.** -/
theorem FaultlessInv.check_eq_some (h : FaultlessInv c nonce d s) {m : Msg}
    {ops : List (Op Act Msg)} {f : Frame} (htodo : (s who).todo = .recv m :: ops)
    (hframe : s.nextFrame who = some f) :
    ∃ nonce', messageCheck (who = receiver) c.digest (s who).nonce (m.label c) f = some nonce' := by
  obtain ⟨-, hhello⟩ := (h.party who).recv_hello htodo
  rw [h.expected_frame htodo hframe]
  refine ⟨_, messageCheck_messageFrame _ ?_⟩
  rw [label_type]
  intro hne
  rw [(h.party who).nonce_of_accepted fun hx => hne (hhello.mpr hx), messageNonce,
    if_neg fun hx => hne hx.2]

/-- A peer at its end has written the frame a side still waits for. -/
theorem FaultlessInv.frame_of_closed (h : FaultlessInv c nonce d s) {m : Msg}
    {ops : List (Op Act Msg)} (htodo : (s who).todo = .recv m :: ops)
    (hclosed : (s who.other).phase = .closed) : s.nextFrame who ≠ none := by
  obtain ⟨hpassed, hwire⟩ := h.of_closed hclosed
  have hle := (h.accepted_append htodo).length_le
  rw [← hpassed, ← (h.party who.other).begun_eq, List.length_append] at hle
  have hlen : wireSize * ((s who).accepted.length + 1) ≤ (s who.other).wire.length := by
    rw [hwire]
    exact Nat.mul_le_mul_left _ hle
  simp [ControlState.nextFrame, hlen]

/-- **Nobody sees anything unexpected.** -/
theorem FaultlessInv.step_expected (h : FaultlessInv c nonce d s) {a : ControlAction}
    (hstep : ControlStep (fun _ => c) who s a s') : a ≠ .unexpected ∧ a ≠ .peerBytes := by
  have hme := h.party who
  have hpeer := h.party who.other
  cases hstep with
  | @reset rest hphase hrest hclosed =>
    -- the peer has read every frame, the one under way included
    exfalso
    obtain ⟨hpassed, -⟩ := h.of_closed hclosed
    have hout : (s who).wire ++ rest = _ := hme.output_of hphase
    have hlen := congrArg List.length hout
    rw [List.length_append, hme.length_frames h.nonce_length] at hlen
    have hread := h.read who.other
    rw [Side.other_other, hpeer.accepted_eq, Side.other_other, hpassed] at hread
    have hbegun : (s who).begun.length ≤ (sent who (choreography c)).length := by
      rw [hme.begun_eq]
      exact sent_length_mono _ (h.isPrefix who)
    have hpos := List.length_pos_iff.mpr hrest
    have hmul := Nat.mul_le_mul_left wireSize hbegun
    omega
  | reject _ htodo hframe hcheck =>
    -- the frame is the expected one and passes
    exfalso
    obtain ⟨nonce', hsome⟩ := h.check_eq_some htodo hframe
    rw [hcheck] at hsome
    cases hsome
  | eof _ htodo hframe hclosed =>
    exact absurd hframe (h.frame_of_closed htodo hclosed)
  | peerBytes hphase htodo _ hbytes =>
    exfalso
    obtain ⟨a, ops, htodo', hpolls, -⟩ := hme.polling _ hphase
    -- the next message is this side's own: the peer has sent all it can
    obtain ⟨hquiet, hleft⟩ := h.causal.quiet_at h.isPrefix quietSafe_choreography
      (htodo' ▸ hme.at_todo) hpolls
    rcases hbytes with hbytes | hclosed
    · have hlen := h.wire_length_le who.other
      rw [hpeer.begun_eq, hquiet, ← hme.accepted_eq] at hlen
      omega
    -- the peer would have read messages that are still to be begun
    · have hcausal := h.causal who
      rw [(h.of_closed hclosed).1 who] at hcausal
      omega
  | _ => exact ⟨by decide, by decide⟩

theorem Healthy.update {p : Party} (h : ∀ who, Healthy c nonce who (s who))
    (hp : Healthy c nonce who p) (x : Side) :
    Healthy c nonce x (Function.update s who p x) := by
  by_cases hx : x = who
  · subst hx
    rwa [Function.update_self]
  · rw [Function.update_of_ne hx]
    exact h x

/-- Until something fails, nothing else puts a side on the failure path. -/
theorem FaultlessInv.healthy_step (h : FaultlessInv c nonce d s) {a : ControlAction}
    (hstep : ControlStep (fun _ => c) who s a s') (ha : a ≠ .fault) :
    ∀ x, Healthy c nonce x (s' x) := by
  have hhealthy := h.healthy who
  obtain ⟨hexpected, hquiet⟩ := h.step_expected hstep
  unfold Healthy at hhealthy
  cases hstep with
  | call _ _ _ => exact Healthy.update h.healthy trivial
  | sendBegin _ _ => exact Healthy.update h.healthy trivial
  | transmit _ _ _ => exact Healthy.update h.healthy trivial
  | sendReturn _ => exact Healthy.update h.healthy trivial
  | receive hphase _ _ _ =>
    refine Healthy.update h.healthy ?_
    rw [Healthy, show ((s who).accept _ _ _).phase = (s who).phase from rfl, hphase]
    trivial
  | pollBegin _ _ _ => exact Healthy.update h.healthy trivial
  | report _ _ _ => exact Healthy.update h.healthy trivial
  | pollReturn _ _ => exact Healthy.update h.healthy trivial
  | failTransmit _ hphase _ => simp [hphase] at hhealthy
  | failReturn hphase => simp [hphase] at hhealthy
  | cleanup hphase => simp [hphase] at hhealthy
  | finish hphase htodo =>
    exact Healthy.update h.healthy ⟨htodo, (h.party who).output_of hphase⟩
  | reset _ _ _ => exact absurd rfl hexpected
  | reject _ _ _ _ => exact absurd rfl hexpected
  | eof _ _ _ _ => exact absurd rfl hexpected
  | peerBytes _ _ _ _ => exact absurd rfl hquiet
  | fault _ => exact absurd rfl ha
  | kill => exact absurd rfl ha

/-! ## Nobody is stuck

As long as somebody is not at the end, somebody can go on. -/

theorem FaultlessInv.begun_le_of_waiting (h : FaultlessInv c nonce d s)
    (hframe : s.nextFrame who = none) (hready : (s who.other).phase = .ready) :
    (sent who.other (d who.other)).length ≤ (sent who.other (d who)).length := by
  have hwire : (s who.other).wire = _ := (h.party who.other).output_of hready
  have hlen := congrArg List.length hwire
  rw [(h.party who.other).length_frames h.nonce_length] at hlen
  rw [← (h.party who.other).begun_eq, ← (h.party who).accepted_eq]
  unfold ControlState.nextFrame at hframe
  dsimp only at hframe
  split at hframe
  · cases hframe
  · rename_i hshort
    rw [hlen] at hshort
    by_contra hlt
    exact hshort (Nat.mul_le_mul_left _ (by omega))

/-- A side that has not finished goes on, or waits for a frame. -/
theorem FaultlessInv.step_or_waiting (h : FaultlessInv c nonce d s)
    (hopen : (s who).phase ≠ .closed) :
    (∃ s', ControlStep (fun _ => c) who s .progress s')
      ∨ (s who).phase = .ready ∧ s.nextFrame who = none
        ∧ ∃ m ops, (s who).todo = .recv m :: ops := by
  have hhealthy := h.healthy who
  unfold Healthy at hhealthy
  cases hphase : (s who).phase with
  | closed => exact absurd hphase hopen
  | failing _ => simp [hphase] at hhealthy
  | cleanup => simp [hphase] at hhealthy
  | sending rest =>
    cases rest with
    | nil => exact Or.inl ⟨_, .sendReturn hphase⟩
    | cons b rest => exact Or.inl ⟨_, .transmit 1 hphase ⟨by decide, by simp⟩⟩
  | polling pending =>
    obtain ⟨a, ops, htodo, -, -⟩ := (h.party who).polling pending hphase
    cases pending with
    | nil => exact Or.inl ⟨_, .pollReturn hphase htodo⟩
    | cons flow pending => exact Or.inl ⟨_, .report hphase htodo List.mem_cons_self⟩
  | ready =>
    cases htodo : (s who).todo with
    | nil => exact Or.inl ⟨_, .finish hphase htodo⟩
    | cons op ops =>
      cases op with
      | act a =>
        by_cases hpolls : a.call.polls
        · exact Or.inl ⟨_, .pollBegin hphase htodo hpolls⟩
        · exact Or.inl ⟨_, .call hphase htodo hpolls⟩
      | send m => exact Or.inl ⟨_, .sendBegin hphase htodo⟩
      | recv m =>
        cases hframe : s.nextFrame who with
        | none => exact Or.inr ⟨rfl, rfl, m, ops, rfl⟩
        | some f =>
          obtain ⟨nonce', hcheck⟩ := h.check_eq_some htodo hframe
          exact Or.inl ⟨_, .receive hphase htodo hframe hcheck⟩

/-- **Until both have finished, one of them can go on.** -/
theorem FaultlessInv.step_of_not_closed (h : FaultlessInv c nonce d s)
    (hopen : (s who).phase ≠ .closed) :
    ∃ s', (control fun _ => c).step s .progress s' := by
  rcases h.step_or_waiting hopen with ⟨s', hstep⟩ | ⟨hready, hframe, m, ops, htodo⟩
  · exact ⟨s', who, hstep⟩
  by_cases hclosed : (s who.other).phase = .closed
  · exact absurd hframe (h.frame_of_closed htodo hclosed)
  rcases h.step_or_waiting hclosed with ⟨s', hstep⟩ | ⟨hready', hframe', m', ops', htodo'⟩
  · exact ⟨s', who.other, hstep⟩
  -- both wait
  have hother : (s who.other.other).phase = .ready := by rwa [Side.other_other]
  -- neither stream holds a whole frame, so neither side has begun more than was read
  have hread := h.begun_le_of_waiting hframe' hother
  rw [Side.other_other] at hread
  exact (not_both_waiting (htodo ▸ (h.party who).at_todo) (htodo' ▸ (h.party who.other).at_todo)
    (h.begun_le_of_waiting hframe hready') hread).elim

end Faultless

/-! ## Runs

The invariants in every reachable state. -/

section Runs

variable {c : RunConfig} {s : ControlState}

theorem controlInv_of_reachable (h : (control fun _ => c).Reachable s) :
    ∃ nonce d, ControlInv c nonce d s := by
  refine Reachable.induct (P := fun s => ∃ nonce d, ControlInv c nonce d s) ?_ ?_ h
  · rintro s ⟨nonce, hn, rfl⟩
    exact ⟨nonce, _, controlInv_initial hn⟩
  · rintro s a s' - ⟨nonce, d, hinv⟩ ⟨who, hstep⟩
    obtain ⟨d', hinv'⟩ := hinv.step hstep
    exact ⟨nonce, d', hinv'⟩

theorem faultlessInv_of_reachable (h : (faultless fun _ => c).Reachable s) :
    ∃ nonce d, FaultlessInv c nonce d s := by
  refine Reachable.induct (P := fun s => ∃ nonce d, FaultlessInv c nonce d s) ?_ ?_ h
  · rintro s ⟨nonce, hn, rfl⟩
    exact ⟨nonce, _, controlInv_initial hn, fun _ => Nat.le_refl _, fun _ => trivial⟩
  · rintro s a s' - ⟨nonce, d, hinv⟩ ⟨⟨who, hstep⟩, ha⟩
    obtain ⟨d', hinv'⟩ := hinv.toControlInv.step hstep
    exact ⟨nonce, d', hinv', hinv.read.step hstep, hinv.healthy_step hstep ha⟩

end Runs

/-- The two sides agree so far: nothing unexpected can happen next, both are in the same sequence
of runs, through with it if they have finished, and one of them can go on if they have not. -/
structure ControlState.InStep (config : Side → RunConfig) (s : ControlState) : Prop where
  expected : ∀ a s', (control config).step s a s' → a ≠ .unexpected ∧ a ≠ .peerBytes
  started : ∀ who, (s who).started <+: (config receiver).runs
  finished : ∀ who, (s who).Finished → (s who).started = (config receiver).runs
  goes_on : ∀ who, (s who).phase ≠ .closed → ∃ s', (control config).step s .progress s'

/-- **The two runners stay in step.** Started from configuration files with one digest, in every
interleaving without a failure neither side sees anything but what it expects, and both go
through the same runs; and in every interleaving, with failures and kills anywhere, the calls of
the two sides are ordered. -/
theorem runners_in_step {File : Type} (sha256 : File → CString 65)
    (readRunConfig : File → Option RunConfig)
    (hdigest : ∀ file c, readRunConfig file = some c → c.digest = sha256 file)
    (file : Side → File) (config : Side → RunConfig)
    (hread : ∀ who, readRunConfig (file who) = some (config who))
    (hcollision : sha256 (file receiver) = sha256 (file sender) → file receiver = file sender)
    (hsame : (config receiver).digest = (config sender).digest) :
    (∀ s, (faultless config).Reachable s → s.InStep config)
      ∧ ∀ s, (control config).Reachable s → s.Ordered config := by
  -- one digest, one file, one configuration
  obtain ⟨c, rfl⟩ : ∃ c, config = fun _ => c := by
    rw [hdigest _ _ (hread receiver), hdigest _ _ (hread sender)] at hsame
    have heq := hread receiver
    rw [hcollision hsame, hread sender] at heq
    refine ⟨config receiver, funext fun who => ?_⟩
    cases who with
    | left => rfl
    | right => exact Option.some.inj heq
  refine ⟨?_, ?_⟩
  · intro s hs
    obtain ⟨nonce, d, hinv⟩ := faultlessInv_of_reachable hs
    refine ⟨?_, ?_, ?_, ?_⟩
    · rintro a s' ⟨who, hstep⟩
      exact hinv.step_expected hstep
    · exact fun who => (hinv.party who).started_isPrefix
    · exact fun who hfin => (hinv.party who).started_of_done hfin.2
    · exact fun who hopen => hinv.step_of_not_closed hopen
  · intro s hs
    obtain ⟨nonce, d, hinv⟩ := controlInv_of_reachable hs
    exact hinv.ordered

/-- `experiment/socket-smoke.conf`: its SHA-256 and what `read_run_config` makes of it. -/
def smokeDigest : CString 65 where
  bytes := ascii [
    '5', '6', 'd', 'a', '5', 'a', '3', 'a', '8', 'a', '9', 'f', 'a', 'f', 'f', '1', '7', 'c', '3',
    '3', '0', '8', '2', 'b', '4', '5', '5', '5', '5', '6', 'c', '4', '7', 'c', '5', 'c', '8', '5',
    '3', '7', 'f', '1', 'e', '0', '3', '5', '5', '6', 'f', '2', 'e', '7', '0', 'f', '7', 'c', '7',
    '9', '6', '2', 'c', '3', 'd', '8']
  fits := by decide
  nul_free := by decide

def smokeConfig : RunConfig where
  runId :=
    ⟨ascii ['s', 'o', 'c', 'k', 'e', 't', '-', 's', 'm', 'o', 'k', 'e'], by decide, by decide⟩
  digest := smokeDigest
  modes := [.socketOnly]
  repeats := 2
  alternateModeOrder := false
  flowEnabled := fun _ => true
  xskBusy := false
  phcTracking := false
  rxCoalesce := false
  monitorOrLoad := false
  networkLoad := false
  modes_ne_nil := by decide
  modes_length_le := by decide
  repeats_le := by decide

/-- Both sides read `experiment/socket-smoke.conf`. -/
theorem runners_in_step_smoke :
    (∀ s, (faultless fun _ => smokeConfig).Reachable s → s.InStep fun _ => smokeConfig)
      ∧ ∀ s, (control fun _ => smokeConfig).Reachable s → s.Ordered fun _ => smokeConfig :=
  runners_in_step (fun _ : Unit => smokeDigest) (fun _ => some smokeConfig)
    (fun _ _ h => by
      cases h
      rfl)
    (fun _ => ()) (fun _ => smokeConfig) (fun _ => rfl) (fun _ => rfl) rfl

end AceXdp
