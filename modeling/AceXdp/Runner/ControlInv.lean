import AceXdp.Runner.Control

/-!
# AceXdp — where the two runners are

Each side is at some place of the choreography, and what it has put on the stream is the frames
of the messages it passed there. `PartyInv` says so for one side, with the failure paths: a
stream may be torn and end in `FAIL`. Between the sides only `Causal` holds.

* `PartyInv.begun_of_check`: a frame that passes the checks was begun as a message;
* `ControlInv.step`: every step keeps the invariant, failures and kills included.
-/

namespace AceXdp

open Choreography Framing Transition Transition.System

/-! ## What a side has written

The bytes on the wire are the frames of the messages that a side has begun, the last one possibly
cut. -/

/-- The nonce in a frame: the sender's `HELLO` goes out before it has one. -/
def messageNonce (nonce : List UInt8) (who : Side) (m : Msg) : List UInt8 :=
  if who = sender ∧ m.type = .hello then zeroNonce else nonce

def messageBytes (c : RunConfig) (nonce : List UInt8) (who : Side) (m : Msg) : List UInt8 :=
  (messageFrame c.digest (messageNonce nonce who m) (m.label c)).bytes

structure FailFrame (f : Frame) : Prop where
  sized : f.Sized
  type : f.type = MsgType.fail.code

/-- What is on the stream of a side that is not in the middle of a frame. -/
def Stream (frames wire : List UInt8) : Prop :=
  wire <+: frames
    ∨ ∃ f rest, FailFrame f ∧ Torn frames f.bytes wireSize wire rest

def Output (frames wire : List UInt8) : Phase → Prop
  | .ready => wire = frames
  | .polling _ => wire = frames
  | .sending rest => wire ++ rest = frames
  | .failing rest => ∃ f, FailFrame f ∧ Torn frames f.bytes wireSize wire rest
  | .cleanup => Stream frames wire
  | .closed => Stream frames wire

theorem Output.stream {frames wire : List UInt8} {phase : Phase} (h : Output frames wire phase) :
    Stream frames wire := by
  cases phase with
  | ready => exact Or.inl (h ▸ List.prefix_rfl)
  | polling _ => exact Or.inl (h ▸ List.prefix_rfl)
  | sending rest => exact Or.inl ⟨rest, h⟩
  | failing rest =>
    obtain ⟨f, hf, htorn⟩ := h
    exact Or.inr ⟨f, rest, hf, htorn⟩
  | cleanup => exact h
  | closed => exact h

section Messages

variable {c : RunConfig} {nonce : List UInt8}

theorem label_index_lt {m : Msg} (h : ∀ r, m.run = some r → r ∈ c.runs) :
    (m.label c).index < 2 ^ 32 := by
  unfold Msg.label
  cases hrun : m.run with
  | none => exact Nat.two_pow_pos 32
  | some r => exact (RunConfig.runs_index (h r hrun)).2

theorem label_type (m : Msg) : (m.label c).type = m.type := by
  unfold Msg.label
  cases m.run <;> rfl

theorem length_messageNonce (hn : nonce.length = 16) (who : Side) (m : Msg) :
    (messageNonce nonce who m).length = 16 := by
  unfold messageNonce
  split
  · rfl
  · exact hn

theorem messageFrame_sized_of_mem (hn : nonce.length = 16) (who : Side) {src : Side} {m : Msg}
    (hm : .msg src m ∈ choreography c) :
    (messageFrame c.digest (messageNonce nonce who m) (m.label c)).Sized :=
  messageFrame_sized (length_messageNonce hn who m)
    (label_index_lt fun _ hr => run_mem_of_choreography hm hr)

theorem length_messageBytes (hn : nonce.length = 16) (who : Side) {src : Side} {d : List _}
    (hd : d <+: choreography c) {m : Msg} (hm : m ∈ sent src d) :
    (messageBytes c nonce who m).length = wireSize :=
  (messageFrame_sized_of_mem hn who (hd.subset (mem_sent.mp hm))).length_bytes

end Messages

/-! ## The invariant of a side

Where a side is in the common text determines what it has sent and accepted, its nonce and what it
has still to do. -/

/-- `who` has passed `d`. -/
structure PartyInv (c : RunConfig) (nonce : List UInt8) (who : Side) (p : Party)
    (d : List (Event Act Msg)) : Prop where
  at_todo : At who (choreography c) d p.todo
  done_eq : p.done = acts who d
  begun_eq : p.begun = sent who d
  accepted_eq : p.accepted = sent who.other d
  nonce_eq : p.nonce = if who = sender ∧ p.accepted = [] then zeroNonce else nonce
  output : Output (p.begun.flatMap (messageBytes c nonce who)) p.wire p.phase
  -- its `HELLO` is out before its first run
  intact : p.started ≠ [] → wireSize ≤ p.wire.length
  polled : ∀ a ∈ p.done, a.call.polls → ∀ flow ∈ c.flows, (a.run, flow) ∈ p.reported
  polling : ∀ pending, p.phase = .polling pending → ∃ a ops, p.todo = .act a :: ops
    ∧ a.call.polls ∧ ∀ flow ∈ c.flows, flow ∈ pending ∨ (a.run, flow) ∈ p.reported

section Party

variable {c : RunConfig} {nonce : List UInt8} {who : Side} {p : Party}
  {d : List (Event Act Msg)}

theorem mem_startedRuns {done : List Act} {r : Run} :
    r ∈ startedRuns done ↔ ⟨some r, .startRun⟩ ∈ done := by
  unfold startedRuns
  rw [List.mem_filterMap]
  constructor
  · rintro ⟨⟨run, call⟩, ha, hr⟩
    dsimp only at hr
    split at hr
    · rename_i hcall
      rw [← hr, ← hcall]
      exact ha
    · cases hr
  · intro ha
    exact ⟨_, ha, by simp⟩

theorem PartyInv.length_frames (h : PartyInv c nonce who p d) (hn : nonce.length = 16) :
    (p.begun.flatMap (messageBytes c nonce who)).length = wireSize * p.begun.length := by
  rw [h.begun_eq]
  exact Framing.length_frames fun m hm => length_messageBytes hn who h.at_todo.isPrefix hm

theorem PartyInv.hello_of_started (h : PartyInv c nonce who p d) {r : Run} {call : Call}
    (ha : ⟨some r, call⟩ ∈ p.done) (src : Side) : ⟨none, .hello⟩ ∈ sent src d := by
  rw [h.done_eq, mem_acts] at ha
  exact mem_sent.mpr ((hello_before_run src rfl).mem h.at_todo.isPrefix ha)

theorem PartyInv.nonce_of_accepted (h : PartyInv c nonce who p d) (ha : p.accepted ≠ []) :
    p.nonce = nonce := by
  rw [h.nonce_eq, if_neg fun hx => ha hx.2]

theorem PartyInv.length_nonce (h : PartyInv c nonce who p d) (hn : nonce.length = 16) :
    p.nonce.length = 16 := by
  rw [h.nonce_eq]
  split
  · rfl
  · exact hn

/-- **A call returns.** -/
theorem PartyInv.finishCall (h : PartyInv c nonce who p d) (hn : nonce.length = 16) {a : Act}
    {ops : List (Op Act Msg)} (htodo : p.todo = .act a :: ops)
    (hwire : p.wire = p.begun.flatMap (messageBytes c nonce who))
    (hpolled : a.call.polls → ∀ flow ∈ c.flows, (a.run, flow) ∈ p.reported) :
    ∃ d', d <+: d' ∧ (∀ src, sent src d' = sent src d)
      ∧ PartyInv c nonce who (p.finishCall a ops) d' := by
  obtain ⟨d', hat, hpre, hacts, hsent⟩ := At.act (htodo ▸ h.at_todo)
  have hdone : p.done ++ [a] = acts who d' := by rw [hacts, h.done_eq]
  refine ⟨d', hpre, hsent, ⟨hat, hdone, (hsent who).symm ▸ h.begun_eq,
    (hsent who.other).symm ▸ h.accepted_eq, h.nonce_eq, hwire, ?_, ?_, ?_⟩⟩
  -- a run has begun: the `HELLO` is among the frames, and all of them are out
  · intro hstarted
    obtain ⟨r, hr⟩ := List.exists_mem_of_ne_nil _ hstarted
    have hrun : Event.act who ⟨some r, .startRun⟩ ∈ d' := by
      rw [← mem_acts, ← hdone]
      exact mem_startedRuns.mp hr
    have hhello := (hello_before_run who rfl).mem hat.isPrefix hrun
    rw [← mem_sent, hsent who, ← h.begun_eq] at hhello
    have hpos := List.length_pos_of_mem hhello
    show wireSize ≤ p.wire.length
    rw [hwire, h.length_frames hn]
    exact Nat.le_mul_of_pos_right _ hpos
  · intro b hb hpolls
    rcases List.mem_append.mp hb with hb | hb
    · exact h.polled b hb hpolls
    · cases List.mem_singleton.mp hb
      exact hpolled hpolls
  · intro pending hphase
    cases hphase

/-- **A message is begun.** Its nonce is the one every later reader expects. -/
theorem PartyInv.beginSend (h : PartyInv c nonce who p d) {m : Msg} {ops : List (Op Act Msg)}
    (hphase : p.phase = .ready) (htodo : p.todo = .send m :: ops) :
    ∃ d', d <+: d' ∧ sent who.other d' = sent who.other d
      ∧ PartyInv c nonce who (p.beginSend c m ops) d' := by
  have hat₀ : At who (choreography c) d (.send m :: ops) := htodo ▸ h.at_todo
  obtain ⟨d', hat, hpre, hacts, hbegun, haccepted⟩ := hat₀.send
  -- the sender's `HELLO` is the one message it sends before it has accepted any
  have hnonce : p.nonce = messageNonce nonce who m := by
    rw [h.nonce_eq]
    unfold messageNonce
    by_cases hwho : who = sender
    · subst hwho
      obtain ⟨before, after, hsplit, hbefore⟩ := hat₀.send_split
      have hhello := choreography_hello hsplit
      rw [show sent receiver before = sent sender.other d from hbefore, ← h.accepted_eq] at hhello
      simp only [hhello]
    · simp only [hwho, false_and]
  have hout := h.output
  rw [hphase] at hout
  refine ⟨d', hpre, haccepted, ⟨hat, hacts.symm ▸ h.done_eq, ?_, haccepted.symm ▸ h.accepted_eq,
    h.nonce_eq, ?_, h.intact, h.polled, ?_⟩⟩
  · rw [hbegun, ← h.begun_eq]
    rfl
  · show p.wire ++ (messageFrame c.digest p.nonce (m.label c)).bytes
      = (p.begun ++ [m]).flatMap (messageBytes c nonce who)
    rw [hnonce, show p.wire = _ from hout, List.flatMap_append, List.flatMap_singleton]
    rfl
  · intro pending hpolling
    cases hpolling

/-- **A message is accepted**, with the receiver's nonce. -/
theorem PartyInv.accept (h : PartyInv c nonce who p d) {m : Msg} {ops : List (Op Act Msg)}
    (hphase : p.phase = .ready) (htodo : p.todo = .recv m :: ops) :
    ∃ d', d <+: d' ∧ sent who.other d' = sent who.other d ++ [m]
      ∧ PartyInv c nonce who (p.accept m ops nonce) d' := by
  obtain ⟨d', hat, hpre, hacts, hbegun, haccepted⟩ := At.recv (htodo ▸ h.at_todo)
  refine ⟨d', hpre, haccepted, ⟨hat, hacts.symm ▸ h.done_eq, hbegun.symm ▸ h.begun_eq, ?_, ?_,
    h.output, h.intact, h.polled, ?_⟩⟩
  · rw [haccepted, ← h.accepted_eq]
    rfl
  · simp [Party.accept]
  · intro pending hpolling
    rw [show (p.accept m ops nonce).phase = p.phase from rfl, hphase] at hpolling
    cases hpolling

/-- **A failure.** What it was writing is torn, and `FAIL` follows. -/
theorem PartyInv.fail (h : PartyInv c nonce who p d) (hn : nonce.length = 16)
    (hwire : p.wire <+: p.begun.flatMap (messageBytes c nonce who)) :
    PartyInv c nonce who (p.fail c) d := by
  unfold Party.fail
  cases hrun : p.started.getLast? with
  | none =>
    exact ⟨h.at_todo, h.done_eq, h.begun_eq, h.accepted_eq, h.nonce_eq, Or.inl hwire, h.intact,
      h.polled, fun _ hpolling => by cases hpolling⟩
  | some r =>
    -- `FAIL` carries the run it failed in
    have hr : r ∈ p.started := List.mem_of_getLast? hrun
    have hruns : r ∈ c.runs := by
      have hact := mem_startedRuns.mp hr
      rw [h.done_eq, mem_acts] at hact
      exact run_mem_of_choreography (h.at_todo.isPrefix.subset hact) rfl
    have hfail : FailFrame (messageFrame c.digest p.nonce (Msg.label c ⟨some r, .fail⟩)) :=
      ⟨messageFrame_sized (h.length_nonce hn) (label_index_lt fun r' hr' => by
        cases hr'
        exact hruns), rfl⟩
    exact ⟨h.at_todo, h.done_eq, h.begun_eq, h.accepted_eq, h.nonce_eq,
      ⟨_, hfail, torn_start hwire (h.intact (List.ne_nil_of_mem hr))⟩, h.intact, h.polled,
      fun _ hpolling => by cases hpolling⟩

/-- **Everything else**: a phase and a longer stream. -/
theorem PartyInv.rephase (h : PartyInv c nonce who p d) (phase : Phase) (more : List UInt8)
    (hout : Output (p.begun.flatMap (messageBytes c nonce who)) (p.wire ++ more) phase)
    (hpoll : ∀ pending, phase ≠ .polling pending) :
    PartyInv c nonce who { p with phase := phase, wire := p.wire ++ more } d := by
  refine ⟨h.at_todo, h.done_eq, h.begun_eq, h.accepted_eq, h.nonce_eq, hout, ?_, h.polled,
    fun pending hpolling => absurd hpolling (hpoll pending)⟩
  intro hstarted
  have hlen := h.intact hstarted
  simp only [List.length_append]
  omega

/-- **The end**, in whatever phase it comes. -/
theorem PartyInv.enter (h : PartyInv c nonce who p d) {phase : Phase}
    (hphase : phase = .cleanup ∨ phase = .closed) :
    PartyInv c nonce who { p with phase := phase } d := by
  have hp := h.rephase phase [] (by
    rw [List.append_nil]
    rcases hphase with rfl | rfl <;> exact h.output.stream)
    fun _ hx => by rcases hphase with rfl | rfl <;> cases hx
  rwa [List.append_nil] at hp

/-! ## What the other side reads

A frame that passes the checks is the next message of the other side, since the checks compare all
that distinguishes the messages. -/

/-- **An accepted frame was begun as a message.** Past those there is at most a `FAIL`. -/
theorem PartyInv.begun_of_check (h : PartyInv c nonce who p d) (hn : nonce.length = 16) {k : Nat}
    (hlen : wireSize * (k + 1) ≤ p.wire.length) {isReceiver : Bool} {digest : CString 65}
    {expected nonce' : List UInt8} {l : MsgLabel} (hl : l.type ≠ .fail)
    (hcheck : messageCheck isReceiver digest expected l (decodeFrame (block wireSize k p.wire))
      = some nonce') : k < p.begun.length := by
  by_contra hk
  have hframes := h.length_frames hn
  -- a stream that ends in frames is too short; one that ends in `FAIL` fails the type check
  rcases h.output.stream with hpre | ⟨f, rest, hf, htorn⟩
  · have hle := hpre.length_le
    simp only [wireSize] at hlen hframes
    omega
  · have hsize : ∀ m ∈ p.begun, (messageBytes c nonce who m).length = wireSize := by
      rw [h.begun_eq]
      exact fun m hm => length_messageBytes hn who h.at_todo.isPrefix hm
    rw [htorn.block hsize hf.sized.length_bytes (by omega) hlen, hf.sized.decodeFrame_bytes,
      messageCheck_type] at hcheck
    · cases hcheck
    · rw [hf.type]
      exact fun heq => hl (MsgType.code_inj heq).symm

theorem PartyInv.begun_cons (h : PartyInv c nonce who p d) (hb : p.begun ≠ []) :
    ∃ later, p.begun = ⟨none, .hello⟩ :: later := by
  obtain ⟨tail, htail, -⟩ := sent_choreography (c := c) who
  obtain ⟨rest, hrest⟩ := h.at_todo.isPrefix
  rw [← hrest, sent_append, ← h.begun_eq] at htail
  cases hbegun : p.begun with
  | nil => exact absurd hbegun hb
  | cons m later =>
    rw [hbegun] at htail
    obtain ⟨rfl, -⟩ := List.cons.inj htail
    exact ⟨later, rfl⟩

/-- **The first frame is the `HELLO`**, torn stream or not. -/
theorem PartyInv.hello_frame (h : PartyInv c nonce who p d) (hn : nonce.length = 16)
    (hb : p.begun ≠ []) (hlen : wireSize * (0 + 1) ≤ p.wire.length) :
    decodeFrame (block wireSize 0 p.wire)
      = messageFrame c.digest (messageNonce nonce who ⟨none, .hello⟩)
        (Msg.label c ⟨none, .hello⟩) := by
  obtain ⟨later, hbegun⟩ := h.begun_cons hb
  have hsize : ∀ m ∈ [] ++ ⟨none, .hello⟩ :: later,
      (messageBytes c nonce who m).length = wireSize := by
    rw [List.nil_append, ← hbegun, h.begun_eq]
    exact fun m hm => length_messageBytes hn who h.at_todo.isPrefix hm
  have hblock : block wireSize 0 p.wire = messageBytes c nonce who ⟨none, .hello⟩ := by
    have hstream := h.output.stream
    rw [hbegun] at hstream
    rcases hstream with hpre | ⟨f, rest, -, htorn⟩
    · exact block_eq_frame hsize hpre hlen
    -- nothing is torn before the first run
    · rw [htorn.block_intact (Nat.le_refl _)]
      refine block_eq_frame hsize List.prefix_rfl ?_
      have htotal := Framing.length_frames hsize
      rw [List.nil_append] at htotal
      rw [htotal]
      exact Nat.mul_le_mul_left _ (by simp)
  have hmem : Event.msg who ⟨none, .hello⟩ ∈ choreography c := by
    rw [← mem_sent]
    obtain ⟨tail, htail, -⟩ := sent_choreography (c := c) who
    rw [htail]
    exact List.mem_cons_self
  rw [hblock, messageBytes, (messageFrame_sized_of_mem hn who hmem).decodeFrame_bytes]

end Party

/-! ## The invariant of both

Neither side is ahead of what the other has begun. -/

/-- Where the sides are, and that neither has passed a message the other has not begun. -/
structure ControlInv (c : RunConfig) (nonce : List UInt8) (d : Side → List (Event Act Msg))
    (s : ControlState) : Prop where
  nonce_length : nonce.length = 16
  causal : Causal d
  party : ∀ who, PartyInv c nonce who (s who) (d who)

section Control

variable {c : RunConfig} {nonce : List UInt8} {d : Side → List (Event Act Msg)}
  {s s' : ControlState} {who : Side}

theorem controlInv_initial (hn : nonce.length = 16) :
    ControlInv c nonce (fun _ => []) (.initial (fun _ => c) nonce) := by
  refine ⟨hn, fun _ => Nat.le_refl _, fun who => ⟨?_, rfl, rfl, rfl, ?_, rfl, ?_, ?_, ?_⟩⟩
  · show At who (choreography c) [] (mainProgram c who)
    rw [← project_choreography]
    exact at_start
  · cases who <;> simp [ControlState.initial]
  · exact fun h => absurd rfl h
  · exact fun a ha => absurd ha List.not_mem_nil
  · exact fun pending h => by cases h

theorem ControlInv.isPrefix (h : ControlInv c nonce d s) (who : Side) :
    d who <+: choreography c :=
  (h.party who).at_todo.isPrefix

/-- One side goes on. -/
theorem ControlInv.update (h : ControlInv c nonce d s) {p : Party} {d' : List (Event Act Msg)}
    (hpre : d who <+: d')
    (hread : (sent who.other d').length ≤ (sent who.other (d who.other)).length)
    (hp : PartyInv c nonce who p d') :
    ControlInv c nonce (Function.update d who d') (Function.update s who p) := by
  refine ⟨h.nonce_length, ?_, ?_⟩
  · intro src
    rcases Side.eq_or_eq_other src who with rfl | rfl
    · rw [Function.update_self, Function.update_of_ne (Side.other_ne src)]
      exact (h.causal src).trans (sent_length_mono _ hpre)
    · rw [Side.other_other, Function.update_self, Function.update_of_ne (Side.other_ne who)]
      exact hread
  · intro other
    by_cases hwho : other = who
    · subst hwho
      rw [Function.update_self, Function.update_self]
      exact hp
    · rw [Function.update_of_ne hwho, Function.update_of_ne hwho]
      exact h.party other

theorem ControlInv.update_here (h : ControlInv c nonce d s) {p : Party}
    (hp : PartyInv c nonce who p (d who)) :
    ∃ d', ControlInv c nonce d' (Function.update s who p) := by
  refine ⟨_, h.update List.prefix_rfl ?_ hp⟩
  have hcausal := h.causal who.other
  rwa [Side.other_other] at hcausal

theorem nextFrame_eq_some {f : Frame} (h : s.nextFrame who = some f) :
    wireSize * ((s who).accepted.length + 1) ≤ (s who.other).wire.length
      ∧ f = decodeFrame (block wireSize (s who).accepted.length (s who.other).wire) := by
  unfold ControlState.nextFrame at h
  dsimp only at h
  split at h
  · rename_i hlen
    exact ⟨hlen, (Option.some.inj h).symm⟩
  · cases h

/-- A message to come is one of the choreography, a `HELLO` exactly if it is the first. -/
theorem PartyInv.recv_hello {p : Party} {d : List (Event Act Msg)}
    (h : PartyInv c nonce who p d) {m : Msg} {ops : List (Op Act Msg)}
    (htodo : p.todo = .recv m :: ops) :
    m.type ≠ .fail ∧ (m.type = .hello ↔ p.accepted = []) := by
  obtain ⟨d', hat, -, -, -, haccepted⟩ := At.recv (htodo ▸ h.at_todo)
  rw [← h.accepted_eq] at haccepted
  have hmem : m ∈ sent who.other d' := by
    rw [haccepted]
    simp
  refine ⟨(msg_of_choreography (hat.isPrefix.subset (mem_sent.mp hmem))).1, ?_⟩
  obtain ⟨tail, htail, hlater⟩ := sent_choreography (c := c) who.other
  obtain ⟨rest, hrest⟩ := hat.isPrefix
  rw [← hrest, sent_append, haccepted] at htail
  -- the first message of the peer is its `HELLO`, the later ones are not
  cases hlist : p.accepted with
  | nil =>
    rw [hlist] at htail
    obtain ⟨rfl, -⟩ := List.cons.inj htail
    exact iff_of_true rfl rfl
  | cons m' later =>
    rw [hlist] at htail
    obtain ⟨-, htail⟩ := List.cons.inj htail
    refine iff_of_false (hlater m ?_) (by simp)
    rw [← htail]
    simp

/-- **An accepted frame leaves the receiver's nonce.** -/
theorem ControlInv.nonce_of_check (h : ControlInv c nonce d s) {m : Msg}
    {ops : List (Op Act Msg)} {f : Frame} {nonce' : List UInt8}
    (htodo : (s who).todo = .recv m :: ops) (hframe : s.nextFrame who = some f)
    (hcheck : messageCheck (who = receiver) c.digest (s who).nonce (m.label c) f = some nonce') :
    (s who).accepted.length < (s who.other).begun.length ∧ nonce' = nonce := by
  have hme := h.party who
  have hpeer := h.party who.other
  obtain ⟨hlen, rfl⟩ := nextFrame_eq_some hframe
  obtain ⟨hfail, hhello⟩ := hme.recv_hello htodo
  have hbegun := hpeer.begun_of_check h.nonce_length hlen (by rwa [label_type]) hcheck
  refine ⟨hbegun, ?_⟩
  rw [messageCheck_nonce hcheck, label_type]
  cases who with
  | left =>
    rw [if_neg (by simp), hme.nonce_eq, if_neg (by simp)]
  | right =>
    by_cases hfirst : (s sender).accepted = []
    -- the sender takes its nonce from the receiver's `HELLO`
    · rw [hfirst] at hlen
      have hframe := hpeer.hello_frame h.nonce_length
        (List.ne_nil_of_length_pos (Nat.zero_lt_of_lt hbegun)) hlen
      rw [if_pos ⟨hhello.mpr hfirst, by simp⟩, hfirst]
      exact congrArg Frame.nonce hframe
    · rw [if_neg fun hx => hfirst (hhello.mp hx.1)]
      exact hme.nonce_of_accepted hfirst

/-! ## Every step keeps it

One case for each rule of the step relation. -/

theorem PartyInv.output_of {p : Party} {d : List (Event Act Msg)} {phase : Phase}
    (h : PartyInv c nonce who p d) (hphase : p.phase = phase) :
    Output (p.begun.flatMap (messageBytes c nonce who)) p.wire phase :=
  hphase ▸ h.output

theorem PartyInv.wire_of_canFail {p : Party} {d : List (Event Act Msg)}
    (h : PartyInv c nonce who p d) (hfail : p.canFail) :
    p.wire <+: p.begun.flatMap (messageBytes c nonce who) := by
  cases hphase : p.phase with
  | ready => exact ⟨[], (List.append_nil _).trans (h.output_of hphase)⟩
  | sending rest => exact ⟨rest, h.output_of hphase⟩
  | polling pending => exact ⟨[], (List.append_nil _).trans (h.output_of hphase)⟩
  | failing rest => simp [Party.canFail, hphase] at hfail
  | cleanup => simp [Party.canFail, hphase] at hfail
  | closed => simp [Party.canFail, hphase] at hfail

theorem ControlInv.read_of_eq (h : ControlInv c nonce d s) {d' : List (Event Act Msg)}
    (hsent : sent who.other d' = sent who.other (d who)) :
    (sent who.other d').length ≤ (sent who.other (d who.other)).length := by
  have hcausal := h.causal who.other
  rw [Side.other_other] at hcausal
  rwa [hsent]

/-- **Every step keeps the invariant.** -/
theorem ControlInv.step (h : ControlInv c nonce d s) {a : ControlAction}
    (hstep : ControlStep (fun _ => c) who s a s') : ∃ d', ControlInv c nonce d' s' := by
  have hme := h.party who
  have hn := h.nonce_length
  cases hstep with
  | call hphase htodo hcall =>
    obtain ⟨d', hpre, hsent, hp⟩ := hme.finishCall hn htodo (hme.output_of hphase)
      fun hpolls => absurd hpolls hcall
    exact ⟨_, h.update hpre (h.read_of_eq (hsent _)) hp⟩
  | sendBegin hphase htodo =>
    obtain ⟨d', hpre, hsent, hp⟩ := hme.beginSend hphase htodo
    exact ⟨_, h.update hpre (h.read_of_eq hsent) hp⟩
  | @transmit rest k hphase hk =>
    -- the bytes move from what is left to the stream
    refine h.update_here (hme.rephase _ _ ?_ fun _ hx => by cases hx)
    show (s who).wire ++ rest.take k ++ rest.drop k = _
    rw [List.append_assoc, List.take_append_drop]
    exact hme.output_of hphase
  | sendReturn hphase =>
    have hout : (s who).wire ++ [] = _ := hme.output_of hphase
    have hp := hme.rephase .ready [] hout fun _ hx => by cases hx
    rw [List.append_nil] at hp
    exact h.update_here hp
  | reset hphase _ _ => exact h.update_here (hme.fail hn ⟨_, hme.output_of hphase⟩)
  | receive hphase htodo hframe hcheck =>
    -- the check does not look at the peer's state, but what passes it was begun there
    obtain ⟨hbegun, rfl⟩ := h.nonce_of_check htodo hframe hcheck
    obtain ⟨d', hpre, hsent, hp⟩ := hme.accept hphase htodo
    refine ⟨_, h.update hpre ?_ hp⟩
    rw [hsent, ← hme.accepted_eq, List.length_append, ← (h.party who.other).begun_eq]
    exact hbegun
  | reject hphase htodo _ _ =>
    exact h.update_here (hme.fail hn ⟨[], (List.append_nil _).trans (hme.output_of hphase)⟩)
  | eof hphase _ _ _ =>
    exact h.update_here (hme.fail hn ⟨[], (List.append_nil _).trans (hme.output_of hphase)⟩)
  | @pollBegin b ops hphase htodo hcall =>
    have hout : (s who).wire = _ := hme.output_of hphase
    refine h.update_here ⟨hme.at_todo, hme.done_eq, hme.begun_eq, hme.accepted_eq, hme.nonce_eq,
      hout, hme.intact, hme.polled, ?_⟩
    rintro _ ⟨⟩
    exact ⟨b, ops, htodo, hcall, fun flow hflow => Or.inl hflow⟩
  | @report b ops pending flow hphase htodo hflow =>
    have hout : (s who).wire = _ := hme.output_of hphase
    have hkeep : ∀ x ∈ (s who).reported, x ∈ (s who).reported ++ [(b.run, flow)] :=
      fun x hx => List.mem_append_left _ hx
    refine h.update_here ⟨hme.at_todo, hme.done_eq, hme.begun_eq, hme.accepted_eq, hme.nonce_eq,
      hout, hme.intact, fun a ha hpolls i hi => hkeep _ (hme.polled a ha hpolls i hi), ?_⟩
    rintro _ ⟨⟩
    -- the flow that reported leaves the pending ones
    obtain ⟨a, ops', htodo', hpolls, hflows⟩ := hme.polling pending hphase
    obtain ⟨rfl, rfl⟩ : b = a ∧ ops = ops' := by
      rw [htodo] at htodo'
      cases htodo'
      exact ⟨rfl, rfl⟩
    refine ⟨b, ops, htodo, hpolls, fun i hi => ?_⟩
    by_cases hi' : i = flow
    · subst hi'
      exact Or.inr (List.mem_append_right _ List.mem_cons_self)
    · rcases hflows i hi with hpending | hreported
      · exact Or.inl ((List.mem_erase_of_ne hi').mpr hpending)
      · exact Or.inr (hkeep _ hreported)
  | pollReturn hphase htodo =>
    -- nothing is pending, so every flow has reported
    obtain ⟨a, ops', htodo', -, hflows⟩ := hme.polling [] hphase
    rw [htodo] at htodo'
    cases htodo'
    obtain ⟨d', hpre, hsent, hp⟩ := hme.finishCall hn htodo (hme.output_of hphase)
      fun _ flow hflow => (hflows flow hflow).resolve_left List.not_mem_nil
    exact ⟨_, h.update hpre (h.read_of_eq (hsent _)) hp⟩
  | peerBytes hphase _ _ _ =>
    exact h.update_here (hme.fail hn ⟨[], (List.append_nil _).trans (hme.output_of hphase)⟩)
  | fault hfail => exact h.update_here (hme.fail hn (hme.wire_of_canFail hfail))
  | @failTransmit rest k hphase hk =>
    obtain ⟨f, hf, htorn⟩ := hme.output_of hphase
    exact h.update_here (hme.rephase _ _ ⟨f, hf, htorn.transmit k⟩ fun _ hx => by cases hx)
  | failReturn hphase => exact h.update_here (hme.enter (Or.inl rfl))
  | cleanup hphase => exact h.update_here (hme.enter (Or.inr rfl))
  | kill => exact h.update_here (hme.enter (Or.inr rfl))
  | finish hphase htodo => exact h.update_here (hme.enter (Or.inr rfl))

end Control

end AceXdp
