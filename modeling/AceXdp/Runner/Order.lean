import AceXdp.Runner.Script

/-!
# AceXdp — what the order of the control messages says

Facts about the choreography alone, read off its text once for every configuration and mode.

* `quietSafe_choreography`: after `wait_completions`, the next message is always one's own;
* `start_between`, `stop_between`, `ack_between`: which message separates which calls;
* `choreography_hello`: the `HELLO`s come first.
-/

namespace AceXdp

open Choreography

/-! ## Membership -/

@[simp]
theorem act_mem_sideDoes {who who' : Side} {k : Call} {calls : List Call} :
    Event.act who k ∈ sideDoes who' calls ↔ who' = who ∧ k ∈ calls := by
  simp only [sideDoes, List.mem_map, Event.act.injEq]
  constructor
  · rintro ⟨k', hk, rfl, rfl⟩
    exact ⟨rfl, hk⟩
  · rintro ⟨rfl, hk⟩
    exact ⟨k, hk, rfl, rfl⟩

@[simp]
theorem msg_notMem_sideDoes {src who : Side} {t : MsgType} {calls : List Call} :
    Event.msg src t ∉ sideDoes who calls := by
  simp [sideDoes]

/-! ## Quiet points -/

section Run

variable (c : RunConfig) (mode : RunMode)

/-- The calls that poll the control socket. -/
def Call.polls (k : Call) : Prop := k = .waitCompletions

theorem quietSafe_sideDoes {who : Side} {calls : List Call} (h : Call.waitCompletions ∉ calls) :
    QuietSafe Call.polls (sideDoes who calls) :=
  quietSafe_acts fun _ hk hpolls => h (hpolls ▸ hk)

theorem quietSafe_runChoreography : QuietSafe Call.polls (runChoreography c mode) := by
  have hopening : QuietSafe Call.polls (runOpening c mode) := by
    unfold runOpening
    refine quietSafe_append (quietSafe_append (quietSafe_append (quietSafe_append
      (quietSafe_append (quietSafe_sideDoes ?_) (quietSafe_sideDoes ?_)) (quietSafe_cons_msg _ _
        quietSafe_nil)) (quietSafe_sideDoes ?_)) (quietSafe_cons_msg _ _ quietSafe_nil))
        (quietSafe_sideDoes ?_)
    · simp [receiverPrepare]
    · simp [senderPrepare]
    · simp [senderArm]
    · simp [receiverWarmup]
  have hfinish : QuietSafe Call.polls (runFinish c mode) := by
    unfold runFinish
    refine quietSafe_append (quietSafe_append (quietSafe_cons_msg _ _ quietSafe_nil)
      (quietSafe_sideDoes ?_)) (quietSafe_sideDoes ?_)
    · simp [receiverFinish]
    · simp [senderFinish]
  have hdrain : QuietSafe Call.polls (runDrain c mode) := by
    unfold runDrain
    rw [List.append_assoc, List.append_assoc]
    refine quietSafe_cons_msg _ _ (quietSafe_acts_append rfl (quietSafe_cons_msg _ _
      (quietSafe_sideDoes ?_)))
    simp [senderFlush]
  -- the sender polls right before its `STOP`
  have hcapture : QuietSafe Call.polls (runCapture ++ runDrain c mode) :=
    quietSafe_cons_msg _ _ (quietSafe_cons_act (fun h => by cases h) (quietSafe_cons_act
      (fun h => by cases h) (quietSafe_cons_msg _ _ (quietSafe_cons_act (fun _ => rfl) hdrain))))
  unfold runChoreography
  rw [List.append_assoc (runOpening c mode)]
  exact quietSafe_append (quietSafe_append hopening hcapture) hfinish

/-! ## Order within a run -/

theorem ready_before_start {flow : Fin 3} (h : flow ∈ c.flows) :
    Precedes (runChoreography c mode) (.act receiver (.receiverProcess flow))
      (.msg receiver .start) := by
  unfold runChoreography
  rw [List.append_assoc, List.append_assoc]
  refine precedes_of_mem_left ?_ ?_
  · simp [runOpening]
  · simp [runOpening, receiverPrepare, h]

theorem start_before_publish :
    Precedes (runChoreography c mode) (.msg receiver .start) (.act sender .publishStart) := by
  unfold runChoreography runCapture
  rw [show runOpening c mode ++ ([.msg receiver .start] ++ sideDoes sender senderStart
      ++ [.msg sender .started, .act sender .waitCompletions]) ++ runDrain c mode
      ++ runFinish c mode = (runOpening c mode ++ [.msg receiver .start])
        ++ (sideDoes sender senderStart ++ [.msg sender .started, .act sender .waitCompletions]
          ++ runDrain c mode ++ runFinish c mode) by simp]
  refine precedes_of_mem_left ?_ ?_
  · simp [runOpening, senderPrepare, senderArm]
  · simp

theorem completions_before_stop :
    Precedes (runChoreography c mode) (.act sender .waitCompletions) (.msg sender .stop) := by
  unfold runChoreography
  rw [List.append_assoc]
  refine precedes_of_mem_left ?_ ?_
  · simp [runOpening, runCapture]
  · simp [runCapture]

theorem stop_before_request (flow : Fin 3) :
    Precedes (runChoreography c mode) (.msg sender .stop) (.act receiver (.requestStop flow)) := by
  unfold runChoreography runDrain
  rw [show runOpening c mode ++ runCapture ++ ([.msg sender .stop]
      ++ sideDoes receiver (receiverDrain c mode) ++ [.msg receiver .done]
      ++ sideDoes sender (senderFlush c)) ++ runFinish c mode
      = (runOpening c mode ++ runCapture ++ [.msg sender .stop])
        ++ (sideDoes receiver (receiverDrain c mode) ++ [.msg receiver .done]
          ++ sideDoes sender (senderFlush c) ++ runFinish c mode) by simp]
  refine precedes_of_mem_left ?_ ?_
  · simp [runOpening, runCapture, receiverPrepare, receiverWarmup]
  · simp

theorem completed_before_ack :
    Precedes (runChoreography c mode) (.act sender (.writeRun .completed)) (.msg sender .ack) := by
  unfold runChoreography
  refine precedes_of_mem_left ?_ ?_
  · simp [runOpening, runCapture, runDrain]
  · simp [runDrain, senderFlush]

/-- What the receiver does after `ACK` it does nowhere else. -/
theorem ack_before {k : Call} (hprepare : k ∉ receiverPrepare c mode)
    (hwarmup : k ∉ receiverWarmup c mode) (hdrain : k ∉ receiverDrain c mode) :
    Precedes (runChoreography c mode) (.msg sender .ack) (.act receiver k) := by
  unfold runChoreography runFinish
  rw [show runOpening c mode ++ runCapture ++ runDrain c mode ++ ([.msg sender .ack]
      ++ sideDoes receiver (receiverFinish c mode) ++ sideDoes sender senderFinish)
      = (runOpening c mode ++ runCapture ++ runDrain c mode ++ [.msg sender .ack])
        ++ (sideDoes receiver (receiverFinish c mode) ++ sideDoes sender senderFinish) by simp]
  refine precedes_of_mem_left ?_ ?_
  · simp [runOpening, runCapture, runDrain, hprepare, hwarmup, hdrain]
  · simp

theorem ack_before_stopLoader :
    Precedes (runChoreography c mode) (.msg sender .ack) (.act receiver .requestStopLoader) :=
  ack_before c mode (by simp [receiverPrepare]) (by simp [receiverWarmup])
    (by simp [receiverDrain])

theorem ack_before_complete :
    Precedes (runChoreography c mode) (.msg sender .ack) (.act receiver .createComplete) :=
  ack_before c mode (by simp [receiverPrepare]) (by simp [receiverWarmup])
    (by simp [receiverDrain])

end Run

/-! ## The whole choreography -/

section Whole

variable {c : RunConfig}

def inRun (r : Run) (e : Event Call MsgType) : Event Act Msg :=
  e.map (.mk (some r)) (.mk (some r))

def runOf : Event Act Msg → Option Run
  | .act _ a => a.run
  | .msg _ m => m.run

theorem runOf_map (run : Option Run) (e : Event Call MsgType) :
    runOf (e.map (.mk run) (.mk run)) = run := by
  cases e <;> rfl

/-- An order that each run keeps, the whole keeps. -/
theorem precedes_choreography {e₁ e₂ : Event Call MsgType} (r : Run)
    (h : ∀ mode, Precedes (runChoreography c mode) e₁ e₂) :
    Precedes (choreography c) (inRun r e₁) (inRun r e₂) := by
  have hother : ∀ (run : Option Run) (G : List (Event Call MsgType)), run ≠ some r →
      inRun r e₂ ∉ G.map (.map (.mk run) (.mk run)) := by
    intro run G hne hmem
    obtain ⟨e, -, he⟩ := List.mem_map.mp hmem
    have hrun := congrArg runOf he
    rw [inRun, runOf_map, runOf_map] at hrun
    exact hne hrun
  refine precedes_append (precedes_of_not_mem (hother none _ (by simp))) fun _ => Or.inr ?_
  refine precedes_flatMap fun r' _ => ?_
  by_cases hr : r' = r
  · subst hr
    refine precedes_map (h r'.mode) ?_
    intro e he
    cases e <;> cases e₂ <;> simp_all [Event.map]
  · exact precedes_of_not_mem (hother (some r') _ (by simpa using hr))

/-- **After `wait_completions`, the next message is one's own.** -/
theorem quietSafe_choreography :
    QuietSafe (fun a : Act => a.call.polls) (choreography c) := by
  refine quietSafe_append ?_ (quietSafe_flatMap fun r _ => ?_)
  · refine quietSafe_map (quietSafe_cons_act (fun h => by cases h) (quietSafe_cons_act
      (fun h => by cases h) (quietSafe_cons_msg _ _ (quietSafe_cons_msg _ _ quietSafe_nil))))
  · exact quietSafe_map (quietSafe_runChoreography c r.mode)

/-- The messages of the choreography: no `FAIL`, and `HELLO` exactly outside the runs. -/
theorem msg_of_choreography {src : Side} {m : Msg} (h : .msg src m ∈ choreography c) :
    m.type ≠ .fail ∧ (m.type = .hello ↔ m.run = none) := by
  rcases List.mem_append.mp h with hhello | hruns
  · obtain ⟨e, he, heq⟩ := List.mem_map.mp hhello
    simp only [helloChoreography, List.mem_cons, List.not_mem_nil, or_false] at he
    rcases he with rfl | rfl | rfl | rfl <;> cases heq <;> simp
  · obtain ⟨r, -, hmem⟩ := List.mem_flatMap.mp hruns
    obtain ⟨e, he, heq⟩ := List.mem_map.mp hmem
    cases e with
    | act _ _ => cases heq
    | msg src' t =>
      cases heq
      have ht : t ≠ .fail ∧ t ≠ .hello := by
        rw [runChoreography, runOpening, runCapture, runDrain, runFinish] at he
        simp at he
        constructor <;> rintro rfl <;> simp at he
      exact ⟨ht.1, by simp [ht.2]⟩

/-- **The `HELLO`s come first**: the sender's before any message of the receiver, and the
receiver's before any other of the sender. -/
theorem choreography_hello {m : Msg} {before after : List (Event Act Msg)}
    (h : choreography c = before ++ .msg sender m :: after) :
    m.type = .hello ↔ sent receiver before = [] := by
  have hmem : Event.msg sender m ∈ choreography c := by
    rw [h]
    simp
  rw [(msg_of_choreography hmem).2]
  -- everything after the `HELLO`s belongs to a run
  have hlater : ∀ mid, (c.runs.flatMap fun r =>
      (runChoreography c r.mode).map (Event.map (Act.mk (some r)) (Msg.mk (some r))))
        = mid ++ .msg sender m :: after → m.run ≠ none := by
    intro mid heq hnone
    have hruns := heq ▸ List.mem_append_right mid List.mem_cons_self
    obtain ⟨r, -, hr⟩ := List.mem_flatMap.mp hruns
    obtain ⟨e, -, he⟩ := List.mem_map.mp hr
    have hrun := congrArg runOf he
    rw [runOf_map] at hrun
    rw [show runOf (.msg sender m) = m.run from rfl, hnone] at hrun
    cases hrun
  rcases List.append_eq_append_iff.mp h with ⟨mid, rfl, hmid⟩ | ⟨mid, hbefore, hmid⟩
  · refine iff_of_false (hlater mid hmid) ?_
    simp [helloChoreography, Event.map]
  · cases mid with
    | nil =>
      refine iff_of_false (hlater [] hmid.symm) ?_
      rw [← List.append_nil before, ← hbefore]
      simp [helloChoreography, Event.map]
    | cons e mid =>
      obtain ⟨rfl, -⟩ := List.cons.inj hmid
      simp only [helloChoreography, Event.map, List.map_cons, List.map_nil] at hbefore
      rcases before with _ | ⟨e₁, _ | ⟨e₂, _ | ⟨e₃, _ | ⟨e₄, before⟩⟩⟩⟩ <;>
        simp at hbefore
      obtain ⟨rfl, rfl, rfl, -⟩ := hbefore
      exact iff_of_true rfl rfl

/-- The receiver's `HELLO` and the sender's stand before everything in a run. -/
theorem hello_before_run (src : Side) {e : Event Act Msg} {r : Run} (h : runOf e = some r) :
    Precedes (choreography c) (.msg src ⟨none, .hello⟩) e := by
  refine precedes_of_mem_left ?_ ?_
  · intro hmem
    obtain ⟨e', -, rfl⟩ := List.mem_map.mp hmem
    rw [runOf_map] at h
    cases h
  · cases src <;> simp [helloChoreography, Event.map]

theorem run_mem_of_choreography {e : Event Act Msg} {r : Run} (he : e ∈ choreography c)
    (h : runOf e = some r) : r ∈ c.runs := by
  rcases List.mem_append.mp he with hhello | hruns
  · obtain ⟨e', -, rfl⟩ := List.mem_map.mp hhello
    rw [runOf_map] at h
    cases h
  · obtain ⟨r', hr, hmem⟩ := List.mem_flatMap.mp hruns
    obtain ⟨e', -, rfl⟩ := List.mem_map.mp hmem
    rw [runOf_map] at h
    cases h
    exact hr

/-- Each side's first message is its `HELLO`, and no other is. -/
theorem sent_choreography (src : Side) :
    ∃ tail, sent src (choreography c) = ⟨none, .hello⟩ :: tail ∧ ∀ m ∈ tail, m.type ≠ .hello := by
  refine ⟨sent src (c.runs.flatMap fun r =>
    (runChoreography c r.mode).map (Event.map (Act.mk (some r)) (Msg.mk (some r)))), ?_, ?_⟩
  · unfold choreography
    rw [sent_append]
    cases src <;> rfl
  · intro m hm htype
    have hmem := mem_sent.mp hm
    rw [(msg_of_choreography (List.mem_append_right _ hmem)).2] at htype
    obtain ⟨r, -, hr⟩ := List.mem_flatMap.mp hmem
    obtain ⟨e, -, he⟩ := List.mem_map.mp hr
    have hrun := congrArg runOf he
    rw [runOf_map, show runOf (.msg src m) = m.run from rfl, htype] at hrun
    cases hrun

end Whole

end AceXdp
