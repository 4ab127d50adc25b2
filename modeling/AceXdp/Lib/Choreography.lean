import Mathlib.Data.List.Infix

/-!
# Choreographies — two sequential programs over FIFO channels

A choreography is one list of events: an action of one side, or a message from one side to the
other. Each side runs its *projection*, as far ahead of the other as the messages allow. Where a
side is, is the part of the choreography it has passed; the only constraint between the two is
`Causal`, that nobody has passed a message its sender has not begun.

* **`Causal.passed`** — whoever has passed a message knows that its sender got there;
* **`Causal.quiet`** — a side about to send the next message has received all there is;
* **`Precedes`** — the static order that turns the first of these into "only after".
-/

namespace Choreography

universe u v

/-- The two parties. -/
inductive Side where
  | left | right
  deriving DecidableEq, Repr

def Side.other : Side → Side
  | .left => .right
  | .right => .left

/-- The other of the other is oneself. -/
@[simp]
theorem Side.other_other (s : Side) : s.other.other = s := by cases s <;> rfl

@[simp]
theorem Side.other_ne (s : Side) : s.other ≠ s := by cases s <;> decide

theorem Side.eq_or_eq_other (s t : Side) : s = t ∨ s = t.other := by
  cases s <;> cases t <;> simp [Side.other]

/-- One event of the common text: a side acts, or sends a message that the other receives. -/
inductive Event (A : Type u) (M : Type v) where
  | act (who : Side) (a : A)
  | msg (src : Side) (m : M)
  deriving DecidableEq, Repr

/-- What one side does at an event. -/
inductive Op (A : Type u) (M : Type v) where
  | act (a : A)
  | send (m : M)
  | recv (m : M)
  deriving DecidableEq, Repr

variable {A : Type u} {M : Type v}

/-! ## Projections

Each side runs its own part of the text. What it does (`acts`) and what it sends (`sent`) are read
off the common text, which is how the two runs are compared. -/

/-- The part of a side in an event, if it has one. -/
def Event.op (me : Side) : Event A M → Option (Op A M)
  | .act who a => if who = me then some (.act a) else none
  | .msg src m => if src = me then some (.send m) else some (.recv m)

/-- The program of a side. -/
def project (me : Side) (G : List (Event A M)) : List (Op A M) := G.filterMap (Event.op me)

/-- The actions of a side. -/
def acts (me : Side) (G : List (Event A M)) : List A :=
  G.filterMap fun e => match e with
    | .act who a => if who = me then some a else none
    | .msg _ _ => none

/-- The messages of a side. -/
def sent (me : Side) (G : List (Event A M)) : List M :=
  G.filterMap fun e => match e with
    | .act _ _ => none
    | .msg src m => if src = me then some m else none

section Projection

variable (me : Side) (G H : List (Event A M))

/-- The program of a text in two parts. -/
@[simp]
theorem project_append : project me (G ++ H) = project me G ++ project me H :=
  List.filterMap_append

theorem project_flatMap {α : Type*} (f : α → List (Event A M)) (xs : List α) :
    project me (xs.flatMap f) = xs.flatMap fun x => project me (f x) := by
  induction xs with
  | nil => rfl
  | cons x xs ih => rw [List.flatMap_cons, project_append, ih, List.flatMap_cons]

@[simp]
theorem project_nil : project me ([] : List (Event A M)) = [] := rfl

@[simp]
theorem project_act_self (a : A) : project me (.act me a :: G) = .act a :: project me G := by
  simp [project, Event.op]

@[simp]
theorem project_act_of_ne {who : Side} (h : who ≠ me) (a : A) :
    project me (.act who a :: G) = project me G := by
  simp [project, Event.op, h]

@[simp]
theorem project_msg_self (m : M) : project me (.msg me m :: G) = .send m :: project me G := by
  simp [project, Event.op]

@[simp]
theorem project_msg_of_ne {src : Side} (h : src ≠ me) (m : M) :
    project me (.msg src m :: G) = .recv m :: project me G := by
  simp [project, Event.op, h]

@[simp]
theorem project_acts_self (as : List A) :
    project me (as.map (Event.act (M := M) me)) = as.map .act := by
  induction as with
  | nil => rfl
  | cons a as ih => simp [ih]

/-- The other one has nothing to do meanwhile. -/
@[simp]
theorem project_acts_of_ne {who : Side} (h : who ≠ me) (as : List A) :
    project me (as.map (Event.act (M := M) who)) = [] := by
  induction as with
  | nil => rfl
  | cons a as ih => simp [h, ih]

@[simp]
theorem acts_append : acts me (G ++ H) = acts me G ++ acts me H := List.filterMap_append

@[simp]
theorem sent_append : sent me (G ++ H) = sent me G ++ sent me H := List.filterMap_append

@[simp]
theorem sent_act (who : Side) (a : A) : sent me (.act who a :: G) = sent me G := rfl

@[simp]
theorem sent_msg_self (m : M) : sent me (.msg me m :: G) = m :: sent me G := by
  simp [sent]

@[simp]
theorem sent_msg_of_ne {src : Side} (h : src ≠ me) (m : M) :
    sent me (.msg src m :: G) = sent me G := by
  simp [sent, h]

@[simp]
theorem sent_nil : sent me ([] : List (Event A M)) = [] := rfl

@[simp]
theorem acts_nil : acts me ([] : List (Event A M)) = [] := rfl

@[simp]
theorem acts_msg (src : Side) (m : M) : acts me (.msg src m :: G) = acts me G := rfl

@[simp]
theorem acts_act_self (a : A) : acts me (.act me a :: G) = a :: acts me G := by simp [acts]

@[simp]
theorem acts_act_of_ne {who : Side} (h : who ≠ me) (a : A) :
    acts me (.act who a :: G) = acts me G := by
  simp [acts, h]

end Projection

theorem mem_acts {me : Side} {a : A} {G : List (Event A M)} :
    a ∈ acts me G ↔ Event.act me a ∈ G := by
  unfold acts
  rw [List.mem_filterMap]
  constructor
  · rintro ⟨e, he, hea⟩
    cases e with
    | msg _ _ => cases hea
    | act who b =>
      dsimp only at hea
      split at hea
      · rename_i hwho
        cases hea
        rw [← hwho]
        exact he
      · cases hea
  · intro he
    exact ⟨_, he, by simp⟩

theorem mem_sent {me : Side} {m : M} {G : List (Event A M)} :
    m ∈ sent me G ↔ Event.msg me m ∈ G := by
  unfold sent
  rw [List.mem_filterMap]
  constructor
  · rintro ⟨e, he, hem⟩
    cases e with
    | act _ _ => cases hem
    | msg src b =>
      dsimp only at hem
      split at hem
      · rename_i hsrc
        cases hem
        rw [← hsrc]
        exact he
      · cases hem
  · intro he
    exact ⟨_, he, by simp⟩

/-- The next operation of a side is its part in the first event it takes part in; what it skips
are actions of the other. Induction on the choreography. -/
theorem project_eq_cons {me : Side} {op : Op A M} {ops : List (Op A M)} :
    ∀ {G : List (Event A M)}, project me G = op :: ops →
      ∃ skip e rest, G = skip ++ e :: rest ∧ e.op me = some op ∧ project me rest = ops
        ∧ acts me skip = [] ∧ ∀ src, sent src skip = []
  | [], h => by cases h
  | .msg src m :: G, h => by
    refine ⟨[], .msg src m, G, rfl, ?_⟩
    rcases Side.eq_or_eq_other src me with rfl | rfl
    · rw [project_msg_self] at h
      cases h
      exact ⟨by simp [Event.op], rfl, rfl, fun _ => rfl⟩
    · rw [project_msg_of_ne _ _ (Side.other_ne me)] at h
      cases h
      exact ⟨by simp [Event.op], rfl, rfl, fun _ => rfl⟩
  | .act who a :: G, h => by
    rcases Side.eq_or_eq_other who me with rfl | rfl
    · rw [project_act_self] at h
      cases h
      exact ⟨[], _, G, rfl, by simp [Event.op], rfl, rfl, fun _ => rfl⟩
    · rw [project_act_of_ne _ _ (Side.other_ne me)] at h
      obtain ⟨skip, e, rest, rfl, he, hr, ha, hs⟩ := project_eq_cons h
      exact ⟨.act me.other a :: skip, e, rest, rfl, he, hr, by simp [ha],
        fun src => by simp [hs src]⟩

/-- A side with nothing left to do has no message left, of its own or of the other. -/
theorem sent_eq_nil_of_project {me src : Side} {G : List (Event A M)} (h : project me G = []) :
    sent src G = [] := by
  rw [List.eq_nil_iff_forall_not_mem]
  intro m hm
  have hop : (Event.msg src m : Event A M).op me = none :=
    List.filterMap_eq_nil_iff.mp h _ (mem_sent.mp hm)
  simp only [Event.op] at hop
  split at hop <;> cases hop

/-! ## Instances of one text

A choreography for one round of a loop is written once and instantiated by mapping. -/

section Map

universe u' v'

variable {B : Type u'} {N : Type v'}

def Event.map (f : A → B) (g : M → N) : Event A M → Event B N
  | .act who a => .act who (f a)
  | .msg src m => .msg src (g m)

def Op.map (f : A → B) (g : M → N) : Op A M → Op B N
  | .act a => .act (f a)
  | .send m => .send (g m)
  | .recv m => .recv (g m)

theorem project_map (f : A → B) (g : M → N) (me : Side) (G : List (Event A M)) :
    project me (G.map (.map f g)) = (project me G).map (.map f g) := by
  induction G with
  | nil => rfl
  | cons e G ih =>
    cases e with
    | act who a =>
      by_cases hwho : who = me
      · subst hwho
        simp [Event.map, Op.map, ih]
      · simp [Event.map, hwho, ih]
    | msg src m =>
      by_cases hsrc : src = me
      · subst hsrc
        simp [Event.map, Op.map, ih]
      · simp [Event.map, Op.map, hsrc, ih]

theorem acts_map (f : A → B) (g : M → N) (me : Side) (G : List (Event A M)) :
    acts me (G.map (.map f g)) = (acts me G).map f := by
  induction G with
  | nil => rfl
  | cons e G ih =>
    cases e with
    | act who a =>
      by_cases hwho : who = me
      · subst hwho
        simp [Event.map, ih]
      · simp [Event.map, hwho, ih]
    | msg _ _ => simp [Event.map, ih]

end Map

/-! ## Where the sides are

A side is somewhere in the text when it has passed a prefix of it. It may be ahead of the other
side, but only by messages that the other has begun: that is `Causal`. -/

/-- `me` has passed `d` of `G` and has `ops` to do. -/
def At (me : Side) (G d : List (Event A M)) (ops : List (Op A M)) : Prop :=
  ∃ rest, G = d ++ rest ∧ project me rest = ops

section At

variable {me : Side} {G d : List (Event A M)} {ops : List (Op A M)}

theorem at_start : At me G [] (project me G) := ⟨G, rfl, rfl⟩

/-- What was passed is a prefix of the text. -/
theorem At.isPrefix (h : At me G d ops) : d <+: G := by
  obtain ⟨rest, rfl, -⟩ := h
  exact List.prefix_append _ _

/-- At the end all messages have been passed. -/
theorem At.sent_of_nil (h : At me G d []) (src : Side) : sent src d = sent src G := by
  obtain ⟨rest, rfl, hrest⟩ := h
  rw [sent_append, sent_eq_nil_of_project hrest, List.append_nil]

theorem At.acts_of_nil (h : At me G d []) : acts me d = acts me G := by
  obtain ⟨rest, rfl, hrest⟩ := h
  have hnone : acts me rest = [] := by
    rw [List.eq_nil_iff_forall_not_mem]
    intro a ha
    have hop := List.filterMap_eq_nil_iff.mp hrest _ (mem_acts.mp ha)
    simp [Event.op] at hop
  rw [acts_append, hnone, List.append_nil]

/-- The next operation of a side, behind events that are none of its business. -/
theorem At.next {op : Op A M} (h : At me G d (op :: ops)) :
    ∃ skip e, At me G (d ++ skip ++ [e]) ops ∧ e.op me = some op ∧ acts me skip = []
      ∧ ∀ src, sent src skip = [] := by
  obtain ⟨rest, rfl, hrest⟩ := h
  obtain ⟨skip, e, rest, rfl, he, hops, hacts, hsent⟩ := project_eq_cons hrest
  exact ⟨skip, e, ⟨rest, by simp, hops⟩, he, hacts, hsent⟩

theorem op_eq_act {e : Event A M} {a : A} (h : e.op me = some (.act a)) : e = .act me a := by
  cases e <;> simp only [Event.op] at h <;> split at h <;> simp_all

/-- A message is sent by its own side. -/
theorem op_eq_send {e : Event A M} {m : M} (h : e.op me = some (.send m)) : e = .msg me m := by
  cases e <;> simp only [Event.op] at h <;> split at h <;> simp_all

theorem op_eq_recv {e : Event A M} {m : M} (h : e.op me = some (.recv m)) :
    e = .msg me.other m := by
  cases e <;> simp only [Event.op] at h <;> split at h <;> simp_all
  next src m' hsrc => exact (Side.eq_or_eq_other src me).resolve_left hsrc

/-- **An action on.** -/
theorem At.act {a : A} (h : At me G d (.act a :: ops)) :
    ∃ d', At me G d' ops ∧ d <+: d' ∧ acts me d' = acts me d ++ [a]
      ∧ ∀ src, sent src d' = sent src d := by
  obtain ⟨skip, e, hat, he, hacts, hsent⟩ := h.next
  obtain rfl := op_eq_act he
  exact ⟨_, hat, ⟨skip ++ [.act me a], by simp⟩, by simp [hacts], fun src => by simp [hsent src]⟩

/-- **A message sent.** -/
theorem At.send {m : M} (h : At me G d (.send m :: ops)) :
    ∃ d', At me G d' ops ∧ d <+: d' ∧ acts me d' = acts me d ∧ sent me d' = sent me d ++ [m]
      ∧ sent me.other d' = sent me.other d := by
  obtain ⟨skip, e, hat, he, hacts, hsent⟩ := h.next
  obtain rfl := op_eq_send he
  refine ⟨_, hat, ⟨skip ++ [.msg me m], by simp⟩, by simp [hacts], by simp [hsent me], ?_⟩
  simp [hsent me.other, Ne.symm (Side.other_ne me)]

/-- The place of a message that is about to be sent. -/
theorem At.send_split {m : M} (h : At me G d (.send m :: ops)) :
    ∃ before after, G = before ++ .msg me m :: after ∧ sent me.other before = sent me.other d := by
  obtain ⟨skip, e, ⟨rest, hG, -⟩, he, -, hsent⟩ := h.next
  obtain rfl := op_eq_send he
  exact ⟨d ++ skip, rest, by simp [hG], by simp [hsent]⟩

/-- **A message received.** -/
theorem At.recv {m : M} (h : At me G d (.recv m :: ops)) :
    ∃ d', At me G d' ops ∧ d <+: d' ∧ acts me d' = acts me d ∧ sent me d' = sent me d
      ∧ sent me.other d' = sent me.other d ++ [m] := by
  obtain ⟨skip, e, hat, he, hacts, hsent⟩ := h.next
  obtain rfl := op_eq_recv he
  refine ⟨_, hat, ⟨skip ++ [.msg me.other m], by simp⟩, by simp [hacts], ?_, by simp [hsent]⟩
  simp [hsent me]

end At

/-- No side has passed more messages of the other than the other has begun. `d s` is what `s` has
passed. -/
def Causal (d : Side → List (Event A M)) : Prop :=
  ∀ src, (sent src (d src.other)).length ≤ (sent src (d src)).length

variable {G : List (Event A M)} {d : Side → List (Event A M)}

/-- Further on no fewer messages have been sent. -/
theorem sent_length_mono (me : Side) {G H : List (Event A M)} (h : G <+: H) :
    (sent me G).length ≤ (sent me H).length := by
  obtain ⟨t, rfl⟩ := h
  simp

/-- **Whoever has passed a message knows where its sender is.** -/
theorem Causal.passed (h : Causal d) (hd : ∀ s, d s <+: G) {src : Side} {m : M}
    {before after : List (Event A M)} (hpass : d src.other = before ++ .msg src m :: after) :
    before ++ [.msg src m] <+: d src := by
  have hreach : before ++ [.msg src m] <+: d src.other := ⟨after, by simp [hpass]⟩
  -- the sender has begun at least as many messages as were passed
  have hcount : (sent src before).length < (sent src (d src)).length := by
    have hc := h src
    rw [hpass] at hc
    simp at hc
    omega
  rcases List.prefix_or_prefix_of_prefix (hreach.trans (hd src.other)) (hd src) with hle | hle
  · exact hle
  -- the sender would have begun no more than what is before the message
  · rcases List.prefix_concat_iff.mp hle with heq | hle
    · rw [heq]
    · have hfew := sent_length_mono src hle
      omega

/-! ## Quiet points

A side that is to send the next message has received all there is, and the other side can only wait.
An action in front of such a message is a quiet point. -/

/-- The sender of the first message. -/
def nextFrom : List (Event A M) → Option Side
  | [] => none
  | .act _ _ :: G => nextFrom G
  | .msg src _ :: _ => some src

/-- The sender of the first message sends. -/
theorem sent_ne_nil_of_nextFrom {me : Side} :
    ∀ {G : List (Event A M)}, nextFrom G = some me → sent me G ≠ []
  | [], h => by cases h
  | .act _ _ :: G, h => sent_ne_nil_of_nextFrom (G := G) h
  | .msg _ _ :: _, h => by
    cases h
    simp

/-- Whoever has passed a later message has passed the first. -/
theorem sent_of_nextFrom {me : Side} :
    ∀ {G c : List (Event A M)}, nextFrom G = some me → c <+: G → sent me.other c ≠ [] →
      sent me c ≠ []
  | [], _, h, _, _ => by cases h
  | _ :: _, [], _, _, hs => absurd rfl hs
  | .act who a :: G, e :: c, h, hc, hs => by
    obtain ⟨rfl, hc'⟩ := List.cons_prefix_cons.mp hc
    simp only [sent_act] at hs ⊢
    exact sent_of_nextFrom (G := G) h hc' hs
  | .msg src m :: G, e :: c, h, hc, hs => by
    obtain ⟨rfl, _⟩ := List.cons_prefix_cons.mp hc
    cases h
    simp

/-- **A side that is to send the next message has received all there is.** -/
theorem Causal.quiet (h : Causal d) (hd : ∀ s, d s <+: G) {me : Side} {rest : List (Event A M)}
    (hG : G = d me ++ rest) (hnext : nextFrom rest = some me) :
    sent me.other (d me.other) = sent me.other (d me) := by
  have hshort : (sent me (d me.other)).length ≤ (sent me (d me)).length := h me
  rcases List.prefix_or_prefix_of_prefix (hd me) (hd me.other) with hle | hle
  -- the other side is ahead, by `c`: it cannot have got past the next message
  · obtain ⟨c, hc⟩ := hle
    have hcrest : c <+: rest := by
      have hpre := hd me.other
      rw [← hc, hG] at hpre
      exact (List.prefix_append_right_inj _).mp hpre
    have hblocked : sent me c = [] := by
      rw [← hc, sent_append, List.length_append] at hshort
      exact List.eq_nil_of_length_eq_zero (by omega)
    -- a message of the other side in `c` would come after one of `me`
    have hnone : sent me.other c = [] := by
      by_contra hs
      exact sent_of_nextFrom hnext hcrest hs hblocked
    rw [← hc, sent_append, hnone, List.append_nil]
  -- the other side is behind
  · obtain ⟨c, hc⟩ := hle
    have hlong := h me.other
    rw [Side.other_other, ← hc, sent_append, List.length_append] at hlong
    have hnone : sent me.other c = [] := List.eq_nil_of_length_eq_zero (by omega)
    rw [← hc, sent_append, hnone, List.append_nil]

/-- Events without messages do not change who sends first. -/
theorem nextFrom_skip {skip : List (Event A M)} (h : ∀ src, sent src skip = [])
    (H : List (Event A M)) : nextFrom (skip ++ H) = nextFrom H := by
  induction skip with
  | nil => rfl
  | cons e skip ih =>
    cases e with
    | act _ _ => exact ih h
    | msg src m => exact absurd (h src) (by simp)

/-- Whoever waits for a message is at a place where the other sends next. -/
theorem At.nextFrom_recv {me : Side} {m : M} {G d : List (Event A M)} {ops : List (Op A M)}
    (h : At me G d (.recv m :: ops)) : ∃ rest, G = d ++ rest ∧ nextFrom rest = some me.other := by
  obtain ⟨rest, rfl, hrest⟩ := h
  obtain ⟨skip, e, rest, rfl, he, -, -, hsent⟩ := project_eq_cons hrest
  obtain rfl := op_eq_recv he
  exact ⟨_, rfl, nextFrom_skip hsent _⟩

/-- Before the first message nobody has sent. -/
theorem sent_nil_of_nextFrom {src : Side} {rest c : List (Event A M)}
    (hnext : nextFrom rest = some src) (hc : c <+: rest) (hfirst : sent src c = []) (src' : Side) :
    sent src' c = [] := by
  rcases Side.eq_or_eq_other src' src with rfl | rfl
  · exact hfirst
  · by_contra hs
    exact sent_of_nextFrom hnext hc hs hfirst

/-- **No deadlock.** The two sides do not wait for each other with nothing under way. -/
theorem not_both_waiting {me : Side} {m m' : M} {ops ops' : List (Op A M)}
    (hme : At me G (d me) (.recv m :: ops)) (hother : At me.other G (d me.other) (.recv m' :: ops'))
    (hread : (sent me.other (d me.other)).length ≤ (sent me.other (d me)).length)
    (hread' : (sent me (d me)).length ≤ (sent me (d me.other)).length) : False := by
  obtain ⟨rest, hG, hnext⟩ := hme.nextFrom_recv
  obtain ⟨rest', hG', hnext'⟩ := hother.nextFrom_recv
  rw [Side.other_other] at hnext'
  -- whichever is ahead got there without a message, so both would have the same next one
  rcases List.prefix_or_prefix_of_prefix hme.isPrefix hother.isPrefix with ⟨c, hc⟩ | ⟨c, hc⟩
  · have hrest : rest = c ++ rest' := by
      rw [hG, ← hc, List.append_assoc] at hG'
      exact List.append_cancel_left hG'
    rw [← hc, sent_append, List.length_append] at hread
    have hnone := sent_nil_of_nextFrom hnext ⟨rest', hrest.symm⟩
      (List.eq_nil_of_length_eq_zero (by omega))
    rw [hrest, nextFrom_skip hnone, hnext'] at hnext
    exact Side.other_ne me (Option.some.inj hnext).symm
  · have hrest : rest' = c ++ rest := by
      rw [hG', ← hc, List.append_assoc] at hG
      exact List.append_cancel_left hG
    rw [← hc, sent_append, List.length_append] at hread'
    have hnone := sent_nil_of_nextFrom hnext' ⟨rest, hrest.symm⟩
      (List.eq_nil_of_length_eq_zero (by omega))
    rw [hrest, nextFrom_skip hnone, hnext] at hnext'
    exact Side.other_ne me (Option.some.inj hnext')

/-- Every action of the kind `quiet` is followed by a message of its own side. -/
def QuietSafe (quiet : A → Prop) (G : List (Event A M)) : Prop :=
  ∀ before who a after, G = before ++ .act who a :: after → quiet a → nextFrom after = some who

/-- **Quiet points.** A side at a quiet action has received all there is, and has messages left to
send. -/
theorem Causal.quiet_at (h : Causal d) (hd : ∀ s, d s <+: G) {quiet : A → Prop}
    (hG : QuietSafe quiet G) {me : Side} {a : A} {ops : List (Op A M)}
    (hme : At me G (d me) (.act a :: ops)) (ha : quiet a) :
    sent me.other (d me.other) = sent me.other (d me)
      ∧ (sent me (d me)).length < (sent me G).length := by
  obtain ⟨rest, hsplit, hrest⟩ := hme
  obtain ⟨skip, e, rest, rfl, he, -, -, hsent⟩ := project_eq_cons hrest
  obtain rfl := op_eq_act he
  have hnext : nextFrom (skip ++ .act me a :: rest) = some me := by
    rw [nextFrom_skip hsent]
    exact hG (d me ++ skip) me a rest (by rw [hsplit, List.append_assoc]) ha
  refine ⟨h.quiet hd hsplit hnext, ?_⟩
  have hleft := List.length_pos_iff.mpr (sent_ne_nil_of_nextFrom hnext)
  rw [hsplit, sent_append, List.length_append]
  omega

section QuietSafe

variable {quiet : A → Prop}

/-- What comes behind does not matter. -/
theorem nextFrom_append_of_some {G H : List (Event A M)} {s : Side} (h : nextFrom G = some s) :
    nextFrom (G ++ H) = some s := by
  induction G with
  | nil => cases h
  | cons e G ih =>
    cases e with
    | act _ _ => exact ih h
    | msg _ _ => exact h

theorem nextFrom_acts_append (who : Side) (as : List A) (H : List (Event A M)) :
    nextFrom (as.map (.act who) ++ H) = nextFrom H := by
  induction as with
  | nil => rfl
  | cons a as ih => exact ih

/-- Two texts, one behind the other. -/
theorem quietSafe_append {G H : List (Event A M)} (hG : QuietSafe quiet G)
    (hH : QuietSafe quiet H) : QuietSafe quiet (G ++ H) := by
  intro before who a after heq hq
  rcases List.append_eq_append_iff.mp heq with ⟨c, rfl, hc⟩ | ⟨c, hc, hcH⟩
  · exact hH c who a after hc hq
  · cases c with
    | nil =>
      rw [List.nil_append] at hcH
      exact hH [] who a after hcH.symm hq
    | cons e c =>
      obtain ⟨rfl, rfl⟩ := List.cons.inj hcH
      exact nextFrom_append_of_some (hG before who a c hc hq)

theorem quietSafe_cons_msg {G : List (Event A M)} (src : Side) (m : M)
    (hG : QuietSafe quiet G) : QuietSafe quiet (.msg src m :: G) := by
  intro before who a after heq hq
  cases before with
  | nil => cases heq
  | cons e before =>
    obtain ⟨_, heq⟩ := List.cons.inj heq
    exact hG before who a after heq hq

/-- An action in front, if it may stand there. -/
theorem quietSafe_cons_act {G : List (Event A M)} {who : Side} {a : A}
    (ha : quiet a → nextFrom G = some who) (hG : QuietSafe quiet G) :
    QuietSafe quiet (.act who a :: G) := by
  intro before who' a' after heq hq
  cases before with
  | nil =>
    cases heq
    exact ha hq
  | cons e before =>
    obtain ⟨_, heq⟩ := List.cons.inj heq
    exact hG before who' a' after heq hq

theorem quietSafe_nil : QuietSafe quiet ([] : List (Event A M)) := by
  intro before who a after heq
  cases before <;> cases heq

/-- Actions that are not of the kind. -/
theorem quietSafe_acts {who : Side} {as : List A} (h : ∀ a ∈ as, ¬ quiet a) :
    QuietSafe quiet (as.map (Event.act (M := M) who)) := by
  induction as with
  | nil => exact quietSafe_nil
  | cons a as ih =>
    exact quietSafe_cons_act (fun hq => absurd hq (h a List.mem_cons_self))
      (ih fun b hb => h b (List.mem_cons_of_mem _ hb))

/-- Actions of the side that sends next. -/
theorem quietSafe_acts_append {who : Side} {as : List A} {G : List (Event A M)}
    (hnext : nextFrom G = some who) (hG : QuietSafe quiet G) :
    QuietSafe quiet (as.map (.act who) ++ G) := by
  induction as with
  | nil => exact hG
  | cons a as ih =>
    exact quietSafe_cons_act (fun _ => (nextFrom_acts_append who as G).trans hnext) ih

/-- An instance has the same senders. -/
theorem nextFrom_map {B : Type*} {N : Type*} (f : A → B) (g : M → N) (G : List (Event A M)) :
    nextFrom (G.map (.map f g)) = nextFrom G := by
  induction G with
  | nil => rfl
  | cons e G ih =>
    cases e with
    | act _ _ => exact ih
    | msg _ _ => rfl

theorem quietSafe_map {B : Type*} {N : Type*} {f : A → B} {g : M → N} {quiet : B → Prop}
    {G : List (Event A M)} (h : QuietSafe (fun a => quiet (f a)) G) :
    QuietSafe quiet (G.map (.map f g)) := by
  intro before who b after heq hq
  obtain ⟨G₁, G₂, rfl, -, hG₂⟩ := List.map_eq_append_iff.mp heq
  obtain ⟨e, G₃, rfl, he, rfl⟩ := List.map_eq_cons_iff.mp hG₂
  cases e with
  | msg _ _ => cases he
  | act _ _ =>
    cases he
    rw [nextFrom_map]
    exact h G₁ _ _ G₃ rfl hq

theorem quietSafe_flatMap {α : Type*} {f : α → List (Event A M)} {xs : List α}
    (h : ∀ x ∈ xs, QuietSafe quiet (f x)) : QuietSafe quiet (xs.flatMap f) := by
  induction xs with
  | nil => exact quietSafe_nil
  | cons x xs ih =>
    rw [List.flatMap_cons]
    exact quietSafe_append (h x List.mem_cons_self) (ih fun y hy => h y (List.mem_cons_of_mem _ hy))

end QuietSafe

/-! ## Order

An event comes before another in every run, across the two sides, if it does so in the text and a
message always stands between them. -/

/-- Wherever `e₂` occurs, `e₁` has occurred before. -/
def Precedes (G : List (Event A M)) (e₁ e₂ : Event A M) : Prop :=
  ∀ before after, G = before ++ e₂ :: after → e₁ ∈ before

section Precedes

variable {e₁ e₂ : Event A M}

/-- What does not occur comes before nothing. -/
theorem precedes_of_not_mem {G : List (Event A M)} (h : e₂ ∉ G) : Precedes G e₁ e₂ := by
  intro before after heq
  exact absurd (by simp [heq]) h

/-- In the first part, or in the second with its own reason. -/
theorem precedes_append {G H : List (Event A M)} (hG : Precedes G e₁ e₂)
    (hH : e₂ ∈ H → e₁ ∈ G ∨ Precedes H e₁ e₂) : Precedes (G ++ H) e₁ e₂ := by
  intro before after heq
  rcases List.append_eq_append_iff.mp heq with ⟨c, rfl, hc⟩ | ⟨c, hc, hcH⟩
  · rcases hH (by simp [hc]) with hmem | hprec
    · exact List.mem_append_left _ hmem
    · exact List.mem_append_right _ (hprec c after hc)
  · cases c with
    | nil =>
      rw [List.nil_append] at hcH
      rw [List.append_nil] at hc
      rcases hH (by simp [← hcH]) with hmem | hprec
      · exact hc ▸ hmem
      · exact absurd (hprec [] after hcH.symm) List.not_mem_nil
    | cons e c =>
      obtain ⟨rfl, rfl⟩ := List.cons.inj hcH
      exact hG before c hc

/-- The usual case: a part that ends before `e₂` and has `e₁`. -/
theorem precedes_of_mem_left {G H : List (Event A M)} (h₂ : e₂ ∉ G) (h₁ : e₁ ∈ G) :
    Precedes (G ++ H) e₁ e₂ :=
  precedes_append (precedes_of_not_mem h₂) fun _ => Or.inl h₁

/-- In an instance that tells the events apart. -/
theorem precedes_map {B : Type*} {N : Type*} {f : A → B} {g : M → N} {G : List (Event A M)}
    (h : Precedes G e₁ e₂) (hinj : ∀ e, e.map f g = e₂.map f g → e = e₂) :
    Precedes (G.map (.map f g)) (e₁.map f g) (e₂.map f g) := by
  intro before after heq
  obtain ⟨G₁, G₂, rfl, rfl, hG₂⟩ := List.map_eq_append_iff.mp heq
  obtain ⟨e, G₃, rfl, he, rfl⟩ := List.map_eq_cons_iff.mp hG₂
  rw [hinj e he] at h
  exact List.mem_map_of_mem (h G₁ G₃ rfl)

theorem precedes_flatMap {α : Type*} {f : α → List (Event A M)} {xs : List α}
    (h : ∀ x ∈ xs, Precedes (f x) e₁ e₂) : Precedes (xs.flatMap f) e₁ e₂ := by
  induction xs with
  | nil => exact precedes_of_not_mem List.not_mem_nil
  | cons x xs ih =>
    rw [List.flatMap_cons]
    exact precedes_append (h x List.mem_cons_self) fun _ =>
      Or.inr (ih fun y hy => h y (List.mem_cons_of_mem _ hy))

end Precedes

theorem Precedes.mem {G d : List (Event A M)} {e₁ e₂ : Event A M} (h : Precedes G e₁ e₂)
    (hd : d <+: G) (he : e₂ ∈ d) : e₁ ∈ d := by
  obtain ⟨t, rfl⟩ := hd
  obtain ⟨before, after, rfl⟩ := List.append_of_mem he
  exact List.mem_append_left _ (h before (after ++ t) (by simp))

/-- **Only after.** If a message always comes between, whoever has passed `e₂` knows that the
other side has passed `e₁`. -/
theorem Causal.only_after (h : Causal d) (hd : ∀ s, d s <+: G) {src : Side} {m : M}
    {e₁ e₂ : Event A M} (h₁ : Precedes G e₁ (.msg src m)) (h₂ : Precedes G (.msg src m) e₂)
    (hpass : e₂ ∈ d src.other) : Event.msg src m ∈ d src ∧ e₁ ∈ d src := by
  obtain ⟨before, after, hsplit⟩ := List.append_of_mem hpass
  obtain ⟨t, ht⟩ := hd src.other
  have hmsg : Event.msg src m ∈ before :=
    h₂ before (after ++ t) (by rw [← ht, hsplit]; simp)
  obtain ⟨b, b', rfl⟩ := List.append_of_mem hmsg
  have hreached : d src.other = b ++ .msg src m :: (b' ++ e₂ :: after) := by
    rw [hsplit]
    simp
  have hpassed := h.passed hd hreached
  have hfirst : e₁ ∈ b := h₁ b (b' ++ e₂ :: after ++ t) (by rw [← ht, hsplit]; simp)
  exact ⟨hpassed.subset (by simp), hpassed.subset (by simp [hfirst])⟩

end Choreography
