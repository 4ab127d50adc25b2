import AceXdp.Driver.GemRx

/-!
# AceXdp — frames of several descriptors

What `gem_rx` does with a descriptor depends on the discard state of the queue, and that is what
became of the descriptor before: discarded without EOF (`midDiscard`), or not. A run is any
interleaving of the NIC, the polls and changes of the program.

* `rxTurn_spec`: one turn of the loop;
* `gemRxRefill_spec`: the refill;
* `RxNic.Inv`, `inv_of_run`: the ring, the discard state, the counter and the buffers over a run;
* `gem_rx_discards_multidesc`: what is discarded, what is counted, and where the buffers go.
-/

namespace AceXdp.Macb

open Transition Transition.System

variable {cfg : RxConfig}

/-! ## Buffers

The effects of a turn say which buffers it takes from the pool and which it gives away. Every buffer
of the ring came from the pool. -/

/-- The buffers an effect takes from the pool. -/
def RxEffect.taken : RxEffect → List Nat
  | .take buffer => [buffer]
  | _ => []

/-- The buffers an effect gives away. -/
def RxEffect.given : RxEffect → List Nat
  | .take _ => []
  | .put buffer => [buffer]
  | .freeSkb buffers => buffers
  | .deliver buffers => buffers
  | .handOver buffer => [buffer]

def takenBy (log : List RxEffect) : List Nat := log.flatMap RxEffect.taken

def givenBy (log : List RxEffect) : List Nat := log.flatMap RxEffect.given

@[simp]
theorem takenBy_append (log log' : List RxEffect) :
    takenBy (log ++ log') = takenBy log ++ takenBy log' := List.flatMap_append

@[simp]
theorem givenBy_append (log log' : List RxEffect) :
    givenBy (log ++ log') = givenBy log ++ givenBy log' := List.flatMap_append

theorem takenBy_cons (effect : RxEffect) (log : List RxEffect) :
    takenBy (effect :: log) = effect.taken ++ takenBy log := List.flatMap_cons

section Slots

variable {n : Nat} {slots : Vector (Option Nat) n} {entry : Fin n} {buffer : Nat}

theorem count_fill (h : slots[entry] = none) (b : Nat) :
    (slots.set entry (some buffer)).count (some b) = slots.count (some b) + [buffer].count b := by
  rw [Vector.count_set, show slots[entry.val] = none from h]
  by_cases hb : buffer = b <;> simp [hb]

theorem count_clear (h : slots[entry] = some buffer) (b : Nat) :
    (slots.set entry none).count (some b) + [buffer].count b = slots.count (some b) := by
  have hin : slots[entry.val] = some buffer := h
  rw [Vector.count_set, hin]
  by_cases hb : buffer = b
  · have hpos : 0 < slots.count (some b) :=
      Vector.count_pos_iff.mpr (hb ▸ hin ▸ Vector.getElem_mem _)
    simp [hb]
    omega
  · simp [hb]

end Slots

/-! ## One descriptor

A turn clears its slot. What becomes of the buffer depends on the discard state, the program and the
two bits of the descriptor. -/

/-- Normal processing: the slot is cleared, and the discard state is left alone. -/
structure Processed (q : RxQueue cfg) (entry : Fin cfg.ringSize) (r : RxOutcome cfg) : Prop where
  tail : r.queue.rxTail = q.rxTail
  head : r.queue.rxPreparedHead = q.rxPreparedHead
  buff : r.queue.rxBuff = q.rxBuff.set entry none
  drop : r.queue.xdpRxDropMultidesc = q.xdpRxDropMultidesc
  drops : r.queue.rxXdpMultidescDrops = q.rxXdpMultidescDrops
  fate : r.fate = .processed

section Process

variable (q : RxQueue cfg) (env : RxAnswers) (d : RxDesc) (entry : Fin cfg.ringSize)
  (buffer len : Nat)

theorem freeFrags_processed : Processed q entry (freeFrags q entry buffer) :=
  ⟨rfl, rfl, rfl, rfl, rfl, rfl⟩

theorem finish_processed (skb : Skb) (effects : List RxEffect) :
    Processed q entry (finish q skb d entry effects) := by
  unfold finish
  split <;> exact ⟨rfl, rfl, rfl, rfl, rfl, rfl⟩

theorem firstFrame_processed : Processed q entry (firstFrame q env d entry buffer len) := by
  unfold firstFrame
  dsimp only
  split
  · exact ⟨rfl, rfl, rfl, rfl, rfl, rfl⟩
  · split
    · have h := finish_processed q.countIncomplete d entry
        ⟨(frameRun env d buffer len).len, [buffer]⟩ (freed q.skb)
      exact ⟨h.tail, h.head, h.buff, h.drop, h.drops, h.fate⟩
    · exact ⟨rfl, rfl, rfl, rfl, rfl, rfl⟩

theorem laterFrame_processed (skb : Skb) :
    Processed q entry (laterFrame q skb d entry buffer len) := by
  unfold laterFrame
  split
  · exact freeFrags_processed q entry buffer
  · exact finish_processed q d entry _ _

theorem process_processed : Processed q entry (process q env d entry buffer) := by
  unfold process
  split
  · exact freeFrags_processed q entry buffer
  · split
    · exact firstFrame_processed q env d entry buffer _
    · split
      · exact freeFrags_processed q entry buffer
      · exact laterFrame_processed q d entry buffer _ _

end Process

/-- What the program does with a frame that does not pass gives its buffer away. -/
theorem effects_gemXdpRun (prog : Option XdpVerdict) (len buffer : Nat) :
    takenBy (gemXdpRun prog len buffer).effects = []
      ∧ givenBy (gemXdpRun prog len buffer).effects
        = if (gemXdpRun prog len buffer).act = .pass then [] else [buffer] := by
  cases prog with
  | none => exact ⟨rfl, rfl⟩
  | some verdict =>
    obtain ⟨act, plen, accepted⟩ := verdict
    cases act <;> cases accepted <;> exact ⟨rfl, rfl⟩

/-- A whole frame in one descriptor, with no other one being put together, leaves the queue. -/
theorem process_whole {q : RxQueue cfg} (hskb : q.skb = none) (env : RxAnswers) {d : RxDesc}
    (hsof : d.sof = true) (heof : d.eof = true) (entry : Fin cfg.ringSize) (buffer : Nat) :
    (process q env d entry buffer).queue.skb = none
      ∧ takenBy (process q env d entry buffer).effects = []
      ∧ givenBy (process q env d entry buffer).effects = [buffer] := by
  obtain ⟨htaken, hgiven⟩ := effects_gemXdpRun env.prog d.frameLen buffer
  have hlen : gemRxDataLen q d = some d.frameLen := by simp [gemRxDataLen, hskb, hsof, heof]
  have hframe : frameRun env d buffer d.frameLen = gemXdpRun env.prog d.frameLen buffer := if_pos heof
  have hprocess : process q env d entry buffer = firstFrame q env d entry buffer d.frameLen := by
    simp only [process, hlen, hsof, if_true]
  rw [hprocess, firstFrame, hframe, hskb]
  dsimp only [freed, List.nil_append]
  split
  case isTrue hact =>
    rw [if_neg hact] at hgiven
    exact ⟨hskb, htaken, hgiven⟩
  case isFalse =>
    split
    · rw [finish, if_pos heof]
      exact ⟨rfl, rfl, rfl⟩
    · exact ⟨rfl, rfl, rfl⟩

theorem resync_eq (q : RxQueue cfg) (d : RxDesc) :
    q.resync d = { q with xdpRxDropMultidesc := q.xdpRxDropMultidesc && !d.sof } := by
  obtain ⟨tail, head, buff, skb, drop, packets, bytes, dropped, drops⟩ := q
  unfold RxQueue.resync
  cases drop <;> cases d.sof <;> rfl

/-- What becomes of a descriptor, by the discard state, the program and its two bits. -/
def fateOf (drop attached : Bool) (d : RxDesc) : RxFate :=
  if (drop && !d.sof) || (attached && (!d.sof || !d.eof)) then .discarded else .processed

/-- One turn on a slot that holds a buffer. -/
structure TurnSpec (q : RxQueue cfg) (attached : Bool) (d : RxDesc) (buffer : Nat)
    (r : RxOutcome cfg) : Prop where
  tail : r.queue.rxTail = q.rxTail + 1
  head : r.queue.rxPreparedHead = q.rxPreparedHead
  buff : r.queue.rxBuff = q.rxBuff.set (cfg.entry q.rxTail) none
  fate : r.fate = fateOf q.xdpRxDropMultidesc attached d
  drop : r.queue.xdpRxDropMultidesc = (decide (r.fate = .discarded) && !d.eof)
  drops : r.queue.rxXdpMultidescDrops = q.rxXdpMultidescDrops
    + if r.fate = .discarded ∧ (d.sof ∨ q.xdpRxDropMultidesc = false) then 1 else 0
  discarded : r.fate = .discarded → r.queue.skb = none ∧ r.effects = freed q.skb ++ [.put buffer]
  whole : q.skb = none → d.sof → d.eof → r.queue.skb = none ∧ takenBy r.effects = []
    ∧ givenBy r.effects = [buffer]

theorem rxTurn_spec {q : RxQueue cfg} {entry : Fin cfg.ringSize} {buffer : Nat}
    (hentry : entry = cfg.entry q.rxTail) (hbuff : q.rxBuff[entry] = some buffer) (attached : Bool)
    (env : RxAnswers) (d : RxDesc) : TurnSpec q attached d buffer (rxTurn q attached env d) := by
  subst hentry
  set q₁ : RxQueue cfg := { q with
    rxTail := q.rxTail + 1, xdpRxDropMultidesc := q.xdpRxDropMultidesc && !d.sof } with hq₁
  have hturn : rxTurn q attached env d
      = if discards q₁ attached d then discard q₁ d (cfg.entry q.rxTail) buffer
        else process q₁ env d (cfg.entry q.rxTail) buffer := by
    unfold rxTurn
    dsimp only
    rw [hbuff]
    dsimp only
    rw [resync_eq]
  have hfate : fateOf q.xdpRxDropMultidesc attached d
      = if discards q₁ attached d then .discarded else .processed := rfl
  by_cases hdiscards : discards q₁ attached d = true
  · rw [if_pos hdiscards] at hturn hfate
    rw [hturn]
    refine ⟨rfl, rfl, rfl, hfate.symm, ?_, ?_, fun _ => ⟨rfl, rfl⟩, ?_⟩
    · simp [discard]
    · cases hdrop : q.xdpRxDropMultidesc <;> cases hsof : d.sof <;> simp [discard, hq₁, hdrop, hsof]
    · intro hskb _ _
      simp [discard, hq₁, hskb, freed, takenBy, givenBy, RxEffect.taken, RxEffect.given]
  · rw [if_neg hdiscards] at hturn hfate
    rw [hturn]
    have h := process_processed q₁ env d (cfg.entry q.rxTail) buffer
    have hdrop : q₁.xdpRxDropMultidesc = false := by
      rw [discards, Bool.or_eq_true, not_or] at hdiscards
      exact Bool.eq_false_iff.mpr hdiscards.1
    refine ⟨h.tail, h.head, h.buff, h.fate.trans hfate.symm, ?_, ?_, ?_, ?_⟩
    · rw [h.drop, h.fate, hdrop]; rfl
    · rw [h.drops, h.fate]; simp [hq₁]
    · intro hd
      rw [h.fate] at hd
      cases hd
    · intro hskb hsof heof
      have hskb₁ : q₁.skb = none := hskb
      exact process_whole hskb₁ env hsof heof _ _

theorem fateOf_attached (drop : Bool) (d : RxDesc) :
    fateOf drop true d = if d.sof && d.eof then .processed else .discarded := by
  unfold fateOf
  cases drop <;> cases d.sof <;> cases d.eof <;> rfl

/-- With the program attached and no frame being put together, every turn gives away the buffer of
its slot and nothing else. -/
theorem TurnSpec.attached {q : RxQueue cfg} {d : RxDesc} {buffer : Nat} {r : RxOutcome cfg}
    (h : TurnSpec q true d buffer r) (hskb : q.skb = none) :
    r.queue.skb = none ∧ takenBy r.effects = [] ∧ givenBy r.effects = [buffer]
      ∧ (r.fate = .discarded → r.effects = [.put buffer]) := by
  have hfate := h.fate
  rw [fateOf_attached] at hfate
  by_cases hwhole : (d.sof && d.eof) = true
  · obtain ⟨hsof, heof⟩ := Bool.and_eq_true_iff.mp hwhole
    obtain ⟨hskb', htaken, hgiven⟩ := h.whole hskb hsof heof
    rw [if_pos hwhole] at hfate
    refine ⟨hskb', htaken, hgiven, fun hdiscarded => ?_⟩
    rw [hfate] at hdiscarded
    cases hdiscarded
  · rw [if_neg hwhole] at hfate
    obtain ⟨hskb', heffects⟩ := h.discarded hfate
    rw [hskb] at heffects
    exact ⟨hskb', by rw [heffects]; rfl, by rw [heffects]; rfl, fun _ => heffects⟩

/-! ## The ring

Between tail and prepared head all slots have buffers, and the indices do not meet again before the
ring is full. -/

/-- The prepared descriptors have buffers. -/
structure RingOk (q : RxQueue cfg) : Prop where
  le : q.rxTail ≤ q.rxPreparedHead
  space : q.rxPreparedHead - q.rxTail < cfg.ringSize
  filled : ∀ i, q.rxTail ≤ i → i < q.rxPreparedHead → (q.rxBuff[cfg.entry i]).isSome

/-- Less than a whole ring apart, two positions are different entries. -/
theorem entry_ne (cfg : RxConfig) {i j : Nat} (hlt : i < j) (hspace : j - i < cfg.ringSize) :
    (cfg.entry i).val ≠ (cfg.entry j).val := by
  intro heq
  have hmod : (j - i) % cfg.ringSize = 0 := Nat.sub_mod_eq_zero_of_mod_eq heq.symm
  rw [Nat.mod_eq_of_lt hspace] at hmod
  omega

theorem RingOk.turn {q : RxQueue cfg} (h : RingOk q) (hlt : q.rxTail < q.rxPreparedHead)
    {attached : Bool} {d : RxDesc} {buffer : Nat} {r : RxOutcome cfg}
    (hspec : TurnSpec q attached d buffer r) : RingOk r.queue := by
  have hspace := h.space
  refine ⟨?_, ?_, ?_⟩
  · rw [hspec.tail, hspec.head]; omega
  · rw [hspec.tail, hspec.head]; omega
  · intro i hlow hhigh
    rw [hspec.tail] at hlow
    rw [hspec.head] at hhigh
    have hne := entry_ne cfg (Nat.lt_of_succ_le hlow) (by omega)
    rw [hspec.buff, Fin.getElem_fin, Vector.getElem_set_ne _ _ hne]
    exact h.filled i (by omega) hhigh

/-- What a refill does: the ring stays in order, the frame that is being put together and the
discard state are left alone, and what is taken from the pool is in the ring. -/
structure Refilled (q q' : RxQueue cfg) (effects : List RxEffect) : Prop where
  ring : RingOk q'
  tail : q'.rxTail = q.rxTail
  head : q.rxPreparedHead ≤ q'.rxPreparedHead
  skb : q'.skb = q.skb
  drop : q'.xdpRxDropMultidesc = q.xdpRxDropMultidesc
  drops : q'.rxXdpMultidescDrops = q.rxXdpMultidescDrops
  given : givenBy effects = []
  taken : ∀ b, q'.rxBuff.count (some b) = q.rxBuff.count (some b) + (takenBy effects).count b

/-- The entry at the head is prepared. -/
theorem RingOk.prepare {q : RxQueue cfg} (h : RingOk q)
    (hspace : q.rxPreparedHead - q.rxTail + 1 < cfg.ringSize)
    (buff : Vector (Option Nat) cfg.ringSize) {entry : Fin cfg.ringSize}
    (hentry : entry = cfg.entry q.rxPreparedHead) (hhead : (buff[entry]).isSome)
    (hbuff : ∀ e : Fin cfg.ringSize, (q.rxBuff[e]).isSome → (buff[e]).isSome) :
    RingOk { q with rxPreparedHead := q.rxPreparedHead + 1, rxBuff := buff } := by
  have hle := h.le
  refine ⟨?_, ?_, ?_⟩
  · dsimp only; omega
  · dsimp only; omega
  · intro i hlow hhigh
    dsimp only at hlow hhigh ⊢
    rcases Nat.lt_succ_iff_lt_or_eq.mp hhigh with hlt | rfl
    · exact hbuff _ (h.filled i hlow hlt)
    · exact hentry ▸ hhead

/-- Induction on the space that is left. -/
theorem refillLoop_spec (space : Nat) :
    ∀ {q : RxQueue cfg} (answers : List (Option Nat)), RingOk q →
      space + (q.rxPreparedHead - q.rxTail) < cfg.ringSize →
      Refilled q (refillLoop space q answers).1 (refillLoop space q answers).2 := by
  induction space with
  | zero =>
    intro q answers h _
    exact ⟨h, rfl, Nat.le_refl _, rfl, rfl, rfl, rfl, fun b => rfl⟩
  | succ space ih =>
    intro q answers h hspace
    have hle := h.le
    cases hslot : q.rxBuff[cfg.entry q.rxPreparedHead] with
    | some buffer =>
      have hring := h.prepare (by omega) q.rxBuff rfl (by rw [hslot]; rfl) fun e he => he
      have hrest := ih answers hring (by dsimp only; omega)
      unfold refillLoop
      simp only [hslot]
      exact ⟨hrest.ring, hrest.tail, Nat.le_of_succ_le hrest.head, hrest.skb, hrest.drop,
        hrest.drops, hrest.given, hrest.taken⟩
    | none =>
      have hstay : Refilled q q [] := ⟨h, rfl, Nat.le_refl _, rfl, rfl, rfl, rfl, fun b => rfl⟩
      unfold refillLoop
      simp only [hslot]
      split
      · rename_i buffer answers
        have hring : RingOk { q with
            rxPreparedHead := q.rxPreparedHead + 1
            rxBuff := q.rxBuff.set (cfg.entry q.rxPreparedHead) (some buffer) } := by
          refine h.prepare (by omega) _ rfl (by simp) fun e he => ?_
          rw [Fin.getElem_fin, Vector.getElem_set]
          split
          · rfl
          · exact he
        have hrest := ih answers hring (by dsimp only; omega)
        refine ⟨hrest.ring, hrest.tail, Nat.le_of_succ_le hrest.head, hrest.skb, hrest.drop,
          hrest.drops, hrest.given, fun b => ?_⟩
        rw [hrest.taken b, takenBy_cons, List.count_append, ← Nat.add_assoc]
        exact congrArg (· + _) (count_fill hslot b)
      · exact hstay

theorem gemRxRefill_spec {q : RxQueue cfg} (h : RingOk q) (answers : List (Option Nat)) :
    Refilled q (gemRxRefill q answers).1 (gemRxRefill q answers).2 := by
  have hspace := h.space
  refine refillLoop_spec (circSpace q) answers h ?_
  unfold circSpace
  omega

/-! ## Runs

The history of turns determines the discard state, and with it the fate of the next descriptor. -/

/-- The discard state as the history has it: the last descriptor was discarded and had no EOF. -/
def midDiscard : List RxTurn → Bool
  | [] => false
  | t :: _ => decide (t.fate = .discarded) && !t.desc.eof

/-- The discarded descriptors that begin an episode: those with SOF, and those whose predecessor is
not a discarded descriptor without EOF. -/
def episodes : List RxTurn → Nat
  | [] => 0
  | t :: older =>
    episodes older + if t.fate = .discarded ∧ (t.desc.sof ∨ midDiscard older = false) then 1 else 0

/-- A turn, with the turns before it. -/
structure TurnOk (t : RxTurn) (older : List RxTurn) : Prop where
  fate : t.fate = fateOf (midDiscard older) t.attached t.desc
  slot : ∃ b, t.before = some b ∧ t.after = none
    ∧ (t.fate = .discarded → t.effects.count (.put b) = 1)

/-- With the program attached in every turn so far: no frame is being put together, a discarded
descriptor does nothing but put its buffer back, and a buffer that was taken from the pool is in the
ring or was given away once. -/
structure AttachedOk (s : RxNic cfg) : Prop where
  skb : s.queue.skb = none
  puts : ∀ t ∈ s.turns, t.fate = .discarded → ∃ b, t.before = some b ∧ t.effects = [.put b]
  balance : ∀ b, (takenBy s.log).count b
    = (givenBy s.log).count b + s.queue.rxBuff.count (some b)

structure RxNic.Inv (s s₀ : RxNic cfg) : Prop where
  ring : RingOk s.queue
  room : s.completed.length ≤ s.queue.rxPreparedHead - s.queue.rxTail
  drop : s.queue.xdpRxDropMultidesc = midDiscard s.turns
  drops : s.queue.rxXdpMultidescDrops = s₀.queue.rxXdpMultidescDrops + episodes s.turns
  turns : ∀ newer t older, s.turns = newer ++ t :: older → TurnOk t older
  attached : (∀ t ∈ s.turns, t.attached) → AttachedOk s

theorem RxNic.Opened.inv {s : RxNic cfg} (h : s.Opened) : s.Inv s where
  ring := by
    refine ⟨?_, ?_, ?_⟩
    · rw [h.tail]; exact Nat.zero_le _
    · rw [h.tail, h.head]; exact cfg.ringPos
    · intro i _ hhigh
      rw [h.head] at hhigh
      exact absurd hhigh (Nat.not_lt_zero i)
  room := by rw [h.completed]; exact Nat.zero_le _
  drop := by rw [h.drop, h.turns]; rfl
  drops := by rw [h.turns]; rfl
  turns := fun newer t older heq => by
    rw [h.turns] at heq
    exact absurd heq.symm (by simp)
  attached := fun _ => by
    refine ⟨h.skb, ?_, fun b => ?_⟩
    · rw [h.turns]
      intro t ht
      cases ht
    · rw [h.log, h.buff, Vector.count_replicate]
      rfl

section Steps

variable {s₀ s : RxNic cfg} (h : s.Inv s₀)

include h

/-- The refill changes neither the history nor what it says. -/
theorem RxNic.Inv.refill (answers : List (Option Nat)) : (s.afterRefill answers).Inv s₀ := by
  have hspec := gemRxRefill_spec h.ring answers
  have hhead := hspec.head
  have hroom := h.room
  refine ⟨hspec.ring, ?_, hspec.drop.trans h.drop, hspec.drops.trans h.drops, h.turns, ?_⟩
  · change s.completed.length ≤ _
    rw [RxNic.afterRefill_queue, hspec.tail]
    omega
  · intro hall
    obtain ⟨hskb, hputs, hbalance⟩ := h.attached hall
    refine ⟨hspec.skb.trans hskb, hputs, fun b => ?_⟩
    have hbefore := hbalance b
    rw [RxNic.afterRefill_queue, RxNic.afterRefill_log, takenBy_append, givenBy_append, hspec.given,
      List.nil_append, List.count_append, hspec.taken b]
    omega

/-- One turn of the loop. -/
theorem RxNic.Inv.turn (budget : Nat) (env : RxAnswers) {d : RxDesc} {rest : List RxDesc}
    (hd : s.completed = d :: rest) : (s.afterTurn budget env d rest).Inv s₀ := by
  have hroom := h.room
  rw [hd, List.length_cons] at hroom
  have hlt : s.queue.rxTail < s.queue.rxPreparedHead := by omega
  obtain ⟨buffer, hbuffer⟩ := Option.isSome_iff_exists.mp
    (h.ring.filled _ (Nat.le_refl _) hlt)
  have hspec := rxTurn_spec rfl hbuffer s.attached env d
  have hcleared : (rxTurn s.queue s.attached env d).queue.rxBuff[cfg.entry s.queue.rxTail]
      = none := by
    rw [hspec.buff, Fin.getElem_fin, Vector.getElem_set_self]
  refine ⟨h.ring.turn hlt hspec, ?_, hspec.drop, ?_, ?_, ?_⟩
  · change rest.length ≤ _
    rw [RxNic.afterTurn_queue, hspec.tail, hspec.head]
    omega
  · refine hspec.drops.trans ?_
    rw [h.drops, h.drop, Nat.add_assoc]
    rfl
  · intro newer t older heq
    cases newer with
    | cons t' newer => exact h.turns newer t older (List.cons.inj heq).2
    | nil =>
      obtain ⟨rfl, rfl⟩ := List.cons.inj heq
      refine ⟨hspec.fate.trans (by rw [h.drop]), buffer, hbuffer, hcleared, fun hdiscarded => ?_⟩
      rw [(hspec.discarded hdiscarded).2]
      cases s.queue.skb <;> simp [freed]
  · intro hall
    obtain ⟨hskb, hputs, hbalance⟩ := h.attached fun t ht => hall t (List.mem_cons_of_mem _ ht)
    have hattached : s.attached = true := hall _ List.mem_cons_self
    rw [hattached] at hspec
    obtain ⟨hskb', htaken, hgiven, hput⟩ := hspec.attached hskb
    refine ⟨?_, ?_, fun b => ?_⟩
    · rw [RxNic.afterTurn_queue, hattached]
      exact hskb'
    · intro t ht hdiscarded
      rcases List.mem_cons.mp ht with rfl | ht
      · refine ⟨buffer, hbuffer, ?_⟩
        dsimp only at hdiscarded ⊢
        rw [hattached] at hdiscarded ⊢
        exact hput hdiscarded
      · exact hputs t ht hdiscarded
    · have hbefore := hbalance b
      have hcount := count_clear hbuffer b
      rw [RxNic.afterTurn_queue, RxNic.afterTurn_log, hattached, takenBy_append, givenBy_append,
        htaken, hgiven, hspec.buff, List.nil_append, List.count_append]
      omega

/-- The other steps leave the queue and the history alone. -/
theorem RxNic.Inv.elsewhere {s' : RxNic cfg} (hqueue : s'.queue = s.queue)
    (hturns : s'.turns = s.turns) (hlog : s'.log = s.log)
    (hroom : s'.completed.length ≤ s.queue.rxPreparedHead - s.queue.rxTail) : s'.Inv s₀ where
  ring := hqueue ▸ h.ring
  room := hqueue ▸ hroom
  drop := by rw [hqueue, hturns]; exact h.drop
  drops := by rw [hqueue, hturns]; exact h.drops
  turns := fun newer t older heq => h.turns newer t older (hturns ▸ heq)
  attached := fun hall => by
    obtain ⟨hskb, hputs, hbalance⟩ := h.attached (hturns ▸ hall)
    exact ⟨hqueue ▸ hskb, hturns ▸ hputs, by rw [hlog, hqueue]; exact hbalance⟩

theorem RxNic.Inv.step {op : RxOp} {s' : RxNic cfg} (hstep : s.Step op s') : s'.Inv s₀ := by
  cases hstep with
  | complete d hroom =>
    refine h.elsewhere rfl rfl rfl ?_
    rw [List.length_append]
    exact hroom
  | setProg attached => exact h.elsewhere rfl rfl rfl h.room
  | poll budget hphase => exact h.elsewhere rfl rfl rfl h.room
  | @turn budget env d rest hphase hd => exact h.turn budget env hd
  | stop hphase hstop => exact h.elsewhere rfl rfl rfl h.room
  | refill answers hphase => exact h.refill answers

end Steps

section Run

variable {s₀ s : RxNic cfg} {ops : List RxOp} (h₀ : (rxSystem cfg).init s₀)
  (hrun : (rxSystem cfg).Run s₀ ops s)

include h₀ hrun

theorem inv_of_run : s.Inv s₀ := by
  have hinit : s₀.Inv s₀ := RxNic.Opened.inv h₀
  exact hrun.keeps (P := fun s => s.Inv s₀) (fun _ _ _ _ h hstep => h.step hstep) (.init h₀) hinit

theorem turnOk_of_mem {t : RxTurn} (ht : t ∈ s.turns) :
    ∃ older, t.fate = fateOf (midDiscard older) t.attached t.desc
      ∧ ∃ b, t.before = some b ∧ t.after = none
        ∧ (t.fate = .discarded → t.effects.count (.put b) = 1) := by
  obtain ⟨newer, older, heq⟩ := List.append_of_mem ht
  obtain ⟨hfate, hslot⟩ := (inv_of_run h₀ hrun).turns newer t older heq
  exact ⟨older, hfate, hslot⟩

/-- **Frames of several descriptors**, in any interleaving of the NIC, the polls and changes of the
program. While it is attached, the descriptors with SOF and EOF are processed, every other one gives
its buffer back and empties its slot, and no buffer is lost or given away twice; the counter counts
the episodes; and with the program detached an episode goes on to its EOF or the next SOF. -/
theorem gem_rx_discards_multidesc :
    ((∀ t ∈ s.turns, t.attached) →
        (∀ t ∈ s.turns, (t.fate = .processed ↔ t.desc.sof ∧ t.desc.eof)
          ∧ (t.fate ≠ .processed → t.fate = .discarded
              ∧ ∃ b, t.before = some b ∧ t.after = none ∧ t.effects = [.put b]))
        ∧ ∀ b, (takenBy s.log).count b
            = (givenBy s.log).count b + s.queue.rxBuff.count (some b))
      ∧ (∀ t ∈ s.turns, t.fate = .discarded → ∃ b, t.before = some b ∧ t.after = none
          ∧ t.effects.count (.put b) = 1)
      ∧ s.queue.rxXdpMultidescDrops = s₀.queue.rxXdpMultidescDrops + episodes s.turns
      ∧ ∀ newer t older, s.turns = newer ++ t :: older → t.attached = false →
          (t.fate = .discarded ↔ midDiscard older ∧ t.desc.sof = false)
            ∧ (t.fate ≠ .discarded → t.fate = .processed) := by
  have hinv := inv_of_run h₀ hrun
  refine ⟨fun hall => ⟨fun t ht => ?_, (hinv.attached hall).balance⟩, fun t ht hdiscarded => ?_,
    hinv.drops, fun newer t older heq hdetached => ?_⟩
  · obtain ⟨older, hfate, b, hbefore, hafter, -⟩ := turnOk_of_mem h₀ hrun ht
    rw [hall t ht, fateOf_attached] at hfate
    constructor
    · rw [hfate, ← Bool.and_eq_true_iff]
      cases t.desc.sof && t.desc.eof <;> simp
    · intro hnot
      have hdiscarded : t.fate = .discarded := by
        rw [hfate] at hnot ⊢
        exact if_neg fun hwhole => hnot (if_pos hwhole)
      obtain ⟨b', hbefore', heffects⟩ := (hinv.attached hall).puts t ht hdiscarded
      exact ⟨hdiscarded, b', hbefore', hafter, heffects⟩
  · obtain ⟨-, -, b, hbefore, hafter, hput⟩ := turnOk_of_mem h₀ hrun ht
    exact ⟨b, hbefore, hafter, hput hdiscarded⟩
  · have hfate := (hinv.turns newer t older heq).fate
    rw [hdetached, fateOf, Bool.false_and, Bool.or_false] at hfate
    rw [hfate]
    cases midDiscard older <;> cases t.desc.sof <;> simp

end Run

/-! ## A run

A frame in two descriptors, and a whole one behind it. -/

/-- A ring of four entries. -/
def smallRing : RxConfig := ⟨4, by decide, 2048, 2, 17⟩

/-- A ring that has just been opened, with a program attached. -/
def openedNic : RxNic smallRing where
  queue := ⟨0, 0, Vector.replicate 4 none, none, false, 0, 0, 0, 0⟩
  attached := true
  completed := []
  phase := .opening
  turns := []
  log := []

/-- The program redirects the frame. -/
def redirecting : RxAnswers := ⟨some ⟨.redirect, 60, true⟩, true⟩

def firstPart : RxDesc := ⟨true, false, 0⟩
def lastPart : RxDesc := ⟨false, true, 3000⟩
def wholeFrame : RxDesc := ⟨true, true, 60⟩

/-- A frame of two descriptors that two polls take apart, and a whole frame behind it. -/
theorem gem_rx_discards_multidesc_split :
    ∃ ops s, (rxSystem smallRing).Run openedNic ops s
      ∧ s.turns.map RxTurn.desc = [wholeFrame, lastPart, firstPart]
      ∧ s.turns.map RxTurn.fate = [.processed, .discarded, .discarded]
      ∧ s.queue.rxXdpMultidescDrops = 0 + episodes s.turns
      ∧ episodes s.turns = 1
      ∧ ∀ b, (takenBy s.log).count b
          = (givenBy s.log).count b + s.queue.rxBuff.count (some b) := by
  have hopened : openedNic.Opened := ⟨rfl, rfl, rfl, rfl, rfl, rfl, rfl, rfl, rfl⟩
  have hrun : (rxSystem smallRing).Run openedNic _ _ :=
    .cons (.refill [some 10, some 11, some 12] (.inl rfl)) <|
    .cons (.complete firstPart (by decide)) <| .cons (.complete lastPart (by decide)) <|
    .cons (.complete wholeFrame (by decide)) <| .cons (.poll 1 rfl) <|
    .cons (.turn redirecting rfl rfl) <| .cons (.stop rfl (.inl rfl)) <|
    .cons (.refill [] (.inr rfl)) <| .cons (.poll 64 rfl) <|
    .cons (.turn redirecting rfl rfl) <| .cons (.turn redirecting rfl rfl) <| .nil _
  obtain ⟨hattached, -, hdrops, -⟩ := gem_rx_discards_multidesc hopened hrun
  exact ⟨_, _, hrun, rfl, rfl, hdrops, rfl, (hattached (by decide)).2⟩

end AceXdp.Macb
