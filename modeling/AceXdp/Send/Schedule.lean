import AceXdp.Lib.Signed64
import AceXdp.Runner.Accepted
import AceXdp.Send.Sender

/-!
# AceXdp — the schedule of the sender

`add_ns` never looks at a clock, so the deadline of packet `k` is the base plus `k` periods, however
late the packets before it were; the deadline check in front of the loop is what keeps the sums and
the products inside 64 bits.

* `addNs_exact`, `iterate_addNs_exact`: the incremental deadline is the closed form;
* `sendTurn_spec`, `sendLoop_done`: one turn and the whole loop keep the schedule and the counters;
* `finish_zero`: what the completion byte 0 says;
* `sender_schedule_exact`: the three together with `flow_count`.
-/

namespace AceXdp.Sender

open Signed64

/-! ## Whole seconds and nanoseconds

A `timespec` normalised to less than a second is exact as long as its seconds fit. -/

/-- `1000000000` of either type. -/
theorem toInt_billion : (1000000000 : Int64).toInt = 1000000000 := by decide

theorem toInt_div_billion {x : UInt64} :
    (x / 1000000000).toInt64.toInt = (x.toNat / 1000000000 : Nat) := by
  have hlt := x.toNat_lt
  have hdiv : (x / 1000000000).toNat = x.toNat / 1000000000 := UInt64.toNat_div _ _
  rw [toInt_toInt64 (by omega), hdiv]

theorem toInt_mod_billion {x : UInt64} :
    (x % 1000000000).toInt64.toInt = (x.toNat % 1000000000 : Nat) := by
  have hmod : (x % 1000000000).toNat = x.toNat % 1000000000 := UInt64.toNat_mod _ _
  rw [toInt_toInt64 (by omega), hmod]

/-! ## Deadlines

The deadlines are not computed from the first one by multiplication but by repeated addition, which
is exact here, so that no error accumulates. -/

/-- `t` is the time `n`, in seconds and the nanoseconds of the last one. -/
structure Exact (t : Timespec) (n : Nat) : Prop where
  sec : t.sec.toInt = (n / 1000000000 : Nat)
  nsec : t.nsec.toInt = (n % 1000000000 : Nat)
  fits : n ≤ 2 ^ 63 - 1

theorem ofNs_exact {ns : UInt64} (h : ns.toNat ≤ 2 ^ 63 - 1) : Exact (Timespec.ofNs ns) ns.toNat :=
  ⟨toInt_div_billion, toInt_mod_billion, h⟩

/-- **`add_ns` adds.** The nanosecond parts carry at most one second. -/
theorem addNs_exact {t : Timespec} {n : Nat} (ht : Exact t n) {ns : UInt64}
    (h : n + ns.toNat ≤ 2 ^ 63 - 1) : Exact (addNs t ns) (n + ns.toNat) := by
  obtain ⟨hsec, hnsec, _⟩ := ht
  have hone : (1 : Int64).toInt = 1 := by decide
  have hsum := toInt_add_exact hsec (toInt_div_billion (x := ns)) (by omega) (by omega)
  have hrest := toInt_add_exact hnsec (toInt_mod_billion (x := ns)) (by omega) (by omega)
  unfold addNs
  dsimp only
  split
  · rename_i hcarry
    rw [ge_iff_le, Int64.le_iff_toInt_le, hrest, toInt_billion] at hcarry
    refine ⟨?_, ?_, h⟩
    · rw [toInt_add_exact hsum hone (by omega) (by omega)]
      omega
    · rw [toInt_sub_exact hrest toInt_billion (by omega) (by omega)]
      omega
  · rename_i hcarry
    rw [ge_iff_le, Int64.le_iff_toInt_le, hrest, toInt_billion] at hcarry
    refine ⟨?_, ?_, h⟩
    · rw [hsum]; omega
    · rw [hrest]; omega

/-- The deadline as one number. -/
theorem Exact.nanos {t : Timespec} {n : Nat} (ht : Exact t n) : t.nanos.toInt = n := by
  obtain ⟨hsec, hnsec, hfits⟩ := ht
  have hmul := toInt_mul_exact hsec toInt_billion (by omega) (by omega)
  unfold Timespec.nanos
  rw [toInt_add_exact hmul hnsec (by omega) (by omega)]
  omega

/-- **What the deadline check is for**: no deadline of the sequence leaves the positive `int64_t`. -/
theorem deadline_fits {base period count : UInt64} (hbase : base.toNat ≤ 2 ^ 63 - 1)
    (hcount : 1 ≤ count.toNat)
    (hcheck : ¬count - 1 > (int64Max - base) / period) {k : Nat} (hk : k < count.toNat) :
    base.toNat + k * period.toNat ≤ 2 ^ 63 - 1 := by
  have hmax : int64Max.toNat = 2 ^ 63 - 1 := rfl
  have hroom : (int64Max - base).toNat = 2 ^ 63 - 1 - base.toNat := by
    rw [UInt64.toNat_sub_of_le _ _ (UInt64.le_iff_toNat_le.mpr (by rwa [hmax])), hmax]
  have hlast : (count - 1).toNat = count.toNat - 1 :=
    UInt64.toNat_sub_of_le _ _ (UInt64.le_iff_toNat_le.mpr hcount)
  rw [gt_iff_lt, UInt64.lt_iff_toNat_lt, UInt64.toNat_div, hroom, hlast, not_lt] at hcheck
  have hmul : k * period.toNat ≤ 2 ^ 63 - 1 - base.toNat :=
    calc k * period.toNat
        ≤ (2 ^ 63 - 1 - base.toNat) / period.toNat * period.toNat :=
          Nat.mul_le_mul_right _ (by omega)
      _ ≤ 2 ^ 63 - 1 - base.toNat := Nat.div_mul_le_self _ _
  omega

/-- **The deadline of packet `k`** is `k` periods behind the base. Induction on `k`. -/
theorem iterate_addNs_exact {base period count : UInt64} (hbase : base.toNat ≤ 2 ^ 63 - 1)
    (hcount : 1 ≤ count.toNat)
    (hcheck : ¬count - 1 > (int64Max - base) / period) :
    ∀ k < count.toNat, Exact ((fun t => addNs t period)^[k] (Timespec.ofNs base))
      (base.toNat + k * period.toNat)
  | 0, _ => by
    rw [Nat.zero_mul, Nat.add_zero]
    exact ofNs_exact hbase
  | k + 1, hk => by
    have hfits := deadline_fits hbase hcount hcheck hk
    have ih := iterate_addNs_exact hbase hcount hcheck k (by omega)
    rw [Nat.succ_mul, ← Nat.add_assoc] at hfits ⊢
    rw [Function.iterate_succ_apply']
    exact addNs_exact ih hfits

/-! ## The send loop

One datagram for each deadline, unless the flow is stopped or a call fails. The invariant ties the
counter, the deadline and the list of what was sent. -/

/-- The part of the locals the schedule and the counters are about. -/
structure Core where
  nextSend : Timespec
  sent : UInt64
  errors : UInt64
  attempted : UInt64
  paced : List (UInt64 × Timespec)
  attempts : List SendAttempt

def SendState.core (s : SendState) : Core :=
  ⟨s.nextSend, s.sent, s.errors, s.attempted, s.paced, s.attempts⟩

/-- What is on record so far: every deadline is the one of its packet, every attempt kept to a
recorded deadline, and the attempts count up from 0. -/
structure OnSchedule (cfg : Config) (base : UInt64) (c : Core) : Prop where
  paced : ∀ p ∈ c.paced, Exact p.2 (base.toNat + p.1.toNat * cfg.periodNs.toNat)
  attempts : ∀ a ∈ c.attempts, (a.seq, a.deadline) ∈ c.paced
    ∧ ∃ txNs, a.packet = senderPacket cfg.flowId a.seq txNs cfg.payload
  seqs : c.attempts.map (fun a => a.seq.toNat) = List.range c.attempted.toNat
  sent : c.sent.toNat = c.attempts.countP fun a => a.taken
  attempted_le : c.attempted.toNat ≤ cfg.packetCount.toNat

/-- Before turn `seq`. Every failure so far is one of a packet. -/
structure TurnInv (cfg : Config) (base : UInt64) (seq : Nat) (c : Core) : Prop
    extends OnSchedule cfg base c where
  attempted : c.attempted.toNat = seq
  errors : c.errors.toNat + c.sent.toNat = seq
  nextSend : Exact c.nextSend (base.toNat + (seq - 1) * cfg.periodNs.toNat)

/-- After the loop. One failure may have ended it. -/
structure LoopDone (cfg : Config) (base : UInt64) (c : Core) : Prop
    extends OnSchedule cfg base c where
  errors_low : c.attempted.toNat ≤ c.errors.toNat + c.sent.toNat
  errors_high : c.errors.toNat + c.sent.toNat ≤ c.attempted.toNat + 1

theorem OnSchedule.sent_le {cfg : Config} {base : UInt64} {c : Core} (h : OnSchedule cfg base c) :
    c.sent.toNat ≤ c.attempted.toNat := by
  have hlen := congrArg List.length h.seqs
  rw [List.length_map, List.length_range] at hlen
  rw [h.sent, ← hlen]
  exact List.countP_le_length

theorem TurnInv.done {cfg : Config} {base : UInt64} {seq : Nat} {c : Core}
    (h : TurnInv cfg base seq c) : LoopDone cfg base c :=
  ⟨h.toOnSchedule, by rw [h.errors, h.attempted], by rw [h.errors, h.attempted]; omega⟩

/-- The sequence of a schedule: a base and a configuration that pass the deadline check. -/
structure Checked (cfg : Config) (base : UInt64) : Prop where
  base_le : base.toNat ≤ 2 ^ 63 - 1
  check : ¬cfg.packetCount - 1 > (int64Max - base) / cfg.periodNs

theorem Checked.fits {cfg : Config} {base : UInt64} (h : Checked cfg base) {k : Nat}
    (hk : k < cfg.packetCount.toNat) :
    base.toNat + k * cfg.periodNs.toNat ≤ 2 ^ 63 - 1 :=
  deadline_fits h.base_le cfg.count_pos h.check hk

/-- There are far fewer packets than errors a `uint64_t` can count. -/
theorem Checked.count_le {cfg : Config} {base : UInt64} (h : Checked cfg base) :
    cfg.packetCount.toNat ≤ 2 ^ 63 := by
  have hcount := cfg.count_pos
  have hfits := h.fits (Nat.sub_lt hcount Nat.one_pos)
  have hperiod := Nat.le_mul_of_pos_right (cfg.packetCount.toNat - 1) cfg.period_pos
  omega

/-- With the deadline of packet `seq` in force. -/
structure PacedInv (cfg : Config) (base seq : UInt64) (c : Core) : Prop
    extends OnSchedule cfg base c where
  attempted : c.attempted = seq
  errors : c.errors.toNat + c.sent.toNat = seq.toNat
  inForce : (seq, c.nextSend) ∈ c.paced

section Turn

variable {cfg : Config} {base seq : UInt64} {s : SendState}

theorem pace_inv (hchecked : Checked cfg base) (hseq : seq < cfg.packetCount)
    (h : TurnInv cfg base seq.toNat s.core) :
    PacedInv cfg base seq (s.pace cfg.periodNs seq).core := by
  have hfits := hchecked.fits (UInt64.lt_iff_toNat_lt.mp hseq)
  have hnext : Exact (s.pace cfg.periodNs seq).nextSend
      (base.toNat + seq.toNat * cfg.periodNs.toNat) := by
    unfold SendState.pace
    dsimp only
    by_cases hzero : seq = 0
    · rw [if_neg (not_not.mpr hzero)]
      have hsame : Exact s.nextSend _ := h.nextSend
      rw [hzero] at hsame ⊢
      simpa using hsame
    · have hpos : seq.toNat ≠ 0 := fun h0 => hzero (UInt64.toNat_inj.mp h0)
      have hstep : base.toNat + (seq.toNat - 1) * cfg.periodNs.toNat + cfg.periodNs.toNat
          = base.toNat + seq.toNat * cfg.periodNs.toNat := by
        rw [Nat.add_assoc, ← Nat.succ_mul, Nat.succ_eq_add_one, Nat.sub_add_cancel (by omega)]
      rw [if_pos hzero, ← hstep]
      exact addNs_exact h.nextSend (by rwa [hstep])
  refine ⟨⟨?_, ?_, h.seqs, h.sent, h.attempted_le⟩, ?_, h.errors, ?_⟩
  · intro p hp
    rcases List.mem_append.mp hp with hp | hp
    · exact h.paced p hp
    · rw [List.mem_singleton.mp hp]
      exact hnext
  · intro a ha
    obtain ⟨hpaced, hpacket⟩ := h.attempts a ha
    exact ⟨List.mem_append_left _ hpaced, hpacket⟩
  · exact UInt64.toNat_inj.mp h.attempted
  · exact List.mem_append_right _ (List.mem_singleton.mpr rfl)

/-- Leaving a turn without an attempt, with or without an error of its own. -/
theorem PacedInv.leave (h : PacedInv cfg base seq s.core) : LoopDone cfg base s.core :=
  ⟨h.toOnSchedule, by rw [h.errors, h.attempted], by rw [h.errors, h.attempted]; omega⟩

theorem PacedInv.fail (hchecked : Checked cfg base) (h : PacedInv cfg base seq s.core)
    (reason : TerminationReason) : LoopDone cfg base (s.fail reason).core := by
  have hcount := hchecked.count_le
  have hattempted := h.attempted_le
  have herrors := h.errors
  have hseq := congrArg UInt64.toNat h.attempted
  have hsucc : (s.errors + 1).toNat = s.core.errors.toNat + 1 :=
    (UInt64.toNat_add _ _).trans (Nat.mod_eq_of_lt (by
      rw [show (1 : UInt64).toNat = 1 from rfl, show s.errors.toNat = s.core.errors.toNat from rfl]
      omega))
  refine ⟨⟨h.paced, h.attempts, h.seqs, h.sent, h.attempted_le⟩, ?_, ?_⟩
  · show s.core.attempted.toNat ≤ (s.errors + 1).toNat + s.core.sent.toNat
    omega
  · show (s.errors + 1).toNat + s.core.sent.toNat ≤ s.core.attempted.toNat + 1
    omega

/-- What an attempt does to the counters, whether or not the packet was taken. -/
theorem send_core (turn : SendTurn) (actualNs txNs : Int64) :
    ∃ taken, (s.send cfg turn seq actualNs txNs).core = { s.core with
      sent := if taken then s.sent + 1 else s.sent
      errors := if taken then s.errors else s.errors + 1
      attempted := s.attempted + 1
      attempts := s.attempts
        ++ [⟨seq, s.nextSend, senderPacket cfg.flowId seq txNs cfg.payload, taken⟩] } := by
  unfold SendState.send
  dsimp only
  split
  · split
    · exact ⟨true, rfl⟩
    · exact ⟨false, rfl⟩
  · exact ⟨false, rfl⟩

theorem PacedInv.send (hchecked : Checked cfg base) (hseq : seq < cfg.packetCount)
    (h : PacedInv cfg base seq s.core)
    (hnext : Exact s.nextSend (base.toNat + seq.toNat * cfg.periodNs.toNat)) (turn : SendTurn)
    (actualNs txNs : Int64) :
    TurnInv cfg base (seq + 1).toNat (s.send cfg turn seq actualNs txNs).core := by
  obtain ⟨taken, hcore⟩ : ∃ taken, (s.send cfg turn seq actualNs txNs).core = _ :=
    send_core turn actualNs txNs
  have hlt := UInt64.lt_iff_toNat_lt.mp hseq
  have hcount := hchecked.count_le
  have hone : (1 : UInt64).toNat = 1 := rfl
  have hattempted : s.attempted = seq := h.attempted
  have herrors : s.errors.toNat + s.sent.toNat = seq.toNat := h.errors
  have hsent : s.sent.toNat = s.attempts.countP fun a => a.taken := h.sent
  have hsucc := toNat_succ hseq
  rw [hcore]
  refine ⟨⟨h.paced, ?_, ?_, ?_, ?_⟩, ?_, ?_, ?_⟩
  · intro a ha
    rcases List.mem_append.mp ha with ha | ha
    · exact h.attempts a ha
    · rw [List.mem_singleton.mp ha]
      exact ⟨h.inForce, txNs, rfl⟩
  · show (s.attempts ++ [_]).map _ = List.range (s.attempted + 1).toNat
    rw [List.map_append, hattempted, hsucc, List.range_succ, ← hattempted]
    exact congrArg₂ _ h.seqs (by rw [hattempted]; rfl)
  · show (if taken then s.sent + 1 else s.sent).toNat = _
    rw [List.countP_append, ← hsent]
    cases taken with
    | true => exact (UInt64.toNat_add _ _).trans (Nat.mod_eq_of_lt (by omega))
    | false => rfl
  · show (s.attempted + 1).toNat ≤ _
    rw [hattempted, hsucc]
    exact hlt
  · show (s.attempted + 1).toNat = _
    rw [hattempted]
  · show (if taken then s.errors else s.errors + 1).toNat
      + (if taken then s.sent + 1 else s.sent).toNat = (seq + 1).toNat
    rw [hsucc]
    cases taken with
    | true =>
      have hadd : (s.sent + 1).toNat = s.sent.toNat + 1 :=
        (UInt64.toNat_add _ _).trans (Nat.mod_eq_of_lt (by omega))
      show s.errors.toNat + (s.sent + 1).toNat = _
      omega
    | false =>
      have hadd : (s.errors + 1).toNat = s.errors.toNat + 1 :=
        (UInt64.toNat_add _ _).trans (Nat.mod_eq_of_lt (by omega))
      show (s.errors + 1).toNat + s.sent.toNat = _
      omega
  · rw [hsucc, Nat.add_sub_cancel]
    exact hnext

/-- How a turn that ends may end. -/
def TurnEnd.Ok (cfg : Config) (base seq : UInt64) : TurnEnd → Prop
  | .next s => TurnInv cfg base (seq + 1).toNat s.core
  | .leave s => LoopDone cfg base s.core

theorem sendPaced_spec (hchecked : Checked cfg base) (hseq : seq < cfg.packetCount)
    (h : PacedInv cfg base seq s.core)
    (hnext : Exact s.nextSend (base.toNat + seq.toNat * cfg.periodNs.toNat)) (turn : SendTurn) :
    (sendPaced cfg turn seq s).Ok cfg base seq := by
  unfold sendPaced
  cases turn.mono with
  | error errno => exact h.fail hchecked .clockError
  | ok actualNs =>
    have hmeasured : PacedInv cfg base seq (s.measure cfg.periodNs actualNs).core := h
    dsimp only
    cases turn.real with
    | error errno => exact hmeasured.fail hchecked .clockError
    | ok txNs => exact hmeasured.send hchecked hseq hnext turn actualNs txNs

/-- **One turn of the send loop.** -/
theorem sendTurn_spec (hchecked : Checked cfg base) (hseq : seq < cfg.packetCount)
    (h : TurnInv cfg base seq.toNat s.core) {startAt : UInt64} {turn : SendTurn} {e : TurnEnd}
    (he : sendTurn cfg startAt turn seq s = some e) : e.Ok cfg base seq := by
  have hpaced := pace_inv hchecked hseq h
  have hnext := hpaced.paced _ hpaced.inForce
  unfold sendTurn at he
  dsimp only at he
  generalize s.pace cfg.periodNs seq = s at he hpaced hnext
  split at he
  · split at he
    · cases he
    · rename_i result stop _
      split at he
      · cases he
        exact PacedInv.fail (s := { s with stop := stop }) hchecked hpaced .sleepError
      · split at he
        · cases he
          exact PacedInv.leave (s := { s with stop := stop || turn.arrivesAfter }) hpaced
        · cases he
          exact sendPaced_spec (s := { s with stop := stop || turn.arrivesAfter }) hchecked hseq
            hpaced hnext turn
  · cases he
    exact sendPaced_spec hchecked hseq hpaced hnext turn

end Turn

/-- **The whole loop.** Induction on the packets left. -/
theorem sendLoop_done {cfg : Config} {base : UInt64} (hchecked : Checked cfg base)
    {startAt : UInt64} {turns : UInt64 → SendTurn} (seq : UInt64) {s s' : SendState}
    (h : TurnInv cfg base seq.toNat s.core)
    (hrun : sendLoop cfg startAt turns seq s = some s') : LoopDone cfg base s'.core := by
  rw [sendLoop] at hrun
  split at hrun
  · rename_i hseq
    dsimp only at hrun
    split at hrun
    · cases hrun
      exact h.done
    · cases hturn : sendTurn cfg startAt (turns seq) seq
          { s with stop := s.stop || (turns seq).arrives } with
      | none => rw [hturn] at hrun; cases hrun
      | some e =>
        have hok := sendTurn_spec (s := { s with stop := s.stop || (turns seq).arrives }) hchecked
          hseq h hturn
        rw [hturn] at hrun
        cases e with
        | leave s₁ => cases hrun; exact hok
        | next s₁ => exact sendLoop_done hchecked (seq + 1) hok hrun
  · cases hrun
    exact h.done
termination_by cfg.packetCount.toNat - seq.toNat
decreasing_by
  rw [toNat_succ ‹seq < cfg.packetCount›]
  have hlt := UInt64.lt_iff_toNat_lt.mp ‹seq < cfg.packetCount›
  omega

/-! ## The whole program

What stands around the loop: the start file, the first deadline, the completion marker. -/

/-- `finish` touches one counter. -/
theorem finish_core (cfg : Config) (env : Env) (base : Option UInt64) (s : SendState) :
    ∃ errors, (errors = s.errors ∨ errors = s.errors + 1)
      ∧ (finish cfg env base s).state.core = { s.core with errors := errors } := by
  unfold finish
  dsimp only
  cases env.endClock with
  | error errno => exact ⟨_, Or.inr rfl, rfl⟩
  | ok now => exact ⟨_, Or.inl rfl, rfl⟩

/-- The byte is settled by the locals `finish` leaves. -/
theorem finish_completion (cfg : Config) (env : Env) (base : Option UInt64) (s : SendState) :
    (finish cfg env base s).completion = if cfg.completionFd then
      some (if (finish cfg env base s).state.errors ≠ 0 ∨ (finish cfg env base s).state.stop = true ∨
        (finish cfg env base s).state.attempted ≠ cfg.packetCount then 1 else 0) else none := rfl

theorem finish_zero {cfg : Config} {env : Env} {base : Option UInt64} {s : SendState}
    (h : (finish cfg env base s).completion = some 0) :
    (finish cfg env base s).state.errors = 0 ∧ (finish cfg env base s).state.stop = false
      ∧ (finish cfg env base s).state.attempted = cfg.packetCount := by
  rw [finish_completion] at h
  generalize (finish cfg env base s).state = s' at h ⊢
  by_cases hbad : s'.errors ≠ 0 ∨ s'.stop = true ∨ s'.attempted ≠ cfg.packetCount
  · rw [if_pos hbad] at h
    split at h
    · exact absurd (Option.some.inj h) (by decide)
    · cases h
  · rw [not_or, not_or, not_not, not_not, Bool.not_eq_true] at hbad
    exact hbad

/-- Where a run of `main` has been: turned away before the first packet, or through the loop with a
base that passed the deadline check. -/
inductive Ended (cfg : Config) (env : Env) : Result → Prop where
  | turnedAway {s : SendState} (hattempted : s.attempted = 0) (hattempts : s.attempts = [])
      (hpaced : s.paced = []) : Ended cfg env (finish cfg env none s)
  | ran {base : UInt64} {s : SendState} (hchecked : Checked cfg base)
      (hdone : LoopDone cfg base s.core) : Ended cfg env (finish cfg env (some base) s)

theorem Ended.fail (cfg : Config) (env : Env) (stop : Bool) (reason : TerminationReason) :
    Ended cfg env (finish cfg env none (SendState.fail { nextSend := ⟨0, 0⟩, stop := stop } reason)) :=
  .turnedAway rfl rfl rfl

/-- Before the first packet. -/
theorem turnInv_start {cfg : Config} {base : UInt64} (hchecked : Checked cfg base) (stop : Bool) :
    TurnInv cfg base 0 (SendState.core { nextSend := Timespec.ofNs base, stop := stop }) where
  paced := by simp [SendState.core]
  attempts := by simp [SendState.core]
  seqs := rfl
  sent := rfl
  attempted_le := Nat.zero_le _
  attempted := rfl
  errors := rfl
  nextSend := by
    rw [Nat.zero_sub, Nat.zero_mul, Nat.add_zero]
    exact ofNs_exact hchecked.base_le

theorem settleReason_core (s : SendState) (arrives : Bool) :
    (s.settleReason arrives).core = s.core := by
  unfold SendState.settleReason
  dsimp only
  split
  · rfl
  · split <;> rfl

theorem sendFrom_ended {cfg : Config} {env : Env} {startAt startNs : UInt64} {r : Result}
    (hat : startAt.toNat ≤ 2 ^ 63 - 1) (hns : startNs.toNat ≤ 2 ^ 63 - 1)
    (h : sendFrom cfg env startAt startNs { nextSend := ⟨0, 0⟩, stop := false } = some r) :
    Ended cfg env r := by
  unfold sendFrom at h
  dsimp only at h
  have hbase : (if startAt ≠ 0 then startAt else startNs).toNat ≤ 2 ^ 63 - 1 := by
    split
    · exact hat
    · exact hns
  generalize (if startAt ≠ 0 then startAt else startNs) = base at h hbase
  split at h
  · cases h; exact .fail ..
  split at h
  · cases h; exact .fail ..
  rename_i hcheck
  have hchecked : Checked cfg base := ⟨hbase, hcheck⟩
  split at h
  · cases h
  · rename_i s hloop
    cases h
    refine .ran hchecked ?_
    rw [settleReason_core]
    exact sendLoop_done hchecked 0 (turnInv_start hchecked false) hloop

theorem main_ended {cfg : Config} {env : Env} {r : Result} (h : main cfg env = some r) :
    Ended cfg env r := by
  have hstart : ∀ (startAt : UInt64) (startNs : Nat), startAt.toNat ≤ 2 ^ 63 - 1 →
      env.startClock = .ok startNs →
      sendFrom cfg env startAt (UInt64.ofNat startNs) { nextSend := ⟨0, 0⟩, stop := false } = some r →
      Ended cfg env r := by
    intro startAt startNs hat hclock h
    have hlt := env.startClock_lt startNs hclock
    refine sendFrom_ended hat ?_ h
    rw [UInt64.toNat_ofNat', Nat.mod_eq_of_lt (by omega)]
    exact hlt
  unfold main at h
  dsimp only at h
  split at h
  · cases h; exact .fail ..
  split at h
  · split at h
    · cases h; exact .turnedAway rfl rfl rfl
    · cases h; exact .fail ..
    · rename_i ns range _
      split at h
      · cases h; exact .fail ..
      · rename_i startNs hclock
        exact hstart ns startNs range.2 hclock h
  · split at h
    · cases h; exact .fail ..
    · rename_i startNs hclock
      exact hstart cfg.startAtNs startNs cfg.startAt_le hclock h

/-! ## The number of packets

The configured number against the one that the runner computes from duration and period. -/

/-- `flow_count`. -/
def flowCount64 (periodNs durationMs : UInt64) : UInt64 :=
  (durationMs * 1000000 + periodNs - 1) / periodNs

/-- The rounding up of a quotient. -/
theorem ceilDiv_bounds {d p : Nat} (hd : 0 < d) (hp : 0 < p) :
    ((d + p - 1) / p - 1) * p < d ∧ d ≤ (d + p - 1) / p * p := by
  have hdiv := Nat.div_add_mod (d + p - 1) p
  have hmod := Nat.mod_lt (d + p - 1) hp
  rw [Nat.mul_comm] at hdiv
  have hsub : ((d + p - 1) / p - 1) * p = (d + p - 1) / p * p - p := by
    rw [Nat.sub_mul, Nat.one_mul]
  omega

theorem flowCount64_exact {periodNs durationMs : UInt64} (hperiod : 1 ≤ periodNs.toNat)
    (hperiod_le : periodNs.toNat ≤ 1000000000000) (hduration : 1 ≤ durationMs.toNat)
    (hduration_le : durationMs.toNat ≤ 86400000) :
    (flowCount64 periodNs durationMs).toNat
      = (durationMs.toNat * 1000000 + periodNs.toNat - 1) / periodNs.toNat := by
  have hmul : (durationMs * 1000000).toNat = durationMs.toNat * 1000000 :=
    (UInt64.toNat_mul _ _).trans (Nat.mod_eq_of_lt (by
      rw [show (1000000 : UInt64).toNat = 1000000 from rfl]; omega))
  have hadd : (durationMs * 1000000 + periodNs).toNat
      = durationMs.toNat * 1000000 + periodNs.toNat := by
    rw [UInt64.toNat_add, hmul]
    exact Nat.mod_eq_of_lt (by omega)
  have hone : (1 : UInt64) ≤ durationMs * 1000000 + periodNs := by
    rw [UInt64.le_iff_toNat_le, hadd, show (1 : UInt64).toNat = 1 from rfl]
    omega
  rw [flowCount64, UInt64.toNat_div, UInt64.toNat_sub_of_le _ _ hone, hadd]
  rfl

/-- What the records of a run say, however it ended. -/
theorem OnSchedule.of_core {cfg : Config} {base : UInt64} {c : Core} (h : OnSchedule cfg base c)
    (errors : UInt64) : OnSchedule cfg base { c with errors := errors } :=
  ⟨h.paced, h.attempts, h.seqs, h.sent, h.attempted_le⟩

/-- **What a completion byte 0 says.** No error was counted, so every attempt was taken, and the
attempts were as many as packets. -/
theorem completion_zero {cfg : Config} {env : Env} {base : UInt64} {s : SendState}
    (hchecked : Checked cfg base) (hdone : LoopDone cfg base s.core)
    (h : (finish cfg env (some base) s).completion = some 0) :
    (finish cfg env (some base) s).state.sent = (finish cfg env (some base) s).state.attempted
      ∧ ∀ a ∈ (finish cfg env (some base) s).state.attempts, a.taken = true := by
  obtain ⟨herrors, _, _⟩ := finish_zero h
  obtain ⟨errors, hwhich, hcore⟩ := finish_core cfg env (some base) s
  generalize (finish cfg env (some base) s).state = s' at *
  have hcount := hchecked.count_le
  have hle := hdone.attempted_le
  have hlow : s.attempted.toNat ≤ s.errors.toNat + s.sent.toNat := hdone.errors_low
  have hhigh : s.errors.toNat + s.sent.toNat ≤ s.attempted.toNat + 1 := hdone.errors_high
  have hsent_le : s.sent.toNat ≤ s.attempted.toNat := hdone.sent_le
  have hnone : errors = 0 := (congrArg Core.errors hcore).symm.trans herrors
  -- the counter has not wrapped around to 0
  have hzero : s.errors.toNat = 0 := by
    rcases hwhich with rfl | rfl
    · rw [hnone]; rfl
    · have hsucc := congrArg UInt64.toNat hnone
      rw [UInt64.toNat_add, Nat.mod_eq_of_lt (by
        rw [show (1 : UInt64).toNat = 1 from rfl]
        have hcap : s.attempted.toNat ≤ cfg.packetCount.toNat := hle
        omega)] at hsucc
      exact absurd hsucc (Nat.succ_ne_zero _)
  have hall : s.sent.toNat = s.attempted.toNat := by omega
  have hsent : s'.sent = s.sent := congrArg Core.sent hcore
  have hattempted : s'.attempted = s.attempted := congrArg Core.attempted hcore
  have hattempts : s'.attempts = s.attempts := congrArg Core.attempts hcore
  refine ⟨?_, ?_⟩
  · rw [hsent, hattempted]
    exact UInt64.toNat_inj.mp hall
  · have hlen := congrArg List.length hdone.seqs
    rw [List.length_map, List.length_range] at hlen
    have hcountP : s.attempts.countP (fun a => a.taken) = s.attempts.length :=
      hdone.sent.symm.trans (hall.trans hlen.symm)
    rw [hattempts]
    exact List.countP_eq_length.mp hcountP

/-- **The sender's schedule is exact.** A flow of an accepted configuration has as many packets as
periods begin in its duration, computed without overflow. From a base, period and count that pass
the deadline check, the deadline of packet `k` is `base + k * period`, split at the second. And
whatever clocks, sleeps, `sendto` and signals do in a run: the deadlines it kept to are those of the
closed form, the packets it attempted are 0, 1, 2, … each once, and a completion byte 0 says that all
of them were sent, with no error and no signal. -/
theorem sender_schedule_exact :
    (∀ host content c, readRunConfig host content = some c → ∀ i f, c.flows i = some f →
      let count := flowCount64 (UInt64.ofNat f.periodNs) (UInt64.ofNat c.durationMs)
      count.toNat = f.flowCount c.durationMs
        ∧ (count.toNat - 1) * f.periodNs < c.durationMs * 1000000
        ∧ c.durationMs * 1000000 ≤ count.toNat * f.periodNs
        ∧ c.durationMs * 1000000 + f.periodNs < 2 ^ 64)
      ∧ (∀ base period count : UInt64, base.toNat ≤ 2 ^ 63 - 1 → 1 ≤ count.toNat →
          ¬count - 1 > (int64Max - base) / period → ∀ k < count.toNat,
          let deadline := (fun t => addNs t period)^[k] (Timespec.ofNs base)
          deadline.sec.toInt = ((base.toNat + k * period.toNat) / 1000000000 : Nat)
            ∧ deadline.nsec.toInt = ((base.toNat + k * period.toNat) % 1000000000 : Nat)
            ∧ base.toNat + k * period.toNat ≤ 2 ^ 63 - 1)
      ∧ ∀ cfg env r, main cfg env = some r →
          (∀ p ∈ r.state.paced, ∃ base, r.base = some base
            ∧ p.2.sec.toInt = ((base.toNat + p.1.toNat * cfg.periodNs.toNat) / 1000000000 : Nat)
            ∧ p.2.nsec.toInt = ((base.toNat + p.1.toNat * cfg.periodNs.toNat) % 1000000000 : Nat)
            ∧ p.2.nanos.toInt = (base.toNat + p.1.toNat * cfg.periodNs.toNat : Nat)
            ∧ base.toNat + p.1.toNat * cfg.periodNs.toNat ≤ 2 ^ 63 - 1)
          ∧ (∀ a ∈ r.state.attempts, (a.seq, a.deadline) ∈ r.state.paced
            ∧ ∃ txNs, a.packet = senderPacket cfg.flowId a.seq txNs cfg.payload)
          ∧ r.state.attempts.map (fun a => a.seq.toNat) = List.range r.state.attempted.toNat
          ∧ (r.completion = some 0 → r.state.sent = r.state.attempted
            ∧ r.state.attempted = cfg.packetCount ∧ r.state.stop = false ∧ r.state.errors = 0
            ∧ ∀ a ∈ r.state.attempts, a.taken = true) := by
  refine ⟨?_, ?_, ?_⟩
  · intro host content c hc i f hf
    obtain ⟨hperiod, hperiod_le⟩ := (readRunConfig_accepted hc).period i f hf
    obtain ⟨hduration, hduration_le⟩ := (readRunConfig_accepted hc).duration
    have hp : (UInt64.ofNat f.periodNs).toNat = f.periodNs := by
      rw [UInt64.toNat_ofNat', Nat.mod_eq_of_lt (by omega)]
    have hd : (UInt64.ofNat c.durationMs).toNat = c.durationMs := by
      rw [UInt64.toNat_ofNat', Nat.mod_eq_of_lt (by omega)]
    have hcount : (flowCount64 (UInt64.ofNat f.periodNs) (UInt64.ofNat c.durationMs)).toNat = _ :=
      flowCount64_exact (by omega) (by omega) (by omega) (by omega)
    rw [hp, hd] at hcount
    obtain ⟨hlow, hhigh⟩ := ceilDiv_bounds (d := c.durationMs * 1000000) (p := f.periodNs)
      (by omega) (by omega)
    intro count
    rw [← hcount] at hlow hhigh
    exact ⟨hcount, hlow, hhigh, by omega⟩
  · intro base period count hbase hcount hcheck k hk
    have hexact := iterate_addNs_exact hbase hcount hcheck k hk
    exact ⟨hexact.sec, hexact.nsec, hexact.fits⟩
  · intro cfg env r hrun
    cases main_ended hrun with
    | @turnedAway s hattempted hattempts hpaced =>
      obtain ⟨errors, _, hcore⟩ := finish_core cfg env none s
      have hnone : (finish cfg env none s).state.attempts = [] :=
        (congrArg Core.attempts hcore).trans hattempts
      have hzero : (finish cfg env none s).state.attempted = 0 :=
        (congrArg Core.attempted hcore).trans hattempted
      have hunpaced : (finish cfg env none s).state.paced = [] :=
        (congrArg Core.paced hcore).trans hpaced
      rw [hnone, hzero, hunpaced]
      refine ⟨by simp, by simp, rfl, fun h => ?_⟩
      -- no packet at all is too few
      have hcount := cfg.count_pos
      rw [← (finish_zero h).2.2, hzero] at hcount
      exact absurd hcount (by decide)
    | @ran base s hchecked hdone =>
      obtain ⟨errors, _, hcore⟩ := finish_core cfg env (some base) s
      have hon : OnSchedule cfg base (finish cfg env (some base) s).state.core := by
        rw [hcore]
        exact hdone.toOnSchedule.of_core errors
      refine ⟨fun p hp => ?_, hon.attempts, hon.seqs, fun h => ?_⟩
      · have hexact := hon.paced p hp
        exact ⟨base, rfl, hexact.sec, hexact.nsec, hexact.nanos, hexact.fits⟩
      · obtain ⟨hsent, htaken⟩ := completion_zero hchecked hdone h
        obtain ⟨herrors, hstop, hattempted⟩ := finish_zero h
        exact ⟨hsent, hattempted, hstop, herrors, htaken⟩

/-- Two packets, 1 ms apart, from second 5 on. -/
def twoPackets : Config where
  flowId := 2
  payload := default
  periodNs := 1000000
  packetCount := 2
  startAtNs := 5000000000
  startFile := false
  completionFd := true
  period_pos := by decide
  period_le := by decide
  count_pos := Nat.one_le_ofNat
  startAt_le := by decide

/-- The clock is 100 ms behind schedule at both packets, and the socket takes them. -/
def lateHost : Env where
  ready := true
  startFile := .failed
  startClock := .ok 4999999999
  turns _ := { arrives := false, arrivesAfter := false, mono := .ok 5100000000, real := .ok 17
               sleep := [⟨false, .ok 5100000000, fun _ => 0⟩], sendto := fun p => .ok p.length }
  arrivesAtEnd := false
  endClock := .ok 5200000000
  arrivesAtOutcome := false
  startClock_lt := by intro ns h; cases h; decide

theorem sender_schedule_exact_two_packets :
    (∃ c f, readRunConfig sampleHost sampleFile = some c ∧ c.flows 1 = some f
        ∧ (flowCount64 (UInt64.ofNat f.periodNs) (UInt64.ofNat c.durationMs)).toNat
          = f.flowCount c.durationMs)
      ∧ ∃ r, main twoPackets lateHost = some r ∧ r.completion = some 0 ∧ r.state.attempted = 2
        ∧ r.state.sent = r.state.attempted := by
  constructor
  · obtain ⟨c, hc, _, _, hflow, _⟩ := sampleConfig_accepted
    obtain ⟨f, hf⟩ := Option.isSome_iff_exists.mp hflow
    exact ⟨c, f, hc, hf, (sender_schedule_exact.1 sampleHost sampleFile c hc 1 f hf).1⟩
  · have hrun : (main twoPackets lateHost).any (fun r => r.completion = some 0) = true := by
      decide +kernel
    obtain ⟨r, hr, hzero⟩ := (Option.any_eq_true _ _).mp hrun
    have hzero := of_decide_eq_true hzero
    obtain ⟨hsent, hattempted, _⟩ :=
      (sender_schedule_exact.2.2 twoPackets lateHost r hr).2.2.2 hzero
    exact ⟨r, hr, hzero, hattempted, hsent⟩

end AceXdp.Sender
