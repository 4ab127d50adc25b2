import AceXdp.Lib.ByteView

/-!
# Footprints — programs over memory with every access in the open

A `MemProg` reaches memory through its constructors only: `copy` brings `n` bytes from an address
into a local buffer, as `memcpy` does, and `fill` stores one value over a range, as `memset` does.
Whatever lies between two accesses is an ordinary function of the buffers copied so far. The
footprint of a run, the list of ranges it went to, therefore misses nothing:

* `Within.touches`: ranges inside bounds, bytes inside bounds;
* `run_congr`: memories that agree on the bytes touched give the same result;
* `run_untouched`: no other byte is changed.
-/

namespace Footprint

open ByteView

variable {α : Type}

/-- The bytes from `addr` up to `addr + len`. -/
structure Span where
  addr : Nat
  len : Nat
  deriving DecidableEq, Repr

/-- A local buffer of `n` bytes. -/
abbrev Buffer (n : Nat) := Fin n → UInt8

/-- The buffer as a byte view. Nothing of memory shows past its end. -/
def Buffer.view {n : Nat} (buf : Buffer n) (i : Nat) : UInt8 :=
  if h : i < n then buf ⟨i, h⟩ else 0

/-- `memcpy` into a buffer. -/
def copyOut (mem : Nat → UInt8) (addr n : Nat) : Buffer n := fun i => mem (addr + i)

theorem view_copyOut {mem : Nat → UInt8} {addr n i : Nat} (h : i < n) :
    (copyOut mem addr n).view i = mem (addr + i) := by
  rw [Buffer.view, dif_pos h]
  rfl

/-- A big-endian field inside the copied range is the field in memory. -/
theorem beNat_copyOut {mem : Nat → UInt8} {addr n off k : Nat} (h : off + k ≤ n) :
    beNat (copyOut mem addr n).view off k = beNat mem (addr + off) k := by
  refine beNat_congr k fun i hi => ?_
  rw [view_copyOut (by omega), Nat.add_assoc]

theorem leNat_copyOut {mem : Nat → UInt8} {addr n off : Nat} :
    ∀ k, off + k ≤ n → leNat (copyOut mem addr n).view off k = leNat mem (addr + off) k
  | 0, _ => rfl
  | k + 1, h => by
    rw [leNat, leNat, leNat_copyOut k (by omega), view_copyOut (by omega), Nat.add_assoc]

/-! ## Programs -/

inductive MemProg (α : Type) where
  | done (result : α)
  | copy (addr n : Nat) (next : Buffer n → MemProg α)
  | fill (addr n : Nat) (value : UInt8) (next : MemProg α)

namespace MemProg

/-- The result of a run and the memory it leaves. -/
def run : MemProg α → (Nat → UInt8) → α × (Nat → UInt8)
  | done result, mem => (result, mem)
  | copy addr n next, mem => (next (copyOut mem addr n)).run mem
  | fill addr n value next, mem => next.run (fillBytes mem addr n value)

/-- The ranges a run goes to, in order. -/
def spans : MemProg α → (Nat → UInt8) → List Span
  | done _, _ => []
  | copy addr n next, mem => ⟨addr, n⟩ :: (next (copyOut mem addr n)).spans mem
  | fill addr n value next, mem => ⟨addr, n⟩ :: next.spans (fillBytes mem addr n value)

/-- Byte `b` is read or written in the run on `mem`. -/
def Touches (p : MemProg α) (mem : Nat → UInt8) (b : Nat) : Prop :=
  ∃ s ∈ p.spans mem, s.addr ≤ b ∧ b < s.addr + s.len

/-- Every range of the run lies in `[lo, hi)`. -/
def Within (p : MemProg α) (mem : Nat → UInt8) (lo hi : Nat) : Prop :=
  ∀ s ∈ p.spans mem, lo ≤ s.addr ∧ s.addr + s.len ≤ hi

theorem Within.touches {p : MemProg α} {mem : Nat → UInt8} {lo hi : Nat} (h : p.Within mem lo hi)
    {b : Nat} (hb : p.Touches mem b) : lo ≤ b ∧ b < hi := by
  obtain ⟨s, hs, hlo, hhi⟩ := hb
  obtain ⟨hslo, hshi⟩ := h s hs
  exact ⟨by omega, by omega⟩

theorem within_done (result : α) (mem : Nat → UInt8) (lo hi : Nat) :
    (done result).Within mem lo hi := by
  intro s hs
  cases hs

theorem within_copy {addr n lo hi : Nat} {mem : Nat → UInt8} {next : Buffer n → MemProg α}
    (hlo : lo ≤ addr) (hhi : addr + n ≤ hi)
    (hnext : (next (copyOut mem addr n)).Within mem lo hi) :
    (copy addr n next).Within mem lo hi := by
  intro s hs
  rcases List.mem_cons.mp hs with rfl | hs
  · exact ⟨hlo, hhi⟩
  · exact hnext s hs

theorem within_fill {addr n lo hi : Nat} {mem : Nat → UInt8} {value : UInt8} {next : MemProg α}
    (hlo : lo ≤ addr) (hhi : addr + n ≤ hi)
    (hnext : next.Within (fillBytes mem addr n value) lo hi) :
    (fill addr n value next).Within mem lo hi := by
  intro s hs
  rcases List.mem_cons.mp hs with rfl | hs
  · exact ⟨hlo, hhi⟩
  · exact hnext s hs

/-- The early return of a parser: what follows runs only when the test failed. -/
theorem within_guard {c : Prop} [Decidable c] {result : α} {p : MemProg α} {mem : Nat → UInt8}
    {lo hi : Nat} (h : ¬c → p.Within mem lo hi) :
    (if c then done result else p).Within mem lo hi := by
  by_cases hc : c
  · rw [if_pos hc]; exact within_done result mem lo hi
  · rw [if_neg hc]; exact h hc

/-- A program and a function on options return early on the same test. -/
theorem run_guard {β : Type} {c c' : Prop} [Decidable c] [Decidable c'] {p : MemProg (Option β)}
    {mem : Nat → UInt8} {o : Option α} {f : α → β} (hc : c ↔ c')
    (h : ¬c' → p.run mem = (o.map f, mem)) :
    (if c then done none else p).run mem = ((if c' then none else o).map f, mem) := by
  by_cases hc' : c'
  · rw [if_pos (hc.mpr hc'), if_pos hc']; rfl
  · rw [if_neg (mt hc.mp hc'), if_neg hc']; exact h hc'

/-- **A run depends on nothing but the bytes it touches.** Induction on the program: after the
first access both memories have handed over the same buffer, or hold the same value there. -/
theorem run_congr (p : MemProg α) :
    ∀ {mem mem' : Nat → UInt8}, (∀ b, p.Touches mem b → mem b = mem' b) →
      (p.run mem).1 = (p.run mem').1 ∧ p.spans mem = p.spans mem' := by
  induction p with
  | done result => intro mem mem' _; exact ⟨rfl, rfl⟩
  | copy addr n next ih =>
    intro mem mem' h
    have hbuf : copyOut mem addr n = copyOut mem' addr n := by
      funext i
      exact h (addr + i) ⟨⟨addr, n⟩, List.mem_cons_self, by simp, by simp⟩
    have hrest : ∀ b, (next (copyOut mem addr n)).Touches mem b → mem b = mem' b := by
      rintro b ⟨s, hs, hb⟩
      exact h b ⟨s, List.mem_cons_of_mem _ hs, hb⟩
    obtain ⟨hrun, hspans⟩ := ih _ hrest
    rw [hbuf] at hrun hspans
    exact ⟨by rw [run, run, hbuf, hrun], by rw [spans, spans, hbuf, hspans]⟩
  | fill addr n value next ih =>
    intro mem mem' h
    have hrest : ∀ b, next.Touches (fillBytes mem addr n value) b →
        fillBytes mem addr n value b = fillBytes mem' addr n value b := by
      rintro b ⟨s, hs, hb⟩
      by_cases hin : addr ≤ b ∧ b < addr + n
      · rw [fillBytes, fillBytes, if_pos hin, if_pos hin]
      · rw [fillBytes, fillBytes, if_neg hin, if_neg hin]
        exact h b ⟨s, List.mem_cons_of_mem _ hs, hb⟩
    obtain ⟨hrun, hspans⟩ := ih hrest
    exact ⟨by rw [run, run, hrun], by rw [spans, spans, hspans]⟩

/-- **A run changes nothing but the bytes it touches.** Induction on the program. -/
theorem run_untouched (p : MemProg α) :
    ∀ {mem : Nat → UInt8} {b : Nat}, ¬p.Touches mem b → (p.run mem).2 b = mem b := by
  induction p with
  | done result => intro mem b _; rfl
  | copy addr n next ih =>
    intro mem b h
    exact ih _ fun ⟨s, hs, hb⟩ => h ⟨s, List.mem_cons_of_mem _ hs, hb⟩
  | fill addr n value next ih =>
    intro mem b h
    have hout : ¬(addr ≤ b ∧ b < addr + n) := fun hb => h ⟨⟨addr, n⟩, List.mem_cons_self, hb⟩
    have hrest : ¬next.Touches (fillBytes mem addr n value) b :=
      fun ⟨s, hs, hb⟩ => h ⟨s, List.mem_cons_of_mem _ hs, hb⟩
    rw [run, ih hrest, fillBytes, if_neg hout]

end MemProg

end Footprint
