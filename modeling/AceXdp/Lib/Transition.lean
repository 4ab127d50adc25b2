import Mathlib.Logic.Relation

/-!
# Labelled transition systems — runs, reachability and the invariant rule

A system is a set of initial states and a labelled step relation. Everything a concurrent
component is required to do over *every interleaving* is stated here over `Run` (a finite
sequence of labelled steps) and `Reachable` (a state some run from an initial state ends in):

* **`System.Reachable.induct`** — a property of the initial states that every step from a
  reachable state keeps holds in every reachable state;
* **`System.Run.keeps`** — a property that every step from a reachable state keeps survives
  every later run, the rule behind "from then on".
-/

namespace Transition

universe u v

structure System (σ : Type u) (α : Type v) where
  init : σ → Prop
  step : σ → α → σ → Prop

namespace System

variable {σ : Type u} {α : Type v} (S : System σ α)

/-- `S.Run s as s'`: the steps labelled `as`, taken in order from `s`, end in `s'`. -/
inductive Run : σ → List α → σ → Prop where
  | nil (s : σ) : Run s [] s
  | cons {s s' s'' : σ} {a : α} {as : List α}
      (hstep : S.step s a s') (rest : Run s' as s'') : Run s (a :: as) s''

inductive Reachable : σ → Prop where
  | init {s : σ} (h : S.init s) : Reachable s
  | step {s s' : σ} {a : α} (hreach : Reachable s) (hstep : S.step s a s') : Reachable s'

variable {S}

/-! ## Runs from reachable states -/

theorem Reachable.run {s s' : σ} {as : List α} (hs : S.Reachable s) (h : S.Run s as s') :
    S.Reachable s' := by
  induction h with
  | nil _ => exact hs
  | cons hstep _ ih => exact ih (.step hs hstep)

/-! ## The invariant rules -/

/-- **The invariant rule.** What holds initially and is kept by every step from a reachable
state holds in every reachable state. -/
theorem Reachable.induct {P : σ → Prop} (hinit : ∀ s, S.init s → P s)
    (hstep : ∀ s a s', S.Reachable s → P s → S.step s a s' → P s') {s : σ}
    (hs : S.Reachable s) : P s := by
  induction hs with
  | init h => exact hinit _ h
  | step hreach hst ih => exact hstep _ _ _ hreach ih hst

/-- **The "from then on" rule.** A property kept by every step from a reachable state is kept
by every run from a reachable state. -/
theorem Run.keeps {P : σ → Prop}
    (hstep : ∀ s a s', S.Reachable s → P s → S.step s a s' → P s') {s s' : σ} {as : List α}
    (hs : S.Reachable s) (hP : P s) (h : S.Run s as s') : P s' := by
  induction h with
  | nil _ => exact hP
  | cons hst _ ih => exact ih (.step hs hst) (hstep _ _ _ hs hP hst)

end System

end Transition
