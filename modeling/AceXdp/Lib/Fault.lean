import Mathlib.Logic.Basic

/-!
# Programs under faults — every operation may fail, and the process may be killed at any of them

A program over a state is run against a script that holds one decision per operation; what a
decision can do (fail, do half of the work, kill, let others change the state first) is up to the
operations. A run ends by returning, by an exception, or by being killed, and only the first two can
be continued by the program itself.

* `wp m post s`: whatever the script, the run of `m` from `s` ends as `post` allows;
* **`wp_bind`, `wp_handle`, `wp_op`, `wp_forM`** — the rules for sequencing, exception handlers,
  single operations and loops.
-/

namespace Fault

inductive Outcome (ε α : Type) where
  | returned (a : α)
  | raised (e : ε)
  | killed
  deriving DecidableEq, Repr

/-- A program over the state `σ`, with decisions `ι` and exceptions `ε`. -/
def Prog (σ ι ε α : Type) : Type := List ι → σ → Outcome ε α × σ × List ι

namespace Prog

variable {σ ι ε α β : Type}

protected def pure (a : α) : Prog σ ι ε α := fun script s => (.returned a, s, script)

protected def bind (m : Prog σ ι ε α) (f : α → Prog σ ι ε β) : Prog σ ι ε β := fun script s =>
  match m script s with
  | (.returned a, s, script) => f a script s
  | (.raised e, s, script) => (.raised e, s, script)
  | (.killed, s, script) => (.killed, s, script)

instance : Monad (Prog σ ι ε) where
  pure := Prog.pure
  bind := Prog.bind

def raise (e : ε) : Prog σ ι ε α := fun script s => (.raised e, s, script)

/-- `try m except e: handler e`. -/
def handle (m : Prog σ ι ε α) (handler : ε → Prog σ ι ε α) : Prog σ ι ε α := fun script s =>
  match m script s with
  | (.raised e, s, script) => handler e script s
  | result => result

/-- Reading and updating what no fault can touch: the variables of the process. -/
def get : Prog σ ι ε σ := fun script s => (.returned s, s, script)

def modify (f : σ → σ) : Prog σ ι ε Unit := fun script s => (.returned (), f s, script)

/-- One operation: it consumes a decision; behind the end of the script nothing fails. -/
def op [Inhabited ι] (f : ι → σ → Outcome ε α × σ) : Prog σ ι ε α := fun script s =>
  match script with
  | [] => ((f default s).1, (f default s).2, [])
  | d :: rest => ((f d s).1, (f d s).2, rest)

end Prog

open Prog

/-- What may hold at each end of a run. -/
structure Post (σ ε α : Type) where
  returned : α → σ → Prop
  raised : ε → σ → Prop
  killed : σ → Prop

def Post.Holds {σ ε α : Type} (post : Post σ ε α) : Outcome ε α → σ → Prop
  | .returned a, s => post.returned a s
  | .raised e, s => post.raised e s
  | .killed, s => post.killed s

section Rules

variable {σ ι ε α β : Type}

/-- Whatever the script, the run from `s` ends as `post` allows. -/
def wp (m : Prog σ ι ε α) (post : Post σ ε α) (s : σ) : Prop :=
  ∀ script, post.Holds (m script s).1 (m script s).2.1

variable {m : Prog σ ι ε α} {post post' : Post σ ε α} {s : σ}

theorem wp_mono (h : wp m post s) (hreturned : ∀ a s, post.returned a s → post'.returned a s)
    (hraised : ∀ e s, post.raised e s → post'.raised e s)
    (hkilled : ∀ s, post.killed s → post'.killed s) : wp m post' s := by
  intro script
  have hrun := h script
  revert hrun
  cases (m script s).1 with
  | returned a => exact hreturned a _
  | raised e => exact hraised e _
  | killed => exact hkilled _

/-- Two facts about every run are one. -/
theorem wp_and (h : wp m post s) (h' : wp m post' s) :
    wp m ⟨fun a s => post.returned a s ∧ post'.returned a s,
      fun e s => post.raised e s ∧ post'.raised e s, fun s => post.killed s ∧ post'.killed s⟩ s := by
  intro script
  have hrun := h script
  have hrun' := h' script
  revert hrun hrun'
  cases (m script s).1 with
  | returned a => exact And.intro
  | raised e => exact And.intro
  | killed => exact And.intro

/-- A first part that returns hands over its result, its state and the rest of the script. -/
theorem bind_of_returned {f : α → Prog σ ι ε β} {script script' : List ι} {s' : σ} {a : α}
    (h : m script s = (.returned a, s', script')) : (m >>= f) script s = f a script' s' := by
  show Prog.bind m f script s = f a script' s'
  rw [Prog.bind, h]

theorem bind_of_raised {f : α → Prog σ ι ε β} {script script' : List ι} {s' : σ} {e : ε}
    (h : m script s = (.raised e, s', script')) :
    (m >>= f) script s = (.raised e, s', script') := by
  show Prog.bind m f script s = (.raised e, s', script')
  rw [Prog.bind, h]

theorem bind_of_killed {f : α → Prog σ ι ε β} {script script' : List ι} {s' : σ}
    (h : m script s = (.killed, s', script')) : (m >>= f) script s = (.killed, s', script') := by
  show Prog.bind m f script s = (.killed, s', script')
  rw [Prog.bind, h]

theorem op_apply [Inhabited ι] (f : ι → σ → Outcome ε α × σ) (script : List ι) (s : σ) :
    op f script s = ((f (script.headD default) s).1, (f (script.headD default) s).2, script.tail) := by
  cases script <;> rfl

theorem wp_pure {a : α} (h : post.returned a s) : wp (pure a : Prog σ ι ε α) post s :=
  fun _ => h

theorem wp_raise {e : ε} (h : post.raised e s) : wp (raise e : Prog σ ι ε α) post s :=
  fun _ => h

/-- **Sequencing.** An exception or a kill of the first part is one of the whole. -/
theorem wp_bind {f : α → Prog σ ι ε β} {post : Post σ ε β}
    (h : wp m ⟨fun a s => wp (f a) post s, post.raised, post.killed⟩ s) :
    wp (m >>= f) post s := by
  intro script
  have hrun := h script
  show post.Holds (Prog.bind m f script s).1 (Prog.bind m f script s).2.1
  unfold Prog.bind
  generalize m script s = result at hrun
  obtain ⟨outcome, s', script'⟩ := result
  cases outcome with
  | returned a => exact hrun script'
  | raised e => exact hrun
  | killed => exact hrun

/-- **Handlers.** Only an exception reaches the handler. -/
theorem wp_handle {handler : ε → Prog σ ι ε α}
    (h : wp m ⟨post.returned, fun e s => wp (handler e) post s, post.killed⟩ s) :
    wp (handle m handler) post s := by
  intro script
  have hrun := h script
  unfold handle
  generalize m script s = result at hrun
  obtain ⟨outcome, s', script'⟩ := result
  cases outcome with
  | returned a => exact hrun
  | raised e => exact hrun script'
  | killed => exact hrun

theorem wp_get {post : Post σ ε σ} (h : post.returned s s) : wp (get : Prog σ ι ε σ) post s :=
  fun _ => h

theorem wp_modify {f : σ → σ} {post : Post σ ε Unit} (h : post.returned () (f s)) :
    wp (modify f : Prog σ ι ε Unit) post s :=
  fun _ => h

/-- **One operation**: every decision it may meet. -/
theorem wp_op [Inhabited ι] {f : ι → σ → Outcome ε α × σ} (h : ∀ d, post.Holds (f d s).1 (f d s).2) :
    wp (op f) post s := by
  intro script
  cases script with
  | nil => exact h default
  | cons d rest => exact h d

/-- **Loops.** `I` holds of the items still to come. -/
theorem wp_forM {γ : Type} {items : List γ} {body : γ → Prog σ ι ε PUnit}
    {post : Post σ ε PUnit} (I : List γ → σ → Prop) (hstart : I items s)
    (hbody : ∀ item rest s, I (item :: rest) s →
      wp (body item) ⟨fun _ s => I rest s, post.raised, post.killed⟩ s)
    (hdone : ∀ s, I [] s → post.returned ⟨⟩ s) : wp (items.forM body) post s := by
  induction items generalizing s with
  | nil => exact wp_pure (hdone s hstart)
  | cons item rest ih =>
    exact wp_bind (wp_mono (hbody item rest s hstart) (fun _ s' hs' => ih hs') (fun _ _ => id)
      fun _ => id)

end Rules

end Fault
