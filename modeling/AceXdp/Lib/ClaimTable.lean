import Mathlib.Logic.Function.Basic

/-!
# Claim tables — a shared table of claims and who may rely on them

Processes put their identity under a key of a shared table before they use what the key stands
for, and take it out afterwards; a third party may sweep claims it believes stale. Two relations
describe the processes: `claimed i k`, process `i` believes it has a claim on `k` that it will
release later, and `holds i k`, process `i` relies on the claim. What makes the table sound is
that whoever relies on a claim finds it there, and that nobody else releases it:

* **`Sound.shrink`**, **`Sound.claim`**, **`Sound.drop`** — the moves that keep a table sound;
* **`Sound.holder_of_owner`** — reading an entry tells who can be relying on the key.
-/

universe u v

/-- The shared table, and the beliefs of the processes about it. -/
structure ClaimTable (K : Type u) (I : Type v) where
  owner : K → Option I
  claimed : I → K → Prop
  holds : I → K → Prop

namespace ClaimTable

variable {K : Type u} {I : Type v}

/-- **Soundness.** A claim that is relied on is in the table, and no other process has a claim
on the same key that it would release. -/
structure Sound (t : ClaimTable K I) : Prop where
  held : ∀ {i k}, t.holds i k → t.owner k = some i
  sole : ∀ {i j k}, t.claimed i k → t.holds j k → i = j

/-- `t'` has no belief that `t` has not. -/
structure Shrinks (t t' : ClaimTable K I) : Prop where
  claimed : ∀ {i k}, t'.claimed i k → t.claimed i k
  holds : ∀ {i k}, t'.holds i k → t.holds i k

namespace Sound

variable {t t' : ClaimTable K I}

theorem shrink (h : t.Sound) (hs : t.Shrinks t') (howner : t'.owner = t.owner) : t'.Sound where
  held hh := by rw [howner, h.held (hs.holds hh)]
  sole hc hh := h.sole (hs.claimed hc) (hs.holds hh)

variable [DecidableEq K]

/-- A free key may be claimed. The new claim may be relied on where every older claim on the
key was. -/
theorem claim {i : I} {k : K} (h : t.Sound) (hfree : t.owner k = none)
    (howner : t'.owner = Function.update t.owner k (some i))
    (hclaimed : ∀ {j l}, t'.claimed j l → t.claimed j l ∨ (j = i ∧ l = k))
    (hholds : ∀ {j l}, t'.holds j l → t.holds j l ∨ (j = i ∧ l = k))
    (hold : t'.holds i k → ∀ j, t.claimed j k → t.holds j k) : t'.Sound where
  held {j l} hh := by
    rw [howner]
    rcases hholds hh with hh | ⟨rfl, rfl⟩
    · have hne : l ≠ k := by
        rintro rfl
        rw [h.held hh] at hfree
        cases hfree
      rw [Function.update_of_ne hne, h.held hh]
    · exact Function.update_self ..
  sole {a j l} hc hh := by
    -- whoever held the key before would be its owner, and the key was free
    have hfresh : ∀ b, ¬ t.holds b k := fun b hb => by
      rw [h.held hb] at hfree
      cases hfree
    rcases hholds hh with hh' | ⟨rfl, rfl⟩
    · rcases hclaimed hc with hc' | ⟨rfl, rfl⟩
      · exact h.sole hc' hh'
      · exact absurd hh' (hfresh j)
    · rcases hclaimed hc with hc' | ⟨rfl, _⟩
      · exact absurd (hold hh a hc') (hfresh a)
      · rfl

theorem drop {k : K} (h : t.Sound) (hs : t.Shrinks t')
    (howner : t'.owner = Function.update t.owner k none) (hnone : ∀ i, ¬ t'.holds i k) :
    t'.Sound where
  held {i l} hh := by
    have hne : l ≠ k := by
      rintro rfl
      exact hnone i hh
    rw [howner, Function.update_of_ne hne, h.held (hs.holds hh)]
  sole hc hh := h.sole (hs.claimed hc) (hs.holds hh)

omit [DecidableEq K] in
/-- Only the process named in the entry can be relying on the key. -/
theorem holder_of_owner {i o : I} {k : K} (h : t.Sound) (ho : t.owner k = some o)
    (hh : t.holds i k) : i = o := by
  rw [h.held hh] at ho
  exact Option.some.inj ho

omit [DecidableEq K] in
theorem not_holds_of_free {k : K} (h : t.Sound) (hfree : t.owner k = none) (i : I) :
    ¬ t.holds i k := by
  intro hh
  rw [h.held hh] at hfree
  cases hfree

end Sound

end ClaimTable
