import Mathlib.Data.List.Forall2

/-!
# Computations that may fail — taking a success apart

A sequence of checks in `Except` succeeds when each of them does.

* **`bind_eq_ok`**, **`mapM_eq_ok`** — the success of a sequence and of a loop, from the successes of
  their steps;
* **`foldlM_ok`** — the invariant rule of a loop with a state.
-/

namespace Checked

variable {ε α β : Type}

theorem bind_eq_ok {x : Except ε α} {f : α → Except ε β} {b : β} :
    (x >>= f) = .ok b ↔ ∃ a, x = .ok a ∧ f a = .ok b := by
  cases x with
  | error e => simp [bind, Except.bind]
  | ok a => simp [bind, Except.bind]

theorem bind_ok {x : Except ε α} {f : α → Except ε β} {a : α} (h : x = .ok a) :
    (x >>= f) = f a := by
  rw [h]
  rfl

theorem map_eq_ok {x : Except ε α} {f : α → β} {b : β} :
    x.map f = .ok b ↔ ∃ a, x = .ok a ∧ f a = b := by
  cases x with
  | error e => simp [Except.map]
  | ok a => simp [Except.map]

/-- A loop succeeds with what its turns return. -/
theorem mapM_eq_ok {f : α → Except ε β} {l : List α} {l' : List β} :
    l.mapM f = .ok l' ↔ List.Forall₂ (fun a b => f a = .ok b) l l' := by
  induction l generalizing l' with
  | nil => simp [pure, Except.pure, eq_comm]
  | cons a l ih =>
    rw [List.mapM_cons, bind_eq_ok, List.forall₂_cons_left_iff]
    refine exists_congr fun b => ?_
    rw [bind_eq_ok]
    constructor
    · rintro ⟨ha, bs, hbs, hok⟩
      exact ⟨bs, ha, ih.mp hbs, (Except.ok.inj hok).symm⟩
    · rintro ⟨bs, ha, hbs, rfl⟩
      exact ⟨ha, bs, ih.mpr hbs, rfl⟩

/-- The same loop where there is one error only. -/
theorem mapM_eq_some {f : α → Option β} {l : List α} {l' : List β} :
    l.mapM f = some l' ↔ List.Forall₂ (fun a b => f a = some b) l l' := by
  induction l generalizing l' with
  | nil => simp [eq_comm]
  | cons a l ih =>
    rw [List.mapM_cons, List.forall₂_cons_left_iff]
    simp only [Option.bind_eq_bind, Option.bind_eq_some_iff, Option.pure_def, Option.some.injEq, ih]
    constructor
    · rintro ⟨b, hb, bs, hbs, rfl⟩
      exact ⟨b, bs, hb, hbs, rfl⟩
    · rintro ⟨b, bs, hb, hbs, rfl⟩
      exact ⟨b, hb, bs, hbs, rfl⟩

/-- What holds of the elements pair by pair holds at every position. -/
theorem getElem?_of_forall₂ {R : α → β → Prop} {l : List α} {l' : List β}
    (h : List.Forall₂ R l l') {i : Nat} {b : β} (hb : l'[i]? = some b) :
    ∃ a, l[i]? = some a ∧ R a b := by
  induction h generalizing i with
  | nil => cases hb
  | @cons a b' l l' hab _ ih =>
    cases i with
    | zero =>
      obtain rfl := Option.some.inj hb
      exact ⟨a, rfl, hab⟩
    | succ i => exact ih hb

/-- Two views of paired elements that agree on every pair. -/
theorem map_eq_of_forall₂ {R : α → β → Prop} {γ : Type} {f : α → γ} {g : β → γ} {l : List α}
    {l' : List β} (h : List.Forall₂ R l l') (hfg : ∀ a b, R a b → g b = f a) :
    l'.map g = l.map f := by
  induction h with
  | nil => rfl
  | cons hab _ ih => rw [List.map_cons, List.map_cons, hfg _ _ hab, ih]

/-- A loop whose every turn succeeds. -/
theorem mapM_ok_of_forall {f : α → Except ε β} {g : α → β} {l : List α}
    (h : ∀ a ∈ l, f a = .ok (g a)) : l.mapM f = .ok (l.map g) := by
  rw [mapM_eq_ok, List.forall₂_map_right_iff, List.forall₂_same]
  exact h

theorem mapM_ok_eq_map {f : α → Except ε β} {g : α → β} (h : ∀ a b, f a = .ok b → b = g a)
    {l : List α} {l' : List β} (hl : l.mapM f = .ok l') : l' = l.map g := by
  have hforall := mapM_eq_ok.mp hl
  induction hforall with
  | nil => rfl
  | cons hab hrest ih => rw [h _ _ hab, ih (mapM_eq_ok.mpr hrest), List.map_cons]

/-- A loop with a state: what holds of the elements seen so far and the state holds at the end. -/
theorem foldlM_ok {f : β → α → Except ε β} {P : List α → β → Prop}
    (hstep : ∀ seen a b b', P seen b → f b a = .ok b' → P (seen ++ [a]) b') {l : List α} {b b' : β}
    (hinit : P [] b) (h : l.foldlM f b = .ok b') : P l b' := by
  have hrun : ∀ (rest seen : List α) (b : β), P seen b → rest.foldlM f b = .ok b' →
      P (seen ++ rest) b' := by
    intro rest
    induction rest with
    | nil =>
      intro seen b hb hrest
      rw [List.foldlM_nil] at hrest
      cases hrest
      rwa [List.append_nil]
    | cons a rest ih =>
      intro seen b hb hrest
      rw [List.foldlM_cons] at hrest
      obtain ⟨b₁, hb₁, hrest⟩ := bind_eq_ok.mp hrest
      have hnext := ih (seen ++ [a]) b₁ (hstep seen a b b₁ hb hb₁) hrest
      rwa [List.append_assoc, List.singleton_append] at hnext
  exact hrun l [] b hinit h

/-! ## The turns of a loop and what they return -/

theorem exists_of_mem_left {R : α → β → Prop} {l : List α} {l' : List β} (h : List.Forall₂ R l l')
    {a : α} (ha : a ∈ l) : ∃ b ∈ l', R a b := by
  induction h with
  | nil => cases ha
  | cons hab _ ih =>
    rcases List.mem_cons.mp ha with rfl | ha
    · exact ⟨_, List.mem_cons_self, hab⟩
    · obtain ⟨b, hb, hab⟩ := ih ha
      exact ⟨b, List.mem_cons_of_mem _ hb, hab⟩

theorem exists_of_mem_right {R : α → β → Prop} {l : List α} {l' : List β} (h : List.Forall₂ R l l')
    {b : β} (hb : b ∈ l') : ∃ a ∈ l, R a b :=
  exists_of_mem_left h.flip hb

end Checked
