import AceXdp.Lib.Json

/-!
# JSON text — objects laid out by hand

A program that prints an object piece by piece puts blanks in front of some members and none in
front of others.

* **`denotes_laidOut`** — such a text denotes the object of its members.
-/

namespace Json

/-- Members behind others, each after a comma and its own blanks. -/
def laidOutRest : List (List Char × List Char) → List Char
  | [] => []
  | e :: rest => ',' :: (e.1 ++ (e.2 ++ laidOutRest rest))

/-- Members with commas between them, each behind its own blanks. -/
def laidOut : List (List Char × List Char) → List Char
  | [] => []
  | e :: rest => e.1 ++ (e.2 ++ laidOutRest rest)

/-- Blanks, and a member behind them. -/
def LaysOut (e : List Char × List Char) (member : Str × Value) : Prop :=
  (∀ c ∈ e.1, isWs c) ∧ DenotesMember e.2 member

theorem LaysOut.skipWs {e : List Char × List Char} {member : Str × Value} (h : LaysOut e member)
    (rest : List (List Char × List Char)) (after : List Char) :
    skipWs (laidOut (e :: rest) ++ after) = e.2 ++ (laidOutRest rest ++ after) := by
  rw [laidOut, List.append_assoc, List.append_assoc]
  exact h.2.starts.skipWs h.1 _

theorem parseMembers_laidOut {ws : List Char} (hws : ∀ c ∈ ws, isWs c)
    {items : List (List Char × List Char)} {members : List (Str × Value)}
    (h : List.Forall₂ LaysOut items members) (hne : items ≠ []) (fuel : Nat) (rest : List Char)
    (hfuel : (laidOut items).length < fuel) :
    parseMembers fuel (skipWs (laidOut items ++ (ws ++ '}' :: rest))) = some (members, rest) := by
  induction h generalizing fuel with
  | nil => exact absurd rfl hne
  | @cons e member items members hhead htail ih =>
    obtain ⟨fuel, rfl⟩ : ∃ m, fuel = m + 1 := ⟨fuel - 1, by omega⟩
    rw [hhead.skipWs]
    rw [laidOut, List.length_append, List.length_append] at hfuel
    cases htail with
    | nil =>
      have hclose : skipWs (ws ++ '}' :: rest) = '}' :: rest := by
        rw [skipWs_append hws, skipWs_cons (by decide)]
      rw [laidOutRest, List.nil_append,
        hhead.2.parseMembers (by omega) (Follows.append hws (follows_cons (by decide)))]
      simp only [hclose]
    | @cons e' member' items members hhead' htail =>
      rw [laidOutRest, List.length_cons] at hfuel
      have hrec := ih (by simp) fuel (by rw [laidOut]; omega)
      rw [laidOutRest, List.cons_append,
        hhead.2.parseMembers (by omega) (follows_cons (by decide))]
      rw [laidOut] at hrec
      simp only [skipWs_cons (show isWs ',' = false by decide), hrec, Option.bind_eq_bind,
        Option.bind_some]

/-- **An object is what its members denote.** -/
theorem denotes_laidOut {ws : List Char} (hws : ∀ c ∈ ws, isWs c)
    {items : List (List Char × List Char)} {members : List (Str × Value)}
    (h : List.Forall₂ LaysOut items members) (hne : items ≠ []) :
    Denotes ('{' :: (laidOut items ++ (ws ++ ['}']))) (.obj members) := by
  refine ⟨fun fuel rest hfuel _ => ?_, '{', _, rfl, by decide, by decide, by decide⟩
  simp only [List.length_cons, List.length_append] at hfuel
  obtain ⟨fuel, rfl⟩ : ∃ m, fuel = m + 1 := ⟨fuel - 1, by omega⟩
  have hitems := parseMembers_laidOut hws h hne fuel rest (by omega)
  have happend : '{' :: (laidOut items ++ (ws ++ ['}'])) ++ rest
      = '{' :: (laidOut items ++ (ws ++ '}' :: rest)) := by simp
  cases h with
  | nil => exact absurd rfl hne
  | @cons e member items members hhead _ =>
    have hskip := hhead.skipWs items (ws ++ '}' :: rest)
    rw [hskip] at hitems
    rw [happend, parseValue_brace fuel hskip (hhead.2.starts.append _), hitems]
    rfl

end Json
