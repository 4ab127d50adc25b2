import Mathlib.Data.List.Nodup
import Mathlib.Data.List.Induction

/-!
# Write-once maps of bounded capacity

A hash map that is only ever updated with "insert if absent" (`BPF_NOEXIST`) and that holds at
most `N` entries. The capacity and the distinctness of the keys are fields of the map, so a map
with a repeated key or with too many entries cannot be built.

* **`keys_insertAll`** — after any sequence of writes the keys are the first `N` distinct keys
  written, in the order they were first written;
* **`lookup_insertAll`** — the value under each of them is the first one written;
* **`lookup_insert_of_some`** — an entry, once there, is never changed.
-/

namespace WriteOnce

universe u v

/-- A map of at most `N` entries, in the order they were inserted. -/
structure BoundedMap (κ : Type u) (ν : Type v) (N : Nat) where
  entries : List (κ × ν)
  nodup : (entries.map Prod.fst).Nodup
  bound : entries.length ≤ N

inductive Outcome where
  | inserted | present | full
  deriving DecidableEq, Repr

namespace BoundedMap

variable {κ : Type u} {ν : Type v} {N : Nat}

def empty : BoundedMap κ ν N := ⟨[], by simp, by simp⟩

def keys (m : BoundedMap κ ν N) : List κ := m.entries.map Prod.fst

def size (m : BoundedMap κ ν N) : Nat := m.entries.length

theorem length_keys (m : BoundedMap κ ν N) : m.keys.length = m.size := by
  simp [keys, size]

theorem size_lt_of_ne (m : BoundedMap κ ν N) (h : m.size ≠ N) : m.size < N :=
  Nat.lt_of_le_of_ne m.bound h

variable [DecidableEq κ]

def lookup (m : BoundedMap κ ν N) (k : κ) : Option ν := m.entries.lookup k

/-- Insert `v` under `k` unless `k` is present or the map is full. -/
def insert (m : BoundedMap κ ν N) (k : κ) (v : ν) : Outcome × BoundedMap κ ν N :=
  if hk : k ∈ m.entries.map Prod.fst then (.present, m)
  else if hN : m.entries.length < N then
    (.inserted,
      { entries := m.entries ++ [(k, v)]
        nodup := by
          rw [List.map_append, List.nodup_append]
          refine ⟨m.nodup, by simp, ?_⟩
          intro a ha b hb hab
          rw [List.map_singleton, List.mem_singleton] at hb
          rw [hab, hb] at ha
          exact hk ha
        bound := by simp only [List.length_append, List.length_singleton]; omega })
  else (.full, m)

/-! ## What one insert does -/

/-- **Inversion of an insert.** A present key and a full map leave the map alone; otherwise
the entry is appended. -/
theorem insert_cases (m : BoundedMap κ ν N) (k : κ) (v : ν) :
    (k ∈ m.keys ∧ m.insert k v = (.present, m))
      ∨ (k ∉ m.keys ∧ m.size < N ∧ ∃ m', m.insert k v = (.inserted, m')
          ∧ m'.entries = m.entries ++ [(k, v)])
      ∨ (k ∉ m.keys ∧ m.size = N ∧ m.insert k v = (.full, m)) := by
  unfold insert
  by_cases hk : k ∈ m.entries.map Prod.fst
  · exact Or.inl ⟨hk, by rw [dif_pos hk]⟩
  · rw [dif_neg hk]
    by_cases hN : m.entries.length < N
    · rw [dif_pos hN]
      exact Or.inr (Or.inl ⟨hk, hN, _, rfl, rfl⟩)
    · rw [dif_neg hN]
      exact Or.inr (Or.inr ⟨hk, Nat.le_antisymm m.bound (Nat.not_lt.mp hN), rfl⟩)

theorem lookup_eq_none_iff_keys (m : BoundedMap κ ν N) (k : κ) :
    m.lookup k = none ↔ k ∉ m.keys := by
  unfold lookup keys
  rw [List.lookup_eq_none_iff]
  constructor
  · intro h hk
    obtain ⟨p, hp, hpk⟩ := List.mem_map.mp hk
    have := h p hp
    simp [hpk] at this
  · intro h p hp
    have hne : k ≠ p.1 := fun heq => h (heq ▸ List.mem_map_of_mem hp)
    simpa using hne

theorem size_insert (m : BoundedMap κ ν N) (k : κ) (v : ν) :
    (m.insert k v).2.size = m.size + (if (m.insert k v).1 = .inserted then 1 else 0) := by
  rcases insert_cases m k v with ⟨_, h⟩ | ⟨_, _, m', h, he⟩ | ⟨_, _, h⟩
  · rw [h]; rfl
  · rw [h]; simp [size, he]
  · rw [h]; rfl

theorem keys_insert (m : BoundedMap κ ν N) (k : κ) (v : ν) :
    (m.insert k v).2.keys =
      if k ∈ m.keys ∨ m.size = N then m.keys else m.keys ++ [k] := by
  rcases insert_cases m k v with ⟨hk, h⟩ | ⟨hk, hN, m', h, he⟩ | ⟨_, hN, h⟩
  · rw [h, if_pos (Or.inl hk)]
  · rw [h, if_neg (by rintro (h' | h'); exacts [hk h', by omega])]
    simp [keys, he]
  · rw [h, if_pos (Or.inr hN)]

theorem lookup_insert (m : BoundedMap κ ν N) (k k' : κ) (v : ν) :
    (m.insert k v).2.lookup k' =
      (m.lookup k').or (if k' = k ∧ m.size < N then some v else none) := by
  rcases insert_cases m k v with ⟨hk, h⟩ | ⟨hk, hN, m', h, he⟩ | ⟨hk, hN, h⟩
  · rw [h]
    by_cases hkk : k' = k
    · subst hkk
      have hsome : m.lookup k' ≠ none := fun hn => (lookup_eq_none_iff_keys m k').mp hn hk
      cases hl : m.lookup k' with
      | none => exact absurd hl hsome
      | some w => simp
    · simp [hkk]
  · rw [h]
    simp only [lookup, he, List.lookup_append, hN, and_true]
    congr 1
    by_cases hkk : k' = k
    · simp [hkk]
    · have hne : (k' == k) = false := by simpa using hkk
      simp [List.lookup_cons, hkk, hne]
  · rw [h]
    have : ¬m.size < N := by omega
    simp [this]

/-- **Write-once.** An entry that is there survives every later insert. -/
theorem lookup_insert_of_some (m : BoundedMap κ ν N) (k k' : κ) (v w : ν)
    (h : m.lookup k' = some w) : (m.insert k v).2.lookup k' = some w := by
  rw [lookup_insert, h]; rfl

/-! ## A whole sequence of writes -/

def insertAll (m : BoundedMap κ ν N) (log : List (κ × ν)) : BoundedMap κ ν N :=
  log.foldl (fun m w => (m.insert w.1 w.2).2) m

theorem insertAll_concat (m : BoundedMap κ ν N) (log : List (κ × ν)) (w : κ × ν) :
    m.insertAll (log ++ [w]) = ((m.insertAll log).insert w.1 w.2).2 := by
  simp [insertAll, List.foldl_append]

theorem lookup_insertAll_of_some (log : List (κ × ν)) (k : κ) (v : ν) :
    ∀ m : BoundedMap κ ν N, m.lookup k = some v → (m.insertAll log).lookup k = some v := by
  induction log with
  | nil => intro m h; exact h
  | cons w log ih =>
    intro m h
    exact ih _ (lookup_insert_of_some m w.1 k w.2 v h)

/-- Appending one key to a list of distinct keys in order of first occurrence. -/
theorem eraseDups_concat (ks : List κ) (k : κ) :
    (ks ++ [k]).eraseDups = if k ∈ ks then ks.eraseDups else ks.eraseDups ++ [k] := by
  rw [List.eraseDups_append]
  by_cases hk : k ∈ ks <;> simp [hk, List.removeAll, List.eraseDups_cons]

/-- **The keys are the first `N` distinct keys written.** Induction on the log from its end:
each write either meets a known key, appends a new one, or finds the map full. -/
theorem keys_insertAll (log : List (κ × ν)) :
    ((empty : BoundedMap κ ν N).insertAll log).keys
      = (log.map Prod.fst).eraseDups.take N := by
  induction log using List.reverseRecOn with
  | nil => simp [insertAll, empty, keys]
  | append_singleton log w ih =>
    have hsize : ((empty : BoundedMap κ ν N).insertAll log).size
        = min N (log.map Prod.fst).eraseDups.length := by
      rw [← length_keys, ih, List.length_take]
    rw [insertAll_concat, keys_insert, ih, hsize, List.map_append, List.map_singleton,
      eraseDups_concat]
    by_cases hmem : w.1 ∈ log.map Prod.fst
    -- a key already written: either it is in the map, or the map filled up before it
    · rw [if_pos hmem]
      by_cases hN : N ≤ (log.map Prod.fst).eraseDups.length
      · rw [if_pos (Or.inr (Nat.min_eq_left hN))]
      · rw [List.take_of_length_le (by omega),
          if_pos (Or.inl (List.mem_eraseDups.mpr hmem))]
    · rw [if_neg hmem]
      by_cases hN : N ≤ (log.map Prod.fst).eraseDups.length
      · rw [if_pos (Or.inr (Nat.min_eq_left hN)), List.take_append_of_le_length hN]
      · have hnew : w.1 ∉ (log.map Prod.fst).eraseDups :=
          fun h => hmem (List.mem_eraseDups.mp h)
        rw [List.take_of_length_le (by omega : (log.map Prod.fst).eraseDups.length ≤ N),
          if_neg (by rintro (h | h); exacts [hnew h, by omega]),
          List.take_of_length_le (by simp only [List.length_append, List.length_singleton]; omega)]

/-- **First write wins.** Under every key of the map stands the first value written for it. -/
theorem lookup_insertAll (log : List (κ × ν)) (k : κ) :
    ((empty : BoundedMap κ ν N).insertAll log).lookup k
      = if k ∈ (log.map Prod.fst).eraseDups.take N then log.lookup k else none := by
  induction log using List.reverseRecOn with
  | nil => simp [insertAll, empty, lookup]
  | append_singleton log w ih =>
    have hkeys := keys_insertAll (N := N) (log ++ [w])
    by_cases hk : k ∈ ((log ++ [w]).map Prod.fst).eraseDups.take N
    · rw [if_pos hk]
      by_cases hold : k ∈ ((empty : BoundedMap κ ν N).insertAll log).keys
      -- the entry is an old one and stays
      · have hlook : ((empty : BoundedMap κ ν N).insertAll log).lookup k = log.lookup k := by
          rw [ih, if_pos (by rw [← keys_insertAll]; exact hold)]
        cases hv : log.lookup k with
        | none =>
          rw [hv] at hlook
          exact absurd hold ((lookup_eq_none_iff_keys _ k).mp hlook)
        | some x =>
          rw [insertAll_concat, lookup_insert_of_some _ _ _ _ x (hlook.trans hv),
            List.lookup_append, hv]
          rfl
      -- the entry is the one this write inserted
      · rw [← hkeys, insertAll_concat, keys_insert] at hk
        split at hk
        · exact absurd hk hold
        · rename_i hcond
          have hkw : k = w.1 := by
            rcases List.mem_append.mp hk with h | h
            · exact absurd h hold
            · exact List.mem_singleton.mp h
          have hsz : ((empty : BoundedMap κ ν N).insertAll log).size < N :=
            size_lt_of_ne _ (fun h => hcond (Or.inr h))
          -- the map is not full, so its keys are all the keys written so far
          have hall : ((empty : BoundedMap κ ν N).insertAll log).keys
              = (log.map Prod.fst).eraseDups := by
            rw [keys_insertAll]
            apply List.take_of_length_le
            rw [← length_keys, keys_insertAll, List.length_take] at hsz
            omega
          have hlog : log.lookup k = none := by
            rw [List.lookup_eq_none_iff]
            intro p hp
            have hne : k ≠ p.1 := by
              intro heq
              rw [hall] at hold
              exact hold (List.mem_eraseDups.mpr (heq ▸ List.mem_map_of_mem hp))
            simpa using hne
          have hnone := (lookup_eq_none_iff_keys _ k).mpr hold
          rw [insertAll_concat, lookup_insert, hnone, List.lookup_append, hlog]
          obtain ⟨key, value⟩ := w
          simp [hkw, hsz]
    · rw [if_neg hk, lookup_eq_none_iff_keys, hkeys]
      exact hk

end BoundedMap

end WriteOnce
