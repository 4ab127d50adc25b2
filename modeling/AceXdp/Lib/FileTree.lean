import Mathlib.Data.List.Dedup
import Mathlib.Data.List.Sort
import Mathlib.Logic.Function.Basic
import AceXdp.Lib.Disk

/-!
# File trees — a file system whose entries can be listed

A tree has finitely many names, so that what stands below a directory is a list.

* `FileTree.below`: everything below a path, sorted;
* `FileSystem.follow`: what stands behind a path that may be a link itself;
* `FileTree.resolve`: where a path leads when every component may be one;
* **`mem_below_iff`**, **`resolve_of_resolved`**, **`resolve_prefix`** — what the proofs use of them.
-/

namespace Disk

open Json (Str)

/-! ## Resolution

A path is resolved from the root, one component after the other: `..` goes back, and a link is
resolved as a path of its own before the components behind it are looked at. What comes out is a
path that goes over no link (`ResolvedPath`), and such a path is where it leads to. -/

/-- The parent, as a component of a path. -/
def upward : Str := ['.'.toNat, '.'.toNat]

/-- From a resolved path over the components that are left; `jump` resolves a link. -/
def stepThrough (fs : FileSystem) (jump : Path → Option Path) : Path → List Str → Option Path
  | done, [] => some done
  | done, name :: rest =>
    if name = upward then stepThrough fs jump done.dropLast rest
    else
      match fs (done ++ [name]) with
      | some (.symlink target) =>
        (jump target).bind fun target => stepThrough fs jump target rest
      | some _ => stepThrough fs jump (done ++ [name]) rest
      | none => none

/-- A path, with so many links inside each other. -/
def resolveFrom (fs : FileSystem) : Nat → Path → Option Path
  | 0, _ => none
  | depth + 1, p => stepThrough fs (resolveFrom fs depth) [] p

/-- A path over no link, every component of which is there. -/
def ResolvedPath (fs : FileSystem) (p : Path) : Prop :=
  ∀ done name, done ++ [name] <+: p →
    name ≠ upward ∧ ∃ e, fs (done ++ [name]) = some e ∧ ∀ target, e ≠ .symlink target

section Resolution

variable {fs : FileSystem} {jump : Path → Option Path} {p q done : Path} {name : Str} {e : Entry}

theorem resolvedPath_nil : ResolvedPath fs [] := by
  intro done name hpq
  simpa using List.prefix_nil.mp hpq

theorem ResolvedPath.above (h : ResolvedPath fs p) (hpq : q <+: p) : ResolvedPath fs q :=
  fun done name hdone => h done name (hdone.trans hpq)

theorem ResolvedPath.concat (h : ResolvedPath fs done) (hname : name ≠ upward)
    (hentry : fs (done ++ [name]) = some e) (hlink : ∀ target, e ≠ .symlink target) :
    ResolvedPath fs (done ++ [name]) := by
  intro done' name' hpq
  rcases List.prefix_concat_iff.mp hpq with heq | hinside
  · obtain ⟨rfl, hlast⟩ := List.append_inj' heq rfl
    obtain rfl := List.singleton_inj.mp hlast
    exact ⟨hname, e, hentry, hlink⟩
  · exact h done' name' hinside

/-- What comes out is resolved. Induction on the components. -/
theorem stepThrough_resolved (hjump : ∀ target q, jump target = some q → ResolvedPath fs q)
    (rest : List Str) :
    ∀ {done : Path}, ResolvedPath fs done → stepThrough fs jump done rest = some q →
      ResolvedPath fs q := by
  induction rest with
  | nil =>
    intro done hdone h
    cases h
    exact hdone
  | cons name rest ih =>
    intro done hdone h
    rw [stepThrough] at h
    split at h
    · exact ih (hdone.above (List.dropLast_prefix done)) h
    rename_i hname
    split at h
    · obtain ⟨target, htarget, hrest⟩ := Option.bind_eq_some_iff.mp h
      exact ih (hjump _ _ htarget) hrest
    · rename_i e hlink hentry
      exact ih (hdone.concat hname hentry hlink) h
    · cases h

theorem resolveFrom_resolved : ∀ (depth : Nat) (p q : Path), resolveFrom fs depth p = some q →
    ResolvedPath fs q
  | 0, _, _, h => nomatch h
  | depth + 1, p, _, h => stepThrough_resolved (resolveFrom_resolved depth) p resolvedPath_nil h

/-- A resolved path is passed over as it is. Induction on the components that are left. -/
theorem stepThrough_of_resolved (rest : List Str) :
    ∀ {done : Path}, ResolvedPath fs (done ++ rest) →
      stepThrough fs jump done rest = some (done ++ rest) := by
  induction rest with
  | nil =>
    intro done _
    rw [stepThrough, List.append_nil]
  | cons name rest ih =>
    intro done h
    have hsplit : done ++ name :: rest = done ++ [name] ++ rest := by simp
    rw [hsplit] at h ⊢
    obtain ⟨hname, e, hentry, hlink⟩ := h done name (List.prefix_append _ _)
    rw [stepThrough, if_neg hname, hentry]
    cases e with
    | symlink target => exact absurd rfl (hlink target)
    | file content => exact ih h
    | directory => exact ih h

end Resolution

/-! ## Links

A link is followed before the entry behind it is looked at; a chain of links is followed to
its end. -/

namespace FileSystem

/-- The entry behind a path in a resolved directory, links followed. -/
def follow (fs : FileSystem) (p : Path) : Option Entry :=
  match fs p with
  | some (.symlink target) => (resolveFrom fs maxLinks target).bind fs
  | entry => entry

/-- `path.exists()`. -/
def present (fs : FileSystem) (p : Path) : Bool := (fs.follow p).isSome

/-- `path.is_file()`. -/
def isFile (fs : FileSystem) (p : Path) : Bool :=
  match fs.follow p with
  | some (.file _) => true
  | _ => false

/-- `path.is_dir()`. -/
def isDir (fs : FileSystem) (p : Path) : Bool :=
  match fs.follow p with
  | some .directory => true
  | _ => false

/-- `path.is_symlink()`. -/
def isSymlink (fs : FileSystem) (p : Path) : Bool :=
  match fs p with
  | some (.symlink _) => true
  | _ => false

variable {fs : FileSystem} {p : Path} {content : Bytes}

theorem follow_of_file (h : fs p = some (.file content)) : fs.follow p = some (.file content) := by
  rw [follow, h]

theorem follow_of_directory (h : fs p = some .directory) : fs.follow p = some .directory := by
  rw [follow, h]

theorem follow_of_none (h : fs p = none) : fs.follow p = none := by
  rw [follow, h]

theorem isFile_eq_false_of_none (h : fs p = none) : fs.isFile p = false := by
  rw [isFile, follow_of_none h]

end FileSystem

/-! ## Trees

A file system together with the names that were ever used, so that what is below a directory can be
listed. -/

/-- The order of strings, by their characters. -/
def textBefore : Str → Str → Bool
  | _, [] => false
  | [], _ :: _ => true
  | m :: s, n :: t => decide (m < n) || (decide (m = n) && textBefore s t)

/-- The order in which paths are sorted: by their names, and a directory before what is in it. -/
def Path.sortsBefore : Path → Path → Bool
  | [], _ => true
  | _ :: _, [] => false
  | s :: p, t :: q => textBefore s t || (decide (s = t) && Path.sortsBefore p q)

structure FileTree where
  entry : FileSystem
  names : List Path
  named : ∀ p, (entry p).isSome → p ∈ names

namespace FileTree

/-- One entry is made, replaced or taken away. -/
def set (t : FileTree) (p : Path) (e : Option Entry) : FileTree where
  entry := Function.update t.entry p e
  names := p :: t.names
  named := by
    intro q hq
    by_cases heq : q = p
    · exact List.mem_cons.mpr (.inl heq)
    · rw [Function.update_of_ne heq] at hq
      exact List.mem_cons_of_mem _ (t.named q hq)

variable {t : FileTree} {p q root : Path} {e : Option Entry}

@[simp] theorem set_self : (t.set p e).entry p = e := Function.update_self _ _ _

theorem set_of_ne (h : q ≠ p) : (t.set p e).entry q = t.entry q := Function.update_of_ne h _ _

def empty : FileTree := ⟨fun _ => none, [], nofun⟩

/-- The tree of some entries, the first one at each path. -/
def ofEntries (entries : List (Path × Entry)) : FileTree :=
  entries.foldr (fun e t => t.set e.1 (some e.2)) empty

/-- `sorted(root.rglob("*"))`. -/
def below (t : FileTree) (root : Path) : List Path :=
  (t.names.filter fun p => root.isPrefixOf p && p ≠ root && (t.entry p).isSome).dedup.insertionSort
    fun p q => p.sortsBefore q = true

/-- `os.path.realpath(path, strict=True)`. Links that are resolved inside each other are different
ones, unless they go round: so there are no more of them than names. -/
def resolve (t : FileTree) (p : Path) : Option Path := resolveFrom t.entry (t.names.length + 1) p

theorem resolve_resolved (h : t.resolve p = some q) : ResolvedPath t.entry q :=
  resolveFrom_resolved _ _ _ h

theorem resolve_of_resolved (h : ResolvedPath t.entry p) : t.resolve p = some p :=
  stepThrough_of_resolved p h

/-- Every directory on the way is one that is not behind a link. -/
theorem resolve_prefix (h : t.resolve p = some q) (hpq : root <+: q) :
    t.resolve root = some root :=
  resolve_of_resolved ((resolve_resolved h).above hpq)

theorem mem_below_iff : p ∈ t.below root ↔ root <+: p ∧ p ≠ root ∧ (t.entry p).isSome := by
  rw [below, List.mem_insertionSort, List.mem_dedup, List.mem_filter]
  simp only [Bool.and_eq_true, List.isPrefixOf_iff_prefix, decide_eq_true_eq, and_assoc]
  exact ⟨And.right, fun h => ⟨t.named p h.2.2, h⟩⟩

end FileTree

end Disk
