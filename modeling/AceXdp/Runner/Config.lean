import Mathlib.Data.Nat.Digits.Lemmas
import AceXdp.Runner.Frame

/-!
# AceXdp — the configuration of `ace-run` and the runs it asks for

The fields of `struct run_config` that the two state machines branch on, with the ranges
`read_run_config` checks, and the loop of `main` over repeats and modes.

* `runs`: what `main` goes through, one `Run` for each pass of its loop;
* `runs_index`: the counter fits the frame's 32 bits and is never 0.
-/

namespace AceXdp

/-! ## Modes -/

inductive RunMode where
  | mixed | allPass | passXsk | socketOnly
  deriving DecidableEq, Repr

def ascii (text : List Char) : List UInt8 := text.map fun c => UInt8.ofNat c.toNat

/-- The name in the configuration. -/
def RunMode.text : RunMode → List UInt8
  | .mixed => ascii ['m', 'i', 'x', 'e', 'd']
  | .allPass => ascii ['a', 'l', 'l', '-', 'p', 'a', 's', 's']
  | .passXsk => ascii ['p', 'a', 's', 's', '-', 'x', 's', 'k']
  | .socketOnly => ascii ['s', 'o', 'c', 'k', 'e', 't', '-', 'o', 'n', 'l', 'y']

theorem RunMode.length_text_le (mode : RunMode) : mode.text.length ≤ 11 := by
  cases mode <;> decide

theorem RunMode.text_nul_free (mode : RunMode) : (0 : UInt8) ∉ mode.text := by
  cases mode <;> decide

/-! ## The configuration -/

/-- There are three flows; a literal names one of them. -/
instance neZeroFlows : NeZero 3 := ⟨by decide⟩

/-- `struct run_config`, as far as the control flow reads it. -/
structure RunConfig where
  runId : CString 65
  digest : CString 65
  modes : List RunMode
  repeats : Nat
  alternateModeOrder : Bool
  -- `flows[i].enabled`
  flowEnabled : Fin 3 → Bool
  xskBusy : Bool
  phcTracking : Bool
  -- `rx_coalesce_usecs >= 0`
  rxCoalesce : Bool
  -- `monitor || cpu_percent || memory_workers || io_workers`
  monitorOrLoad : Bool
  -- `network_bps != 0`
  networkLoad : Bool
  modes_ne_nil : modes ≠ []
  modes_length_le : modes.length ≤ 4
  repeats_le : repeats ≤ 10000

/-- The flows that are on, in the order the loops visit them. -/
def RunConfig.flows (c : RunConfig) : List (Fin 3) := (List.finRange 3).filter (c.flowEnabled ·)

def RunConfig.runModeIndex (c : RunConfig) (rep position : Nat) : Nat :=
  let offset := if c.alternateModeOrder ∧ rep ≠ 0 then rep - 1 else 0
  (position + offset) % c.modes.length

theorem RunConfig.runModeIndex_lt (c : RunConfig) (rep position : Nat) :
    c.runModeIndex rep position < c.modes.length :=
  Nat.mod_lt _ (List.length_pos_iff.mpr c.modes_ne_nil)

/-! ## Run identifiers -/

/-- `%04u`. -/
def decimal4 (n : Nat) : List UInt8 :=
  let digits := (Nat.digits 10 n).reverse.map fun d => UInt8.ofNat (48 + d)
  List.replicate (4 - digits.length) 48 ++ digits

theorem length_decimal4_le {n : Nat} (h : n < 100000) : (decimal4 n).length ≤ 5 := by
  have hdigits : (Nat.digits 10 n).length ≤ 5 := (Nat.digits_length_le_iff (by decide) n).mpr h
  simp only [decimal4, List.length_append, List.length_replicate, List.length_map,
    List.length_reverse]
  omega

theorem decimal4_nul_free (n : Nat) : (0 : UInt8) ∉ decimal4 n := by
  intro hmem
  rcases List.mem_append.mp hmem with hpad | hdigit
  · exact absurd (List.mem_replicate.mp hpad).2 (by decide)
  · obtain ⟨d, hd, hzero⟩ := List.mem_map.mp hdigit
    have hlt : d < 10 := Nat.digits_lt_base (by decide) (List.mem_reverse.mp hd)
    interval_cases d <;> exact absurd hzero (by decide)

/-- `x->run_id`, as `begin_run` prints it. -/
def RunConfig.runIdOf (c : RunConfig) (mode : RunMode) (rep : Fin c.repeats) : CString 128 where
  bytes := c.runId.bytes ++ (ascii ['-'] ++ (mode.text ++ (ascii ['-', 'r']
    ++ decimal4 (rep.val + 1))))
  fits := by
    have hname := c.runId.fits
    have hmode := mode.length_text_le
    have hrep : (decimal4 (rep.val + 1)).length ≤ 5 :=
      length_decimal4_le (by have := rep.isLt; have := c.repeats_le; omega)
    simp only [ascii, List.length_append, List.length_map, List.length_cons, List.length_nil]
    omega
  nul_free := by
    simp only [List.mem_append, not_or]
    exact ⟨c.runId.nul_free, by decide, mode.text_nul_free, by decide, decimal4_nul_free _⟩

/-- `x->run_id` before the first run. -/
def RunConfig.caseId (c : RunConfig) : CString 128 where
  bytes := c.runId.bytes
  fits := by have := c.runId.fits; omega
  nul_free := c.runId.nul_free

/-! ## The runs -/

/-- One pass of the loop in `main`. -/
structure Run where
  index : Nat
  runId : CString 128
  mode : RunMode
  rep : Nat
  deriving DecidableEq

/-- The modes and repeats in the order of the two nested loops. -/
def RunConfig.plan (c : RunConfig) : List (RunMode × Fin c.repeats) :=
  (List.finRange c.repeats).flatMap fun rep => (List.range c.modes.length).map fun position =>
    (c.modes.get ⟨c.runModeIndex (rep.val + 1) position, c.runModeIndex_lt _ _⟩, rep)

/-- What `main` goes through; `x.index` counts from 1. -/
def RunConfig.runs (c : RunConfig) : List Run :=
  (c.plan.zipIdx 1).map fun ⟨⟨mode, rep⟩, index⟩ =>
    { index := index, runId := c.runIdOf mode rep, mode := mode, rep := rep.val + 1 }

theorem RunConfig.length_plan (c : RunConfig) :
    c.plan.length = c.repeats * c.modes.length := by
  simp [RunConfig.plan, List.length_flatMap]

theorem RunConfig.runs_index {c : RunConfig} {r : Run} (h : r ∈ c.runs) :
    0 < r.index ∧ r.index < 2 ^ 32 := by
  obtain ⟨⟨⟨mode, rep⟩, index⟩, hmem, rfl⟩ := List.mem_map.mp h
  have hlow := List.le_snd_of_mem_zipIdx hmem
  have hhigh := List.snd_lt_add_of_mem_zipIdx hmem
  rw [c.length_plan] at hhigh
  have hsize : c.repeats * c.modes.length ≤ 10000 * 4 :=
    Nat.mul_le_mul c.repeats_le c.modes_length_le
  show 0 < index ∧ index < 2 ^ 32
  simp only at hlow hhigh
  omega

end AceXdp
