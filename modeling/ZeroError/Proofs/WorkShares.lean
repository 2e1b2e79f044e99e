import Mathlib.Algebra.Order.Floor.Div
import ZeroError.Proofs.Workers

/-!
Dealing out the functions of a package. The number of workers is what is asked for, brought between one
and the number of functions, and the length of a slice is the share of a worker, rounded up. Rounding up
can leave fewer slices than workers. Main statement: however many functions there are and however many
workers are asked for, the numbers make sense, no worker gets an empty slice, no more slices are made
than there are workers, and the slices put together are the functions.
-/

namespace ZeroError.Analysis

open ZeroError.Go

/-- A number brought between two bounds. If the bounds are in the wrong order there is no such number. -/
def clamp? (low high number : Nat) : Option Nat :=
  if low ≤ high then some (if number < low then low else if high < number then high else number)
  else none

private theorem clamp?_eq_workerCount (jobs size : Nat) :
    clamp? 1 (max size 1) jobs = some (workerCount jobs size) := by
  have inOrder : 1 ≤ max size 1 := by omega
  rw [clamp?, if_pos inOrder, workerCount]
  congr 1
  split
  · omega
  · split
    · omega
    · omega

theorem sliceLength_eq_ceilDiv (size workers : Nat) :
    sliceLength size workers = size ⌈/⌉ workers :=
  (Nat.ceilDiv_eq_add_pred_div size workers).symm

/-- The shares of all workers together are enough for all functions. -/
theorem le_workers_mul_sliceLength {size workers : Nat} (some : 0 < workers) :
    size ≤ workers * sliceLength size workers := by
  rw [sliceLength_eq_ceilDiv]
  exact le_smul_ceilDiv some

private theorem ne_nil_of_mem_slices {α : Type} {length : Nat} {items slice : List α}
    (member : slice ∈ slices length items) : slice ≠ [] := by
  fun_induction slices length items with
  | case1 items stop => cases member
  | case2 items goesOn ih =>
      rcases List.mem_cons.mp member with rfl | later
      · intro empty
        have lengths : (items.take length).length = 0 := congrArg List.length empty
        rw [List.length_take] at lengths
        omega
      · exact ih later

/-- Slices of a length are no more than a number exactly if so many slices of that length have room for
all items. -/
theorem length_slices_le_iff {α : Type} {length count : Nat} (positive : 0 < length)
    {items : List α} : (slices length items).length ≤ count ↔ items.length ≤ count * length := by
  fun_induction slices length items generalizing count with
  | case1 items stop =>
      have empty : items.length = 0 := stop.resolve_right (by omega)
      rw [empty]
      exact iff_of_true (Nat.zero_le count) (Nat.zero_le _)
  | case2 items goesOn ih =>
      cases count with
      | zero =>
          rw [Nat.zero_mul, List.length_cons]
          omega
      | succ count =>
          rw [List.length_cons, Nat.add_le_add_iff_right, ih, List.length_drop, Nat.succ_mul]
          omega

/-- The number of workers is well defined. If there are several, the length of their slices is their
share of the functions rounded up, which is not zero; no slice is empty, there are no more slices than
workers, and together they are all functions in their order. If there are no functions, there is a
single worker, and nothing is sliced. -/
theorem functions_are_dealt_out_exactly (jobs : Nat) (targets : List Target) :
    let workers := workerCount jobs targets.length
    let length := sliceLength targets.length workers
    clamp? 1 (max targets.length 1) jobs = some workers ∧
    (1 < workers →
      length = targets.length ⌈/⌉ workers ∧ 1 ≤ length ∧
        (∀ slice ∈ slices length targets, slice ≠ []) ∧
        (slices length targets).length ≤ workers ∧
        (slices length targets).flatten = targets) ∧
    (targets.length = 0 → workers = 1) := by
  intro workers length
  refine ⟨clamp?_eq_workerCount jobs targets.length, ?_, ?_⟩
  · intro several
    have positive : 0 < length := sliceLength_pos (Nat.ne_of_gt several)
    refine ⟨sliceLength_eq_ceilDiv targets.length workers, positive, ?_, ?_, ?_⟩
    · intro slice member
      exact ne_nil_of_mem_slices member
    · apply (length_slices_le_iff positive).mpr
      apply le_workers_mul_sliceLength
      omega
    · exact flatten_slices positive targets
  · intro nothing
    change workerCount jobs targets.length = 1
    rw [nothing, workerCount]
    omega

def sevenTargets : List Target :=
  (List.range 7).map (fun index => ⟨index, "a.go", ⟨⟨"f", {}⟩, none, [], [], none⟩⟩)

/-- Five workers for seven functions get slices of two, so one of them gets none. -/
theorem functions_are_dealt_out_exactly_seven :
    1 < workerCount 5 sevenTargets.length ∧ sliceLength sevenTargets.length 5 = 2 ∧
      (slices 2 sevenTargets).length ≤ 4 ∧ (slices 2 sevenTargets).flatten = sevenTargets := by
  have several : 1 < workerCount 5 sevenTargets.length := by decide
  obtain ⟨_, _, _, _, whole⟩ := (functions_are_dealt_out_exactly 5 sevenTargets).2.1 several
  refine ⟨several, by decide, ?_, whole⟩
  exact (length_slices_le_iff (by decide)).mpr (by decide)

end ZeroError.Analysis
