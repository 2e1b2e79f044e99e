import ZeroError.Check
import ZeroError.Proofs.Attempts

/-!
Sharing the work changes nothing. Slices put together are the list that was sliced, the batches of
the slices add up to the batch of all functions, and what is found comes in source order before it is
sorted. So a run is described by what comes of the functions, one after another in source order, and
the number of workers has no part in this description.
-/

namespace ZeroError.Analysis

open ZeroError.Go

theorem flatten_slices {α : Type} {length : Nat} (positive : 0 < length) (items : List α) :
    (slices length items).flatten = items := by
  fun_induction slices length items with
  | case1 items stop =>
      have empty : items.length = 0 := stop.resolve_right (by omega)
      rw [List.eq_nil_of_length_eq_zero empty]
      rfl
  | case2 items _ ih => rw [List.flatten_cons, ih, List.take_append_drop]

/-- More than one worker means more than one function, so no slice is empty. -/
theorem sliceLength_pos {jobs size : Nat} (several : workerCount jobs size ≠ 1) :
    0 < sliceLength size (workerCount jobs size) := by
  have least : 1 ≤ workerCount jobs size := by
    unfold workerCount
    omega
  have most : workerCount jobs size ≤ size := by
    unfold workerCount at several ⊢
    omega
  apply Nat.div_pos
  · omega
  · omega

def outcomeOf (table : TypeTable) (entry : String × FuncDecl) : Except Unprintable Outcome :=
  (examine table entry.1 entry.2).value

def Outcome.isWalked : Outcome → Bool
  | .skipped => false
  | .clean => true
  | .reported _ => true

def settle (table : TypeTable) (target : Target) : Except Unprintable (Target × Outcome) :=
  (outcomeOf table (target.file, target.func)).map (Prod.mk target)

def placedDiagnostic? (entry : Target × Outcome) : Option (Nat × Diagnostic) :=
  entry.2.diagnostic?.map (Prod.mk entry.1.index)

namespace Batch

def extend (batch : Batch) (settled : List (Target × Outcome)) : Batch :=
  settled.foldl (fun batch entry => batch.add entry.1.index entry.2) batch

theorem found_extend (batch : Batch) (settled : List (Target × Outcome)) :
    (batch.extend settled).found = batch.found ++ settled.filterMap placedDiagnostic? := by
  induction settled generalizing batch with
  | nil => exact (List.append_nil batch.found).symm
  | cons entry settled ih =>
      obtain ⟨target, outcome⟩ := entry
      refine (ih (batch.add target.index outcome)).trans ?_
      cases outcome with
      | skipped => rfl
      | clean => rfl
      | reported diagnostic => exact List.append_assoc _ _ _

theorem checked_extend (batch : Batch) (settled : List (Target × Outcome)) :
    (batch.extend settled).checked =
      batch.checked + settled.countP (fun entry => entry.2.isWalked) := by
  induction settled generalizing batch with
  | nil => rfl
  | cons entry settled ih =>
      obtain ⟨target, outcome⟩ := entry
      refine (ih (batch.add target.index outcome)).trans ?_
      rw [List.countP_cons]
      cases outcome with
      | skipped => rfl
      | clean =>
          change batch.checked + 1 + _ = batch.checked + (_ + 1)
          omega
      | reported diagnostic =>
          change batch.checked + 1 + _ = batch.checked + (_ + 1)
          omega

end Batch

theorem value_checkTargets (table : TypeTable) (batch : Batch) (targets : List Target) :
    (checkTargets table batch targets).value =
      (targets.mapM (settle table)).map batch.extend := by
  induction targets generalizing batch with
  | nil => rfl
  | cons target targets ih =>
      rw [checkTargets, Traced.value_andThen]
      cases looked : (examine table target.file target.func).value with
      | error cause =>
          have failed : settle table target = .error cause :=
            Attempts.map_eq_error_iff.mpr looked
          rw [Attempts.mapM_cons_of_error failed]
          rfl
      | ok outcome =>
          have settled : settle table target = .ok (target, outcome) :=
            Attempts.map_eq_ok_iff.mpr ⟨outcome, looked, rfl⟩
          rw [Attempts.mapM_cons_of_ok settled, Attempts.map_map]
          exact ih (batch.add target.index outcome)

/-- The batches of several workers are as good as one batch of all their functions. -/
theorem assemble_groups (package : Package) (size : Nat) (groups : List (List (Target × Outcome))) :
    assemble package size (groups.map (Batch.extend {})) =
      assemble package size [Batch.extend {} groups.flatten] := by
  have found : (groups.map (Batch.extend {})).flatMap Batch.found =
      [Batch.extend {} groups.flatten].flatMap Batch.found := by
    rw [List.flatMap_singleton, List.flatMap_map, Batch.found_extend, List.filterMap_flatten]
    simp only [Batch.found_extend, List.nil_append, List.flatMap_def]
  have checked : ((groups.map (Batch.extend {})).map Batch.checked).foldr (· + ·) 0 =
      ([Batch.extend {} groups.flatten].map Batch.checked).foldr (· + ·) 0 := by
    change ((groups.map (Batch.extend {})).map Batch.checked).sum =
      ([Batch.extend {} groups.flatten].map Batch.checked).sum
    rw [List.map_map, List.map_singleton, List.sum_singleton, Batch.checked_extend,
      List.countP_flatten]
    simp only [Function.comp_def, Batch.checked_extend, Nat.zero_add]
  unfold assemble
  rw [found, checked]

def reportOf (package : Package) (outcomes : List Outcome) : Report where
  package := package.path
  diagnostics := outcomes.filterMap Outcome.diagnostic?
  filesAnalyzed := .ofNat package.files.length
  functionsAnalyzed := .ofNat package.functions.length
  functionsChecked := .ofNat (outcomes.countP Outcome.isWalked)

theorem length_targetsOf (package : Package) :
    (targetsOf package).length = package.functions.length := by
  rw [targetsOf, List.length_map, List.length_zipIdx]

private theorem targetsOf_ordered (package : Package) :
    (targetsOf package).Pairwise (fun first second => first.index < second.index) := by
  rw [← List.pairwise_map (f := Target.index) (R := fun first second => first < second)]
  have indices : (targetsOf package).map Target.index =
      List.range' 0 package.functions.length := by
    rw [targetsOf, List.map_map, ← List.zipIdx_map_snd 0 package.functions]
    rfl
  rw [indices]
  exact List.pairwise_lt_range'

/-- What is found in source order is sorted already. -/
theorem assemble_settled {package : Package} {settled : List (Target × Outcome)}
    (order : settled.map Prod.fst = targetsOf package) :
    assemble package (targetsOf package).length [Batch.extend {} settled] =
      reportOf package (settled.map Prod.snd) := by
  have found : [Batch.extend {} settled].flatMap Batch.found =
      settled.filterMap placedDiagnostic? := by
    rw [List.flatMap_singleton, Batch.found_extend]
    exact List.nil_append _
  have ordered : settled.Pairwise (fun first second => first.1.index < second.1.index) := by
    have targets := targetsOf_ordered package
    rw [← order, List.pairwise_map] at targets
    exact targets
  have sorted : (settled.filterMap placedDiagnostic?).Pairwise
      (fun left right => decide (left.1 ≤ right.1) = true) := by
    refine List.Pairwise.filterMap placedDiagnostic? ?_ ordered
    intro ⟨first, firstOutcome⟩ ⟨second, secondOutcome⟩ less left leftFound right rightFound
    obtain ⟨_, _, rfl⟩ := Option.map_eq_some_iff.mp leftFound
    obtain ⟨_, _, rfl⟩ := Option.map_eq_some_iff.mp rightFound
    exact decide_eq_true (Nat.le_of_lt less)
  have diagnostics : (settled.filterMap placedDiagnostic?).map Prod.snd =
      (settled.map Prod.snd).filterMap Outcome.diagnostic? := by
    rw [List.map_filterMap, List.filterMap_map]
    congr 1
    funext entry
    simp only [placedDiagnostic?, Option.map_map, Function.comp_apply]
    exact Option.map_id'
  unfold assemble reportOf
  simp only [found, List.mergeSort_of_pairwise sorted, diagnostics, length_targetsOf,
    List.map_singleton, List.foldr_cons, List.foldr_nil, Batch.checked_extend, Nat.zero_add,
    Nat.add_zero, List.countP_map]
  rfl

private theorem settle_target {table : TypeTable} {target : Target} {entry : Target × Outcome}
    (settled : settle table target = .ok entry) : entry.1 = target := by
  obtain ⟨_, _, rfl⟩ := Attempts.map_eq_ok_iff.mp settled
  rfl

theorem map_entry_targetsOf (package : Package) :
    (targetsOf package).map (fun target => (target.file, target.func)) = package.functions := by
  rw [targetsOf, List.map_map]
  exact List.zipIdx_map_fst 0 package.functions

theorem outcomes_settled (package : Package) :
    ((targetsOf package).mapM (settle package.types)).map (List.map Prod.snd) =
      package.functions.mapM (outcomeOf package.types) := by
  have forgotten : (fun target => (settle package.types target).map Prod.snd) =
      (fun target : Target => outcomeOf package.types (target.file, target.func)) := by
    funext target
    rw [settle, Attempts.map_map]
    cases outcomeOf package.types (target.file, target.func) with
    | error cause => rfl
    | ok outcome => rfl
  rw [← Attempts.mapM_map_value, forgotten, ← map_entry_targetsOf, List.mapM_map]
  rfl

theorem map_assemble_settled (package : Package) :
    ((targetsOf package).mapM (settle package.types)).map
        (fun settled => assemble package (targetsOf package).length [Batch.extend {} settled]) =
      (package.functions.mapM (outcomeOf package.types)).map (reportOf package) := by
  rw [← outcomes_settled, Attempts.map_map]
  cases settledAll : (targetsOf package).mapM (settle package.types) with
  | error cause => rfl
  | ok settled =>
      have order : settled.map Prod.fst = (targetsOf package).map id :=
        Attempts.map_eq_map_of_mapM_eq_ok settledAll (fun _ _ => settle_target)
      rw [List.map_id] at order
      exact congrArg Except.ok (assemble_settled order)

/-- A run finds out what comes of the functions in source order, up to the first failure, and reports
it; the number of workers plays no part. -/
theorem run_eq_reportOf (jobs : Nat) (package : Package) :
    run jobs package =
      (package.functions.mapM (outcomeOf package.types)).map (reportOf package) := by
  rw [← map_assemble_settled]
  unfold run
  simp only
  split
  · rw [value_checkTargets, Attempts.map_map]
  · rename_i several
    have sliced : ((slices (sliceLength (targetsOf package).length
          (workerCount jobs (targetsOf package).length)) (targetsOf package)).mapM
            (List.mapM (settle package.types))).map List.flatten =
        (targetsOf package).mapM (settle package.types) := by
      rw [Attempts.mapM_flatten, flatten_slices (sliceLength_pos several)]
    have worker : (fun slice => (checkTargets package.types {} slice).value) =
        (fun slice => (slice.mapM (settle package.types)).map (Batch.extend {})) := by
      funext slice
      exact value_checkTargets package.types {} slice
    rw [checkSlices, worker, Attempts.mapM_map_value, Attempts.map_map]
    simp only [assemble_groups]
    rw [← sliced, Attempts.map_map]

/-- Whatever number of workers is asked for, and whatever number of cores the machine has, a run
gives the same report or fails for the same cause. -/
theorem run_independent_of_workers (cores otherCores jobs otherJobs : Nat) (package : Package) :
    run (effectiveJobs cores jobs) package = run (effectiveJobs otherCores otherJobs) package := by
  rw [run_eq_reportOf, run_eq_reportOf]

end ZeroError.Analysis
