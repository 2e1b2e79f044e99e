import Mathlib.Data.Finset.Dedup
import Mathlib.Data.Finset.Lattice.Lemmas
import ZeroError.Proofs.Walk

/-!
Laws of assignment. Of the targets of an assignment only the set of names of the bare identifiers among
them matters: these names are no longer followed, the others are, in their order, and when none is left
the cohort is given up. Main statement: an assignment to some targets and then to others is one to all
of them, in whatever order, and a cohort that is given up on the way is given up in the end and told of
once.
-/

namespace ZeroError.Analysis

open ZeroError.Go

/-- The names that an assignment reaches: those of the bare identifiers among its targets. -/
def assignedNames (targets : List Expr) : Finset String :=
  (targets.filterMap Expr.identName?).toFinset

theorem assignedNames_append (first second : List Expr) :
    assignedNames (first ++ second) = assignedNames first ∪ assignedNames second := by
  rw [assignedNames, List.filterMap_append, List.toFinset_append]
  rfl

namespace Watch

/-- The followed names that are not among some others. -/
def trackedOutside (watch : Watch) (names : Finset String) : List String :=
  watch.tracked.filter (fun name => name ∉ names)

/-- The names are followed; if there are none, nothing is. -/
def ofTracked (names : List String) : Watch :=
  if names = [] then .idle else .tracking ⟨names⟩

theorem tracked_ofTracked (names : List String) : (ofTracked names).tracked = names := by
  unfold ofTracked
  split
  · rename_i nothing
    exact nothing.symm
  · rfl

private theorem isTracking_ofTracked (names : List String) :
    (ofTracked names).isTracking = true ↔ names ≠ [] := by
  unfold ofTracked
  split
  · rename_i nothing
    exact iff_of_false Bool.false_ne_true (fun some => some nothing)
  · rename_i some
    exact iff_of_true rfl some

private theorem ofTracked_eq_idle_iff {names : List String} : ofTracked names = .idle ↔ names =
    [] := by
  unfold ofTracked
  split
  · rename_i nothing
    exact iff_of_true rfl nothing
  · rename_i some
    exact iff_of_false (fun same => by cases same) some

/-- Names are dropped one set after the other, or both sets at once. -/
theorem trackedOutside_ofTracked (watch : Watch) (first second : Finset String) :
    (ofTracked (watch.trackedOutside first)).trackedOutside second =
      watch.trackedOutside (first ∪ second) := by
  unfold trackedOutside
  rw [tracked_ofTracked, List.filter_filter]
  apply List.filter_congr
  intro name _member
  rw [← Bool.decide_and]
  apply decide_eq_decide.mpr
  rw [Finset.mem_union, not_or, and_comm]

theorem trackedOutside_eq_nil_iff {watch : Watch} {names : Finset String} :
    watch.trackedOutside names = [] ↔ ∀ name ∈ watch.tracked, name ∈ names := by
  rw [trackedOutside, List.filter_eq_nil_iff]
  simp only [decide_eq_true_eq, not_not]

private theorem names_without_targets (cohort : Cohort) (targets : List Expr) :
    (cohort.without (targets.filterMap Expr.identName?)).names =
      (Watch.tracking cohort).trackedOutside (assignedNames targets) := by
  apply List.filter_congr
  intro name _member
  rw [Bool.eq_iff_iff, decide_eq_true_iff, assignedNames, List.mem_toFinset, Bool.not_eq_true',
    ← Bool.not_eq_true, List.contains_iff_mem]

/-- What is left is followed, and if a cohort leaves nothing, that is told. -/
theorem assign_eq (watch : Watch) (targets : List Expr) :
    watch.assign targets =
      ⟨if watch.isTracking = true ∧ watch.trackedOutside (assignedNames targets) = [] then
          [.allReassigned] else [],
        ofTracked (watch.trackedOutside (assignedNames targets))⟩ := by
  cases watch with
  | idle => rfl
  | tracking cohort =>
      simp only [assign, Cohort.isEmpty, List.isEmpty_iff, names_without_targets]
      by_cases nothing : (tracking cohort).trackedOutside (assignedNames targets) = []
      · rw [if_pos nothing, if_pos ⟨rfl, nothing⟩, ofTracked, if_pos nothing]
      · rw [if_neg nothing, if_neg (fun both => nothing both.2), ofTracked, if_neg nothing,
          ← names_without_targets]
        rfl

/-- The cohort is given up by the first assignment, by the second, or by neither. -/
theorem assign_append (watch : Watch) (first second : List Expr) :
    watch.assign (first ++ second) =
      (watch.assign first).andThen (fun next => next.assign second) := by
  cases watch with
  | idle => rfl
  | tracking cohort =>
      have following : (tracking cohort).isTracking = true := rfl
      simp only [assign_eq, Traced.andThen, trackedOutside_ofTracked, assignedNames_append,
        isTracking_ofTracked, following, true_and]
      congr 1
      by_cases early : (tracking cohort).trackedOutside (assignedNames first) = []
      · have late : (tracking cohort).trackedOutside
            (assignedNames first ∪ assignedNames second) = [] := by
          rw [trackedOutside_eq_nil_iff] at early ⊢
          exact fun name member => Finset.mem_union_left _ (early name member)
        rw [if_pos early, if_pos late, if_neg (fun both => both.1 early), List.append_nil]
      · rw [if_neg early, List.nil_append]
        simp only [ne_eq, early, not_false_eq_true, true_and]

end Watch

/-- An assignment to some targets and then to others is one assignment to all of them, and also the
other way round: the state is the same, and so is what is told. Only the set of assigned names matters.
The names that are left are the followed ones outside that set, in their order, and nothing is followed
any more exactly if nothing was or all followed names are in the set. -/
theorem assignments_compose_and_commute (watch : Watch) (first second : List Expr) :
    watch.assign (first ++ second) =
        (watch.assign first).andThen (fun next => next.assign second) ∧
      (watch.assign first).andThen (fun next => next.assign second) =
        (watch.assign second).andThen (fun next => next.assign first) ∧
      (assignedNames first = assignedNames second → watch.assign first = watch.assign second) ∧
      (watch.assign first).value.tracked =
        watch.tracked.filter (fun name => name ∉ assignedNames first) ∧
      ((watch.assign first).value = .idle ↔
        watch = .idle ∨ ∀ name ∈ watch.tracked, name ∈ assignedNames first) := by
  have depends {targets others : List Expr} (same : assignedNames targets = assignedNames others) :
      watch.assign targets = watch.assign others := by
    rw [Watch.assign_eq, Watch.assign_eq, same]
  have left : (watch.assign first).value =
      Watch.ofTracked (watch.trackedOutside (assignedNames first)) := by
    rw [Watch.assign_eq]
  refine ⟨watch.assign_append first second, ?_, depends, ?_, ?_⟩
  · rw [← Watch.assign_append, ← Watch.assign_append]
    apply depends
    rw [assignedNames_append, assignedNames_append, Finset.union_comm]
  · rw [left, Watch.tracked_ofTracked]
    rfl
  · rw [left, Watch.ofTracked_eq_idle_iff, Watch.trackedOutside_eq_nil_iff]
    constructor
    · exact Or.inr
    · rintro (rfl | assigned)
      · intro name member
        cases member
      · exact assigned

/-- Of `y.msg, x` and of `x, x` only `x` is assigned to. -/
theorem assignments_compose_and_commute_selector :
    assignedNames [.selector (.ident ⟨"y", {}⟩) ⟨"msg", {}⟩, .ident ⟨"x", {}⟩] =
        assignedNames [.ident ⟨"x", {}⟩, .ident ⟨"x", {}⟩] ∧
      (Watch.tracking ⟨["x", "y"]⟩).assign
          [.selector (.ident ⟨"y", {}⟩) ⟨"msg", {}⟩, .ident ⟨"x", {}⟩] =
        (Watch.tracking ⟨["x", "y"]⟩).assign [.ident ⟨"x", {}⟩, .ident ⟨"x", {}⟩] := by
  have same : assignedNames [.selector (.ident ⟨"y", {}⟩) ⟨"msg", {}⟩, .ident ⟨"x", {}⟩] =
      assignedNames [.ident ⟨"x", {}⟩, .ident ⟨"x", {}⟩] := by decide
  exact ⟨same, (assignments_compose_and_commute _ _ _).2.2.1 same⟩

end ZeroError.Analysis
