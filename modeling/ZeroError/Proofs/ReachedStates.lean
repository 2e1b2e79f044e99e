import ZeroError.Proofs.Flattening

/-!
The states that the walk over a body goes through. A state is reached together with the nodes that are
still to be met: one node is taken away, and its parts are put in its place. Main statement: no reached
state follows a name twice, and only a declaration that has a type of errors but no names makes the walk
follow a cohort without names. Such a cohort cannot be reported and still keeps the next declaration
from being looked at; if there is no such declaration, this does not happen.
-/

namespace ZeroError.Go

theorem statementsOf_cons_eq (node : Node) (rest : List Node) :
    statementsOf (node :: rest) = node.stmt?.toList ++ statementsOf (node.children ++ rest) := by
  rw [statementsOf_cons, statementsOf_append]
  cases node with
  | stmt s =>
      rw [statementsOf_stmt]
      rfl
  | expr e =>
      rw [statementsOf_expr]
      rfl

end ZeroError.Go

namespace ZeroError.Analysis

open ZeroError.Go

/-- The walk over the body gets into the state with the given nodes still to be met. -/
inductive Reaches (table : TypeTable) (body : Block) : Watch → List Node → Prop
  | start : Reaches table body .idle (stmtNodes body.stmts)
  | step {watch next : Watch} {node : Node} {rest : List Node}
      (reached : Reaches table body watch (node :: rest))
      (going : (nodeTransition table watch node).value = .going next) :
      Reaches table body next (node.children ++ rest)

namespace Cohort

private theorem nodup_ofNames (names : List String) : (ofNames names).names.Nodup := by
  have started : (([] : List String).map id).Nodup := List.nodup_nil
  rw [names_ofNames, ← List.map_id (FirstOccurrences.keepNew id [] names)]
  exact FirstOccurrences.nodup_keys_keepNew started names

private theorem ofNames_eq_nil_iff {names : List String} : (ofNames names).names = [] ↔ names =
    [] := by
  simp only [List.eq_nil_iff_forall_not_mem, mem_ofNames_iff]

end Cohort

/-- A cohort without names is being followed. -/
def Watch.hollow : Watch :=
  .tracking ⟨[]⟩

private theorem Watch.eq_hollow_of_tracked {watch : Watch} (tracking : watch.isTracking = true)
    (nothing : watch.tracked = []) : watch = .hollow := by
  cases watch with
  | idle => cases tracking
  | tracking cohort =>
      obtain ⟨names⟩ := cohort
      cases nothing
      rfl

private theorem Watch.tracked_assign (cohort : Cohort) (lhs : List Expr) :
    ((Watch.tracking cohort).assign lhs).value.tracked =
      (cohort.without (lhs.filterMap Expr.identName?)).names := by
  simp only [assign]
  split
  · rename_i nothing
    exact (List.isEmpty_iff.mp nothing).symm
  · rfl

private theorem Watch.assign_ne_hollow (cohort : Cohort) (lhs : List Expr) :
    ((Watch.tracking cohort).assign lhs).value ≠ .hollow := by
  simp only [assign]
  split
  · intro same
    cases same
  · rename_i someLeft
    intro same
    apply someLeft
    rw [show cohort.without (lhs.filterMap Expr.identName?) = ⟨[]⟩ from Watch.tracking.inj same]
    rfl

section

variable {table : TypeTable} {watch next : Watch} {stmt : Stmt}

private theorem nodup_of_transition (going : (transition table watch stmt).value = .going next)
    (distinct : watch.tracked.Nodup) : next.tracked.Nodup := by
  rcases transition_going going with
    ⟨names, rfl, _, rfl⟩ | ⟨cohort, lhs, tok, rhs, pos, rfl, _, rfl⟩ | ⟨rfl, _, rfl⟩ |
      ⟨cohort, rfl, _, rfl⟩
  · exact Cohort.nodup_ofNames names
  · rw [Watch.tracked_assign]
    exact distinct.filter _
  · exact distinct
  · exact distinct

/-- Nothing but a declaration without names makes the walk follow a cohort without names. -/
theorem hollow_of_transition (going : (transition table watch stmt).value = .going .hollow) :
    watch = .hollow ∨ watch = .idle ∧ (atRiskNames table stmt).value = some [] := by
  rcases transition_going going with
    ⟨names, rfl, found, same⟩ | ⟨cohort, lhs, tok, rhs, pos, rfl, _, same⟩ | ⟨rfl, _, same⟩ |
      ⟨cohort, rfl, _, same⟩
  · have nothing : (Cohort.ofNames names).names = [] :=
      congrArg Watch.tracked same.symm
    rw [Cohort.ofNames_eq_nil_iff.mp nothing] at found
    exact Or.inr ⟨rfl, found⟩
  · exact absurd same.symm (Watch.assign_ne_hollow cohort lhs)
  · cases same
  · exact Or.inl same.symm

private theorem transition_idle_of_atRisk {names : List String}
    (found : (atRiskNames table stmt).value = some names) :
    (transition table .idle stmt).value = .going (.tracking (Cohort.ofNames names)) := by
  cases stmt with
  | decl declaration =>
      simp only [atRiskNames] at found
      simp only [transition, Traced.value_andThen, found]
  | _ => cases found

/-- Going on from a node is going on from its parts. -/
theorem value_walkAll_step {node : Node} {rest : List Node}
    (going : (nodeTransition table watch node).value = .going next) :
    (walkAll table (.quiet (.going watch)) (node :: rest)).value =
      (walkAll table (.quiet (.going next)) (node.children ++ rest)).value := by
  rw [walkAll_eq_sweep, walkAll_eq_sweep, statementsOf_cons_eq]
  cases node with
  | stmt s =>
      have moved : (transition table watch s).value = .going next := going
      simp only [Node.stmt?, Option.toList_some, List.singleton_append]
      rw [value_sweep_cons, moved]
  | expr e =>
      cases going
      rfl

end

namespace Reaches

variable {table : TypeTable} {body : Block} {watch : Watch} {pending : List Node}

/-- The verdict on a body is what comes of any state that is reached. -/
theorem checkBody_eq (reached : Reaches table body watch pending) :
    checkBody table body = (walkAll table (.quiet (.going watch)) pending).value.escaped? := by
  induction reached with
  | start => rfl
  | step _ going ih => rw [ih, value_walkAll_step going]

private theorem statements_suffix (reached : Reaches table body watch pending) :
    statementsOf pending <:+ body.statements := by
  induction reached with
  | start => exact List.suffix_refl _
  | step _ _ ih =>
      rw [statementsOf_cons_eq] at ih
      exact (List.suffix_append _ _).trans ih

private theorem nodup (reached : Reaches table body watch pending) : watch.tracked.Nodup := by
  induction reached with
  | start => exact List.nodup_nil
  | @step watch next node rest _ going ih =>
      cases node with
      | stmt s => exact nodup_of_transition going ih
      | expr e =>
          cases going
          exact ih

/-- Before a cohort without names is followed, a declaration without names is met. -/
theorem exists_nameless (reached : Reaches table body .hollow pending) :
    ∃ stmt rest, Reaches table body .idle (.stmt stmt :: rest) ∧
      (atRiskNames table stmt).value = some [] := by
  generalize following : Watch.hollow = watch at reached
  induction reached with
  | start => cases following
  | @step watch next node rest earlier going ih =>
      subst following
      cases node with
      | expr e =>
          cases going
          exact ih rfl
      | stmt s =>
          rcases hollow_of_transition going with rfl | ⟨rfl, found⟩
          · exact ih rfl
          · exact ⟨s, rest, earlier, found⟩

private theorem mem_statements {stmt : Stmt} {rest : List Node}
    (reached : Reaches table body watch (.stmt stmt :: rest)) : stmt ∈ body.statements := by
  apply reached.statements_suffix.subset
  rw [statementsOf_cons_eq]
  exact List.mem_cons_self

private theorem eq_idle (named : ∀ stmt ∈ body.statements, (atRiskNames table stmt).value ≠ some [])
    (reached : Reaches table body watch pending) (nothing : watch.tracked = []) : watch = .idle := by
  cases watch with
  | idle => rfl
  | tracking cohort =>
      have hollow : Watch.tracking cohort = .hollow := Watch.eq_hollow_of_tracked rfl nothing
      rw [hollow] at reached
      obtain ⟨stmt, rest, met, found⟩ := reached.exists_nameless
      exact absurd found (named stmt met.mem_statements)

end Reaches

/-- No state that the walk reaches follows a name twice, and the verdict is what comes of it. A cohort
without names is followed exactly if a declaration of errors without names is met while nothing is
followed. If a body has no such declaration, then every followed cohort has a name, and a declaration of
errors that is met while no name is followed opens its cohort. -/
theorem reached_states_follow_names (table : TypeTable) (body : Block) :
    (∀ watch pending, Reaches table body watch pending →
      watch.tracked.Nodup ∧
        checkBody table body =
          (walkAll table (.quiet (.going watch)) pending).value.escaped?) ∧
    ((∃ pending, Reaches table body .hollow pending) ↔
      ∃ stmt rest, Reaches table body .idle (.stmt stmt :: rest) ∧
        (atRiskNames table stmt).value = some []) ∧
    ((∀ stmt ∈ body.statements, (atRiskNames table stmt).value ≠ some []) →
      (∀ watch pending, Reaches table body watch pending →
        watch.isTracking = true → watch.tracked ≠ []) ∧
      ∀ watch stmt rest names, Reaches table body watch (.stmt stmt :: rest) →
        watch.tracked = [] → (atRiskNames table stmt).value = some names →
        Reaches table body (.tracking (Cohort.ofNames names)) (stmt.children ++ rest)) := by
  refine ⟨?_, ⟨?_, ?_⟩, ?_⟩
  · intro watch pending reached
    exact ⟨reached.nodup, reached.checkBody_eq⟩
  · intro ⟨pending, reached⟩
    exact reached.exists_nameless
  · intro ⟨stmt, rest, met, found⟩
    exact ⟨_, .step met (transition_idle_of_atRisk found)⟩
  · intro named
    constructor
    · intro watch pending reached tracking nothing
      rw [reached.eq_idle named nothing] at tracking
      cases tracking
    · intro watch stmt rest names reached nothing found
      have idle := reached.eq_idle named nothing
      subst idle
      exact .step reached (transition_idle_of_atRisk found)

def faultReturn : Stmt :=
  .ret [.ident ⟨"fault", {}⟩] {}

theorem reached_states_follow_names_fault :
    (∀ stmt ∈ (Block.mk [faultDeclaration, faultReturn] {}).statements,
        (atRiskNames faultTypes stmt).value ≠ some []) ∧
      Reaches faultTypes ⟨[faultDeclaration, faultReturn], {}⟩ (.tracking ⟨["fault"]⟩)
        [.stmt faultReturn] := by
  have named : ∀ stmt ∈ (Block.mk [faultDeclaration, faultReturn] {}).statements,
      (atRiskNames faultTypes stmt).value ≠ some [] := by
    decide +kernel
  exact ⟨named, ((reached_states_follow_names faultTypes _).2.2 named).2 .idle faultDeclaration _
    ["fault"] .start rfl rfl⟩

/-- The first line has a type of errors and declares nothing. -/
def hiddenFault : Block where
  stmts := [.decl ⟨.var, [.value ⟨[], some ⟨.star (.ident ⟨"Fault", {}⟩) {}, ⟨2⟩⟩, []⟩], {}⟩,
    faultDeclaration, faultReturn]
  pos := {}

/-- After a line without names a cohort without names is followed, and the error that is declared next
gets away. -/
theorem nameless_declaration_hides_fault :
    Reaches faultTypes hiddenFault .hollow [.stmt faultDeclaration, .stmt faultReturn] ∧
      checkBody faultTypes hiddenFault = none ∧
      (checkBody faultTypes ⟨[faultDeclaration, faultReturn], {}⟩).bind Expr.identName? =
        some "fault" := by
  have begun : Reaches faultTypes hiddenFault .idle (stmtNodes hiddenFault.stmts) := .start
  have hollow := begun.step rfl
  refine ⟨hollow, ?_, by decide +kernel⟩
  exact Option.isNone_iff_eq_none.mp (by decide +kernel)

end ZeroError.Analysis
