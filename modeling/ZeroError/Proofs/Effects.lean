import Mathlib.Data.List.Basic
import Mathlib.Data.List.Find
import ZeroError.Proofs.Walk

/-!
What the tracking takes notice of. Of the statements of a body only three kinds matter, and of each
only a part: the names that a declaration leaves at risk, the bare names on the left of an assignment,
and the bare identifiers that a return gives back. Main statements: the verdict on a body is what
these effects come to, taken in the order of the text; and the names at risk are those of the first
line without values whose type is a type of errors.
-/

namespace ZeroError.Go

def Expr.ident? : Expr → Option Ident
  | .ident name => some name
  | _ => none

private theorem Expr.eq_ident_of_ident? {expr : Expr} {name : Ident}
    (found : expr.ident? = some name) :
    expr = .ident name := by
  cases expr with
  | ident other => exact congrArg Expr.ident (Option.some.inj found)
  | _ => cases found

private theorem Expr.identName?_eq (expr : Expr) :
    expr.identName? = expr.ident?.map Ident.name := by
  cases expr with
  | ident name => rfl
  | _ => rfl

/-- The names and the type of a line that leaves its names at their zero value. -/
def Spec.zeroLine? : Spec → Option (List String × TypeId)
  | .value ⟨names, some annotation, []⟩ => some (names.map Ident.name, annotation.typeId)
  | _ => none

def Stmt.zeroLines : Stmt → List (List String × TypeId)
  | .decl ⟨.var, specs, _⟩ => specs.filterMap Spec.zeroLine?
  | _ => []

end ZeroError.Go

namespace ZeroError.Analysis

open ZeroError.Go

inductive Effect
  | opens (names : List String)
  | assigns (names : List String)
  | returns (idents : List Ident)
deriving DecidableEq, Repr

def effect? (table : TypeTable) : Stmt → Option Effect
  | .decl declaration => (atRiskOfDecl table declaration).value.map .opens
  | .assign lhs _ _ _ => some (.assigns (lhs.filterMap Expr.identName?))
  | .ret results _ => some (.returns (results.filterMap Expr.ident?))
  | _ => none

def effectsOf (table : TypeTable) (body : Block) : List Effect :=
  body.statements.filterMap (effect? table)

def Watch.release (watch : Watch) (names : List String) : Watch :=
  match watch with
  | .idle => .idle
  | .tracking cohort =>
      let remaining := cohort.without names
      if remaining.isEmpty then .idle else .tracking remaining

def Effect.step (watch : Watch) : Effect → Step
  | .opens names =>
      match watch with
      | .idle => .going (.tracking (Cohort.ofNames names))
      | .tracking cohort => .going (.tracking cohort)
  | .assigns names => .going (watch.release names)
  | .returns idents =>
      match idents.find? (fun ident => watch.tracked.contains ident.name) with
      | some ident => .escaped (.ident ident)
      | none => .going watch

def follow (watch : Watch) : List Effect → Step
  | [] => .going watch
  | effect :: effects =>
      match effect.step watch with
      | .going next => follow next effects
      | .escaped expr => .escaped expr

/-- If a change of effects and states goes through every step, it goes through to the end. -/
theorem follow_map {onEffect : Effect → Effect} {onWatch : Watch → Watch} {onExpr : Expr → Expr}
    {onStep : Step → Step} (going : ∀ watch, onStep (.going watch) = .going (onWatch watch))
    (escaped : ∀ expr, onStep (.escaped expr) = .escaped (onExpr expr))
    (steps : ∀ watch effect,
      (onEffect effect).step (onWatch watch) = onStep (Effect.step watch effect))
    (watch : Watch) (effects : List Effect) :
    follow (onWatch watch) (effects.map onEffect) = onStep (follow watch effects) := by
  induction effects generalizing watch with
  | nil => exact (going watch).symm
  | cons effect effects ih =>
      rw [List.map_cons, follow, follow, steps]
      cases effect.step watch with
      | going next =>
          rw [going]
          exact ih next
      | escaped expr => rw [escaped]

private theorem Watch.value_assign (watch : Watch) (targets : List Expr) :
    (watch.assign targets).value = watch.release (targets.filterMap Expr.identName?) := by
  cases watch with
  | idle => rfl
  | tracking cohort =>
      simp only [assign, release]
      split
      · rfl
      · rfl

private theorem Watch.holds_eq (watch : Watch) (expr : Expr) :
    watch.holds expr = expr.ident?.any (fun ident => watch.tracked.contains ident.name) := by
  unfold holds
  rw [Expr.identName?_eq]
  cases expr.ident? with
  | none =>
      cases watch with
      | idle => rfl
      | tracking cohort => rfl
  | some ident =>
      cases watch with
      | idle => rfl
      | tracking cohort => rfl

private theorem Watch.escaping_eq (watch : Watch) (results : List Expr) :
    watch.escaping results =
      ((results.filterMap Expr.ident?).find?
        (fun ident => watch.tracked.contains ident.name)).map .ident := by
  unfold escaping
  induction results with
  | nil => rfl
  | cons result results ih =>
      rw [List.find?_cons, List.filterMap_cons, holds_eq]
      cases found : result.ident? with
      | none => exact ih
      | some ident =>
          simp only [Option.any_some, List.find?_cons]
          cases watch.tracked.contains ident.name with
          | true => exact congrArg some (Expr.eq_ident_of_ident? found)
          | false => exact ih

/-- A statement does what its effect does; one without an effect leaves everything as it is. -/
theorem value_transition (table : TypeTable) (watch : Watch) (stmt : Stmt) :
    (transition table watch stmt).value =
      match effect? table stmt with
      | some effect => effect.step watch
      | none => .going watch := by
  cases stmt with
  | decl declaration =>
      simp only [effect?]
      cases watch with
      | idle =>
          simp only [transition, Traced.value_andThen]
          cases (atRiskOfDecl table declaration).value with
          | none => rfl
          | some names => rfl
      | tracking cohort =>
          cases (atRiskOfDecl table declaration).value with
          | none => rfl
          | some names => rfl
  | assign lhs tok rhs pos =>
      simp only [effect?, Effect.step, ← Watch.value_assign]
      cases watch with
      | idle => rfl
      | tracking cohort => rfl
  | ret results pos =>
      rw [value_transition_ret, Watch.escaping_eq]
      simp only [effect?, Effect.step]
      cases (results.filterMap Expr.ident?).find?
        (fun ident => watch.tracked.contains ident.name) with
      | none => rfl
      | some ident => rfl
  | _ =>
      cases watch with
      | idle => rfl
      | tracking cohort => rfl

private theorem value_sweep_eq_follow (table : TypeTable) (watch : Watch) (stmts : List Stmt) :
    (sweep table (.quiet (.going watch)) stmts).value =
      follow watch (stmts.filterMap (effect? table)) := by
  induction stmts generalizing watch with
  | nil => rfl
  | cons stmt stmts ih =>
      rw [value_sweep_cons, value_transition, List.filterMap_cons]
      cases effect? table stmt with
      | none => exact ih watch
      | some effect =>
          simp only [follow]
          cases effect.step watch with
          | going next => exact ih next
          | escaped expr => rfl

/-- The verdict on a body is what its effects come to. -/
theorem checkBody_eq_follow (table : TypeTable) (body : Block) :
    checkBody table body = (follow .idle (effectsOf table body)).escaped? := by
  rw [checkBody_eq_sweep, value_sweep_eq_follow]
  rfl

/-- Whether variables of a type are errors as long as they have their zero value. -/
def isErrorType (table : TypeTable) (id : TypeId) : Bool :=
  match table.resolve id with
  | none => false
  | some facts =>
      match errorTarget table facts with
      | none => false
      | some (target, throughPointer) => isErrorCapable target throughPointer

private theorem value_atRiskOfType (table : TypeTable) (id : TypeId) (names : List String) :
    (atRiskOfType table id names).value = if isErrorType table id then some names else none := by
  unfold atRiskOfType isErrorType
  cases table.resolve id with
  | none => rfl
  | some facts =>
      cases targeted : errorTarget table facts with
      | none => simp only [targeted]; rfl
      | some pair =>
          obtain ⟨target, throughPointer⟩ := pair
          simp only [targeted]
          split
          · rfl
          · rfl

private theorem value_atRiskOfSpec (table : TypeTable) (spec : ValueSpec) :
    (atRiskOfSpec table spec).value =
      ((Spec.value spec).zeroLine?.filter (fun line => isErrorType table line.2)).map Prod.fst := by
  obtain ⟨names, type, values⟩ := spec
  cases type with
  | none => rfl
  | some type =>
      cases values with
      | cons value values => rfl
      | nil =>
          simp only [atRiskOfSpec, Spec.zeroLine?, value_atRiskOfType, Option.filter_some]
          split
          · rfl
          · rfl

theorem value_atRiskOfSpecs (table : TypeTable) (specs : List Spec) :
    (atRiskOfSpecs table specs).value =
      ((specs.filterMap Spec.zeroLine?).find? (fun line => isErrorType table line.2)).map
        Prod.fst := by
  induction specs with
  | nil => rfl
  | cons spec specs ih =>
      cases spec with
      | type spec => exact ih
      | value spec =>
          rw [atRiskOfSpecs, Traced.value_andThen, value_atRiskOfSpec, List.filterMap_cons]
          cases (Spec.value spec).zeroLine? with
          | none => exact ih
          | some line =>
              simp only [Option.filter_some, List.find?_cons]
              cases isErrorType table line.2 with
              | true => rfl
              | false => exact ih

/-- The first line that gives a type of errors and no values decides. -/
theorem value_atRiskOfDecl (table : TypeTable) (declaration : GenDecl) :
    (atRiskOfDecl table declaration).value =
      ((Stmt.decl declaration).zeroLines.find? (fun line => isErrorType table line.2)).map
        Prod.fst := by
  obtain ⟨tok, specs, pos⟩ := declaration
  cases tok with
  | var => exact value_atRiskOfSpecs table specs
  | const => rfl
  | type => rfl

private theorem effect?_congr {table other : TypeTable} {stmt : Stmt}
    (agree : ∀ line ∈ stmt.zeroLines, isErrorType other line.2 = isErrorType table line.2) :
    effect? other stmt = effect? table stmt := by
  cases stmt with
  | decl declaration =>
      have first : (Stmt.decl declaration).zeroLines.find? (fun line => isErrorType other line.2) =
          (Stmt.decl declaration).zeroLines.find? (fun line => isErrorType table line.2) :=
        List.find?_congr agree
      rw [effect?, effect?, value_atRiskOfDecl, value_atRiskOfDecl, first]
  | _ => rfl

/-- Of the table only the answers about declared types matter. -/
theorem checkBody_congr {table other : TypeTable} {body : Block}
    (agree : ∀ stmt ∈ body.statements, ∀ line ∈ stmt.zeroLines,
      isErrorType other line.2 = isErrorType table line.2) :
    checkBody other body = checkBody table body := by
  have effects : effectsOf other body = effectsOf table body :=
    List.filterMap_congr (fun stmt member => effect?_congr (agree stmt member))
  rw [checkBody_eq_follow, checkBody_eq_follow, effects]

end ZeroError.Analysis
