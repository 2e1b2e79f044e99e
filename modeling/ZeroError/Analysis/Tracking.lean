import ZeroError.Analysis.AtRisk
import ZeroError.Go.Children

/-!
Following zero-valued errors through a function body. At most one cohort of names is followed at a
time: it opens with a declaration, shrinks with every assignment to one of its names, and is given up
when none is left. A return of a name that is still followed is the escape that is looked for; the
walk stops there. Statements and expressions are met in the order of the text, the parts of each
after itself, and control flow plays no part.
-/

namespace ZeroError.Analysis

open ZeroError.Go

/-- Names that were declared together and still hold their zero value, in the order of their
declaration. -/
structure Cohort where
  names : List String
deriving DecidableEq, Repr

namespace Cohort

def insert (names : List String) (name : String) : List String :=
  if names.contains name then names else names ++ [name]

/-- The cohort of the given names, of which repeated ones count once. -/
def ofNames (names : List String) : Cohort :=
  ⟨names.foldl insert []⟩

def contains (cohort : Cohort) (name : String) : Bool :=
  cohort.names.contains name

def without (cohort : Cohort) (names : List String) : Cohort :=
  ⟨cohort.names.filter (fun name => !names.contains name)⟩

def isEmpty (cohort : Cohort) : Bool :=
  cohort.names.isEmpty

end Cohort

inductive Watch
  | idle
  | tracking (cohort : Cohort)
deriving DecidableEq, Repr

namespace Watch

def isTracking : Watch → Bool
  | idle => false
  | tracking _ => true

def tracked : Watch → List String
  | idle => []
  | tracking cohort => cohort.names

/-- The effect of an assignment to the given targets. Only bare identifiers count as targets. -/
def assign (watch : Watch) (targets : List Expr) : Traced Watch :=
  match watch with
  | idle => .quiet idle
  | tracking cohort =>
      let remaining := cohort.without (targets.filterMap Expr.identName?)
      if remaining.isEmpty then ⟨[.allReassigned], idle⟩ else .quiet (tracking remaining)

/-- Whether an expression is a bare identifier that is being followed. -/
def holds (watch : Watch) (expr : Expr) : Bool :=
  match watch, expr.identName? with
  | tracking cohort, some name => cohort.contains name
  | _, _ => false

def escaping (watch : Watch) (results : List Expr) : Option Expr :=
  results.find? watch.holds

end Watch

/-- How the walk stands: still going, or stopped at a returned expression. -/
inductive Step
  | going (watch : Watch)
  | escaped (expr : Expr)

def transition (table : TypeTable) : Watch → Stmt → Traced Step
  | .idle, .decl declaration =>
      (atRiskOfDecl table declaration).andThen (fun names =>
        match names with
        | some names =>
            let cohort := Cohort.ofNames names
            ⟨[.tracking cohort.names], .going (.tracking cohort)⟩
        | none => .quiet (.going .idle))
  | .tracking cohort, .assign lhs _ _ _ => ((Watch.tracking cohort).assign lhs).map .going
  | .tracking cohort, .ret results _ =>
      match (Watch.tracking cohort).escaping results with
      | some expr => .quiet (.escaped expr)
      | none => .quiet (.going (.tracking cohort))
  | watch, _ => .quiet (.going watch)

/-- The effect of a node by itself. Expressions have none. -/
def nodeTransition (table : TypeTable) (watch : Watch) : Node → Traced Step
  | .stmt stmt => transition table watch stmt
  | .expr _ => .quiet (.going watch)

def Step.proceed (next : Watch → Traced Step) : Step → Traced Step
  | .going watch => next watch
  | .escaped expr => .quiet (.escaped expr)

def walk (table : TypeTable) (watch : Watch) (node : Node) : Traced Step :=
  node.children.attach.foldl
    (fun soFar child => soFar.andThen (Step.proceed (fun watch => walk table watch child.1)))
    (nodeTransition table watch node)
termination_by sizeOf node
decreasing_by exact Node.sizeOf_children child.2

def walkAll (table : TypeTable) (start : Traced Step) (nodes : List Node) : Traced Step :=
  nodes.foldl
    (fun soFar node => soFar.andThen (Step.proceed (fun watch => walk table watch node))) start

theorem walk_eq (table : TypeTable) (watch : Watch) (node : Node) :
    walk table watch node = walkAll table (nodeTransition table watch node) node.children := by
  rw [walk, walkAll]
  exact List.foldl_attach
    (f := fun (soFar : Traced Step) (child : Node) =>
      soFar.andThen (Step.proceed (fun watch => walk table watch child)))

def Step.escaped? : Step → Option Expr
  | .going _ => none
  | .escaped expr => some expr

/-- The first returned identifier that still holds a zero-valued error, with the events of the walk
that found it. -/
def traceBody (table : TypeTable) (body : Block) : Traced (Option Expr) :=
  (walkAll table (.quiet (.going .idle)) (stmtNodes body.stmts)).map Step.escaped?

/-- The first returned identifier that still holds a zero-valued error. -/
def checkBody (table : TypeTable) (body : Block) : Option Expr :=
  (traceBody table body).value

end ZeroError.Analysis
