import ZeroError.Proofs.Walk

/-!
Control structure plays no part in the verdict on a body. Only declarations, assignments and returns
can change the state of a walk; any other statement may be replaced by its parts, each expression
standing as a statement of its own. Main statement: the verdict is what one transition after the
other makes of the statements of those three kinds, and taking a wrapper off changes nothing.
-/

namespace ZeroError.Go

/-- Whether a statement by itself is of no interest to a walk. -/
def Stmt.isInert : Stmt → Bool
  | .decl _ => false
  | .assign _ _ _ _ => false
  | .ret _ _ => false
  | _ => true

/-- The declarations, assignments and returns among some statements. -/
def noted (stmts : List Stmt) : List Stmt :=
  stmts.filter (fun stmt => !stmt.isInert)

/-- A node as a statement; an expression becomes the statement that evaluates it. -/
def Node.asStmt : Node → Stmt
  | .stmt s => s
  | .expr e => .expr e

theorem noted_append (first second : List Stmt) :
    noted (first ++ second) = noted first ++ noted second :=
  List.filter_append first second

theorem noted_cons_of_isInert {stmt : Stmt} (inert : stmt.isInert = true) (stmts : List Stmt) :
    noted (stmt :: stmts) = noted stmts :=
  List.filter_cons_of_neg (by rw [inert]; decide)

theorem statementsOf_append (first second : List Node) :
    statementsOf (first ++ second) = statementsOf first ++ statementsOf second := by
  simp only [statementsOf, List.flatMap_append, List.filterMap_append]

private theorem noted_asStmt (node : Node) :
    noted (statementsOf [.stmt node.asStmt]) = noted (statementsOf [node]) := by
  cases node with
  | stmt s => rfl
  | expr e =>
      rw [Node.asStmt, statementsOf_stmt]
      exact noted_cons_of_isInert rfl (statementsOf [.expr e])

/-- Expressions that are made statements add nothing of interest. -/
theorem noted_map_asStmt (nodes : List Node) :
    noted (statementsOf (stmtNodes (nodes.map Node.asStmt))) = noted (statementsOf nodes) := by
  induction nodes with
  | nil => rfl
  | cons node nodes ih =>
      rw [List.map_cons, stmtNodes, List.map_cons, ← stmtNodes, statementsOf_cons,
        statementsOf_cons node, noted_append, noted_append, noted_asStmt, ih]

/-- A wrapper and its parts hold the same statements of interest. -/
theorem noted_statements_unwrap {stmt : Stmt} (inert : stmt.isInert = true)
    (before after : List Stmt) (pos : Pos) :
    noted (Block.mk (before ++ [stmt] ++ after) pos).statements =
      noted (Block.mk (before ++ stmt.children.map Node.asStmt ++ after) pos).statements := by
  have wrapped : noted (statementsOf (stmtNodes [stmt])) =
      noted (statementsOf (stmtNodes (stmt.children.map Node.asStmt))) := by
    rw [noted_map_asStmt, stmtNodes, List.map_singleton, statementsOf_stmt,
      noted_cons_of_isInert inert]
  have around (inner : List Stmt) :
      noted (Block.mk (before ++ inner ++ after) pos).statements =
        noted (statementsOf (stmtNodes before)) ++ noted (statementsOf (stmtNodes inner)) ++
          noted (statementsOf (stmtNodes after)) := by
    simp only [Block.statements, stmtNodes, List.map_append, statementsOf_append, noted_append]
  rw [around, around, wrapped]

end ZeroError.Go

namespace ZeroError.Analysis

open ZeroError.Go

/-- One transition after whatever came before; an escape stays. -/
def Step.advance (table : TypeTable) : Step → Stmt → Step
  | .going watch, stmt => (transition table watch stmt).value
  | .escaped expr, _ => .escaped expr

private theorem transition_of_isInert {stmt : Stmt} (inert : stmt.isInert = true)
    (table : TypeTable)
    (watch : Watch) : transition table watch stmt = .quiet (.going watch) := by
  cases stmt with
  | decl declaration => cases inert
  | assign lhs tok rhs pos => cases inert
  | ret results pos => cases inert
  | _ => cases watch <;> rfl

private theorem Step.advance_of_isInert {stmt : Stmt} (inert : stmt.isInert = true)
    (table : TypeTable)
    (step : Step) : step.advance table stmt = step := by
  cases step with
  | going watch => rw [advance, transition_of_isInert inert, Traced.value_quiet]
  | escaped expr => rfl

private theorem value_sweep_eq_foldl (table : TypeTable) (start : Traced Step) (stmts : List Stmt) :
    (sweep table start stmts).value = stmts.foldl (Step.advance table) start.value := by
  induction stmts generalizing start with
  | nil => rfl
  | cons stmt stmts ih =>
      rw [sweep_cons, ih, List.foldl_cons, Traced.value_andThen]
      cases start.value with
      | going watch => rfl
      | escaped expr => rfl

private theorem foldl_advance_noted (table : TypeTable) (step : Step) (stmts : List Stmt) :
    (noted stmts).foldl (Step.advance table) step = stmts.foldl (Step.advance table) step := by
  rw [noted, List.foldl_filter]
  congr 1
  funext step stmt
  cases inert : stmt.isInert with
  | false => rfl
  | true => exact (step.advance_of_isInert inert table).symm

private theorem checkBody_eq_foldl_noted (table : TypeTable) (body : Block) :
    checkBody table body =
      ((noted body.statements).foldl (Step.advance table) (.going .idle)).escaped? := by
  rw [checkBody_eq_sweep, value_sweep_eq_foldl, foldl_advance_noted]
  rfl

/-- The verdict on a body is what its declarations, assignments and returns come to, taken in the
order of the text up to the first escape. A statement of any other kind may be replaced by its
parts. -/
theorem control_structure_is_transparent (table : TypeTable) :
    (∀ body : Block, checkBody table body =
      ((noted body.statements).foldl (Step.advance table) (.going .idle)).escaped?) ∧
    (∀ (before after : List Stmt) (stmt : Stmt) (pos : Pos), stmt.isInert = true →
      checkBody table ⟨before ++ [stmt] ++ after, pos⟩ =
        checkBody table ⟨before ++ stmt.children.map Node.asStmt ++ after, pos⟩) := by
  constructor
  · exact checkBody_eq_foldl_noted table
  · intro before after stmt pos inert
    rw [checkBody_eq_foldl_noted, checkBody_eq_foldl_noted, noted_statements_unwrap inert]

/-- A string, and a type of errors that is a pointer. -/
def faultTypes : TypeTable :=
  ⟨[.basic "string", .named (some "a") "Fault" none [{ name := "Error", results := [⟨0⟩] }],
    .pointer ⟨1⟩]⟩

def faultDeclaration : Stmt :=
  .decl ⟨.var, [.value ⟨[⟨"fault", {}⟩], some ⟨.star (.ident ⟨"Fault", {}⟩) {}, ⟨2⟩⟩, []⟩], {}⟩

/-- A condition that calls a function literal, which gives the variable back. -/
def conditionalReturn : Stmt :=
  .ifElse none
    (.call (.funcLit [] [] ⟨[.ret [.ident ⟨"fault", {}⟩] {}], {}⟩ {}) [] false)
    ⟨[.assign [.ident ⟨"fault", {}⟩] "=" [.ident ⟨"other", {}⟩] {}], {}⟩ none {}

theorem control_structure_is_transparent_conditional :
    conditionalReturn.isInert = true ∧
    checkBody faultTypes ⟨[faultDeclaration] ++ [conditionalReturn] ++ [.empty], {}⟩ =
      checkBody faultTypes
        ⟨[faultDeclaration] ++ conditionalReturn.children.map Node.asStmt ++ [.empty], {}⟩ ∧
    (checkBody faultTypes ⟨[faultDeclaration] ++ [conditionalReturn] ++ [.empty], {}⟩).bind
      Expr.identName? = some "fault" :=
  ⟨rfl,
    (control_structure_is_transparent faultTypes).2 [faultDeclaration] [.empty] conditionalReturn {}
      rfl,
    by decide +kernel⟩

end ZeroError.Analysis
