import ZeroError.Proofs.Flattening

/-!
Declarations of several lines. A group of lines is classified as a whole before any of its initial
values is walked; separate declarations are met one after another, and all but the first that fits
find the walk already following something. Main statement: as long as no initial value holds a
function literal, a group and its lines one by one are walked with the same events and lead to the
same verdict, whatever stands before and after them.
-/

namespace ZeroError.Go

def Node.isFuncLit : Node → Bool
  | .expr (.funcLit _ _ _ _) => true
  | _ => false

/-- Whether a function literal is evaluated as a part of the expression. -/
def Expr.holdsFuncLit (expr : Expr) : Bool :=
  (Node.expr expr).preorder.any Node.isFuncLit

/-- A declaration of a single line. -/
def Spec.declared (spec : Spec) (pos : Pos) : Stmt :=
  .decl ⟨.var, [spec], pos⟩

/-- Only a function literal has statements among its parts. -/
theorem Expr.stmt?_of_mem_children {expr : Expr} {child : Node}
    (plain : (Node.expr expr).isFuncLit = false) (member : child ∈ expr.children) :
    child.stmt? = none := by
  have values (exprs : List Expr) (inside : child ∈ exprNodes exprs) : child.stmt? = none := by
    obtain ⟨part, _, rfl⟩ := List.mem_map.mp inside
    rfl
  cases expr with
  | funcLit params results body pos => cases plain
  | compositeLit type elts pos => exact values elts member
  | paren x => exact values [x] member
  | selector x sel => exact values [x] member
  | index x position => exact values [x, position] member
  | slice x low high max =>
      simp only [children, List.mem_cons, List.mem_append] at member
      rcases member with rfl | (inside | inside) | inside
      · rfl
      · exact values low.toList inside
      · exact values high.toList inside
      · exact values max.toList inside
  | typeAssert x type => exact values [x] member
  | call callee args spread => exact values (callee :: args) member
  | star x pos => exact values [x] member
  | unary op x pos => exact values [x] member
  | binary x op y => exact values [x, y] member
  | keyValue key value => exact values [key, value] member
  | _ => cases member

private theorem Node.stmt?_of_mem_children {root child : Node} (isExpr : root.stmt? = none)
    (plain : root.isFuncLit = false) (member : child ∈ root.children) : child.stmt? = none := by
  cases root with
  | stmt s => cases isExpr
  | expr e => exact Expr.stmt?_of_mem_children plain member

private theorem Node.stmt?_of_mem_preorder {root node : Node} (isExpr : root.stmt? = none)
    (plain : ∀ other ∈ root.preorder, other.isFuncLit = false) (member : node ∈ root.preorder) :
    node.stmt? = none := by
  rw [preorder_eq] at plain member
  obtain ⟨own, parts⟩ := List.forall_mem_cons.mp plain
  rcases List.mem_cons.mp member with rfl | inner
  · exact isExpr
  · obtain ⟨child, inside, below⟩ := List.mem_flatMap.mp inner
    have childParts : ∀ other ∈ child.preorder, other.isFuncLit = false :=
      fun other deeper => parts other (List.mem_flatMap.mpr ⟨child, inside, deeper⟩)
    exact stmt?_of_mem_preorder (stmt?_of_mem_children isExpr own inside) childParts below
termination_by sizeOf root
decreasing_by exact Node.sizeOf_children inside

/-- No statement is met while values without function literals are walked. -/
theorem statementsOf_exprNodes {values : List Expr}
    (plain : ∀ value ∈ values, value.holdsFuncLit = false) :
    statementsOf (exprNodes values) = [] := by
  rw [statementsOf, List.filterMap_eq_nil_iff]
  intro node member
  obtain ⟨root, listed, below⟩ := List.mem_flatMap.mp member
  obtain ⟨value, given, rfl⟩ := List.mem_map.mp listed
  refine Node.stmt?_of_mem_preorder rfl ?_ below
  intro other inside
  exact Bool.eq_false_iff.mpr (List.any_eq_false.mp (plain value given) other inside)

theorem statementsOf_decl {tok : DeclToken} {specs : List Spec} {pos : Pos}
    (plain : ∀ spec ∈ specs, ∀ value ∈ spec.values, value.holdsFuncLit = false) :
    statementsOf [.stmt (.decl ⟨tok, specs, pos⟩)] = [.decl ⟨tok, specs, pos⟩] := by
  have parts : (Stmt.decl ⟨tok, specs, pos⟩).children = exprNodes (specs.flatMap Spec.values) :=
    (List.map_flatMap).symm
  have inert : statementsOf (exprNodes (specs.flatMap Spec.values)) = [] := by
    apply statementsOf_exprNodes
    intro value member
    obtain ⟨spec, given, inside⟩ := List.mem_flatMap.mp member
    exact plain spec given value inside
  rw [statementsOf_stmt, parts, inert]

private theorem statementsOf_declared {lines : List (Spec × Pos)}
    (plain : ∀ line ∈ lines, ∀ value ∈ line.1.values, value.holdsFuncLit = false) :
    statementsOf (stmtNodes (lines.map (fun line => line.1.declared line.2))) =
      lines.map (fun line => line.1.declared line.2) := by
  induction lines with
  | nil => rfl
  | cons line lines ih =>
      have first : statementsOf [.stmt (line.1.declared line.2)] = [line.1.declared line.2] := by
        apply statementsOf_decl
        intro spec member
        rw [List.mem_singleton.mp member]
        exact plain line List.mem_cons_self
      have rest := ih (fun other member => plain other (List.mem_cons_of_mem line member))
      rw [List.map_cons, stmtNodes, List.map_cons, ← stmtNodes, statementsOf_cons, first, rest]
      rfl

end ZeroError.Go

namespace ZeroError.Analysis

open ZeroError.Go

/-- The first line of a group is met before the others. If it fits, the walk is following its names
when the others are met, and passes them over; so does the search for a line that fits. -/
theorem transition_group_cons (table : TypeTable) (watch : Watch) (spec : Spec) (specs : List Spec)
    (pos linePos : Pos) :
    transition table watch (.decl ⟨.var, spec :: specs, pos⟩) =
      (transition table watch (spec.declared linePos)).andThen
        (Step.proceed (fun next => transition table next (.decl ⟨.var, specs, pos⟩))) := by
  cases watch with
  | tracking cohort => rfl
  | idle =>
      cases spec with
      | type spec => rfl
      | value spec =>
          simp only [transition, Spec.declared, atRiskOfDecl, atRiskOfSpecs, Traced.andThen_assoc]
          congr 1
          funext names
          cases names with
          | none => rfl
          | some names => rfl

private theorem sweep_group (table : TypeTable) (start : Traced Step) (lines : List (Spec × Pos))
    (pos : Pos) :
    sweep table start [.decl ⟨.var, lines.map Prod.fst, pos⟩] =
      sweep table start (lines.map (fun line => line.1.declared line.2)) := by
  induction lines generalizing start with
  | nil =>
      have nothing : (fun watch => transition table watch (.decl ⟨.var, [], pos⟩)) =
          fun watch => .quiet (.going watch) := by
        funext watch
        cases watch with
        | idle => rfl
        | tracking cohort => rfl
      rw [sweep_cons, List.map_nil, nothing, Step.andThen_proceed_going]
      rfl
  | cons line lines ih =>
      have first : (fun watch =>
          transition table watch (.decl ⟨.var, line.1 :: lines.map Prod.fst, pos⟩)) =
          fun watch => (transition table watch (line.1.declared line.2)).andThen
            (Step.proceed (fun next =>
              transition table next (.decl ⟨.var, lines.map Prod.fst, pos⟩))) := by
        funext watch
        exact transition_group_cons table watch line.1 (lines.map Prod.fst) pos line.2
      rw [List.map_cons, List.map_cons, sweep_cons table start (line.1.declared line.2), ← ih,
        sweep_cons, sweep_cons, first, Traced.andThen_assoc]
      simp only [Step.proceed_andThen]

/-- A group and its lines one by one are walked with the same events. -/
theorem traceBody_group (table : TypeTable) (before after : List Stmt) (lines : List (Spec × Pos))
    (pos bodyPos : Pos)
    (plain : ∀ line ∈ lines, ∀ value ∈ line.1.values, value.holdsFuncLit = false) :
    traceBody table ⟨before ++ [Stmt.decl ⟨.var, lines.map Prod.fst, pos⟩] ++ after, bodyPos⟩ =
      traceBody table
        ⟨before ++ lines.map (fun line => line.1.declared line.2) ++ after, bodyPos⟩ := by
  have around (inner : List Stmt) :
      (Block.mk (before ++ inner ++ after) bodyPos).statements =
        statementsOf (stmtNodes before) ++ statementsOf (stmtNodes inner) ++
          statementsOf (stmtNodes after) := by
    simp only [Block.statements, stmtNodes, List.map_append, statementsOf_append]
  have grouped : statementsOf (stmtNodes [.decl ⟨.var, lines.map Prod.fst, pos⟩]) =
      [.decl ⟨.var, lines.map Prod.fst, pos⟩] := by
    apply statementsOf_decl
    intro spec member
    obtain ⟨line, listed, rfl⟩ := List.mem_map.mp member
    exact plain line listed
  rw [traceBody_eq_sweep, traceBody_eq_sweep, around, around, grouped, statementsOf_declared plain]
  simp only [sweep_append, sweep_group]

/-- A declaration of any lines, of values or types in any number and order, means the same as one
declaration for each line, unless a function literal is among the initial values. -/
theorem grouped_declaration_means_separate_ones (table : TypeTable) (before after : List Stmt)
    (lines : List (Spec × Pos)) (pos bodyPos : Pos)
    (plain : ∀ line ∈ lines, ∀ value ∈ line.1.values, value.holdsFuncLit = false) :
    checkBody table ⟨before ++ [.decl ⟨.var, lines.map Prod.fst, pos⟩] ++ after, bodyPos⟩ =
      checkBody table
        ⟨before ++ lines.map (fun line => .decl ⟨.var, [line.1], line.2⟩) ++ after, bodyPos⟩ :=
  congrArg Traced.value (traceBody_group table before after lines pos bodyPos plain)

-- A literal that gives back a name of a later line is walked after the group has been classified,
-- but before that line where the lines stand alone.
example :
    let table : TypeTable :=
      ⟨[.basic "string", .named none "Fault" none [{ name := "Error", results := [⟨0⟩] }]]⟩
    let literal : Spec :=
      .value ⟨[⟨"f", {}⟩], none, [.funcLit [] [] ⟨[.ret [.ident ⟨"fault", {}⟩] {}], {}⟩ {}]⟩
    let fault : Spec := .value ⟨[⟨"fault", {}⟩], some ⟨.ident ⟨"Fault", {}⟩, ⟨1⟩⟩, []⟩
    (checkBody table ⟨[.decl ⟨.var, [literal, fault], {}⟩], {}⟩).isSome = true ∧
      (checkBody table ⟨[literal.declared {}, fault.declared {}], {}⟩).isSome = false := by
  decide +kernel

/-- A type, a line with an initial value, and two lines that leave an error at its zero value. -/
def mixedLines : List (Spec × Pos) :=
  [(.type ⟨⟨"Alias", {}⟩, ⟨.ident ⟨"string", {}⟩, ⟨0⟩⟩⟩, { line := 2 }),
    (.value ⟨[⟨"count", {}⟩], none, [.call (.ident ⟨"size", {}⟩) [.ident ⟨"items", {}⟩] false]⟩,
      { line := 3 }),
    (.value ⟨[⟨"fault", {}⟩], some ⟨.star (.ident ⟨"Fault", {}⟩) {}, ⟨2⟩⟩, []⟩, { line := 4 }),
    (.value ⟨[⟨"other", {}⟩], some ⟨.star (.ident ⟨"Fault", {}⟩) {}, ⟨2⟩⟩, []⟩, { line := 5 })]

theorem grouped_declaration_means_separate_ones_mixed :
    (∀ line ∈ mixedLines, ∀ value ∈ line.1.values, value.holdsFuncLit = false) ∧
      checkBody faultTypes
          ⟨[.empty] ++ [.decl ⟨.var, mixedLines.map Prod.fst, {}⟩] ++
            [.ret [.ident ⟨"other", {}⟩, .ident ⟨"fault", {}⟩] {}], {}⟩ =
        checkBody faultTypes
          ⟨[.empty] ++ mixedLines.map (fun line => .decl ⟨.var, [line.1], line.2⟩) ++
            [.ret [.ident ⟨"other", {}⟩, .ident ⟨"fault", {}⟩] {}], {}⟩ ∧
      (checkBody faultTypes
          ⟨[.empty] ++ [.decl ⟨.var, mixedLines.map Prod.fst, {}⟩] ++
            [.ret [.ident ⟨"other", {}⟩, .ident ⟨"fault", {}⟩] {}], {}⟩).bind Expr.identName? =
        some "fault" := by
  have plain : ∀ line ∈ mixedLines, ∀ value ∈ line.1.values, value.holdsFuncLit = false := by
    decide +kernel
  exact ⟨plain, grouped_declaration_means_separate_ones faultTypes [.empty] _ mixedLines {} {} plain,
    by decide +kernel⟩

end ZeroError.Analysis
