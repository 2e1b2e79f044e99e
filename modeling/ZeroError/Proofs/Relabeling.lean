import ZeroError.Proofs.Effects
import ZeroError.Proofs.Flattening

/-!
Other labels for the same syntax. Types get other numbers and variables other names; everything else
stays as it is. Main statements: if distinct names stay distinct and the numbers keep telling the types
of errors, the verdict on a body is the same up to the new names; so with new names alone what escapes
is the same identifier at the same place, under its new name.
-/

namespace ZeroError.Go

/-- New numbers for types, and new names for identifiers in expressions and for declared
variables. -/
structure Relabeling where
  number : TypeId → TypeId := id
  name : String → String := id

def Ident.rename (name : String → String) (ident : Ident) : Ident :=
  ⟨name ident.name, ident.pos⟩

mutual

def Expr.relabel (labels : Relabeling) : Expr → Expr
  | .ident name => .ident (name.rename labels.name)
  | .basicLit lit value pos => .basicLit lit value pos
  | .compositeLit type elts pos =>
      .compositeLit (relabelExpr? labels type) (relabelExprs labels elts) pos
  | .funcLit params results body pos =>
      .funcLit (relabelFields labels params) (relabelFields labels results) (body.relabel labels) pos
  | .paren x => .paren (x.relabel labels)
  | .selector x sel => .selector (x.relabel labels) sel
  | .index x position => .index (x.relabel labels) (position.relabel labels)
  | .slice x low high max =>
      .slice (x.relabel labels) (relabelExpr? labels low) (relabelExpr? labels high)
        (relabelExpr? labels max)
  | .typeAssert x type => .typeAssert (x.relabel labels) (relabelExpr? labels type)
  | .call callee args spread => .call (callee.relabel labels) (relabelExprs labels args) spread
  | .star x pos => .star (x.relabel labels) pos
  | .unary op x pos => .unary op (x.relabel labels) pos
  | .binary x op y => .binary (x.relabel labels) op (y.relabel labels)
  | .keyValue key value => .keyValue (key.relabel labels) (value.relabel labels)
  | .arrayType len elt => .arrayType (relabelExpr? labels len) (elt.relabel labels)
  | .mapType key value => .mapType (key.relabel labels) (value.relabel labels)
  | .chanType dir value => .chanType dir (value.relabel labels)
  | .funcType params results => .funcType (relabelFields labels params) (relabelFields labels results)
  | .structType fields => .structType (relabelFields labels fields)
  | .interfaceType methods => .interfaceType (relabelFields labels methods)
  | .ellipsis elt => .ellipsis (relabelExpr? labels elt)
  | .bad pos => .bad pos

def relabelExprs (labels : Relabeling) : List Expr → List Expr
  | [] => []
  | expr :: exprs => expr.relabel labels :: relabelExprs labels exprs

def relabelExpr? (labels : Relabeling) : Option Expr → Option Expr
  | none => none
  | some expr => some (expr.relabel labels)

def TypeExpr.relabel (labels : Relabeling) : TypeExpr → TypeExpr
  | ⟨expr, typeId⟩ => ⟨expr.relabel labels, labels.number typeId⟩

def relabelTypeExpr? (labels : Relabeling) : Option TypeExpr → Option TypeExpr
  | none => none
  | some type => some (type.relabel labels)

def Field.relabel (labels : Relabeling) : Field → Field
  | ⟨names, type⟩ => ⟨names, type.relabel labels⟩

def relabelFields (labels : Relabeling) : List Field → List Field
  | [] => []
  | field :: fields => field.relabel labels :: relabelFields labels fields

def Block.relabel (labels : Relabeling) : Block → Block
  | ⟨stmts, pos⟩ => ⟨relabelStmts labels stmts, pos⟩

def Stmt.relabel (labels : Relabeling) : Stmt → Stmt
  | .decl declaration => .decl (declaration.relabel labels)
  | .assign lhs tok rhs pos => .assign (relabelExprs labels lhs) tok (relabelExprs labels rhs) pos
  | .ret results pos => .ret (relabelExprs labels results) pos
  | .expr x => .expr (x.relabel labels)
  | .block body => .block (body.relabel labels)
  | .ifElse init cond body otherwise pos =>
      .ifElse (relabelStmt? labels init) (cond.relabel labels) (body.relabel labels)
        (relabelStmt? labels otherwise) pos
  | .forLoop init cond post body pos =>
      .forLoop (relabelStmt? labels init) (relabelExpr? labels cond) (relabelStmt? labels post)
        (body.relabel labels) pos
  | .rangeLoop key value define x body pos =>
      .rangeLoop (relabelExpr? labels key) (relabelExpr? labels value) define (x.relabel labels)
        (body.relabel labels) pos
  | .switch init tag clauses pos =>
      .switch (relabelStmt? labels init) (relabelExpr? labels tag) (relabelCases labels clauses) pos
  | .typeSwitch init guarded clauses pos =>
      .typeSwitch (relabelStmt? labels init) (guarded.relabel labels) (relabelCases labels clauses)
        pos
  | .select clauses pos => .select (relabelComms labels clauses) pos
  | .labeled label target => .labeled label (target.relabel labels)
  | .go call => .go (call.relabel labels)
  | .defer call => .defer (call.relabel labels)
  | .incDec x inc => .incDec (x.relabel labels) inc
  | .send chan value => .send (chan.relabel labels) (value.relabel labels)
  | .branch tok label => .branch tok label
  | .empty => .empty

def relabelStmts (labels : Relabeling) : List Stmt → List Stmt
  | [] => []
  | stmt :: stmts => stmt.relabel labels :: relabelStmts labels stmts

def relabelStmt? (labels : Relabeling) : Option Stmt → Option Stmt
  | none => none
  | some stmt => some (stmt.relabel labels)

def GenDecl.relabel (labels : Relabeling) : GenDecl → GenDecl
  | ⟨tok, specs, pos⟩ => ⟨tok, relabelSpecs labels specs, pos⟩

def Spec.relabel (labels : Relabeling) : Spec → Spec
  | .value spec => .value (spec.relabel labels)
  | .type spec => .type (spec.relabel labels)

def relabelSpecs (labels : Relabeling) : List Spec → List Spec
  | [] => []
  | spec :: specs => spec.relabel labels :: relabelSpecs labels specs

def ValueSpec.relabel (labels : Relabeling) : ValueSpec → ValueSpec
  | ⟨names, type, values⟩ =>
      ⟨names.map (Ident.rename labels.name), relabelTypeExpr? labels type,
        relabelExprs labels values⟩

def TypeSpec.relabel (labels : Relabeling) : TypeSpec → TypeSpec
  | ⟨name, type⟩ => ⟨name, type.relabel labels⟩

def CaseClause.relabel (labels : Relabeling) : CaseClause → CaseClause
  | ⟨list, body, pos⟩ => ⟨relabelExprs labels list, relabelStmts labels body, pos⟩

def relabelCases (labels : Relabeling) : List CaseClause → List CaseClause
  | [] => []
  | clause :: clauses => clause.relabel labels :: relabelCases labels clauses

def CommClause.relabel (labels : Relabeling) : CommClause → CommClause
  | ⟨comm, body, pos⟩ => ⟨relabelStmt? labels comm, relabelStmts labels body, pos⟩

def relabelComms (labels : Relabeling) : List CommClause → List CommClause
  | [] => []
  | clause :: clauses => clause.relabel labels :: relabelComms labels clauses

end

section

variable (labels : Relabeling)

@[simp] theorem relabelExprs_eq_map (exprs : List Expr) :
    relabelExprs labels exprs = exprs.map (Expr.relabel labels) :=
  eq_map_of_cons rfl (fun _ _ => rfl) exprs

@[simp] theorem relabelExpr?_eq_map (expr : Option Expr) :
    relabelExpr? labels expr = expr.map (Expr.relabel labels) := by
  cases expr with
  | none => rw [relabelExpr?, Option.map_none]
  | some expr => rw [relabelExpr?, Option.map_some]

@[simp] theorem relabelStmts_eq_map (stmts : List Stmt) :
    relabelStmts labels stmts = stmts.map (Stmt.relabel labels) :=
  eq_map_of_cons rfl (fun _ _ => rfl) stmts

@[simp] theorem relabelStmt?_eq_map (stmt : Option Stmt) :
    relabelStmt? labels stmt = stmt.map (Stmt.relabel labels) := by
  cases stmt with
  | none => rw [relabelStmt?, Option.map_none]
  | some stmt => rw [relabelStmt?, Option.map_some]

@[simp] theorem relabelSpecs_eq_map (specs : List Spec) :
    relabelSpecs labels specs = specs.map (Spec.relabel labels) :=
  eq_map_of_cons rfl (fun _ _ => rfl) specs

@[simp] theorem relabelCases_eq_map (clauses : List CaseClause) :
    relabelCases labels clauses = clauses.map (CaseClause.relabel labels) :=
  eq_map_of_cons rfl (fun _ _ => rfl) clauses

@[simp] theorem relabelComms_eq_map (clauses : List CommClause) :
    relabelComms labels clauses = clauses.map (CommClause.relabel labels) :=
  eq_map_of_cons rfl (fun _ _ => rfl) clauses

def Node.relabel : Node → Node
  | .stmt s => .stmt (s.relabel labels)
  | .expr e => .expr (e.relabel labels)

theorem Node.relabel_eq_map :
    Node.relabel labels = Node.map (Stmt.relabel labels) (Expr.relabel labels) := by
  funext node
  cases node with
  | stmt s => rfl
  | expr e => rfl

theorem Block.stmts_relabel (body : Block) :
    (body.relabel labels).stmts = body.stmts.map (Stmt.relabel labels) := by
  obtain ⟨stmts, pos⟩ := body
  exact relabelStmts_eq_map labels stmts

private theorem GenDecl.specs_relabel (declaration : GenDecl) :
    (declaration.relabel labels).specs = declaration.specs.map (Spec.relabel labels) := by
  obtain ⟨tok, specs, pos⟩ := declaration
  exact relabelSpecs_eq_map labels specs

private theorem Spec.values_relabel (spec : Spec) :
    (spec.relabel labels).values = spec.values.map (Expr.relabel labels) := by
  cases spec with
  | value spec =>
      obtain ⟨names, type, values⟩ := spec
      exact relabelExprs_eq_map labels values
  | type spec => rfl

private theorem CaseClause.list_relabel (clause : CaseClause) :
    (clause.relabel labels).list = clause.list.map (Expr.relabel labels) := by
  obtain ⟨list, body, pos⟩ := clause
  exact relabelExprs_eq_map labels list

private theorem CaseClause.body_relabel (clause : CaseClause) :
    (clause.relabel labels).body = clause.body.map (Stmt.relabel labels) := by
  obtain ⟨list, body, pos⟩ := clause
  exact relabelStmts_eq_map labels body

private theorem CommClause.comm_relabel (clause : CommClause) :
    (clause.relabel labels).comm = clause.comm.map (Stmt.relabel labels) := by
  obtain ⟨comm, body, pos⟩ := clause
  exact relabelStmt?_eq_map labels comm

private theorem CommClause.body_relabel (clause : CommClause) :
    (clause.relabel labels).body = clause.body.map (Stmt.relabel labels) := by
  obtain ⟨comm, body, pos⟩ := clause
  exact relabelStmts_eq_map labels body

private theorem Expr.children_relabel (expr : Expr) :
    (expr.relabel labels).children = expr.children.map (Node.relabel labels) := by
  rw [Node.relabel_eq_map]
  cases expr <;>
    simp only [Expr.relabel, Expr.children, relabelExprs_eq_map, relabelExpr?_eq_map,
      Block.stmts_relabel, map_exprNodes, map_stmtNodes, map_exprNode?, List.map_append,
      List.map_cons, List.map_nil, Node.map]

private theorem Stmt.children_relabel (stmt : Stmt) :
    (stmt.relabel labels).children = stmt.children.map (Node.relabel labels) := by
  rw [Node.relabel_eq_map]
  cases stmt <;>
    simp only [Stmt.relabel, Stmt.children, relabelExprs_eq_map, relabelExpr?_eq_map,
      relabelStmt?_eq_map, relabelCases_eq_map, relabelComms_eq_map, Block.stmts_relabel,
      GenDecl.specs_relabel, Spec.values_relabel, CaseClause.list_relabel, CaseClause.body_relabel,
      CommClause.comm_relabel, CommClause.body_relabel, map_exprNodes, map_stmtNodes,
      map_exprNode?, map_stmtNode?, List.flatMap_map, List.map_flatMap, List.map_append,
      List.map_cons, List.map_nil, Node.map]

private theorem Node.children_relabel (node : Node) :
    (node.relabel labels).children = node.children.map (Node.relabel labels) := by
  cases node with
  | stmt s => exact Stmt.children_relabel labels s
  | expr e => exact Expr.children_relabel labels e

theorem Block.statements_relabel (body : Block) :
    (body.relabel labels).statements = body.statements.map (Stmt.relabel labels) := by
  have parts := Node.children_relabel labels
  rw [Node.relabel_eq_map] at parts
  exact Block.statements_map parts (Block.stmts_relabel labels body)

end

def relabelLine (labels : Relabeling) (line : List String × TypeId) : List String × TypeId :=
  (line.1.map labels.name, labels.number line.2)

private theorem Spec.zeroLine?_relabel (labels : Relabeling) (spec : Spec) :
    (spec.relabel labels).zeroLine? = spec.zeroLine?.map (relabelLine labels) := by
  cases spec with
  | type spec => rfl
  | value spec =>
      obtain ⟨names, type, values⟩ := spec
      cases type with
      | none => rfl
      | some type =>
          cases values with
          | cons value values => rfl
          | nil =>
              obtain ⟨expr, typeId⟩ := type
              simp only [Spec.relabel, ValueSpec.relabel, relabelTypeExpr?, TypeExpr.relabel,
                relabelExprs, zeroLine?, Option.map_some, relabelLine, List.map_map]
              rfl

private theorem Stmt.zeroLines_relabel (labels : Relabeling) (stmt : Stmt) :
    (stmt.relabel labels).zeroLines = stmt.zeroLines.map (relabelLine labels) := by
  cases stmt with
  | decl declaration =>
      obtain ⟨tok, specs, pos⟩ := declaration
      cases tok with
      | var =>
          simp only [Stmt.relabel, GenDecl.relabel, zeroLines, relabelSpecs_eq_map]
          rw [List.filterMap_map, List.map_filterMap]
          congr 1
          funext spec
          exact Spec.zeroLine?_relabel labels spec
      | const => rfl
      | type => rfl
  | _ => rfl

private theorem Expr.ident?_relabel (labels : Relabeling) (expr : Expr) :
    (expr.relabel labels).ident? = expr.ident?.map (Ident.rename labels.name) := by
  cases expr with
  | ident name => rfl
  | _ => rfl

private theorem Expr.identName?_relabel (labels : Relabeling) (expr : Expr) :
    (expr.relabel labels).identName? = expr.identName?.map labels.name := by
  cases expr with
  | ident name => rfl
  | _ => rfl

end ZeroError.Go

namespace ZeroError.Analysis

open ZeroError.Go

def Effect.rename (name : String → String) : Effect → Effect
  | .opens names => .opens (names.map name)
  | .assigns names => .assigns (names.map name)
  | .returns idents => .returns (idents.map (Ident.rename name))

/-- The first line with a type of errors is the same after relabeling, if the new numbers in the
other table stand for types of errors where the old ones do. -/
theorem find?_zeroLines_relabel {labels : Relabeling} {table other : TypeTable}
    {lines : List (List String × TypeId)}
    (agree : ∀ line ∈ lines, isErrorType other (labels.number line.2) = isErrorType table line.2) :
    (lines.map (relabelLine labels)).find? (fun line => isErrorType other line.2) =
      (lines.find? (fun line => isErrorType table line.2)).map (relabelLine labels) := by
  induction lines with
  | nil => rfl
  | cons line lines ih =>
      rw [List.map_cons, List.find?_cons, List.find?_cons]
      have first : isErrorType other (relabelLine labels line).2 = isErrorType table line.2 :=
        agree line List.mem_cons_self
      rw [first]
      cases isErrorType table line.2 with
      | true => rfl
      | false => exact ih (fun later member => agree later (List.mem_cons_of_mem line member))

private theorem effect?_relabel {labels : Relabeling} {table other : TypeTable} {stmt : Stmt}
    (agree : ∀ line ∈ stmt.zeroLines,
      isErrorType other (labels.number line.2) = isErrorType table line.2) :
    effect? other (stmt.relabel labels) = (effect? table stmt).map (Effect.rename labels.name) := by
  cases stmt with
  | decl declaration =>
      change (atRiskOfDecl other (declaration.relabel labels)).value.map Effect.opens = _
      have lines := Stmt.zeroLines_relabel labels (.decl declaration)
      rw [Stmt.relabel] at lines
      rw [effect?, value_atRiskOfDecl, value_atRiskOfDecl, lines, find?_zeroLines_relabel agree]
      cases (Stmt.decl declaration).zeroLines.find? (fun line => isErrorType table line.2) with
      | none => rfl
      | some line => rfl
  | assign lhs tok rhs pos =>
      simp only [Stmt.relabel, effect?, relabelExprs_eq_map, Option.map_some, Effect.rename,
        List.filterMap_map, List.map_filterMap, Function.comp_def, Expr.identName?_relabel]
  | ret results pos =>
      simp only [Stmt.relabel, effect?, relabelExprs_eq_map, Option.map_some, Effect.rename,
        List.filterMap_map, List.map_filterMap, Function.comp_def, Expr.ident?_relabel]
  | _ => rfl

private theorem effectsOf_relabel {labels : Relabeling} {table other : TypeTable} {body : Block}
    (agree : ∀ stmt ∈ body.statements, ∀ line ∈ stmt.zeroLines,
      isErrorType other (labels.number line.2) = isErrorType table line.2) :
    effectsOf other (body.relabel labels) =
      (effectsOf table body).map (Effect.rename labels.name) := by
  unfold effectsOf
  rw [Block.statements_relabel, List.filterMap_map, List.map_filterMap]
  apply List.filterMap_congr
  intro stmt member
  exact effect?_relabel (agree stmt member)

def Cohort.rename (name : String → String) (cohort : Cohort) : Cohort :=
  ⟨cohort.names.map name⟩

def Watch.rename (name : String → String) : Watch → Watch
  | .idle => .idle
  | .tracking cohort => .tracking (cohort.rename name)

def Step.relabel (labels : Relabeling) : Step → Step
  | .going watch => .going (watch.rename labels.name)
  | .escaped expr => .escaped (expr.relabel labels)

section

variable {name : String → String} (distinct : Function.Injective name)

include distinct

theorem contains_map_name (names : List String) (other : String) :
    (names.map name).contains (name other) = names.contains other := by
  rw [Bool.eq_iff_iff, List.contains_iff_mem, List.contains_iff_mem]
  exact List.mem_map_of_injective distinct

private theorem Cohort.ofNames_map (names : List String) :
    ofNames (names.map name) = (ofNames names).rename name := by
  have started : ∀ start : List String,
      (names.map name).foldl insert (start.map name) = (names.foldl insert start).map name := by
    induction names with
    | nil => intro start; rfl
    | cons first names ih =>
        intro start
        have inserted : insert (start.map name) (name first) = (insert start first).map name := by
          unfold insert
          rw [contains_map_name distinct]
          by_cases present : start.contains first = true
          · rw [if_pos present, if_pos present]
          · rw [if_neg present, if_neg present, List.map_append]
            rfl
        rw [List.map_cons, List.foldl_cons, List.foldl_cons, inserted]
        exact ih (insert start first)
  exact congrArg Cohort.mk (started [])

private theorem Cohort.without_map (cohort : Cohort) (names : List String) :
    (cohort.rename name).without (names.map name) = (cohort.without names).rename name := by
  unfold without rename
  rw [List.filter_map]
  simp only [Function.comp_def, contains_map_name distinct]

private theorem Watch.release_map (watch : Watch) (names : List String) :
    (watch.rename name).release (names.map name) = (watch.release names).rename name := by
  cases watch with
  | idle => rfl
  | tracking cohort =>
      simp only [rename, release, Cohort.without_map distinct]
      have same : ((cohort.without names).rename name).isEmpty =
          (cohort.without names).isEmpty := List.isEmpty_map
      rw [same]
      cases (cohort.without names).isEmpty with
      | true => rfl
      | false => rfl

private theorem Watch.find?_tracked_map (watch : Watch) (idents : List Ident) :
    (idents.map (Ident.rename name)).find?
        (fun ident => (watch.rename name).tracked.contains ident.name) =
      (idents.find? (fun ident => watch.tracked.contains ident.name)).map (Ident.rename name) := by
  have tracked : (watch.rename name).tracked = watch.tracked.map name := by
    cases watch with
    | idle => rfl
    | tracking cohort => rfl
  rw [tracked, List.find?_map]
  simp only [Function.comp_def, Ident.rename, contains_map_name distinct]

end

private theorem Effect.step_rename {labels : Relabeling} (distinct : Function.Injective labels.name)
    (watch : Watch) (effect : Effect) :
    (effect.rename labels.name).step (watch.rename labels.name) =
      (effect.step watch).relabel labels := by
  cases effect with
  | opens names =>
      cases watch with
      | idle =>
          simp only [rename, Watch.rename, step, Cohort.ofNames_map distinct, Step.relabel]
      | tracking cohort => rfl
  | assigns names =>
      simp only [rename, step, Watch.release_map distinct, Step.relabel]
  | returns idents =>
      simp only [rename, step, Watch.find?_tracked_map distinct]
      cases idents.find? (fun ident => watch.tracked.contains ident.name) with
      | none => rfl
      | some ident => rfl

theorem follow_rename {labels : Relabeling} (distinct : Function.Injective labels.name)
    (watch : Watch) (effects : List Effect) :
    follow (watch.rename labels.name) (effects.map (Effect.rename labels.name)) =
      (follow watch effects).relabel labels :=
  follow_map (fun _ => rfl) (fun _ => rfl) (Effect.step_rename distinct) watch effects

/-- What escapes from a relabeled body is what escapes from the body, under its new name. -/
theorem checkBody_relabel {labels : Relabeling} {table other : TypeTable} {body : Block}
    (distinct : Function.Injective labels.name)
    (agree : ∀ stmt ∈ body.statements, ∀ line ∈ stmt.zeroLines,
      isErrorType other (labels.number line.2) = isErrorType table line.2) :
    checkBody other (body.relabel labels) = (checkBody table body).map (Expr.relabel labels) := by
  have followed : follow .idle ((effectsOf table body).map (Effect.rename labels.name)) =
      (follow .idle (effectsOf table body)).relabel labels :=
    follow_rename distinct .idle (effectsOf table body)
  rw [checkBody_eq_follow, checkBody_eq_follow, effectsOf_relabel agree, followed]
  cases follow .idle (effectsOf table body) with
  | going watch => rfl
  | escaped expr => rfl

/-- Names matter only as far as they are equal. If distinct names stay distinct, something escapes from
the renamed body exactly if something escapes from the body, and it is the same identifier under its
new name, at the same place. -/
theorem checkBody_rename (table : TypeTable) (body : Block) (name : String → String)
    (distinct : Function.Injective name) :
    (checkBody table (body.relabel { name := name }) = none ↔ checkBody table body = none) ∧
    ∀ expr, checkBody table body = some expr →
      ∃ ident, expr = .ident ident ∧
        checkBody table (body.relabel { name := name }) =
          some (.ident ⟨name ident.name, ident.pos⟩) := by
  have renamed : checkBody table (body.relabel { name := name }) =
      (checkBody table body).map (Expr.relabel { name := name }) :=
    checkBody_relabel distinct (fun _stmt _member _line _declared => rfl)
  constructor
  · rw [renamed, Option.map_eq_none_iff]
  · intro expr escaped
    obtain ⟨ident, rfl⟩ := checkBody_ident escaped
    refine ⟨ident, rfl, ?_⟩
    rw [renamed, escaped]
    rfl

def underscored (name : String) : String :=
  name ++ "_"

theorem checkBody_rename_underscored :
    Function.Injective underscored ∧
      (checkBody faultTypes ⟨[faultDeclaration, conditionalReturn], {}⟩).bind Expr.identName? =
        some "fault" ∧
      (checkBody faultTypes ((Block.mk [faultDeclaration, conditionalReturn] {}).relabel
        { name := underscored })).bind Expr.identName? = some "fault_" := by
  have distinct : Function.Injective underscored := by
    intro first second same
    exact (String.append_left_inj "_").mp same
  have before : (checkBody faultTypes ⟨[faultDeclaration, conditionalReturn], {}⟩).bind
      Expr.identName? = some "fault" := by
    decide +kernel
  obtain ⟨expr, escaped, named⟩ := Option.bind_eq_some_iff.mp before
  obtain ⟨ident, rfl, after⟩ := (checkBody_rename faultTypes _ underscored distinct).2 expr escaped
  refine ⟨distinct, before, ?_⟩
  rw [after, Option.bind_some]
  exact congrArg (fun name => some (underscored name)) (Option.some.inj named)

end ZeroError.Analysis
