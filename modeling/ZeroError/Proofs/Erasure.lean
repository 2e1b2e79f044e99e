import ZeroError.Proofs.Effects
import ZeroError.Proofs.Verdicts

/-!
What a verdict does not depend on. Erasing takes from syntax all places, the words of assignments,
operators and jumps, literals, labels, the names of selected fields and everything that is only said
about types; it keeps how statements and expressions are put together, the names of identifiers and
declared variables, and the numbers of their types. Of a function its body and the types of its results
are kept. Main statement: functions that are equal after erasing are both walked or both passed over,
and from both bodies nothing escapes or an identifier of the same name.
-/

namespace ZeroError.Go

def Ident.erase (ident : Ident) : Ident :=
  ⟨ident.name, {}⟩

/-- Keeps the number of a type and drops how it is written. -/
def TypeExpr.erase (type : TypeExpr) : TypeExpr :=
  ⟨.bad {}, type.typeId⟩

mutual

def Expr.erase : Expr → Expr
  | .ident name => .ident name.erase
  | .basicLit _ _ _ => .basicLit .int "" {}
  | .compositeLit _ elts _ => .compositeLit none (eraseExprs elts) {}
  | .funcLit _ _ body _ => .funcLit [] [] body.erase {}
  | .paren x => .paren x.erase
  | .selector x _ => .selector x.erase ⟨"", {}⟩
  | .index x position => .index x.erase position.erase
  | .slice x low high max => .slice x.erase (eraseExpr? low) (eraseExpr? high) (eraseExpr? max)
  | .typeAssert x _ => .typeAssert x.erase none
  | .call callee args _ => .call callee.erase (eraseExprs args) false
  | .star x _ => .star x.erase {}
  | .unary _ x _ => .unary "" x.erase {}
  | .binary x _ y => .binary x.erase "" y.erase
  | .keyValue key value => .keyValue key.erase value.erase
  | .arrayType _ _ => .arrayType none (.bad {})
  | .mapType _ _ => .mapType (.bad {}) (.bad {})
  | .chanType _ _ => .chanType "" (.bad {})
  | .funcType _ _ => .funcType [] []
  | .structType _ => .structType []
  | .interfaceType _ => .interfaceType []
  | .ellipsis _ => .ellipsis none
  | .bad _ => .bad {}

def eraseExprs : List Expr → List Expr
  | [] => []
  | expr :: exprs => expr.erase :: eraseExprs exprs

def eraseExpr? : Option Expr → Option Expr
  | none => none
  | some expr => some expr.erase

def Block.erase : Block → Block
  | ⟨stmts, _⟩ => ⟨eraseStmts stmts, {}⟩

def Stmt.erase : Stmt → Stmt
  | .decl declaration => .decl declaration.erase
  | .assign lhs _ rhs _ => .assign (eraseExprs lhs) "" (eraseExprs rhs) {}
  | .ret results _ => .ret (eraseExprs results) {}
  | .expr x => .expr x.erase
  | .block body => .block body.erase
  | .ifElse init cond body otherwise _ =>
      .ifElse (eraseStmt? init) cond.erase body.erase (eraseStmt? otherwise) {}
  | .forLoop init cond post body _ =>
      .forLoop (eraseStmt? init) (eraseExpr? cond) (eraseStmt? post) body.erase {}
  | .rangeLoop key value _ x body _ =>
      .rangeLoop (eraseExpr? key) (eraseExpr? value) false x.erase body.erase {}
  | .switch init tag clauses _ =>
      .switch (eraseStmt? init) (eraseExpr? tag) (eraseCases clauses) {}
  | .typeSwitch init guarded clauses _ =>
      .typeSwitch (eraseStmt? init) guarded.erase (eraseTypeCases clauses) {}
  | .select clauses _ => .select (eraseComms clauses) {}
  | .labeled _ target => .labeled ⟨"", {}⟩ target.erase
  | .go call => .go call.erase
  | .defer call => .defer call.erase
  | .incDec x _ => .incDec x.erase false
  | .send chan value => .send chan.erase value.erase
  | .branch _ _ => .branch "" none
  | .empty => .empty

def eraseStmts : List Stmt → List Stmt
  | [] => []
  | stmt :: stmts => stmt.erase :: eraseStmts stmts

def eraseStmt? : Option Stmt → Option Stmt
  | none => none
  | some stmt => some stmt.erase

def GenDecl.erase : GenDecl → GenDecl
  | ⟨tok, specs, _⟩ => ⟨tok, eraseSpecs specs, {}⟩

def Spec.erase : Spec → Spec
  | .value ⟨names, type, values⟩ =>
      .value ⟨names.map Ident.erase, type.map TypeExpr.erase, eraseExprs values⟩
  | .type ⟨name, type⟩ => .type ⟨name.erase, type.erase⟩

def eraseSpecs : List Spec → List Spec
  | [] => []
  | spec :: specs => spec.erase :: eraseSpecs specs

def CaseClause.erase : CaseClause → CaseClause
  | ⟨list, body, _⟩ => ⟨eraseExprs list, eraseStmts body, {}⟩

def eraseCases : List CaseClause → List CaseClause
  | [] => []
  | clause :: clauses => clause.erase :: eraseCases clauses

/-- In a type switch the cases are types. -/
def CaseClause.eraseTypes : CaseClause → CaseClause
  | ⟨_, body, _⟩ => ⟨[], eraseStmts body, {}⟩

def eraseTypeCases : List CaseClause → List CaseClause
  | [] => []
  | clause :: clauses => clause.eraseTypes :: eraseTypeCases clauses

def CommClause.erase : CommClause → CommClause
  | ⟨comm, body, _⟩ => ⟨eraseStmt? comm, eraseStmts body, {}⟩

def eraseComms : List CommClause → List CommClause
  | [] => []
  | clause :: clauses => clause.erase :: eraseComms clauses

end

/-- Keeps the body of a function and the types of its results. -/
def FuncDecl.erase (func : FuncDecl) : FuncDecl where
  name := ⟨"", {}⟩
  recv := none
  params := []
  results := func.results.map (fun field => ⟨[], field.type.erase⟩)
  body := func.body.map Block.erase

theorem eraseExprs_eq_map (exprs : List Expr) : eraseExprs exprs = exprs.map Expr.erase :=
  eq_map_of_cons rfl (fun _ _ => rfl) exprs

theorem eraseExpr?_eq_map (expr : Option Expr) : eraseExpr? expr = expr.map Expr.erase := by
  cases expr with
  | none => rw [eraseExpr?, Option.map_none]
  | some expr => rw [eraseExpr?, Option.map_some]

theorem eraseStmts_eq_map (stmts : List Stmt) : eraseStmts stmts = stmts.map Stmt.erase :=
  eq_map_of_cons rfl (fun _ _ => rfl) stmts

theorem eraseStmt?_eq_map (stmt : Option Stmt) : eraseStmt? stmt = stmt.map Stmt.erase := by
  cases stmt with
  | none => rw [eraseStmt?, Option.map_none]
  | some stmt => rw [eraseStmt?, Option.map_some]

theorem eraseSpecs_eq_map (specs : List Spec) : eraseSpecs specs = specs.map Spec.erase :=
  eq_map_of_cons rfl (fun _ _ => rfl) specs

private theorem eraseCases_eq_map (clauses : List CaseClause) :
    eraseCases clauses = clauses.map CaseClause.erase :=
  eq_map_of_cons rfl (fun _ _ => rfl) clauses

private theorem eraseTypeCases_eq_map (clauses : List CaseClause) :
    eraseTypeCases clauses = clauses.map CaseClause.eraseTypes :=
  eq_map_of_cons rfl (fun _ _ => rfl) clauses

private theorem eraseComms_eq_map (clauses : List CommClause) :
    eraseComms clauses = clauses.map CommClause.erase :=
  eq_map_of_cons rfl (fun _ _ => rfl) clauses

theorem Block.stmts_erase (body : Block) : body.erase.stmts = body.stmts.map Stmt.erase := by
  obtain ⟨stmts, pos⟩ := body
  exact eraseStmts_eq_map stmts

private theorem GenDecl.specs_erase (declaration : GenDecl) :
    declaration.erase.specs = declaration.specs.map Spec.erase := by
  obtain ⟨tok, specs, pos⟩ := declaration
  exact eraseSpecs_eq_map specs

private theorem Spec.values_erase (spec : Spec) :
    spec.erase.values = spec.values.map Expr.erase := by
  cases spec with
  | value spec =>
      obtain ⟨names, type, values⟩ := spec
      exact eraseExprs_eq_map values
  | type spec =>
      obtain ⟨name, type⟩ := spec
      rfl

private theorem CaseClause.list_erase (clause : CaseClause) :
    clause.erase.list = clause.list.map Expr.erase := by
  obtain ⟨list, body, pos⟩ := clause
  exact eraseExprs_eq_map list

private theorem CaseClause.body_erase (clause : CaseClause) :
    clause.erase.body = clause.body.map Stmt.erase := by
  obtain ⟨list, body, pos⟩ := clause
  exact eraseStmts_eq_map body

private theorem CaseClause.body_eraseTypes (clause : CaseClause) :
    clause.eraseTypes.body = clause.body.map Stmt.erase := by
  obtain ⟨list, body, pos⟩ := clause
  exact eraseStmts_eq_map body

private theorem CommClause.comm_erase (clause : CommClause) :
    clause.erase.comm = clause.comm.map Stmt.erase := by
  obtain ⟨comm, body, pos⟩ := clause
  exact eraseStmt?_eq_map comm

private theorem CommClause.body_erase (clause : CommClause) :
    clause.erase.body = clause.body.map Stmt.erase := by
  obtain ⟨comm, body, pos⟩ := clause
  exact eraseStmts_eq_map body

private theorem Expr.children_erase (expr : Expr) :
    expr.erase.children = expr.children.map (Node.map Stmt.erase Expr.erase) := by
  cases expr <;>
    simp only [Expr.erase, Expr.children, eraseExprs_eq_map, eraseExpr?_eq_map, Block.stmts_erase,
      map_exprNodes, map_stmtNodes, map_exprNode?, List.map_append, List.map_cons, List.map_nil,
      Node.map]

private theorem Stmt.children_erase (stmt : Stmt) :
    stmt.erase.children = stmt.children.map (Node.map Stmt.erase Expr.erase) := by
  cases stmt <;>
    simp only [Stmt.erase, Stmt.children, eraseExprs_eq_map, eraseExpr?_eq_map, eraseStmt?_eq_map,
      eraseCases_eq_map, eraseTypeCases_eq_map, eraseComms_eq_map, Block.stmts_erase,
      GenDecl.specs_erase, Spec.values_erase, CaseClause.list_erase, CaseClause.body_erase,
      CaseClause.body_eraseTypes, CommClause.comm_erase, CommClause.body_erase, map_exprNodes,
      map_stmtNodes, map_exprNode?, map_stmtNode?, List.flatMap_map, List.map_flatMap,
      List.map_append, List.map_cons, List.map_nil, Node.map]

private theorem Node.children_erase (node : Node) :
    (node.map Stmt.erase Expr.erase).children =
      node.children.map (Node.map Stmt.erase Expr.erase) := by
  cases node with
  | stmt s => exact Stmt.children_erase s
  | expr e => exact Expr.children_erase e

theorem Block.statements_erase (body : Block) :
    body.erase.statements = body.statements.map Stmt.erase :=
  Block.statements_map Node.children_erase (Block.stmts_erase body)

private theorem Spec.zeroLine?_erase (spec : Spec) : spec.erase.zeroLine? = spec.zeroLine? := by
  cases spec with
  | type spec =>
      obtain ⟨name, type⟩ := spec
      rfl
  | value spec =>
      obtain ⟨names, type, values⟩ := spec
      cases type with
      | none => rfl
      | some type =>
          cases values with
          | cons value values => rfl
          | nil =>
              simp only [Spec.erase, eraseExprs, Option.map_some, zeroLine?, List.map_map,
                TypeExpr.erase]
              rfl

private theorem Stmt.zeroLines_erase (stmt : Stmt) : stmt.erase.zeroLines = stmt.zeroLines := by
  cases stmt with
  | decl declaration =>
      obtain ⟨tok, specs, pos⟩ := declaration
      cases tok with
      | var =>
          simp only [Stmt.erase, GenDecl.erase, zeroLines, eraseSpecs_eq_map]
          rw [List.filterMap_map]
          congr 1
          funext spec
          exact Spec.zeroLine?_erase spec
      | const => rfl
      | type => rfl
  | _ => rfl

private theorem Expr.ident?_erase (expr : Expr) :
    expr.erase.ident? = expr.ident?.map Ident.erase := by
  cases expr with
  | ident name => rfl
  | _ => rfl

private theorem Expr.identName?_erase (expr : Expr) : expr.erase.identName? = expr.identName? := by
  cases expr with
  | ident name => rfl
  | _ => rfl

end ZeroError.Go

namespace ZeroError.Analysis

open ZeroError.Go

def Effect.erase : Effect → Effect
  | .opens names => .opens names
  | .assigns names => .assigns names
  | .returns idents => .returns (idents.map Ident.erase)

private theorem effect?_erase (table : TypeTable) (stmt : Stmt) :
    effect? table stmt.erase = (effect? table stmt).map Effect.erase := by
  cases stmt with
  | decl declaration =>
      have lines := Stmt.zeroLines_erase (.decl declaration)
      rw [Stmt.erase] at lines
      rw [Stmt.erase, effect?, effect?, value_atRiskOfDecl, value_atRiskOfDecl, lines]
      cases (Stmt.decl declaration).zeroLines.find? (fun line => isErrorType table line.2) with
      | none => rfl
      | some line => rfl
  | assign lhs tok rhs pos =>
      simp only [Stmt.erase, effect?, eraseExprs_eq_map, Option.map_some, Effect.erase,
        List.filterMap_map, Function.comp_def, Expr.identName?_erase]
  | ret results pos =>
      simp only [Stmt.erase, effect?, eraseExprs_eq_map, Option.map_some, Effect.erase,
        List.filterMap_map, List.map_filterMap, Function.comp_def, Expr.ident?_erase]
  | _ => rfl

private theorem effectsOf_erase (table : TypeTable) (body : Block) :
    effectsOf table body.erase = (effectsOf table body).map Effect.erase := by
  unfold effectsOf
  rw [Block.statements_erase, List.filterMap_map, List.map_filterMap]
  congr 1
  funext stmt
  exact effect?_erase table stmt

def Step.erase : Step → Step
  | .going watch => .going watch
  | .escaped expr => .escaped expr.erase

private theorem Effect.step_erase (watch : Watch) (effect : Effect) :
    effect.erase.step watch = (effect.step watch).erase := by
  cases effect with
  | opens names =>
      cases watch with
      | idle => rfl
      | tracking cohort => rfl
  | assigns names => rfl
  | returns idents =>
      have same : (idents.map Ident.erase).find?
            (fun ident => watch.tracked.contains ident.name) =
          (idents.find? (fun ident => watch.tracked.contains ident.name)).map Ident.erase :=
        List.find?_map
      simp only [erase, step, same]
      cases idents.find? (fun ident => watch.tracked.contains ident.name) with
      | none => rfl
      | some ident => rfl

theorem follow_erase (watch : Watch) (effects : List Effect) :
    follow watch (effects.map Effect.erase) = (follow watch effects).erase :=
  follow_map (fun _ => rfl) (fun _ => rfl) Effect.step_erase watch effects

/-- What escapes from an erased body is what escapes from the body, erased. -/
theorem checkBody_erase (table : TypeTable) (body : Block) :
    checkBody table body.erase = (checkBody table body).map Expr.erase := by
  rw [checkBody_eq_follow, checkBody_eq_follow, effectsOf_erase, follow_erase]
  cases follow .idle (effectsOf table body) with
  | going watch => rfl
  | escaped expr => rfl

theorem isCandidate_erase (table : TypeTable) (func : FuncDecl) :
    isCandidate table func.erase = isCandidate table func := by
  simp only [isCandidate, FuncDecl.erase, Option.isSome_map, returnsError, List.any_map,
    Function.comp_def, TypeExpr.erase]

/-- From both bodies nothing escapes, or an identifier of the same name. -/
def SameVerdict (table : TypeTable) (first second : Block) : Prop :=
  checkBody table first = none ∧ checkBody table second = none ∨
    ∃ name pos otherPos, checkBody table first = some (.ident ⟨name, pos⟩) ∧
      checkBody table second = some (.ident ⟨name, otherPos⟩)

private theorem sameVerdict_of_erase {table : TypeTable} {first second : Block}
    (agree : first.erase = second.erase) : SameVerdict table first second := by
  have verdicts : (checkBody table first).map Expr.erase = (checkBody table second).map Expr.erase := by
    rw [← checkBody_erase, ← checkBody_erase, agree]
  cases escaped : checkBody table first with
  | none =>
      rw [escaped, Option.map_none] at verdicts
      exact Or.inl ⟨escaped, Option.map_eq_none_iff.mp verdicts.symm⟩
  | some expr =>
      rw [escaped, Option.map_some] at verdicts
      obtain ⟨other, otherEscaped, same⟩ := Option.map_eq_some_iff.mp verdicts.symm
      obtain ⟨⟨name, pos⟩, rfl⟩ := checkBody_ident escaped
      obtain ⟨⟨otherName, otherPos⟩, rfl⟩ := checkBody_ident otherEscaped
      have names : otherName = name := congrArg Ident.name (Expr.ident.inj same)
      subst names
      exact Or.inr ⟨otherName, pos, otherPos, escaped, otherEscaped⟩

/-- Functions that are equal after erasing are both walked or both passed over. If one has a body then so
has the other, and from both nothing escapes or an identifier of the same name. -/
theorem verdict_ignores_erased (table : TypeTable) (func other : FuncDecl)
    (agree : func.erase = other.erase) :
    isCandidate table func = isCandidate table other ∧
    func.body.isSome = other.body.isSome ∧
    ∀ body otherBody, func.body = some body → other.body = some otherBody →
      SameVerdict table body otherBody := by
  have bodies : func.body.map Block.erase = other.body.map Block.erase :=
    congrArg FuncDecl.body agree
  refine ⟨?_, ?_, ?_⟩
  · rw [← isCandidate_erase, agree, isCandidate_erase]
  · rw [← Option.isSome_map, bodies, Option.isSome_map]
  · intro body otherBody present otherPresent
    rw [present, otherPresent] at bodies
    exact sameVerdict_of_erase (Option.some.inj bodies)

/-- A function that gives back a declared error, with something to be erased in every statement. -/
def worded (word : String) (flag : Bool) (type : Expr) (line : UInt32) : FuncDecl where
  name := ⟨word, {}⟩
  recv := none
  params := [⟨[⟨word, {}⟩], ⟨type, ⟨0⟩⟩⟩]
  results := [⟨[⟨word, {}⟩], ⟨type, ⟨1⟩⟩⟩]
  body := some
    ⟨[.decl ⟨.var, [.value ⟨[⟨"fault", {}⟩], some ⟨type, ⟨3⟩⟩, []⟩], { line := line }⟩,
      .labeled ⟨word, {}⟩ (.incDec (.selector (.ident ⟨"count", {}⟩) ⟨word, {}⟩) flag),
      .assign [.ident ⟨"other", {}⟩] word
        [.binary (.basicLit .string word {}) word (.compositeLit (some type) [] {})] {},
      .ret [.ident ⟨"fault", { line := line }⟩] {}], {}⟩

theorem verdict_ignores_erased_worded :
    (worded "+" true (.bad {}) 3).erase =
        (worded "-" false (.star (.ident ⟨"Fault", {}⟩) {}) 8).erase ∧
      isCandidate (samplePackage []).types (worded "+" true (.bad {}) 3) = true ∧
      isCandidate (samplePackage []).types
        (worded "-" false (.star (.ident ⟨"Fault", {}⟩) {}) 8) = true ∧
      ((worded "+" true (.bad {}) 3).body.bind (checkBody (samplePackage []).types)).bind
        Expr.identName? = some "fault" ∧
      ∀ body otherBody, (worded "+" true (.bad {}) 3).body = some body →
        (worded "-" false (.star (.ident ⟨"Fault", {}⟩) {}) 8).body = some otherBody →
        SameVerdict (samplePackage []).types body otherBody := by
  have agree : (worded "+" true (.bad {}) 3).erase =
      (worded "-" false (.star (.ident ⟨"Fault", {}⟩) {}) 8).erase := rfl
  have walked : isCandidate (samplePackage []).types (worded "+" true (.bad {}) 3) = true := by
    decide +kernel
  obtain ⟨candidates, _, verdicts⟩ := verdict_ignores_erased (samplePackage []).types _ _ agree
  exact ⟨agree, walked, candidates.symm.trans walked, by decide +kernel, verdicts⟩

end ZeroError.Analysis
