import ZeroError.Analysis.Report
import ZeroError.Go.Reading
import ZeroError.Proofs.Recovery

/-!
Reading undoes writing. Whatever value is written, from an expression up to a whole package or the
report on it, the document gives that value back when it is read, unless it nests deeper than a
document may. The readers of syntax are built level by level, so the proof goes by the depth of the
document: what all readers of one level recover, those of the next level recover too, one
constructor after another.

The main statement is `reading_undoes_writing`.
-/

namespace ZeroError.Go

open ZeroError.Document

private theorem exprItems_eq_map (exprs : List Expr) : exprItems exprs = exprs.map Expr.toJson := by
  induction exprs with
  | nil => rfl
  | cons expr exprs ih => rw [exprItems, ih, List.map_cons]

private theorem fieldItems_eq_map (fields : List Field) :
    fieldItems fields = fields.map Field.toJson := by
  induction fields with
  | nil => rfl
  | cons field fields ih => rw [fieldItems, ih, List.map_cons]

private theorem stmtItems_eq_map (stmts : List Stmt) : stmtItems stmts = stmts.map Stmt.toJson := by
  induction stmts with
  | nil => rfl
  | cons stmt stmts ih => rw [stmtItems, ih, List.map_cons]

private theorem specItems_eq_map (specs : List Spec) : specItems specs = specs.map Spec.toJson := by
  induction specs with
  | nil => rfl
  | cons spec specs ih => rw [specItems, ih, List.map_cons]

private theorem caseClauseItems_eq_map (clauses : List CaseClause) :
    caseClauseItems clauses = clauses.map CaseClause.toJson := by
  induction clauses with
  | nil => rfl
  | cons clause clauses ih => rw [caseClauseItems, ih, List.map_cons]

private theorem commClauseItems_eq_map (clauses : List CommClause) :
    commClauseItems clauses = clauses.map CommClause.toJson := by
  induction clauses with
  | nil => rfl
  | cons clause clauses ih => rw [commClauseItems, ih, List.map_cons]

theorem Expr.toJson_eq_object (expr : Expr) : ∃ entries, expr.toJson = .object entries := by
  cases expr <;> exact ⟨_, rfl⟩

theorem Stmt.toJson_eq_object (stmt : Stmt) : ∃ entries, stmt.toJson = .object entries := by
  cases stmt <;> exact ⟨_, rfl⟩

private theorem Spec.toJson_eq_object (spec : Spec) : ∃ entries, spec.toJson = .object entries := by
  cases spec <;> exact ⟨_, rfl⟩

theorem TypeExpr.toJson_eq_object (type : TypeExpr) : ∃ entries, type.toJson = .object entries := by
  cases type
  exact ⟨_, rfl⟩

theorem Field.toJson_eq_object (field : Field) : ∃ entries, field.toJson = .object entries := by
  cases field
  exact ⟨_, rfl⟩

theorem Block.toJson_eq_object (block : Block) : block.toJson = .object block.entries := by
  cases block
  rfl

private theorem CaseClause.toJson_eq_object (clause : CaseClause) :
    ∃ entries, clause.toJson = .object entries := by
  cases clause
  exact ⟨_, rfl⟩

private theorem CommClause.toJson_eq_object (clause : CommClause) :
    ∃ entries, clause.toJson = .object entries := by
  cases clause
  exact ⟨_, rfl⟩

private theorem Pos.layout_recovers (pos : Pos) (depth : Nat) :
    Pos.layout.Recovers depth [("offset", wordJson pos.offset), ("line", wordJson pos.line),
      ("column", wordJson pos.column)] pos :=
  Fields.Recover.layout rfl
    (.cons (Reader.word_recovers depth pos.offset) <|
      .cons (Reader.word_recovers depth pos.line) <|
      .cons (Reader.word_recovers depth pos.column) .nil) rfl

theorem Pos.reader_recovers (depth : Nat) (pos : Pos) :
    (Pos.reader depth).Recovers depth pos.toJson pos :=
  Reader.record_recovers _ (Pos.layout_recovers pos) depth

theorem Ident.layout_recovers (ident : Ident) (depth : Nat) :
    (Ident.layout depth).Recovers depth ident.entries ident :=
  Fields.Recover.layout rfl
    (.cons (Reader.text_recovers depth ident.name) <|
      .cons (Pos.reader_recovers depth ident.pos) .nil) rfl

theorem Ident.reader_recovers (depth : Nat) (ident : Ident) :
    (Ident.reader depth).Recovers depth ident.toJson ident :=
  Reader.record_recovers _ (Ident.layout_recovers ident) depth

theorem identsReader_recovers (depth : Nat) (idents : List Ident) :
    (identsReader depth).Recovers depth (identsJson idents) idents :=
  Reader.list_recovers Ident.reader_recovers depth idents

theorem TypeId.reader_recovers (depth : Nat) (id : TypeId) :
    TypeId.reader.Recovers depth id.toJson id :=
  (Reader.word_recovers depth id.index).map TypeId.mk

private theorem LitKind.reader_recovers (depth : Nat) (kind : LitKind) :
    (Reader.name LitKind.names depth).Recovers depth kind.toJson kind := by
  cases kind <;> exact Reader.name_recovers depth (by decide)

private theorem DeclToken.reader_recovers (depth : Nat) (token : DeclToken) :
    (Reader.name DeclToken.names depth).Recovers depth token.toJson token := by
  cases token <;> exact Reader.name_recovers depth (by decide)

/-- Whether all readers of a level recover what is written and nests at most `depth` levels. -/
structure Readers.Recover (inner : Readers) (depth : Nat) : Prop where
  expr : ∀ expr, inner.expr.Recovers depth expr.toJson expr
  exprs : ∀ exprs, inner.exprs.Recovers depth (.list (exprItems exprs)) exprs
  typeExpr : ∀ type, inner.typeExpr.Recovers depth type.toJson type
  field : ∀ field, inner.field.Recovers depth field.toJson field
  fields : ∀ fields, inner.fields.Recovers depth (.list (fieldItems fields)) fields
  block : ∀ block, inner.block.Recovers depth block.toJson block
  stmt : ∀ stmt, inner.stmt.Recovers depth stmt.toJson stmt
  stmts : ∀ stmts, inner.stmts.Recovers depth (.list (stmtItems stmts)) stmts
  spec : ∀ spec, inner.spec.Recovers depth spec.toJson spec
  specs : ∀ specs, inner.specs.Recovers depth (.list (specItems specs)) specs
  caseClause : ∀ clause, inner.caseClause.Recovers depth clause.toJson clause
  caseClauses : ∀ clauses, inner.caseClauses.Recovers depth (.list (caseClauseItems clauses)) clauses
  commClause : ∀ clause, inner.commClause.Recovers depth clause.toJson clause
  commClauses : ∀ clauses, inner.commClauses.Recovers depth (.list (commClauseItems clauses)) clauses

namespace Readers.Recover

variable {inner : Readers} {depth : Nat}

theorem expr? (recover : inner.Recover depth) (expr? : Option Expr) :
    (Reader.option inner.expr).Recovers depth (optionalExprJson expr?) expr? := by
  have written : optionalExprJson expr? = .ofOption Expr.toJson expr? := by
    cases expr? <;> rfl
  rw [written]
  exact Reader.option_recovers_object recover.expr Expr.toJson_eq_object expr?

theorem stmt? (recover : inner.Recover depth) (stmt? : Option Stmt) :
    (Reader.option inner.stmt).Recovers depth (optionalStmtJson stmt?) stmt? := by
  have written : optionalStmtJson stmt? = .ofOption Stmt.toJson stmt? := by
    cases stmt? <;> rfl
  rw [written]
  exact Reader.option_recovers_object recover.stmt Stmt.toJson_eq_object stmt?

private theorem typeExpr? (recover : inner.Recover depth) (type? : Option TypeExpr) :
    (Reader.option inner.typeExpr).Recovers depth (optionalTypeExprJson type?) type? := by
  have written : optionalTypeExprJson type? = .ofOption TypeExpr.toJson type? := by
    cases type? <;> rfl
  rw [written]
  exact Reader.option_recovers_object recover.typeExpr TypeExpr.toJson_eq_object type?

end Readers.Recover

/-- The last level reads no list and no object. -/
theorem Readers.last_recover : Readers.last.Recover 0 where
  expr := fun expr => Reader.recovers_object_zero expr.toJson_eq_object
  exprs := fun _ => Reader.recovers_list_zero
  typeExpr := fun type => Reader.recovers_object_zero type.toJson_eq_object
  field := fun field => Reader.recovers_object_zero field.toJson_eq_object
  fields := fun _ => Reader.recovers_list_zero
  block := fun block => Reader.recovers_object_zero ⟨_, block.toJson_eq_object⟩
  stmt := fun stmt => Reader.recovers_object_zero stmt.toJson_eq_object
  stmts := fun _ => Reader.recovers_list_zero
  spec := fun spec => Reader.recovers_object_zero spec.toJson_eq_object
  specs := fun _ => Reader.recovers_list_zero
  caseClause := fun clause => Reader.recovers_object_zero clause.toJson_eq_object
  caseClauses := fun _ => Reader.recovers_list_zero
  commClause := fun clause => Reader.recovers_object_zero clause.toJson_eq_object
  commClauses := fun _ => Reader.recovers_list_zero

section Level

variable {inner : Readers} {depth : Nat} (recover : inner.Recover depth)

include recover

private theorem TypeExpr.layout_recovers (expr : Expr) (typeId : TypeId) :
    (TypeExpr.layout inner).Recovers depth [("expr", expr.toJson), ("type_id", typeId.toJson)]
      ⟨expr, typeId⟩ :=
  Fields.Recover.layout rfl
    (.cons (recover.expr expr) <| .cons (TypeId.reader_recovers depth typeId) .nil) rfl

private theorem Field.layout_recovers (names : List Ident) (type : TypeExpr) :
    (Field.layout inner depth).Recovers depth [("names", identsJson names), ("type", type.toJson)]
      ⟨names, type⟩ :=
  Fields.Recover.layout rfl
    (.cons (identsReader_recovers depth names) <| .cons (recover.typeExpr type) .nil) rfl

theorem Block.layout_recovers (block : Block) :
    (Block.layout inner depth).Recovers depth block.entries block := by
  obtain ⟨stmts, pos⟩ := block
  exact Fields.Recover.layout rfl
    (.cons (recover.stmts stmts) <| .cons (Pos.reader_recovers depth pos) .nil) rfl

private theorem GenDecl.layout_recovers (decl : GenDecl) :
    (GenDecl.layout inner depth).Recovers depth decl.entries decl := by
  obtain ⟨tok, specs, pos⟩ := decl
  exact Fields.Recover.layout rfl
    (.cons (DeclToken.reader_recovers depth tok) <| .cons (recover.specs specs) <|
      .cons (Pos.reader_recovers depth pos) .nil) rfl

private theorem ValueSpec.layout_recovers (spec : ValueSpec) :
    (ValueSpec.layout inner depth).Recovers depth spec.entries spec := by
  obtain ⟨names, type, values⟩ := spec
  exact Fields.Recover.layout rfl
    (.cons (identsReader_recovers depth names) <| .cons (recover.typeExpr? type) <|
      .cons (recover.exprs values) .nil) rfl

private theorem TypeSpec.layout_recovers (spec : TypeSpec) :
    (TypeSpec.layout inner depth).Recovers depth spec.entries spec := by
  obtain ⟨name, type⟩ := spec
  exact Fields.Recover.layout rfl
    (.cons (Ident.reader_recovers depth name) <| .cons (recover.typeExpr type) .nil) rfl

private theorem CaseClause.layout_recovers (list : List Expr) (body : List Stmt) (pos : Pos) :
    (CaseClause.layout inner depth).Recovers depth
      [("list", .list (exprItems list)), ("body", .list (stmtItems body)), ("pos", pos.toJson)]
      ⟨list, body, pos⟩ :=
  Fields.Recover.layout rfl
    (.cons (recover.exprs list) <| .cons (recover.stmts body) <|
      .cons (Pos.reader_recovers depth pos) .nil) rfl

private theorem CommClause.layout_recovers (comm : Option Stmt) (body : List Stmt) (pos : Pos) :
    (CommClause.layout inner depth).Recovers depth
      [("comm", optionalStmtJson comm), ("body", .list (stmtItems body)), ("pos", pos.toJson)]
      ⟨comm, body, pos⟩ :=
  Fields.Recover.layout rfl
    (.cons (recover.stmt? comm) <| .cons (recover.stmts body) <|
      .cons (Pos.reader_recovers depth pos) .nil) rfl

private theorem Spec.tagged_recovers (spec : Spec) :
    (Reader.tagged "Spec" (Spec.variants inner depth) none depth).Recovers (depth + 1)
      spec.toJson spec := by
  have distinct : decide ((Spec.variants inner depth).map Variant.name).Nodup = true := rfl
  cases spec with
  | value spec =>
      exact Reader.tagged_recovers distinct 0 rfl
        ((ValueSpec.layout_recovers recover spec).map Spec.value)
  | type spec =>
      exact Reader.tagged_recovers distinct 1 rfl
        ((TypeSpec.layout_recovers recover spec).map Spec.type)

private theorem Expr.tagged_recovers (expr : Expr) :
    (Reader.tagged "Expr" (Expr.variants inner depth) none depth).Recovers (depth + 1)
      expr.toJson expr := by
  have distinct : decide ((Expr.variants inner depth).map Variant.name).Nodup = true := rfl
  have pos := Pos.reader_recovers depth
  have text := Reader.text_recovers depth
  cases expr with
  | ident ident =>
      exact Reader.tagged_recovers distinct 0 rfl ((Ident.layout_recovers ident depth).map Expr.ident)
  | basicLit lit value place =>
      exact Reader.tagged_recovers distinct 1 rfl (Fields.Recover.layout rfl
        (.cons (LitKind.reader_recovers depth lit) <| .cons (text value) <|
          .cons (pos place) .nil) rfl)
  | compositeLit type elts place =>
      exact Reader.tagged_recovers distinct 2 rfl (Fields.Recover.layout rfl
        (.cons (recover.expr? type) <| .cons (recover.exprs elts) <| .cons (pos place) .nil) rfl)
  | funcLit params results body place =>
      exact Reader.tagged_recovers distinct 3 rfl (Fields.Recover.layout rfl
        (.cons (recover.fields params) <| .cons (recover.fields results) <|
          .cons (recover.block body) <| .cons (pos place) .nil) rfl)
  | paren x =>
      exact Reader.tagged_recovers distinct 4 rfl (Fields.Recover.layout rfl
        (.cons (recover.expr x) .nil) rfl)
  | selector x sel =>
      exact Reader.tagged_recovers distinct 5 rfl (Fields.Recover.layout rfl
        (.cons (recover.expr x) <| .cons (Ident.reader_recovers depth sel) .nil) rfl)
  | index x position =>
      exact Reader.tagged_recovers distinct 6 rfl (Fields.Recover.layout rfl
        (.cons (recover.expr x) <| .cons (recover.expr position) .nil) rfl)
  | slice x low high max =>
      exact Reader.tagged_recovers distinct 7 rfl (Fields.Recover.layout rfl
        (.cons (recover.expr x) <| .cons (recover.expr? low) <| .cons (recover.expr? high) <|
          .cons (recover.expr? max) .nil) rfl)
  | typeAssert x type =>
      exact Reader.tagged_recovers distinct 8 rfl (Fields.Recover.layout rfl
        (.cons (recover.expr x) <| .cons (recover.expr? type) .nil) rfl)
  | call callee args spread =>
      exact Reader.tagged_recovers distinct 9 rfl (Fields.Recover.layout rfl
        (.cons (recover.expr callee) <| .cons (recover.exprs args) <|
          .cons (Reader.boolean_recovers depth spread) .nil) rfl)
  | star x place =>
      exact Reader.tagged_recovers distinct 10 rfl (Fields.Recover.layout rfl
        (.cons (recover.expr x) <| .cons (pos place) .nil) rfl)
  | unary op x place =>
      exact Reader.tagged_recovers distinct 11 rfl (Fields.Recover.layout rfl
        (.cons (text op) <| .cons (recover.expr x) <| .cons (pos place) .nil) rfl)
  | binary x op y =>
      exact Reader.tagged_recovers distinct 12 rfl (Fields.Recover.layout rfl
        (.cons (recover.expr x) <| .cons (text op) <| .cons (recover.expr y) .nil) rfl)
  | keyValue key value =>
      exact Reader.tagged_recovers distinct 13 rfl (Fields.Recover.layout rfl
        (.cons (recover.expr key) <| .cons (recover.expr value) .nil) rfl)
  | arrayType len elt =>
      exact Reader.tagged_recovers distinct 14 rfl (Fields.Recover.layout rfl
        (.cons (recover.expr? len) <| .cons (recover.expr elt) .nil) rfl)
  | mapType key value =>
      exact Reader.tagged_recovers distinct 15 rfl (Fields.Recover.layout rfl
        (.cons (recover.expr key) <| .cons (recover.expr value) .nil) rfl)
  | chanType dir value =>
      exact Reader.tagged_recovers distinct 16 rfl (Fields.Recover.layout rfl
        (.cons (text dir) <| .cons (recover.expr value) .nil) rfl)
  | funcType params results =>
      exact Reader.tagged_recovers distinct 17 rfl (Fields.Recover.layout rfl
        (.cons (recover.fields params) <| .cons (recover.fields results) .nil) rfl)
  | structType fields =>
      exact Reader.tagged_recovers distinct 18 rfl (Fields.Recover.layout rfl
        (.cons (recover.fields fields) .nil) rfl)
  | interfaceType methods =>
      exact Reader.tagged_recovers distinct 19 rfl (Fields.Recover.layout rfl
        (.cons (recover.fields methods) .nil) rfl)
  | ellipsis elt =>
      exact Reader.tagged_recovers distinct 20 rfl (Fields.Recover.layout rfl
        (.cons (recover.expr? elt) .nil) rfl)
  | bad place =>
      exact Reader.tagged_recovers distinct 21 rfl (Fields.Recover.layout rfl
        (.cons (pos place) .nil) rfl)

private theorem Stmt.tagged_recovers (stmt : Stmt) :
    (Reader.tagged "Stmt" (Stmt.variants inner depth) none depth).Recovers (depth + 1)
      stmt.toJson stmt := by
  have distinct : decide ((Stmt.variants inner depth).map Variant.name).Nodup = true := rfl
  have pos := Pos.reader_recovers depth
  have text := Reader.text_recovers depth
  have flag := Reader.boolean_recovers depth
  cases stmt with
  | decl decl =>
      exact Reader.tagged_recovers distinct 0 rfl ((GenDecl.layout_recovers recover decl).map Stmt.decl)
  | assign lhs tok rhs place =>
      exact Reader.tagged_recovers distinct 1 rfl (Fields.Recover.layout rfl
        (.cons (recover.exprs lhs) <| .cons (text tok) <| .cons (recover.exprs rhs) <|
          .cons (pos place) .nil) rfl)
  | ret results place =>
      exact Reader.tagged_recovers distinct 2 rfl (Fields.Recover.layout rfl
        (.cons (recover.exprs results) <| .cons (pos place) .nil) rfl)
  | expr x =>
      exact Reader.tagged_recovers distinct 3 rfl (Fields.Recover.layout rfl
        (.cons (recover.expr x) .nil) rfl)
  | block block =>
      exact Reader.tagged_recovers distinct 4 rfl ((Block.layout_recovers recover block).map Stmt.block)
  | ifElse init cond body otherwise place =>
      exact Reader.tagged_recovers distinct 5 rfl (Fields.Recover.layout rfl
        (.cons (recover.stmt? init) <| .cons (recover.expr cond) <| .cons (recover.block body) <|
          .cons (recover.stmt? otherwise) <| .cons (pos place) .nil) rfl)
  | forLoop init cond post body place =>
      exact Reader.tagged_recovers distinct 6 rfl (Fields.Recover.layout rfl
        (.cons (recover.stmt? init) <| .cons (recover.expr? cond) <| .cons (recover.stmt? post) <|
          .cons (recover.block body) <| .cons (pos place) .nil) rfl)
  | rangeLoop key value define x body place =>
      exact Reader.tagged_recovers distinct 7 rfl (Fields.Recover.layout rfl
        (.cons (recover.expr? key) <| .cons (recover.expr? value) <| .cons (flag define) <|
          .cons (recover.expr x) <| .cons (recover.block body) <| .cons (pos place) .nil) rfl)
  | switch init tag clauses place =>
      exact Reader.tagged_recovers distinct 8 rfl (Fields.Recover.layout rfl
        (.cons (recover.stmt? init) <| .cons (recover.expr? tag) <|
          .cons (recover.caseClauses clauses) <| .cons (pos place) .nil) rfl)
  | typeSwitch init guarded clauses place =>
      exact Reader.tagged_recovers distinct 9 rfl (Fields.Recover.layout rfl
        (.cons (recover.stmt? init) <| .cons (recover.stmt guarded) <|
          .cons (recover.caseClauses clauses) <| .cons (pos place) .nil) rfl)
  | select clauses place =>
      exact Reader.tagged_recovers distinct 10 rfl (Fields.Recover.layout rfl
        (.cons (recover.commClauses clauses) <| .cons (pos place) .nil) rfl)
  | labeled label target =>
      exact Reader.tagged_recovers distinct 11 rfl (Fields.Recover.layout rfl
        (.cons (Ident.reader_recovers depth label) <| .cons (recover.stmt target) .nil) rfl)
  | go call =>
      exact Reader.tagged_recovers distinct 12 rfl (Fields.Recover.layout rfl
        (.cons (recover.expr call) .nil) rfl)
  | defer call =>
      exact Reader.tagged_recovers distinct 13 rfl (Fields.Recover.layout rfl
        (.cons (recover.expr call) .nil) rfl)
  | incDec x inc =>
      exact Reader.tagged_recovers distinct 14 rfl (Fields.Recover.layout rfl
        (.cons (recover.expr x) <| .cons (flag inc) .nil) rfl)
  | send chan value =>
      exact Reader.tagged_recovers distinct 15 rfl (Fields.Recover.layout rfl
        (.cons (recover.expr chan) <| .cons (recover.expr value) .nil) rfl)
  | branch tok label =>
      have labelBack := Reader.option_recovers_object (Ident.reader_recovers depth)
        (fun label => ⟨label.entries, rfl⟩) label
      exact Reader.tagged_recovers distinct 16 rfl (Fields.Recover.layout rfl
        (.cons (text tok) <| .cons labelBack .nil) rfl)
  | empty => exact Reader.tagged_bare_recovers distinct 17 rfl

/-- What the readers of a level recover, those of the next level recover. -/
theorem Readers.Recover.next : (inner.next depth).Recover (depth + 1) where
  expr := Expr.tagged_recovers recover
  exprs := fun exprs => exprItems_eq_map exprs ▸ Reader.items_recovers recover.expr exprs
  typeExpr := fun ⟨expr, typeId⟩ => (TypeExpr.layout_recovers recover expr typeId).reader
  field := fun ⟨names, type⟩ => (Field.layout_recovers recover names type).reader
  fields := fun fields => fieldItems_eq_map fields ▸ Reader.items_recovers recover.field fields
  block := fun block => block.toJson_eq_object ▸ (Block.layout_recovers recover block).reader
  stmt := Stmt.tagged_recovers recover
  stmts := fun stmts => stmtItems_eq_map stmts ▸ Reader.items_recovers recover.stmt stmts
  spec := Spec.tagged_recovers recover
  specs := fun specs => specItems_eq_map specs ▸ Reader.items_recovers recover.spec specs
  caseClause := fun ⟨list, body, pos⟩ => (CaseClause.layout_recovers recover list body pos).reader
  caseClauses := fun clauses =>
    caseClauseItems_eq_map clauses ▸ Reader.items_recovers recover.caseClause clauses
  commClause := fun ⟨comm, body, pos⟩ => (CommClause.layout_recovers recover comm body pos).reader
  commClauses := fun clauses =>
    commClauseItems_eq_map clauses ▸ Reader.items_recovers recover.commClause clauses

end Level

theorem Readers.within_recover (depth : Nat) : (Readers.within depth).Recover depth := by
  induction depth with
  | zero => exact Readers.last_recover
  | succ depth ih => exact ih.next

theorem FuncDecl.reader_recovers (depth : Nat) (func : FuncDecl) :
    (FuncDecl.reader depth).Recovers depth func.toJson func := by
  refine Reader.record_recovers _ (fun depth => ?_) depth
  have recover := Readers.within_recover depth
  have recv := Reader.option_recovers_object recover.field Field.toJson_eq_object func.recv
  have body := Reader.option_recovers_object recover.block
    (fun block => ⟨_, block.toJson_eq_object⟩) func.body
  exact Fields.Recover.layout rfl
    (.cons (Ident.reader_recovers depth func.name) <| .cons recv <|
      .cons (recover.fields func.params) <| .cons (recover.fields func.results) <|
      .cons body .nil) rfl

theorem typeIdsReader_recovers (depth : Nat) (ids : List TypeId) :
    (typeIdsReader depth).Recovers depth (.ofList TypeId.toJson ids) ids :=
  Reader.list_recovers TypeId.reader_recovers depth ids

private theorem Method.reader_recovers (depth : Nat) (method : Method) :
    (Reader.record "struct Method" Method.layout depth).Recovers depth method.toJson method := by
  refine Reader.record_recovers _ (fun depth => ?_) depth
  exact Fields.Recover.layout rfl
    (.cons (Reader.text_recovers depth method.name) <|
      .cons (Reader.boolean_recovers depth method.pointerReceiver) <|
      .cons (typeIdsReader_recovers depth method.params) <|
      .cons (typeIdsReader_recovers depth method.results) .nil) rfl

theorem methodsReader_recovers (depth : Nat) (methods : List Method) :
    (methodsReader depth).Recovers depth (.ofList Method.toJson methods) methods :=
  Reader.list_recovers Method.reader_recovers depth methods

private theorem TypeInfo.tagged_recovers (depth : Nat) (info : TypeInfo) :
    (TypeInfo.reader (depth + 1)).Recovers (depth + 1) info.toJson info := by
  have distinct : decide ((TypeInfo.variants depth).map Variant.name).Nodup = true := rfl
  have text := Reader.text_recovers depth
  cases info with
  | basic name =>
      exact Reader.tagged_recovers distinct 0 rfl (Fields.Recover.layout rfl
        (.cons (text name) .nil) rfl)
  | named package name underlying methods =>
      have packageBack := Reader.option_recovers text (fun _ hidden => by cases hidden) package
      have underlyingBack := Reader.option_recovers (TypeId.reader_recovers depth)
        (fun _ hidden => by cases hidden) underlying
      exact Reader.tagged_recovers distinct 1 rfl (Fields.Recover.layout rfl
        (.cons packageBack <| .cons (text name) <| .cons underlyingBack <|
          .cons (methodsReader_recovers depth methods) .nil) rfl)
  | pointer elem =>
      exact Reader.tagged_recovers distinct 2 rfl (Fields.Recover.layout rfl
        (.cons (TypeId.reader_recovers depth elem) .nil) rfl)
  | interface methods =>
      exact Reader.tagged_recovers distinct 3 rfl (Fields.Recover.layout rfl
        (.cons (methodsReader_recovers depth methods) .nil) rfl)
  | struct => exact Reader.tagged_bare_recovers distinct 4 rfl
  | other => exact Reader.tagged_bare_recovers distinct 5 rfl

theorem TypeInfo.reader_recovers (depth : Nat) (info : TypeInfo) :
    (TypeInfo.reader depth).Recovers depth info.toJson info := by
  cases depth with
  | zero =>
      apply Reader.recovers_object_zero
      cases info <;> exact ⟨_, rfl⟩
  | succ depth => exact TypeInfo.tagged_recovers depth info

theorem TypeTable.reader_recovers (depth : Nat) (table : TypeTable) :
    (TypeTable.reader depth).Recovers depth table.toJson table :=
  (Reader.list_recovers TypeInfo.reader_recovers depth table.types).map TypeTable.mk

theorem SourceFile.reader_recovers (depth : Nat) (file : SourceFile) :
    (SourceFile.reader depth).Recovers depth file.toJson file := by
  refine Reader.record_recovers _ (fun depth => ?_) depth
  exact Fields.Recover.layout rfl
    (.cons (Reader.text_recovers depth file.path) <|
      .cons (Reader.list_recovers FuncDecl.reader_recovers depth file.funcs) .nil) rfl

private theorem Package.reader_recovers (depth : Nat) (package : Package) :
    (Package.reader depth).Recovers depth package.toJson package := by
  refine Reader.record_recovers _ (fun depth => ?_) depth
  exact Fields.Recover.layout rfl
    (.cons (Reader.text_recovers depth package.path) <|
      .cons (TypeTable.reader_recovers depth package.types) <|
      .cons (Reader.list_recovers SourceFile.reader_recovers depth package.files) .nil) rfl

end ZeroError.Go

namespace ZeroError.Analysis

open ZeroError.Document
open ZeroError.Go

theorem Diagnostic.reader_recovers (depth : Nat) (diagnostic : Diagnostic) :
    (Diagnostic.reader depth).Recovers depth diagnostic.toJson diagnostic := by
  refine Reader.record_recovers _ (fun depth => ?_) depth
  have text := Reader.text_recovers depth
  have word := Reader.word_recovers depth
  exact Fields.Recover.layout rfl
    (.cons (text diagnostic.analyzer) <| .cons (text diagnostic.file) <|
      .cons (word diagnostic.line) <| .cons (word diagnostic.column) <|
      .cons (word diagnostic.offset) <| .cons (text diagnostic.function) <|
      .cons (text diagnostic.rendered) <| .cons (text diagnostic.message) .nil) rfl

private theorem Report.reader_recovers (depth : Nat) (report : Report) :
    (Report.reader depth).Recovers depth report.toJson report := by
  refine Reader.record_recovers _ (fun depth => ?_) depth
  have count := Reader.count_recovers depth
  exact Fields.Recover.layout rfl
    (.cons (Reader.text_recovers depth report.package) <|
      .cons (Reader.list_recovers Diagnostic.reader_recovers depth report.diagnostics) <|
      .cons (count report.filesAnalyzed) <| .cons (count report.functionsAnalyzed) <|
      .cons (count report.functionsChecked) .nil) rfl

end ZeroError.Analysis

namespace ZeroError

open ZeroError.Document
open ZeroError.Go
open ZeroError.Analysis

/-- Whether reading undoes writing: each value is read back from its written text, on one line or
over several, as long as the document nests no deeper than a text may. -/
def Undoes {α : Type} (reader : Nat → Reader α) (write : α → Json) : Prop :=
  ∀ value, (write value).nesting ≤ maxDepth →
    (Source.ofText (write value).compact).read reader = .ok value ∧
      (Source.ofText ((write value).pretty 0)).read reader = .ok value

private theorem undoes_of_recovers {α : Type} {reader : Nat → Reader α} {write : α → Json}
    (recovers : ∀ depth value, (reader depth).Recovers depth (write value) value) :
    Undoes reader write :=
  fun value fits => (recovers maxDepth value).read_text fits

/-- Reading undoes writing for every kind of value a document can hold. So a package read from any
document is the one that its own written form gives. -/
theorem reading_undoes_writing :
    (Undoes Expr.reader Expr.toJson ∧ Undoes Stmt.reader Stmt.toJson ∧
      Undoes (fun depth => (Readers.within depth).spec) Spec.toJson ∧
      Undoes Field.reader Field.toJson ∧ Undoes Block.reader Block.toJson ∧
      Undoes FuncDecl.reader FuncDecl.toJson ∧ Undoes TypeInfo.reader TypeInfo.toJson ∧
      Undoes TypeTable.reader TypeTable.toJson ∧ Undoes SourceFile.reader SourceFile.toJson ∧
      Undoes Package.reader Package.toJson ∧ Undoes Diagnostic.reader Diagnostic.toJson ∧
      Undoes Report.reader Report.toJson) ∧
    ∀ text package, Package.ofText text = .ok package → package.toJson.nesting ≤ maxDepth →
      Package.ofText package.toJson.compact = Package.ofText text := by
  have packages : Undoes Package.reader Package.toJson := undoes_of_recovers Package.reader_recovers
  refine ⟨⟨?_, ?_, ?_, ?_, ?_, ?_, ?_, ?_, ?_, packages, ?_, ?_⟩, ?_⟩
  · exact undoes_of_recovers (fun depth => (Readers.within_recover depth).expr)
  · exact undoes_of_recovers (fun depth => (Readers.within_recover depth).stmt)
  · exact undoes_of_recovers (fun depth => (Readers.within_recover depth).spec)
  · exact undoes_of_recovers (fun depth => (Readers.within_recover depth).field)
  · exact undoes_of_recovers (fun depth => (Readers.within_recover depth).block)
  · exact undoes_of_recovers FuncDecl.reader_recovers
  · exact undoes_of_recovers TypeInfo.reader_recovers
  · exact undoes_of_recovers TypeTable.reader_recovers
  · exact undoes_of_recovers SourceFile.reader_recovers
  · exact undoes_of_recovers Diagnostic.reader_recovers
  · exact undoes_of_recovers Report.reader_recovers
  · intro text package read fits
    exact (packages package fits).1.trans read.symm

/-- A document that leaves out what can be left out and has `kind` last, around an expression that
its only function returns. -/
def briefEntries (returned : Json) : List (String × Json) :=
  [("files", .list [.object [("path", .text "print.go"), ("funcs", .list [
    .object [("body", .object [("stmts", .list [
      .object [("results", .list [returned]), ("kind", .text "return")]])]),
      ("name", .object [("name", .text "Fprint")])]])]]),
    ("path", .text "fmt")]

def briefIdent : Json :=
  .object [("name", .text "err"), ("kind", .text "ident")]

def briefJson : Json :=
  .object (briefEntries briefIdent)

def briefPackage : Package :=
  ⟨"fmt", {}, [⟨"print.go", [⟨⟨"Fprint", {}⟩, none, [], [],
    some ⟨[.ret [.ident ⟨"err", {}⟩] {}], {}⟩⟩]⟩]⟩

theorem briefJson_inRange : briefJson.InRange := by
  simp only [briefJson, briefEntries, briefIdent, Json.InRange, Json.ItemsInRange,
    Json.EntriesInRange, and_self]

theorem ofText_briefJson : Package.ofText briefJson.compact = .ok briefPackage := by
  rw [Package.ofText, Json.ofText_compact briefJson_inRange]
  rfl

theorem reading_undoes_writing_brief :
    Package.ofText briefJson.compact = .ok briefPackage ∧
      briefPackage.toJson.nesting ≤ maxDepth ∧
      Package.ofText briefPackage.toJson.compact = .ok briefPackage := by
  have fits : briefPackage.toJson.nesting ≤ maxDepth := by decide
  exact ⟨ofText_briefJson, fits,
    (reading_undoes_writing.2 _ _ ofText_briefJson fits).trans ofText_briefJson⟩

end ZeroError
