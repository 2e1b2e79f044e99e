import ZeroError.Proofs.Respecting
import ZeroError.Proofs.RoundTrip

/-!
Reading a package does not depend on the layout of its document. The readers of syntax are followed
level by level, as they are built: each respects the shape that the table gives to what it reads.

The main statement is `ofText_layout_irrelevant`.
-/

namespace ZeroError.Go

open ZeroError.Document

private theorem Pos.layout_follows (depth : Nat) : LayoutFollows Pos.layout depth
    (RecordKind.slots .pos) :=
  .ofFields rfl (.cons (.defaulted word_respects (Reader.word_recovers depth 0)) <|
    .cons (.required word_respects) <| .cons (.required word_respects) .nil)

private theorem Pos.reader_respects (depth : Nat) : Respects (Pos.reader depth) depth
    (.record .pos) :=
  record_respects Pos.layout_follows depth

theorem posField_follows (depth : Nat) : FieldFollows (posField depth) depth .pos :=
  .defaulted (Pos.reader_respects depth) (Pos.reader_recovers depth {})

theorem Ident.layout_follows (depth : Nat) :
    LayoutFollows (Ident.layout depth) depth (RecordKind.slots .ident) :=
  .ofFields rfl (.cons (.required text_respects) <| .cons (posField_follows depth) .nil)

theorem Ident.reader_respects (depth : Nat) : Respects (Ident.reader depth) depth (.record .ident) :=
  record_respects Ident.layout_follows depth

theorem identsReader_respects (depth : Nat) :
    Respects (identsReader depth) depth (.list (.record .ident)) :=
  list_respects Ident.reader_respects depth

theorem TypeId.reader_respects {levels : Nat} {shape : Shape} :
    Respects TypeId.reader levels shape :=
  word_respects.map TypeId.mk

/-- Whether all readers of a level respect the shapes of what they read. -/
structure Readers.Respect (inner : Readers) (depth : Nat) : Prop where
  expr : Respects inner.expr depth (.choice .expr)
  exprs : Respects inner.exprs depth (.list (.choice .expr))
  typeExpr : Respects inner.typeExpr depth (.record .typeExpr)
  field : Respects inner.field depth (.record .field)
  fields : Respects inner.fields depth (.list (.record .field))
  block : Respects inner.block depth (.record .block)
  stmt : Respects inner.stmt depth (.choice .stmt)
  stmts : Respects inner.stmts depth (.list (.choice .stmt))
  spec : Respects inner.spec depth (.choice .spec)
  specs : Respects inner.specs depth (.list (.choice .spec))
  caseClause : Respects inner.caseClause depth (.record .caseClause)
  caseClauses : Respects inner.caseClauses depth (.list (.record .caseClause))
  commClause : Respects inner.commClause depth (.record .commClause)
  commClauses : Respects inner.commClauses depth (.list (.record .commClause))

private theorem Readers.last_respect : Readers.last.Respect 0 where
  expr := noRecord_respects _
  exprs := noItems_respects
  typeExpr := noRecord_respects _
  field := noRecord_respects _
  fields := noItems_respects
  block := noRecord_respects _
  stmt := noRecord_respects _
  stmts := noItems_respects
  spec := noRecord_respects _
  specs := noItems_respects
  caseClause := noRecord_respects _
  caseClauses := noItems_respects
  commClause := noRecord_respects _
  commClauses := noItems_respects

section Level

variable {inner : Readers} {depth : Nat} (respect : inner.Respect depth)
  (recover : inner.Recover depth)

include respect

private theorem TypeExpr.layout_follows :
    LayoutFollows (TypeExpr.layout inner) depth (RecordKind.slots .typeExpr) :=
  .ofFields rfl (.cons (.required respect.expr) <| .cons (.required TypeId.reader_respects) .nil)

private theorem Field.layout_follows :
    LayoutFollows (Field.layout inner depth) depth (RecordKind.slots .field) :=
  .ofFields rfl
    (.cons (.defaulted (identsReader_respects depth) (identsReader_recovers depth [])) <|
      .cons (.required respect.typeExpr) .nil)

private theorem TypeSpec.layout_follows : LayoutFollows (TypeSpec.layout inner depth) depth
    [.required "name" (.record .ident), .required "type" (.record .typeExpr)] :=
  .ofFields rfl (.cons (.required (Ident.reader_respects depth)) <|
    .cons (.required respect.typeExpr) .nil)

private theorem GenDecl.layout_follows : LayoutFollows (GenDecl.layout inner depth) depth
    [.required "tok" .any, .required "specs" (.list (.choice .spec)), .pos] :=
  .ofFields rfl (.cons (.required (name_respects _ depth)) <| .cons (.required respect.specs) <|
    .cons (posField_follows depth) .nil)

include recover

theorem Block.layout_follows :
    LayoutFollows (Block.layout inner depth) depth (RecordKind.slots .block) :=
  .ofFields rfl (.cons (.defaulted respect.stmts (recover.stmts [])) <|
    .cons (posField_follows depth) .nil)

private theorem ValueSpec.layout_follows : LayoutFollows (ValueSpec.layout inner depth) depth
    [.required "names" (.list (.record .ident)), .optional "type" (.record .typeExpr),
      .items "values" (.choice .expr)] :=
  .ofFields rfl (.cons (.required (identsReader_respects depth)) <|
    .cons (.optional respect.typeExpr) <|
    .cons (.defaulted respect.exprs (recover.exprs [])) .nil)

private theorem CaseClause.layout_follows :
    LayoutFollows (CaseClause.layout inner depth) depth (RecordKind.slots .caseClause) :=
  .ofFields rfl (.cons (.defaulted respect.exprs (recover.exprs [])) <|
    .cons (.defaulted respect.stmts (recover.stmts [])) <| .cons (posField_follows depth) .nil)

private theorem CommClause.layout_follows :
    LayoutFollows (CommClause.layout inner depth) depth (RecordKind.slots .commClause) :=
  .ofFields rfl (.cons (.optional respect.stmt) <|
    .cons (.defaulted respect.stmts (recover.stmts [])) <| .cons (posField_follows depth) .nil)

private theorem Spec.variants_follow : VariantsFollow (Spec.variants inner depth) depth .spec := by
  refine .cons (.record ((ValueSpec.layout_follows respect recover).map Spec.value)) ?_
  exact .cons (.record ((TypeSpec.layout_follows respect).map Spec.type)) .nil

private theorem Expr.variants_follow : VariantsFollow (Expr.variants inner depth) depth .expr := by
  have pos := posField_follows depth
  refine .cons (.record ((Ident.layout_follows depth).map Expr.ident)) ?_
  refine .cons (.fields rfl (
      .cons (.required (name_respects _ depth)) <| .cons (.required text_respects) <|
      .cons pos .nil)) ?_
  refine .cons (.fields rfl (
      .cons (.optional respect.expr) <| .cons (.defaulted respect.exprs (recover.exprs [])) <|
      .cons pos .nil)) ?_
  refine .cons (.fields rfl (
      .cons (.defaulted respect.fields (recover.fields [])) <|
      .cons (.defaulted respect.fields (recover.fields [])) <| .cons (.required respect.block) <|
      .cons pos .nil)) ?_
  refine .cons (.fields rfl (.cons (.required respect.expr) .nil)) ?_
  refine .cons (.fields rfl (
      .cons (.required respect.expr) <| .cons (.required (Ident.reader_respects depth)) .nil)) ?_
  refine .cons (.fields rfl (
      .cons (.required respect.expr) <| .cons (.required respect.expr) .nil)) ?_
  refine .cons (.fields rfl (
      .cons (.required respect.expr) <| .cons (.optional respect.expr) <|
      .cons (.optional respect.expr) <| .cons (.optional respect.expr) .nil)) ?_
  refine .cons (.fields rfl (
      .cons (.required respect.expr) <| .cons (.optional respect.expr) .nil)) ?_
  refine .cons (.fields rfl (
      .cons (.required respect.expr) <| .cons (.defaulted respect.exprs (recover.exprs [])) <|
      .cons (.flag _) .nil)) ?_
  refine .cons (.fields rfl (.cons (.required respect.expr) <| .cons pos .nil)) ?_
  refine .cons (.fields rfl (
      .cons (.required text_respects) <| .cons (.required respect.expr) <| .cons pos .nil)) ?_
  refine .cons (.fields rfl (
      .cons (.required respect.expr) <| .cons (.required text_respects) <|
      .cons (.required respect.expr) .nil)) ?_
  refine .cons (.fields rfl (
      .cons (.required respect.expr) <| .cons (.required respect.expr) .nil)) ?_
  refine .cons (.fields rfl (
      .cons (.optional respect.expr) <| .cons (.required respect.expr) .nil)) ?_
  refine .cons (.fields rfl (
      .cons (.required respect.expr) <| .cons (.required respect.expr) .nil)) ?_
  refine .cons (.fields rfl (
      .cons (.required text_respects) <| .cons (.required respect.expr) .nil)) ?_
  refine .cons (.fields rfl (
      .cons (.defaulted respect.fields (recover.fields [])) <|
      .cons (.defaulted respect.fields (recover.fields [])) .nil)) ?_
  refine .cons (.fields rfl (.cons (.defaulted respect.fields (recover.fields [])) .nil)) ?_
  refine .cons (.fields rfl (.cons (.defaulted respect.fields (recover.fields [])) .nil)) ?_
  refine .cons (.fields rfl (.cons (.optional respect.expr) .nil)) ?_
  refine .cons (.fields rfl (.cons pos .nil)) ?_
  exact .nil

private theorem Stmt.variants_follow : VariantsFollow (Stmt.variants inner depth) depth .stmt := by
  have pos := posField_follows depth
  refine .cons (.record ((GenDecl.layout_follows respect).map Stmt.decl)) ?_
  refine .cons (.fields rfl (
      .cons (.required respect.exprs) <| .cons (.required text_respects) <|
      .cons (.required respect.exprs) <| .cons pos .nil)) ?_
  refine .cons (.fields rfl (
      .cons (.defaulted respect.exprs (recover.exprs [])) <| .cons pos .nil)) ?_
  refine .cons (.fields rfl (.cons (.required respect.expr) .nil)) ?_
  refine .cons (.record ((Block.layout_follows respect recover).map Stmt.block)) ?_
  refine .cons (.fields rfl (
      .cons (.optional respect.stmt) <| .cons (.required respect.expr) <|
      .cons (.required respect.block) <| .cons (.optional respect.stmt) <| .cons pos .nil)) ?_
  refine .cons (.fields rfl (
      .cons (.optional respect.stmt) <| .cons (.optional respect.expr) <|
      .cons (.optional respect.stmt) <| .cons (.required respect.block) <| .cons pos .nil)) ?_
  refine .cons (.fields rfl (
      .cons (.optional respect.expr) <| .cons (.optional respect.expr) <| .cons (.flag _) <|
      .cons (.required respect.expr) <| .cons (.required respect.block) <| .cons pos .nil)) ?_
  refine .cons (.fields rfl (
      .cons (.optional respect.stmt) <| .cons (.optional respect.expr) <|
      .cons (.defaulted respect.caseClauses (recover.caseClauses [])) <| .cons pos .nil)) ?_
  refine .cons (.fields rfl (
      .cons (.optional respect.stmt) <| .cons (.required respect.stmt) <|
      .cons (.defaulted respect.caseClauses (recover.caseClauses [])) <| .cons pos .nil)) ?_
  refine .cons (.fields rfl (
      .cons (.defaulted respect.commClauses (recover.commClauses [])) <| .cons pos .nil)) ?_
  refine .cons (.fields rfl (
      .cons (.required (Ident.reader_respects depth)) <| .cons (.required respect.stmt) .nil)) ?_
  refine .cons (.fields rfl (.cons (.required respect.expr) .nil)) ?_
  refine .cons (.fields rfl (.cons (.required respect.expr) .nil)) ?_
  refine .cons (.fields rfl (
      .cons (.required respect.expr) <| .cons (.required boolean_respects) .nil)) ?_
  refine .cons (.fields rfl (
      .cons (.required respect.expr) <| .cons (.required respect.expr) .nil)) ?_
  refine .cons (.fields rfl (
      .cons (.required text_respects) <| .cons (.optional (Ident.reader_respects depth)) .nil)) ?_
  exact .cons .bare .nil

private theorem Readers.Respect.next : (inner.next depth).Respect (depth + 1) where
  expr := tagged_respects (Expr.variants_follow respect recover) nofun
  exprs := items_respects respect.expr
  typeExpr := (TypeExpr.layout_follows respect).respects
  field := (Field.layout_follows respect).respects
  fields := items_respects respect.field
  block := (Block.layout_follows respect recover).respects
  stmt := tagged_respects (Stmt.variants_follow respect recover) nofun
  stmts := items_respects respect.stmt
  spec := tagged_respects (Spec.variants_follow respect recover) nofun
  specs := items_respects respect.spec
  caseClause := (CaseClause.layout_follows respect recover).respects
  caseClauses := items_respects respect.caseClause
  commClause := (CommClause.layout_follows respect recover).respects
  commClauses := items_respects respect.commClause

end Level

private theorem Readers.within_respect (depth : Nat) : (Readers.within depth).Respect depth := by
  induction depth with
  | zero => exact Readers.last_respect
  | succ depth ih => exact ih.next (Readers.within_recover depth)

private theorem FuncDecl.reader_respects (depth : Nat) :
    Respects (FuncDecl.reader depth) depth (.record .funcDecl) := by
  refine record_respects (fun depth => ?_) depth
  have respect := Readers.within_respect depth
  have recover := Readers.within_recover depth
  exact .ofFields rfl (.cons (.required (Ident.reader_respects depth)) <|
    .cons (.optional respect.field) <|
    .cons (.defaulted respect.fields (recover.fields [])) <|
    .cons (.defaulted respect.fields (recover.fields [])) <|
    .cons (.optional respect.block) .nil)

private theorem typeIdsReader_respects (depth : Nat) : Respects (typeIdsReader depth) depth
    (.list .any) :=
  list_respects (fun _ => TypeId.reader_respects) depth

private theorem methodsReader_respects (depth : Nat) :
    Respects (methodsReader depth) depth (.list (.record .method)) := by
  refine list_respects (record_respects fun depth => ?_) depth
  have ids := typeIdsReader_respects depth
  have none := typeIdsReader_recovers depth []
  exact .ofFields rfl (.cons (.required text_respects) <| .cons (.flag _) <|
    .cons (.defaulted ids none) <| .cons (.defaulted ids none) .nil)

private theorem TypeInfo.variants_follow (depth : Nat) :
    VariantsFollow (TypeInfo.variants depth) depth .typeInfo := by
  have methods := methodsReader_respects depth
  have none := methodsReader_recovers depth []
  refine .cons (.fields rfl (.cons (.required text_respects) .nil)) ?_
  refine .cons (.fields rfl (
      .cons (.optional text_respects) <| .cons (.required text_respects) <|
      .cons (.optional TypeId.reader_respects) <| .cons (.defaulted methods none) .nil)) ?_
  refine .cons (.fields rfl (.cons (.required TypeId.reader_respects) .nil)) ?_
  refine .cons (.fields rfl (.cons (.defaulted methods none) .nil)) ?_
  exact .cons .bare (.cons .bare .nil)

private theorem TypeInfo.reader_respects (depth : Nat) :
    Respects (TypeInfo.reader depth) depth (.choice .typeInfo) := by
  cases depth with
  | zero => exact noRecord_respects _
  | succ depth =>
      refine tagged_respects (TypeInfo.variants_follow depth) ?_
      rintro _ ⟨⟩
      exact .bare _ _ _

private theorem TypeTable.reader_respects (depth : Nat) :
    Respects (TypeTable.reader depth) depth (.list (.choice .typeInfo)) :=
  (list_respects TypeInfo.reader_respects depth).map TypeTable.mk

private theorem SourceFile.reader_respects (depth : Nat) :
    Respects (SourceFile.reader depth) depth (.record .sourceFile) := by
  refine record_respects (fun depth => ?_) depth
  exact .ofFields rfl (.cons (.required text_respects) <|
    .cons (.defaulted (list_respects FuncDecl.reader_respects depth)
      (Reader.list_recovers FuncDecl.reader_recovers depth [])) .nil)

private theorem Package.reader_respects (depth : Nat) :
    Respects (Package.reader depth) depth (.record .package) := by
  refine record_respects (fun depth => ?_) depth
  exact .ofFields rfl (.cons (.required text_respects) <|
    .cons (.defaulted (TypeTable.reader_respects depth) (TypeTable.reader_recovers depth {})) <|
    .cons (.defaulted (list_respects SourceFile.reader_respects depth)
      (Reader.list_recovers SourceFile.reader_recovers depth [])) .nil)

/-- Whether two documents differ by steps of layout only, in either direction. -/
def UpToLayout (first second : Source) : Prop :=
  Relation.EqvGen (LayoutStep maxDepth (.record .package)) first.tree second.tree ∧
    first.trailing = second.trailing

private theorem Package.reader_iff {tree other : Tree}
    (steps : Relation.EqvGen (LayoutStep maxDepth (.record .package)) tree other)
    (package : Package) :
    Package.reader maxDepth .streamed tree = .ok package ↔
      Package.reader maxDepth .streamed other = .ok package := by
  induction steps with
  | rel first second step =>
      exact Package.reader_respects maxDepth .streamed first second step package
  | refl tree => exact Iff.rfl
  | symm first second _ same => exact same.symm
  | trans first second third _ _ before after => exact before.trans after

/-- Layout changes neither whether a package can be read nor which package is read. -/
theorem ofText_layout_irrelevant {text other : String}
    (alike : UpToLayout (Source.ofText text) (Source.ofText other)) (package : Package) :
    Package.ofText text = .ok package ↔ Package.ofText other = .ok package := by
  obtain ⟨steps, ends⟩ := alike
  rw [Package.ofText, Package.ofText, Source.read_eq_ok_iff, Source.read_eq_ok_iff, ends,
    Package.reader_iff steps package]

private theorem briefEntries_step {first second : Json}
    (step : LayoutStep 118 (.choice .expr) (.ofJson first) (.ofJson second)) :
    LayoutStep maxDepth (.record .package) (.ofJson (.object (briefEntries first)))
      (.ofJson (.object (briefEntries second))) :=
  @LayoutStep.entry _ _ [] _ _ _ _ _ <| @LayoutStep.item _ _ [] _ _ _ _ <|
    @LayoutStep.entry _ _ [(⟨"path", none⟩, .text ⟨"print.go", none⟩)] _ _ _ _ _ <|
    @LayoutStep.item _ _ [] _ _ _ _ <| @LayoutStep.entry _ _ [] _ _ _ _ _ <|
    @LayoutStep.entry _ _ [] _ _ _ _ _ <| @LayoutStep.item _ _ [] _ _ _ _ <|
    @LayoutStep.entry _ _ [] _ _ _ _ _ <| @LayoutStep.item _ _ [] _ _ _ _ step

/-- The identifier with its `kind` first and its place written. -/
def verboseIdent : Json :=
  .object [("kind", .text "ident"), ("name", .text "err"), ("pos", Pos.toJson {})]

/-- The whole document with an entry that nobody knows. -/
def verboseJson : Json :=
  .object (("version", .number 3) :: briefEntries verboseIdent)

private theorem briefJson_upToLayout :
    UpToLayout (Source.ofText briefJson.compact) (Source.ofText verboseJson.compact) := by
  have verboseInRange : verboseJson.InRange := by
    simp [verboseJson, briefEntries, verboseIdent, Pos.toJson, wordJson, Json.InRange,
      Json.ItemsInRange, Json.EntriesInRange, UInt64.size]
  have kindFirst : LayoutStep 118 (.choice .expr) (.ofJson briefIdent)
      (.ofJson (.object [("kind", .text "ident"), ("name", .text "err")])) :=
    .reorder (.swap _ _ _)
  have placed : LayoutStep 118 (.choice .expr)
      (.ofJson (.object [("kind", .text "ident"), ("name", .text "err")])) (.ofJson verboseIdent) := by
    refine @LayoutStep.addDefault _ _
      [(⟨"kind", none⟩, .text ⟨"ident", none⟩), (⟨"name", none⟩, .text ⟨"err", none⟩)] []
      _ _ .pos _ rfl ?_ ?_ rfl (by decide)
    · exact .tail _ (.tail _ (.head _))
    · decide
  have unknown : LayoutStep maxDepth (.record .package)
      (.ofJson (.object (briefEntries verboseIdent))) (.ofJson verboseJson) := by
    refine @LayoutStep.addUnknown _ _ [] _ _ _ "version" (.number (.natural 3)) rfl ?_ ?_
    · decide
    · intro outside
      cases outside
  rw [Json.ofText_compact briefJson_inRange, Json.ofText_compact verboseInRange]
  refine ⟨?_, rfl⟩
  refine .trans _ _ _ (.rel _ _ (briefEntries_step kindFirst)) ?_
  exact .trans _ _ _ (.rel _ _ (briefEntries_step placed)) (.rel _ _ unknown)

theorem ofText_layout_irrelevant_brief :
    UpToLayout (Source.ofText briefJson.compact) (Source.ofText verboseJson.compact) ∧
      Package.ofText verboseJson.compact = .ok briefPackage :=
  ⟨briefJson_upToLayout,
    (ofText_layout_irrelevant briefJson_upToLayout briefPackage).mp ofText_briefJson⟩

end ZeroError.Go
