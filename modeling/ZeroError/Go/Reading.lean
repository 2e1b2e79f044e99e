import ZeroError.Document.Reader
import ZeroError.Go.TypeTable

/-!
How Go syntax, type tables and packages are read from documents. Syntax nests without bound, but
a document does not: the readers for one more level of nesting are made from those for one level
less, and the last level reads no list and no object.
-/

namespace ZeroError.Go

open ZeroError.Document

/-! Places and names -/

def Pos.layout : Layout Pos :=
  (Fields.cons (defaulted "offset" Reader.word 0) <|
    .cons (required "line" Reader.word) <|
    .cons (required "column" Reader.word) .nil).layout "struct Pos" Pos.mk

def Pos.reader : (depth : Nat) → Reader Pos :=
  Reader.record "struct Pos" (fun _ => Pos.layout)

def posField (depth : Nat) : FieldRule Pos :=
  defaulted "pos" (Pos.reader depth) {}

def Ident.layout (depth : Nat) : Layout Ident :=
  (Fields.cons (required "name" Reader.text) <|
    .cons (posField depth) .nil).layout "struct Ident" Ident.mk

def Ident.reader : (depth : Nat) → Reader Ident :=
  Reader.record "struct Ident" Ident.layout

def TypeId.reader : Reader TypeId := fun mode tree =>
  (Reader.word mode tree).map TypeId.mk

def LitKind.names : List (String × LitKind) :=
  [("int", .int), ("float", .float), ("imag", .imag), ("char", .char), ("string", .string)]

def DeclToken.names : List (String × DeclToken) :=
  [("var", .var), ("const", .const), ("type", .type)]

/-! Syntax -/

structure Readers where
  expr : Reader Expr
  exprs : Reader (List Expr)
  typeExpr : Reader TypeExpr
  field : Reader Field
  fields : Reader (List Field)
  block : Reader Block
  stmt : Reader Stmt
  stmts : Reader (List Stmt)
  spec : Reader Spec
  specs : Reader (List Spec)
  caseClause : Reader CaseClause
  caseClauses : Reader (List CaseClause)
  commClause : Reader CommClause
  commClauses : Reader (List CommClause)

def Readers.last : Readers where
  expr := Reader.noRecord (.tagged "Expr")
  exprs := Reader.noItems
  typeExpr := Reader.noRecord (.record "struct TypeExpr")
  field := Reader.noRecord (.record "struct Field")
  fields := Reader.noItems
  block := Reader.noRecord (.record "struct Block")
  stmt := Reader.noRecord (.tagged "Stmt")
  stmts := Reader.noItems
  spec := Reader.noRecord (.tagged "Spec")
  specs := Reader.noItems
  caseClause := Reader.noRecord (.record "struct CaseClause")
  caseClauses := Reader.noItems
  commClause := Reader.noRecord (.record "struct CommClause")
  commClauses := Reader.noItems

def identsReader : (depth : Nat) → Reader (List Ident) :=
  Reader.list Ident.reader

def TypeExpr.layout (inner : Readers) : Layout TypeExpr :=
  (Fields.cons (required "expr" inner.expr) <|
    .cons (required "type_id" TypeId.reader) .nil).layout "struct TypeExpr" TypeExpr.mk

def Field.layout (inner : Readers) (depth : Nat) : Layout Field :=
  (Fields.cons (defaulted "names" (identsReader depth) []) <|
    .cons (required "type" inner.typeExpr) .nil).layout "struct Field" Field.mk

def Block.layout (inner : Readers) (depth : Nat) : Layout Block :=
  (Fields.cons (defaulted "stmts" inner.stmts []) <|
    .cons (posField depth) .nil).layout "struct Block" Block.mk

def GenDecl.layout (inner : Readers) (depth : Nat) : Layout GenDecl :=
  (Fields.cons (required "tok" (Reader.name DeclToken.names depth)) <|
    .cons (required "specs" inner.specs) <|
    .cons (posField depth) .nil).layout "struct GenDecl" GenDecl.mk

def ValueSpec.layout (inner : Readers) (depth : Nat) : Layout ValueSpec :=
  (Fields.cons (required "names" (identsReader depth)) <|
    .cons (optional "type" inner.typeExpr) <|
    .cons (defaulted "values" inner.exprs []) .nil).layout "struct ValueSpec" ValueSpec.mk

def TypeSpec.layout (inner : Readers) (depth : Nat) : Layout TypeSpec :=
  (Fields.cons (required "name" (Ident.reader depth)) <|
    .cons (required "type" inner.typeExpr) .nil).layout "struct TypeSpec" TypeSpec.mk

def CaseClause.layout (inner : Readers) (depth : Nat) : Layout CaseClause :=
  (Fields.cons (defaulted "list" inner.exprs []) <|
    .cons (defaulted "body" inner.stmts []) <|
    .cons (posField depth) .nil).layout "struct CaseClause" CaseClause.mk

def CommClause.layout (inner : Readers) (depth : Nat) : Layout CommClause :=
  (Fields.cons (optional "comm" inner.stmt) <|
    .cons (defaulted "body" inner.stmts []) <|
    .cons (posField depth) .nil).layout "struct CommClause" CommClause.mk

def Spec.variants (inner : Readers) (depth : Nat) : List (Variant Spec) := [
  .record "value" ((ValueSpec.layout inner depth).map Spec.value),
  .record "type" ((TypeSpec.layout inner depth).map Spec.type)]

def Expr.variants (inner : Readers) (depth : Nat) : List (Variant Expr) := [
  .record "ident" ((Ident.layout depth).map Expr.ident),
  .record "basic_lit" ((Fields.cons (required "lit" (Reader.name LitKind.names depth)) <|
    .cons (required "value" Reader.text) <|
    .cons (posField depth) .nil).layout "struct variant Expr::BasicLit" Expr.basicLit),
  .record "composite_lit" ((Fields.cons (optional "type" inner.expr) <|
    .cons (defaulted "elts" inner.exprs []) <|
    .cons (posField depth) .nil).layout "struct variant Expr::CompositeLit" Expr.compositeLit),
  .record "func_lit" ((Fields.cons (defaulted "params" inner.fields []) <|
    .cons (defaulted "results" inner.fields []) <|
    .cons (required "body" inner.block) <|
    .cons (posField depth) .nil).layout "struct variant Expr::FuncLit" Expr.funcLit),
  .record "paren" ((Fields.cons (required "x" inner.expr) .nil).layout
    "struct variant Expr::Paren" Expr.paren),
  .record "selector" ((Fields.cons (required "x" inner.expr) <|
    .cons (required "sel" (Ident.reader depth)) .nil).layout
      "struct variant Expr::Selector" Expr.selector),
  .record "index" ((Fields.cons (required "x" inner.expr) <|
    .cons (required "index" inner.expr) .nil).layout "struct variant Expr::Index" Expr.index),
  .record "slice" ((Fields.cons (required "x" inner.expr) <|
    .cons (optional "low" inner.expr) <|
    .cons (optional "high" inner.expr) <|
    .cons (optional "max" inner.expr) .nil).layout "struct variant Expr::Slice" Expr.slice),
  .record "type_assert" ((Fields.cons (required "x" inner.expr) <|
    .cons (optional "type" inner.expr) .nil).layout
      "struct variant Expr::TypeAssert" Expr.typeAssert),
  .record "call" ((Fields.cons (required "fun" inner.expr) <|
    .cons (defaulted "args" inner.exprs []) <|
    .cons (defaulted "ellipsis" Reader.boolean false) .nil).layout
      "struct variant Expr::Call" Expr.call),
  .record "star" ((Fields.cons (required "x" inner.expr) <|
    .cons (posField depth) .nil).layout "struct variant Expr::Star" Expr.star),
  .record "unary" ((Fields.cons (required "op" Reader.text) <|
    .cons (required "x" inner.expr) <|
    .cons (posField depth) .nil).layout "struct variant Expr::Unary" Expr.unary),
  .record "binary" ((Fields.cons (required "x" inner.expr) <|
    .cons (required "op" Reader.text) <|
    .cons (required "y" inner.expr) .nil).layout "struct variant Expr::Binary" Expr.binary),
  .record "key_value" ((Fields.cons (required "key" inner.expr) <|
    .cons (required "value" inner.expr) .nil).layout "struct variant Expr::KeyValue" Expr.keyValue),
  .record "array_type" ((Fields.cons (optional "len" inner.expr) <|
    .cons (required "elt" inner.expr) .nil).layout "struct variant Expr::ArrayType" Expr.arrayType),
  .record "map_type" ((Fields.cons (required "key" inner.expr) <|
    .cons (required "value" inner.expr) .nil).layout "struct variant Expr::MapType" Expr.mapType),
  .record "chan_type" ((Fields.cons (required "dir" Reader.text) <|
    .cons (required "value" inner.expr) .nil).layout "struct variant Expr::ChanType" Expr.chanType),
  .record "func_type" ((Fields.cons (defaulted "params" inner.fields []) <|
    .cons (defaulted "results" inner.fields []) .nil).layout
      "struct variant Expr::FuncType" Expr.funcType),
  .record "struct_type" ((Fields.cons (defaulted "fields" inner.fields []) .nil).layout
    "struct variant Expr::StructType" Expr.structType),
  .record "interface_type" ((Fields.cons (defaulted "methods" inner.fields []) .nil).layout
    "struct variant Expr::InterfaceType" Expr.interfaceType),
  .record "ellipsis" ((Fields.cons (optional "elt" inner.expr) .nil).layout
    "struct variant Expr::Ellipsis" Expr.ellipsis),
  .record "bad" ((Fields.cons (posField depth) .nil).layout
    "struct variant Expr::Bad" Expr.bad)]

def Stmt.variants (inner : Readers) (depth : Nat) : List (Variant Stmt) := [
  .record "decl" ((GenDecl.layout inner depth).map Stmt.decl),
  .record "assign" ((Fields.cons (required "lhs" inner.exprs) <|
    .cons (required "tok" Reader.text) <|
    .cons (required "rhs" inner.exprs) <|
    .cons (posField depth) .nil).layout "struct variant Stmt::Assign" Stmt.assign),
  .record "return" ((Fields.cons (defaulted "results" inner.exprs []) <|
    .cons (posField depth) .nil).layout "struct variant Stmt::Return" Stmt.ret),
  .record "expr" ((Fields.cons (required "x" inner.expr) .nil).layout
    "struct variant Stmt::Expr" Stmt.expr),
  .record "block" ((Block.layout inner depth).map Stmt.block),
  .record "if" ((Fields.cons (optional "init" inner.stmt) <|
    .cons (required "cond" inner.expr) <|
    .cons (required "body" inner.block) <|
    .cons (optional "else" inner.stmt) <|
    .cons (posField depth) .nil).layout "struct variant Stmt::If" Stmt.ifElse),
  .record "for" ((Fields.cons (optional "init" inner.stmt) <|
    .cons (optional "cond" inner.expr) <|
    .cons (optional "post" inner.stmt) <|
    .cons (required "body" inner.block) <|
    .cons (posField depth) .nil).layout "struct variant Stmt::For" Stmt.forLoop),
  .record "range" ((Fields.cons (optional "key" inner.expr) <|
    .cons (optional "value" inner.expr) <|
    .cons (defaulted "define" Reader.boolean false) <|
    .cons (required "x" inner.expr) <|
    .cons (required "body" inner.block) <|
    .cons (posField depth) .nil).layout "struct variant Stmt::Range" Stmt.rangeLoop),
  .record "switch" ((Fields.cons (optional "init" inner.stmt) <|
    .cons (optional "tag" inner.expr) <|
    .cons (defaulted "clauses" inner.caseClauses []) <|
    .cons (posField depth) .nil).layout "struct variant Stmt::Switch" Stmt.switch),
  .record "type_switch" ((Fields.cons (optional "init" inner.stmt) <|
    .cons (required "assign" inner.stmt) <|
    .cons (defaulted "clauses" inner.caseClauses []) <|
    .cons (posField depth) .nil).layout "struct variant Stmt::TypeSwitch" Stmt.typeSwitch),
  .record "select" ((Fields.cons (defaulted "clauses" inner.commClauses []) <|
    .cons (posField depth) .nil).layout "struct variant Stmt::Select" Stmt.select),
  .record "labeled" ((Fields.cons (required "label" (Ident.reader depth)) <|
    .cons (required "stmt" inner.stmt) .nil).layout "struct variant Stmt::Labeled" Stmt.labeled),
  .record "go" ((Fields.cons (required "call" inner.expr) .nil).layout
    "struct variant Stmt::Go" Stmt.go),
  .record "defer" ((Fields.cons (required "call" inner.expr) .nil).layout
    "struct variant Stmt::Defer" Stmt.defer),
  .record "inc_dec" ((Fields.cons (required "x" inner.expr) <|
    .cons (required "inc" Reader.boolean) .nil).layout "struct variant Stmt::IncDec" Stmt.incDec),
  .record "send" ((Fields.cons (required "chan" inner.expr) <|
    .cons (required "value" inner.expr) .nil).layout "struct variant Stmt::Send" Stmt.send),
  .record "branch" ((Fields.cons (required "tok" Reader.text) <|
    .cons (optional "label" (Ident.reader depth)) .nil).layout
      "struct variant Stmt::Branch" Stmt.branch),
  .bare "empty" Stmt.empty]

/-- The readers for one level more than `inner`, which reads `depth` levels. -/
def Readers.next (inner : Readers) (depth : Nat) : Readers where
  expr := Reader.tagged "Expr" (Expr.variants inner depth) none depth
  exprs := Reader.items inner.expr
  typeExpr := (TypeExpr.layout inner).reader
  field := (Field.layout inner depth).reader
  fields := Reader.items inner.field
  block := (Block.layout inner depth).reader
  stmt := Reader.tagged "Stmt" (Stmt.variants inner depth) none depth
  stmts := Reader.items inner.stmt
  spec := Reader.tagged "Spec" (Spec.variants inner depth) none depth
  specs := Reader.items inner.spec
  caseClause := (CaseClause.layout inner depth).reader
  caseClauses := Reader.items inner.caseClause
  commClause := (CommClause.layout inner depth).reader
  commClauses := Reader.items inner.commClause

def Readers.within : (depth : Nat) → Readers
  | 0 => .last
  | depth + 1 => (Readers.within depth).next depth

def GenDecl.reader : (depth : Nat) → Reader GenDecl :=
  Reader.record "struct GenDecl" (fun depth => GenDecl.layout (.within depth) depth)

def ValueSpec.reader : (depth : Nat) → Reader ValueSpec :=
  Reader.record "struct ValueSpec" (fun depth => ValueSpec.layout (.within depth) depth)

/-! Functions, types and packages -/

def FuncDecl.layout (depth : Nat) : Layout FuncDecl :=
  let inner := Readers.within depth
  (Fields.cons (required "name" (Ident.reader depth)) <|
    .cons (optional "recv" inner.field) <|
    .cons (defaulted "params" inner.fields []) <|
    .cons (defaulted "results" inner.fields []) <|
    .cons (optional "body" inner.block) .nil).layout "struct FuncDecl" FuncDecl.mk

def FuncDecl.reader : (depth : Nat) → Reader FuncDecl :=
  Reader.record "struct FuncDecl" FuncDecl.layout

def typeIdsReader : (depth : Nat) → Reader (List TypeId) :=
  Reader.list (fun _ => TypeId.reader)

def Method.layout (depth : Nat) : Layout Method :=
  (Fields.cons (required "name" Reader.text) <|
    .cons (defaulted "pointer_receiver" Reader.boolean false) <|
    .cons (defaulted "params" (typeIdsReader depth) []) <|
    .cons (defaulted "results" (typeIdsReader depth) []) .nil).layout "struct Method" Method.mk

def methodsReader : (depth : Nat) → Reader (List Method) :=
  Reader.list (Reader.record "struct Method" Method.layout)

def TypeInfo.variants (depth : Nat) : List (Variant TypeInfo) := [
  .record "basic" ((Fields.cons (required "name" Reader.text) .nil).layout
    "struct variant TypeInfo::Basic" TypeInfo.basic),
  .record "named" ((Fields.cons (optional "package" Reader.text) <|
    .cons (required "name" Reader.text) <|
    .cons (optional "underlying" TypeId.reader) <|
    .cons (defaulted "methods" (methodsReader depth) []) .nil).layout
      "struct variant TypeInfo::Named" TypeInfo.named),
  .record "pointer" ((Fields.cons (required "elem" TypeId.reader) .nil).layout
    "struct variant TypeInfo::Pointer" TypeInfo.pointer),
  .record "interface" ((Fields.cons (defaulted "methods" (methodsReader depth) []) .nil).layout
    "struct variant TypeInfo::Interface" TypeInfo.interface),
  .bare "struct" TypeInfo.struct,
  .bare "opaque" TypeInfo.other]

/-- Reads a type. A kind that is not known stands for any other type. -/
def TypeInfo.reader : (depth : Nat) → Reader TypeInfo
  | 0 => Reader.noRecord (.tagged "TypeInfo")
  | depth + 1 =>
      Reader.tagged "TypeInfo" (TypeInfo.variants depth) (some (.bare "opaque" .other)) depth

def TypeTable.reader (depth : Nat) : Reader TypeTable := fun mode tree =>
  (Reader.list TypeInfo.reader depth mode tree).map TypeTable.mk

def SourceFile.layout (depth : Nat) : Layout SourceFile :=
  (Fields.cons (required "path" Reader.text) <|
    .cons (defaulted "funcs" (Reader.list FuncDecl.reader depth) []) .nil).layout
      "struct SourceFile" SourceFile.mk

def SourceFile.reader : (depth : Nat) → Reader SourceFile :=
  Reader.record "struct SourceFile" SourceFile.layout

def Package.layout (depth : Nat) : Layout Package :=
  (Fields.cons (required "path" Reader.text) <|
    .cons (defaulted "types" (TypeTable.reader depth) {}) <|
    .cons (defaulted "files" (Reader.list SourceFile.reader depth) []) .nil).layout
      "struct Package" Package.mk

def Package.reader : (depth : Nat) → Reader Package :=
  Reader.record "struct Package" Package.layout

def Expr.reader (depth : Nat) : Reader Expr := (Readers.within depth).expr

def Stmt.reader (depth : Nat) : Reader Stmt := (Readers.within depth).stmt

def Field.reader (depth : Nat) : Reader Field := (Readers.within depth).field

def Block.reader (depth : Nat) : Reader Block := (Readers.within depth).block

def Package.ofText (text : String) : Except Fault Package :=
  (Source.ofText text).read Package.reader

end ZeroError.Go
