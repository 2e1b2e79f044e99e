import ZeroError.Document.Json
import ZeroError.Go.TypeTable

/-!
The written form of Go syntax, type tables and packages. Every field is written in the order of its
declaration, also where its value is the one that reading would supply; what is absent is `null`.
-/

namespace ZeroError.Go

open ZeroError.Document

def wordJson (value : UInt32) : Json :=
  .number value.toNat

def Pos.toJson (pos : Pos) : Json :=
  .object [("offset", wordJson pos.offset), ("line", wordJson pos.line),
    ("column", wordJson pos.column)]

def Ident.entries (ident : Ident) : List (String × Json) :=
  [("name", .text ident.name), ("pos", ident.pos.toJson)]

def Ident.toJson (ident : Ident) : Json :=
  .object ident.entries

def identsJson (idents : List Ident) : Json :=
  .ofList Ident.toJson idents

def TypeId.toJson (id : TypeId) : Json :=
  wordJson id.index

def LitKind.toJson : LitKind → Json
  | .int => .text "int"
  | .float => .text "float"
  | .imag => .text "imag"
  | .char => .text "char"
  | .string => .text "string"

def DeclToken.toJson : DeclToken → Json
  | .var => .text "var"
  | .const => .text "const"
  | .type => .text "type"

def tagged (kind : String) (entries : List (String × Json)) : Json :=
  .object (("kind", .text kind) :: entries)

mutual

def Expr.toJson : Expr → Json
  | .ident name => tagged "ident" name.entries
  | .basicLit lit value pos =>
      tagged "basic_lit" [("lit", lit.toJson), ("value", .text value), ("pos", pos.toJson)]
  | .compositeLit type elts pos =>
      tagged "composite_lit" [("type", optionalExprJson type), ("elts", .list (exprItems elts)),
        ("pos", pos.toJson)]
  | .funcLit params results body pos =>
      tagged "func_lit" [("params", .list (fieldItems params)),
        ("results", .list (fieldItems results)), ("body", body.toJson), ("pos", pos.toJson)]
  | .paren x => tagged "paren" [("x", x.toJson)]
  | .selector x sel => tagged "selector" [("x", x.toJson), ("sel", sel.toJson)]
  | .index x position => tagged "index" [("x", x.toJson), ("index", position.toJson)]
  | .slice x low high max =>
      tagged "slice" [("x", x.toJson), ("low", optionalExprJson low),
        ("high", optionalExprJson high), ("max", optionalExprJson max)]
  | .typeAssert x type => tagged "type_assert" [("x", x.toJson), ("type", optionalExprJson type)]
  | .call callee args spread =>
      tagged "call" [("fun", callee.toJson), ("args", .list (exprItems args)),
        ("ellipsis", .bool spread)]
  | .star x pos => tagged "star" [("x", x.toJson), ("pos", pos.toJson)]
  | .unary op x pos => tagged "unary" [("op", .text op), ("x", x.toJson), ("pos", pos.toJson)]
  | .binary x op y => tagged "binary" [("x", x.toJson), ("op", .text op), ("y", y.toJson)]
  | .keyValue key value => tagged "key_value" [("key", key.toJson), ("value", value.toJson)]
  | .arrayType len elt => tagged "array_type" [("len", optionalExprJson len), ("elt", elt.toJson)]
  | .mapType key value => tagged "map_type" [("key", key.toJson), ("value", value.toJson)]
  | .chanType dir value => tagged "chan_type" [("dir", .text dir), ("value", value.toJson)]
  | .funcType params results =>
      tagged "func_type" [("params", .list (fieldItems params)),
        ("results", .list (fieldItems results))]
  | .structType fields => tagged "struct_type" [("fields", .list (fieldItems fields))]
  | .interfaceType methods => tagged "interface_type" [("methods", .list (fieldItems methods))]
  | .ellipsis elt => tagged "ellipsis" [("elt", optionalExprJson elt)]
  | .bad pos => tagged "bad" [("pos", pos.toJson)]

def exprItems : List Expr → List Json
  | [] => []
  | expr :: exprs => expr.toJson :: exprItems exprs

def optionalExprJson : Option Expr → Json
  | none => .null
  | some expr => expr.toJson

def TypeExpr.toJson : TypeExpr → Json
  | ⟨expr, typeId⟩ => .object [("expr", expr.toJson), ("type_id", typeId.toJson)]

def optionalTypeExprJson : Option TypeExpr → Json
  | none => .null
  | some type => type.toJson

def Field.toJson : Field → Json
  | ⟨names, type⟩ => .object [("names", identsJson names), ("type", type.toJson)]

def fieldItems : List Field → List Json
  | [] => []
  | field :: fields => field.toJson :: fieldItems fields

def Block.entries : Block → List (String × Json)
  | ⟨stmts, pos⟩ => [("stmts", .list (stmtItems stmts)), ("pos", pos.toJson)]

def Block.toJson : Block → Json
  | ⟨stmts, pos⟩ => .object [("stmts", .list (stmtItems stmts)), ("pos", pos.toJson)]

def Stmt.toJson : Stmt → Json
  | .decl declaration => tagged "decl" declaration.entries
  | .assign lhs tok rhs pos =>
      tagged "assign" [("lhs", .list (exprItems lhs)), ("tok", .text tok),
        ("rhs", .list (exprItems rhs)), ("pos", pos.toJson)]
  | .ret results pos =>
      tagged "return" [("results", .list (exprItems results)), ("pos", pos.toJson)]
  | .expr x => tagged "expr" [("x", x.toJson)]
  | .block body => tagged "block" body.entries
  | .ifElse init cond body otherwise pos =>
      tagged "if" [("init", optionalStmtJson init), ("cond", cond.toJson), ("body", body.toJson),
        ("else", optionalStmtJson otherwise), ("pos", pos.toJson)]
  | .forLoop init cond post body pos =>
      tagged "for" [("init", optionalStmtJson init), ("cond", optionalExprJson cond),
        ("post", optionalStmtJson post), ("body", body.toJson), ("pos", pos.toJson)]
  | .rangeLoop key value define x body pos =>
      tagged "range" [("key", optionalExprJson key), ("value", optionalExprJson value),
        ("define", .bool define), ("x", x.toJson), ("body", body.toJson), ("pos", pos.toJson)]
  | .switch init tag clauses pos =>
      tagged "switch" [("init", optionalStmtJson init), ("tag", optionalExprJson tag),
        ("clauses", .list (caseClauseItems clauses)), ("pos", pos.toJson)]
  | .typeSwitch init guarded clauses pos =>
      tagged "type_switch" [("init", optionalStmtJson init), ("assign", guarded.toJson),
        ("clauses", .list (caseClauseItems clauses)), ("pos", pos.toJson)]
  | .select clauses pos =>
      tagged "select" [("clauses", .list (commClauseItems clauses)), ("pos", pos.toJson)]
  | .labeled label target => tagged "labeled" [("label", label.toJson), ("stmt", target.toJson)]
  | .go call => tagged "go" [("call", call.toJson)]
  | .defer call => tagged "defer" [("call", call.toJson)]
  | .incDec x inc => tagged "inc_dec" [("x", x.toJson), ("inc", .bool inc)]
  | .send chan value => tagged "send" [("chan", chan.toJson), ("value", value.toJson)]
  | .branch tok label => tagged "branch" [("tok", .text tok), ("label", .ofOption Ident.toJson label)]
  | .empty => tagged "empty" []

def stmtItems : List Stmt → List Json
  | [] => []
  | stmt :: stmts => stmt.toJson :: stmtItems stmts

def optionalStmtJson : Option Stmt → Json
  | none => .null
  | some stmt => stmt.toJson

def GenDecl.entries : GenDecl → List (String × Json)
  | ⟨tok, specs, pos⟩ =>
      [("tok", tok.toJson), ("specs", .list (specItems specs)), ("pos", pos.toJson)]

def Spec.toJson : Spec → Json
  | .value spec => tagged "value" spec.entries
  | .type spec => tagged "type" spec.entries

def specItems : List Spec → List Json
  | [] => []
  | spec :: specs => spec.toJson :: specItems specs

def ValueSpec.entries : ValueSpec → List (String × Json)
  | ⟨names, type, values⟩ =>
      [("names", identsJson names), ("type", optionalTypeExprJson type),
        ("values", .list (exprItems values))]

def TypeSpec.entries : TypeSpec → List (String × Json)
  | ⟨name, type⟩ => [("name", name.toJson), ("type", type.toJson)]

def CaseClause.toJson : CaseClause → Json
  | ⟨list, body, pos⟩ =>
      .object [("list", .list (exprItems list)), ("body", .list (stmtItems body)),
        ("pos", pos.toJson)]

def caseClauseItems : List CaseClause → List Json
  | [] => []
  | clause :: clauses => clause.toJson :: caseClauseItems clauses

def CommClause.toJson : CommClause → Json
  | ⟨comm, body, pos⟩ =>
      .object [("comm", optionalStmtJson comm), ("body", .list (stmtItems body)),
        ("pos", pos.toJson)]

def commClauseItems : List CommClause → List Json
  | [] => []
  | clause :: clauses => clause.toJson :: commClauseItems clauses

end

def FuncDecl.toJson (func : FuncDecl) : Json :=
  .object [("name", func.name.toJson), ("recv", .ofOption Field.toJson func.recv),
    ("params", .list (fieldItems func.params)), ("results", .list (fieldItems func.results)),
    ("body", .ofOption Block.toJson func.body)]

def Method.toJson (method : Method) : Json :=
  .object [("name", .text method.name), ("pointer_receiver", .bool method.pointerReceiver),
    ("params", .ofList TypeId.toJson method.params),
    ("results", .ofList TypeId.toJson method.results)]

def TypeInfo.toJson : TypeInfo → Json
  | .basic name => tagged "basic" [("name", .text name)]
  | .named package name underlying methods =>
      tagged "named" [("package", .ofOption .text package), ("name", .text name),
        ("underlying", .ofOption TypeId.toJson underlying),
        ("methods", .ofList Method.toJson methods)]
  | .pointer elem => tagged "pointer" [("elem", elem.toJson)]
  | .interface methods => tagged "interface" [("methods", .ofList Method.toJson methods)]
  | .struct => tagged "struct" []
  | .other => tagged "opaque" []

def TypeTable.toJson (table : TypeTable) : Json :=
  .ofList TypeInfo.toJson table.types

def SourceFile.toJson (file : SourceFile) : Json :=
  .object [("path", .text file.path), ("funcs", .ofList FuncDecl.toJson file.funcs)]

def Package.toJson (package : Package) : Json :=
  .object [("path", .text package.path), ("types", package.types.toJson),
    ("files", .ofList SourceFile.toJson package.files)]

end ZeroError.Go
