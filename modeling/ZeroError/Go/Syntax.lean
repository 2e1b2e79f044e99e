/-!
Go syntax as the front end hands it over. Expressions, statements and type syntax enclose one
another, so they are declared together; a type annotation carries the number of its type in the
type table of the package.
-/

namespace ZeroError.Go

structure Pos where
  offset : UInt32 := 0
  line : UInt32 := 0
  column : UInt32 := 0
deriving DecidableEq, Repr, Inhabited

def Pos.text (pos : Pos) : String :=
  toString pos.line.toNat ++ ":" ++ toString pos.column.toNat

structure Ident where
  name : String
  pos : Pos := {}
deriving DecidableEq, Repr, Inhabited

structure TypeId where
  index : UInt32
deriving DecidableEq, Repr, Inhabited

def TypeId.text (id : TypeId) : String :=
  "#" ++ toString id.index.toNat

inductive LitKind
  | int
  | float
  | imag
  | char
  | string
deriving DecidableEq, Repr, Inhabited

inductive DeclToken
  | var
  | const
  | type
deriving DecidableEq, Repr, Inhabited

mutual

inductive Expr
  | ident (ident : Ident)
  | basicLit (lit : LitKind) (value : String) (pos : Pos)
  | compositeLit (type : Option Expr) (elts : List Expr) (pos : Pos)
  | funcLit (params results : List Field) (body : Block) (pos : Pos)
  | paren (x : Expr)
  | selector (x : Expr) (sel : Ident)
  | index (x index : Expr)
  | slice (x : Expr) (low high max : Option Expr)
  | typeAssert (x : Expr) (type : Option Expr)
  | call (callee : Expr) (args : List Expr) (ellipsis : Bool)
  | star (x : Expr) (pos : Pos)
  | unary (op : String) (x : Expr) (pos : Pos)
  | binary (x : Expr) (op : String) (y : Expr)
  | keyValue (key value : Expr)
  | arrayType (len : Option Expr) (elt : Expr)
  | mapType (key value : Expr)
  | chanType (dir : String) (value : Expr)
  | funcType (params results : List Field)
  | structType (fields : List Field)
  | interfaceType (methods : List Field)
  | ellipsis (elt : Option Expr)
  | bad (pos : Pos)

structure TypeExpr where
  expr : Expr
  typeId : TypeId

/-- A group of names with one type: parameters, results, struct fields or methods. -/
structure Field where
  names : List Ident
  type : TypeExpr

structure Block where
  stmts : List Stmt
  pos : Pos

inductive Stmt
  | decl (decl : GenDecl)
  | assign (lhs : List Expr) (tok : String) (rhs : List Expr) (pos : Pos)
  | ret (results : List Expr) (pos : Pos)
  | expr (x : Expr)
  | block (block : Block)
  | ifElse (init : Option Stmt) (cond : Expr) (body : Block) (otherwise : Option Stmt) (pos : Pos)
  | forLoop (init : Option Stmt) (cond : Option Expr) (post : Option Stmt) (body : Block) (pos : Pos)
  | rangeLoop (key value : Option Expr) (define : Bool) (x : Expr) (body : Block) (pos : Pos)
  | switch (init : Option Stmt) (tag : Option Expr) (clauses : List CaseClause) (pos : Pos)
  | typeSwitch (init : Option Stmt) (assign : Stmt) (clauses : List CaseClause) (pos : Pos)
  | select (clauses : List CommClause) (pos : Pos)
  | labeled (label : Ident) (stmt : Stmt)
  | go (call : Expr)
  | defer (call : Expr)
  | incDec (x : Expr) (inc : Bool)
  | send (chan value : Expr)
  | branch (tok : String) (label : Option Ident)
  | empty

structure GenDecl where
  tok : DeclToken
  specs : List Spec
  pos : Pos

inductive Spec
  | value (spec : ValueSpec)
  | type (spec : TypeSpec)

/-- Names that are declared together, with their type and their initial values. -/
structure ValueSpec where
  names : List Ident
  type : Option TypeExpr
  values : List Expr

structure TypeSpec where
  name : Ident
  type : TypeExpr

structure CaseClause where
  list : List Expr
  body : List Stmt
  pos : Pos

structure CommClause where
  comm : Option Stmt
  body : List Stmt
  pos : Pos

end

instance : Inhabited Expr := ⟨.bad {}⟩
instance : Inhabited Stmt := ⟨.empty⟩
instance : Inhabited Block := ⟨⟨[], {}⟩⟩

/-- A function or method. Without a body it is only declared here. -/
structure FuncDecl where
  name : Ident
  recv : Option Field
  params : List Field
  results : List Field
  body : Option Block

def Expr.identName? : Expr → Option String
  | .ident name => some name.name
  | _ => none

end ZeroError.Go
