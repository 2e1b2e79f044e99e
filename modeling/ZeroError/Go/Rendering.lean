import ZeroError.Go.Syntax

/-!
Expressions as one line of Go source. The body of a function literal is left out. Two kinds of nodes
have no text: placeholders for what could not be parsed, and identifiers without a name; the first
of them in the order of the text makes the whole expression unprintable.
-/

namespace ZeroError.Go

inductive Unprintable
  | emptyIdent (pos : Pos)
  | badExpr (pos : Pos)
  | notIdent
deriving DecidableEq, Repr

def Unprintable.message : Unprintable → String
  | .emptyIdent pos => "empty identifier at " ++ pos.text
  | .badExpr pos => "bad expression at " ++ pos.text
  | .notIdent => "returned expression is not an identifier"

def commaSeparated (texts : List String) : String :=
  String.intercalate ", " texts

def namesText (names : List Ident) : String :=
  if names.isEmpty then "" else commaSeparated (names.map Ident.name) ++ " "

def membersText (members : List String) : String :=
  if members.isEmpty then "\x7b\x7d"
  else "\x7b " ++ String.intercalate "; " members ++ " \x7d"

/-- The results of a signature, given the fields and their texts. A single result without a name
needs no parentheses. -/
def resultsText : List Field → List String → String
  | [], _ => ""
  | [⟨[], _⟩], texts => " " ++ commaSeparated texts
  | _, texts => " (" ++ commaSeparated texts ++ ")"

def signatureText (params : List String) (results : List Field) (texts : List String) : String :=
  "func(" ++ commaSeparated params ++ ")" ++ resultsText results texts

mutual

def Expr.render : Expr → Except Unprintable String
  | .ident ⟨name, pos⟩ => if name.isEmpty then .error (.emptyIdent pos) else .ok name
  | .basicLit _ value _ => .ok value
  | .compositeLit type elts _ => do
      let type ← renderOptional type
      let elts ← renderAll elts
      return type ++ "\x7b" ++ commaSeparated elts ++ "\x7d"
  | .funcLit params results _ _ => do
      let paramTexts ← renderFields params
      let resultTexts ← renderFields results
      return signatureText paramTexts results resultTexts ++ " \x7b ... \x7d"
  | .paren x => do
      let x ← x.render
      return "(" ++ x ++ ")"
  | .selector x sel => do
      let x ← x.render
      return x ++ "." ++ sel.name
  | .index x position => do
      let x ← x.render
      let position ← position.render
      return x ++ "[" ++ position ++ "]"
  | .slice x low high max => do
      let x ← x.render
      let low ← renderOptional low
      let high ← renderOptional high
      let last ← renderOptional max
      return x ++ "[" ++ low ++ ":" ++ high ++ (if max.isSome then ":" ++ last else "") ++ "]"
  | .typeAssert x type => do
      let x ← x.render
      let target ← renderOptional type
      return x ++ ".(" ++ (if type.isSome then target else "type") ++ ")"
  | .call callee args spread => do
      let callee ← callee.render
      let args ← renderAll args
      return callee ++ "(" ++ commaSeparated args ++ (if spread then "..." else "") ++ ")"
  | .star x _ => do
      let x ← x.render
      return "*" ++ x
  | .unary op x _ => do
      let x ← x.render
      return op ++ x
  | .binary x op y => do
      let x ← x.render
      let y ← y.render
      return x ++ " " ++ op ++ " " ++ y
  | .keyValue key value => do
      let key ← key.render
      let value ← value.render
      return key ++ ": " ++ value
  | .arrayType len elt => do
      let len ← renderOptional len
      let elt ← elt.render
      return "[" ++ len ++ "]" ++ elt
  | .mapType key value => do
      let key ← key.render
      let value ← value.render
      return "map[" ++ key ++ "]" ++ value
  | .chanType dir value => do
      let value ← value.render
      return dir ++ " " ++ value
  | .funcType params results => do
      let paramTexts ← renderFields params
      let resultTexts ← renderFields results
      return signatureText paramTexts results resultTexts
  | .structType fields => do
      let fields ← renderFields fields
      return "struct" ++ membersText fields
  | .interfaceType methods => do
      let methods ← renderFields methods
      return "interface" ++ membersText methods
  | .ellipsis elt => do
      let elt ← renderOptional elt
      return "..." ++ elt
  | .bad pos => .error (.badExpr pos)

def renderAll : List Expr → Except Unprintable (List String)
  | [] => .ok []
  | expr :: exprs => do
      let text ← expr.render
      let texts ← renderAll exprs
      return text :: texts

def renderOptional : Option Expr → Except Unprintable String
  | none => .ok ""
  | some expr => expr.render

def TypeExpr.render : TypeExpr → Except Unprintable String
  | ⟨expr, _⟩ => expr.render

def Field.render : Field → Except Unprintable String
  | ⟨names, type⟩ => do
      let type ← type.render
      return namesText names ++ type

def renderFields : List Field → Except Unprintable (List String)
  | [] => .ok []
  | field :: fields => do
      let text ← field.render
      let texts ← renderFields fields
      return text :: texts

end

end ZeroError.Go
