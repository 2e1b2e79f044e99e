import ZeroError.Go.Rendering
import ZeroError.Proofs.Attempts

/-!
Expressions as pieces of text. What is printed for an expression is a row of pieces: words and marks
of its own, and between them the expressions that are its parts. Main statement: unless an expression
has no text at all, printing it is printing its pieces one after the other, so the first part that
cannot be printed is the failure of the whole.
-/

namespace ZeroError.Attempts

variable {α β ε : Type}

/-- The cause of an attempt that failed. -/
def cause? : Except ε α → Option ε
  | .ok _ => none
  | .error cause => some cause

private theorem cause?_eq_some_iff {attempt : Except ε α} {cause : ε} :
    cause? attempt = some cause ↔ attempt = .error cause := by
  cases attempt with
  | ok value => simp only [cause?, reduceCtorEq]
  | error other => simp only [cause?, Option.some.injEq, Except.error.injEq]

theorem cause?_eq_none_iff {attempt : Except ε α} :
    cause? attempt = none ↔ ∃ value, attempt = .ok value := by
  cases attempt with
  | ok value => simp only [cause?, Except.ok.injEq, exists_eq']
  | error cause => simp only [cause?, reduceCtorEq, exists_false]

end ZeroError.Attempts

namespace ZeroError.Go

inductive Piece
  | text (text : String)
  | part (expr : Expr)

namespace Piece

def print : Piece → Except Unprintable String
  | text own => .ok own
  | part expr => expr.render

def part? : Piece → Option Expr
  | text _ => none
  | part expr => some expr

end Piece

def printAll : List Piece → Except Unprintable String
  | [] => .ok ""
  | piece :: pieces => do
      let first ← piece.print
      let rest ← printAll pieces
      return first ++ rest

def partsOf (pieces : List Piece) : List Expr :=
  pieces.filterMap Piece.part?

def optionalPieces (expr : Option Expr) : List Piece :=
  expr.toList.map .part

/-- Groups of pieces with the separator between them. -/
def separated (separator : String) (groups : List (List Piece)) : List Piece :=
  [Piece.text separator].intercalate groups

def listPieces (exprs : List Expr) : List Piece :=
  separated ", " (exprs.map (fun expr => [.part expr]))

def Field.pieces (field : Field) : List Piece :=
  [.text (namesText field.names), .part field.type.expr]

def fieldPieces (separator : String) (fields : List Field) : List Piece :=
  separated separator (fields.map Field.pieces)

def memberPieces (fields : List Field) : List Piece :=
  if fields.isEmpty then [.text "\x7b\x7d"]
  else .text "\x7b " :: (fieldPieces "; " fields ++ [.text " \x7d"])

def resultPieces : List Field → List Piece
  | [] => []
  | [⟨[], type⟩] => [.text " ", .part type.expr]
  | fields => .text " (" :: (fieldPieces ", " fields ++ [.text ")"])

def signaturePieces (params results : List Field) : List Piece :=
  .text "func(" :: (fieldPieces ", " params ++ .text ")" :: resultPieces results)

def Expr.pieces : Expr → List Piece
  | .ident name => [.text name.name]
  | .basicLit _ value _ => [.text value]
  | .compositeLit type elts _ =>
      optionalPieces type ++ .text "\x7b" :: (listPieces elts ++ [.text "\x7d"])
  | .funcLit params results _ _ => signaturePieces params results ++ [.text " \x7b ... \x7d"]
  | .paren x => [.text "(", .part x, .text ")"]
  | .selector x sel => [.part x, .text ".", .text sel.name]
  | .index x position => [.part x, .text "[", .part position, .text "]"]
  | .slice x low high max =>
      .part x :: .text "[" :: (optionalPieces low ++ .text ":" :: (optionalPieces high ++
        ((if max.isSome then [.text ":"] else []) ++ (optionalPieces max ++ [.text "]"]))))
  | .typeAssert x type =>
      .part x :: .text ".(" :: (optionalPieces type ++
        ((if type.isSome then [] else [.text "type"]) ++ [.text ")"]))
  | .call callee args spread =>
      .part callee :: .text "(" :: (listPieces args ++
        ((if spread then [.text "..."] else []) ++ [.text ")"]))
  | .star x _ => [.text "*", .part x]
  | .unary op x _ => [.text op, .part x]
  | .binary x op y => [.part x, .text " ", .text op, .text " ", .part y]
  | .keyValue key value => [.part key, .text ": ", .part value]
  | .arrayType len elt => .text "[" :: (optionalPieces len ++ [.text "]", .part elt])
  | .mapType key value => [.text "map[", .part key, .text "]", .part value]
  | .chanType dir value => [.text dir, .text " ", .part value]
  | .funcType params results => signaturePieces params results
  | .structType fields => .text "struct" :: memberPieces fields
  | .interfaceType methods => .text "interface" :: memberPieces methods
  | .ellipsis elt => .text "..." :: optionalPieces elt
  | .bad _ => []

/-- Why an expression has no text, whatever its parts are. -/
def Expr.unprintable? : Expr → Option Unprintable
  | .ident name => if name.name.isEmpty then some (.emptyIdent name.pos) else none
  | .bad pos => some (.badExpr pos)
  | _ => none

def Expr.parts (expr : Expr) : List Expr :=
  partsOf expr.pieces

section

variable (pieces : List Piece)

@[simp] theorem printAll_nil : printAll [] = pure "" := rfl

@[simp] theorem printAll_text (own : String) :
    printAll (.text own :: pieces) = (do
      let rest ← printAll pieces
      return own ++ rest) := rfl

@[simp] theorem printAll_part (expr : Expr) :
    printAll (.part expr :: pieces) = (do
      let first ← expr.render
      let rest ← printAll pieces
      return first ++ rest) := rfl

@[simp] theorem printAll_append (more : List Piece) :
    printAll (pieces ++ more) = (do
      let first ← printAll pieces
      let rest ← printAll more
      return first ++ rest) := by
  induction pieces with
  | nil => simp only [List.nil_append, printAll_nil, pure_bind, String.empty_append, bind_pure]
  | cons piece pieces ih =>
      simp only [List.cons_append, printAll, ih, bind_assoc, pure_bind, String.append_assoc]

end

theorem printAll_separated (separator : String) (groups : List (List Piece)) :
    printAll (separated separator groups) = (do
      let texts ← groups.mapM printAll
      return separator.intercalate texts) := by
  induction groups with
  | nil => rfl
  | cons group groups ih =>
      cases groups with
      | nil =>
          simp only [separated, List.intercalate_singleton, List.mapM_cons, List.mapM_nil, bind_assoc,
            pure_bind, String.intercalate_singleton, bind_pure]
      | cons other groups =>
          simp only [separated, List.intercalate_cons_cons]
          rw [← separated]
          simp only [printAll_append, printAll_text, printAll_nil, ih, List.mapM_cons, bind_assoc,
            pure_bind, String.intercalate_cons_cons, String.append_assoc, String.append_empty]

theorem printAll_optionalPieces (expr : Option Expr) :
    printAll (optionalPieces expr) = renderOptional expr := by
  cases expr with
  | none => rfl
  | some expr =>
      simp only [optionalPieces, Option.toList_some, List.map_cons, List.map_nil, printAll_part,
        printAll_nil, renderOptional, pure_bind, String.append_empty, bind_pure]

private theorem printAll_listPieces (exprs : List Expr) :
    printAll (listPieces exprs) = (do
      let texts ← renderAll exprs
      return commaSeparated texts) := by
  have texts : (exprs.map (fun expr => [Piece.part expr])).mapM printAll = renderAll exprs := by
    induction exprs with
    | nil => rfl
    | cons expr exprs ih =>
        rw [List.map_cons, List.mapM_cons, ih, renderAll]
        congr 1
        exact printAll_optionalPieces (some expr)
  rw [listPieces, printAll_separated, texts]
  rfl

private theorem Field.printAll_pieces (field : Field) : printAll field.pieces = field.render := by
  obtain ⟨names, ⟨type, id⟩⟩ := field
  simp only [pieces, printAll_text, printAll_part, printAll_nil, render, TypeExpr.render,
    bind_assoc, pure_bind, String.append_empty]

theorem printAll_fieldPieces (separator : String) (fields : List Field) :
    printAll (fieldPieces separator fields) = (do
      let texts ← renderFields fields
      return separator.intercalate texts) := by
  have texts : (fields.map Field.pieces).mapM printAll = renderFields fields := by
    induction fields with
    | nil => rfl
    | cons field fields ih =>
        rw [List.map_cons, List.mapM_cons, ih, renderFields, Field.printAll_pieces]
  rw [fieldPieces, printAll_separated, texts]

private theorem printAll_memberPieces (fields : List Field) :
    printAll (memberPieces fields) = (do
      let texts ← renderFields fields
      return membersText texts) := by
  cases fields with
  | nil => rfl
  | cons field fields =>
      simp only [memberPieces, List.isEmpty_cons, Bool.false_eq_true, if_false, printAll_text,
        printAll_append, printAll_nil, printAll_fieldPieces, renderFields, bind_assoc, pure_bind,
        membersText, String.append_assoc, String.append_empty]

private theorem printAll_resultPieces (results : List Field) :
    printAll (resultPieces results) = (do
      let texts ← renderFields results
      return resultsText results texts) := by
  have enclosed (fields : List Field) :
      printAll (.text " (" :: (fieldPieces ", " fields ++ [Piece.text ")"])) = (do
        let texts ← renderFields fields
        return " (" ++ commaSeparated texts ++ ")") := by
    simp only [printAll_text, printAll_append, printAll_nil, printAll_fieldPieces, bind_assoc,
      pure_bind, commaSeparated, String.append_assoc, String.append_empty]
  cases results with
  | nil => rfl
  | cons first others =>
      obtain ⟨names, ⟨type, id⟩⟩ := first
      cases names with
      | cons name names => exact enclosed (⟨name :: names, ⟨type, id⟩⟩ :: others)
      | nil =>
          cases others with
          | cons second others => exact enclosed (⟨[], ⟨type, id⟩⟩ :: second :: others)
          | nil =>
              have last : renderFields [] = pure [] := rfl
              rw [renderFields, last]
              simp only [resultPieces, printAll_text, printAll_part, printAll_nil, Field.render,
                TypeExpr.render, bind_assoc, pure_bind, resultsText, commaSeparated, namesText,
                List.isEmpty_nil, if_true, String.intercalate_singleton, String.empty_append,
                String.append_empty]

private theorem printAll_signaturePieces (params results : List Field) :
    printAll (signaturePieces params results) = (do
      let paramTexts ← renderFields params
      let resultTexts ← renderFields results
      return signatureText paramTexts results resultTexts) := by
  simp only [signaturePieces, printAll_text, printAll_append, printAll_fieldPieces,
    printAll_resultPieces, bind_assoc, pure_bind, signatureText, commaSeparated,
    String.append_assoc]

private theorem render_of_unprintable {expr : Expr} {cause : Unprintable}
    (textless : expr.unprintable? = some cause) : expr.render = .error cause := by
  cases expr with
  | ident name =>
      obtain ⟨name, pos⟩ := name
      simp only [Expr.unprintable?] at textless
      split at textless
      · rename_i empty
        cases textless
        rw [Expr.render, if_pos empty]
      · cases textless
  | bad pos =>
      cases textless
      rw [Expr.render]
  | _ => cases textless

/-- Printing an expression that can have a text is printing its pieces. -/
theorem render_eq_printAll {expr : Expr} (printable : expr.unprintable? = none) :
    expr.render = printAll expr.pieces := by
  cases expr with
  | ident name =>
      obtain ⟨name, pos⟩ := name
      simp only [Expr.unprintable?] at printable
      split at printable
      · cases printable
      · rename_i named
        rw [Expr.render, if_neg named]
        simp only [Expr.pieces, printAll_text, printAll_nil, pure_bind, String.append_empty]
        rfl
  | basicLit lit value pos =>
      simp only [Expr.pieces, printAll_text, printAll_nil, pure_bind, String.append_empty]
      rfl
  | bad pos => cases printable
  | slice x low high max =>
      cases max <;>
        simp [Expr.render, Expr.pieces, printAll_optionalPieces, renderOptional,
          String.append_assoc]
  | typeAssert x type =>
      cases type <;>
        simp [Expr.render, Expr.pieces, printAll_optionalPieces, renderOptional,
          String.append_assoc]
  | call callee args spread =>
      cases spread <;>
        simp [Expr.render, Expr.pieces, printAll_listPieces, String.append_assoc]
  | _ =>
      simp [Expr.render, Expr.pieces, printAll_optionalPieces, printAll_listPieces,
        printAll_memberPieces, printAll_signaturePieces, String.append_assoc]

section

variable (pieces : List Piece)

@[simp] theorem partsOf_nil : partsOf [] = [] := rfl

@[simp] theorem partsOf_text (own : String) : partsOf (.text own :: pieces) = partsOf pieces := rfl

@[simp] theorem partsOf_part (expr : Expr) :
    partsOf (.part expr :: pieces) = expr :: partsOf pieces := rfl

@[simp] theorem partsOf_append (more : List Piece) :
    partsOf (pieces ++ more) = partsOf pieces ++ partsOf more :=
  List.filterMap_append

end

theorem partsOf_separated (separator : String) (groups : List (List Piece)) :
    partsOf (separated separator groups) = groups.flatMap partsOf := by
  induction groups with
  | nil => rfl
  | cons group groups ih =>
      cases groups with
      | nil =>
          rw [separated, List.intercalate_singleton, List.flatMap_cons, List.flatMap_nil,
            List.append_nil]
      | cons other groups =>
          rw [separated, List.intercalate_cons_cons, ← separated, partsOf_append, partsOf_append,
            partsOf_text, partsOf_nil, List.append_nil, ih]
          rfl

@[simp] theorem partsOf_optionalPieces (expr : Option Expr) :
    partsOf (optionalPieces expr) = expr.toList := by
  cases expr with
  | none => rfl
  | some expr => rfl

@[simp] theorem partsOf_listPieces (exprs : List Expr) : partsOf (listPieces exprs) = exprs := by
  rw [listPieces, partsOf_separated, List.flatMap_map]
  exact List.flatMap_singleton' exprs

@[simp] theorem partsOf_fieldPieces (separator : String) (fields : List Field) :
    partsOf (fieldPieces separator fields) = fields.map (fun field => field.type.expr) := by
  rw [fieldPieces, partsOf_separated, List.flatMap_map, List.map_eq_flatMap]
  rfl

@[simp] theorem partsOf_memberPieces (fields : List Field) :
    partsOf (memberPieces fields) = fields.map (fun field => field.type.expr) := by
  cases fields with
  | nil => rfl
  | cons field fields => simp [memberPieces]

@[simp] theorem partsOf_resultPieces (results : List Field) :
    partsOf (resultPieces results) = results.map (fun field => field.type.expr) := by
  cases results with
  | nil => rfl
  | cons first others =>
      obtain ⟨names, type⟩ := first
      cases names with
      | cons name names => simp [resultPieces]
      | nil =>
          cases others with
          | nil => rfl
          | cons second others => simp [resultPieces]

@[simp] theorem partsOf_signaturePieces (params results : List Field) :
    partsOf (signaturePieces params results) =
      params.map (fun field => field.type.expr) ++ results.map (fun field => field.type.expr) := by
  simp [signaturePieces]

/-- Printing pieces fails as the first part does that cannot be printed. -/
theorem cause?_printAll (pieces : List Piece) :
    Attempts.cause? (printAll pieces) =
      (partsOf pieces).findSome? (fun part => Attempts.cause? part.render) := by
  induction pieces with
  | nil => rfl
  | cons piece pieces ih =>
      cases piece with
      | text own =>
          rw [partsOf_text, ← ih, printAll_text]
          cases printAll pieces with
          | error cause => rfl
          | ok rest => rfl
      | part expr =>
          rw [partsOf_part, List.findSome?_cons, ← ih, printAll_part]
          cases expr.render with
          | error cause => rfl
          | ok first =>
              cases printAll pieces with
              | error cause => rfl
              | ok rest => rfl

theorem cause?_render (expr : Expr) :
    Attempts.cause? expr.render =
      expr.unprintable?.or (expr.parts.findSome? (fun part => Attempts.cause? part.render)) := by
  cases textless : expr.unprintable? with
  | some cause =>
      rw [render_of_unprintable textless]
      rfl
  | none =>
      rw [render_eq_printAll textless, cause?_printAll]
      rfl

theorem exists_render_iff {expr : Expr} :
    (∃ text, expr.render = .ok text) ↔
      expr.unprintable? = none ∧ ∀ part ∈ expr.parts, ∃ text, part.render = .ok text := by
  rw [← Attempts.cause?_eq_none_iff, cause?_render, Option.or_eq_none_iff,
    List.findSome?_eq_none_iff]
  simp only [Attempts.cause?_eq_none_iff]

theorem printAll_of_render {expr : Expr} {text : String}
    (rendered : expr.render = .ok text) : printAll expr.pieces = .ok text := by
  rw [← rendered, render_eq_printAll (exists_render_iff.mp ⟨text, rendered⟩).1]

theorem render_eq_error_iff {expr : Expr} {cause : Unprintable} :
    expr.render = .error cause ↔
      expr.unprintable? = some cause ∨
      expr.unprintable? = none ∧ ∃ (before : List Expr) (part : Expr) (after : List Expr),
        expr.parts = before ++ part :: after ∧
        (∀ other ∈ before, ∃ text, other.render = .ok text) ∧ part.render = .error cause := by
  rw [← Attempts.cause?_eq_some_iff, cause?_render, Option.or_eq_some_iff,
    List.findSome?_eq_some_iff]
  simp only [Attempts.cause?_eq_some_iff, Attempts.cause?_eq_none_iff]
  constructor
  · rintro (own | ⟨printable, before, part, after, split, failed, earlier⟩)
    · exact Or.inl own
    · exact Or.inr ⟨printable, before, part, after, split, earlier, failed⟩
  · rintro (own | ⟨printable, before, part, after, split, earlier, failed⟩)
    · exact Or.inl own
    · exact Or.inr ⟨printable, before, part, after, split, failed, earlier⟩

theorem parts_of_unprintable {expr : Expr} {cause : Unprintable}
    (textless : expr.unprintable? = some cause) : expr.parts = [] := by
  cases expr with
  | ident name => rfl
  | bad pos => rfl
  | _ => cases textless

theorem mem_pieces_of_mem_parts {expr part : Expr} (member : part ∈ expr.parts) :
    Piece.part part ∈ expr.pieces := by
  obtain ⟨piece, listed, found⟩ := List.mem_filterMap.mp member
  cases piece with
  | text own => cases found
  | part other =>
      cases found
      exact listed

/-- The text of pieces is what stands before a part, the text of the part, and what stands after. -/
theorem printAll_split {before after : List Piece} {part : Expr} {text : String}
    (printed : printAll (before ++ Piece.part part :: after) = .ok text) :
    ∃ left inner right, printAll before = .ok left ∧ part.render = .ok inner ∧
      printAll after = .ok right ∧ text = left ++ (inner ++ right) := by
  rw [printAll_append, printAll_part] at printed
  obtain ⟨left, first, printed⟩ := Attempts.bind_eq_ok_iff.mp printed
  obtain ⟨rest, inside, joined⟩ := Attempts.bind_eq_ok_iff.mp printed
  obtain ⟨inner, second, inside⟩ := Attempts.bind_eq_ok_iff.mp inside
  obtain ⟨right, third, split⟩ := Attempts.bind_eq_ok_iff.mp inside
  cases split
  cases joined
  exact ⟨left, inner, right, first, second, third, rfl⟩

end ZeroError.Go
