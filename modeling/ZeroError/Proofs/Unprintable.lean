import ZeroError.Proofs.Occurrences
import ZeroError.Proofs.PrintedText

/-!
Where printing fails. The expressions that are printed as parts of another one have addresses, made of
the numbers of fields and the positions inside lists; everything is printed except the body of a
function literal. Placeholders and identifiers without a name have no text. Main statement: an
expression can be printed if nothing without a text is printed in it; otherwise the failure names the
leftmost of these, where of two addresses the one that comes first is printed to the left.
-/

namespace ZeroError.Go

/-- What a field shows of further expressions, and where in it. A body shows nothing: it is printed as
dots. -/
inductive Content.Shows : Content → List Nat → Expr → Prop
  | expr {role : Role} {x : Expr} : Shows (.expr role x) [] x
  | optional {role : Role} {x : Expr} : Shows (.expr? role (some x)) [] x
  | item {role : Role} {exprs : List Expr} {i : Nat} {x : Expr} (present : exprs[i]? = some x) :
      Shows (.exprs role exprs) [i] x
  | fieldType {fields : List Field} {i : Nat} {field : Field} (present : fields[i]? = some field) :
      Shows (.fields fields) [i, 1, 0] field.type.expr

/-- An expression is printed at an address in another one, or at the empty address as that one
itself. -/
inductive PrintedAt : Expr → List Nat → Expr → Prop
  | here {expr : Expr} : PrintedAt expr [] expr
  | inside {parent child expr : Expr} {number : Nat} {content : Content} {place address : List Nat}
      (field : parent.contents[number]? = some content) (shows : content.Shows place child)
      (printed : PrintedAt child address expr) : PrintedAt parent (number :: place ++ address) expr

/-- An expression that has no text, and the message that says so. -/
inductive Textless : Expr → String → Prop
  | bad {pos : Pos} :
      Textless (.bad pos)
        ("bad expression at " ++ (toString pos.line.toNat ++ ":" ++ toString pos.column.toNat))
  | unnamed {pos : Pos} :
      Textless (.ident ⟨"", pos⟩)
        ("empty identifier at " ++ (toString pos.line.toNat ++ ":" ++ toString pos.column.toNat))

/-- What is printed at the address has no text, and everything else that has none is printed further
right. -/
structure LeftmostTextless (expr : Expr) (address : List Nat) (message : String) : Prop where
  textless : ∃ node, PrintedAt expr address node ∧ Textless node message
  leftmost : ∀ place other text, PrintedAt expr place other → Textless other text →
    place = address ∨ Apart address place

def Field.shown (field : Field) : List (List Nat × Node) :=
  numbered [[], numbered [alone (.expr field.type.expr)]]

def Content.shown : Content → List (List Nat × Node)
  | .expr _ x => alone (.expr x)
  | .expr? _ x => ifGiven (exprNode? x)
  | .exprs _ xs => inRow (exprNodes xs)
  | .fields given => numbered (given.map Field.shown)
  | _ => []

def Expr.shown (expr : Expr) : List (List Nat × Node) :=
  numbered (expr.contents.map Content.shown)

section

variable {place : List Nat} {node : Node}

private theorem Field.mem_shown_iff {field : Field} :
    (place, node) ∈ field.shown ↔ place = [1, 0] ∧ node = .expr field.type.expr := by
  simp only [shown, numbered, mem_numberedFrom_cons, mem_numberedFrom_nil, or_false, mem_alone_iff,
    List.not_mem_nil, false_and, exists_false, false_or]
  constructor
  · rintro ⟨_, ⟨_, ⟨rfl, same⟩, rfl⟩, rfl⟩
    exact ⟨rfl, same⟩
  · rintro ⟨rfl, same⟩
    exact ⟨[0], ⟨[], ⟨rfl, same⟩, rfl⟩, rfl⟩

private theorem Content.mem_shown_iff {content : Content} :
    (place, node) ∈ content.shown ↔ ∃ x, node = .expr x ∧ content.Shows place x := by
  constructor
  · intro member
    cases content with
    | expr role x =>
        obtain ⟨rfl, rfl⟩ := mem_alone_iff.mp member
        exact ⟨x, rfl, .expr⟩
    | expr? role x =>
        simp only [shown, mem_ifGiven_iff, exprNode?, exprNodes, mem_given_iff] at member
        obtain ⟨rfl, x, rfl, rfl⟩ := member
        exact ⟨x, rfl, .optional⟩
    | exprs role xs =>
        simp only [shown, exprNodes, mem_row_iff] at member
        obtain ⟨number, x, present, rfl, rfl⟩ := member
        exact ⟨x, rfl, .item present⟩
    | fields given =>
        obtain ⟨number, field, rest, present, inside, rfl⟩ := mem_numbered_map_iff.mp member
        obtain ⟨rfl, rfl⟩ := Field.mem_shown_iff.mp inside
        exact ⟨field.type.expr, rfl, .fieldType present⟩
    | _ => cases member
  · rintro ⟨x, rfl, shows⟩
    cases shows with
    | expr => simp [shown]
    | optional => simp [shown, exprNode?, exprNodes]
    | item present =>
        simp only [shown, exprNodes, mem_row_iff]
        exact ⟨_, _, present, rfl, rfl⟩
    | fieldType present =>
        exact mem_numbered_map_iff.mpr
          ⟨_, _, _, present, Field.mem_shown_iff.mpr ⟨rfl, rfl⟩, rfl⟩

theorem Expr.mem_shown_iff {expr : Expr} :
    (place, node) ∈ expr.shown ↔
      ∃ number content rest x, expr.contents[number]? = some content ∧ content.Shows rest x ∧
        place = number :: rest ∧ node = .expr x := by
  simp only [shown, mem_numbered_map_iff, Content.mem_shown_iff]
  constructor
  · rintro ⟨number, content, rest, field, ⟨x, same, shows⟩, start⟩
    exact ⟨number, content, rest, x, field, shows, start, same⟩
  · rintro ⟨number, content, rest, x, field, shows, start, same⟩
    exact ⟨number, content, rest, field, ⟨x, same, shows⟩, start⟩

end

private theorem Content.inOrder_shown (content : Content) : InOrder content.shown := by
  cases content with
  | expr role x => exact inOrder_alone _
  | expr? role x => exact inOrder_ifGiven x .expr
  | exprs role xs => exact inOrder_inRow _
  | fields given =>
      refine inOrder_numbered_map ?_
      intro field
      refine inOrder_numberedFrom 0 ?_
      simpa using ⟨List.Pairwise.nil, inOrder_numberedFrom 0 (by simpa using inOrder_alone _)⟩
  | _ => exact List.Pairwise.nil

theorem Expr.inOrder_shown (expr : Expr) : InOrder expr.shown :=
  inOrder_numbered_map Content.inOrder_shown

/-- The expressions that a field shows, one after the other. -/
def Content.shownNodes (content : Content) : List Node :=
  content.shown.map Prod.snd

section

variable (role : Role) (x : Expr) (given : Option Expr) (exprs : List Expr)

@[simp] theorem shownNodes_leaf : Content.leaf.shownNodes = [] := rfl

@[simp] theorem shownNodes_block (block : Block) : (Content.block block).shownNodes = [] := rfl

@[simp] theorem shownNodes_expr : (Content.expr role x).shownNodes = [.expr x] := rfl

@[simp] theorem shownNodes_expr? :
    (Content.expr? role given).shownNodes = exprNodes given.toList :=
  map_snd_ifGiven (exprNode? given)

@[simp] theorem shownNodes_exprs : (Content.exprs role exprs).shownNodes = exprNodes exprs :=
  map_snd_inRow (exprNodes exprs)

@[simp] theorem shownNodes_fields (fields : List Field) :
    (Content.fields fields).shownNodes =
      exprNodes (fields.map (fun field => field.type.expr)) := by
  simp only [Content.shownNodes, Content.shown, numbered, map_snd_numberedFrom, List.flatMap_map]
  rw [exprNodes, List.map_map, List.map_eq_flatMap]
  rfl

end

/-- The places of the parts follow the order in which the parts are printed. -/
theorem Expr.map_snd_shown (expr : Expr) : expr.shown.map Prod.snd = exprNodes expr.parts := by
  have fields : expr.shown.map Prod.snd = expr.contents.flatMap Content.shownNodes := by
    rw [shown, numbered, map_snd_numberedFrom, List.flatMap_map]
    rfl
  rw [fields]
  cases expr with
  | slice x low high max => cases max <;> simp [contents, parts, pieces, exprNodes]
  | typeAssert x type => cases type <;> simp [contents, parts, pieces, exprNodes]
  | call callee args spread => cases spread <;> simp [contents, parts, pieces, exprNodes]
  | _ => simp [contents, parts, pieces, exprNodes]

theorem Expr.part_mem_iff {expr part : Expr} :
    part ∈ expr.parts ↔ ∃ place, (place, Node.expr part) ∈ expr.shown := by
  have listed : Node.expr part ∈ exprNodes expr.parts ↔ part ∈ expr.parts := by
    rw [exprNodes, List.mem_map]
    constructor
    · rintro ⟨other, inside, same⟩
      cases same
      exact inside
    · intro inside
      exact ⟨part, inside, rfl⟩
  rw [← listed, ← map_snd_shown, List.mem_map]
  constructor
  · rintro ⟨⟨place, node⟩, member, rfl⟩
    exact ⟨place, member⟩
  · rintro ⟨place, member⟩
    exact ⟨(place, .expr part), member, rfl⟩

/-- The size of what a field can show. -/
noncomputable def Content.weight : Content → Nat
  | .expr _ x => sizeOf x
  | .expr? _ x => sizeOf x
  | .exprs _ xs => sizeOf xs
  | .fields given => sizeOf given
  | _ => 0

private theorem Expr.weight_contents (expr : Expr) :
    ∀ content ∈ expr.contents, content.weight < sizeOf expr := by
  -- Each field is counted in the size of the constructor.
  cases expr <;>
    simp only [contents, List.forall_mem_cons, List.not_mem_nil, false_implies, implies_true,
      and_true, Content.weight, ident.sizeOf_spec, basicLit.sizeOf_spec,
      compositeLit.sizeOf_spec, funcLit.sizeOf_spec, paren.sizeOf_spec, selector.sizeOf_spec,
      index.sizeOf_spec, slice.sizeOf_spec, typeAssert.sizeOf_spec, call.sizeOf_spec,
      star.sizeOf_spec, unary.sizeOf_spec, binary.sizeOf_spec, keyValue.sizeOf_spec,
      arrayType.sizeOf_spec, mapType.sizeOf_spec, chanType.sizeOf_spec, funcType.sizeOf_spec,
      structType.sizeOf_spec, interfaceType.sizeOf_spec, ellipsis.sizeOf_spec, bad.sizeOf_spec] <;>
    omega

private theorem Content.Shows.sizeOf_le {content : Content} {place : List Nat} {x : Expr}
    (shows : content.Shows place x) : sizeOf x ≤ content.weight := by
  cases shows with
  | expr => exact Nat.le_refl _
  | optional => simp [weight]
  | item present => exact Nat.le_of_lt (List.sizeOf_lt_of_mem (List.mem_of_getElem? present))
  | @fieldType fields i field present =>
      obtain ⟨names, ⟨type, id⟩⟩ := field
      have smaller := List.sizeOf_lt_of_mem (List.mem_of_getElem? present)
      simp only [Field.mk.sizeOf_spec, TypeExpr.mk.sizeOf_spec] at smaller
      simp only [weight]
      omega

theorem Expr.sizeOf_parts {expr part : Expr} (member : part ∈ expr.parts) :
    sizeOf part < sizeOf expr := by
  obtain ⟨place, listed⟩ := part_mem_iff.mp member
  obtain ⟨number, content, rest, x, field, shows, _, same⟩ := mem_shown_iff.mp listed
  cases same
  exact Nat.lt_of_le_of_lt shows.sizeOf_le
    (expr.weight_contents content (List.mem_of_getElem? field))

/-- What holds of an expression as soon as it holds of its parts holds of every expression. -/
@[elab_as_elim]
theorem Expr.parts_induction {motive : Expr → Prop}
    (step : ∀ expr : Expr, (∀ part ∈ expr.parts, motive part) → motive expr) (expr : Expr) :
    motive expr :=
  step expr (fun part _member => parts_induction step part)
termination_by sizeOf expr
decreasing_by exact Expr.sizeOf_parts _member

theorem not_apart_self (place : List Nat) : ¬Apart place place := by
  induction place with
  | nil => exact id
  | cons number place ih =>
      rintro (less | ⟨_, rest⟩)
      · omega
      · exact ih rest

theorem not_apart_of_apart {first second : List Nat} (apart : Apart first second) :
    ¬Apart second first := by
  induction first generalizing second with
  | nil => cases apart
  | cons m first ih =>
      cases second with
      | nil => cases apart
      | cons n second =>
          rintro (greater | ⟨same, reversed⟩)
          · rcases apart with less | ⟨equal, _⟩
            · omega
            · omega
          · rcases apart with less | ⟨_, rest⟩
            · omega
            · exact ih rest reversed

private theorem Apart.append_left {first second : List Nat} (apart : Apart first second)
    (place : List Nat) : Apart (place ++ first) (place ++ second) := by
  induction place with
  | nil => exact apart
  | cons number place ih => exact Or.inr ⟨rfl, ih⟩

private theorem Apart.of_append_left {place first second : List Nat}
    (apart : Apart (place ++ first) (place ++ second)) : Apart first second := by
  induction place with
  | nil => exact apart
  | cons number place ih =>
      rcases apart with less | ⟨_, rest⟩
      · omega
      · exact ih rest

theorem Expr.shown_cases {expr : Expr} {first second : List Nat × Node}
    (member : first ∈ expr.shown) (other : second ∈ expr.shown) :
    first = second ∨ Apart first.1 second.1 ∨ Apart second.1 first.1 := by
  refine List.Pairwise.forall_of_forall_of_flip (R := fun left right =>
    left = right ∨ Apart left.1 right.1 ∨ Apart right.1 left.1) ?_ ?_ ?_ member other
  · exact fun _ _ => Or.inl rfl
  · exact expr.inOrder_shown.imp (fun apart => Or.inr (Or.inl apart))
  · exact expr.inOrder_shown.imp (fun apart => Or.inr (Or.inr apart))

theorem printedAt_iff {expr node : Expr} {address : List Nat} :
    PrintedAt expr address node ↔
      (address = [] ∧ node = expr) ∨
      ∃ place part rest, (place, Node.expr part) ∈ expr.shown ∧ PrintedAt part rest node ∧
        address = place ++ rest := by
  constructor
  · intro printed
    cases printed with
    | here => exact Or.inl ⟨rfl, rfl⟩
    | inside field shows printed =>
        exact Or.inr ⟨_, _, _, Expr.mem_shown_iff.mpr ⟨_, _, _, _, field, shows, rfl, rfl⟩, printed,
          rfl⟩
  · rintro (⟨rfl, rfl⟩ | ⟨place, part, rest, member, printed, rfl⟩)
    · exact .here
    · obtain ⟨number, content, inner, x, field, shows, rfl, same⟩ := Expr.mem_shown_iff.mp member
      cases same
      exact .inside field shows printed

theorem PrintedAt.of_part {expr part node : Expr} {place address : List Nat}
    (member : (place, Node.expr part) ∈ expr.shown) (printed : PrintedAt part address node) :
    PrintedAt expr (place ++ address) node :=
  printedAt_iff.mpr (Or.inr ⟨place, part, address, member, printed, rfl⟩)

private theorem Expr.shown_ne_nil {expr : Expr} {place : List Nat} {node : Node}
    (member : (place, node) ∈ expr.shown) : place ≠ [] := by
  obtain ⟨number, _, rest, _, _, _, rfl, _⟩ := mem_shown_iff.mp member
  exact List.cons_ne_nil number rest

theorem forall_printedAt_iff {expr : Expr} {property : Expr → Prop} :
    (∀ address node, PrintedAt expr address node → property node) ↔
      property expr ∧
        ∀ part ∈ expr.parts, ∀ address node, PrintedAt part address node → property node := by
  constructor
  · intro everywhere
    refine ⟨everywhere [] expr .here, ?_⟩
    intro part listed address node printed
    obtain ⟨place, member⟩ := Expr.part_mem_iff.mp listed
    exact everywhere (place ++ address) node (.of_part member printed)
  · rintro ⟨own, inside⟩ address node printed
    rcases printedAt_iff.mp printed with ⟨_, rfl⟩ | ⟨place, part, rest, member, below, _⟩
    · exact own
    · exact inside part (Expr.part_mem_iff.mpr ⟨place, member⟩) rest node below

/-- At one address one expression is printed. -/
theorem PrintedAt.unique {expr node other : Expr} {address : List Nat}
    (printed : PrintedAt expr address node) (again : PrintedAt expr address other) :
    node = other := by
  induction expr using Expr.parts_induction generalizing address with
  | step expr ih =>
      rcases printedAt_iff.mp printed with ⟨rfl, rfl⟩ | ⟨place, part, rest, member, inside, rfl⟩
      · rcases printedAt_iff.mp again with ⟨_, rfl⟩ | ⟨place, part, rest, member, _, start⟩
        · rfl
        · exact absurd (List.append_eq_nil_iff.mp start.symm).1 (Expr.shown_ne_nil member)
      · rcases printedAt_iff.mp again with ⟨start, _⟩ | ⟨place₂, part₂, rest₂, member₂, inside₂, same⟩
        · exact absurd (List.append_eq_nil_iff.mp start).1 (Expr.shown_ne_nil member)
        · rcases Expr.shown_cases member member₂ with equal | apart | apart
          · cases equal
            rw [← List.append_cancel_left same] at inside₂
            exact ih part (Expr.part_mem_iff.mpr ⟨place, member⟩) inside inside₂
          · have impossible := apart.append rest rest₂
            rw [← same] at impossible
            exact absurd impossible (not_apart_self _)
          · have impossible := apart.append rest₂ rest
            rw [← same] at impossible
            exact absurd impossible (not_apart_self _)

/-- An expression can be printed if everything that is printed in it has a text. -/
theorem exists_render_iff_printedAt (expr : Expr) :
    (∃ text, expr.render = .ok text) ↔
      ∀ address node, PrintedAt expr address node → node.unprintable? = none := by
  induction expr using Expr.parts_induction with
  | step expr ih =>
      rw [exists_render_iff, forall_printedAt_iff]
      exact and_congr_right (fun _ => forall₂_congr ih)

private theorem Expr.exists_shown_split {expr part : Expr} {before after : List Expr}
    (split : expr.parts = before ++ part :: after) :
    ∃ left place right, expr.shown = left ++ (place, Node.expr part) :: right ∧
      left.map Prod.snd = exprNodes before := by
  have nodes : expr.shown.map Prod.snd = exprNodes before ++ Node.expr part :: exprNodes after := by
    rw [map_snd_shown, split, exprNodes, List.map_append, List.map_cons]
    rfl
  obtain ⟨left, rest, shown, earlier, later⟩ := List.map_eq_append_iff.mp nodes
  obtain ⟨⟨place, node⟩, right, rfl, same, _⟩ := List.map_eq_cons_iff.mp later
  cases same
  exact ⟨left, place, right, shown, earlier⟩

/-- Where printing fails there is something without a text, and nothing like that further left. -/
theorem exists_leftmost {expr : Expr} {cause : Unprintable} (failed : expr.render = .error cause) :
    ∃ address node, PrintedAt expr address node ∧ node.unprintable? = some cause ∧
      ∀ place other, PrintedAt expr place other → other.unprintable? ≠ none →
        place = address ∨ Apart address place := by
  induction expr using Expr.parts_induction with
  | step expr ih =>
      rcases render_eq_error_iff.mp failed with
        own | ⟨printable, before, part, after, split, earlier, inner⟩
      · refine ⟨[], expr, .here, own, ?_⟩
        intro place other printed _textless
        rcases printedAt_iff.mp printed with ⟨rfl, _⟩ | ⟨place, part, rest, member, _, _⟩
        · exact Or.inl rfl
        · have listed := Expr.part_mem_iff.mpr ⟨place, member⟩
          rw [parts_of_unprintable own] at listed
          cases listed
      · obtain ⟨left, place, right, shown, names⟩ := Expr.exists_shown_split split
        have member : (place, Node.expr part) ∈ expr.shown := by
          rw [shown]
          exact List.mem_append_right left List.mem_cons_self
        have order := expr.inOrder_shown
        rw [shown, InOrder, List.pairwise_append, List.pairwise_cons] at order
        obtain ⟨address, node, printed, textless, leftmost⟩ :=
          ih part (Expr.part_mem_iff.mpr ⟨place, member⟩) inner
        refine ⟨place ++ address, node, .of_part member printed, textless, ?_⟩
        intro otherPlace other otherPrinted otherTextless
        rcases printedAt_iff.mp otherPrinted with
          ⟨_, rfl⟩ | ⟨place₂, part₂, rest₂, member₂, inside₂, rfl⟩
        · exact absurd printable otherTextless
        · rw [shown, List.mem_append, List.mem_cons] at member₂
          rcases member₂ with among | same | among
          · -- the parts before the one that fails can be printed
            have listed : Node.expr part₂ ∈ exprNodes before := by
              rw [← names]
              exact List.mem_map_of_mem among
            obtain ⟨good, inside, same⟩ := List.mem_map.mp listed
            cases same
            have whole := (exists_render_iff_printedAt part₂).mp (earlier part₂ inside)
            exact absurd (whole rest₂ other inside₂) otherTextless
          · cases same
            rcases leftmost rest₂ other inside₂ otherTextless with rfl | apart
            · exact Or.inl rfl
            · exact Or.inr (apart.append_left place)
          · exact Or.inr ((order.2.1.1 _ among).append address rest₂)

theorem textless_iff {node : Expr} {message : String} :
    Textless node message ↔ ∃ cause, node.unprintable? = some cause ∧ cause.message = message := by
  constructor
  · intro textless
    cases textless with
    | bad => exact ⟨_, rfl, rfl⟩
    | unnamed => exact ⟨_, rfl, rfl⟩
  · rintro ⟨cause, textless, rfl⟩
    cases node with
    | bad pos =>
        cases textless
        exact .bad
    | ident name =>
        obtain ⟨name, pos⟩ := name
        simp only [Expr.unprintable?] at textless
        split at textless
        · rename_i empty
          cases textless
          rw [String.isEmpty_iff.mp empty]
          exact .unnamed
        · cases textless
    | _ => cases textless

private theorem textless_of_unprintable {node : Expr} (textless : node.unprintable? ≠ none) :
    ∃ message, Textless node message := by
  obtain ⟨cause, found⟩ := Option.ne_none_iff_exists'.mp textless
  exact ⟨cause.message, textless_iff.mpr ⟨cause, found, rfl⟩⟩

theorem Textless.unprintable {node : Expr} {message : String} (textless : Textless node message) :
    node.unprintable? ≠ none := by
  obtain ⟨cause, found, _⟩ := textless_iff.mp textless
  rw [found]
  exact Option.some_ne_none cause

theorem render_eq_error_iff_leftmost (expr : Expr) (message : String) :
    (∃ cause, expr.render = .error cause ∧ cause.message = message) ↔
      ∃ address, LeftmostTextless expr address message := by
  constructor
  · rintro ⟨cause, failed, worded⟩
    obtain ⟨address, node, printed, textless, leftmost⟩ := exists_leftmost failed
    refine ⟨address, ⟨node, printed, textless_iff.mpr ⟨cause, textless, worded⟩⟩, ?_⟩
    intro place other text otherPrinted otherTextless
    exact leftmost place other otherPrinted otherTextless.unprintable
  · rintro ⟨address, ⟨node, printed, textless⟩, leftmost⟩
    cases tried : expr.render with
    | ok text =>
        have whole := (exists_render_iff_printedAt expr).mp ⟨text, tried⟩
        exact absurd (whole address node printed) textless.unprintable
    | error cause =>
        refine ⟨cause, rfl, ?_⟩
        obtain ⟨place, other, otherPrinted, found, first⟩ := exists_leftmost tried
        have otherTextless := textless_iff.mpr ⟨cause, found, rfl⟩
        have same : address = place := by
          rcases leftmost place other _ otherPrinted otherTextless with equal | apart
          · exact equal.symm
          · rcases first address node printed textless.unprintable with equal | reversed
            · exact equal
            · exact absurd reversed (not_apart_of_apart apart)
        subst same
        rw [printed.unique otherPrinted, textless_iff, found] at textless
        obtain ⟨again, equal, worded⟩ := textless
        cases equal
        exact worded

private theorem exists_pieces_split {pieces : List Piece} {before after : List Expr} {part : Expr}
    (split : partsOf pieces = before ++ part :: after) :
    ∃ front back, pieces = front ++ Piece.part part :: back ∧ partsOf back = after := by
  obtain ⟨front, rest, rfl, _, later⟩ := List.filterMap_eq_append_iff.mp split
  obtain ⟨gap, piece, back, rfl, _, found, last⟩ := List.filterMap_eq_cons_iff.mp later
  cases piece with
  | text own => cases found
  | part other =>
      cases found
      exact ⟨front ++ gap, back, (List.append_assoc front gap _).symm, last⟩

/-- Of two parts the one whose place comes first stands first among the pieces. -/
theorem Expr.pieces_in_order {expr first second : Expr} {place other : List Nat}
    (member : (place, Node.expr first) ∈ expr.shown)
    (otherMember : (other, Node.expr second) ∈ expr.shown) (apart : Apart place other) :
    ∃ front between back,
      expr.pieces = front ++ Piece.part first :: (between ++ Piece.part second :: back) := by
  obtain ⟨left, right, shown⟩ := List.append_of_mem member
  have order := expr.inOrder_shown
  rw [shown, InOrder, List.pairwise_append, List.pairwise_cons] at order
  have later : (other, Node.expr second) ∈ right := by
    rw [shown, List.mem_append, List.mem_cons] at otherMember
    rcases otherMember with among | same | among
    · have reversed := order.2.2 _ among _ List.mem_cons_self
      exact absurd reversed (not_apart_of_apart apart)
    · cases same
      exact absurd apart (not_apart_self _)
    · exact among
  have nodes := expr.map_snd_shown
  rw [shown, List.map_append, List.map_cons] at nodes
  obtain ⟨before, rest, parts, _, restNodes⟩ := List.map_eq_append_iff.mp nodes.symm
  obtain ⟨part, after, rfl, same, afterNodes⟩ := List.map_eq_cons_iff.mp restNodes
  cases same
  have listed : Node.expr second ∈ exprNodes after := by
    rw [exprNodes, afterNodes]
    exact List.mem_map_of_mem later
  obtain ⟨part, inside, same⟩ := List.mem_map.mp listed
  cases same
  obtain ⟨front, tail, pieces, tailParts⟩ := exists_pieces_split parts
  obtain ⟨middle, last, split⟩ := List.append_of_mem inside
  obtain ⟨between, back, rfl, _⟩ := exists_pieces_split (tailParts.trans split)
  exact ⟨front, between, back, pieces⟩

/-- The text of an expression that is printed in another one stands in the text of that one. -/
theorem PrintedAt.text_inside {expr node : Expr} {address : List Nat} {text : String}
    (printed : PrintedAt expr address node) (rendered : expr.render = .ok text) :
    ∃ before inner after, node.render = .ok inner ∧ text = before ++ inner ++ after := by
  induction printed generalizing text with
  | here => exact ⟨"", text, "", rendered, by simp⟩
  | @inside parent child node number content place address field shows _ ih =>
      have member : (number :: place, Node.expr child) ∈ parent.shown :=
        Expr.mem_shown_iff.mpr ⟨number, content, place, child, field, shows, rfl, rfl⟩
      have listed := mem_pieces_of_mem_parts (Expr.part_mem_iff.mpr ⟨_, member⟩)
      obtain ⟨front, back, pieces⟩ := List.append_of_mem listed
      have whole := printAll_of_render rendered
      rw [pieces] at whole
      obtain ⟨left, inner, right, _, shown, _, rfl⟩ := printAll_split whole
      obtain ⟨before, own, after, ownText, rfl⟩ := ih shown
      exact ⟨left ++ before, own, after ++ right, ownText, by simp only [String.append_assoc]⟩

/-- Of two expressions that are printed in a third, neither in the other, the one whose address comes
first stands to the left. -/
theorem PrintedAt.text_in_order {expr first second : Expr} {address other : List Nat} {text : String}
    (printed : PrintedAt expr address first) (otherPrinted : PrintedAt expr other second)
    (apart : Apart address other) (rendered : expr.render = .ok text) :
    ∃ before left between right after, first.render = .ok left ∧ second.render = .ok right ∧
      text = before ++ left ++ between ++ right ++ after := by
  induction printed generalizing other text with
  | here => cases apart
  | @inside parent child first number content place address field shows inside ih =>
      have member : (number :: place, Node.expr child) ∈ parent.shown :=
        Expr.mem_shown_iff.mpr ⟨number, content, place, child, field, shows, rfl, rfl⟩
      have whole := printAll_of_render rendered
      rcases printedAt_iff.mp otherPrinted with
        ⟨rfl, _⟩ | ⟨place₂, part₂, rest₂, member₂, inside₂, rfl⟩
      · cases apart
      · rcases Expr.shown_cases member member₂ with same | ahead | behind
        · cases same
          have listed := mem_pieces_of_mem_parts (Expr.part_mem_iff.mpr ⟨_, member⟩)
          obtain ⟨front, back, pieces⟩ := List.append_of_mem listed
          rw [pieces] at whole
          obtain ⟨start, inner, rest, _, shown, _, rfl⟩ := printAll_split whole
          obtain ⟨before, left, between, right, after, leftText, rightText, rfl⟩ :=
            ih inside₂ (Apart.of_append_left apart) shown
          exact ⟨start ++ before, left, between, right, after ++ rest, leftText, rightText,
            by simp only [String.append_assoc]⟩
        · obtain ⟨front, middle, back, pieces⟩ := Expr.pieces_in_order member member₂ ahead
          rw [pieces] at whole
          obtain ⟨start, inner, rest, _, shown, laterPieces, rfl⟩ := printAll_split whole
          obtain ⟨gap, inner₂, last, _, shown₂, _, rfl⟩ := printAll_split laterPieces
          obtain ⟨before, left, after, leftText, rfl⟩ := inside.text_inside shown
          obtain ⟨before₂, right, after₂, rightText, rfl⟩ := inside₂.text_inside shown₂
          exact ⟨start ++ before, left, after ++ gap ++ before₂, right, after₂ ++ last, leftText,
            rightText, by simp only [String.append_assoc]⟩
        · exact absurd (behind.append rest₂ address) (not_apart_of_apart apart)

/-- Printing fails exactly if something without a text is printed in the expression, and the message
names the leftmost of these; otherwise there is a text, in which of two addresses the first one stands
to the left. -/
theorem render_fails_at_leftmost_textless (expr : Expr) :
    ((∃ cause, expr.render = .error cause) ↔
      ∃ address node message, PrintedAt expr address node ∧ Textless node message) ∧
    (∀ message, (∃ cause, expr.render = .error cause ∧ cause.message = message) ↔
      ∃ address, LeftmostTextless expr address message) ∧
    ((∃ text, expr.render = .ok text) ↔
      ¬∃ address node message, PrintedAt expr address node ∧ Textless node message) ∧
    ∀ text, expr.render = .ok text →
      ∀ address first other second, PrintedAt expr address first → PrintedAt expr other second →
        Apart address other →
        ∃ before left between right after, first.render = .ok left ∧ second.render = .ok right ∧
          text = before ++ left ++ between ++ right ++ after := by
  have whole : (∃ text, expr.render = .ok text) ↔
      ¬∃ address node message, PrintedAt expr address node ∧ Textless node message := by
    rw [exists_render_iff_printedAt]
    constructor
    · rintro printable ⟨address, node, message, printed, textless⟩
      exact textless.unprintable (printable address node printed)
    · intro never address node printed
      by_contra textless
      obtain ⟨message, found⟩ := textless_of_unprintable textless
      exact never ⟨address, node, message, printed, found⟩
  refine ⟨?_, render_eq_error_iff_leftmost expr, whole, ?_⟩
  · rw [← not_iff_not, ← whole]
    cases expr.render with
    | ok text => simp only [reduceCtorEq, exists_false, not_false_eq_true, Except.ok.injEq, exists_eq']
    | error cause => simp only [reduceCtorEq, exists_false, Except.error.injEq, exists_eq', not_true]
  · intro text rendered address first other second printed otherPrinted apart
    exact printed.text_in_order otherPrinted apart rendered

/-- A call whose second argument could not be parsed and whose third has no name. -/
def brokenCall : Expr :=
  .call (.ident ⟨"f", {}⟩)
    [.index (.ident ⟨"x", {}⟩) (.ident ⟨"i", {}⟩), .bad ⟨40, 4, 2⟩, .ident ⟨"", ⟨45, 4, 7⟩⟩] false

def indexed : Expr :=
  .index (.ident ⟨"x", {}⟩) (.ident ⟨"i", {}⟩)

theorem render_fails_at_leftmost_textless_call :
    brokenCall.render = .error (.badExpr ⟨40, 4, 2⟩) ∧
      (∃ address, LeftmostTextless brokenCall address "bad expression at 4:2") ∧
      indexed.render = .ok "x[i]" ∧ PrintedAt indexed [0] (.ident ⟨"x", {}⟩) ∧
      PrintedAt indexed [1] (.ident ⟨"i", {}⟩) ∧
      ∃ before left between right after, (Expr.ident ⟨"x", {}⟩).render = .ok left ∧
        (Expr.ident ⟨"i", {}⟩).render = .ok right ∧
        "x[i]" = before ++ left ++ between ++ right ++ after := by
  have failed : brokenCall.render = .error (.badExpr ⟨40, 4, 2⟩) := by decide +kernel
  have rendered : indexed.render = .ok "x[i]" := by decide +kernel
  have left : PrintedAt indexed [0] (.ident ⟨"x", {}⟩) := .inside rfl .expr .here
  have right : PrintedAt indexed [1] (.ident ⟨"i", {}⟩) := .inside rfl .expr .here
  exact ⟨failed,
    ((render_fails_at_leftmost_textless brokenCall).2.1 _).mp ⟨_, failed, by decide +kernel⟩,
    rendered, left, right,
    (render_fails_at_leftmost_textless indexed).2.2.2 _ rendered _ _ _ _ left right
      (Or.inl Nat.zero_lt_one)⟩

end ZeroError.Go
