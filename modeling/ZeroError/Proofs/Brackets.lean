import ZeroError.Proofs.Unprintable

/-!
Brackets in printed expressions. A text is balanced if every bracket is closed by one of its own kind,
and what stands between the two is balanced itself. Main statement: if no word of an expression has a
bracket in it, its text is balanced. What an expression prints of its own is balanced without its
parts, and balanced parts can be put in anywhere.
-/

namespace ZeroError.Go

/-- The brackets, each with the one that closes it. -/
def brackets : List (Char × Char) :=
  [('(', ')'), ('[', ']'), ('\x7b', '\x7d')]

def isBracket (c : Char) : Bool :=
  brackets.any (fun pair => c == pair.1 || c == pair.2)

inductive Balanced : List Char → Prop
  | empty : Balanced []
  | other {c : Char} {rest : List Char} (plain : isBracket c = false) (balanced : Balanced rest) :
      Balanced (c :: rest)
  | pair {opening closing : Char} {inner rest : List Char} (kind : (opening, closing) ∈ brackets)
      (inside : Balanced inner) (balanced : Balanced rest) :
      Balanced (opening :: (inner ++ closing :: rest))

/-- No character is a bracket. -/
def Plain (cs : List Char) : Prop :=
  ∀ c ∈ cs, isBracket c = false

def fieldNames (fields : List Field) : List String :=
  fields.flatMap (fun field => field.names.map Ident.name)

/-- The words of an expression that are printed as they are; those of its parts are not among them. -/
def Expr.words : Expr → List String
  | .ident name => [name.name]
  | .basicLit _ value _ => [value]
  | .funcLit params results _ _ => fieldNames params ++ fieldNames results
  | .selector _ sel => [sel.name]
  | .unary op _ _ => [op]
  | .binary _ op _ => [op]
  | .chanType dir _ => [dir]
  | .funcType params results => fieldNames params ++ fieldNames results
  | .structType fields => fieldNames fields
  | .interfaceType methods => fieldNames methods
  | _ => []

section

variable {first second : List Char}

@[simp] theorem plain_nil : Plain [] := by
  intro c member
  cases member

@[simp] theorem plain_cons {c : Char} {cs : List Char} :
    Plain (c :: cs) ↔ isBracket c = false ∧ Plain cs :=
  List.forall_mem_cons

@[simp] theorem plain_append : Plain (first ++ second) ↔ Plain first ∧ Plain second :=
  List.forall_mem_append

theorem plain_of_all {cs : List Char} (plain : cs.all (fun c => !isBracket c) = true) : Plain cs := by
  intro c member
  simpa using List.all_eq_true.mp plain c member

theorem plain_intercalate {separator : List Char} {texts : List (List Char)}
    (between : Plain separator) (plain : ∀ text ∈ texts, Plain text) :
    Plain (separator.intercalate texts) := by
  induction texts with
  | nil => exact plain_nil
  | cons text texts ih =>
      obtain ⟨own, others⟩ := List.forall_mem_cons.mp plain
      cases texts with
      | nil =>
          rw [List.intercalate_singleton]
          exact own
      | cons other texts =>
          rw [List.intercalate_cons_cons, plain_append, plain_append]
          exact ⟨⟨own, between⟩, ih others⟩

theorem Balanced.append (left : Balanced first) (right : Balanced second) :
    Balanced (first ++ second) := by
  induction left with
  | empty => exact right
  | other plain _ ih => exact .other plain ih
  | pair kind inside _ _ ih =>
      rw [List.cons_append, List.append_assoc, List.cons_append]
      exact .pair kind inside ih

theorem Plain.balanced (plain : Plain first) : Balanced first := by
  induction first with
  | nil => exact .empty
  | cons c cs ih =>
      obtain ⟨own, rest⟩ := plain_cons.mp plain
      exact .other own (ih rest)

theorem Balanced.round (inside : Balanced first) (behind : Balanced second) :
    Balanced ('(' :: (first ++ ')' :: second)) :=
  .pair (by decide) inside behind

private theorem Balanced.square (inside : Balanced first) (behind : Balanced second) :
    Balanced ('[' :: (first ++ ']' :: second)) :=
  .pair (by decide) inside behind

theorem Balanced.curly (inside : Balanced first) (behind : Balanced second) :
    Balanced ('\x7b' :: (first ++ '\x7d' :: second)) :=
  .pair (by decide) inside behind

/-- A balanced text stays balanced when another one is put into it, wherever that is. -/
theorem Balanced.insert {before after inner : List Char} (outer : Balanced (before ++ after))
    (balanced : Balanced inner) : Balanced (before ++ (inner ++ after)) := by
  generalize joined : before ++ after = whole at outer
  induction outer generalizing before after with
  | empty =>
      obtain ⟨rfl, rfl⟩ := List.append_eq_nil_iff.mp joined
      rw [List.nil_append, List.append_nil]
      exact balanced
  | @other c rest plain tail ih =>
      cases before with
      | nil =>
          cases joined
          exact balanced.append (.other plain tail)
      | cons d before =>
          cases joined
          exact .other plain (ih rfl)
  | @pair opening closing middle rest kind inside tail insideIh tailIh =>
      cases before with
      | nil =>
          cases joined
          exact balanced.append (.pair kind inside tail)
      | cons d before =>
          obtain ⟨rfl, split⟩ := List.cons_eq_cons.mp joined
          rcases List.append_eq_append_iff.mp split with ⟨front, rfl, rfl⟩ | ⟨front, rfl, back⟩
          · -- inside the pair
            have whole := Balanced.pair kind (insideIh rfl) tail
            simp only [List.append_assoc] at whole
            exact whole
          · cases front with
            | nil =>
                cases back
                have whole := Balanced.pair kind (inside.append balanced) tail
                simp only [List.append_assoc] at whole
                simp only [List.append_nil]
                exact whole
            | cons e front =>
                -- behind its end
                obtain ⟨rfl, rfl⟩ := List.cons_eq_cons.mp back
                have whole := Balanced.pair kind inside (tailIh rfl)
                simp only [List.append_assoc, List.cons_append]
                exact whole

end

def Piece.own : Piece → List Char
  | text own => own.toList
  | part _ => []

/-- The text of pieces without the parts. -/
def ownText (pieces : List Piece) : List Char :=
  pieces.flatMap Piece.own

section

variable (pieces : List Piece)

@[simp] theorem ownText_nil : ownText [] = [] := rfl

@[simp] theorem ownText_text (own : String) :
    ownText (.text own :: pieces) = own.toList ++ ownText pieces := rfl

@[simp] theorem ownText_part (expr : Expr) : ownText (.part expr :: pieces) = ownText pieces := rfl

@[simp] theorem ownText_append (more : List Piece) :
    ownText (pieces ++ more) = ownText pieces ++ ownText more :=
  List.flatMap_append

end

theorem ownText_separated (separator : String) (groups : List (List Piece)) :
    ownText (separated separator groups) = separator.toList.intercalate (groups.map ownText) := by
  induction groups with
  | nil => rfl
  | cons group groups ih =>
      cases groups with
      | nil =>
          rw [separated, List.intercalate_singleton, List.map_singleton, List.intercalate_singleton]
      | cons other groups =>
          rw [separated, List.intercalate_cons_cons, ← separated, ownText_append, ownText_append, ih,
            ownText_text, ownText_nil, List.append_nil]
          simp only [List.map_cons, List.intercalate_cons_cons]

@[simp] theorem ownText_optionalPieces (expr : Option Expr) : ownText (optionalPieces expr) = [] := by
  cases expr with
  | none => rfl
  | some expr => rfl

private theorem plain_listPieces (exprs : List Expr) : Plain (ownText (listPieces exprs)) := by
  rw [listPieces, ownText_separated]
  refine plain_intercalate (plain_of_all rfl) ?_
  intro text member
  rw [List.map_map, List.mem_map] at member
  obtain ⟨expr, _, rfl⟩ := member
  exact plain_nil

private theorem plain_namesText {names : List Ident}
    (plain : ∀ name ∈ names, Plain name.name.toList) :
    Plain (namesText names).toList := by
  unfold namesText
  split
  · exact plain_nil
  · rw [String.toList_append, plain_append, commaSeparated, String.toList_intercalate]
    refine ⟨plain_intercalate (plain_of_all rfl) ?_, plain_of_all rfl⟩
    intro text member
    rw [List.map_map, List.mem_map] at member
    obtain ⟨name, listed, rfl⟩ := member
    exact plain name listed

/-- The names of the fields have no brackets. -/
def PlainFields (fields : List Field) : Prop :=
  ∀ word ∈ fieldNames fields, Plain word.toList

theorem plain_fieldPieces (separator : String) {fields : List Field}
    (between : Plain separator.toList) (plain : PlainFields fields) :
    Plain (ownText (fieldPieces separator fields)) := by
  rw [fieldPieces, ownText_separated]
  refine plain_intercalate between ?_
  intro text member
  rw [List.map_map, List.mem_map] at member
  obtain ⟨field, listed, rfl⟩ := member
  have names : ∀ name ∈ field.names, Plain name.name.toList := by
    intro name inside
    exact plain name.name (List.mem_flatMap.mpr ⟨field, listed, List.mem_map_of_mem inside⟩)
  simpa [Field.pieces] using plain_namesText names

private theorem balanced_memberPieces {fields : List Field} (plain : PlainFields fields) :
    Balanced (ownText (memberPieces fields)) := by
  unfold memberPieces
  split
  · exact Balanced.empty.curly .empty
  · have inside : Plain (' ' :: (ownText (fieldPieces "; " fields) ++ [' '])) := by
      rw [plain_cons, plain_append]
      exact ⟨by decide, plain_fieldPieces "; " (plain_of_all rfl) plain,
        plain_of_all rfl⟩
    simpa using inside.balanced.curly .empty

private theorem balanced_resultPieces {results : List Field} (plain : PlainFields results) :
    Balanced (ownText (resultPieces results)) := by
  have enclosed {fields : List Field} (fieldsPlain : PlainFields fields) :
      Balanced (ownText (.text " (" :: (fieldPieces ", " fields ++ [Piece.text ")"]))) := by
    have inside := plain_fieldPieces ", " (plain_of_all rfl) fieldsPlain
    simpa using Balanced.other (by decide) (inside.balanced.round .empty)
  cases results with
  | nil => exact .empty
  | cons first others =>
      obtain ⟨names, type⟩ := first
      cases names with
      | cons name names => exact enclosed plain
      | nil =>
          cases others with
          | nil => exact (plain_of_all rfl).balanced
          | cons second others => exact enclosed plain

private theorem balanced_signaturePieces {params results : List Field}
    (plain : ∀ word ∈ fieldNames params ++ fieldNames results, Plain word.toList) :
    Balanced (ownText (signaturePieces params results)) := by
  obtain ⟨paramsPlain, resultsPlain⟩ := List.forall_mem_append.mp plain
  have inside := plain_fieldPieces ", " (plain_of_all rfl) paramsPlain
  have word : Plain "func".toList := plain_of_all rfl
  simpa [signaturePieces] using
    word.balanced.append (inside.balanced.round (balanced_resultPieces resultsPlain))

/-- Without its parts, what an expression prints is balanced if its words have no brackets. -/
theorem Expr.balanced_ownText {expr : Expr} (plain : ∀ word ∈ expr.words, Plain word.toList) :
    Balanced (ownText expr.pieces) := by
  cases expr with
  | ident name => simpa [pieces] using (plain name.name (List.mem_singleton.mpr rfl)).balanced
  | basicLit lit value pos => simpa [pieces] using (plain value (List.mem_singleton.mpr rfl)).balanced
  | compositeLit type elts pos =>
      simpa [pieces] using (plain_listPieces elts).balanced.curly .empty
  | funcLit params results body pos =>
      have dots : Plain [' ', '.', '.', '.', ' '] := plain_of_all rfl
      simpa [pieces] using (balanced_signaturePieces plain).append
        (.other (by decide) (dots.balanced.curly .empty))
  | paren x => exact Balanced.empty.round .empty
  | selector x sel =>
      simpa [pieces] using
        Balanced.other (by decide) (plain sel.name (List.mem_singleton.mpr rfl)).balanced
  | index x position => exact Balanced.empty.square .empty
  | slice x low high max =>
      have colons : Plain (':' :: ownText (if max.isSome then [.text ":"] else [])) := by
        cases max <;> exact plain_of_all rfl
      simpa [pieces] using colons.balanced.square .empty
  | typeAssert x type =>
      have word : Plain (ownText (if type.isSome then [] else [.text "type"])) := by
        cases type <;> exact plain_of_all rfl
      simpa [pieces] using Balanced.other (by decide) (word.balanced.round .empty)
  | call callee args spread =>
      have dots : Plain (ownText (if spread then [.text "..."] else [])) := by
        cases spread <;> exact plain_of_all rfl
      simpa [pieces] using ((plain_listPieces args).balanced.append dots.balanced).round .empty
  | star x pos => exact (plain_of_all rfl).balanced
  | unary op x pos => simpa [pieces] using (plain op (List.mem_singleton.mpr rfl)).balanced
  | binary x op y =>
      have blank : Plain [' '] := plain_of_all rfl
      simpa [pieces] using
        blank.balanced.append ((plain op (List.mem_singleton.mpr rfl)).balanced.append blank.balanced)
  | keyValue key value => exact (plain_of_all rfl).balanced
  | arrayType len elt => simpa [pieces] using Balanced.empty.square .empty
  | mapType key value =>
      have word : Plain "map".toList := plain_of_all rfl
      simpa [pieces] using word.balanced.append (Balanced.empty.square .empty)
  | chanType dir value =>
      have blank : Plain [' '] := plain_of_all rfl
      simpa [pieces] using (plain dir (List.mem_singleton.mpr rfl)).balanced.append blank.balanced
  | funcType params results => exact balanced_signaturePieces plain
  | structType fields =>
      have word : Plain "struct".toList := plain_of_all rfl
      simpa [pieces] using word.balanced.append (balanced_memberPieces plain)
  | interfaceType methods =>
      have word : Plain "interface".toList := plain_of_all rfl
      simpa [pieces] using word.balanced.append (balanced_memberPieces plain)
  | ellipsis elt =>
      have dots : Plain ['.', '.', '.'] := plain_of_all rfl
      simpa [pieces] using dots.balanced
  | bad pos => exact .empty

private theorem balanced_printAll (before : List Char) {pieces : List Piece} {text : String}
    (printed : printAll pieces = .ok text) (own : Balanced (before ++ ownText pieces))
    (parts : ∀ part ∈ partsOf pieces, ∀ inner, part.render = .ok inner → Balanced inner.toList) :
    Balanced (before ++ text.toList) := by
  induction pieces generalizing before text with
  | nil =>
      cases printed
      exact own
  | cons piece pieces ih =>
      cases piece with
      | text word =>
          rw [printAll_text] at printed
          obtain ⟨rest, printedRest, joined⟩ := Attempts.bind_eq_ok_iff.mp printed
          cases joined
          rw [ownText_text, ← List.append_assoc] at own
          rw [String.toList_append, ← List.append_assoc]
          exact ih (before ++ word.toList) printedRest own parts
      | part expr =>
          rw [printAll_part] at printed
          obtain ⟨inner, rendered, printed⟩ := Attempts.bind_eq_ok_iff.mp printed
          obtain ⟨rest, printedRest, joined⟩ := Attempts.bind_eq_ok_iff.mp printed
          cases joined
          obtain ⟨first, others⟩ := List.forall_mem_cons.mp parts
          have filled := Balanced.insert own (first inner rendered)
          rw [ownText_part, ← List.append_assoc] at filled
          rw [String.toList_append, ← List.append_assoc]
          exact ih (before ++ inner.toList) printedRest filled others

/-- If none of the words that are printed as they are has a bracket in it, the brackets of the printed
text are balanced, each closed by one of its own kind. -/
theorem rendered_text_is_balanced {expr : Expr} {text : String}
    (plain : ∀ address node, PrintedAt expr address node →
      ∀ word ∈ node.words, ∀ c ∈ word.toList, isBracket c = false)
    (rendered : expr.render = .ok text) : Balanced text.toList := by
  induction expr using Expr.parts_induction generalizing text with
  | step expr ih =>
      obtain ⟨own, inside⟩ := forall_printedAt_iff.mp plain
      refine balanced_printAll [] (printAll_of_render rendered) (Expr.balanced_ownText own) ?_
      intro part listed inner renderedPart
      exact ih part listed (inside part listed) renderedPart

/-- A call of a function literal, with brackets of all kinds at several depths. -/
def bracketed : Expr :=
  .call
    (.funcLit
      [⟨[⟨"x", {}⟩], ⟨.mapType (.ident ⟨"string", {}⟩) (.arrayType none (.ident ⟨"T", {}⟩)), ⟨0⟩⟩⟩]
      [⟨[⟨"n", {}⟩], ⟨.structType [], ⟨1⟩⟩⟩] ⟨[], {}⟩ {})
    [.slice (.ident ⟨"xs", {}⟩) none none none] true

theorem rendered_text_is_balanced_call :
    (∀ address node, PrintedAt bracketed address node →
        ∀ word ∈ node.words, ∀ c ∈ word.toList, isBracket c = false) ∧
      bracketed.render = .ok "func(x map[string][]T) (n struct\x7b\x7d) \x7b ... \x7d(xs[:]...)" ∧
      Balanced "func(x map[string][]T) (n struct\x7b\x7d) \x7b ... \x7d(xs[:]...)".toList := by
  have words {expr : Expr} (all : expr.words.all (·.toList.all (fun c => !isBracket c)) = true) :
      ∀ word ∈ expr.words, Plain word.toList :=
    fun word member => plain_of_all (List.all_eq_true.mp all word member)
  have plain : ∀ address node, PrintedAt bracketed address node →
      ∀ word ∈ node.words, ∀ c ∈ word.toList, isBracket c = false := by
    -- from the call down to the identifiers, part by part
    repeat' first
      | exact List.forall_mem_nil _
      | refine List.forall_mem_cons.mpr ⟨?_, ?_⟩
      | refine forall_printedAt_iff.mpr ⟨words rfl, ?_⟩
  have rendered : bracketed.render =
      .ok "func(x map[string][]T) (n struct\x7b\x7d) \x7b ... \x7d(xs[:]...)" := by
    decide +kernel
  exact ⟨plain, rendered, rendered_text_is_balanced plain rendered⟩

end ZeroError.Go
