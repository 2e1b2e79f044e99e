import Mathlib.Data.List.Basic
import ZeroError.Proofs.Walk

/-!
Where statements and expressions occur in a piece of syntax. Every constructor is given with all its
fields in the order of their declaration, and every field with what it holds: an occurrence has an
address, made of the numbers of fields and the positions inside lists on the way to it. Fields that
hold type syntax are marked, and an occurrence behind such a field does not count. Main statement:
the list of a node and its parts has each occurrence that counts exactly once, in the order of
addresses.
-/

namespace ZeroError.Go

/-- Whether syntax is evaluated or says what type something has. -/
inductive Role
  | value
  | type
deriving DecidableEq, Repr

/-- What a field holds of further syntax. The role of cases is that of what stands between `case` and
the colon. -/
inductive Content
  | leaf
  | expr (role : Role) (expr : Expr)
  | expr? (role : Role) (expr : Option Expr)
  | exprs (role : Role) (exprs : List Expr)
  | stmt (stmt : Stmt)
  | stmt? (stmt : Option Stmt)
  | block (block : Block)
  | fields (fields : List Field)
  | specs (specs : List Spec)
  | cases (role : Role) (clauses : List CaseClause)
  | comms (clauses : List CommClause)

/-- The fields of an expression. Types are written as expressions, whose operands are types again. -/
def Expr.contents : Expr → List Content
  | .ident _ => [.leaf]
  | .basicLit _ _ _ => [.leaf, .leaf, .leaf]
  | .compositeLit type elts _ => [.expr? .type type, .exprs .value elts, .leaf]
  | .funcLit params results body _ => [.fields params, .fields results, .block body, .leaf]
  | .paren x => [.expr .value x]
  | .selector x _ => [.expr .value x, .leaf]
  | .index x position => [.expr .value x, .expr .value position]
  | .slice x low high max =>
      [.expr .value x, .expr? .value low, .expr? .value high, .expr? .value max]
  | .typeAssert x type => [.expr .value x, .expr? .type type]
  | .call callee args _ => [.expr .value callee, .exprs .value args, .leaf]
  | .star x _ => [.expr .value x, .leaf]
  | .unary _ x _ => [.leaf, .expr .value x, .leaf]
  | .binary x _ y => [.expr .value x, .leaf, .expr .value y]
  | .keyValue key value => [.expr .value key, .expr .value value]
  | .arrayType len elt => [.expr? .type len, .expr .type elt]
  | .mapType key value => [.expr .type key, .expr .type value]
  | .chanType _ value => [.leaf, .expr .type value]
  | .funcType params results => [.fields params, .fields results]
  | .structType fields => [.fields fields]
  | .interfaceType methods => [.fields methods]
  | .ellipsis elt => [.expr? .type elt]
  | .bad _ => [.leaf]

def Stmt.contents : Stmt → List Content
  | .decl declaration => [.leaf, .specs declaration.specs, .leaf]
  | .assign lhs _ rhs _ => [.exprs .value lhs, .leaf, .exprs .value rhs, .leaf]
  | .ret results _ => [.exprs .value results, .leaf]
  | .expr x => [.expr .value x]
  | .block body => [.block body]
  | .ifElse init cond body otherwise _ =>
      [.stmt? init, .expr .value cond, .block body, .stmt? otherwise, .leaf]
  | .forLoop init cond post body _ =>
      [.stmt? init, .expr? .value cond, .stmt? post, .block body, .leaf]
  | .rangeLoop key value _ x body _ =>
      [.expr? .value key, .expr? .value value, .leaf, .expr .value x, .block body, .leaf]
  | .switch init tag clauses _ => [.stmt? init, .expr? .value tag, .cases .value clauses, .leaf]
  | .typeSwitch init guarded clauses _ => [.stmt? init, .stmt guarded, .cases .type clauses, .leaf]
  | .select clauses _ => [.comms clauses, .leaf]
  | .labeled _ target => [.leaf, .stmt target]
  | .go call => [.expr .value call]
  | .defer call => [.expr .value call]
  | .incDec x _ => [.expr .value x, .leaf]
  | .send chan value => [.expr .value chan, .expr .value value]
  | .branch _ _ => [.leaf, .leaf]
  | .empty => []

def Node.contents : Node → List Content
  | .stmt s => s.contents
  | .expr e => e.contents

/-- What stands directly at a place inside a field, and in which role. -/
inductive Content.Holds : Content → Role → List Nat → Node → Prop
  | expr {role : Role} {x : Expr} : Holds (.expr role x) role [] (.expr x)
  | optional {role : Role} {x : Expr} : Holds (.expr? role (some x)) role [] (.expr x)
  | item {role : Role} {exprs : List Expr} {i : Nat} {x : Expr} (present : exprs[i]? = some x) :
      Holds (.exprs role exprs) role [i] (.expr x)
  | stmt {s : Stmt} : Holds (.stmt s) .value [] (.stmt s)
  | optionalStmt {s : Stmt} : Holds (.stmt? (some s)) .value [] (.stmt s)
  | inBlock {block : Block} {i : Nat} {s : Stmt} (present : block.stmts[i]? = some s) :
      Holds (.block block) .value [0, i] (.stmt s)
  | fieldType {fields : List Field} {i : Nat} {field : Field} (present : fields[i]? = some field) :
      Holds (.fields fields) .type [i, 1, 0] (.expr field.type.expr)
  | annotation {specs : List Spec} {i : Nat} {spec : ValueSpec} {type : TypeExpr}
      (present : specs[i]? = some (.value spec)) (given : spec.type = some type) :
      Holds (.specs specs) .type [i, 1, 0] (.expr type.expr)
  | initial {specs : List Spec} {i j : Nat} {spec : ValueSpec} {x : Expr}
      (present : specs[i]? = some (.value spec)) (given : spec.values[j]? = some x) :
      Holds (.specs specs) .value [i, 2, j] (.expr x)
  | definition {specs : List Spec} {i : Nat} {spec : TypeSpec}
      (present : specs[i]? = some (.type spec)) :
      Holds (.specs specs) .type [i, 1, 0] (.expr spec.type.expr)
  | caseItem {role : Role} {clauses : List CaseClause} {i j : Nat} {clause : CaseClause} {x : Expr}
      (present : clauses[i]? = some clause) (given : clause.list[j]? = some x) :
      Holds (.cases role clauses) role [i, 0, j] (.expr x)
  | inCase {role : Role} {clauses : List CaseClause} {i j : Nat} {clause : CaseClause} {s : Stmt}
      (present : clauses[i]? = some clause) (given : clause.body[j]? = some s) :
      Holds (.cases role clauses) .value [i, 1, j] (.stmt s)
  | comm {clauses : List CommClause} {i : Nat} {clause : CommClause} {s : Stmt}
      (present : clauses[i]? = some clause) (given : clause.comm = some s) :
      Holds (.comms clauses) .value [i, 0] (.stmt s)
  | inComm {clauses : List CommClause} {i j : Nat} {clause : CommClause} {s : Stmt}
      (present : clauses[i]? = some clause) (given : clause.body[j]? = some s) :
      Holds (.comms clauses) .value [i, 1, j] (.stmt s)

/-- A node occurs at an address below another one, or at the empty address as that one itself, with no
type syntax on the way. -/
inductive OccursAt : Node → List Nat → Node → Prop
  | here {node : Node} : OccursAt node [] node
  | inside {parent child node : Node} {number : Nat} {content : Content} {place address : List Nat}
      (field : parent.contents[number]? = some content)
      (holds : content.Holds .value place child) (occurs : OccursAt child address node) :
      OccursAt parent (number :: place ++ address) node

/-- Groups of parts, with the number of its group in front of the place of each. -/
def numberedFrom : (first : Nat) → List (List (List Nat × Node)) → List (List Nat × Node)
  | _, [] => []
  | number, group :: groups =>
      group.map (fun part => (number :: part.1, part.2)) ++ numberedFrom (number + 1) groups

def numbered (groups : List (List (List Nat × Node))) : List (List Nat × Node) :=
  numberedFrom 0 groups

def alone (node : Node) : List (List Nat × Node) :=
  [([], node)]

def inRow (nodes : List Node) : List (List Nat × Node) :=
  numbered (nodes.map alone)

def ifGiven (nodes : List Node) : List (List Nat × Node) :=
  nodes.flatMap alone

/-- The parts of a field in the given role that are not type syntax. -/
def Role.evaluated (role : Role) (parts : List (List Nat × Node)) : List (List Nat × Node) :=
  if role = .value then parts else []

def Spec.placed : Spec → List (List Nat × Node)
  | .value spec => numbered [[], [], inRow (exprNodes spec.values)]
  | .type _ => []

def CaseClause.placed (role : Role) (clause : CaseClause) : List (List Nat × Node) :=
  numbered [role.evaluated (inRow (exprNodes clause.list)), inRow (stmtNodes clause.body)]

def CommClause.placed (clause : CommClause) : List (List Nat × Node) :=
  numbered [ifGiven (stmtNode? clause.comm), inRow (stmtNodes clause.body)]

def Content.placed : Content → List (List Nat × Node)
  | .leaf => []
  | .expr role x => role.evaluated (alone (.expr x))
  | .expr? role x => role.evaluated (ifGiven (exprNode? x))
  | .exprs role xs => role.evaluated (inRow (exprNodes xs))
  | .stmt s => alone (.stmt s)
  | .stmt? s => ifGiven (stmtNode? s)
  | .block b => numbered [inRow (stmtNodes b.stmts)]
  | .fields _ => []
  | .specs given => numbered (given.map Spec.placed)
  | .cases role clauses => numbered (clauses.map (CaseClause.placed role))
  | .comms clauses => numbered (clauses.map CommClause.placed)

def Node.placed (node : Node) : List (List Nat × Node) :=
  numbered (node.contents.map Content.placed)

/-! ### Which places there are -/

section

variable {place : List Nat} {node : Node}

theorem mem_numberedFrom_nil {first : Nat} : (place, node) ∈ numberedFrom first [] ↔ False := by
  simp only [numberedFrom, List.not_mem_nil]

theorem mem_numberedFrom_cons {first : Nat} {group : List (List Nat × Node)}
    {groups : List (List (List Nat × Node))} :
    (place, node) ∈ numberedFrom first (group :: groups) ↔
      (∃ rest, (rest, node) ∈ group ∧ place = first :: rest) ∨
        (place, node) ∈ numberedFrom (first + 1) groups := by
  rw [numberedFrom, List.mem_append, List.mem_map]
  constructor
  · rintro (⟨part, member, same⟩ | later)
    · cases same
      exact Or.inl ⟨part.1, member, rfl⟩
    · exact Or.inr later
  · rintro (⟨rest, member, rfl⟩ | later)
    · exact Or.inl ⟨(rest, node), member, rfl⟩
    · exact Or.inr later

theorem mem_numberedFrom_iff {first : Nat} {groups : List (List (List Nat × Node))} :
    (place, node) ∈ numberedFrom first groups ↔
      ∃ number group rest, groups[number]? = some group ∧ (rest, node) ∈ group ∧
        place = (first + number) :: rest := by
  induction groups generalizing first with
  | nil => simp [numberedFrom]
  | cons group groups ih =>
      rw [mem_numberedFrom_cons, ih]
      constructor
      · rintro (⟨rest, member, rfl⟩ | ⟨number, other, rest, present, member, rfl⟩)
        · exact ⟨0, group, rest, rfl, member, rfl⟩
        · refine ⟨number + 1, other, rest, present, member, ?_⟩
          rw [Nat.add_right_comm, Nat.add_assoc]
      · rintro ⟨number, other, rest, present, member, rfl⟩
        cases number with
        | zero =>
            cases present
            exact Or.inl ⟨rest, member, rfl⟩
        | succ number =>
            refine Or.inr ⟨number, other, rest, present, member, ?_⟩
            rw [Nat.add_right_comm, Nat.add_assoc]

theorem mem_numbered_map_iff {α : Type} {items : List α} {parts : α → List (List Nat × Node)} :
    (place, node) ∈ numbered (items.map parts) ↔
      ∃ number item rest, items[number]? = some item ∧ (rest, node) ∈ parts item ∧
        place = number :: rest := by
  simp only [numbered, mem_numberedFrom_iff, Nat.zero_add, List.getElem?_map,
    Option.map_eq_some_iff]
  constructor
  · rintro ⟨number, group, rest, ⟨item, present, rfl⟩, member, same⟩
    exact ⟨number, item, rest, present, member, same⟩
  · rintro ⟨number, item, rest, present, member, same⟩
    exact ⟨number, parts item, rest, ⟨item, present, rfl⟩, member, same⟩

@[simp] theorem mem_alone_iff {other : Node} :
    (place, node) ∈ alone other ↔ place = [] ∧ node = other := by
  simp only [alone, List.mem_singleton, Prod.mk.injEq]

@[simp] theorem mem_ifGiven_iff {nodes : List Node} :
    (place, node) ∈ ifGiven nodes ↔ place = [] ∧ node ∈ nodes := by
  simp only [ifGiven, List.mem_flatMap, mem_alone_iff]
  constructor
  · rintro ⟨other, member, rfl, rfl⟩
    exact ⟨rfl, member⟩
  · rintro ⟨rfl, member⟩
    exact ⟨node, member, rfl, rfl⟩

theorem mem_row_iff {α : Type} {items : List α} {nodeOf : α → Node} :
    (place, node) ∈ inRow (items.map nodeOf) ↔
      ∃ number item, items[number]? = some item ∧ node = nodeOf item ∧ place = [number] := by
  rw [inRow, List.map_map, mem_numbered_map_iff]
  simp only [Function.comp_apply, mem_alone_iff]
  constructor
  · rintro ⟨number, item, rest, present, ⟨rfl, same⟩, rfl⟩
    exact ⟨number, item, present, same, rfl⟩
  · rintro ⟨number, item, present, same, rfl⟩
    exact ⟨number, item, [], present, ⟨rfl, same⟩, rfl⟩

theorem mem_given_iff {α : Type} {given : Option α} {nodeOf : α → Node} :
    node ∈ given.toList.map nodeOf ↔ ∃ item, given = some item ∧ node = nodeOf item := by
  cases given with
  | none => simp
  | some item => simp

@[simp] theorem Role.mem_evaluated_iff {role : Role} {parts : List (List Nat × Node)} :
    (place, node) ∈ role.evaluated parts ↔ role = .value ∧ (place, node) ∈ parts := by
  cases role with
  | value => simp [evaluated]
  | type => simp [evaluated]

private theorem Spec.mem_placed_iff {spec : ValueSpec} :
    (place, node) ∈ (Spec.value spec).placed ↔
      ∃ number x, spec.values[number]? = some x ∧ node = .expr x ∧ place = [2, number] := by
  simp only [placed, numbered, mem_numberedFrom_cons, mem_numberedFrom_nil, or_false, exprNodes,
    mem_row_iff, List.not_mem_nil, false_and, exists_false, false_or]
  constructor
  · rintro ⟨_, ⟨number, x, present, same, rfl⟩, rfl⟩
    exact ⟨number, x, present, same, rfl⟩
  · rintro ⟨number, x, present, same, rfl⟩
    exact ⟨[number], ⟨number, x, present, same, rfl⟩, rfl⟩

private theorem CaseClause.mem_placed_iff {role : Role} {clause : CaseClause} :
    (place, node) ∈ clause.placed role ↔
      (∃ number x, role = .value ∧ clause.list[number]? = some x ∧ node = .expr x ∧
        place = [0, number]) ∨
      ∃ number s, clause.body[number]? = some s ∧ node = .stmt s ∧ place = [1, number] := by
  simp only [placed, numbered, mem_numberedFrom_cons, mem_numberedFrom_nil, or_false,
    Role.mem_evaluated_iff, exprNodes, stmtNodes, mem_row_iff]
  constructor
  · rintro (⟨_, ⟨given, number, x, present, same, rfl⟩, rfl⟩ |
      ⟨_, ⟨number, s, present, same, rfl⟩, rfl⟩)
    · exact Or.inl ⟨number, x, given, present, same, rfl⟩
    · exact Or.inr ⟨number, s, present, same, rfl⟩
  · rintro (⟨number, x, given, present, same, rfl⟩ | ⟨number, s, present, same, rfl⟩)
    · exact Or.inl ⟨[number], ⟨given, number, x, present, same, rfl⟩, rfl⟩
    · exact Or.inr ⟨[number], ⟨number, s, present, same, rfl⟩, rfl⟩

private theorem CommClause.mem_placed_iff {clause : CommClause} :
    (place, node) ∈ clause.placed ↔
      (∃ s, clause.comm = some s ∧ node = .stmt s ∧ place = [0]) ∨
      ∃ number s, clause.body[number]? = some s ∧ node = .stmt s ∧ place = [1, number] := by
  simp only [placed, numbered, mem_numberedFrom_cons, mem_numberedFrom_nil, or_false,
    mem_ifGiven_iff, stmtNode?, stmtNodes, mem_given_iff, mem_row_iff]
  constructor
  · rintro (⟨_, ⟨rfl, s, given, same⟩, rfl⟩ | ⟨_, ⟨number, s, present, same, rfl⟩, rfl⟩)
    · exact Or.inl ⟨s, given, same, rfl⟩
    · exact Or.inr ⟨number, s, present, same, rfl⟩
  · rintro (⟨s, given, same, rfl⟩ | ⟨number, s, present, same, rfl⟩)
    · exact Or.inl ⟨[], ⟨rfl, s, given, same⟩, rfl⟩
    · exact Or.inr ⟨[number], ⟨number, s, present, same, rfl⟩, rfl⟩

/-- The listed parts of a field are those that it holds outside of type syntax. -/
theorem Content.mem_placed_iff {content : Content} :
    (place, node) ∈ content.placed ↔ content.Holds .value place node := by
  constructor
  · intro member
    cases content with
    | leaf => cases member
    | fields given => cases member
    | expr role x =>
        obtain ⟨rfl, rfl, rfl⟩ : role = .value ∧ place = [] ∧ node = .expr x := by
          simpa [placed] using member
        exact .expr
    | expr? role x =>
        simp only [placed, Role.mem_evaluated_iff, mem_ifGiven_iff, exprNode?, exprNodes,
          mem_given_iff] at member
        obtain ⟨rfl, rfl, x, rfl, rfl⟩ := member
        exact .optional
    | exprs role xs =>
        simp only [placed, Role.mem_evaluated_iff, exprNodes, mem_row_iff] at member
        obtain ⟨rfl, number, x, present, rfl, rfl⟩ := member
        exact .item present
    | stmt s =>
        obtain ⟨rfl, rfl⟩ := mem_alone_iff.mp member
        exact .stmt
    | stmt? s =>
        simp only [placed, mem_ifGiven_iff, stmtNode?, stmtNodes, mem_given_iff] at member
        obtain ⟨rfl, s, rfl, rfl⟩ := member
        exact .optionalStmt
    | block b =>
        simp only [placed, numbered, mem_numberedFrom_cons, mem_numberedFrom_nil, or_false,
          stmtNodes, mem_row_iff] at member
        obtain ⟨_, ⟨number, s, present, rfl, rfl⟩, rfl⟩ := member
        exact .inBlock present
    | specs given =>
        obtain ⟨i, spec, rest, present, inside, rfl⟩ := mem_numbered_map_iff.mp member
        cases spec with
        | type spec => cases inside
        | value spec =>
            obtain ⟨j, x, value, rfl, rfl⟩ := Spec.mem_placed_iff.mp inside
            exact .initial present value
    | cases role clauses =>
        obtain ⟨i, clause, rest, present, inside, rfl⟩ := mem_numbered_map_iff.mp member
        obtain ⟨j, x, rfl, given, rfl, rfl⟩ | ⟨j, s, given, rfl, rfl⟩ :=
          CaseClause.mem_placed_iff.mp inside
        · exact .caseItem present given
        · exact .inCase present given
    | comms clauses =>
        obtain ⟨i, clause, rest, present, inside, rfl⟩ := mem_numbered_map_iff.mp member
        obtain ⟨s, given, rfl, rfl⟩ | ⟨j, s, given, rfl, rfl⟩ := CommClause.mem_placed_iff.mp inside
        · exact .comm present given
        · exact .inComm present given
  · intro holds
    cases holds with
    | expr => simp [placed]
    | optional => simp [placed, exprNode?, exprNodes]
    | item present =>
        simp only [placed, Role.mem_evaluated_iff, exprNodes, mem_row_iff]
        exact ⟨trivial, _, _, present, rfl, rfl⟩
    | stmt => simp [placed]
    | optionalStmt => simp [placed, stmtNode?, stmtNodes]
    | inBlock present =>
        simp only [placed, numbered, mem_numberedFrom_cons, mem_numberedFrom_nil, or_false,
          stmtNodes, mem_row_iff]
        exact ⟨_, ⟨_, _, present, rfl, rfl⟩, rfl⟩
    | initial present given =>
        exact mem_numbered_map_iff.mpr
          ⟨_, _, _, present, Spec.mem_placed_iff.mpr ⟨_, _, given, rfl, rfl⟩, rfl⟩
    | caseItem present given =>
        exact mem_numbered_map_iff.mpr ⟨_, _, _, present,
          CaseClause.mem_placed_iff.mpr (Or.inl ⟨_, _, rfl, given, rfl, rfl⟩), rfl⟩
    | inCase present given =>
        exact mem_numbered_map_iff.mpr ⟨_, _, _, present,
          CaseClause.mem_placed_iff.mpr (Or.inr ⟨_, _, given, rfl, rfl⟩), rfl⟩
    | comm present given =>
        exact mem_numbered_map_iff.mpr ⟨_, _, _, present,
          CommClause.mem_placed_iff.mpr (Or.inl ⟨_, given, rfl, rfl⟩), rfl⟩
    | inComm present given =>
        exact mem_numbered_map_iff.mpr ⟨_, _, _, present,
          CommClause.mem_placed_iff.mpr (Or.inr ⟨_, _, given, rfl, rfl⟩), rfl⟩

theorem Node.mem_placed_iff {parent : Node} :
    (place, node) ∈ parent.placed ↔
      ∃ number content rest, parent.contents[number]? = some content ∧
        content.Holds .value rest node ∧ place = number :: rest := by
  simp only [placed, mem_numbered_map_iff, Content.mem_placed_iff]

end

theorem map_snd_numberedFrom (first : Nat) (groups : List (List (List Nat × Node))) :
    (numberedFrom first groups).map Prod.snd = groups.flatMap (List.map Prod.snd) := by
  induction groups generalizing first with
  | nil => rfl
  | cons group groups ih =>
      rw [numberedFrom, List.map_append, List.map_map, ih, List.flatMap_cons]
      rfl

theorem map_snd_inRow (nodes : List Node) : (inRow nodes).map Prod.snd = nodes := by
  rw [inRow, numbered, map_snd_numberedFrom, List.flatMap_map]
  exact List.flatMap_singleton' nodes

theorem map_snd_ifGiven (nodes : List Node) : (ifGiven nodes).map Prod.snd = nodes := by
  rw [ifGiven, List.map_flatMap]
  exact List.flatMap_singleton' nodes

private theorem Spec.map_snd_placed (spec : Spec) :
    spec.placed.map Prod.snd = exprNodes spec.values := by
  cases spec with
  | type spec => rfl
  | value spec => simp [placed, numbered, map_snd_numberedFrom, map_snd_inRow, values]

/-- The nodes that a field holds outside of type syntax. -/
def Content.nodes (content : Content) : List Node :=
  content.placed.map Prod.snd

theorem Node.map_snd_placed (node : Node) :
    node.placed.map Prod.snd = node.contents.flatMap Content.nodes := by
  rw [placed, numbered, map_snd_numberedFrom, List.flatMap_map]
  rfl

section

variable (x : Expr) (given : Option Expr) (exprs : List Expr)

@[simp] theorem nodes_leaf : Content.leaf.nodes = [] := rfl

@[simp] theorem nodes_expr : (Content.expr .value x).nodes = [.expr x] := rfl

@[simp] theorem nodes_expr? : (Content.expr? .value given).nodes = exprNode? given :=
  map_snd_ifGiven (exprNode? given)

@[simp] theorem nodes_exprs : (Content.exprs .value exprs).nodes = exprNodes exprs :=
  map_snd_inRow (exprNodes exprs)

@[simp] theorem nodes_expr_type : (Content.expr .type x).nodes = [] := rfl

@[simp] theorem nodes_expr?_type : (Content.expr? .type given).nodes = [] := rfl

@[simp] theorem nodes_stmt (s : Stmt) : (Content.stmt s).nodes = [.stmt s] := rfl

@[simp] theorem nodes_stmt? (s : Option Stmt) : (Content.stmt? s).nodes = stmtNode? s :=
  map_snd_ifGiven (stmtNode? s)

@[simp] theorem nodes_fields (fields : List Field) : (Content.fields fields).nodes = [] := rfl

@[simp] theorem nodes_block (block : Block) : (Content.block block).nodes = stmtNodes block.stmts := by
  simp [Content.nodes, Content.placed, numbered, map_snd_numberedFrom, map_snd_inRow]

@[simp] theorem nodes_specs (specs : List Spec) :
    (Content.specs specs).nodes = specs.flatMap (fun spec => exprNodes spec.values) := by
  simp [Content.nodes, Content.placed, numbered, map_snd_numberedFrom, List.flatMap_map,
    Spec.map_snd_placed]

@[simp] theorem nodes_cases (clauses : List CaseClause) :
    (Content.cases .value clauses).nodes =
      clauses.flatMap (fun clause => exprNodes clause.list ++ stmtNodes clause.body) := by
  simp [Content.nodes, Content.placed, CaseClause.placed, Role.evaluated, numbered,
    map_snd_numberedFrom, List.flatMap_map, map_snd_inRow]

@[simp] theorem nodes_cases_type (clauses : List CaseClause) :
    (Content.cases .type clauses).nodes =
      clauses.flatMap (fun clause => stmtNodes clause.body) := by
  simp [Content.nodes, Content.placed, CaseClause.placed, Role.evaluated, numbered,
    map_snd_numberedFrom, List.flatMap_map, map_snd_inRow]

@[simp] theorem nodes_comms (clauses : List CommClause) :
    (Content.comms clauses).nodes =
      clauses.flatMap (fun clause => stmtNode? clause.comm ++ stmtNodes clause.body) := by
  simp [Content.nodes, Content.placed, CommClause.placed, numbered,
    map_snd_numberedFrom, List.flatMap_map, map_snd_inRow, map_snd_ifGiven]

end

/-- The children of a node are what its fields hold, one field after the other. -/
theorem Node.children_eq (node : Node) : node.children = node.contents.flatMap Content.nodes := by
  cases node with
  | expr e => cases e <;> simp [children, contents, Expr.children, Expr.contents]
  | stmt s => cases s <;> simp [children, contents, Stmt.children, Stmt.contents]

/-! ### The order of places -/

/-- The first place comes before the second, and neither goes on where the other ends. -/
def Apart : List Nat → List Nat → Prop
  | m :: first, n :: second => m < n ∨ m = n ∧ Apart first second
  | _, _ => False

theorem Apart.append {first second : List Nat} (apart : Apart first second)
    (more others : List Nat) : Apart (first ++ more) (second ++ others) := by
  induction first generalizing second with
  | nil => cases apart
  | cons m first ih =>
      cases second with
      | nil => cases apart
      | cons n second =>
          rcases apart with less | ⟨same, rest⟩
          · exact Or.inl less
          · exact Or.inr ⟨same, ih rest⟩

private theorem Apart.lt {first second : List Nat} (apart : Apart first second) :
    first < second := by
  induction first generalizing second with
  | nil => cases apart
  | cons m first ih =>
      cases second with
      | nil => cases apart
      | cons n second =>
          rcases apart with less | ⟨same, rest⟩
          · exact List.cons_lt_cons_iff.mpr (Or.inl less)
          · exact List.cons_lt_cons_iff.mpr (Or.inr ⟨same, ih rest⟩)

/-- Whether the places of parts come one after the other. -/
def InOrder (parts : List (List Nat × Node)) : Prop :=
  parts.Pairwise (fun first second => Apart first.1 second.1)

theorem inOrder_numberedFrom (first : Nat) {groups : List (List (List Nat × Node))}
    (inside : ∀ group ∈ groups, InOrder group) : InOrder (numberedFrom first groups) := by
  induction groups generalizing first with
  | nil => exact List.Pairwise.nil
  | cons group groups ih =>
      rw [InOrder, numberedFrom, List.pairwise_append]
      refine ⟨?_, ih (first + 1) (fun other member => inside other (List.mem_cons_of_mem _ member)),
        ?_⟩
      · rw [List.pairwise_map]
        exact (inside group List.mem_cons_self).imp (fun apart => Or.inr ⟨rfl, apart⟩)
      · intro part member (later, node) laterMember
        obtain ⟨earlier, _, rfl⟩ := List.mem_map.mp member
        obtain ⟨number, _, rest, _, _, rfl⟩ := mem_numberedFrom_iff.mp laterMember
        exact Or.inl (by omega)

theorem inOrder_numbered_map {α : Type} {items : List α} {parts : α → List (List Nat × Node)}
    (inside : ∀ item, InOrder (parts item)) : InOrder (numbered (items.map parts)) := by
  refine inOrder_numberedFrom 0 ?_
  intro group member
  obtain ⟨item, _, rfl⟩ := List.mem_map.mp member
  exact inside item

theorem inOrder_alone (node : Node) : InOrder (alone node) :=
  List.pairwise_singleton _ _

theorem inOrder_inRow (nodes : List Node) : InOrder (inRow nodes) :=
  inOrder_numbered_map inOrder_alone

theorem inOrder_ifGiven {α : Type} (given : Option α) (nodeOf : α → Node) :
    InOrder (ifGiven (given.toList.map nodeOf)) := by
  cases given with
  | none => exact List.Pairwise.nil
  | some item => exact inOrder_alone (nodeOf item)

private theorem Role.inOrder_evaluated (role : Role) {parts : List (List Nat × Node)}
    (inOrder : InOrder parts) : InOrder (role.evaluated parts) := by
  cases role with
  | value => exact inOrder
  | type => exact List.Pairwise.nil

private theorem Content.inOrder_placed (content : Content) : InOrder content.placed := by
  cases content with
  | leaf => exact List.Pairwise.nil
  | fields given => exact List.Pairwise.nil
  | expr role x => exact role.inOrder_evaluated (inOrder_alone _)
  | expr? role x => exact role.inOrder_evaluated (inOrder_ifGiven x .expr)
  | exprs role xs => exact role.inOrder_evaluated (inOrder_inRow _)
  | stmt s => exact inOrder_alone _
  | stmt? s => exact inOrder_ifGiven s .stmt
  | block b =>
      refine inOrder_numberedFrom 0 ?_
      simpa using inOrder_inRow (stmtNodes b.stmts)
  | specs given =>
      refine inOrder_numbered_map ?_
      intro spec
      cases spec with
      | type spec => exact List.Pairwise.nil
      | value spec =>
          refine inOrder_numberedFrom 0 ?_
          simpa using ⟨List.Pairwise.nil, inOrder_inRow (exprNodes spec.values)⟩
  | cases role clauses =>
      refine inOrder_numbered_map ?_
      intro clause
      refine inOrder_numberedFrom 0 ?_
      simpa using ⟨role.inOrder_evaluated (inOrder_inRow (exprNodes clause.list)),
        inOrder_inRow (stmtNodes clause.body)⟩
  | comms clauses =>
      refine inOrder_numbered_map ?_
      intro clause
      refine inOrder_numberedFrom 0 ?_
      simpa using ⟨inOrder_ifGiven clause.comm .stmt, inOrder_inRow (stmtNodes clause.body)⟩

private theorem Node.inOrder_placed (node : Node) : InOrder node.placed :=
  inOrder_numbered_map Content.inOrder_placed

theorem Node.sizeOf_placed {parent : Node} {part : List Nat × Node} (member : part ∈ parent.placed) :
    sizeOf part.2 < sizeOf parent := by
  refine Node.sizeOf_children ?_
  rw [children_eq, ← map_snd_placed]
  exact List.mem_map_of_mem member

/-- All nodes from the given one down with their addresses, each before its parts. -/
def Node.addressed (node : Node) : List (List Nat × Node) :=
  ([], node) :: node.placed.attach.flatMap (fun part =>
    part.1.2.addressed.map (fun inner => (part.1.1 ++ inner.1, inner.2)))
termination_by sizeOf node
decreasing_by exact Node.sizeOf_placed part.2

theorem Node.addressed_eq (node : Node) :
    node.addressed = ([], node) :: node.placed.flatMap (fun part =>
      part.2.addressed.map (fun inner => (part.1 ++ inner.1, inner.2))) := by
  rw [Node.addressed]
  congr 1
  rw [List.flatMap_subtype
    (g := fun part => part.2.addressed.map (fun inner => (part.1 ++ inner.1, inner.2)))
    (fun part _ => rfl), List.unattach_attach]

private theorem Node.map_snd_addressed (node : Node) :
    node.addressed.map Prod.snd = node.preorder := by
  have parts : node.placed.flatMap (fun part => part.2.addressed.map Prod.snd) =
      node.placed.flatMap (fun part => part.2.preorder) :=
    List.flatMap_congr (fun part _member => part.2.map_snd_addressed)
  rw [addressed_eq, preorder_eq, children_eq, ← map_snd_placed, List.map_cons, List.map_flatMap,
    List.flatMap_map, ← parts]
  simp only [List.map_map]
  rfl
termination_by sizeOf node
decreasing_by exact Node.sizeOf_placed _member

private theorem Node.mem_addressed_of_mem_placed {root child node : Node} {place address : List Nat}
    (member : (place, child) ∈ root.placed) (inner : (address, node) ∈ child.addressed) :
    (place ++ address, node) ∈ root.addressed := by
  rw [addressed_eq]
  exact List.mem_cons_of_mem _
    (List.mem_flatMap.mpr ⟨(place, child), member, List.mem_map_of_mem inner⟩)

private theorem OccursAt.mem_addressed {root node : Node} {address : List Nat}
    (occurs : OccursAt root address node) : (address, node) ∈ root.addressed := by
  induction occurs with
  | here =>
      rw [Node.addressed_eq]
      exact List.mem_cons_self
  | inside field holds _occurs ih =>
      exact Node.mem_addressed_of_mem_placed
        (Node.mem_placed_iff.mpr ⟨_, _, _, field, holds, rfl⟩) ih

private theorem Node.occursAt_of_mem_addressed {root node : Node} {address : List Nat}
    (member : (address, node) ∈ root.addressed) : OccursAt root address node := by
  rw [addressed_eq, List.mem_cons, List.mem_flatMap] at member
  rcases member with same | ⟨part, placed, inner⟩
  · cases same
    exact .here
  · obtain ⟨⟨rest, other⟩, deeper, same⟩ := List.mem_map.mp inner
    cases same
    obtain ⟨number, content, inside, field, holds, start⟩ := mem_placed_iff.mp placed
    simp only [start]
    exact .inside field holds (occursAt_of_mem_addressed deeper)
termination_by sizeOf root
decreasing_by exact Node.sizeOf_placed placed

private theorem Node.addressed_ordered (node : Node) :
    node.addressed.Pairwise (fun first second => first.1 < second.1) := by
  rw [addressed_eq, List.pairwise_cons]
  constructor
  · intro part member
    obtain ⟨⟨place, child⟩, placed, inner⟩ := List.mem_flatMap.mp member
    obtain ⟨rest, _, rfl⟩ := List.mem_map.mp inner
    obtain ⟨number, _, _, _, _, rfl⟩ := mem_placed_iff.mp placed
    exact List.nil_lt_cons _ _
  · rw [List.pairwise_flatMap]
    constructor
    · intro part _member
      rw [List.pairwise_map]
      exact part.2.addressed_ordered.imp (fun less => List.append_left_lt less)
    · exact node.inOrder_placed.imp (fun apart => by
        intro first firstMember second secondMember
        obtain ⟨inner, _, rfl⟩ := List.mem_map.mp firstMember
        obtain ⟨other, _, rfl⟩ := List.mem_map.mp secondMember
        exact (apart.append inner.1 other.1).lt)
termination_by sizeOf node
decreasing_by exact Node.sizeOf_placed _member

/-- The list of a node and its parts has every occurrence outside of type syntax exactly once, in the
order of addresses. -/
theorem preorder_lists_each_occurrence_once (root : Node) :
    ∃ listing : List (List Nat × Node),
      listing.map Prod.snd = root.preorder ∧
      listing.Pairwise (fun first second => first.1 < second.1) ∧
      ∀ address node, (address, node) ∈ listing ↔ OccursAt root address node :=
  ⟨root.addressed, root.map_snd_addressed, root.addressed_ordered,
    fun _address _node => ⟨Node.occursAt_of_mem_addressed, OccursAt.mem_addressed⟩⟩

end ZeroError.Go
