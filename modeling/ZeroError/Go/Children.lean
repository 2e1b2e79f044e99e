import ZeroError.Go.Syntax

/-!
The parts of a statement or expression that are evaluated, in the order in which the fields are
declared. Type syntax is not evaluated and has no part in this: neither annotations, nor the types of
composite literals and assertions, nor signatures, nor the case lists of type switches.
-/

namespace ZeroError.Go

inductive Node
  | stmt (stmt : Stmt)
  | expr (expr : Expr)

def stmtNodes (stmts : List Stmt) : List Node :=
  stmts.map .stmt

def exprNodes (exprs : List Expr) : List Node :=
  exprs.map .expr

def stmtNode? (stmt : Option Stmt) : List Node :=
  stmtNodes stmt.toList

def exprNode? (expr : Option Expr) : List Node :=
  exprNodes expr.toList

def Spec.values : Spec → List Expr
  | .value spec => spec.values
  | .type _ => []

def Expr.children : Expr → List Node
  | .ident _ => []
  | .basicLit _ _ _ => []
  | .compositeLit _ elts _ => exprNodes elts
  | .funcLit _ _ body _ => stmtNodes body.stmts
  | .paren x => [.expr x]
  | .selector x _ => [.expr x]
  | .index x position => [.expr x, .expr position]
  | .slice x low high max => .expr x :: (exprNode? low ++ exprNode? high ++ exprNode? max)
  | .typeAssert x _ => [.expr x]
  | .call callee args _ => .expr callee :: exprNodes args
  | .star x _ => [.expr x]
  | .unary _ x _ => [.expr x]
  | .binary x _ y => [.expr x, .expr y]
  | .keyValue key value => [.expr key, .expr value]
  | .arrayType _ _ => []
  | .mapType _ _ => []
  | .chanType _ _ => []
  | .funcType _ _ => []
  | .structType _ => []
  | .interfaceType _ => []
  | .ellipsis _ => []
  | .bad _ => []

def Stmt.children : Stmt → List Node
  | .decl declaration => declaration.specs.flatMap (fun spec => exprNodes spec.values)
  | .assign lhs _ rhs _ => exprNodes lhs ++ exprNodes rhs
  | .ret results _ => exprNodes results
  | .expr x => [.expr x]
  | .block body => stmtNodes body.stmts
  | .ifElse init cond body otherwise _ =>
      stmtNode? init ++ .expr cond :: (stmtNodes body.stmts ++ stmtNode? otherwise)
  | .forLoop init cond post body _ =>
      stmtNode? init ++ exprNode? cond ++ stmtNode? post ++ stmtNodes body.stmts
  | .rangeLoop key value _ x body _ =>
      exprNode? key ++ exprNode? value ++ .expr x :: stmtNodes body.stmts
  | .switch init tag clauses _ =>
      stmtNode? init ++ exprNode? tag ++
        clauses.flatMap (fun clause => exprNodes clause.list ++ stmtNodes clause.body)
  | .typeSwitch init guarded clauses _ =>
      stmtNode? init ++ .stmt guarded :: clauses.flatMap (fun clause => stmtNodes clause.body)
  | .select clauses _ =>
      clauses.flatMap (fun clause => stmtNode? clause.comm ++ stmtNodes clause.body)
  | .labeled _ target => [.stmt target]
  | .go call => [.expr call]
  | .defer call => [.expr call]
  | .incDec x _ => [.expr x]
  | .send chan value => [.expr chan, .expr value]
  | .branch _ _ => []
  | .empty => []

def Node.children : Node → List Node
  | .stmt s => s.children
  | .expr e => e.children

private theorem sizeOf_stmtNodes {stmts : List Stmt} {node : Node}
    (member : node ∈ stmtNodes stmts) :
    sizeOf node ≤ sizeOf stmts := by
  obtain ⟨stmt, inside, rfl⟩ := List.mem_map.mp member
  have smaller := List.sizeOf_lt_of_mem inside
  rw [Node.stmt.sizeOf_spec]
  omega

private theorem sizeOf_exprNodes {exprs : List Expr} {node : Node}
    (member : node ∈ exprNodes exprs) :
    sizeOf node ≤ sizeOf exprs := by
  obtain ⟨expr, inside, rfl⟩ := List.mem_map.mp member
  have smaller := List.sizeOf_lt_of_mem inside
  rw [Node.expr.sizeOf_spec]
  omega

private theorem sizeOf_stmtNode? {stmt : Option Stmt} {node : Node}
    (member : node ∈ stmtNode? stmt) :
    sizeOf node ≤ sizeOf stmt := by
  cases stmt with
  | none => cases member
  | some stmt =>
      cases List.mem_singleton.mp member
      have same : sizeOf (Node.stmt stmt) = sizeOf (some stmt) := by
        rw [Node.stmt.sizeOf_spec, Option.some.sizeOf_spec]
      exact Nat.le_of_eq same

private theorem sizeOf_exprNode? {expr : Option Expr} {node : Node}
    (member : node ∈ exprNode? expr) :
    sizeOf node ≤ sizeOf expr := by
  cases expr with
  | none => cases member
  | some expr =>
      cases List.mem_singleton.mp member
      have same : sizeOf (Node.expr expr) = sizeOf (some expr) := by
        rw [Node.expr.sizeOf_spec, Option.some.sizeOf_spec]
      exact Nat.le_of_eq same

private theorem sizeOf_blockNodes {body : Block} {node : Node}
    (member : node ∈ stmtNodes body.stmts) :
    sizeOf node < sizeOf body := by
  obtain ⟨stmts, pos⟩ := body
  have within : sizeOf node ≤ sizeOf stmts := sizeOf_stmtNodes member
  rw [Block.mk.sizeOf_spec]
  omega

private theorem sizeOf_specNodes {specs : List Spec} {spec : Spec} {node : Node} (inside : spec ∈ specs)
    (member : node ∈ exprNodes spec.values) : sizeOf node < sizeOf specs := by
  have smaller := List.sizeOf_lt_of_mem inside
  cases spec with
  | type spec => cases member
  | value spec =>
      obtain ⟨names, type, values⟩ := spec
      have within : sizeOf node ≤ sizeOf values := sizeOf_exprNodes member
      rw [Spec.value.sizeOf_spec, ValueSpec.mk.sizeOf_spec] at smaller
      omega

private theorem sizeOf_caseNodes {clauses : List CaseClause} {clause : CaseClause} {node : Node}
    (inside : clause ∈ clauses)
    (member : node ∈ exprNodes clause.list ∨ node ∈ stmtNodes clause.body) :
    sizeOf node < sizeOf clauses := by
  have smaller := List.sizeOf_lt_of_mem inside
  obtain ⟨list, body, pos⟩ := clause
  rw [CaseClause.mk.sizeOf_spec] at smaller
  rcases member with listed | inner
  · have within : sizeOf node ≤ sizeOf list := sizeOf_exprNodes listed
    omega
  · have within : sizeOf node ≤ sizeOf body := sizeOf_stmtNodes inner
    omega

private theorem sizeOf_commNodes {clauses : List CommClause} {clause : CommClause} {node : Node}
    (inside : clause ∈ clauses)
    (member : node ∈ stmtNode? clause.comm ∨ node ∈ stmtNodes clause.body) :
    sizeOf node < sizeOf clauses := by
  have smaller := List.sizeOf_lt_of_mem inside
  obtain ⟨comm, body, pos⟩ := clause
  rw [CommClause.mk.sizeOf_spec] at smaller
  rcases member with given | inner
  · have within : sizeOf node ≤ sizeOf comm := sizeOf_stmtNode? given
    omega
  · have within : sizeOf node ≤ sizeOf body := sizeOf_stmtNodes inner
    omega

private theorem Expr.sizeOf_children {expr : Expr} {node : Node} (member : node ∈ expr.children) :
    sizeOf node < 1 + sizeOf expr := by
  cases expr <;> simp only [Expr.children, List.mem_cons, List.mem_append, List.not_mem_nil,
    or_false] at member
  case compositeLit type elts pos =>
    have within := sizeOf_exprNodes member
    rw [Expr.compositeLit.sizeOf_spec]
    omega
  case funcLit params results body pos =>
    have within := sizeOf_blockNodes member
    rw [Expr.funcLit.sizeOf_spec]
    omega
  case paren x =>
    rw [member, Node.expr.sizeOf_spec, Expr.paren.sizeOf_spec]
    omega
  case selector x sel =>
    rw [member, Node.expr.sizeOf_spec, Expr.selector.sizeOf_spec]
    omega
  case index x position =>
    rw [Expr.index.sizeOf_spec]
    rcases member with rfl | rfl
    · rw [Node.expr.sizeOf_spec]
      omega
    · rw [Node.expr.sizeOf_spec]
      omega
  case slice x low high max =>
    rw [Expr.slice.sizeOf_spec]
    rcases member with rfl | (lower | upper) | capacity
    · rw [Node.expr.sizeOf_spec]
      omega
    · have within := sizeOf_exprNode? lower
      omega
    · have within := sizeOf_exprNode? upper
      omega
    · have within := sizeOf_exprNode? capacity
      omega
  case typeAssert x type =>
    rw [member, Node.expr.sizeOf_spec, Expr.typeAssert.sizeOf_spec]
    omega
  case call callee args spread =>
    rw [Expr.call.sizeOf_spec]
    rcases member with rfl | argument
    · rw [Node.expr.sizeOf_spec]
      omega
    · have within := sizeOf_exprNodes argument
      omega
  case star x pos =>
    rw [member, Node.expr.sizeOf_spec, Expr.star.sizeOf_spec]
    omega
  case unary op x pos =>
    rw [member, Node.expr.sizeOf_spec, Expr.unary.sizeOf_spec]
    omega
  case binary x op y =>
    rw [Expr.binary.sizeOf_spec]
    rcases member with rfl | rfl
    · rw [Node.expr.sizeOf_spec]
      omega
    · rw [Node.expr.sizeOf_spec]
      omega
  case keyValue key value =>
    rw [Expr.keyValue.sizeOf_spec]
    rcases member with rfl | rfl
    · rw [Node.expr.sizeOf_spec]
      omega
    · rw [Node.expr.sizeOf_spec]
      omega

private theorem Stmt.sizeOf_children {stmt : Stmt} {node : Node} (member : node ∈ stmt.children) :
    sizeOf node < 1 + sizeOf stmt := by
  cases stmt <;> simp only [Stmt.children, List.mem_cons, List.mem_append, List.not_mem_nil,
    List.mem_flatMap, or_false] at member
  case decl declaration =>
    obtain ⟨tok, specs, pos⟩ := declaration
    obtain ⟨spec, inside, value⟩ := member
    have within : sizeOf node < sizeOf specs := sizeOf_specNodes inside value
    rw [Stmt.decl.sizeOf_spec, GenDecl.mk.sizeOf_spec]
    omega
  case assign lhs tok rhs pos =>
    rw [Stmt.assign.sizeOf_spec]
    rcases member with left | right
    · have within := sizeOf_exprNodes left
      omega
    · have within := sizeOf_exprNodes right
      omega
  case ret results pos =>
    have within := sizeOf_exprNodes member
    rw [Stmt.ret.sizeOf_spec]
    omega
  case expr x =>
    rw [member, Node.expr.sizeOf_spec, Stmt.expr.sizeOf_spec]
    omega
  case block body =>
    have within := sizeOf_blockNodes member
    rw [Stmt.block.sizeOf_spec]
    omega
  case ifElse init cond body otherwise pos =>
    rw [Stmt.ifElse.sizeOf_spec]
    rcases member with first | rfl | inner | last
    · have within := sizeOf_stmtNode? first
      omega
    · rw [Node.expr.sizeOf_spec]
      omega
    · have within := sizeOf_blockNodes inner
      omega
    · have within := sizeOf_stmtNode? last
      omega
  case forLoop init cond post body pos =>
    rw [Stmt.forLoop.sizeOf_spec]
    rcases member with ((first | test) | step) | inner
    · have within := sizeOf_stmtNode? first
      omega
    · have within := sizeOf_exprNode? test
      omega
    · have within := sizeOf_stmtNode? step
      omega
    · have within := sizeOf_blockNodes inner
      omega
  case rangeLoop key value define x body pos =>
    rw [Stmt.rangeLoop.sizeOf_spec]
    rcases member with (first | second) | rfl | inner
    · have within := sizeOf_exprNode? first
      omega
    · have within := sizeOf_exprNode? second
      omega
    · rw [Node.expr.sizeOf_spec]
      omega
    · have within := sizeOf_blockNodes inner
      omega
  case switch init tag clauses pos =>
    rw [Stmt.switch.sizeOf_spec]
    rcases member with (first | test) | ⟨clause, inside, part⟩
    · have within := sizeOf_stmtNode? first
      omega
    · have within := sizeOf_exprNode? test
      omega
    · have within := sizeOf_caseNodes inside part
      omega
  case typeSwitch init guarded clauses pos =>
    rw [Stmt.typeSwitch.sizeOf_spec]
    rcases member with first | rfl | ⟨clause, inside, inner⟩
    · have within := sizeOf_stmtNode? first
      omega
    · rw [Node.stmt.sizeOf_spec]
      omega
    · have within := sizeOf_caseNodes inside (Or.inr inner)
      omega
  case select clauses pos =>
    obtain ⟨clause, inside, part⟩ := member
    have within := sizeOf_commNodes inside part
    rw [Stmt.select.sizeOf_spec]
    omega
  case labeled label target =>
    rw [member, Node.stmt.sizeOf_spec, Stmt.labeled.sizeOf_spec]
    omega
  case go call =>
    rw [member, Node.expr.sizeOf_spec, Stmt.go.sizeOf_spec]
    omega
  case defer call =>
    rw [member, Node.expr.sizeOf_spec, Stmt.defer.sizeOf_spec]
    omega
  case incDec x increment =>
    rw [member, Node.expr.sizeOf_spec, Stmt.incDec.sizeOf_spec]
    omega
  case send chan value =>
    rw [Stmt.send.sizeOf_spec]
    rcases member with rfl | rfl
    · rw [Node.expr.sizeOf_spec]
      omega
    · rw [Node.expr.sizeOf_spec]
      omega

theorem Node.sizeOf_children {parent child : Node} (member : child ∈ parent.children) :
    sizeOf child < sizeOf parent := by
  cases parent with
  | stmt s =>
      rw [Node.stmt.sizeOf_spec]
      exact Stmt.sizeOf_children member
  | expr e =>
      rw [Node.expr.sizeOf_spec]
      exact Expr.sizeOf_children member

/-- All nodes from the given one down, each before its parts, with their depth below `level`. -/
def Node.listing (level : Nat) (node : Node) : List (Nat × Node) :=
  (level, node) :: node.children.attach.flatMap (fun child => child.1.listing (level + 1))
termination_by sizeOf node
decreasing_by exact Node.sizeOf_children child.2

def Node.preorder (node : Node) : List Node :=
  node :: node.children.attach.flatMap (fun child => child.1.preorder)
termination_by sizeOf node
decreasing_by exact Node.sizeOf_children child.2

end ZeroError.Go
