import ZeroError.Analysis.Tracking
import ZeroError.Proofs.FirstOccurrences

/-!
The walk over a body is a sweep over a flat list of statements. The statements of a body are listed
each before the statements inside it, those in function literals included; going through this list
without descending gives the same state, the same escape and the same events as the recursive walk.
What a single statement does to the state is said once here, by cases.
-/

namespace ZeroError.Go

def Node.stmt? : Node → Option Stmt
  | .stmt s => some s
  | .expr _ => none

/-- The statements among nodes and their parts, each before the statements inside it. -/
def statementsOf (nodes : List Node) : List Stmt :=
  (nodes.flatMap Node.preorder).filterMap Node.stmt?

def Block.statements (body : Block) : List Stmt :=
  statementsOf (stmtNodes body.stmts)

theorem Node.preorder_eq (node : Node) :
    node.preorder = node :: node.children.flatMap Node.preorder := by
  rw [Node.preorder]
  congr 1
  rw [List.flatMap_subtype (g := Node.preorder) (fun child _ => rfl), List.unattach_attach]

theorem statementsOf_cons (node : Node) (nodes : List Node) :
    statementsOf (node :: nodes) = statementsOf [node] ++ statementsOf nodes := by
  simp only [statementsOf, List.flatMap_cons, List.flatMap_nil, List.append_nil,
    List.filterMap_append]

theorem statementsOf_stmt (stmt : Stmt) :
    statementsOf [.stmt stmt] = stmt :: statementsOf stmt.children := by
  simp only [statementsOf, List.flatMap_cons, List.flatMap_nil, List.append_nil]
  rw [Node.preorder_eq]
  rfl

theorem statementsOf_expr (expr : Expr) :
    statementsOf [.expr expr] = statementsOf expr.children := by
  simp only [statementsOf, List.flatMap_cons, List.flatMap_nil, List.append_nil]
  rw [Node.preorder_eq]
  rfl

/-- Going through a list with a change of its items is mapping them. -/
theorem eq_map_of_cons {α β : Type} {change : α → β} {changeAll : List α → List β}
    (nil : changeAll [] = [])
    (cons : ∀ item items, changeAll (item :: items) = change item :: changeAll items)
    (items : List α) : changeAll items = items.map change := by
  induction items with
  | nil => exact nil
  | cons item items ih => rw [cons, ih, List.map_cons]

def Node.map (onStmt : Stmt → Stmt) (onExpr : Expr → Expr) : Node → Node
  | .stmt s => .stmt (onStmt s)
  | .expr e => .expr (onExpr e)

section

variable {onStmt : Stmt → Stmt} {onExpr : Expr → Expr}

theorem map_stmtNodes (stmts : List Stmt) :
    (stmtNodes stmts).map (Node.map onStmt onExpr) = stmtNodes (stmts.map onStmt) := by
  rw [stmtNodes, stmtNodes, List.map_map, List.map_map]
  rfl

theorem map_exprNodes (exprs : List Expr) :
    (exprNodes exprs).map (Node.map onStmt onExpr) = exprNodes (exprs.map onExpr) := by
  rw [exprNodes, exprNodes, List.map_map, List.map_map]
  rfl

theorem map_stmtNode? (stmt : Option Stmt) :
    (stmtNode? stmt).map (Node.map onStmt onExpr) = stmtNode? (stmt.map onStmt) := by
  cases stmt with
  | none => rfl
  | some stmt => rfl

theorem map_exprNode? (expr : Option Expr) :
    (exprNode? expr).map (Node.map onStmt onExpr) = exprNode? (expr.map onExpr) := by
  cases expr with
  | none => rfl
  | some expr => rfl

private theorem Node.stmt?_map (node : Node) :
    (node.map onStmt onExpr).stmt? = node.stmt?.map onStmt := by
  cases node with
  | stmt s => rfl
  | expr e => rfl

variable (parts : ∀ node : Node,
  (node.map onStmt onExpr).children = node.children.map (Node.map onStmt onExpr))

include parts

/-- A change that goes on to the parts of a node goes on to everything below it. -/
theorem Node.preorder_map (node : Node) :
    (node.map onStmt onExpr).preorder = node.preorder.map (Node.map onStmt onExpr) := by
  have below : node.children.map (fun child => (child.map onStmt onExpr).preorder) =
      node.children.map (fun child => child.preorder.map (Node.map onStmt onExpr)) := by
    apply List.map_congr_left
    intro child _member
    exact preorder_map child
  rw [Node.preorder_eq, Node.preorder_eq node, parts, List.flatMap_map, List.flatMap_def, below,
    ← List.flatMap_def, List.map_cons, List.map_flatMap]
termination_by sizeOf node
decreasing_by exact Node.sizeOf_children _member

theorem Block.statements_map {body changed : Block}
    (stmts : changed.stmts = body.stmts.map onStmt) :
    changed.statements = body.statements.map onStmt := by
  have listed : (stmtNodes body.stmts).map (Node.map onStmt onExpr) = stmtNodes changed.stmts := by
    rw [map_stmtNodes, stmts]
  unfold statements statementsOf
  rw [← listed, List.flatMap_map]
  simp only [Node.preorder_map parts]
  rw [← List.map_flatMap, List.filterMap_map, List.map_filterMap]
  congr 1
  funext node
  exact Node.stmt?_map node

end

end ZeroError.Go

namespace ZeroError.Analysis

open ZeroError.Go

namespace Traced

@[simp] theorem quiet_andThen {α β : Type} (value : α) (next : α → Traced β) :
    (quiet value).andThen next = next value := rfl

theorem andThen_assoc {α β γ : Type} (first : Traced α) (second : α → Traced β)
    (third : β → Traced γ) :
    (first.andThen second).andThen third =
      first.andThen (fun value => (second value).andThen third) := by
  simp only [andThen, List.append_assoc]

end Traced

theorem Step.proceed_andThen (first second : Watch → Traced Step) (step : Step) :
    (step.proceed first).andThen (Step.proceed second) =
      step.proceed (fun watch => (first watch).andThen (Step.proceed second)) := by
  cases step with
  | going watch => rfl
  | escaped expr => rfl

theorem Step.andThen_proceed_going (step : Traced Step) :
    step.andThen (Step.proceed (fun watch => .quiet (.going watch))) = step := by
  obtain ⟨events, value⟩ := step
  cases value with
  | going watch => simp only [Traced.andThen, Step.proceed, Traced.quiet, List.append_nil]
  | escaped expr => simp only [Traced.andThen, Step.proceed, Traced.quiet, List.append_nil]

/-- Goes through statements one after another, up to the first escape, without descending into
them. -/
def sweep (table : TypeTable) (start : Traced Step) (stmts : List Stmt) : Traced Step :=
  stmts.foldl
    (fun soFar stmt => soFar.andThen (Step.proceed (fun watch => transition table watch stmt)))
    start

theorem sweep_cons (table : TypeTable) (start : Traced Step) (stmt : Stmt) (stmts : List Stmt) :
    sweep table start (stmt :: stmts) =
      sweep table (start.andThen (Step.proceed (fun watch => transition table watch stmt)))
        stmts := rfl

theorem sweep_append (table : TypeTable) (start : Traced Step) (first second : List Stmt) :
    sweep table start (first ++ second) = sweep table (sweep table start first) second :=
  List.foldl_append

private theorem sweep_andThen (table : TypeTable) (start : Traced Step) (next : Watch → Traced Step)
    (stmts : List Stmt) :
    sweep table (start.andThen (Step.proceed next)) stmts =
      start.andThen (Step.proceed (fun watch => sweep table (next watch) stmts)) := by
  induction stmts generalizing next with
  | nil => rfl
  | cons stmt stmts ih =>
      rw [sweep_cons, Traced.andThen_assoc]
      simp only [Step.proceed_andThen]
      rw [ih]
      rfl

theorem sweep_eq_andThen (table : TypeTable) (start : Traced Step) (stmts : List Stmt) :
    sweep table start stmts =
      start.andThen
        (Step.proceed (fun watch => sweep table (.quiet (.going watch)) stmts)) := by
  rw [← sweep_andThen, Step.andThen_proceed_going]

private theorem walkAll_eq_sweep_of_parts (table : TypeTable) (start : Traced Step)
    (nodes : List Node)
    (parts : ∀ node ∈ nodes, ∀ watch,
      walk table watch node = sweep table (.quiet (.going watch)) (statementsOf [node])) :
    walkAll table start nodes = sweep table start (statementsOf nodes) := by
  induction nodes generalizing start with
  | nil => rfl
  | cons node nodes ih =>
      have first : start.andThen (Step.proceed (fun watch => walk table watch node)) =
          sweep table start (statementsOf [node]) := by
        rw [sweep_eq_andThen]
        congr 2
        funext watch
        exact parts node List.mem_cons_self watch
      have rest := ih (sweep table start (statementsOf [node]))
        (fun other member => parts other (List.mem_cons_of_mem node member))
      rw [statementsOf_cons, sweep_append, ← rest, ← first]
      rfl

theorem walk_eq_sweep (table : TypeTable) (watch : Watch) (node : Node) :
    walk table watch node = sweep table (.quiet (.going watch)) (statementsOf [node]) := by
  rw [walk_eq, walkAll_eq_sweep_of_parts table _ node.children
    (fun child _member watch => walk_eq_sweep table watch child)]
  cases node with
  | stmt stmt =>
      rw [statementsOf_stmt, sweep_cons]
      rfl
  | expr expr =>
      rw [statementsOf_expr]
      rfl
termination_by sizeOf node
decreasing_by exact Node.sizeOf_children _member

theorem walkAll_eq_sweep (table : TypeTable) (start : Traced Step) (nodes : List Node) :
    walkAll table start nodes = sweep table start (statementsOf nodes) :=
  walkAll_eq_sweep_of_parts table start nodes
    (fun node _member watch => walk_eq_sweep table watch node)

/-- The walk over a body sweeps over its statements, with the same events on the way. -/
theorem traceBody_eq_sweep (table : TypeTable) (body : Block) :
    traceBody table body =
      (sweep table (.quiet (.going .idle)) body.statements).map Step.escaped? := by
  rw [traceBody, walkAll_eq_sweep]
  rfl

theorem checkBody_eq_sweep (table : TypeTable) (body : Block) :
    checkBody table body =
      (sweep table (.quiet (.going .idle)) body.statements).value.escaped? := by
  rw [checkBody, traceBody_eq_sweep]
  rfl

theorem mem_targets_iff {targets : List Expr} {name : String} :
    name ∈ targets.filterMap Expr.identName? ↔
      ∃ ident, Expr.ident ident ∈ targets ∧ ident.name = name := by
  rw [List.mem_filterMap]
  constructor
  · intro ⟨target, member, named⟩
    cases target with
    | ident ident => exact ⟨ident, member, Option.some.inj named⟩
    | _ => cases named
  · rintro ⟨ident, member, rfl⟩
    exact ⟨.ident ident, member, rfl⟩

namespace Cohort

/-- A cohort has the names of its declaration, each the first time that it appears. -/
theorem names_ofNames (names : List String) :
    (ofNames names).names = FirstOccurrences.keepNew id [] names := by
  have step : insert = fun kept name =>
      if kept.any (fun known => id known = id name) then kept else kept ++ [name] := by
    funext kept name
    rw [insert, List.contains_eq_any_beq]
    simp only [Bool.beq_eq_decide_eq, id_eq, eq_comm]
  rw [ofNames, step]
  rfl

theorem mem_ofNames_iff {names : List String} {name : String} :
    name ∈ (ofNames names).names ↔ name ∈ names := by
  rw [names_ofNames, FirstOccurrences.keepNew_id_eq_eraseDups, List.mem_eraseDups]

theorem mem_without_iff {cohort : Cohort} {removed : List String} {name : String} :
    name ∈ (cohort.without removed).names ↔ name ∈ cohort.names ∧ name ∉ removed := by
  simp only [without, List.mem_filter, Bool.not_eq_true', ← Bool.not_eq_true,
    List.contains_iff_mem]

end Cohort

theorem Watch.holds_iff {watch : Watch} {expr : Expr} :
    watch.holds expr = true ↔ ∃ ident, expr = .ident ident ∧ ident.name ∈ watch.tracked := by
  constructor
  · intro holds
    cases watch with
    | idle => cases holds
    | tracking cohort =>
        cases expr with
        | ident ident => exact ⟨ident, rfl, List.contains_iff_mem.mp holds⟩
        | _ => cases holds
  · rintro ⟨ident, rfl, member⟩
    cases watch with
    | idle => cases member
    | tracking cohort => exact List.contains_iff_mem.mpr member

theorem value_transition_ret (table : TypeTable) (watch : Watch) (results : List Expr) (pos : Pos) :
    (transition table watch (.ret results pos)).value =
      match watch.escaping results with
      | some expr => .escaped expr
      | none => .going watch := by
  cases watch with
  | idle =>
      have none : Watch.idle.escaping results = none :=
        List.find?_eq_none.mpr (fun expr _member holds => by cases holds)
      rw [none]
      rfl
  | tracking cohort =>
      rw [transition]
      cases (Watch.tracking cohort).escaping results with
      | none => rfl
      | some expr => rfl

/-- What a statement can do without stopping the walk: open a cohort, take its targets from the
cohort that is being followed, or leave everything as it is. -/
theorem transition_going {table : TypeTable} {watch next : Watch} {stmt : Stmt}
    (going : (transition table watch stmt).value = .going next) :
    (∃ names, watch = .idle ∧ (atRiskNames table stmt).value = some names ∧
      next = .tracking (Cohort.ofNames names)) ∨
    (∃ cohort lhs tok rhs pos, watch = .tracking cohort ∧ stmt = .assign lhs tok rhs pos ∧
      next = ((Watch.tracking cohort).assign lhs).value) ∨
    (watch = .idle ∧ (atRiskNames table stmt).value = none ∧ next = .idle) ∨
    (∃ cohort, watch = .tracking cohort ∧ (∀ lhs tok rhs pos, stmt ≠ .assign lhs tok rhs pos) ∧
      next = .tracking cohort) := by
  cases watch with
  | idle =>
      cases found : (atRiskNames table stmt).value with
      | some names =>
          cases stmt with
          | decl declaration =>
              simp only [atRiskNames] at found
              simp only [transition, Traced.value_andThen, found, Step.going.injEq] at going
              exact Or.inl ⟨names, rfl, rfl, going.symm⟩
          | _ => cases found
      | none =>
          cases stmt with
          | decl declaration =>
              simp only [atRiskNames] at found
              simp only [transition, Traced.value_andThen, found, Traced.value_quiet,
                Step.going.injEq] at going
              exact Or.inr (Or.inr (Or.inl ⟨rfl, rfl, going.symm⟩))
          | _ =>
              cases going
              exact Or.inr (Or.inr (Or.inl ⟨rfl, rfl, rfl⟩))
  | tracking cohort =>
      cases stmt with
      | assign lhs tok rhs pos =>
          simp only [transition, Traced.value_map, Step.going.injEq] at going
          exact Or.inr (Or.inl ⟨cohort, lhs, tok, rhs, pos, rfl, rfl, going.symm⟩)
      | ret results pos =>
          rw [value_transition_ret] at going
          split at going
          · cases going
          · cases going
            exact Or.inr (Or.inr (Or.inr ⟨cohort, rfl, by simp, rfl⟩))
      | _ =>
          cases going
          exact Or.inr (Or.inr (Or.inr ⟨cohort, rfl, by simp, rfl⟩))

/-- Only a return stops the walk, at its first result that is being followed. -/
theorem transition_escaped_iff {table : TypeTable} {watch : Watch} {stmt : Stmt} {expr : Expr} :
    (transition table watch stmt).value = .escaped expr ↔
      ∃ results pos, stmt = .ret results pos ∧ watch.escaping results = some expr := by
  constructor
  · intro escaped
    cases stmt with
    | ret results pos =>
        rw [value_transition_ret] at escaped
        split at escaped
        · rename_i found
          cases escaped
          exact ⟨results, pos, rfl, found⟩
        · cases escaped
    | decl declaration =>
        cases watch with
        | idle =>
            simp only [transition, Traced.value_andThen] at escaped
            split at escaped
            · cases escaped
            · cases escaped
        | tracking cohort => cases escaped
    | _ => cases watch <;> cases escaped
  · rintro ⟨results, pos, rfl, found⟩
    rw [value_transition_ret, found]

theorem value_sweep_cons (table : TypeTable) (watch : Watch) (stmt : Stmt) (stmts : List Stmt) :
    (sweep table (.quiet (.going watch)) (stmt :: stmts)).value =
      match (transition table watch stmt).value with
      | .going next => (sweep table (.quiet (.going next)) stmts).value
      | .escaped expr => .escaped expr := by
  rw [sweep_cons, Traced.quiet_andThen, sweep_eq_andThen, Traced.value_andThen]
  change ((transition table watch stmt).value.proceed _).value = _
  cases (transition table watch stmt).value with
  | going next => rfl
  | escaped expr => rfl

private theorem sweep_escaped_ident {table : TypeTable} {watch : Watch} {stmts : List Stmt}
    {expr : Expr}
    (escaped : (sweep table (.quiet (.going watch)) stmts).value = .escaped expr) :
    ∃ ident, expr = .ident ident := by
  induction stmts generalizing watch with
  | nil => cases escaped
  | cons stmt stmts ih =>
      rw [value_sweep_cons] at escaped
      cases moved : (transition table watch stmt).value with
      | going next =>
          rw [moved] at escaped
          exact ih escaped
      | escaped other =>
          rw [moved] at escaped
          cases escaped
          obtain ⟨results, pos, _same, found⟩ := transition_escaped_iff.mp moved
          obtain ⟨ident, same, _tracked⟩ := Watch.holds_iff.mp (List.find?_some found)
          exact ⟨ident, same⟩

theorem checkBody_ident {table : TypeTable} {body : Block} {expr : Expr}
    (escaped : checkBody table body = some expr) : ∃ ident, expr = .ident ident := by
  rw [checkBody_eq_sweep] at escaped
  cases ended : (sweep table (.quiet (.going .idle)) body.statements).value with
  | going watch =>
      rw [ended] at escaped
      cases escaped
  | escaped other =>
      rw [ended] at escaped
      cases escaped
      exact sweep_escaped_ident ended

end ZeroError.Analysis
