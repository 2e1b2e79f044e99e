import Mathlib.Data.Nat.Find
import ZeroError.Proofs.Walk

/-!
When a zero-valued error is live. A declaration of zero-valued errors opens a cohort unless an
earlier one is still open; a cohort is closed by the first assignment up to which each of its names
has been assigned to. A name is live from the opening of its cohort to the first assignment to it.
These notions are about positions in a list of statements and know nothing of a walk. Main statement:
the analysis of a body stops at the first return of a live name, and only there.
-/

namespace ZeroError.Analysis

open ZeroError.Go

def DeclaresAt (table : TypeTable) (listing : List Stmt) (position : Nat)
    (names : List String) : Prop :=
  ∃ declaration, listing[position]? = some (.decl declaration) ∧
    (atRiskNames table (.decl declaration)).value = some names

def AssignmentAt (listing : List Stmt) (position : Nat) : Prop :=
  ∃ lhs tok rhs pos, listing[position]? = some (.assign lhs tok rhs pos)

/-- The statement at the position is an assignment with the name, as a bare identifier, among its
targets. -/
def AssignsAt (listing : List Stmt) (position : Nat) (name : String) : Prop :=
  ∃ lhs tok rhs pos ident, listing[position]? = some (.assign lhs tok rhs pos) ∧
    Expr.ident ident ∈ lhs ∧ ident.name = name

def AssignedBetween (listing : List Stmt) (first last : Nat) (name : String) : Prop :=
  ∃ position, first < position ∧ position < last ∧ AssignsAt listing position name

/-- After the opening, each of the names has been assigned to when the assignment at the position is
done. -/
structure Completes (listing : List Stmt) (opening : Nat) (names : List String)
    (position : Nat) : Prop where
  after : opening < position
  assignment : AssignmentAt listing position
  assigned : ∀ name ∈ names, AssignedBetween listing opening (position + 1) name

structure ClosesAt (listing : List Stmt) (opening : Nat) (names : List String)
    (position : Nat) : Prop where
  completes : Completes listing opening names position
  first : ∀ other, Completes listing opening names other → position ≤ other

/-- The cohort of the names, opened at the one position, is not closed before the other. -/
def OpenAt (listing : List Stmt) (opening : Nat) (names : List String) (position : Nat) : Prop :=
  ∀ closing, ClosesAt listing opening names closing → position ≤ closing

/-- The declaration at the position opens a cohort of the names: no cohort that was opened earlier is
still open. -/
def OpensAt (table : TypeTable) (listing : List Stmt) (position : Nat)
    (names : List String) : Prop :=
  DeclaresAt table listing position names ∧
    ∀ earlier others, (before : earlier < position) → OpensAt table listing earlier others →
      ¬OpenAt listing earlier others position
termination_by position

/-- The name belongs to an open cohort and has not been assigned to since its opening. -/
def LiveAt (table : TypeTable) (listing : List Stmt) (position : Nat) (name : String) : Prop :=
  ∃ opening names, opening < position ∧ OpensAt table listing opening names ∧
    OpenAt listing opening names position ∧ name ∈ names ∧
    ¬AssignedBetween listing opening position name

def IsLiveIdent (table : TypeTable) (listing : List Stmt) (position : Nat) (expr : Expr) : Prop :=
  ∃ ident, expr = .ident ident ∧ LiveAt table listing position ident.name

def ReturnsLiveAt (table : TypeTable) (listing : List Stmt) (position : Nat) : Prop :=
  ∃ results pos, listing[position]? = some (.ret results pos) ∧
    ∃ expr ∈ results, IsLiveIdent table listing position expr

/-- The statement at the position is a return, and the expression is the first of its results that is
a live name. -/
def EscapesAt (table : TypeTable) (listing : List Stmt) (position : Nat) (expr : Expr) : Prop :=
  ∃ before after pos, listing[position]? = some (.ret (before ++ expr :: after) pos) ∧
    IsLiveIdent table listing position expr ∧
    ∀ other ∈ before, ¬IsLiveIdent table listing position other

section

variable {table : TypeTable} {listing : List Stmt} {opening position : Nat} {names : List String}

theorem opensAt_iff :
    OpensAt table listing position names ↔
      DeclaresAt table listing position names ∧
        ∀ earlier others, earlier < position → OpensAt table listing earlier others →
          ¬OpenAt listing earlier others position := by
  rw [OpensAt]

private theorem DeclaresAt.names_eq {others : List String}
    (first : DeclaresAt table listing position names)
    (second : DeclaresAt table listing position others) : names = others := by
  obtain ⟨declaration, present, found⟩ := first
  obtain ⟨other, otherPresent, otherFound⟩ := second
  have same : Stmt.decl declaration = .decl other :=
    Option.some.inj (present.symm.trans otherPresent)
  rw [same] at found
  exact Option.some.inj (found.symm.trans otherFound)

private theorem AssignsAt.assignmentAt {name : String} (assigns : AssignsAt listing position name) :
    AssignmentAt listing position := by
  obtain ⟨lhs, tok, rhs, pos, _ident, present, _⟩ := assigns
  exact ⟨lhs, tok, rhs, pos, present⟩

private theorem assignsAt_iff {lhs rhs : List Expr} {tok name : String} {pos : Pos}
    (present : listing[position]? = some (.assign lhs tok rhs pos)) :
    AssignsAt listing position name ↔ name ∈ lhs.filterMap Expr.identName? := by
  rw [mem_targets_iff]
  constructor
  · intro ⟨otherLhs, otherTok, otherRhs, otherPos, ident, otherPresent, member, same⟩
    cases present.symm.trans otherPresent
    exact ⟨ident, member, same⟩
  · intro ⟨ident, member, same⟩
    exact ⟨lhs, tok, rhs, pos, ident, present, member, same⟩

theorem assignedBetween_succ {name : String} (inside : opening < position) :
    AssignedBetween listing opening (position + 1) name ↔
      AssignedBetween listing opening position name ∨ AssignsAt listing position name := by
  constructor
  · intro ⟨middle, after, before, assigns⟩
    by_cases last : middle = position
    · subst last
      exact Or.inr assigns
    · exact Or.inl ⟨middle, after, by omega, assigns⟩
  · rintro (⟨middle, after, before, assigns⟩ | assigns)
    · exact ⟨middle, after, by omega, assigns⟩
    · exact ⟨position, inside, by omega, assigns⟩

private theorem not_assignedBetween_succ_self {name : String} :
    ¬AssignedBetween listing position (position + 1) name := by
  intro ⟨middle, after, before, _assigns⟩
  omega

private theorem Completes.exists_closesAt (completes : Completes listing opening names position) :
    ∃ closing, closing ≤ position ∧ ClosesAt listing opening names closing := by
  classical
  have some : ∃ closing, Completes listing opening names closing := ⟨position, completes⟩
  exact ⟨Nat.find some, Nat.find_min' some completes, Nat.find_spec some,
    fun _other completesOther => Nat.find_min' some completesOther⟩

theorem OpenAt.earlier {last : Nat} (isOpen : OpenAt listing opening names last)
    (before : position ≤ last) : OpenAt listing opening names position :=
  fun closing closes => Nat.le_trans before (isOpen closing closes)

private theorem openAt_succ_self : OpenAt listing position names (position + 1) :=
  fun _closing closes => closes.completes.after

theorem openAt_succ_iff :
    OpenAt listing opening names (position + 1) ↔
      OpenAt listing opening names position ∧ ¬Completes listing opening names position := by
  constructor
  · intro isOpen
    refine ⟨isOpen.earlier (by omega), ?_⟩
    intro completes
    obtain ⟨closing, atMost, closes⟩ := completes.exists_closesAt
    have later := isOpen closing closes
    omega
  · intro ⟨isOpen, incomplete⟩ closing closes
    have atLeast := isOpen closing closes
    have different : closing ≠ position := by
      intro same
      subst same
      exact incomplete closes.completes
    omega

/-- At most one cohort is open at a time. -/
theorem opening_unique {other : Nat} {others : List String}
    (opens : OpensAt table listing opening names) (before : opening < position)
    (isOpen : OpenAt listing opening names position)
    (otherOpens : OpensAt table listing other others) (otherBefore : other < position)
    (otherOpen : OpenAt listing other others position) : opening = other ∧ names = others := by
  have notBefore : ¬opening < other := fun less =>
    (opensAt_iff.mp otherOpens).2 opening names less opens (isOpen.earlier (by omega))
  have notAfter : ¬other < opening := fun less =>
    (opensAt_iff.mp opens).2 other others less otherOpens (otherOpen.earlier (by omega))
  have same : opening = other := by omega
  subst same
  exact ⟨rfl, (opensAt_iff.mp opens).1.names_eq (opensAt_iff.mp otherOpens).1⟩

end

/-- What the state says about the statements before a position: idle means that no cohort is open,
and a followed cohort holds what is left of the one that is. -/
def Follows (table : TypeTable) (listing : List Stmt) (position : Nat) : Watch → Prop
  | .idle => ∀ opening names, opening < position → OpensAt table listing opening names →
      ¬OpenAt listing opening names position
  | .tracking cohort => ∃ opening names, opening < position ∧
      OpensAt table listing opening names ∧ OpenAt listing opening names position ∧
      ∀ name, name ∈ cohort.names ↔
        name ∈ names ∧ ¬AssignedBetween listing opening position name

namespace Follows

variable {table : TypeTable} {listing : List Stmt} {position : Nat}

private theorem start : Follows table listing 0 .idle := by
  intro opening _names before
  omega

private theorem liveAt_iff {watch : Watch} (follows : Follows table listing position watch)
    {name : String} : LiveAt table listing position name ↔ name ∈ watch.tracked := by
  cases watch with
  | idle =>
      constructor
      · intro ⟨opening, names, before, opens, isOpen, _⟩
        exact False.elim (follows opening names before opens isOpen)
      · intro member
        cases member
  | tracking cohort =>
      obtain ⟨opening, names, before, opens, isOpen, left⟩ := follows
      constructor
      · intro ⟨other, others, otherBefore, otherOpens, otherOpen, member, unassigned⟩
        obtain ⟨rfl, rfl⟩ :=
          opening_unique opens before isOpen otherOpens otherBefore otherOpen
        exact (left name).mpr ⟨member, unassigned⟩
      · intro member
        obtain ⟨declared, unassigned⟩ := (left name).mp member
        exact ⟨opening, names, before, opens, isOpen, declared, unassigned⟩

theorem isLiveIdent_iff {watch : Watch} (follows : Follows table listing position watch)
    {expr : Expr} : IsLiveIdent table listing position expr ↔ watch.holds expr = true := by
  rw [Watch.holds_iff]
  constructor
  · rintro ⟨ident, rfl, live⟩
    exact ⟨ident, rfl, follows.liveAt_iff.mp live⟩
  · rintro ⟨ident, rfl, member⟩
    exact ⟨ident, rfl, follows.liveAt_iff.mpr member⟩

private theorem opened {names : List String} (follows : Follows table listing position .idle)
    (declares : DeclaresAt table listing position names) :
    Follows table listing (position + 1) (.tracking (Cohort.ofNames names)) := by
  refine ⟨position, names, by omega, opensAt_iff.mpr ⟨declares, follows⟩, openAt_succ_self, ?_⟩
  intro name
  rw [Cohort.mem_ofNames_iff]
  exact (and_iff_left not_assignedBetween_succ_self).symm

theorem opened_earlier {opening : Nat} {names : List String}
    (nothing : ∀ names, ¬DeclaresAt table listing position names)
    (before : opening < position + 1) (opens : OpensAt table listing opening names) :
    opening < position := by
  have different : opening ≠ position := by
    intro same
    subst same
    exact nothing names (opensAt_iff.mp opens).1
  omega

private theorem idle_kept (follows : Follows table listing position .idle)
    (nothing : ∀ names, ¬DeclaresAt table listing position names) :
    Follows table listing (position + 1) .idle := by
  intro opening names before opens isOpen
  exact follows opening names (opened_earlier nothing before opens) opens
    (isOpen.earlier (by omega))

private theorem tracking_kept {cohort : Cohort}
    (follows : Follows table listing position (.tracking cohort))
    (other : ¬AssignmentAt listing position) :
    Follows table listing (position + 1) (.tracking cohort) := by
  obtain ⟨opening, names, before, opens, isOpen, left⟩ := follows
  refine ⟨opening, names, by omega, opens, ?_, ?_⟩
  · exact openAt_succ_iff.mpr ⟨isOpen, fun completes => other completes.assignment⟩
  · intro name
    rw [left, assignedBetween_succ before,
      or_iff_left (fun assigns : AssignsAt listing position name => other assigns.assignmentAt)]

private theorem assigned {cohort : Cohort} {lhs rhs : List Expr} {tok : String} {pos : Pos}
    (follows : Follows table listing position (.tracking cohort))
    (present : listing[position]? = some (.assign lhs tok rhs pos)) :
    Follows table listing (position + 1) ((Watch.tracking cohort).assign lhs).value := by
  obtain ⟨opening, names, before, opens, isOpen, left⟩ := follows
  have remaining (name : String) :
      name ∈ (cohort.without (lhs.filterMap Expr.identName?)).names ↔
        name ∈ names ∧ ¬AssignedBetween listing opening (position + 1) name := by
    rw [Cohort.mem_without_iff, left, assignedBetween_succ before, assignsAt_iff present, not_or,
      and_assoc]
  unfold Watch.assign
  simp only
  split
  · -- Nothing is left, so this assignment closes the cohort, and no other one was open.
    rename_i nothingLeft
    have nothing : ∀ others, ¬DeclaresAt table listing position others := by
      intro others ⟨declaration, otherPresent, _found⟩
      cases present.symm.trans otherPresent
    have completes : Completes listing opening names position := by
      refine ⟨before, ⟨lhs, tok, rhs, pos, present⟩, ?_⟩
      intro name member
      by_contra unassigned
      have inside := (remaining name).mpr ⟨member, unassigned⟩
      rw [Cohort.isEmpty, List.isEmpty_iff] at nothingLeft
      rw [nothingLeft] at inside
      cases inside
    intro other others otherBefore otherOpens otherOpen
    obtain ⟨rfl, rfl⟩ := opening_unique opens before isOpen otherOpens
      (opened_earlier nothing otherBefore otherOpens) (otherOpen.earlier (by omega))
    exact (openAt_succ_iff.mp otherOpen).2 completes
  · rename_i someLeft
    refine ⟨opening, names, by omega, opens, openAt_succ_iff.mpr ⟨isOpen, ?_⟩, remaining⟩
    intro completes
    apply someLeft
    rw [Cohort.isEmpty, List.isEmpty_iff, List.eq_nil_iff_forall_not_mem]
    intro name member
    obtain ⟨declared, unassigned⟩ := (remaining name).mp member
    exact unassigned (completes.assigned name declared)

private theorem step {watch next : Watch} {stmt : Stmt}
    (follows : Follows table listing position watch)
    (present : listing[position]? = some stmt)
    (going : (transition table watch stmt).value = .going next) :
    Follows table listing (position + 1) next := by
  rcases transition_going going with
    ⟨names, rfl, found, rfl⟩ | ⟨cohort, lhs, tok, rhs, pos, rfl, rfl, rfl⟩ |
      ⟨rfl, found, rfl⟩ | ⟨cohort, rfl, other, rfl⟩
  · cases stmt with
    | decl declaration => exact follows.opened ⟨declaration, present, found⟩
    | _ => cases found
  · exact follows.assigned present
  · refine follows.idle_kept ?_
    intro names ⟨declaration, declared, atRisk⟩
    cases present.symm.trans declared
    rw [found] at atRisk
    cases atRisk
  · refine follows.tracking_kept ?_
    intro ⟨lhs, tok, rhs, pos, assignment⟩
    cases present.symm.trans assignment
    exact other lhs tok rhs pos rfl

private theorem escapesAt {watch : Watch} {stmt : Stmt} {expr : Expr}
    (follows : Follows table listing position watch) (present : listing[position]? = some stmt)
    (escaped : (transition table watch stmt).value = .escaped expr) :
    EscapesAt table listing position expr := by
  obtain ⟨results, pos, rfl, found⟩ := transition_escaped_iff.mp escaped
  obtain ⟨holds, before, after, rfl, skipped⟩ := List.find?_eq_some_iff_append.mp found
  refine ⟨before, after, pos, present, follows.isLiveIdent_iff.mpr holds, ?_⟩
  intro other member live
  have rejected := skipped other member
  rw [follows.isLiveIdent_iff.mp live] at rejected
  cases rejected

private theorem not_returnsLiveAt {watch next : Watch} {stmt : Stmt}
    (follows : Follows table listing position watch) (present : listing[position]? = some stmt)
    (going : (transition table watch stmt).value = .going next) :
    ¬ReturnsLiveAt table listing position := by
  intro ⟨results, pos, returns, expr, member, live⟩
  cases present.symm.trans returns
  rw [value_transition_ret] at going
  split at going
  · cases going
  · rename_i nothing
    exact List.find?_eq_none.mp nothing expr member (follows.isLiveIdent_iff.mp live)

end Follows

private theorem EscapesAt.returnsLiveAt {table : TypeTable} {listing : List Stmt} {position : Nat}
    {expr : Expr} (escapes : EscapesAt table listing position expr) :
    ReturnsLiveAt table listing position := by
  obtain ⟨before, after, pos, present, live, _⟩ := escapes
  exact ⟨before ++ expr :: after, pos, present, expr, List.mem_append_cons_self, live⟩

private theorem EscapesAt.expr_eq {table : TypeTable} {listing : List Stmt} {position : Nat}
    {expr other : Expr} (first : EscapesAt table listing position expr)
    (second : EscapesAt table listing position other) : expr = other := by
  classical
  -- Both are what a search for a live name finds in the results.
  obtain ⟨before, after, pos, present, live, skipped⟩ := first
  obtain ⟨otherBefore, otherAfter, otherPos, otherPresent, otherLive, otherSkipped⟩ := second
  have sameStmt := Option.some.inj (present.symm.trans otherPresent)
  have sameResults : before ++ expr :: after = otherBefore ++ other :: otherAfter :=
    (Stmt.ret.inj sameStmt).1
  have found : (before ++ expr :: after).find?
      (fun result => decide (IsLiveIdent table listing position result)) = some expr :=
    List.find?_eq_some_iff_append.mpr
      ⟨decide_eq_true live, before, after, rfl, by simpa using skipped⟩
  have otherFound : (otherBefore ++ other :: otherAfter).find?
      (fun result => decide (IsLiveIdent table listing position result)) = some other :=
    List.find?_eq_some_iff_append.mpr
      ⟨decide_eq_true otherLive, otherBefore, otherAfter, rfl, by simpa using otherSkipped⟩
  rw [sameResults] at found
  exact Option.some.inj (found.symm.trans otherFound)

/-- What the end of a sweep says about the statements from a position on: it stopped at the first
return of a live name, or there is none. -/
def Accounts (table : TypeTable) (listing : List Stmt) (start : Nat) : Step → Prop
  | .going _ => ∀ position, start ≤ position → ¬ReturnsLiveAt table listing position
  | .escaped expr => ∃ position, start ≤ position ∧ EscapesAt table listing position expr ∧
      ∀ earlier, start ≤ earlier → earlier < position → ¬ReturnsLiveAt table listing earlier

private theorem Accounts.earlier {table : TypeTable} {listing : List Stmt} {start : Nat}
    {step : Step}
    (rest : Accounts table listing (start + 1) step) (here : ¬ReturnsLiveAt table listing start) :
    Accounts table listing start step := by
  have fromHere (position : Nat) (atLeast : start ≤ position)
      (clean : start + 1 ≤ position → ¬ReturnsLiveAt table listing position) :
      ¬ReturnsLiveAt table listing position := by
    by_cases same : position = start
    · rw [same]
      exact here
    · exact clean (by omega)
  cases step with
  | going watch => exact fun position atLeast => fromHere position atLeast (rest position)
  | escaped expr =>
      obtain ⟨position, atLeast, escapes, clean⟩ := rest
      refine ⟨position, by omega, escapes, ?_⟩
      intro earlier earlierAtLeast less
      exact fromHere earlier earlierAtLeast (fun after => clean earlier after less)

private theorem sweep_accounts {table : TypeTable} {listing : List Stmt} {watch : Watch}
    (before after : List Stmt) (split : listing = before ++ after)
    (follows : Follows table listing before.length watch) :
    Accounts table listing before.length (sweep table (.quiet (.going watch)) after).value := by
  -- On the statements still to come; the state accounts for those before.
  induction after generalizing before watch with
  | nil =>
      intro position atEnd ⟨results, pos, present, _⟩
      have inside := (List.getElem?_eq_some_iff.mp present).1
      rw [split, List.append_nil] at inside
      omega
  | cons stmt after ih =>
      have present : listing[before.length]? = some stmt := by
        rw [split, List.getElem?_append_right (Nat.le_refl _), Nat.sub_self]
        rfl
      rw [value_sweep_cons]
      cases moved : (transition table watch stmt).value with
      | escaped expr =>
          exact ⟨before.length, Nat.le_refl _, follows.escapesAt present moved,
            fun earlier atLeast less => by omega⟩
      | going next =>
          have here := follows.not_returnsLiveAt present moved
          have length : (before ++ [stmt]).length = before.length + 1 := by simp
          have rest := ih (before ++ [stmt]) (by simp [split])
            (by rw [length]; exact follows.step present moved)
          rw [length] at rest
          exact rest.earlier here

/-- The analysis of a body gives the first result of the first return of a live name, and nothing if
no return gives back a live name. -/
theorem checkBody_eq_first_live_return (table : TypeTable) (body : Block) :
    (∀ expr, checkBody table body = some expr ↔
      ∃ position, EscapesAt table body.statements position expr ∧
        ∀ earlier < position, ¬ReturnsLiveAt table body.statements earlier) ∧
    (checkBody table body = none ↔
      ∀ position, ¬ReturnsLiveAt table body.statements position) := by
  have accounts : Accounts table body.statements 0
      (sweep table (.quiet (.going .idle)) body.statements).value :=
    sweep_accounts [] body.statements rfl Follows.start
  rw [checkBody_eq_sweep]
  cases ended : (sweep table (.quiet (.going .idle)) body.statements).value with
  | going watch =>
      rw [ended] at accounts
      have clean (position : Nat) : ¬ReturnsLiveAt table body.statements position :=
        accounts position (Nat.zero_le position)
      refine ⟨fun expr => ⟨fun impossible => (by cases impossible), ?_⟩, fun _ => clean, fun _ => rfl⟩
      intro ⟨position, escapes, _⟩
      exact False.elim (clean position escapes.returnsLiveAt)
  | escaped found =>
      rw [ended] at accounts
      obtain ⟨first, _, escapes, clean⟩ := accounts
      refine ⟨fun expr => ⟨?_, ?_⟩, fun impossible => (by cases impossible), ?_⟩
      · intro same
        cases same
        exact ⟨first, escapes, fun earlier less => clean earlier (Nat.zero_le earlier) less⟩
      · intro ⟨position, otherEscapes, otherClean⟩
        have notAfter : ¬first < position := fun less =>
          otherClean first less escapes.returnsLiveAt
        have notBefore : ¬position < first := fun less =>
          clean position (Nat.zero_le position) less otherEscapes.returnsLiveAt
        have same : first = position := by omega
        subst same
        exact congrArg some (escapes.expr_eq otherEscapes)
      · intro never
        exact False.elim (never first escapes.returnsLiveAt)

end ZeroError.Analysis
