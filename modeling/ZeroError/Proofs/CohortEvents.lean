import ZeroError.Proofs.Assignments
import ZeroError.Proofs.Chronicle
import ZeroError.Proofs.ErrorTypes

/-!
What a walk tells of cohorts. A cohort is told of when it opens and again when it is given up; these two
kinds of events are the turns of a walk. What one statement can do is said once, with the turns that it
tells, and the turns of a whole walk follow from it. Main statement: the turns alternate and start with
an opening; an opening is told right after the line that opens the cohort, with the names of that line;
and what escapes belongs to the cohort that was opened last.
-/

namespace ZeroError.Go

/-- The names that a line declares. -/
def ValueSpec.declared (spec : ValueSpec) : List String :=
  spec.names.map Ident.name

end ZeroError.Go

namespace ZeroError.Analysis

open ZeroError.Go

namespace Event

/-- Whether an event tells that a cohort is opened or given up. -/
def isTurn : Event → Bool
  | tracking _ | allReassigned => true
  | _ => false

/-- The turns at even positions open a cohort, and those at odd ones give it up. -/
def IsTurnAt (position : Nat) (event : Event) : Prop :=
  if position % 2 = 0 then ∃ names, event = .tracking names else event = .allReassigned

end Event

def turns (events : List Event) : List Event :=
  events.filter Event.isTurn

theorem turns_append (first second : List Event) :
    turns (first ++ second) = turns first ++ turns second :=
  List.filter_append first second

/-- Openings and closings take turns, and the first is an opening. -/
def Alternate (told : List Event) : Prop :=
  ∀ (position : Nat) (event : Event), told[position]? = some event → event.IsTurnAt position

private theorem Alternate.concat {told : List Event} {event : Event} (alternate : Alternate told)
    (next : event.IsTurnAt told.length) : Alternate (told ++ [event]) := by
  intro position other present
  by_cases earlier : position < told.length
  · rw [List.getElem?_append_left earlier] at present
    exact alternate position other present
  · rw [List.getElem?_append_right (Nat.le_of_not_lt earlier)] at present
    have last : position = told.length := by
      have bound := (List.getElem?_eq_some_iff.mp present).1
      rw [List.length_singleton] at bound
      omega
    subst last
    rw [Nat.sub_self] at present
    cases present
    exact next

/-- What a statement can make of a state, with the turns that it tells: it opens a cohort, gives one up,
changes nothing, takes names from a cohort, or stops the walk. -/
inductive Turn : Watch → List Event → Step → Prop
  | opens (names : List String) : Turn .idle [.tracking names] (.going (.tracking ⟨names⟩))
  | closes (cohort : Cohort) : Turn (.tracking cohort) [.allReassigned] (.going .idle)
  | rests : Turn .idle [] (.going .idle)
  | keeps {cohort remaining : Cohort} (fewer : remaining.names ⊆ cohort.names) :
      Turn (.tracking cohort) [] (.going (.tracking remaining))
  | stops {cohort : Cohort} {ident : Ident} (followed : ident.name ∈ cohort.names) :
      Turn (.tracking cohort) [] (.escaped (.ident ident))

private theorem turns_atRiskOfDecl (table : TypeTable) (declaration : GenDecl) :
    turns (atRiskOfDecl table declaration).events = [] := by
  apply filter_atRiskOfDecl
  intro event notice
  cases event with
  | unknownType id => rfl
  | atRisk names throughPointer => rfl
  | _ => cases notice

private theorem turn_assign (cohort : Cohort) (lhs : List Expr) :
    Turn (.tracking cohort) (turns ((Watch.tracking cohort).assign lhs).events)
      (.going ((Watch.tracking cohort).assign lhs).value) := by
  have following : (Watch.tracking cohort).isTracking = true := rfl
  rw [Watch.assign_eq, Watch.ofTracked]
  by_cases nothing : (Watch.tracking cohort).trackedOutside (assignedNames lhs) = []
  · rw [if_pos ⟨following, nothing⟩, if_pos nothing]
    exact .closes cohort
  · rw [if_neg (fun both => nothing both.2), if_neg nothing]
    apply Turn.keeps
    intro name member
    exact (List.mem_filter.mp member).1

theorem turn_transition (table : TypeTable) (watch : Watch) (stmt : Stmt) :
    Turn watch (turns (transition table watch stmt).events) (transition table watch stmt).value := by
  cases watch with
  | idle =>
      cases stmt with
      | decl declaration =>
          rw [transition, Traced.events_andThen, turns_append, turns_atRiskOfDecl, List.nil_append,
            Traced.value_andThen]
          cases (atRiskOfDecl table declaration).value with
          | none => exact .rests
          | some names => exact .opens (Cohort.ofNames names).names
      | _ => exact .rests
  | tracking cohort =>
      cases stmt with
      | assign lhs tok rhs pos => exact turn_assign cohort lhs
      | ret results pos =>
          rw [transition]
          cases found : (Watch.tracking cohort).escaping results with
          | none => exact .keeps (List.Subset.refl cohort.names)
          | some expr =>
              obtain ⟨ident, rfl, followed⟩ := Watch.holds_iff.mp (List.find?_some found)
              exact .stops followed
      | _ => exact .keeps (List.Subset.refl cohort.names)

private theorem Turn.opened {watch : Watch} {new : List Event} {step : Step} {names : List String}
    (turn : Turn watch new step) (member : Event.tracking names ∈ new) :
    watch = .idle ∧ step = .going (.tracking ⟨names⟩) := by
  cases turn with
  | opens others =>
      cases List.mem_singleton.mp member
      exact ⟨rfl, rfl⟩
  | closes cohort => cases List.mem_singleton.mp member
  | _ => cases member

/-- The turns that have been told fit the state: a cohort is followed exactly if the last turn opened
one, and then its names are among those that the turn told. -/
structure Fits (told : List Event) (watch : Watch) : Prop where
  alternate : Alternate told
  isOpen : told.length % 2 = 1 ↔ watch.isTracking = true
  opened : watch.isTracking = true →
    ∃ names, told.getLast? = some (.tracking names) ∧ watch.tracked ⊆ names

/-- The turns that have been told when a walk ends, or stops at an expression. -/
inductive Accounted (told : List Event) : Step → Prop
  | going {watch : Watch} (fits : Fits told watch) : Accounted told (.going watch)
  | escaped {ident : Ident} {names : List String} (alternate : Alternate told)
      (last : told.getLast? = some (.tracking names)) (declared : ident.name ∈ names) :
      Accounted told (.escaped (.ident ident))

private theorem Accounted.alternate {told : List Event} {step : Step}
    (accounted : Accounted told step) :
    Alternate told := by
  cases accounted with
  | going fits => exact fits.alternate
  | escaped alternate _ _ => exact alternate

/-- What escapes belongs to the cohort that was opened last. -/
theorem Accounted.opened {told : List Event} {expr : Expr}
    (accounted : Accounted told (.escaped expr)) :
    ∃ ident names, expr = .ident ident ∧ told.getLast? = some (.tracking names) ∧
      ident.name ∈ names := by
  cases accounted with
  | escaped _ last declared => exact ⟨_, _, rfl, last, declared⟩

private theorem Fits.start : Fits [] .idle where
  alternate := by
    intro position event present
    cases present
  isOpen := by decide
  opened := by
    intro impossible
    cases impossible

private theorem Fits.step {told new : List Event} {watch : Watch} {step : Step}
    (fits : Fits told watch)
    (turn : Turn watch new step) : Accounted (told ++ new) step := by
  cases turn with
  | opens names =>
      have even : told.length % 2 = 0 := by
        have closed := fits.isOpen
        simp only [Watch.isTracking, Bool.false_eq_true, iff_false] at closed
        omega
      apply Accounted.going
      refine ⟨fits.alternate.concat ?_, ?_, ?_⟩
      · rw [Event.IsTurnAt, if_pos even]
        exact ⟨names, rfl⟩
      · rw [List.length_append, List.length_singleton]
        exact iff_of_true (by omega) rfl
      · intro _
        exact ⟨names, List.getLast?_concat, List.Subset.refl names⟩
  | closes cohort =>
      have odd : told.length % 2 = 1 := fits.isOpen.mpr rfl
      apply Accounted.going
      refine ⟨fits.alternate.concat ?_, ?_, ?_⟩
      · rw [Event.IsTurnAt, if_neg (by omega)]
      · rw [List.length_append, List.length_singleton]
        exact iff_of_false (by omega) Bool.false_ne_true
      · intro impossible
        cases impossible
  | rests =>
      rw [List.append_nil]
      exact .going fits
  | keeps fewer =>
      obtain ⟨names, last, among⟩ := fits.opened rfl
      rw [List.append_nil]
      apply Accounted.going
      exact ⟨fits.alternate, fits.isOpen, fun _ => ⟨names, last, List.Subset.trans fewer among⟩⟩
  | stops followed =>
      obtain ⟨names, last, among⟩ := fits.opened rfl
      rw [List.append_nil]
      exact .escaped fits.alternate last (among followed)

private theorem accounted_sweep {table : TypeTable} {start : Traced Step}
    (accounted : Accounted (turns start.events) start.value) (stmts : List Stmt) :
    Accounted (turns (sweep table start stmts).events) (sweep table start stmts).value := by
  induction stmts generalizing start with
  | nil => exact accounted
  | cons stmt stmts ih =>
      rw [sweep_cons]
      apply ih
      obtain ⟨events, value⟩ := start
      rw [Traced.events_andThen, turns_append]
      cases accounted with
      | going fits => exact fits.step (turn_transition table _ stmt)
      | escaped alternate last declared =>
          have nothing : turns [] = [] := rfl
          rw [Step.proceed, Traced.events_quiet, nothing, List.append_nil]
          exact .escaped alternate last declared

private theorem accounted_traceBody (table : TypeTable) (body : Block) :
    Accounted (turns (traceBody table body).events)
      (sweep table (.quiet (.going .idle)) body.statements).value := by
  have started : Accounted (turns (Traced.quiet (Step.going .idle)).events) (.going .idle) :=
    .going Fits.start
  rw [traceBody_eq_sweep, Traced.events_map]
  exact accounted_sweep started body.statements

/-- A line among the declarations of some statements that opens a cohort: it is the first of its
declaration that leaves errors at their zero value, and nothing is followed when it is met. -/
structure Opening (table : TypeTable) (listing : List Stmt) where
  before : List Stmt
  passed : List Spec
  spec : ValueSpec
  others : List Spec
  pos : Pos
  after : List Stmt
  listed : listing = before ++ Stmt.decl ⟨.var, passed ++ Spec.value spec :: others, pos⟩ :: after
  idle : (sweep table (.quiet (.going .idle)) before).value = .going .idle
  passedOver : ∀ other ∈ passed, ∀ names, ¬LeavesErrors table other names
  leaves : LeavesErrors table (.value spec) spec.declared

/-- What has been told when the line is met: the events of all statements before its declaration, and
those of the lines before it. -/
def Opening.told {table : TypeTable} {listing : List Stmt} (opening : Opening table listing) :
    List Event :=
  (sweep table (.quiet (.going .idle)) opening.before).events ++
    (atRiskOfSpecs table opening.passed).events

private theorem Cohort.ofNames_eq_eraseDups (names : List String) :
    ofNames names = ⟨names.eraseDups⟩ := by
  apply congrArg Cohort.mk
  exact (names_ofNames names).trans (FirstOccurrences.keepNew_id_eq_eraseDups names)

private theorem exists_specs_of_atRiskNames {table : TypeTable} {stmt : Stmt} {names : List String}
    (found : (atRiskNames table stmt).value = some names) :
    ∃ specs pos, stmt = .decl ⟨.var, specs, pos⟩ ∧
      (atRiskOfSpecs table specs).value = some names := by
  cases stmt with
  | decl declaration =>
      obtain ⟨tok, specs, pos⟩ := declaration
      cases tok with
      | var => exact ⟨specs, pos, rfl, found⟩
      | const => cases found
      | type => cases found
  | _ => cases found

section

variable {table : TypeTable} {passed others : List Spec} {spec : ValueSpec} {pos : Pos}

private theorem atRiskOfSpecs_append (nothing : (atRiskOfSpecs table passed).value = none)
    (specs : List Spec) :
    atRiskOfSpecs table (passed ++ specs) =
      (atRiskOfSpecs table passed).andThen (fun _ => atRiskOfSpecs table specs) := by
  induction passed with
  | nil => rfl
  | cons first passed ih =>
      cases first with
      | type first => exact ih nothing
      | value first =>
          rw [List.cons_append, atRiskOfSpecs, atRiskOfSpecs, Traced.andThen_assoc]
          rw [atRiskOfSpecs, Traced.value_andThen] at nothing
          unfold Traced.andThen
          cases found : (atRiskOfSpec table first).value with
          | some names =>
              rw [found] at nothing
              cases nothing
          | none =>
              rw [found] at nothing
              simp only [ih nothing]
              rfl

private theorem value_atRiskOfSpecs_passed (passedOver : ∀ other ∈ passed, ∀ names,
    ¬LeavesErrors table other names) : (atRiskOfSpecs table passed).value = none := by
  apply Option.eq_none_iff_forall_ne_some.mpr
  intro names found
  obtain ⟨before, spec, after, rfl, leaves, _⟩ := value_atRiskOfSpecs_eq_some_iff.mp found
  exact passedOver spec List.mem_append_cons_self names leaves

private theorem exists_atRiskOfType {id : TypeId} (capable : isErrorType table id = true)
    (names : List String) :
    ∃ throughPointer, atRiskOfType table id names =
      ⟨[.atRisk names throughPointer], some names⟩ := by
  unfold isErrorType at capable
  unfold atRiskOfType
  cases known : table.resolve id with
  | none =>
      rw [known] at capable
      cases capable
  | some facts =>
      rw [known] at capable
      simp only at capable ⊢
      cases reached : errorTarget table facts with
      | none =>
          rw [reached] at capable
          cases capable
      | some target =>
          rw [reached] at capable
          exact ⟨target.2, if_pos capable⟩

private theorem exists_atRiskOfSpec (leaves : LeavesErrors table (.value spec) spec.declared) :
    ∃ throughPointer, atRiskOfSpec table spec =
      ⟨[.atRisk spec.declared throughPointer], some spec.declared⟩ := by
  obtain ⟨idents, type, same, capable, _⟩ := leaves
  cases same
  exact exists_atRiskOfType (isErrorType_iff.mpr capable) (idents.map Ident.name)

/-- The declaration of the line tells of the lines before it, of the line itself, and right after that
of the cohort. -/
theorem exists_transition_opening
    (passedOver : ∀ other ∈ passed, ∀ names, ¬LeavesErrors table other names)
    (leaves : LeavesErrors table (.value spec) spec.declared) :
    ∃ throughPointer,
      transition table .idle (.decl ⟨.var, passed ++ Spec.value spec :: others, pos⟩) =
      ⟨(atRiskOfSpecs table passed).events ++
          [Event.atRisk spec.declared throughPointer, .tracking spec.declared.eraseDups],
        .going (.tracking ⟨spec.declared.eraseDups⟩)⟩ := by
  obtain ⟨throughPointer, line⟩ := exists_atRiskOfSpec leaves
  have first : atRiskOfSpecs table (.value spec :: others) =
      ⟨[.atRisk spec.declared throughPointer], some spec.declared⟩ := by
    rw [atRiskOfSpecs, line]
    rfl
  have declaration : atRiskOfDecl table ⟨.var, passed ++ Spec.value spec :: others, pos⟩ =
      ⟨(atRiskOfSpecs table passed).events ++ [Event.atRisk spec.declared throughPointer],
        some spec.declared⟩ := by
    change atRiskOfSpecs table (passed ++ Spec.value spec :: others) = _
    rw [atRiskOfSpecs_append (value_atRiskOfSpecs_passed passedOver), first]
    rfl
  refine ⟨throughPointer, ?_⟩
  rw [transition, declaration]
  simp only [Traced.andThen, Cohort.ofNames_eq_eraseDups, List.append_assoc, List.cons_append,
    List.nil_append]

/-- Only a line that leaves errors at their zero value makes a statement tell of an opening, and only
if nothing is followed. -/
theorem exists_line_of_tracking {watch : Watch} {stmt : Stmt} {names : List String}
    (told : Event.tracking names ∈ (transition table watch stmt).events) :
    watch = .idle ∧ ∃ passed spec others pos,
      stmt = .decl ⟨.var, passed ++ Spec.value spec :: others, pos⟩ ∧
        (∀ other ∈ passed, ∀ names, ¬LeavesErrors table other names) ∧
        LeavesErrors table (.value spec) spec.declared := by
  have turn := turn_transition table watch stmt
  obtain ⟨rfl, going⟩ := turn.opened (List.mem_filter.mpr ⟨told, rfl⟩)
  refine ⟨rfl, ?_⟩
  have found : ∃ declared, (atRiskNames table stmt).value = some declared := by
    rcases transition_going going with
      ⟨declared, _, found, _⟩ | ⟨cohort, lhs, tok, rhs, pos, impossible, _⟩ | ⟨_, _, impossible⟩ |
        ⟨cohort, impossible, _⟩
    · exact ⟨declared, found⟩
    · cases impossible
    · cases impossible
    · cases impossible
  obtain ⟨declared, found⟩ := found
  obtain ⟨specs, pos, rfl, first⟩ := exists_specs_of_atRiskNames found
  obtain ⟨passed, spec, others, rfl, leaves, passedOver⟩ := value_atRiskOfSpecs_eq_some_iff.mp first
  obtain ⟨idents, type, rfl, capable, _⟩ := leaves
  exact ⟨passed, ⟨idents, some type, []⟩, others, pos, rfl, passedOver,
    idents, type, rfl, capable, rfl⟩

private theorem tracking_notMem_atRiskOfSpecs (names : List String) :
    Event.tracking names ∉ (atRiskOfSpecs table passed).events := by
  intro member
  cases List.all_eq_true.mp (all_isNotice_atRiskOfSpecs table passed) _ member

end

private theorem eq_of_concat_eq_append {front told rest : List Event} {last event : Event}
    (absent : event ∉ front) (same : front ++ [last] = told ++ event :: rest) :
    told = front ∧ event = last := by
  rcases List.eq_nil_or_concat rest with rfl | ⟨inner, final, rfl⟩
  · obtain ⟨fronts, lasts⟩ := List.append_inj' same rfl
    exact ⟨fronts.symm, (List.cons.inj lasts).1.symm⟩
  · rw [List.concat_eq_append, ← List.cons_append, ← List.append_assoc] at same
    have fronts := (List.append_inj' same rfl).1
    rw [fronts] at absent
    exact absurd List.mem_append_cons_self absent

private theorem told_of_transition {table : TypeTable} {watch : Watch} {stmt : Stmt}
    {told rest : List Event} {names : List String}
    (events : (transition table watch stmt).events = told ++ Event.tracking names :: rest) :
    watch = .idle ∧ ∃ passed spec others pos throughPointer,
      stmt = .decl ⟨.var, passed ++ Spec.value spec :: others, pos⟩ ∧
        (∀ other ∈ passed, ∀ names, ¬LeavesErrors table other names) ∧
        LeavesErrors table (.value spec) spec.declared ∧
        told = (atRiskOfSpecs table passed).events ++ [Event.atRisk spec.declared throughPointer] ∧
        names = spec.declared.eraseDups := by
  have member : Event.tracking names ∈ (transition table watch stmt).events := by
    rw [events]
    exact List.mem_append_cons_self
  obtain ⟨rfl, passed, spec, others, pos, rfl, passedOver, leaves⟩ := exists_line_of_tracking member
  obtain ⟨throughPointer, opened⟩ := exists_transition_opening passedOver leaves
  rw [opened, List.append_cons] at events
  have absent : Event.tracking names ∉
      (atRiskOfSpecs table passed).events ++ [Event.atRisk spec.declared throughPointer] := by
    intro inside
    rcases List.mem_append.mp inside with earlier | line
    · exact tracking_notMem_atRiskOfSpecs names earlier
    · cases List.mem_singleton.mp line
  obtain ⟨before, last⟩ := eq_of_concat_eq_append absent events
  cases last
  exact ⟨rfl, passed, spec, others, pos, throughPointer, rfl, passedOver, leaves, before, rfl⟩

/-- If the last statement tells of an opening, its declaration has the line. -/
theorem exists_opening_of_last {table : TypeTable} {listing before after : List Stmt} {stmt : Stmt}
    (split : listing = before ++ stmt :: after) {told rest : List Event} {names : List String}
    (events : ((sweep table (.quiet (.going .idle)) before).value.proceed
      (fun watch => transition table watch stmt)).events = told ++ Event.tracking names :: rest) :
    ∃ (opening : Opening table listing) (throughPointer : Bool),
      (sweep table (.quiet (.going .idle)) before).events ++ told =
          opening.told ++ [Event.atRisk opening.spec.declared throughPointer] ∧
        names = opening.spec.declared.eraseDups := by
  cases ended : (sweep table (.quiet (.going .idle)) before).value with
  | escaped expr =>
      rw [ended] at events
      have nonempty : told ++ Event.tracking names :: rest ≠ [] :=
        List.append_ne_nil_of_right_ne_nil told (List.cons_ne_nil _ rest)
      exact absurd events.symm nonempty
  | going watch =>
      rw [ended] at events
      obtain ⟨rfl, passed, spec, others, pos, throughPointer, rfl, passedOver, leaves, rfl, same⟩ :=
        told_of_transition events
      refine ⟨⟨before, passed, spec, others, pos, after, split, ended, passedOver, leaves⟩,
        throughPointer, ?_, same⟩
      rw [Opening.told, List.append_assoc]

/-- An opening is told right after the line that opens the cohort, with the names of that line. -/
theorem exists_opening_of_told {table : TypeTable} {listing before after : List Stmt}
    (split : listing = before ++ after) {told rest : List Event} {names : List String}
    (events : (sweep table (.quiet (.going .idle)) before).events =
      told ++ Event.tracking names :: rest) :
    ∃ (opening : Opening table listing) (throughPointer : Bool),
      told = opening.told ++ [Event.atRisk opening.spec.declared throughPointer] ∧
        names = opening.spec.declared.eraseDups := by
  induction before using List.reverseRecOn generalizing after rest with
  | nil =>
      have nonempty : told ++ Event.tracking names :: rest ≠ [] :=
        List.append_ne_nil_of_right_ne_nil told (List.cons_ne_nil _ rest)
      exact absurd events.symm nonempty
  | append_singleton before stmt ih =>
      have shorter : listing = before ++ stmt :: after := by
        rw [split, List.append_assoc, List.singleton_append]
      rw [sweep_append, sweep_cons] at events
      change (sweep table (.quiet (.going .idle)) before).events ++
        ((sweep table (.quiet (.going .idle)) before).value.proceed
          (fun watch => transition table watch stmt)).events = _ at events
      -- The event comes from the last statement, or from the walk up to it.
      rcases List.append_eq_append_iff.mp events with
        ⟨inner, earlier, new⟩ | ⟨inner, earlier, later⟩
      · rw [earlier]
        exact exists_opening_of_last shorter new
      · cases inner with
        | nil =>
            rw [← List.append_nil told, ← earlier, ← List.append_nil (sweep table _ before).events]
            exact exists_opening_of_last shorter later.symm
        | cons first inner =>
            cases later
            exact ih shorter earlier

/-- Every line that opens a cohort is told of, and the cohort right after it. -/
theorem Opening.exists_events {table : TypeTable} {listing : List Stmt}
    (opening : Opening table listing) :
    ∃ throughPointer rest, (sweep table (.quiet (.going .idle)) listing).events =
      opening.told ++ Event.atRisk opening.spec.declared throughPointer ::
        Event.tracking opening.spec.declared.eraseDups :: rest := by
  obtain ⟨before, passed, spec, others, pos, after, rfl, idle, passedOver, leaves⟩ := opening
  obtain ⟨throughPointer, opened⟩ := exists_transition_opening passedOver leaves
  refine ⟨throughPointer, ?_⟩
  rw [sweep_append, sweep_cons, sweep_eq_andThen, Traced.events_andThen, Traced.events_andThen, idle,
    Step.proceed, opened]
  simp only [told, List.append_assoc, List.cons_append, List.nil_append]
  exact ⟨_, rfl⟩

/-- The turns of a walk alternate and start with an opening. Each opening is told right after the line
that opens the cohort, and has the names of that line, each the first time that it appears; and each such
line is told of. What escapes is an identifier, and the last turn is an opening that has its name. -/
theorem cohort_events_alternate (table : TypeTable) (body : Block) :
    Alternate (turns (traceBody table body).events) ∧
    (∀ told names rest, (traceBody table body).events = told ++ Event.tracking names :: rest →
      ∃ (opening : Opening table body.statements) (throughPointer : Bool),
        told = opening.told ++ [Event.atRisk opening.spec.declared throughPointer] ∧
          names = opening.spec.declared.eraseDups) ∧
    (∀ opening : Opening table body.statements, ∃ throughPointer rest,
      (traceBody table body).events =
        opening.told ++ Event.atRisk opening.spec.declared throughPointer ::
          Event.tracking opening.spec.declared.eraseDups :: rest) ∧
    (∀ expr, checkBody table body = some expr →
      ∃ ident names, expr = .ident ident ∧
        (turns (traceBody table body).events).getLast? = some (.tracking names) ∧
        ident.name ∈ names) := by
  have accounted := accounted_traceBody table body
  refine ⟨accounted.alternate, ?_, ?_, ?_⟩
  · intro told names rest events
    rw [traceBody_eq_sweep, Traced.events_map] at events
    exact exists_opening_of_told (List.append_nil body.statements).symm events
  · intro opening
    rw [traceBody_eq_sweep, Traced.events_map]
    exact opening.exists_events
  · intro expr escaped
    rw [checkBody_eq_sweep] at escaped
    cases ended : (sweep table (.quiet (.going .idle)) body.statements).value with
    | going watch =>
        rw [ended] at escaped
        cases escaped
    | escaped other =>
        rw [ended] at escaped accounted
        cases escaped
        exact accounted.opened

/-- A cohort whose only name is declared twice and then assigned to, and another one that escapes. -/
def cohortPair : Block where
  stmts := [zeroVar [⟨"a", {}⟩, ⟨"a", {}⟩] ⟨.ident ⟨"T", {}⟩, ⟨1⟩⟩ {},
    .assign [.ident ⟨"a", {}⟩] "=" [.ident ⟨"c", {}⟩] {},
    zeroVar [⟨"b", {}⟩] ⟨.ident ⟨"T", {}⟩, ⟨2⟩⟩ {}, .ret [.ident ⟨"b", {}⟩] {}]
  pos := {}

theorem cohort_events_alternate_pair :
    (traceBody nestedTypes cohortPair).events =
        [.atRisk ["a", "a"] false, .tracking ["a"], .allReassigned, .atRisk ["b"] true,
          .tracking ["b"]] ∧
      (∃ (opening : Opening nestedTypes cohortPair.statements) (throughPointer : Bool),
        [.atRisk ["a", "a"] false] =
            opening.told ++ [Event.atRisk opening.spec.declared throughPointer] ∧
          ["a"] = opening.spec.declared.eraseDups) ∧
      ∃ expr ident names, checkBody nestedTypes cohortPair = some expr ∧ expr = .ident ident ∧
        (turns (traceBody nestedTypes cohortPair).events).getLast? = some (.tracking names) ∧
        ident.name ∈ names := by
  obtain ⟨_, opens, _, escapes⟩ := cohort_events_alternate nestedTypes cohortPair
  have events : (traceBody nestedTypes cohortPair).events =
      [.atRisk ["a", "a"] false, .tracking ["a"], .allReassigned, .atRisk ["b"] true,
        .tracking ["b"]] := by
    decide +kernel
  have reported : (checkBody nestedTypes cohortPair).isSome = true := by decide +kernel
  obtain ⟨expr, escaped⟩ := Option.isSome_iff_exists.mp reported
  obtain ⟨ident, names, same, last, declared⟩ := escapes expr escaped
  exact ⟨events, opens [.atRisk ["a", "a"] false] ["a"] _ events,
    expr, ident, names, escaped, same, last, declared⟩

end ZeroError.Analysis
