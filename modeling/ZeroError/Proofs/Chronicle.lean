import ZeroError.Proofs.Verdicts

/-!
What a run tells of its own course. The walk of a body tells only of types, declarations and
cohorts; every other event is a milestone and comes from the run itself or from what became of a
function. Main statement: the milestones of a run with a single worker fit its result, in number,
in order and in what they carry, also where a failure cuts the run short.
-/

namespace ZeroError.Analysis

open ZeroError.Go

namespace Event

/-- Whether an event comes from the run itself or from what became of a function, and not from the
walk of a body. -/
def isMilestone : Event → Bool
  | analyzing _ _ _ | skipped _ | escapes _ _ | complete _ _ _ _ _ => true
  | unknownType _ | atRisk _ _ | tracking _ | allReassigned => false

/-- Whether an event tells of the type of a declaration. -/
def isNotice : Event → Bool
  | unknownType _ | atRisk _ _ => true
  | _ => false

def isSkipped : Event → Bool
  | skipped _ => true
  | _ => false

def isComplete : Event → Bool
  | complete _ _ _ _ _ => true
  | _ => false

/-- The function and the place that an escape names. -/
def escape? : Event → Option (String × String)
  | escapes function posn => some (function, posn)
  | _ => none

end Event

def milestones (events : List Event) : List Event :=
  events.filter Event.isMilestone

theorem milestones_append (first second : List Event) :
    milestones (first ++ second) = milestones first ++ milestones second :=
  List.filter_append first second

private theorem all_isNotice_atRiskOfType (table : TypeTable) (id : TypeId) (names : List String) :
    (atRiskOfType table id names).events.all Event.isNotice = true := by
  unfold atRiskOfType
  cases table.resolve id with
  | none => rfl
  | some facts =>
      cases targeted : errorTarget table facts with
      | none =>
          simp only [targeted]
          rfl
      | some pair =>
          obtain ⟨target, throughPointer⟩ := pair
          simp only [targeted]
          split
          · rfl
          · rfl

private theorem all_isNotice_atRiskOfSpec (table : TypeTable) (spec : ValueSpec) :
    (atRiskOfSpec table spec).events.all Event.isNotice = true := by
  unfold atRiskOfSpec
  split
  · exact all_isNotice_atRiskOfType table _ _
  · rfl

theorem all_isNotice_atRiskOfSpecs (table : TypeTable) (specs : List Spec) :
    (atRiskOfSpecs table specs).events.all Event.isNotice = true := by
  induction specs with
  | nil => rfl
  | cons spec specs ih =>
      cases spec with
      | type spec => exact ih
      | value spec =>
          rw [atRiskOfSpecs, Traced.events_andThen, List.all_append, all_isNotice_atRiskOfSpec,
            Bool.true_and]
          cases (atRiskOfSpec table spec).value with
          | none => exact ih
          | some names => rfl

/-- A declaration by itself tells only of the types of its lines. -/
theorem all_isNotice_atRiskOfDecl (table : TypeTable) (declaration : GenDecl) :
    (atRiskOfDecl table declaration).events.all Event.isNotice = true := by
  unfold atRiskOfDecl
  split
  · exact all_isNotice_atRiskOfSpecs table declaration.specs
  · rfl

theorem filter_atRiskOfDecl {pick : Event → Bool} (table : TypeTable) (declaration : GenDecl)
    (others : ∀ event : Event, event.isNotice = true → pick event = false) :
    (atRiskOfDecl table declaration).events.filter pick = [] := by
  apply List.filter_eq_nil_iff.mpr
  intro event member
  have notice := List.all_eq_true.mp (all_isNotice_atRiskOfDecl table declaration) event member
  rw [others event notice]
  exact Bool.false_ne_true

private theorem milestones_atRiskOfDecl (table : TypeTable) (declaration : GenDecl) :
    milestones (atRiskOfDecl table declaration).events = [] := by
  apply filter_atRiskOfDecl
  intro event notice
  cases event with
  | unknownType id => rfl
  | atRisk names throughPointer => rfl
  | _ => cases notice

private theorem milestones_assign (watch : Watch) (targets : List Expr) :
    milestones (watch.assign targets).events = [] := by
  cases watch with
  | idle => rfl
  | tracking cohort =>
      simp only [Watch.assign]
      split
      · rfl
      · rfl

private theorem milestones_transition (table : TypeTable) (watch : Watch) (stmt : Stmt) :
    milestones (transition table watch stmt).events = [] := by
  cases watch with
  | idle =>
      cases stmt with
      | decl declaration =>
          rw [transition, Traced.events_andThen, milestones_append, milestones_atRiskOfDecl,
            List.nil_append]
          cases (atRiskOfDecl table declaration).value with
          | none => rfl
          | some names => rfl
      | _ => rfl
  | tracking cohort =>
      cases stmt with
      | assign lhs tok rhs pos => exact milestones_assign (.tracking cohort) lhs
      | ret results pos =>
          rw [transition]
          cases (Watch.tracking cohort).escaping results with
          | none => rfl
          | some expr => rfl
      | _ => rfl

private theorem milestones_sweep (table : TypeTable) (start : Traced Step) (stmts : List Stmt) :
    milestones (sweep table start stmts).events = milestones start.events := by
  induction stmts generalizing start with
  | nil => rfl
  | cons stmt stmts ih =>
      rw [sweep_cons, ih, Traced.events_andThen, milestones_append]
      cases start.value with
      | going watch =>
          change _ ++ milestones (transition table watch stmt).events = _
          rw [milestones_transition, List.append_nil]
      | escaped expr => exact List.append_nil _

/-- The walk of a body tells no milestone. -/
theorem milestones_traceBody (table : TypeTable) (body : Block) :
    milestones (traceBody table body).events = [] := by
  rw [traceBody_eq_sweep, Traced.events_map, milestones_sweep]
  rfl

/-- What is told of a function besides the walk of its body. -/
def Outcome.events (function : String) : Outcome → List Event
  | .skipped => [.skipped function]
  | .clean => []
  | .reported diagnostic => [.escapes function diagnostic.posn]

/-- A function tells what became of it, and nothing if it fails. -/
theorem milestones_examine (table : TypeTable) (file : String) (func : FuncDecl) :
    milestones (examine table file func).events =
      match (examine table file func).value with
      | .ok outcome => outcome.events func.name.name
      | .error _ => [] := by
  unfold examine
  cases func.body with
  | none => rfl
  | some body =>
      simp only
      split
      · rw [Traced.events_andThen, milestones_append, milestones_traceBody, List.nil_append,
          Traced.value_andThen]
        cases (traceBody table body).value with
        | none => rfl
        | some returned =>
            simp only
            cases Diagnostic.ofReturned file func.name.name returned with
            | error cause => rfl
            | ok diagnostic => rfl
      · rfl

private theorem function_ofReturned {file function : String} {returned : Expr}
    {diagnostic : Diagnostic}
    (made : Diagnostic.ofReturned file function returned = .ok diagnostic) :
    diagnostic.function = function := by
  cases returned with
  | ident ident =>
      obtain ⟨rendered, _printed, same⟩ := Attempts.bind_eq_ok_iff.mp made
      cases same
      rfl
  | _ => cases made

/-- A diagnostic names the function that it was found in. -/
theorem function_of_outcomeOf {table : TypeTable} {entry : String × FuncDecl}
    {diagnostic : Diagnostic} (settled : outcomeOf table entry = .ok (.reported diagnostic)) :
    diagnostic.function = entry.2.name.name := by
  cases candidate : isCandidate table entry.2 with
  | false =>
      rw [outcomeOf_passed_over candidate] at settled
      cases settled
  | true =>
      obtain ⟨body, present, error⟩ := isCandidate_iff.mp candidate
      rw [outcomeOf_walked present error] at settled
      split at settled
      · cases settled
      · obtain ⟨made, ofReturned, same⟩ := Attempts.map_eq_ok_iff.mp settled
        cases same
        exact function_ofReturned ofReturned

/-- What is told of functions that have been settled. -/
def eventsOf (settled : List (Target × Outcome)) : List Event :=
  settled.flatMap (fun entry => entry.2.events entry.1.func.name.name)

/-- Functions that can all be settled tell what became of them, in their order, before anything is
told of those that follow. -/
theorem milestones_checkTargets_append {table : TypeTable} {before : List Target}
    {settled : List (Target × Outcome)} (batch : Batch) (rest : List Target)
    (succeeded : before.mapM (settle table) = .ok settled) :
    milestones (checkTargets table batch (before ++ rest)).events =
      eventsOf settled ++ milestones (checkTargets table (batch.extend settled) rest).events := by
  have each := Attempts.mapM_eq_ok_iff.mp succeeded
  clear succeeded
  induction each generalizing batch with
  | nil => rfl
  | @cons target entry before settled first _ ih =>
      obtain ⟨outcome, looked, rfl⟩ := Attempts.map_eq_ok_iff.mp first
      have examined : (examine table target.file target.func).value = .ok outcome := looked
      rw [List.cons_append, checkTargets, Traced.events_andThen, milestones_append,
        milestones_examine, examined]
      simp only
      rw [ih (batch.add target.index outcome), ← List.append_assoc]
      rfl

private theorem milestones_checkTargets_error {table : TypeTable} {target : Target}
    {cause : Unprintable}
    (batch : Batch) (rest : List Target) (failed : settle table target = .error cause) :
    milestones (checkTargets table batch (target :: rest)).events = [] := by
  have examined : (examine table target.file target.func).value = .error cause :=
    Attempts.map_eq_error_iff.mp failed
  rw [checkTargets, Traced.events_andThen, milestones_append, milestones_examine, examined]
  rfl

theorem countP_milestones {pick : Event → Bool} (events : List Event)
    (milestone : ∀ event, pick event = true → event.isMilestone = true) :
    events.countP pick = (milestones events).countP pick := by
  rw [milestones, List.countP_filter]
  apply List.countP_congr
  intro event _member
  constructor
  · intro picked
    rw [picked, milestone event picked]
    rfl
  · intro both
    exact (Bool.and_eq_true_iff.mp both).1

private theorem filterMap_escape?_milestones (events : List Event) :
    events.filterMap Event.escape? = (milestones events).filterMap Event.escape? := by
  rw [milestones, List.filterMap_filter]
  apply List.filterMap_congr
  intro event _member
  cases event with
  | _ => rfl

private theorem countP_isSkipped_eventsOf (settled : List (Target × Outcome)) :
    (eventsOf settled).countP Event.isSkipped + settled.countP (fun entry => entry.2.isWalked) =
      settled.length := by
  induction settled with
  | nil => rfl
  | cons entry settled ih =>
      obtain ⟨target, outcome⟩ := entry
      have split : eventsOf ((target, outcome) :: settled) =
          outcome.events target.func.name.name ++ eventsOf settled := rfl
      rw [split, List.countP_append, List.countP_cons, List.length_cons]
      cases outcome with
      | skipped =>
          change 1 + _ + (_ + 0) = _
          omega
      | clean =>
          change 0 + _ + (_ + 1) = _
          omega
      | reported diagnostic =>
          change 0 + _ + (_ + 1) = _
          omega

private theorem countP_isComplete_eventsOf (settled : List (Target × Outcome)) :
    (eventsOf settled).countP Event.isComplete = 0 := by
  rw [List.countP_eq_zero]
  intro event member
  obtain ⟨⟨target, outcome⟩, _settled, told⟩ := List.mem_flatMap.mp member
  cases outcome with
  | skipped =>
      cases List.mem_singleton.mp told
      exact Bool.false_ne_true
  | clean => cases told
  | reported diagnostic =>
      cases List.mem_singleton.mp told
      exact Bool.false_ne_true

/-- The function and the place of a diagnostic. -/
def Diagnostic.site (diagnostic : Diagnostic) : String × String :=
  (diagnostic.function, diagnostic.posn)

theorem filterMap_escape?_eventsOf {table : TypeTable} {targets : List Target}
    {settled : List (Target × Outcome)} (succeeded : targets.mapM (settle table) = .ok settled) :
    (eventsOf settled).filterMap Event.escape? =
      ((settled.map Prod.snd).filterMap Outcome.diagnostic?).map Diagnostic.site := by
  have each := Attempts.mapM_eq_ok_iff.mp succeeded
  clear succeeded
  induction each with
  | nil => rfl
  | @cons target entry targets settled first _ ih =>
      obtain ⟨outcome, looked, rfl⟩ := Attempts.map_eq_ok_iff.mp first
      have split : eventsOf ((target, outcome) :: settled) =
          outcome.events target.func.name.name ++ eventsOf settled := rfl
      rw [split, List.filterMap_append, ih, List.map_cons]
      cases outcome with
      | skipped => rfl
      | clean => rfl
      | reported diagnostic =>
          have named : diagnostic.function = target.func.name.name := function_of_outcomeOf looked
          simp only [Outcome.events, List.filterMap_cons, List.filterMap_nil, Event.escape?,
            Outcome.diagnostic?, List.map_cons, Diagnostic.site, named, List.cons_append,
            List.nil_append]

theorem workerCount_one (size : Nat) : workerCount 1 size = 1 := by
  unfold workerCount
  omega

theorem value_traceRun (package : Package) : (traceRun package).value = run 1 package := by
  have single : workerCount 1 (targetsOf package).length = 1 := workerCount_one _
  unfold traceRun run
  simp only [single, if_true, Traced.value_andThen]
  cases (checkTargets package.types {} (targetsOf package)).value with
  | error cause => rfl
  | ok batch => rfl

def opening (package : Package) : Event :=
  .analyzing package.path package.functionCount 1

theorem events_traceRun (package : Package) :
    (traceRun package).events =
      opening package :: (checkTargets package.types {} (targetsOf package)).events ++
        match run 1 package with
        | .ok report => [completion report]
        | .error _ => [] := by
  have started : opening package = .analyzing package.path (targetsOf package).length
      (workerCount 1 (targetsOf package).length) := by
    rw [opening, workerCount_one, length_targetsOf, functionCount_eq_length]
  rw [← value_traceRun, started]
  unfold traceRun
  simp only [Traced.events_andThen, Traced.value_andThen]
  cases (checkTargets package.types {} (targetsOf package)).value with
  | error cause => rfl
  | ok batch => rfl

/-- What the functions told before the run ended, and whether one of them ended it. -/
theorem exists_settled (package : Package) :
    (∃ settled, (targetsOf package).mapM (settle package.types) = .ok settled ∧
      run 1 package = .ok (reportOf package (settled.map Prod.snd)) ∧
      milestones (checkTargets package.types {} (targetsOf package)).events = eventsOf settled) ∨
    (∃ (before : List Target) (target : Target) (after : List Target), ∃ settled cause,
      targetsOf package = before ++ target :: after ∧
      before.mapM (settle package.types) = .ok settled ∧
      settle package.types target = .error cause ∧ run 1 package = .error cause ∧
      milestones (checkTargets package.types {} (targetsOf package)).events = eventsOf settled) := by
  have reported := map_assemble_settled package
  rw [← run_eq_reportOf 1] at reported
  cases tried : (targetsOf package).mapM (settle package.types) with
  | ok settled =>
      refine Or.inl ⟨settled, rfl, ?_, ?_⟩
      · rw [run_eq_reportOf, ← outcomes_settled, tried]
        rfl
      · have told := milestones_checkTargets_append {} [] tried
        rw [List.append_nil] at told
        exact told.trans (List.append_nil _)
  | error cause =>
      obtain ⟨before, target, after, split, earlier, failed⟩ := Attempts.mapM_eq_error_iff.mp tried
      have allBefore : ∃ settled, before.mapM (settle package.types) = .ok settled := by
        cases first : before.mapM (settle package.types) with
        | ok settled => exact ⟨settled, rfl⟩
        | error other =>
            obtain ⟨item, member, reason, itemFailed⟩ :=
              Attempts.exists_mapM_eq_error_iff.mp ⟨other, first⟩
            obtain ⟨value, succeeded⟩ := earlier item member
            cases itemFailed.symm.trans succeeded
      obtain ⟨settled, succeeded⟩ := allBefore
      refine Or.inr ⟨before, target, after, settled, cause, split, succeeded, failed, ?_, ?_⟩
      · rw [← reported, tried]
        rfl
      · rw [split, milestones_checkTargets_append {} (target :: after) succeeded,
          milestones_checkTargets_error _ after failed, List.append_nil]

/-- No function tells that the analysis is complete. -/
theorem isComplete_of_mem_checkTargets {package : Package} {event : Event}
    (member : event ∈ (checkTargets package.types {} (targetsOf package)).events) :
    event.isComplete = false := by
  have milestone : ∀ event : Event, event.isComplete = true → event.isMilestone = true := by
    intro event complete
    cases event with
    | complete => rfl
    | _ => cases complete
  have none : (checkTargets package.types {} (targetsOf package)).events.countP Event.isComplete = 0 := by
    rw [countP_milestones _ milestone]
    rcases exists_settled package with ⟨settled, _, _, told⟩ | ⟨_, _, _, settled, _, _, _, _, _, told⟩
    · rw [told, countP_isComplete_eventsOf]
    · rw [told, countP_isComplete_eventsOf]
  exact Bool.eq_false_iff.mpr (List.countP_eq_zero.mp none event member)

theorem filterMap_escape?_traceRun (package : Package) :
    (traceRun package).events.filterMap Event.escape? =
      (milestones (checkTargets package.types {} (targetsOf package)).events).filterMap
        Event.escape? := by
  rw [events_traceRun, List.filterMap_append, List.filterMap_cons, ← filterMap_escape?_milestones]
  cases run 1 package with
  | error cause => exact List.append_nil _
  | ok report => exact List.append_nil _

private theorem countP_isSkipped_traceRun {package : Package} {report : Report}
    (succeeded : run 1 package = .ok report) :
    (traceRun package).events.countP Event.isSkipped + candidateCount package =
      package.functionCount := by
  have milestone : ∀ event : Event, event.isSkipped = true → event.isMilestone = true := by
    intro event skipped
    cases event with
    | skipped => rfl
    | _ => cases skipped
  rcases exists_settled package with ⟨settled, allSettled, _, told⟩ | ⟨_, _, _, _, _, _, _, _, failed, _⟩
  · have counted := countP_isSkipped_eventsOf settled
    have walked : settled.countP (fun entry => entry.2.isWalked) = candidateCount package := by
      have outcomes := outcomes_settled package
      rw [allSettled] at outcomes
      rw [← countP_isWalked outcomes.symm, List.countP_map]
      rfl
    have size : settled.length = package.functionCount := by
      rw [(Attempts.mapM_eq_ok_iff.mp allSettled).length_eq.symm, length_targetsOf,
        functionCount_eq_length]
    have events : (traceRun package).events.countP Event.isSkipped =
        (eventsOf settled).countP Event.isSkipped := by
      rw [← told, ← countP_milestones _ milestone, events_traceRun, succeeded, List.countP_append,
        List.countP_cons]
      rfl
    omega
  · cases failed.symm.trans succeeded

private theorem counters_of_run {jobs : Nat} {package : Package} {report : Report}
    (succeeded : run jobs package = .ok report) :
    report.functionsAnalyzed = .ofNat package.functionCount ∧
      report.functionsChecked = .ofNat (candidateCount package) := by
  rw [run_eq_reportOf] at succeeded
  obtain ⟨outcomes, settled, rfl⟩ := Attempts.map_eq_ok_iff.mp succeeded
  rw [functionCount_eq_length, ← countP_isWalked settled]
  exact ⟨rfl, rfl⟩

/-- The milestones of a run fit its result. The counters of a report are words of 64 bits;
`skipped` and `skipped_word` say how many functions were passed over as a number and as such a word,
`skipped_counters` puts both together for functions that a word can count. -/
structure Coherent (package : Package) (told : Traced (Except Unprintable Report)) : Prop where
  starts : ∃ later, told.events = .analyzing package.path package.functionCount 1 :: later
  complete_iff : (∃ event ∈ told.events, event.isComplete = true) ↔
    ∃ report, told.value = .ok report
  ends : ∀ report, told.value = .ok report →
    ∃ earlier, told.events = earlier ++ [.complete report.package report.filesAnalyzed.toNat
        report.functionsAnalyzed.toNat report.functionsChecked.toNat report.diagnosticCount] ∧
      ∀ event ∈ earlier, event.isComplete = false
  skipped : ∀ report, told.value = .ok report →
    told.events.countP Event.isSkipped + candidateCount package = package.functionCount
  skipped_word : ∀ report, told.value = .ok report →
    .ofNat (told.events.countP Event.isSkipped) =
      report.functionsAnalyzed - report.functionsChecked
  skipped_counters : ∀ report, told.value = .ok report → package.functionCount < UInt64.size →
    told.events.countP Event.isSkipped =
      report.functionsAnalyzed.toNat - report.functionsChecked.toNat
  escapes : ∀ report, told.value = .ok report →
    told.events.filterMap Event.escape? =
      report.diagnostics.map (fun diagnostic => (diagnostic.function, diagnostic.posn))
  cut_short : ∀ cause, told.value = .error cause →
    ∃ before entry after found, package.functions = before ++ entry :: after ∧
      before.mapM (fun other => checkFunc package.types other.1 other.2) = .ok found ∧
      checkFunc package.types entry.1 entry.2 = .error cause ∧
      told.events.filterMap Event.escape? =
        (found.filterMap id).map (fun diagnostic => (diagnostic.function, diagnostic.posn))

/-- Found out in source order by the functions before the one that fails. -/
theorem escapes_before_failure {package : Package} {cause : Unprintable}
    (failed : run 1 package = .error cause) :
    ∃ (before : List (String × FuncDecl)) (entry : String × FuncDecl)
        (after : List (String × FuncDecl)) (found : List (Option Diagnostic)),
      package.functions = before ++ entry :: after ∧
      before.mapM (fun other => checkFunc package.types other.1 other.2) = .ok found ∧
      checkFunc package.types entry.1 entry.2 = .error cause ∧
      (traceRun package).events.filterMap Event.escape? =
        (found.filterMap id).map Diagnostic.site := by
  rcases exists_settled package with ⟨_, _, succeeded, _⟩ |
    ⟨before, target, after, settled, reason, split, succeeded, targetFailed, sameRun, told⟩
  · cases failed.symm.trans succeeded
  · cases failed.symm.trans sameRun
    refine ⟨before.map (fun target => (target.file, target.func)), (target.file, target.func),
      after.map (fun target => (target.file, target.func)),
      (settled.map Prod.snd).map Outcome.diagnostic?, ?_, ?_, ?_, ?_⟩
    · rw [← map_entry_targetsOf, split, List.map_append, List.map_cons]
    · rw [List.mapM_map, List.map_map]
      refine Attempts.mapM_eq_ok_iff.mpr ?_
      rw [List.forall₂_map_right_iff]
      refine (Attempts.mapM_eq_ok_iff.mp succeeded).imp ?_
      intro other entry settledOther
      obtain ⟨outcome, looked, rfl⟩ := Attempts.map_eq_ok_iff.mp settledOther
      exact Attempts.map_eq_ok_iff.mpr ⟨outcome, looked, rfl⟩
    · exact Attempts.map_eq_error_iff.mpr (Attempts.map_eq_error_iff.mp targetFailed)
    · rw [filterMap_escape?_traceRun, told, filterMap_escape?_eventsOf succeeded,
        List.filterMap_map (f := Outcome.diagnostic?) (g := id)]
      rfl

private theorem escapes_of_success {package : Package} {report : Report}
    (succeeded : run 1 package = .ok report) :
    (traceRun package).events.filterMap Event.escape? = report.diagnostics.map Diagnostic.site := by
  rcases exists_settled package with ⟨settled, allSettled, sameRun, told⟩ |
    ⟨_, _, _, _, _, _, _, _, failed, _⟩
  · cases succeeded.symm.trans sameRun
    rw [filterMap_escape?_traceRun, told, filterMap_escape?_eventsOf allSettled]
    rfl
  · cases failed.symm.trans succeeded

/-- A run with a single worker gives the result that a run gives, and what it tells fits this
result: it begins by naming the package with the number of its functions, ends with the counts of the
report exactly if it succeeds, tells of every function passed over, and names the function and place
of every diagnostic in order, up to the first function that fails. -/
theorem traceRun_coherent (package : Package) :
    (traceRun package).value = run 1 package ∧ Coherent package (traceRun package) := by
  refine ⟨value_traceRun package, ?_⟩
  have described := events_traceRun package
  have result := value_traceRun package
  refine ⟨⟨_, described⟩, ⟨?_, ?_⟩, ?_, ?_, ?_, ?_, ?_, ?_⟩
  · rintro ⟨event, member, complete⟩
    rw [described] at member
    rw [result]
    cases ended : run 1 package with
    | ok report => exact ⟨report, rfl⟩
    | error cause =>
        rw [ended, List.append_nil] at member
        rcases List.mem_cons.mp member with rfl | later
        · cases complete
        · rw [isComplete_of_mem_checkTargets later] at complete
          cases complete
  · rintro ⟨report, succeeded⟩
    rw [result] at succeeded
    refine ⟨completion report, ?_, rfl⟩
    rw [described, succeeded]
    exact List.mem_append_right _ List.mem_cons_self
  · intro report succeeded
    rw [result] at succeeded
    rw [succeeded] at described
    refine ⟨_, described, ?_⟩
    intro event member
    rcases List.mem_cons.mp member with rfl | later
    · rfl
    · exact isComplete_of_mem_checkTargets later
  · intro report succeeded
    exact countP_isSkipped_traceRun (result.symm.trans succeeded)
  · intro report succeeded
    rw [result] at succeeded
    obtain ⟨analyzed, checked⟩ := counters_of_run succeeded
    rw [analyzed, checked, ← countP_isSkipped_traceRun succeeded, UInt64.ofNat_add]
    exact (UInt64.add_sub_cancel _ _).symm
  · intro report succeeded bounded
    rw [result] at succeeded
    obtain ⟨analyzed, checked⟩ := counters_of_run succeeded
    have counted := countP_isSkipped_traceRun succeeded
    have candidates : candidateCount package < UInt64.size := by omega
    rw [analyzed, checked, UInt64.toNat_ofNat_of_lt' bounded, UInt64.toNat_ofNat_of_lt' candidates]
    omega
  · intro report succeeded
    exact escapes_of_success (result.symm.trans succeeded)
  · intro cause failed
    exact escapes_before_failure (result.symm.trans failed)

end ZeroError.Analysis
