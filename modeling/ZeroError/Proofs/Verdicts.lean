import ZeroError.Proofs.Walk
import ZeroError.Proofs.Workers

/-!
What a run says. A function without a body or without an error result is passed over; any other is
walked, and what escapes from it is an identifier, which can be reported unless it has no name. Main
statements: a report holds exactly the diagnostics of the functions in source order, with the counts
of what was looked at; a run fails exactly if an identifier without a name escapes from some function,
and the first such function names the failure.
-/

namespace ZeroError.Analysis

open ZeroError.Go

theorem outcomeOf_passed_over {table : TypeTable} {entry : String × FuncDecl}
    (passed : isCandidate table entry.2 = false) : outcomeOf table entry = .ok .skipped := by
  obtain ⟨file, func⟩ := entry
  unfold outcomeOf examine
  cases present : func.body with
  | none => rfl
  | some body =>
      have noError : returnsError table func.results = false := by
        simpa only [isCandidate, present, Option.isSome_some, Bool.true_and] using passed
      simp only [noError]
      rfl

theorem outcomeOf_walked {table : TypeTable} {entry : String × FuncDecl} {body : Block}
    (present : entry.2.body = some body) (error : returnsError table entry.2.results = true) :
    outcomeOf table entry =
      match checkBody table body with
      | none => .ok .clean
      | some returned =>
          (Diagnostic.ofReturned entry.1 entry.2.name.name returned).map .reported := by
  obtain ⟨file, func⟩ := entry
  simp only at present error
  unfold outcomeOf examine
  simp only [present, error, if_true, Traced.value_andThen]
  change (match checkBody table body with
    | none => Traced.quiet (Except.ok Outcome.clean)
    | some returned => _).value = _
  cases checkBody table body with
  | none => rfl
  | some returned =>
      simp only
      cases Diagnostic.ofReturned file func.name.name returned with
      | error cause => rfl
      | ok diagnostic => rfl

theorem isCandidate_iff {table : TypeTable} {func : FuncDecl} :
    isCandidate table func = true ↔
      ∃ body, func.body = some body ∧ returnsError table func.results = true := by
  rw [isCandidate, Bool.and_eq_true, Option.isSome_iff_exists, exists_and_right]

private theorem isWalked_of_outcomeOf {table : TypeTable} {entry : String × FuncDecl}
    {outcome : Outcome}
    (settled : outcomeOf table entry = .ok outcome) :
    outcome.isWalked = isCandidate table entry.2 := by
  cases candidate : isCandidate table entry.2 with
  | false =>
      rw [outcomeOf_passed_over candidate] at settled
      cases settled
      rfl
  | true =>
      obtain ⟨body, present, error⟩ := isCandidate_iff.mp candidate
      rw [outcomeOf_walked present error] at settled
      split at settled
      · cases settled
        rfl
      · obtain ⟨_, _, rfl⟩ := Attempts.map_eq_ok_iff.mp settled
        rfl

private theorem ofReturned_ident_eq_error_iff {file function : String} {ident : Ident}
    {cause : Unprintable} :
    Diagnostic.ofReturned file function (.ident ident) = .error cause ↔
      ident.name = "" ∧ cause = .emptyIdent ident.pos := by
  obtain ⟨name, pos⟩ := ident
  simp only [Diagnostic.ofReturned, Expr.render]
  by_cases empty : name = ""
  · subst empty
    constructor
    · intro failed
      cases failed
      exact ⟨rfl, rfl⟩
    · rintro ⟨_, rfl⟩
      rfl
  · have filled : name.isEmpty = false := by
      simpa using empty
    simp only [filled, empty, false_and, iff_false]
    intro failed
    cases failed

/-- The function is walked, and an identifier without a name escapes from it at the place. -/
def EscapesUnnamed (table : TypeTable) (func : FuncDecl) (pos : Pos) : Prop :=
  ∃ body, func.body = some body ∧ returnsError table func.results = true ∧
    checkBody table body = some (.ident ⟨"", pos⟩)

/-- Nothing but an escaping identifier without a name makes a function fail. -/
theorem outcomeOf_eq_error_iff {table : TypeTable} {entry : String × FuncDecl}
    {cause : Unprintable} :
    outcomeOf table entry = .error cause ↔
      ∃ pos, EscapesUnnamed table entry.2 pos ∧ cause = .emptyIdent pos := by
  constructor
  · intro failed
    cases candidate : isCandidate table entry.2 with
    | false =>
        rw [outcomeOf_passed_over candidate] at failed
        cases failed
    | true =>
        obtain ⟨body, present, error⟩ := isCandidate_iff.mp candidate
        rw [outcomeOf_walked present error] at failed
        split at failed
        · cases failed
        · rename_i returned escaped
          obtain ⟨⟨name, pos⟩, rfl⟩ := checkBody_ident escaped
          obtain ⟨unnamed, same⟩ :=
            ofReturned_ident_eq_error_iff.mp (Attempts.map_eq_error_iff.mp failed)
          simp only at unnamed same
          subst unnamed
          exact ⟨pos, ⟨body, present, error, escaped⟩, same⟩
  · rintro ⟨pos, ⟨body, present, error, escaped⟩, rfl⟩
    rw [outcomeOf_walked present error, escaped]
    exact Attempts.map_eq_error_iff.mpr (ofReturned_ident_eq_error_iff.mpr ⟨rfl, rfl⟩)

private theorem exists_outcomeOf_iff {table : TypeTable} {entry : String × FuncDecl} :
    (∃ outcome, outcomeOf table entry = .ok outcome) ↔
      ∀ pos, ¬EscapesUnnamed table entry.2 pos := by
  cases tried : outcomeOf table entry with
  | ok outcome =>
      refine ⟨fun _ pos escapes => ?_, fun _ => ⟨outcome, rfl⟩⟩
      cases tried.symm.trans (outcomeOf_eq_error_iff.mpr ⟨pos, escapes, rfl⟩)
  | error cause =>
      obtain ⟨pos, escapes, _⟩ := outcomeOf_eq_error_iff.mp tried
      refine ⟨fun impossible => ?_, fun never => False.elim (never pos escapes)⟩
      obtain ⟨_, same⟩ := impossible
      cases same

def candidateCount (package : Package) : Nat :=
  package.functions.countP (fun entry => isCandidate package.types entry.2)

theorem functionCount_eq_length (package : Package) :
    package.functionCount = package.functions.length := by
  rw [Package.functions, List.length_flatMap]
  simp only [List.length_map]
  rfl

theorem countP_isWalked {package : Package} {outcomes : List Outcome}
    (settled : package.functions.mapM (outcomeOf package.types) = .ok outcomes) :
    outcomes.countP Outcome.isWalked = candidateCount package := by
  have marks : outcomes.map Outcome.isWalked =
      package.functions.map (fun entry => isCandidate package.types entry.2) :=
    Attempts.map_eq_map_of_mapM_eq_ok settled (fun _ _ => isWalked_of_outcomeOf)
  have counted := congrArg (List.countP id) marks
  rw [List.countP_map, List.countP_map] at counted
  exact counted

private theorem length_diagnostics_le (outcomes : List Outcome) :
    (outcomes.filterMap Outcome.diagnostic?).length ≤ outcomes.countP Outcome.isWalked := by
  rw [List.length_filterMap_eq_countP]
  apply List.countP_mono_left
  intro outcome _member reported
  cases outcome with
  | skipped => cases reported
  | clean => cases reported
  | reported diagnostic => rfl

/-- The report says of the package exactly what looking at its functions one after another finds. The
counters are words of 64 bits, so their order is stated for functions that such a word can count;
`found_le` and `candidates_le` say the same of the counts themselves. -/
structure Describes (package : Package) (report : Report) : Prop where
  path : report.package = package.path
  diagnostics : ∃ found,
    package.functions.mapM (fun entry => checkFunc package.types entry.1 entry.2) = .ok found ∧
      report.diagnostics = found.filterMap id
  files : report.filesAnalyzed = .ofNat package.files.length
  functions : report.functionsAnalyzed = .ofNat package.functionCount
  checked : report.functionsChecked = .ofNat (candidateCount package)
  found_le : report.diagnosticCount ≤ candidateCount package
  candidates_le : candidateCount package ≤ package.functionCount
  counters_le : package.functionCount < UInt64.size →
    report.diagnosticCount ≤ report.functionsChecked.toNat ∧
      report.functionsChecked.toNat ≤ report.functionsAnalyzed.toNat

/-- A run that succeeds reports the diagnostics of all functions in source order, none lost, repeated
or moved, and counts the files, the functions and the candidates among them. -/
theorem run_describes {jobs : Nat} {package : Package} {report : Report}
    (succeeded : run jobs package = .ok report) : Describes package report := by
  rw [run_eq_reportOf] at succeeded
  obtain ⟨outcomes, settled, rfl⟩ := Attempts.map_eq_ok_iff.mp succeeded
  have walked := countP_isWalked settled
  have found := length_diagnostics_le outcomes
  rw [walked] at found
  have candidates : candidateCount package ≤ package.functionCount := by
    rw [functionCount_eq_length]
    exact List.countP_le_length
  have checked : (reportOf package outcomes).functionsChecked = .ofNat (candidateCount package) :=
    congrArg UInt64.ofNat walked
  have functions : (reportOf package outcomes).functionsAnalyzed = .ofNat package.functionCount :=
    congrArg UInt64.ofNat (functionCount_eq_length package).symm
  refine ⟨rfl, ⟨outcomes.map Outcome.diagnostic?, ?_, ?_⟩, rfl, functions, checked, found, candidates,
    ?_⟩
  · exact (Attempts.mapM_map_value (outcomeOf package.types) Outcome.diagnostic? _).trans
      (congrArg (Except.map _) settled)
  · rw [List.filterMap_map]
    rfl
  · intro bounded
    rw [checked, functions, UInt64.toNat_ofNat_of_lt' bounded,
      UInt64.toNat_ofNat_of_lt' (Nat.lt_of_le_of_lt candidates bounded)]
    exact ⟨found, candidates⟩

def leaking (function returned : String) (line : UInt32) : FuncDecl where
  name := ⟨function, {}⟩
  recv := none
  params := []
  results := [⟨[], ⟨.ident ⟨"error", {}⟩, ⟨1⟩⟩⟩]
  body := some
    ⟨[.decl ⟨.var, [.value ⟨[⟨returned, {}⟩], some ⟨.bad {}, ⟨3⟩⟩, []⟩], {}⟩,
      .ret [.ident ⟨returned, { line := line, column := 9 }⟩] {}], {}⟩

/-- A package of two files with the given functions in the second and one without a body in the
first. The type with number 3 is a pointer to a type of errors. -/
def samplePackage (functions : List FuncDecl) : Package where
  path := "example.com/a"
  types := ⟨[.basic "string", .named none "error" none [],
    .named (some "a") "Fault" none [{ name := "Error", results := [⟨0⟩] }], .pointer ⟨2⟩]⟩
  files := [⟨"a.go", [{ leaking "external" "fault" 3 with body := none }]⟩, ⟨"b.go", functions⟩]

def sampleReport (lines : List (String × UInt32)) : Report where
  package := "example.com/a"
  diagnostics := lines.map (fun entry =>
    { analyzer := analyzerName, file := "b.go", line := entry.2, column := 9, offset := 0,
      function := entry.1, rendered := "fault", message := messageFor "fault" })
  filesAnalyzed := 2
  functionsAnalyzed := 3
  functionsChecked := 2

theorem run_describes_two_leaks :
    run 2 (samplePackage [leaking "first" "fault" 7, leaking "second" "fault" 12]) =
        .ok (sampleReport [("first", 7), ("second", 12)]) ∧
      Describes (samplePackage [leaking "first" "fault" 7, leaking "second" "fault" 12])
        (sampleReport [("first", 7), ("second", 12)]) := by
  have succeeded : run 2 (samplePackage [leaking "first" "fault" 7, leaking "second" "fault" 12]) =
      .ok (sampleReport [("first", 7), ("second", 12)]) := by
    rw [run_eq_reportOf]
    decide +kernel
  exact ⟨succeeded, run_describes succeeded⟩

theorem run_eq_error_iff {jobs : Nat} {package : Package} {cause : Unprintable} :
    run jobs package = .error cause ↔
      ∃ before entry after, package.functions = before ++ entry :: after ∧
        (∀ other ∈ before, ∃ outcome, outcomeOf package.types other = .ok outcome) ∧
        outcomeOf package.types entry = .error cause := by
  rw [run_eq_reportOf, Attempts.map_eq_error_iff, Attempts.mapM_eq_error_iff]

/-- A run fails exactly if an identifier without a name escapes from some function. The failure is
that of the first such function in source order and names the place of the identifier; no other cause
is possible. -/
theorem run_fails_iff_escapesUnnamed (jobs : Nat) (package : Package) :
    ((∃ cause, run jobs package = .error cause) ↔
      ∃ entry ∈ package.functions, ∃ pos, EscapesUnnamed package.types entry.2 pos) ∧
    (∀ cause, run jobs package = .error cause ↔
      ∃ before entry after pos, package.functions = before ++ entry :: after ∧
        (∀ other ∈ before, ∀ place, ¬EscapesUnnamed package.types other.2 place) ∧
        EscapesUnnamed package.types entry.2 pos ∧ cause = .emptyIdent pos ∧
        cause.message = "empty identifier at " ++
          (toString pos.line.toNat ++ ":" ++ toString pos.column.toNat)) ∧
    ∀ cause, run jobs package = .error cause →
      cause ≠ .notIdent ∧ ∀ pos, cause ≠ .badExpr pos := by
  refine ⟨?_, fun cause => ?_, fun cause failed => ?_⟩
  · have attempts : (∃ cause, run jobs package = .error cause) ↔
        ∃ cause, package.functions.mapM (outcomeOf package.types) = .error cause := by
      simp only [run_eq_reportOf, Attempts.map_eq_error_iff]
    rw [attempts, Attempts.exists_mapM_eq_error_iff]
    constructor
    · intro ⟨entry, member, cause, failed⟩
      obtain ⟨pos, escapes, _⟩ := outcomeOf_eq_error_iff.mp failed
      exact ⟨entry, member, pos, escapes⟩
    · intro ⟨entry, member, pos, escapes⟩
      exact ⟨entry, member, .emptyIdent pos, outcomeOf_eq_error_iff.mpr ⟨pos, escapes, rfl⟩⟩
  · rw [run_eq_error_iff]
    constructor
    · intro ⟨before, entry, after, split, earlier, failed⟩
      obtain ⟨pos, escapes, rfl⟩ := outcomeOf_eq_error_iff.mp failed
      exact ⟨before, entry, after, pos, split,
        fun other member => exists_outcomeOf_iff.mp (earlier other member), escapes, rfl, rfl⟩
    · rintro ⟨before, entry, after, pos, split, earlier, escapes, rfl, _⟩
      exact ⟨before, entry, after, split,
        fun other member => exists_outcomeOf_iff.mpr (earlier other member),
        outcomeOf_eq_error_iff.mpr ⟨pos, escapes, rfl⟩⟩
  · obtain ⟨_, entry, _, _, _, entryFailed⟩ := run_eq_error_iff.mp failed
    obtain ⟨pos, _, rfl⟩ := outcomeOf_eq_error_iff.mp entryFailed
    exact ⟨by simp, by simp⟩

end ZeroError.Analysis
