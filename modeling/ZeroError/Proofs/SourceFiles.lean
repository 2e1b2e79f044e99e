import ZeroError.Proofs.Verdicts

/-!
A run and the files of its package. Main statements: the run over files put together is made of the
runs over the parts, whatever the grouping; and leaving out files takes their diagnostics out of the
report and changes nothing else.
-/

namespace ZeroError.Go.Package

theorem functions_append (path : String) (table : TypeTable) (first second : List SourceFile) :
    functions ⟨path, table, first ++ second⟩ =
      functions ⟨path, table, first⟩ ++ functions ⟨path, table, second⟩ :=
  List.flatMap_append

theorem functions_retainFiles (package : Package) (keep : String → Bool) :
    (package.retainFiles keep).functions =
      package.functions.filter (fun entry => keep entry.1) := by
  obtain ⟨path, table, files⟩ := package
  unfold retainFiles functions
  simp only
  induction files with
  | nil => rfl
  | cons file files ih =>
      rw [List.filter_cons, List.flatMap_cons, List.filter_append, ← ih, List.filter_map]
      simp only [Function.comp_def]
      cases keep file.path with
      | true => rw [List.filter_true, if_pos rfl, List.flatMap_cons]
      | false => rw [List.filter_false, if_neg Bool.false_ne_true, List.map_nil, List.nil_append]

theorem retainFiles_retainFiles (package : Package) (first second : String → Bool) :
    (package.retainFiles first).retainFiles second =
      package.retainFiles (fun path => second path && first path) := by
  unfold retainFiles
  rw [List.filter_filter]

end ZeroError.Go.Package

namespace ZeroError.Analysis

open ZeroError.Go

/-- Two runs put together: the failure of the first, else that of the second, else both reports in
one. -/
def mergeRuns : Except Unprintable Report → Except Unprintable Report → Except Unprintable Report
  | .error cause, _ => .error cause
  | .ok _, .error cause => .error cause
  | .ok first, .ok second => .ok (first.merge second)

/-- A list of files cut into consecutive parts that are grouped in some way. -/
inductive Grouping
  | part (files : List SourceFile)
  | join (first second : Grouping)

namespace Grouping

def files : Grouping → List SourceFile
  | part files => files
  | join first second => first.files ++ second.files

/-- The runs over the parts, put together as the parts are grouped. -/
def merged (runOver : List SourceFile → Except Unprintable Report) :
    Grouping → Except Unprintable Report
  | part files => runOver files
  | join first second => mergeRuns (first.merged runOver) (second.merged runOver)

end Grouping

private theorem reportOf_append (path : String) (table : TypeTable) (first second : List SourceFile)
    (firstOutcomes secondOutcomes : List Outcome) :
    reportOf ⟨path, table, first ++ second⟩ (firstOutcomes ++ secondOutcomes) =
      (reportOf ⟨path, table, first⟩ firstOutcomes).merge
        (reportOf ⟨path, table, second⟩ secondOutcomes) := by
  simp only [reportOf, Report.merge, Package.functions_append, List.filterMap_append,
    List.length_append, List.countP_append, UInt64.ofNat_add]

private theorem run_eq_mergeRuns (jobs : Nat) (path : String) (table : TypeTable)
    (first second : List SourceFile) :
    run jobs ⟨path, table, first ++ second⟩ =
      mergeRuns (run jobs ⟨path, table, first⟩) (run jobs ⟨path, table, second⟩) := by
  simp only [run_eq_reportOf, Package.functions_append, List.mapM_append]
  cases (Package.functions ⟨path, table, first⟩).mapM (outcomeOf table) with
  | error cause => rfl
  | ok firstOutcomes =>
      cases (Package.functions ⟨path, table, second⟩).mapM (outcomeOf table) with
      | error cause => rfl
      | ok secondOutcomes =>
          exact congrArg Except.ok
            (reportOf_append path table first second firstOutcomes secondOutcomes)

/-- Running is a homomorphism from lists of files to reports: no files give the empty report, and files
put together give the failure of the first part, else that of the second, else both reports in one. So
the runs over consecutive parts give the run over the whole, in whatever way the parts are grouped. -/
theorem run_append (jobs : Nat) (path : String) (table : TypeTable) :
    run jobs ⟨path, table, []⟩ = .ok { package := path } ∧
    (∀ first second : List SourceFile,
      run jobs ⟨path, table, first ++ second⟩ =
        mergeRuns (run jobs ⟨path, table, first⟩) (run jobs ⟨path, table, second⟩)) ∧
    ∀ grouping : Grouping,
      run jobs ⟨path, table, grouping.files⟩ =
        grouping.merged (fun files => run jobs ⟨path, table, files⟩) := by
  refine ⟨?_, run_eq_mergeRuns jobs path table, ?_⟩
  · rw [run_eq_reportOf]
    rfl
  · intro grouping
    induction grouping with
    | part files => rfl
    | join first second firstRun secondRun =>
        rw [Grouping.files, run_eq_mergeRuns, firstRun, secondRun, Grouping.merged]

theorem file_ofReturned {file function : String} {returned : Expr} {diagnostic : Diagnostic}
    (made : Diagnostic.ofReturned file function returned = .ok diagnostic) :
    diagnostic.file = file := by
  cases returned with
  | ident ident =>
      obtain ⟨rendered, _, same⟩ := Attempts.bind_eq_ok_iff.mp made
      cases same
      rfl
  | _ => cases made

theorem exists_ofReturned_of_outcomeOf {table : TypeTable} {entry : String × FuncDecl}
    {outcome : Outcome} {diagnostic : Diagnostic} (settled : outcomeOf table entry = .ok outcome)
    (reported : outcome.diagnostic? = some diagnostic) :
    ∃ returned, Diagnostic.ofReturned entry.1 entry.2.name.name returned = .ok diagnostic := by
  cases candidate : isCandidate table entry.2 with
  | false =>
      rw [outcomeOf_passed_over candidate] at settled
      cases settled
      cases reported
  | true =>
      obtain ⟨body, present, error⟩ := isCandidate_iff.mp candidate
      rw [outcomeOf_walked present error] at settled
      split at settled
      · cases settled
        cases reported
      · obtain ⟨made, ofReturned, rfl⟩ := Attempts.map_eq_ok_iff.mp settled
        cases reported
        exact ⟨_, ofReturned⟩

/-- A diagnostic names the file of its function. -/
theorem file_of_outcomeOf {table : TypeTable} {entry : String × FuncDecl} {outcome : Outcome}
    {diagnostic : Diagnostic} (settled : outcomeOf table entry = .ok outcome)
    (reported : outcome.diagnostic? = some diagnostic) : diagnostic.file = entry.1 := by
  obtain ⟨returned, made⟩ := exists_ofReturned_of_outcomeOf settled reported
  exact file_ofReturned made

/-- The functions of the kept files settle as they did before, and their diagnostics are those that
name a kept file. -/
theorem exists_outcomes_of_kept {table : TypeTable} {functions : List (String × FuncDecl)}
    {outcomes : List Outcome} (keep : String → Bool)
    (settled : functions.mapM (outcomeOf table) = .ok outcomes) :
    ∃ kept, (functions.filter (fun entry => keep entry.1)).mapM (outcomeOf table) = .ok kept ∧
      kept.filterMap Outcome.diagnostic? =
        (outcomes.filterMap Outcome.diagnostic?).filter (fun diagnostic => keep diagnostic.file) := by
  have each := Attempts.mapM_eq_ok_iff.mp settled
  clear settled
  induction each with
  | nil => exact ⟨[], rfl, rfl⟩
  | @cons entry outcome functions outcomes first _ ih =>
      obtain ⟨kept, rest, diagnostics⟩ := ih
      by_cases keeps : keep entry.1 = true
      · refine ⟨outcome :: kept, ?_, ?_⟩
        · have filtered : (entry :: functions).filter (fun entry => keep entry.1) =
              entry :: functions.filter (fun entry => keep entry.1) :=
            List.filter_cons_of_pos keeps
          rw [filtered, Attempts.mapM_cons_of_ok first, rest]
          rfl
        · rw [List.filterMap_cons, List.filterMap_cons]
          cases reported : outcome.diagnostic? with
          | none => exact diagnostics
          | some diagnostic =>
              rw [← file_of_outcomeOf first reported] at keeps
              dsimp only
              rw [List.filter_cons, if_pos keeps, diagnostics]
      · refine ⟨kept, ?_, ?_⟩
        · have filtered : (entry :: functions).filter (fun entry => keep entry.1) =
              functions.filter (fun entry => keep entry.1) :=
            List.filter_cons_of_neg keeps
          rw [filtered, rest]
        · rw [List.filterMap_cons]
          cases reported : outcome.diagnostic? with
          | none => exact diagnostics
          | some diagnostic =>
              rw [← file_of_outcomeOf first reported] at keeps
              dsimp only
              rw [List.filter_cons, if_neg keeps, diagnostics]

/-- What the report on the kept files of a package has to do with the report on all files. -/
structure KeepsFiles (package : Package) (keep : String → Bool) (whole kept : Report) : Prop where
  path : kept.package = whole.package
  diagnostics : kept.diagnostics = whole.diagnostics.filter (fun diagnostic => keep diagnostic.file)
  files : kept.filesAnalyzed = .ofNat (package.files.countP (fun file => keep file.path))
  functions : kept.functionsAnalyzed = .ofNat (package.functions.countP (fun entry => keep entry.1))
  checked : kept.functionsChecked =
    .ofNat (package.functions.countP (fun entry => isCandidate package.types entry.2 && keep entry.1))

theorem exists_run_retainFiles {jobs : Nat} {package : Package} {whole : Report}
    (keep : String → Bool) (succeeded : run jobs package = .ok whole) :
    ∃ kept, run jobs (package.retainFiles keep) = .ok kept ∧
      KeepsFiles package keep whole kept := by
  rw [run_eq_reportOf] at succeeded
  obtain ⟨outcomes, settled, rfl⟩ := Attempts.map_eq_ok_iff.mp succeeded
  obtain ⟨kept, keptSettled, diagnostics⟩ := exists_outcomes_of_kept keep settled
  have settledAgain : (package.retainFiles keep).functions.mapM
      (outcomeOf (package.retainFiles keep).types) = .ok kept := by
    rw [Package.functions_retainFiles]
    exact keptSettled
  refine ⟨reportOf (package.retainFiles keep) kept, ?_, rfl, diagnostics, ?_, ?_, ?_⟩
  · rw [run_eq_reportOf]
    exact congrArg (Except.map _) settledAgain
  · exact congrArg UInt64.ofNat List.countP_eq_length_filter.symm
  · have counted : (package.retainFiles keep).functions.length =
        package.functions.countP (fun entry => keep entry.1) := by
      rw [Package.functions_retainFiles, List.countP_eq_length_filter]
    exact congrArg UInt64.ofNat counted
  · have counted : kept.countP Outcome.isWalked =
        package.functions.countP
          (fun entry => isCandidate package.types entry.2 && keep entry.1) := by
      rw [countP_isWalked settledAgain, candidateCount, Package.functions_retainFiles,
        List.countP_filter]
      rfl
    exact congrArg UInt64.ofNat counted

end ZeroError.Analysis

namespace ZeroError

open Files

theorem Document.Source.ofText_eq_of_chars (text : String) {cs : List Char}
    (chars : text.toList = cs) :
    Source.ofText text =
      match scanValue (2 * cs.length + 2) cs with
      | (tree, none) => ⟨tree, false⟩
      | (tree, some rest) => ⟨tree, !(dropBlanks rest).isEmpty⟩ := by
  rw [← chars]
  rfl

private theorem loadPackage_of_readText {working : Entry} {path text : String}
    (found : readText working path = .ok text) :
    loadPackage working path = (Go.Package.ofText text).mapError .document := by
  unfold loadPackage
  rw [found]
  rfl

end ZeroError

namespace ZeroError.Checker

open Analysis Files Glob

/-- The same checker with more patterns of files to leave out. -/
def excluding (checker : Checker) (extra : List Pattern) : Checker :=
  { checker with exclude := checker.exclude ++ extra }

private theorem isExcluded_excluding (checker : Checker) (extra : List Pattern) (file : String) :
    (checker.excluding extra).isExcluded file =
      (checker.isExcluded file || extra.any (fun pattern => pattern.isMatch file)) :=
  List.any_append

private theorem retainFiles_excluding (checker : Checker) (extra : List Pattern)
    (package : Go.Package) :
    package.retainFiles (fun file => !(checker.excluding extra).isExcluded file) =
      (package.retainFiles (fun file => !checker.isExcluded file)).retainFiles
        (fun file => !extra.any (fun pattern => pattern.isMatch file)) := by
  rw [Go.Package.retainFiles_retainFiles]
  congr 1
  funext file
  rw [isExcluded_excluding, Bool.not_or, Bool.and_comm]

private theorem checkDocument_eq_ok_iff {checker : Checker} {working : Entry} {path : String}
    {report : Report} :
    checker.checkDocument working path = .ok report ↔
      ∃ package, loadPackage working path = .ok package ∧
        run checker.jobs (package.retainFiles (fun file => !checker.isExcluded file)) =
          .ok report := by
  unfold checkDocument checkPackage
  rw [Attempts.bind_eq_ok_iff]
  simp only [Attempts.mapError_eq_ok_iff]

private theorem exists_checkDocument_excluding {checker : Checker} {working : Entry} {path : String}
    {whole : Report} (extra : List Pattern)
    (succeeded : checker.checkDocument working path = .ok whole) :
    ∃ kept, (checker.excluding extra).checkDocument working path = .ok kept ∧
      kept.package = whole.package ∧
      kept.diagnostics = whole.diagnostics.filter
        (fun diagnostic => !extra.any (fun pattern => pattern.isMatch diagnostic.file)) := by
  obtain ⟨package, loaded, ran⟩ := checkDocument_eq_ok_iff.mp succeeded
  obtain ⟨kept, ranAgain, keeps⟩ := exists_run_retainFiles
    (fun file => !extra.any (fun pattern => pattern.isMatch file)) ran
  refine ⟨kept, checkDocument_eq_ok_iff.mpr ⟨package, loaded, ?_⟩, keeps.path, keeps.diagnostics⟩
  rw [retainFiles_excluding]
  exact ranAgain

end ZeroError.Checker

namespace ZeroError.Analysis

open ZeroError.Go

/-- Leaving out files is filtering. If the run over a package succeeds, so does the run over some of
its files, with the diagnostics that name one of these files, in their order, and with the counts of
these files and their functions. So more patterns of files to leave out never make a check of a
document fail, and never add, move or change a diagnostic. -/
theorem run_retainFiles :
    (∀ (jobs : Nat) (package : Package) (keep : String → Bool) (whole : Report),
      run jobs package = .ok whole →
        ∃ kept, run jobs (package.retainFiles keep) = .ok kept ∧
          KeepsFiles package keep whole kept) ∧
    ∀ (checker : Checker) (extra : List Glob.Pattern) (working : Files.Entry) (path : String)
      (whole : Report), checker.checkDocument working path = .ok whole →
        ∃ kept, (checker.excluding extra).checkDocument working path = .ok kept ∧
          kept.package = whole.package ∧
          kept.diagnostics = whole.diagnostics.filter
            (fun diagnostic => !extra.any (fun pattern => pattern.isMatch diagnostic.file)) ∧
          kept.diagnostics.Sublist whole.diagnostics := by
  constructor
  · intro jobs package keep whole succeeded
    exact exists_run_retainFiles keep succeeded
  · intro checker extra working path whole succeeded
    obtain ⟨kept, checked, samePath, filtered⟩ :=
      Checker.exists_checkDocument_excluding extra succeeded
    refine ⟨kept, checked, samePath, filtered, ?_⟩
    rw [filtered]
    exact List.filter_sublist

def leakIn (file function returned : String) (line column : UInt32) : Diagnostic where
  analyzer := analyzerName
  file := file
  line := line
  column := column
  offset := 0
  function := function
  rendered := returned
  message := messageFor returned

/-- A package with a leak in each of three files, of which two have the same path. -/
def spreadPackage : Package :=
  { samplePackage [] with
    files := [⟨"a.go", [leaking "first" "fault" 3]⟩, ⟨"b.go", [leaking "second" "fault" 7]⟩,
      ⟨"a.go", [leaking "third" "fault" 12]⟩] }

def spreadReport : Report where
  package := "example.com/a"
  diagnostics := [leakIn "a.go" "first" "fault" 3 9, leakIn "b.go" "second" "fault" 7 9,
    leakIn "a.go" "third" "fault" 12 9]
  filesAnalyzed := 3
  functionsAnalyzed := 3
  functionsChecked := 3

/-- A document with a leak in each of two files. -/
def leakingText : String := r#"["p",
  [["basic","string"],["named",null,"error"],["named",null,"E",null,[["Error",false,[],[0]]]]],
  [["a.go",[[["f"],null,[],[[[],[["bad"],1]]],
    [[["decl","var",[["value",[["e"]],[["bad"],2],[]]]],["return",[["ident","e"]]]]]]]],
   ["b.go",[[["g"],null,[],[[[],[["bad"],1]]],
    [[["decl","var",[["value",[["e"]],[["bad"],2],[]]]],["return",[["ident","e"]]]]]]]]]]"#

def leakingReport : Report where
  package := "p"
  diagnostics := [leakIn "a.go" "f" "e" 0 0, leakIn "b.go" "g" "e" 0 0]
  filesAnalyzed := 2
  functionsAnalyzed := 2
  functionsChecked := 2

set_option maxRecDepth 8000 in
theorem checkDocument_leaking {working : Files.Entry} {path : String}
    (found : Files.readText working path = .ok leakingText) :
    Checker.checkDocument ⟨1, []⟩ working path = .ok leakingReport := by
  rw [Checker.checkDocument, loadPackage_of_readText found, Package.ofText,
    Document.Source.ofText_eq_of_chars leakingText String.toList_ofList]
  simp only [Checker.checkPackage, run_eq_reportOf]
  decide +kernel

theorem run_retainFiles_leaking :
    (run 2 spreadPackage = .ok spreadReport ∧
      ∃ kept, run 2 (spreadPackage.retainFiles (fun path => path == "a.go")) = .ok kept ∧
        KeepsFiles spreadPackage (fun path => path == "a.go") spreadReport kept) ∧
    Checker.checkDocument ⟨1, []⟩ (.directory [("p.json", .file (some leakingText))]) "p.json" =
      .ok leakingReport ∧
    ∃ kept, (Checker.excluding ⟨1, []⟩ [⟨[.char 'a', .anyRun]⟩]).checkDocument
        (.directory [("p.json", .file (some leakingText))]) "p.json" = .ok kept ∧
      kept.diagnostics = [leakIn "b.go" "g" "e" 0 0] := by
  have whole : run 2 spreadPackage = .ok spreadReport := by
    rw [run_eq_reportOf]
    decide +kernel
  have document : Checker.checkDocument ⟨1, []⟩
      (.directory [("p.json", .file (some leakingText))]) "p.json" = .ok leakingReport :=
    checkDocument_leaking rfl
  obtain ⟨kept, checked, _, diagnostics, _⟩ :=
    run_retainFiles.2 ⟨1, []⟩ [⟨[.char 'a', .anyRun]⟩] _ _ _ document
  refine ⟨⟨whole, run_retainFiles.1 2 spreadPackage _ spreadReport whole⟩, document, kept, checked, ?_⟩
  rw [diagnostics]
  decide +kernel

end ZeroError.Analysis
