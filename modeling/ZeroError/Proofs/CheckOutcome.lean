import Mathlib.Tactic.TFAE
import ZeroError.Proofs.SourceFiles

/-!
A check is all or nothing. The first thing that goes wrong, in the order workers, patterns to
exclude, discovery and documents, is all that is told, even if documents before it have diagnostics.
If nothing goes wrong, each document has its report, the reports are printed in the format that is
asked for with a summary beside them, and the exit code, the summary and both formats of the output
tell alike whether anything was reported.
-/

namespace ZeroError

open Analysis Files Glob

namespace Settings

theorem workers_eq_ok_iff {settings : Settings} {jobs : Nat} :
    settings.workers = .ok jobs ↔
      settings.jobs.toNat ≤ maxJobs ∧ settings.jobs.toNat = jobs := by
  unfold workers checkedJobs
  rw [Attempts.mapError_eq_ok_iff]
  split
  · rename_i tooMany
    constructor
    · intro impossible
      cases impossible
    · intro ⟨inRange, _⟩
      exact absurd inRange (Nat.not_le_of_lt tooMany)
  · rename_i inRange
    rw [Except.ok.injEq]
    exact ⟨fun same => ⟨Nat.le_of_not_lt inRange, same⟩, fun same => same.2⟩

private theorem workers_eq_error_iff {settings : Settings} {failure : CheckFailure} :
    settings.workers = .error failure ↔
      maxJobs < settings.jobs.toNat ∧
        failure = .analysis (.tooManyJobs settings.jobs.toNat) := by
  unfold workers checkedJobs
  rw [Attempts.mapError_eq_error_iff]
  split
  · rename_i tooMany
    simp only [Except.error.injEq, exists_eq_left', tooMany, true_and]
    exact eq_comm
  · rename_i inRange
    simp only [reduceCtorEq, false_and, exists_false, inRange]

private theorem excludePatterns_eq_ok_iff {settings : Settings} {patterns : List Pattern} :
    settings.excludePatterns = .ok patterns ↔
      List.Forall₂ (fun text pattern => Pattern.ofText text = .ok pattern)
        settings.exclude patterns := by
  unfold excludePatterns
  rw [Attempts.mapM_eq_ok_iff]
  simp only [Attempts.mapError_eq_ok_iff]

private theorem excludePatterns_eq_error_iff {settings : Settings} {failure : CheckFailure} :
    settings.excludePatterns = .error failure ↔
      ∃ before text after, settings.exclude = before ++ text :: after ∧
        (∀ other ∈ before, ∃ pattern, Pattern.ofText other = .ok pattern) ∧
        ∃ fault, Pattern.ofText text = .error fault ∧
          CheckFailure.badExclude text fault = failure := by
  unfold excludePatterns
  rw [Attempts.mapM_eq_error_iff]
  simp only [Attempts.mapError_eq_ok_iff, Attempts.mapError_eq_error_iff]

/-- The settings allow this checker: no more workers are asked for than there may be, and all
patterns are valid. -/
structure Builds (settings : Settings) (cores : Nat) (checker : Checker) : Prop where
  inRange : settings.jobs.toNat ≤ maxJobs
  jobs : checker.jobs = effectiveJobs cores settings.jobs.toNat
  exclude : List.Forall₂ (fun text pattern => Pattern.ofText text = .ok pattern)
    settings.exclude checker.exclude

end Settings

namespace Checker

theorem ofSettings_eq_ok_iff {cores : Nat} {settings : Settings} {checker : Checker} :
    ofSettings cores settings = .ok checker ↔ settings.Builds cores checker := by
  unfold ofSettings
  simp only [Attempts.bind_eq_ok_iff, Settings.workers_eq_ok_iff,
    Settings.excludePatterns_eq_ok_iff]
  constructor
  · rintro ⟨_, ⟨inRange, rfl⟩, patterns, compiled, same⟩
    cases same
    exact ⟨inRange, rfl, compiled⟩
  · intro ⟨inRange, jobs, compiled⟩
    refine ⟨_, ⟨inRange, rfl⟩, checker.exclude, compiled, ?_⟩
    rw [← jobs]
    rfl

private theorem ofSettings_eq_error_iff {cores : Nat} {settings : Settings}
    {failure : CheckFailure} :
    ofSettings cores settings = .error failure ↔
      (maxJobs < settings.jobs.toNat ∧
        failure = .analysis (.tooManyJobs settings.jobs.toNat)) ∨
      settings.jobs.toNat ≤ maxJobs ∧
        ∃ before text after, settings.exclude = before ++ text :: after ∧
          (∀ other ∈ before, ∃ pattern, Pattern.ofText other = .ok pattern) ∧
          ∃ fault, Pattern.ofText text = .error fault ∧
            CheckFailure.badExclude text fault = failure := by
  unfold ofSettings
  simp only [Attempts.bind_eq_error_iff, Settings.workers_eq_error_iff,
    Settings.workers_eq_ok_iff, Settings.excludePatterns_eq_error_iff]
  refine or_congr_right ⟨?_, ?_⟩
  · rintro ⟨jobs, ⟨inRange, _⟩, bad | ⟨patterns, _, impossible⟩⟩
    · exact ⟨inRange, bad⟩
    · cases impossible
  · intro ⟨inRange, bad⟩
    exact ⟨_, ⟨inRange, rfl⟩, .inl bad⟩

theorem checkAll_eq_ok_iff {checker : Checker} {working : Entry} {paths : List String}
    {reports : List Report} :
    checker.checkAll working paths = .ok reports ↔
      ∃ documents, discover working paths = .ok documents ∧
        List.Forall₂ (fun path report => checker.checkDocument working path = .ok report)
          documents reports := by
  unfold checkAll
  simp only [Attempts.bind_eq_ok_iff, Attempts.mapM_eq_ok_iff, Attempts.mapError_eq_ok_iff]

private theorem checkAll_eq_error_iff {checker : Checker} {working : Entry} {paths : List String}
    {failure : CheckFailure} :
    checker.checkAll working paths = .error failure ↔
      (∃ missed, discover working paths = .error missed ∧ CheckFailure.search missed = failure) ∨
      ∃ documents, discover working paths = .ok documents ∧
        ∃ before path after, documents = before ++ path :: after ∧
          (∀ other ∈ before, ∃ report, checker.checkDocument working other = .ok report) ∧
          ∃ cause, checker.checkDocument working path = .error cause ∧
            CheckFailure.analysis cause = failure := by
  unfold checkAll
  simp only [Attempts.bind_eq_error_iff, Attempts.mapM_eq_error_iff, Attempts.mapError_eq_ok_iff,
    Attempts.mapError_eq_error_iff]

end Checker

/-- The first thing that goes wrong in a check. Each stage is reached only if those before it
succeed, and so is each pattern and each document. -/
inductive FirstFailure (surroundings : Surroundings) (settings : Settings) (paths : List String) :
    CheckFailure → Prop
  | workers (tooMany : maxJobs < settings.jobs.toNat) :
      FirstFailure surroundings settings paths
        (.analysis (.tooManyJobs settings.jobs.toNat))
  | pattern {before after : List String} {text : String} {fault : Glob.Fault}
      (inRange : settings.jobs.toNat ≤ maxJobs)
      (split : settings.exclude = before ++ text :: after)
      (earlier : ∀ other ∈ before, ∃ pattern, Pattern.ofText other = .ok pattern)
      (bad : Pattern.ofText text = .error fault) :
      FirstFailure surroundings settings paths (.badExclude text fault)
  | discovery {checker : Checker} {missed : SearchFailure}
      (built : settings.Builds surroundings.cores checker)
      (lost : discover surroundings.working paths = .error missed) :
      FirstFailure surroundings settings paths (.search missed)
  | document {checker : Checker} {before after : List String} {path : String} {cause : Failure}
      (built : settings.Builds surroundings.cores checker)
      (found : discover surroundings.working paths = .ok (before ++ path :: after))
      (earlier : ∀ other ∈ before,
        ∃ report, checker.checkDocument surroundings.working other = .ok report)
      (refused : checker.checkDocument surroundings.working path = .error cause) :
      FirstFailure surroundings settings paths (.analysis cause)

/-- Nothing goes wrong in a check, and these are the reports on the discovered documents, one on
each in the order of discovery. -/
def Succeeds (surroundings : Surroundings) (settings : Settings) (paths : List String)
    (reports : List Report) : Prop :=
  ∃ checker documents, settings.Builds surroundings.cores checker ∧
    discover surroundings.working paths = .ok documents ∧
    List.Forall₂ (fun path report => checker.checkDocument surroundings.working path = .ok report)
      documents reports

section

variable {surroundings : Surroundings} {settings : Settings} {paths : List String}

theorem checkReports_eq_ok_iff {reports : List Report} :
    checkReports surroundings settings paths = .ok reports ↔
      Succeeds surroundings settings paths reports := by
  unfold checkReports Succeeds
  simp only [Attempts.bind_eq_ok_iff, Checker.ofSettings_eq_ok_iff, Checker.checkAll_eq_ok_iff,
    exists_and_left]

/-- A check fails exactly with the first thing that goes wrong. -/
theorem checkReports_eq_error_iff {failure : CheckFailure} :
    checkReports surroundings settings paths = .error failure ↔
      FirstFailure surroundings settings paths failure := by
  unfold checkReports
  rw [Attempts.bind_eq_error_iff, Checker.ofSettings_eq_error_iff]
  simp only [Checker.ofSettings_eq_ok_iff, Checker.checkAll_eq_error_iff]
  constructor
  · rintro ((⟨tooMany, rfl⟩ | ⟨inRange, _, _, _, split, earlier, _, bad, rfl⟩) |
      ⟨checker, built, ⟨_, lost, rfl⟩ | ⟨_, found, _, _, _, rfl, earlier, _, refused, rfl⟩⟩)
    · exact .workers tooMany
    · exact .pattern inRange split earlier bad
    · exact .discovery built lost
    · exact .document built found earlier refused
  · intro first
    cases first with
    | workers tooMany => exact .inl (.inl ⟨tooMany, rfl⟩)
    | pattern inRange split earlier bad =>
        exact .inl (.inr ⟨inRange, _, _, _, split, earlier, _, bad, rfl⟩)
    | discovery built lost => exact .inr ⟨_, built, .inl ⟨_, lost, rfl⟩⟩
    | document built found earlier refused =>
        exact .inr ⟨_, built, .inr ⟨_, found, _, _, _, rfl, earlier, _, refused, rfl⟩⟩

end

def Reported (reports : List Report) : Prop :=
  ∃ report ∈ reports, report.diagnostics ≠ []

theorem hasDiagnostics_iff {report : Report} :
    report.hasDiagnostics = true ↔ report.diagnostics ≠ [] := by
  rw [Report.hasDiagnostics, Bool.not_eq_true', List.isEmpty_eq_false_iff]

theorem any_hasDiagnostics_iff {reports : List Report} :
    reports.any Report.hasDiagnostics = true ↔ Reported reports := by
  rw [List.any_eq_true]
  simp only [hasDiagnostics_iff, Reported]

theorem totals_diagnostics (reports : List Report) :
    (Totals.of reports).diagnostics = (allDiagnostics reports).length := by
  change (reports.map Report.diagnosticCount).foldr (· + ·) 0 = _
  unfold allDiagnostics
  induction reports with
  | nil => rfl
  | cons report reports ih =>
      rw [List.map_cons, List.foldr_cons, ih, List.flatMap_cons, List.length_append]
      rfl

theorem allDiagnostics_ne_nil_iff {reports : List Report} :
    allDiagnostics reports ≠ [] ↔ Reported reports := by
  unfold allDiagnostics Reported
  rw [Ne, List.flatMap_eq_nil_iff]
  push Not
  rfl

private theorem diagnosticLine_ne_empty (colored : Bool) (diagnostic : Diagnostic) :
    diagnosticLine colored diagnostic ≠ "" := by
  intro empty
  have ending := (String.append_eq_empty_iff.mp empty).2
  revert ending
  decide

theorem renderText_ne_empty_iff {colored : Bool} {reports : List Report} :
    renderText colored reports ≠ "" ↔ Reported reports := by
  rw [← allDiagnostics_ne_nil_iff, renderText]
  cases allDiagnostics reports with
  | nil => simp only [List.map_nil, String.join_nil, ne_eq, not_true_eq_false]
  | cons diagnostic diagnostics =>
      rw [List.map_cons, String.join_cons, Ne, String.append_eq_empty_iff]
      exact iff_of_true (fun empty => diagnosticLine_ne_empty colored diagnostic empty.1)
        (List.cons_ne_nil diagnostic diagnostics)

namespace PackageTree

theorem add_ne_nil (package : String) (diagnostics : List Diagnostic) (tree : PackageTree) :
    tree.add package diagnostics ≠ [] := by
  fun_cases PackageTree.add package diagnostics tree with
  | case1 => exact List.cons_ne_nil _ _
  | case2 => exact List.cons_ne_nil _ _
  | case3 => exact List.cons_ne_nil _ _
  | case4 => exact List.cons_ne_nil _ _

private theorem foldl_add_ne_nil (reports : List Report) {tree : PackageTree} (filled : tree ≠ []) :
    reports.foldl (fun tree report => tree.add report.package report.diagnostics) tree ≠ [] := by
  induction reports generalizing tree with
  | nil => exact filled
  | cons report reports ih => exact ih (add_ne_nil report.package report.diagnostics tree)

theorem ofReports_ne_nil_iff {reports : List Report} :
    ofReports reports ≠ [] ↔ Reported reports := by
  rw [← any_hasDiagnostics_iff, ofReports]
  cases kept : reports.filter Report.hasDiagnostics with
  | nil =>
      have clean : ¬reports.any Report.hasDiagnostics = true := by
        rw [List.any_eq_true]
        intro ⟨report, member, has⟩
        exact List.filter_eq_nil_iff.mp kept report member has
      exact iff_of_false (fun filled => filled rfl) clean
  | cons report others =>
      have member : report ∈ reports.filter Report.hasDiagnostics :=
        kept ▸ List.mem_cons_self
      have has : reports.any Report.hasDiagnostics = true :=
        List.any_eq_true.mpr ⟨report, List.mem_filter.mp member⟩
      exact iff_of_true (foldl_add_ne_nil others (add_ne_nil _ _ _)) has

end PackageTree

/-- Only an object without entries is written on one line. -/
theorem pretty_object_eq_iff {entries : List (String × Document.Json)} :
    (Document.Json.object entries).pretty 0 ++ "\n" = "\x7b\x7d\n" ↔ entries = [] := by
  cases entries with
  | nil => exact iff_of_true (by decide +kernel) rfl
  | cons entry entries =>
      refine iff_of_false ?_ (List.cons_ne_nil entry entries)
      intro same
      -- With entries, a line break follows the opening brace.
      have chars := congrArg String.toList same
      simp [Document.Json.pretty, Document.Json.spread, Document.Json.prettyEntries,
        Document.Json.newline] at chars

theorem renderJson_ne_braces_iff {reports : List Report} :
    renderJson reports ≠ "\x7b\x7d\n" ↔ Reported reports := by
  rw [← PackageTree.ofReports_ne_nil_iff, renderJson, PackageTree.toJson, Ne, Ne,
    pretty_object_eq_iff, List.map_eq_nil_iff]

theorem mark_uncolored_of_reported {reports : List Report} (reported : Reported reports) :
    (Totals.of reports).mark false = "FAIL" := by
  have positive : (Totals.of reports).diagnostics ≠ 0 := by
    rw [totals_diagnostics, Ne, List.length_eq_zero_iff]
    exact allDiagnostics_ne_nil_iff.mpr reported
  rw [Totals.mark, if_neg positive]
  rfl

theorem mark_uncolored_of_not_reported {reports : List Report} (clean : ¬Reported reports) :
    (Totals.of reports).mark false = "PASS" := by
  have zero : (Totals.of reports).diagnostics = 0 := by
    rw [totals_diagnostics, List.length_eq_zero_iff]
    exact not_not.mp (mt allDiagnostics_ne_nil_iff.mp clean)
  rw [Totals.mark, if_pos zero]
  rfl

private theorem summaryLine_starts_fail_iff {reports : List Report} :
    (∃ rest, summaryLine false reports = "FAIL" ++ rest) ↔ Reported reports := by
  constructor
  · intro ⟨rest, line⟩
    by_contra clean
    rw [summaryLine, mark_uncolored_of_not_reported clean] at line
    have chars := congrArg String.toList line
    simp at chars
  · intro reported
    refine ⟨" " ++ (Totals.of reports).text, ?_⟩
    rw [summaryLine, mark_uncolored_of_reported reported, String.append_assoc]

private theorem summaryLine_starts_pass_iff {reports : List Report} :
    (∃ rest, summaryLine false reports = "PASS" ++ rest) ↔ ¬Reported reports := by
  constructor
  · intro ⟨rest, line⟩ reported
    rw [summaryLine, mark_uncolored_of_reported reported] at line
    have chars := congrArg String.toList line
    simp at chars
  · intro clean
    refine ⟨" " ++ (Totals.of reports).text, ?_⟩
    rw [summaryLine, mark_uncolored_of_not_reported clean, String.append_assoc]

/-- What a check prints about its reports. They are put out in the format that the settings ask for,
and unless the check is to be quiet, a line that sums them up is written beside the output. -/
structure Prints (surroundings : Surroundings) (settings : Settings) (reports : List Report)
    (outcome : Outcome) : Prop where
  text : settings.format = .text →
    outcome.output = renderText (settings.color.isOn surroundings.onTerminal) reports
  json : settings.format = .json → outcome.output = renderJson reports
  quiet : settings.verbosity = .quiet → outcome.errors = ""
  summary : settings.verbosity ≠ .quiet →
    outcome.errors =
      summaryLine (settings.color.isOn surroundings.onTerminal) reports ++ "\n"

section

variable {surroundings : Surroundings} {settings : Settings} {paths : List String}

theorem check_of_firstFailure {failure : CheckFailure}
    (first : FirstFailure surroundings settings paths failure) :
    check surroundings settings paths =
      { code := 1
        output := ""
        errors := errorLine (settings.color.isOn surroundings.onTerminal) failure.message } := by
  unfold check
  rw [checkReports_eq_error_iff.mpr first]
  rfl

private theorem check_of_succeeds {reports : List Report}
    (succeeds : Succeeds surroundings settings paths reports) :
    check surroundings settings paths =
      { code := if settings.failOnDiagnostics && reports.any Report.hasDiagnostics then 3 else 0
        output := render settings.format (settings.color.isOn surroundings.onTerminal) reports
        errors :=
          if settings.verbosity.isQuiet then ""
          else summaryLine (settings.color.isOn surroundings.onTerminal) reports ++ "\n" } := by
  unfold check
  rw [checkReports_eq_ok_iff.mpr succeeds]
  rfl

private theorem prints_of_succeeds {reports : List Report}
    (succeeds : Succeeds surroundings settings paths reports) :
    Prints surroundings settings reports (check surroundings settings paths) := by
  rw [check_of_succeeds succeeds]
  refine ⟨?_, ?_, ?_, ?_⟩
  · intro asText
    simp only [asText, render]
  · intro asJson
    simp only [asJson, render]
  · intro quiet
    exact if_pos (beq_iff_eq.mpr quiet)
  · intro heard
    exact if_neg (fun quiet => heard (beq_iff_eq.mp quiet))

private theorem code_of_succeeds {reports : List Report}
    (succeeds : Succeeds surroundings settings paths reports) :
    (check surroundings settings paths).code =
      if settings.failOnDiagnostics && reports.any Report.hasDiagnostics then 3 else 0 := by
  rw [check_of_succeeds succeeds]

private theorem exists_succeeds
    (fine : ∀ failure, ¬FirstFailure surroundings settings paths failure) :
    ∃ reports, Succeeds surroundings settings paths reports := by
  cases checked : checkReports surroundings settings paths with
  | error failure => exact absurd (checkReports_eq_error_iff.mp checked) (fine failure)
  | ok reports => exact ⟨reports, checkReports_eq_ok_iff.mp checked⟩

end

/-- A check is all or nothing, and what it leaves behind agrees. If something goes wrong, the first
such thing is told, nothing is put out and the exit code is 1. Otherwise each document has its
report, these are printed as the settings ask for, and whether there is a diagnostic among them can be
read from the summary, from either format and, if diagnostics are to make the check fail, from the
exit code 3. -/
theorem check_all_or_nothing (surroundings : Surroundings) (settings : Settings)
    (paths : List String) :
    (∀ failure, FirstFailure surroundings settings paths failure →
      check surroundings settings paths =
        { code := 1
          output := ""
          errors := errorLine (settings.color.isOn surroundings.onTerminal) failure.message }) ∧
    ((∀ failure, ¬FirstFailure surroundings settings paths failure) →
      ∃ reports, Succeeds surroundings settings paths reports ∧
        (check surroundings settings paths).output =
          render settings.format (settings.color.isOn surroundings.onTerminal) reports ∧
        Prints surroundings settings reports (check surroundings settings paths) ∧
        (∀ colored, [Reported reports,
          ∃ rest, summaryLine false reports = "FAIL" ++ rest,
          ¬∃ rest, summaryLine false reports = "PASS" ++ rest,
          renderText colored reports ≠ "",
          renderJson reports ≠ "\x7b\x7d\n"].TFAE) ∧
        (settings.failOnDiagnostics = true →
          ((check surroundings settings paths).code = 3 ↔ Reported reports)) ∧
        (¬Reported reports ∨ settings.failOnDiagnostics = false →
          (check surroundings settings paths).code = 0)) := by
  constructor
  · intro failure first
    exact check_of_firstFailure first
  · intro fine
    obtain ⟨reports, succeeds⟩ := exists_succeeds fine
    have output := congrArg Outcome.output (check_of_succeeds succeeds)
    refine ⟨reports, succeeds, output, prints_of_succeeds succeeds, ?_, ?_, ?_⟩
    · intro colored
      tfae_have 1 ↔ 2 := summaryLine_starts_fail_iff.symm
      tfae_have 3 ↔ 1 := (not_congr summaryLine_starts_pass_iff).trans not_not
      tfae_have 4 ↔ 1 := renderText_ne_empty_iff
      tfae_have 5 ↔ 1 := renderJson_ne_braces_iff
      tfae_finish
    · intro failing
      rw [code_of_succeeds succeeds, failing, Bool.true_and, ← any_hasDiagnostics_iff]
      cases reports.any Report.hasDiagnostics with
      | true => decide
      | false => decide
    · intro silent
      rw [code_of_succeeds succeeds]
      rcases silent with clean | lenient
      · rw [← any_hasDiagnostics_iff, Bool.not_eq_true] at clean
        rw [clean, Bool.and_false]
        rfl
      · rw [lenient, Bool.false_and]
        rfl

/-- A document with diagnostics beside a file that is no text. -/
def halfReadable : Surroundings where
  working := .directory [("a.json", .file (some leakingText)), ("b.json", .file none)]

private theorem builds_single (cores : Nat) (format : OutputFormat) (verbosity : Verbosity) :
    Settings.Builds { jobs := 1, format := format, verbosity := verbosity } cores ⟨1, []⟩ := by
  have inRange : (1 : UInt64).toNat ≤ maxJobs := by decide
  exact ⟨inRange, rfl, .nil⟩

private theorem halfReadable_succeeds (format : OutputFormat) (verbosity : Verbosity) :
    Succeeds halfReadable { jobs := 1, format := format, verbosity := verbosity } ["a.json"]
      [leakingReport] :=
  ⟨⟨1, []⟩, ["a.json"], builds_single 1 format verbosity, by decide +kernel,
    .cons (checkDocument_leaking rfl) .nil⟩

private theorem halfReadable_fine (format : OutputFormat) (verbosity : Verbosity)
    (failure : CheckFailure) :
    ¬FirstFailure halfReadable { jobs := 1, format := format, verbosity := verbosity } ["a.json"]
      failure := by
  intro first
  have failed := checkReports_eq_error_iff.mpr first
  rw [checkReports_eq_ok_iff.mpr (halfReadable_succeeds format verbosity)] at failed
  cases failed

private theorem halfReadable_reports {format : OutputFormat} {verbosity : Verbosity}
    {reports : List Report}
    (succeeds : Succeeds halfReadable { jobs := 1, format := format, verbosity := verbosity }
      ["a.json"] reports) : reports = [leakingReport] := by
  have checked := checkReports_eq_ok_iff.mpr succeeds
  rw [checkReports_eq_ok_iff.mpr (halfReadable_succeeds format verbosity)] at checked
  exact (Except.ok.inj checked).symm

private theorem halfReadable_firstFailure :
    FirstFailure halfReadable { jobs := 1, format := .json } ["a.json", "b.json"]
      (.analysis (.unreadable "b.json" .notText)) := by
  have earlier : ∀ other ∈ ["a.json"],
      ∃ report, Checker.checkDocument ⟨1, []⟩ halfReadable.working other = .ok report := by
    intro other member
    rw [List.mem_singleton.mp member]
    exact ⟨leakingReport, checkDocument_leaking rfl⟩
  have found : discover halfReadable.working ["a.json", "b.json"] =
      .ok (["a.json"] ++ "b.json" :: []) := by
    decide +kernel
  exact .document (builds_single 1 .json .normal) found earlier rfl

/-- With both files nothing is put out. The first alone is put out as text with a summary beside it, or
quietly as a tree. -/
theorem check_all_or_nothing_halfReadable :
    (FirstFailure halfReadable { jobs := 1, format := .json } ["a.json", "b.json"]
        (.analysis (.unreadable "b.json" .notText)) ∧
      check halfReadable { jobs := 1, format := .json } ["a.json", "b.json"] =
        { code := 1
          output := ""
          errors := "error: Failed to read b.json: stream did not contain valid UTF-8\n" }) ∧
    (∀ failure, ¬FirstFailure halfReadable { jobs := 1 } ["a.json"] failure) ∧
    (check halfReadable { jobs := 1 } ["a.json"]).code = 3 ∧
    (check halfReadable { jobs := 1 } ["a.json"]).output =
      "a.go:0:0: uninitialized custom error returned \"e\"\n" ++
        "b.go:0:0: uninitialized custom error returned \"e\"\n" ∧
    (check halfReadable { jobs := 1 } ["a.json"]).errors =
      "FAIL 2 uninitialized error return(s) in 1 package(s), 2 function(s) checked\n" ∧
    (check halfReadable { jobs := 1, format := .json, verbosity := .quiet } ["a.json"]).output =
      renderJson [leakingReport] ∧
    (check halfReadable { jobs := 1, format := .json, verbosity := .quiet } ["a.json"]).errors =
      "" := by
  obtain ⟨reports, succeeds, _, spoken, _, failing, _⟩ :=
    (check_all_or_nothing halfReadable { jobs := 1 } ["a.json"]).2 (halfReadable_fine .text .normal)
  obtain ⟨others, othersSucceed, _, silent, _⟩ :=
    (check_all_or_nothing halfReadable { jobs := 1, format := .json, verbosity := .quiet }
      ["a.json"]).2 (halfReadable_fine .json .quiet)
  cases halfReadable_reports succeeds
  cases halfReadable_reports othersSucceed
  have reported : Reported [leakingReport] :=
    ⟨leakingReport, List.mem_cons_self, List.cons_ne_nil _ _⟩
  have summary : (check halfReadable { jobs := 1 } ["a.json"]).errors =
      summaryLine false [leakingReport] ++ "\n" := by
    apply spoken.summary
    decide
  refine ⟨⟨halfReadable_firstFailure, ?_⟩, halfReadable_fine .text .normal,
    (failing rfl).mpr reported, ?_, ?_, silent.json rfl, silent.quiet rfl⟩
  · rw [(check_all_or_nothing halfReadable _ _).1 _ halfReadable_firstFailure]
    decide +kernel
  · rw [spoken.text rfl]
    decide +kernel
  · rw [summary]
    decide +kernel

end ZeroError
