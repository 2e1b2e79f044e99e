import ZeroError.Analysis.Run
import ZeroError.Files.Discovery
import ZeroError.Go.Reading
import ZeroError.Presentation
import ZeroError.Settings.Reading
import ZeroError.Text.Quoted

/-!
Checking all documents that some paths lead to. A check either succeeds with one report for each
document or fails with the first thing that goes wrong: too many workers, a bad pattern to exclude,
a path without documents, or a document that cannot be analyzed.
-/

namespace ZeroError

open Analysis Files Glob

inductive CheckFailure
  | configuration (cause : String)
  | badExclude (pattern : String) (fault : Glob.Fault)
  | search (failure : SearchFailure)
  | unreadable (cause : ReadCause)
  | analysis (failure : Failure)
deriving DecidableEq, Repr

def CheckFailure.message : CheckFailure → String
  | .configuration cause => "Configuration error: " ++ cause
  | .badExclude pattern fault =>
      "Invalid argument: bad exclude pattern " ++ Text.quote pattern ++ ": " ++ fault.message
  | .search failure => "Invalid argument: " ++ failure.message
  | .unreadable cause => "I/O error: " ++ cause.message
  | .analysis failure => failure.message

/-- What a check depends on besides its settings: the files, whether the output is a terminal, and
the number of cores. -/
structure Surroundings where
  working : Entry
  onTerminal : Bool := false
  cores : Nat := 1

def effectiveJobs (cores jobs : Nat) : Nat :=
  if jobs = 0 then max cores 1 else jobs

namespace Settings

def workers (settings : Settings) : Except CheckFailure Nat :=
  (checkedJobs settings.jobs).mapError .analysis

def excludePatterns (settings : Settings) : Except CheckFailure (List Pattern) :=
  settings.exclude.mapM (fun text => (Pattern.ofText text).mapError (CheckFailure.badExclude text))

end Settings

def loadPackage (working : Entry) (path : String) : Except Failure Go.Package := do
  let text ← (readText working path).mapError (Failure.unreadable path)
  (Go.Package.ofText text).mapError .document

/-- A way to check documents: the number of workers and the files to leave out. -/
structure Checker where
  jobs : Nat
  exclude : List Pattern

namespace Checker

def ofSettings (cores : Nat) (settings : Settings) : Except CheckFailure Checker := do
  let jobs ← settings.workers
  let exclude ← settings.excludePatterns
  return { jobs := effectiveJobs cores jobs, exclude := exclude }

def isExcluded (checker : Checker) (file : String) : Bool :=
  checker.exclude.any (fun pattern => pattern.isMatch file)

def checkPackage (checker : Checker) (package : Go.Package) : Except Failure Report :=
  (run checker.jobs (package.retainFiles (fun file => !checker.isExcluded file))).mapError
    .unprintable

def checkDocument (checker : Checker) (working : Entry) (path : String) :
    Except Failure Report := do
  checker.checkPackage (← loadPackage working path)

def checkAll (checker : Checker) (working : Entry) (paths : List String) :
    Except CheckFailure (List Report) := do
  let documents ← (discover working paths).mapError .search
  documents.mapM (fun path => (checker.checkDocument working path).mapError .analysis)

end Checker

def checkReports (surroundings : Surroundings) (settings : Settings) (paths : List String) :
    Except CheckFailure (List Report) := do
  let checker ← Checker.ofSettings surroundings.cores settings
  checker.checkAll surroundings.working paths

structure Outcome where
  code : Nat := 0
  output : String := ""
  errors : String := ""
deriving DecidableEq, Repr

def failureCode : Nat := 1

def diagnosticsCode : Nat := 3

def check (surroundings : Surroundings) (settings : Settings) (paths : List String) : Outcome :=
  let colored := settings.color.isOn surroundings.onTerminal
  match checkReports surroundings settings paths with
  | .error failure => { code := failureCode, errors := errorLine colored failure.message }
  | .ok reports =>
      { code :=
          if settings.failOnDiagnostics && reports.any Report.hasDiagnostics then diagnosticsCode
          else 0
        output := render settings.format colored reports
        errors :=
          if settings.verbosity.isQuiet then "" else summaryLine colored reports ++ "\n" }

end ZeroError
