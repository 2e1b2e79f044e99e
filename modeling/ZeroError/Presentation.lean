import ZeroError.Analysis.Report
import ZeroError.Document.Json
import ZeroError.Settings.Basic

/-!
How reports are shown: one line for each diagnostic, a JSON tree by package, and a line that sums up
a whole check. On a terminal, places, messages and marks may be set off by color.
-/

namespace ZeroError

open Analysis Document

/-- A way to set off a text on a terminal, given by its display codes. -/
structure Emphasis where
  codes : List Nat
deriving DecidableEq, Repr

namespace Emphasis

def bold : Emphasis := ⟨[1]⟩

def yellow : Emphasis := ⟨[33]⟩

def good : Emphasis := ⟨[32, 1]⟩

def bad : Emphasis := ⟨[31, 1]⟩

def sequence (code : Nat) : String :=
  "\x1b[" ++ toString code ++ "m"

def apply (emphasis : Emphasis) (colored : Bool) (text : String) : String :=
  if colored then String.join (emphasis.codes.map sequence) ++ text ++ sequence 0 else text

end Emphasis

def diagnosticLine (colored : Bool) (diagnostic : Diagnostic) : String :=
  Emphasis.bold.apply colored diagnostic.posn ++ ": " ++
    Emphasis.yellow.apply colored diagnostic.message ++ "\n"

def allDiagnostics (reports : List Report) : List Diagnostic :=
  reports.flatMap Report.diagnostics

def renderText (colored : Bool) (reports : List Report) : String :=
  String.join ((allDiagnostics reports).map (diagnosticLine colored))

abbrev PackageTree := List (String × List Diagnostic)

def PackageTree.add (package : String) (diagnostics : List Diagnostic) : PackageTree → PackageTree
  | [] => [(package, diagnostics)]
  | (name, known) :: rest =>
      if package = name then (name, known ++ diagnostics) :: rest
      else if package < name then (package, diagnostics) :: (name, known) :: rest
      else (name, known) :: PackageTree.add package diagnostics rest

/-- The diagnostics of some reports by package. Reports without any leave no trace. -/
def PackageTree.ofReports (reports : List Report) : PackageTree :=
  (reports.filter Report.hasDiagnostics).foldl
    (fun tree report => tree.add report.package report.diagnostics) []

def placeJson (diagnostic : Diagnostic) : Json :=
  .object [("posn", .text diagnostic.posn), ("message", .text diagnostic.message)]

def PackageTree.toJson (tree : PackageTree) : Json :=
  .object (tree.map (fun (package, diagnostics) =>
    (package, .object [(analyzerName, .ofList placeJson diagnostics)])))

def renderJson (reports : List Report) : String :=
  (PackageTree.ofReports reports).toJson.pretty 0 ++ "\n"

/-- Reports in a format. Only text has colors. -/
def render (format : OutputFormat) (colored : Bool) (reports : List Report) : String :=
  match format with
  | .text => renderText colored reports
  | .json => renderJson reports

structure Totals where
  diagnostics : Nat
  packages : Nat
  functions : UInt64
deriving DecidableEq, Repr

def Totals.of (reports : List Report) : Totals where
  diagnostics := (reports.map Report.diagnosticCount).foldr (· + ·) 0
  packages := reports.length
  functions := (reports.map Report.functionsChecked).foldr (· + ·) 0

def Totals.text (totals : Totals) : String :=
  toString totals.diagnostics ++ " uninitialized error return(s) in " ++
    toString totals.packages ++ " package(s), " ++
    toString totals.functions.toNat ++ " function(s) checked"

def Totals.mark (colored : Bool) (totals : Totals) : String :=
  if totals.diagnostics = 0 then
    if colored then Emphasis.good.apply true "✓" else "PASS"
  else if colored then Emphasis.bad.apply true "✗"
  else "FAIL"

def summaryLine (colored : Bool) (reports : List Report) : String :=
  let totals := Totals.of reports
  totals.mark colored ++ " " ++ totals.text

def errorLine (colored : Bool) (message : String) : String :=
  Emphasis.bad.apply colored "error:" ++ " " ++ message ++ "\n"

end ZeroError
