import ZeroError.Document.Reader
import ZeroError.Go.Rendering
import ZeroError.Go.Writing
import ZeroError.Text.Quoted

/-!
Diagnostics and reports. A diagnostic names a returned identifier and its place; a report holds the
diagnostics of a package in source order together with what was counted on the way. Reports of the
same package add up.
-/

namespace ZeroError.Analysis

open ZeroError.Document
open ZeroError.Go

def analyzerName : String := "unassignederr"

def analyzerDoc : String :=
  "check for uninitialized custom error types being returned as the error interface"

structure Diagnostic where
  analyzer : String
  file : String
  line : UInt32
  column : UInt32
  offset : UInt32
  function : String
  rendered : String
  message : String
deriving DecidableEq, Repr

def messageFor (rendered : String) : String :=
  "uninitialized custom error returned " ++ Text.quote rendered

namespace Diagnostic

def posn (diagnostic : Diagnostic) : String :=
  diagnostic.file ++ ":" ++ toString diagnostic.line.toNat ++ ":" ++
    toString diagnostic.column.toNat

def display (diagnostic : Diagnostic) : String :=
  diagnostic.posn ++ ": " ++ diagnostic.message

/-- The diagnostic of a returned expression, which must be an identifier with a name. -/
def ofReturned (file function : String) (returned : Expr) : Except Unprintable Diagnostic :=
  match returned with
  | .ident ident => do
      let rendered ← returned.render
      return {
        analyzer := analyzerName
        file := file
        line := ident.pos.line
        column := ident.pos.column
        offset := ident.pos.offset
        function := function
        rendered := rendered
        message := messageFor rendered }
  | _ => .error .notIdent

def layout : Layout Diagnostic :=
  (Fields.cons (required "analyzer" Reader.text) <|
    .cons (required "file" Reader.text) <|
    .cons (required "line" Reader.word) <|
    .cons (required "column" Reader.word) <|
    .cons (required "offset" Reader.word) <|
    .cons (required "function" Reader.text) <|
    .cons (required "rendered" Reader.text) <|
    .cons (required "message" Reader.text) .nil).layout "struct Diagnostic" Diagnostic.mk

def reader : (depth : Nat) → Reader Diagnostic :=
  Reader.record "struct Diagnostic" (fun _ => layout)

def entries (diagnostic : Diagnostic) : List (String × Json) :=
  [("analyzer", .text diagnostic.analyzer), ("file", .text diagnostic.file),
    ("line", wordJson diagnostic.line), ("column", wordJson diagnostic.column),
    ("offset", wordJson diagnostic.offset), ("function", .text diagnostic.function),
    ("rendered", .text diagnostic.rendered), ("message", .text diagnostic.message)]

def toJson (diagnostic : Diagnostic) : Json :=
  .object diagnostic.entries

end Diagnostic

/-- What an analysis found in a package. The counters are words of 64 bits, the numbers that the
written form can hold. -/
structure Report where
  package : String
  diagnostics : List Diagnostic := []
  filesAnalyzed : UInt64 := 0
  functionsAnalyzed : UInt64 := 0
  functionsChecked : UInt64 := 0
deriving DecidableEq, Repr

namespace Report

def hasDiagnostics (report : Report) : Bool :=
  !report.diagnostics.isEmpty

def diagnosticCount (report : Report) : Nat :=
  report.diagnostics.length

def merge (first second : Report) : Report where
  package := first.package
  diagnostics := first.diagnostics ++ second.diagnostics
  filesAnalyzed := first.filesAnalyzed + second.filesAnalyzed
  functionsAnalyzed := first.functionsAnalyzed + second.functionsAnalyzed
  functionsChecked := first.functionsChecked + second.functionsChecked

def layout (depth : Nat) : Layout Report :=
  (Fields.cons (required "package" Reader.text) <|
    .cons (required "diagnostics" (Reader.list Diagnostic.reader depth)) <|
    .cons (required "files_analyzed" Reader.count) <|
    .cons (required "functions_analyzed" Reader.count) <|
    .cons (required "functions_checked" Reader.count) .nil).layout "struct Report" Report.mk

def reader : (depth : Nat) → Reader Report :=
  Reader.record "struct Report" layout

def toJson (report : Report) : Json :=
  .object [("package", .text report.package),
    ("diagnostics", .ofList Diagnostic.toJson report.diagnostics),
    ("files_analyzed", .number report.filesAnalyzed.toNat),
    ("functions_analyzed", .number report.functionsAnalyzed.toNat),
    ("functions_checked", .number report.functionsChecked.toNat)]

end Report

end ZeroError.Analysis
