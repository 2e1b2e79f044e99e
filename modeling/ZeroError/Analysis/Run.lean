import ZeroError.Analysis.Report
import ZeroError.Analysis.Tracking

/-!
The analysis of a package. Only functions with a body and a result of the predeclared type `error`
are walked. The functions are dealt out to workers in consecutive slices; what the workers find is
put together in source order, and the first failure in slice order fails the whole run.
-/

namespace ZeroError.Analysis

open ZeroError.Go

def returnsError (table : TypeTable) (results : List Field) : Bool :=
  results.any (fun field => table.isUniverseError field.type.typeId)

def isCandidate (table : TypeTable) (func : FuncDecl) : Bool :=
  func.body.isSome && returnsError table func.results

inductive Outcome
  | skipped
  | clean
  | reported (diagnostic : Diagnostic)
deriving DecidableEq, Repr

def examine (table : TypeTable) (file : String) (func : FuncDecl) :
    Traced (Except Unprintable Outcome) :=
  match func.body with
  | some body =>
      if returnsError table func.results then
        (traceBody table body).andThen (fun escaping =>
          match escaping with
          | none => .quiet (.ok .clean)
          | some returned =>
              match Diagnostic.ofReturned file func.name.name returned with
              | .ok diagnostic =>
                  ⟨[.escapes func.name.name diagnostic.posn], .ok (.reported diagnostic)⟩
              | .error cause => .quiet (.error cause))
      else ⟨[.skipped func.name.name], .ok .skipped⟩
  | none => ⟨[.skipped func.name.name], .ok .skipped⟩

def Outcome.diagnostic? : Outcome → Option Diagnostic
  | .reported diagnostic => some diagnostic
  | _ => none

def checkFunc (table : TypeTable) (file : String) (func : FuncDecl) :
    Except Unprintable (Option Diagnostic) :=
  (examine table file func).value.map Outcome.diagnostic?

/-- A function to be looked at: its place among all functions, its file and its declaration. -/
structure Target where
  index : Nat
  file : String
  func : FuncDecl

/-- What a worker found, each diagnostic with the place of its function, and how many functions it
walked. -/
structure Batch where
  found : List (Nat × Diagnostic) := []
  checked : Nat := 0
deriving DecidableEq, Repr

def Batch.add (batch : Batch) (index : Nat) : Outcome → Batch
  | .skipped => batch
  | .clean => { batch with checked := batch.checked + 1 }
  | .reported diagnostic =>
      { found := batch.found ++ [(index, diagnostic)], checked := batch.checked + 1 }

def checkTargets (table : TypeTable) (batch : Batch) : List Target → Traced (Except Unprintable Batch)
  | [] => .quiet (.ok batch)
  | target :: targets =>
      (examine table target.file target.func).andThen (fun result =>
        match result with
        | .ok outcome => checkTargets table (batch.add target.index outcome) targets
        | .error cause => .quiet (.error cause))

def targetsOf (package : Package) : List Target :=
  package.functions.zipIdx.map (fun entry => ⟨entry.2, entry.1.1, entry.1.2⟩)

/-- The number of workers for `size` functions when `jobs` are asked for: at least one, and no more
than there are functions. -/
def workerCount (jobs size : Nat) : Nat :=
  min (max jobs 1) (max size 1)

/-- The length of the slices of `size` functions among `workers`, rounded up. -/
def sliceLength (size workers : Nat) : Nat :=
  (size + workers - 1) / workers

/-- Consecutive slices of the given length, of which the last may be shorter. -/
def slices {α : Type} (length : Nat) (items : List α) : List (List α) :=
  if items.length = 0 ∨ length = 0 then []
  else items.take length :: slices length (items.drop length)
termination_by items.length
decreasing_by
  rw [List.length_drop]
  omega

/-- The batches of all workers in slice order, or the first failure among them. -/
def checkSlices (table : TypeTable) (workers : Nat) (targets : List Target) :
    Except Unprintable (List Batch) :=
  (slices (sliceLength targets.length workers) targets).mapM
    (fun slice => (checkTargets table {} slice).value)

def assemble (package : Package) (size : Nat) (batches : List Batch) : Report :=
  let found := batches.flatMap Batch.found
  { package := package.path
    diagnostics :=
      (found.mergeSort (fun left right => decide (left.1 ≤ right.1))).map Prod.snd
    filesAnalyzed := .ofNat package.files.length
    functionsAnalyzed := .ofNat size
    functionsChecked := .ofNat ((batches.map Batch.checked).foldr (· + ·) 0) }

def run (jobs : Nat) (package : Package) : Except Unprintable Report :=
  let targets := targetsOf package
  let workers := workerCount jobs targets.length
  if workers = 1 then
    (checkTargets package.types {} targets).value.map
      (fun batch => assemble package targets.length [batch])
  else
    (checkSlices package.types workers targets).map (assemble package targets.length)

def completion (report : Report) : Event :=
  .complete report.package report.filesAnalyzed.toNat report.functionsAnalyzed.toNat
    report.functionsChecked.toNat report.diagnosticCount

/-- Analyzes a package with a single worker and tells the course of the analysis. -/
def traceRun (package : Package) : Traced (Except Unprintable Report) :=
  let targets := targetsOf package
  (Traced.mk [.analyzing package.path targets.length (workerCount 1 targets.length)] ()).andThen
    (fun _ => (checkTargets package.types {} targets).andThen (fun result =>
      match result with
      | .ok batch =>
          let report := assemble package targets.length [batch]
          ⟨[completion report], .ok report⟩
      | .error cause => .quiet (.error cause)))

end ZeroError.Analysis
