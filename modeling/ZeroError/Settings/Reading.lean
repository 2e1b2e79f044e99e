import ZeroError.Failure
import ZeroError.Settings.Basic
import ZeroError.Yaml.Node
import ZeroError.Yaml.Number

/-!
Reading settings from a configuration text. The text is a mapping from names to values; names that
are not known are ignored, a known name may stand there once, and a name that is missing leaves the
usual choice.
-/

namespace ZeroError

open Yaml

namespace Yaml.Node

def text : Node → Except Fault String
  | .scalar text _ _ => .ok text
  | _ => .error (.unexpectedNode "a string")

def isAbsent : Node → Bool
  | .scalar text style _ => text.isEmpty && style == .plain
  | _ => false

/-- The text of a scalar whose kind shows from its form: a plain one, or a block with the tag of
that kind. -/
def plainText? (kind : String) : Node → Option String
  | .scalar text .plain _ => some text
  | .scalar text .literal tag => if tag == some ("tag:yaml.org,2002:" ++ kind) then some text else none
  | _ => none

def natural (node : Node) : Except Fault UInt64 :=
  match (node.plainText? "int").bind (fun text => unsigned? UInt64.size text.toList) with
  | some value => .ok (UInt64.ofNat value)
  | none => .error (.unexpectedNode "a number")

def truth (node : Node) : Except Fault Bool :=
  match (node.plainText? "bool").bind bool? with
  | some value => .ok value
  | none => .error (.unexpectedNode "a boolean")

/-- The name that a scalar gives: its text, or its own tag if it has one and no content. -/
def givenName : Node → Except Fault String
  | .scalar text style (some tag) =>
      match tag.toList with
      | '!' :: name =>
          if style == .plain && (text.isEmpty || isNull text) then .ok (String.ofList name)
          else .error (.unexpectedNode "a name without content")
      | _ => .ok text
  | .scalar text _ none => .ok text
  | _ => .error (.unexpectedNode "a name")

def choice {α : Type} (choices : List α) (nameOf : α → String) (node : Node) : Except Fault α := do
  let name ← node.givenName
  match choices.find? (fun choice => nameOf choice == name) with
  | some choice => .ok choice
  | none => .error (.unknownName name)

/-- The texts of a sequence; nothing written is a sequence without items. -/
def texts (node : Node) : Except Fault (List String) :=
  match node with
  | .sequence items => items.mapM text
  | node => if node.isAbsent then .ok [] else .error (.unexpectedNode "a sequence")

/-- The entries of a mapping by the texts of their names; nothing written is a mapping without
entries. -/
def entries (node : Node) : Except Fault (List (String × Node)) :=
  match node with
  | .mapping entries => entries.mapM (fun (name, value) => (name.text).map (·, value))
  | node => if node.isAbsent then .ok [] else .error (.unexpectedNode "a mapping")

def entriesOfText (text : String) : Except Fault (List (String × Node)) := do
  match ← Node.ofText text with
  | some node => node.entries
  | none => return []

end Yaml.Node

/-- What is read for one name: the value of its only entry, or the usual value. -/
def setting {α : Type} (entries : List (String × Node)) (name : String)
    (read : Node → Except Fault α) (usual : α) : Except Fault α :=
  match entries.filter (fun entry => entry.1 == name) with
  | [] => .ok usual
  | [entry] => read entry.2
  | _ => .error (.duplicateKey name)

namespace Settings

def ofEntries (entries : List (String × Node)) : Except Fault Settings := do
  let usual : Settings := {}
  let verbosity ← setting entries "verbosity" (Node.choice Verbosity.all Verbosity.name)
    usual.verbosity
  let color ← setting entries "color" (Node.choice ColorChoice.all ColorChoice.name) usual.color
  let format ← setting entries "format" (Node.choice OutputFormat.all OutputFormat.name) usual.format
  let jobs ← setting entries "jobs" Node.natural usual.jobs
  let failOnDiagnostics ←
    setting entries "fail_on_diagnostics" Node.truth usual.failOnDiagnostics
  let exclude ← setting entries "exclude" Node.texts usual.exclude
  return {
    verbosity := verbosity
    color := color
    format := format
    jobs := jobs
    failOnDiagnostics := failOnDiagnostics
    exclude := exclude }

def ofYaml (text : String) : Except Fault Settings := do
  ofEntries (← Node.entriesOfText text)

/-- The number of workers, if no more are asked for than there may be. -/
def checkedJobs (jobs : UInt64) : Except Failure Nat :=
  if maxJobs < jobs.toNat then .error (.tooManyJobs jobs.toNat) else .ok jobs.toNat

/-- The number of workers from a configuration text that holds nothing else of interest. -/
def jobsOfYaml (text : String) : Except Failure Nat := do
  let entries ← (Node.entriesOfText text).mapError (fun fault => .configuration fault.message)
  let jobs ← (setting entries "jobs" Node.natural 0).mapError
    (fun fault => .configuration fault.message)
  checkedJobs jobs

end Settings

end ZeroError
