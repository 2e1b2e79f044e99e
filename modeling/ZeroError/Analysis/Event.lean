import ZeroError.Document.Json
import ZeroError.Go.Syntax
import ZeroError.Text.Quoted

/-!
What an analysis tells about its own course. Every step of the analysis is a value together with the
events that led to it, so the order of the events is the order of the steps.
-/

namespace ZeroError.Analysis

open ZeroError.Document
open ZeroError.Go

inductive Level
  | trace
  | debug
  | info
  | warn
deriving DecidableEq, Repr

inductive Event
  | analyzing (package : String) (functions jobs : Nat)
  | skipped (function : String)
  | unknownType (id : TypeId)
  | atRisk (names : List String) (throughPointer : Bool)
  | tracking (names : List String)
  | allReassigned
  | escapes (function posn : String)
  | complete (package : String) (files functions checked diagnostics : Nat)
deriving DecidableEq, Repr

def Level.text : Level → String
  | .trace => "TRACE"
  | .debug => "DEBUG"
  | .info => "INFO"
  | .warn => "WARN"

namespace Event

def level : Event → Level
  | atRisk _ _ => .trace
  | unknownType _ => .warn
  | complete _ _ _ _ _ => .info
  | _ => .debug

def message : Event → String
  | analyzing _ _ _ => "analyzing package"
  | skipped _ => "skipped: no body or no error result"
  | unknownType _ => "declared type missing from type facts"
  | atRisk _ _ => "uninitialized error-capable declaration"
  | tracking _ => "tracking uninitialized errors"
  | allReassigned => "every tracked error was reassigned"
  | escapes _ _ => "uninitialized error escapes"
  | complete _ _ _ _ _ => "analysis complete"

def fields : Event → List (String × Json)
  | analyzing package functions jobs =>
      [("package", .text package), ("functions", .number functions), ("jobs", .number jobs)]
  | skipped function => [("function", .text function)]
  | unknownType id => [("type_id", .text id.text)]
  | atRisk names throughPointer =>
      [("names", .text (Text.quoteList names)), ("through_pointer", .bool throughPointer)]
  | tracking names => [("names", .text (Text.quoteList names))]
  | allReassigned => []
  | escapes function posn => [("function", .text function), ("posn", .text posn)]
  | complete package files functions checked diagnostics =>
      [("package", .text package), ("files", .number files), ("functions", .number functions),
        ("checked", .number checked), ("diagnostics", .number diagnostics)]

def toJson (event : Event) : Json :=
  .object [("level", .text event.level.text), ("message", .text event.message),
    ("fields", .object event.fields)]

end Event

structure Traced (α : Type) where
  events : List Event
  value : α

namespace Traced

def quiet {α : Type} (value : α) : Traced α :=
  ⟨[], value⟩

/-- The next step, made from the value of the first; the events of both in order. -/
def andThen {α β : Type} (first : Traced α) (next : α → Traced β) : Traced β :=
  ⟨first.events ++ (next first.value).events, (next first.value).value⟩

def map {α β : Type} (f : α → β) (traced : Traced α) : Traced β :=
  ⟨traced.events, f traced.value⟩

@[simp] theorem events_quiet {α : Type} (value : α) : (quiet value).events = [] := rfl

@[simp] theorem value_quiet {α : Type} (value : α) : (quiet value).value = value := rfl

@[simp] theorem events_andThen {α β : Type} (first : Traced α) (next : α → Traced β) :
    (first.andThen next).events = first.events ++ (next first.value).events := rfl

@[simp] theorem value_andThen {α β : Type} (first : Traced α) (next : α → Traced β) :
    (first.andThen next).value = (next first.value).value := rfl

@[simp] theorem events_map {α β : Type} (f : α → β) (traced : Traced α) :
    (traced.map f).events = traced.events := rfl

@[simp] theorem value_map {α β : Type} (f : α → β) (traced : Traced α) :
    (traced.map f).value = f traced.value := rfl

end Traced

end ZeroError.Analysis
