import ZeroError.Analysis.Event
import ZeroError.Go.TypeTable

/-!
Declarations that leave a variable of an error type at its zero value. Only `var` declarations count,
and in them only lines with a type and without initial values. The type must be named, or a pointer
to a named type, and have the method `Error() string`. The first line that fits decides.
-/

namespace ZeroError.Analysis

open ZeroError.Go

/-- The type whose methods decide about a declared type, and whether it is reached through a
pointer. Of pointers only one level is followed. -/
def errorTarget (table : TypeTable) (facts : TypeFacts) : Option (TypeFacts × Bool) :=
  match facts.pointerTo with
  | some elem => (table.resolve elem).map (fun target => (target, true))
  | none => some (facts, false)

/-- Whether a type is named and satisfies the contract of errors, itself or through a pointer. -/
def isErrorCapable (target : TypeFacts) (throughPointer : Bool) : Bool :=
  target.isNamed &&
    (if throughPointer then target.pointerImplementsError else target.implementsError)

/-- The names of a declaration of the given type, if they start out as zero-valued errors. -/
def atRiskOfType (table : TypeTable) (id : TypeId) (names : List String) :
    Traced (Option (List String)) :=
  match table.resolve id with
  | none => ⟨[.unknownType id], none⟩
  | some facts =>
      match errorTarget table facts with
      | none => .quiet none
      | some (target, throughPointer) =>
          if isErrorCapable target throughPointer then
            ⟨[.atRisk names throughPointer], some names⟩
          else .quiet none

/-- The names of a line of a declaration, if they start out as zero-valued errors. -/
def atRiskOfSpec (table : TypeTable) (spec : ValueSpec) : Traced (Option (List String)) :=
  match spec.type, spec.values with
  | some type, [] => atRiskOfType table type.typeId (spec.names.map Ident.name)
  | _, _ => .quiet none

/-- The names of the first line whose names start out as zero-valued errors. -/
def atRiskOfSpecs (table : TypeTable) : List Spec → Traced (Option (List String))
  | [] => .quiet none
  | .type _ :: specs => atRiskOfSpecs table specs
  | .value spec :: specs =>
      (atRiskOfSpec table spec).andThen (fun names =>
        match names with
        | some names => .quiet (some names)
        | none => atRiskOfSpecs table specs)

def atRiskOfDecl (table : TypeTable) (declaration : GenDecl) : Traced (Option (List String)) :=
  match declaration.tok with
  | .var => atRiskOfSpecs table declaration.specs
  | _ => .quiet none

def atRiskNames (table : TypeTable) : Stmt → Traced (Option (List String))
  | .decl declaration => atRiskOfDecl table declaration
  | _ => .quiet none

end ZeroError.Analysis
