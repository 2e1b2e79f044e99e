import ZeroError.Go.Syntax

/-!
The types of a package, numbered by their place in a table. The questions asked of the table are
whether a type satisfies the contract of errors, a method `Error() string`, either itself or
through a pointer, and whether it is the predeclared interface `error`. A number that is not in the
table has no type.
-/

namespace ZeroError.Go

/-- A method: its name, how it takes its receiver, and the types of parameters and results. -/
structure Method where
  name : String
  pointerReceiver : Bool := false
  params : List TypeId := []
  results : List TypeId := []
deriving DecidableEq, Repr, Inhabited

/-- A type. The methods of a named type are those of a pointer to it. -/
inductive TypeInfo
  | basic (name : String)
  | named (package : Option String) (name : String) (underlying : Option TypeId)
      (methods : List Method)
  | pointer (elem : TypeId)
  | interface (methods : List Method)
  | struct
  | other
deriving DecidableEq, Repr, Inhabited

structure TypeTable where
  types : List TypeInfo := []
deriving DecidableEq, Repr, Inhabited

structure TypeFacts where
  isNamed : Bool
  implementsError : Bool
  pointerImplementsError : Bool
  pointerTo : Option TypeId
deriving DecidableEq, Repr

namespace TypeTable

def get? (table : TypeTable) (id : TypeId) : Option TypeInfo :=
  table.types[id.index.toNat]?

def push (table : TypeTable) (info : TypeInfo) : TypeTable × TypeId :=
  (⟨table.types ++ [info]⟩, ⟨UInt32.ofNat table.types.length⟩)

def isString (table : TypeTable) (id : TypeId) : Bool :=
  match table.get? id with
  | some (.basic name) => name == "string"
  | _ => false

def isErrorMethod (table : TypeTable) (method : Method) : Bool :=
  method.name == "Error" && method.params.isEmpty &&
    match method.results with
    | [result] => table.isString result
    | _ => false

def interfaceMethods (table : TypeTable) (id : Option TypeId) : List Method :=
  match id.bind table.get? with
  | some (.interface methods) => methods
  | _ => []

/-- Whether a type, or a pointer to it, has the method `Error() string`. A pointer to a named type
also has the methods that take their receiver by pointer; a pointer to an unnamed interface has
none. -/
def hasErrorMethod (table : TypeTable) (id : TypeId) (throughPointer : Bool) : Bool :=
  match table.get? id with
  | some (.named _ _ underlying methods) =>
      (methods.filter (fun method => throughPointer || !method.pointerReceiver)).any
        table.isErrorMethod ||
        (table.interfaceMethods underlying).any table.isErrorMethod
  | some (.interface methods) => !throughPointer && methods.any table.isErrorMethod
  | _ => false

def isNamed : TypeInfo → Bool
  | .named _ _ _ _ => true
  | _ => false

def pointerTo? : TypeInfo → Option TypeId
  | .pointer elem => some elem
  | _ => none

def resolve (table : TypeTable) (id : TypeId) : Option TypeFacts :=
  (table.get? id).map (fun info =>
    { isNamed := isNamed info
      implementsError := table.hasErrorMethod id false
      pointerImplementsError := table.hasErrorMethod id true
      pointerTo := pointerTo? info })

def isUniverseError (table : TypeTable) (id : TypeId) : Bool :=
  match table.get? id with
  | some (.named none name _ _) => name == "error"
  | _ => false

end TypeTable

structure SourceFile where
  path : String
  funcs : List FuncDecl

structure Package where
  path : String
  types : TypeTable
  files : List SourceFile

namespace Package

def functions (package : Package) : List (String × FuncDecl) :=
  package.files.flatMap (fun file => file.funcs.map (fun func => (file.path, func)))

def functionCount (package : Package) : Nat :=
  (package.files.map (fun file => file.funcs.length)).foldr (· + ·) 0

def retainFiles (package : Package) (keep : String → Bool) : Package :=
  { package with files := package.files.filter (fun file => keep file.path) }

end Package

end ZeroError.Go
