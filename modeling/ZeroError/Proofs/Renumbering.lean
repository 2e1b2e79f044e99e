import ZeroError.Proofs.Relabeling
import ZeroError.Proofs.Verdicts

/-!
The numbers of types are only names. One table stands in another if every entry is found there under
a new number, with the numbers inside it changed alike; several entries may get the same new number.
Main statements: a package over the one table and the package with all its numbers changed over the
other have the same run; and entries that nothing refers to can be appended to a table.
-/

namespace ZeroError.Go

def Method.typeIds (method : Method) : List TypeId :=
  method.params ++ method.results

/-- The types that a type refers to. -/
def TypeInfo.typeIds : TypeInfo → List TypeId
  | .named _ _ underlying methods => underlying.toList ++ methods.flatMap Method.typeIds
  | .pointer elem => [elem]
  | .interface methods => methods.flatMap Method.typeIds
  | _ => []

def Method.renumber (number : TypeId → TypeId) (method : Method) : Method :=
  { method with params := method.params.map number, results := method.results.map number }

def TypeInfo.renumber (number : TypeId → TypeId) : TypeInfo → TypeInfo
  | .basic name => .basic name
  | .named package name underlying methods =>
      .named package name (underlying.map number) (methods.map (Method.renumber number))
  | .pointer elem => .pointer (number elem)
  | .interface methods => .interface (methods.map (Method.renumber number))
  | .struct => .struct
  | .other => .other

def TypeFacts.renumber (number : TypeId → TypeId) (facts : TypeFacts) : TypeFacts :=
  { facts with pointerTo := facts.pointerTo.map number }

/-- Every number has in `table` the entry that its new number has in `other`, up to the numbers inside
it, or both have none. -/
def Renumbers (number : TypeId → TypeId) (table other : TypeTable) : Prop :=
  ∀ id, other.get? (number id) = (table.get? id).map (TypeInfo.renumber number)

/-- The same for known numbers only, among which are all that their entries refer to. -/
structure RenumbersKnown (known : TypeId → Prop) (number : TypeId → TypeId)
    (table other : TypeTable) : Prop where
  entry : ∀ id, known id → other.get? (number id) = (table.get? id).map (TypeInfo.renumber number)
  inner : ∀ id info, known id → table.get? id = some info → ∀ inner ∈ info.typeIds, known inner

private theorem Renumbers.known {number : TypeId → TypeId} {table other : TypeTable}
    (renumbers : Renumbers number table other) :
    RenumbersKnown (fun _ => True) number table other where
  entry := fun id _ => renumbers id
  inner := fun _ _ _ _ _ _ => trivial

namespace RenumbersKnown

variable {known : TypeId → Prop} {number : TypeId → TypeId} {table other : TypeTable}
variable (stands : RenumbersKnown known number table other)

include stands

private theorem isString {id : TypeId} (asked : known id) :
    other.isString (number id) = table.isString id := by
  unfold TypeTable.isString
  rw [stands.entry id asked]
  cases table.get? id with
  | none => rfl
  | some info => cases info <;> rfl

private theorem isUniverseError {id : TypeId} (asked : known id) :
    other.isUniverseError (number id) = table.isUniverseError id := by
  unfold TypeTable.isUniverseError
  rw [stands.entry id asked]
  cases table.get? id with
  | none => rfl
  | some info =>
      cases info with
      | named package name underlying methods => cases package <;> rfl
      | _ => rfl

private theorem isErrorMethod {method : Method} (asked : ∀ id ∈ method.typeIds, known id) :
    other.isErrorMethod (method.renumber number) = table.isErrorMethod method := by
  obtain ⟨name, pointerReceiver, params, results⟩ := method
  simp only [TypeTable.isErrorMethod, Method.renumber, List.isEmpty_map]
  cases results with
  | nil => rfl
  | cons result rest =>
      cases rest with
      | cons second rest => rfl
      | nil =>
          have member : result ∈ Method.typeIds ⟨name, pointerReceiver, params, [result]⟩ :=
            List.mem_append_right params List.mem_cons_self
          simp only [List.map_cons, List.map_nil, stands.isString (asked result member)]

private theorem any_isErrorMethod {methods : List Method}
    (asked : ∀ method ∈ methods, ∀ id ∈ method.typeIds, known id) :
    (methods.map (Method.renumber number)).any other.isErrorMethod =
      methods.any table.isErrorMethod := by
  induction methods with
  | nil => rfl
  | cons method methods ih =>
      have first := stands.isErrorMethod (asked method List.mem_cons_self)
      have rest := ih (fun later member => asked later (List.mem_cons_of_mem method member))
      rw [List.map_cons, List.any_cons, List.any_cons, first, rest]

private theorem interfaceMethods {underlying : Option TypeId}
    (asked : ∀ id ∈ underlying, known id) :
    other.interfaceMethods (underlying.map number) =
      (table.interfaceMethods underlying).map (Method.renumber number) := by
  cases underlying with
  | none => rfl
  | some id =>
      simp only [TypeTable.interfaceMethods, Option.map_some, Option.bind_some,
        stands.entry id (asked id rfl)]
      cases table.get? id with
      | none => rfl
      | some info => cases info <;> rfl

private theorem known_interfaceMethods {underlying : Option TypeId}
    (asked : ∀ id ∈ underlying, known id) :
    ∀ method ∈ table.interfaceMethods underlying, ∀ id ∈ method.typeIds, known id := by
  intro method member id inside
  cases underlying with
  | none => cases member
  | some outer =>
      simp only [TypeTable.interfaceMethods, Option.bind_some] at member
      cases found : table.get? outer with
      | none =>
          rw [found] at member
          cases member
      | some info =>
          rw [found] at member
          cases info with
          | interface methods =>
              exact stands.inner outer _ (asked outer rfl) found id
                (List.mem_flatMap.mpr ⟨method, member, inside⟩)
          | _ => cases member

private theorem hasErrorMethod {id : TypeId} (asked : known id) (throughPointer : Bool) :
    other.hasErrorMethod (number id) throughPointer = table.hasErrorMethod id throughPointer := by
  unfold TypeTable.hasErrorMethod
  rw [stands.entry id asked]
  cases found : table.get? id with
  | none => rfl
  | some info =>
      have inner := stands.inner id info asked found
      cases info with
      | named package name underlying methods =>
          have own : ∀ method ∈ methods, ∀ id ∈ method.typeIds, known id := by
            intro method member id inside
            exact inner id (List.mem_append_right _ (List.mem_flatMap.mpr ⟨method, member, inside⟩))
          have below : ∀ id ∈ underlying, known id := by
            intro id inside
            exact inner id (List.mem_append_left _ (Option.mem_toList.mpr inside))
          have reached : ∀ method ∈ methods.filter
              (fun method => throughPointer || !method.pointerReceiver),
              ∀ id ∈ method.typeIds, known id :=
            fun method member => own method (List.mem_filter.mp member).1
          have visible : (methods.map (Method.renumber number)).filter
                (fun method => throughPointer || !method.pointerReceiver) =
              (methods.filter (fun method => throughPointer || !method.pointerReceiver)).map
                (Method.renumber number) :=
            List.filter_map
          simp only [Option.map_some, TypeInfo.renumber, visible, stands.any_isErrorMethod reached,
            stands.interfaceMethods below,
            stands.any_isErrorMethod (stands.known_interfaceMethods below)]
      | interface methods =>
          have own : ∀ method ∈ methods, ∀ id ∈ method.typeIds, known id := by
            intro method member id inside
            exact inner id (List.mem_flatMap.mpr ⟨method, member, inside⟩)
          simp only [Option.map_some, TypeInfo.renumber, stands.any_isErrorMethod own]
      | _ => rfl

theorem resolve {id : TypeId} (asked : known id) :
    other.resolve (number id) = (table.resolve id).map (TypeFacts.renumber number) := by
  unfold TypeTable.resolve
  rw [stands.hasErrorMethod asked, stands.hasErrorMethod asked, stands.entry id asked]
  cases table.get? id with
  | none => rfl
  | some info => cases info <;> rfl

private theorem known_pointerTo {id : TypeId} (asked : known id) {facts : TypeFacts}
    (found : table.resolve id = some facts) : ∀ elem ∈ facts.pointerTo, known elem := by
  intro elem inside
  obtain ⟨info, entry, rfl⟩ := Option.map_eq_some_iff.mp found
  cases info with
  | pointer target =>
      cases inside
      exact stands.inner id _ asked entry elem List.mem_cons_self
  | _ => cases inside

end RenumbersKnown

end ZeroError.Go

namespace ZeroError.Analysis

open ZeroError.Go

section

variable {known : TypeId → Prop} {number : TypeId → TypeId} {table other : TypeTable}
variable (stands : RenumbersKnown known number table other)

include stands

private theorem errorTarget_renumber {facts : TypeFacts}
    (asked : ∀ elem ∈ facts.pointerTo, known elem) :
    errorTarget other (facts.renumber number) =
      (errorTarget table facts).map (fun target => (target.1.renumber number, target.2)) := by
  obtain ⟨isNamed, implementsError, pointerImplementsError, pointerTo⟩ := facts
  cases pointerTo with
  | none => rfl
  | some elem =>
      simp only [errorTarget, TypeFacts.renumber, Option.map_some, stands.resolve (asked elem rfl),
        Option.map_map]
      rfl

theorem isErrorType_renumber {id : TypeId} (asked : known id) :
    isErrorType other (number id) = isErrorType table id := by
  unfold isErrorType
  rw [stands.resolve asked]
  cases found : table.resolve id with
  | none => rfl
  | some facts =>
      have target := errorTarget_renumber stands (stands.known_pointerTo asked found)
      simp only [Option.map_some, target]
      cases errorTarget table facts with
      | none => rfl
      | some pair => rfl

theorem any_isUniverseError_renumber {ids : List TypeId} (asked : ∀ id ∈ ids, known id) :
    (ids.map number).any other.isUniverseError = ids.any table.isUniverseError := by
  induction ids with
  | nil => rfl
  | cons id ids ih =>
      have first := stands.isUniverseError (asked id List.mem_cons_self)
      have rest := ih (fun later member => asked later (List.mem_cons_of_mem id member))
      rw [List.map_cons, List.any_cons, List.any_cons, first, rest]

end

/-- What comes of a function depends on its name, on whether it returns an error, and on the verdict on
its body. -/
theorem outcomeOf_congr {table other : TypeTable} {file : String} {func changed : FuncDecl}
    (name : changed.name = func.name)
    (returns : returnsError other changed.results = returnsError table func.results)
    (verdict : changed.body.map (checkBody other) = func.body.map (checkBody table)) :
    outcomeOf other (file, changed) = outcomeOf table (file, func) := by
  cases candidate : isCandidate table func with
  | false =>
      have passed : isCandidate other changed = false := by
        rw [isCandidate, returns, ← Option.isSome_map, verdict, Option.isSome_map]
        exact candidate
      rw [outcomeOf_passed_over passed, outcomeOf_passed_over candidate]
  | true =>
      obtain ⟨body, present, error⟩ := isCandidate_iff.mp candidate
      rw [present, Option.map_some] at verdict
      obtain ⟨otherBody, otherPresent, same⟩ := Option.map_eq_some_iff.mp verdict
      rw [outcomeOf_walked otherPresent (returns.trans error), outcomeOf_walked present error, same,
        name]

theorem run_congr {jobs : Nat} {first second : Package} (path : first.path = second.path)
    (files : first.files.length = second.files.length)
    (outcomes : first.functions.map (outcomeOf first.types) =
      second.functions.map (outcomeOf second.types)) :
    run jobs first = run jobs second := by
  have attempts : ∀ package : Package, package.functions.mapM (outcomeOf package.types) =
      (package.functions.map (outcomeOf package.types)).mapM id := by
    intro package
    rw [List.mapM_map]
    rfl
  have functions : first.functions.length = second.functions.length := by
    have lengths := congrArg List.length outcomes
    rwa [List.length_map, List.length_map] at lengths
  have reports : reportOf first = reportOf second := by
    funext settled
    unfold reportOf
    rw [path, files, functions]
  rw [run_eq_reportOf, run_eq_reportOf, attempts, attempts, outcomes, reports]

end ZeroError.Analysis

namespace ZeroError.Go

def FuncDecl.relabel (labels : Relabeling) (func : FuncDecl) : FuncDecl where
  name := func.name
  recv := func.recv.map (Field.relabel labels)
  params := func.params.map (Field.relabel labels)
  results := func.results.map (Field.relabel labels)
  body := func.body.map (Block.relabel labels)

/-- The same package with other numbers for all its types, over another table. -/
def Package.renumber (package : Package) (number : TypeId → TypeId) (other : TypeTable) : Package where
  path := package.path
  types := other
  files := package.files.map (fun file =>
    ⟨file.path, file.funcs.map (FuncDecl.relabel { number := number })⟩)

private theorem Package.functions_renumber (package : Package) (number : TypeId → TypeId)
    (other : TypeTable) :
    (package.renumber number other).functions =
      package.functions.map (fun entry => (entry.1, entry.2.relabel { number := number })) := by
  simp only [functions, renumber, List.flatMap_map, List.map_flatMap, List.map_map]
  rfl

def FuncDecl.resultTypes (func : FuncDecl) : List TypeId :=
  func.results.map (fun field => field.type.typeId)

private theorem FuncDecl.resultTypes_relabel (labels : Relabeling) (func : FuncDecl) :
    (func.relabel labels).resultTypes = func.resultTypes.map labels.number := by
  simp only [resultTypes, relabel, List.map_map]
  apply List.map_congr_left
  rintro ⟨names, expr, typeId⟩ _member
  rfl

/-- The types that an analysis of the function asks about: those of its results, and those of
variables that are declared in it without a value. -/
def FuncDecl.askedTypes (func : FuncDecl) : List TypeId :=
  func.resultTypes ++
    (func.body.toList.flatMap Block.statements).flatMap (fun stmt => stmt.zeroLines.map Prod.snd)

private theorem FuncDecl.mem_askedTypes_line {func : FuncDecl} {body : Block}
    (present : func.body = some body)
    {stmt : Stmt} (member : stmt ∈ body.statements) {line : List String × TypeId}
    (declared : line ∈ stmt.zeroLines) : line.2 ∈ func.askedTypes := by
  unfold askedTypes
  apply List.mem_append_right
  rw [present, Option.toList_some, List.flatMap_singleton]
  exact List.mem_flatMap.mpr ⟨stmt, member, List.mem_map.mpr ⟨line, declared, rfl⟩⟩

/-- No type of the table refers to a number that has no entry. -/
def TypeTable.IsClosed (table : TypeTable) : Prop :=
  ∀ info ∈ table.types, ∀ id ∈ info.typeIds, (table.get? id).isSome = true

def TypeTable.append (table : TypeTable) (extra : List TypeInfo) : TypeTable :=
  ⟨table.types ++ extra⟩

private theorem TypeInfo.renumber_id (info : TypeInfo) : info.renumber id = info := by
  have methods : Method.renumber id = id := by
    funext method
    simp only [Method.renumber, List.map_id, id_eq]
  cases info with
  | named package name underlying own =>
      simp only [renumber, methods, List.map_id, Option.map_id, id_eq]
  | interface own => simp only [renumber, methods, List.map_id]
  | _ => rfl

/-- A closed table stands in each of its extensions. -/
theorem TypeTable.IsClosed.renumbersKnown {table : TypeTable} (closed : table.IsClosed)
    (extra : List TypeInfo) :
    RenumbersKnown (fun id => (table.get? id).isSome = true) id table (table.append extra) where
  entry := by
    intro number present
    obtain ⟨info, found⟩ := Option.isSome_iff_exists.mp present
    have kept : (table.append extra).get? number = some info := by
      obtain ⟨bound, _⟩ := List.getElem?_eq_some_iff.mp found
      exact (List.getElem?_append_left bound).trans found
    rw [id_eq, kept, found, Option.map_some, TypeInfo.renumber_id]
  inner := by
    intro number info _present found
    exact closed info (List.mem_of_getElem? found)

end ZeroError.Go

namespace ZeroError.Analysis

open ZeroError.Go

theorem returnsError_eq (table : TypeTable) (func : FuncDecl) :
    returnsError table func.results = func.resultTypes.any table.isUniverseError := by
  rw [returnsError, FuncDecl.resultTypes, List.any_map]
  rfl

private theorem outcomeOf_renumber {number : TypeId → TypeId} {table other : TypeTable}
    (stands : Renumbers number table other) (file : String) (func : FuncDecl) :
    outcomeOf other (file, func.relabel { number := number }) = outcomeOf table (file, func) := by
  have known := stands.known
  apply outcomeOf_congr
  · rfl
  · rw [returnsError_eq, returnsError_eq, FuncDecl.resultTypes_relabel]
    exact any_isUniverseError_renumber known (fun _ _ => trivial)
  · cases present : func.body with
    | none => simp only [FuncDecl.relabel, present, Option.map_none]
    | some body =>
        have verdict : checkBody other (body.relabel { number := number }) =
            (checkBody table body).map (Expr.relabel { number := number }) := by
          apply checkBody_relabel Function.injective_id
          intro stmt _member line _declared
          exact isErrorType_renumber known trivial
        simp only [FuncDecl.relabel, present, Option.map_some, verdict]
        -- What escapes is an identifier, and these keep their names.
        cases escaped : checkBody table body with
        | none => rfl
        | some expr =>
            obtain ⟨ident, rfl⟩ := checkBody_ident escaped
            rfl

private theorem outcomeOf_append {table : TypeTable} (closed : table.IsClosed)
    (extra : List TypeInfo)
    {entry : String × FuncDecl} (asked : ∀ id ∈ entry.2.askedTypes, (table.get? id).isSome = true) :
    outcomeOf (table.append extra) entry = outcomeOf table entry := by
  obtain ⟨file, func⟩ := entry
  have stands := closed.renumbersKnown extra
  apply outcomeOf_congr
  · rfl
  · have results := any_isUniverseError_renumber stands
      (fun id member => asked id (List.mem_append_left _ member))
    rw [List.map_id] at results
    rw [returnsError_eq, returnsError_eq, results]
  · cases present : func.body with
    | none => rw [Option.map_none, Option.map_none]
    | some body =>
        have verdict : checkBody (table.append extra) body = checkBody table body := by
          apply checkBody_congr
          intro stmt member line declared
          have known := asked line.2 (FuncDecl.mem_askedTypes_line present member declared)
          have same := isErrorType_renumber stands known
          rwa [id_eq] at same
        rw [Option.map_some, Option.map_some, verdict]

/-- The numbers of types are only names. If every number has in one table the entry that its new number
has in another, up to the numbers inside it, then a package over the one table and the package with all
its numbers changed over the other have the same run. New entries may be appended to a table as well,
unless a number without an entry is asked about or stands in the table. -/
theorem run_renumber (jobs : Nat) (package : Package) :
    (∀ (number : TypeId → TypeId) (other : TypeTable), Renumbers number package.types other →
      run jobs (package.renumber number other) = run jobs package) ∧
    ∀ extra : List TypeInfo, package.types.IsClosed →
      (∀ entry ∈ package.functions, ∀ id ∈ entry.2.askedTypes,
        (package.types.get? id).isSome = true) →
      run jobs { package with types := package.types.append extra } = run jobs package := by
  constructor
  · intro number other stands
    apply run_congr
    · rfl
    · exact List.length_map _
    · rw [Package.functions_renumber, List.map_map]
      apply List.map_congr_left
      intro entry _member
      exact outcomeOf_renumber stands entry.1 entry.2
  · intro extra closed asked
    apply run_congr
    · rfl
    · rfl
    · apply List.map_congr_left
      intro entry member
      exact outcomeOf_append closed extra (asked entry member)

/-- The types of `samplePackage`, with a second entry for strings. -/
def repeatingTable : TypeTable :=
  ⟨[.basic "string", .named none "error" none [],
    .named (some "a") "Fault" none [{ name := "Error", results := [⟨4⟩] }], .pointer ⟨2⟩,
    .basic "string"]⟩

/-- The same types in the opposite order, with a single entry for strings. -/
def reversedTable : TypeTable :=
  ⟨[.pointer ⟨1⟩, .named (some "a") "Fault" none [{ name := "Error", results := [⟨3⟩] }],
    .named none "error" none [], .basic "string"]⟩

def reversedNumber (id : TypeId) : TypeId :=
  if id.index < 4 then ⟨3 - id.index⟩ else if id.index = 4 then ⟨3⟩ else id

private theorem renumbers_reversed : Renumbers reversedNumber repeatingTable reversedTable := by
  intro ⟨index⟩
  by_cases listed : index.toNat < 5
  · have one : index = 0 ∨ index = 1 ∨ index = 2 ∨ index = 3 ∨ index = 4 := by
      simp only [← UInt32.toNat_inj, UInt32.reduceToNat]
      omega
    rcases one with rfl | rfl | rfl | rfl | rfl <;> rfl
  · have late : ¬index < 4 := by
      intro less
      have bound : index.toNat < 4 := UInt32.lt_iff_toNat_lt.mp less
      omega
    have other : ¬index = 4 := by
      rintro rfl
      exact listed (by decide)
    have kept : reversedNumber ⟨index⟩ = ⟨index⟩ := (if_neg late).trans (if_neg other)
    have absent : repeatingTable.get? ⟨index⟩ = none :=
      List.getElem?_eq_none (Nat.le_of_not_lt listed)
    have absentToo : reversedTable.get? ⟨index⟩ = none :=
      List.getElem?_eq_none (Nat.le_of_succ_le (Nat.le_of_not_lt listed))
    rw [kept, absent, absentToo, Option.map_none]

theorem run_renumber_reversed :
    Renumbers reversedNumber repeatingTable reversedTable ∧
      run 2 ({ samplePackage [leaking "first" "fault" 7] with types := repeatingTable }.renumber
          reversedNumber reversedTable) =
        run 2 { samplePackage [leaking "first" "fault" 7] with types := repeatingTable } ∧
      run 2 { samplePackage [leaking "first" "fault" 7] with
          types := repeatingTable.append [.struct] } =
        run 2 { samplePackage [leaking "first" "fault" 7] with types := repeatingTable } := by
  have both := run_renumber 2
    { samplePackage [leaking "first" "fault" 7] with types := repeatingTable }
  refine ⟨renumbers_reversed, both.1 reversedNumber reversedTable renumbers_reversed, ?_⟩
  apply both.2 [.struct]
  · unfold TypeTable.IsClosed
    decide
  · decide +kernel

end ZeroError.Analysis
