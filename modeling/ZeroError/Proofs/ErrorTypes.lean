import ZeroError.Proofs.Effects

/-!
Which declarations leave errors at their zero value. The types that count are described by the entries
of the type table alone: a named type with a method `Error() string`, or a pointer to one. Nothing is
asked of the table as a whole, so it may refer to numbers that it does not have, or to itself. Main
statement: the names at risk are those of the first line of a `var` declaration that has such a type
and no values; so a pointer to a type that counts does so too, but nothing that is not named within
one pointer.
-/

namespace ZeroError.Go

/-- The method `Error() string`, with the predeclared type of strings as its only result. -/
structure Method.IsError (table : TypeTable) (method : Method) : Prop where
  name : method.name = "Error"
  params : method.params = []
  result : ∃ id, method.results = [id] ∧ table.get? id = some (.basic "string")

namespace TypeTable

/-- An interface that has `Error() string`. How its methods take their receiver does not matter. -/
def IsErrorInterface (table : TypeTable) (id : TypeId) : Prop :=
  ∃ methods, table.get? id = some (.interface methods) ∧ ∃ method ∈ methods, method.IsError table

/-- A named type that has `Error() string` itself or by the interface it stands for. Of its own methods
those with a pointer receiver count through a pointer only. -/
def IsNamedError (table : TypeTable) (throughPointer : Bool) (id : TypeId) : Prop :=
  ∃ package name underlying methods,
    table.get? id = some (.named package name underlying methods) ∧
      ((∃ method ∈ methods,
          (throughPointer = true ∨ method.pointerReceiver = false) ∧ method.IsError table) ∨
        ∃ inner, underlying = some inner ∧ table.IsErrorInterface inner)

/-- A variable of the type is an error even if nothing has been assigned to it. -/
inductive ErrorCapable (table : TypeTable) (id : TypeId) : Prop
  | value (named : table.IsNamedError false id)
  | pointer {elem : TypeId} (entry : table.get? id = some (.pointer elem))
      (named : table.IsNamedError true elem)

section

variable {table : TypeTable} {id : TypeId}

private theorem isString_iff : table.isString id = true ↔ table.get? id = some
    (.basic "string") := by
  unfold isString
  cases table.get? id with
  | none => simp
  | some info => cases info <;> simp

theorem isErrorMethod_iff {method : Method} :
    table.isErrorMethod method = true ↔ method.IsError table := by
  obtain ⟨name, pointerReceiver, params, results⟩ := method
  simp only [isErrorMethod, Bool.and_eq_true, beq_iff_eq, List.isEmpty_iff]
  constructor
  · rintro ⟨⟨named, noParams⟩, result⟩
    refine ⟨named, noParams, ?_⟩
    cases results with
    | nil => cases result
    | cons first rest =>
        cases rest with
        | cons second rest => cases result
        | nil => exact ⟨first, rfl, isString_iff.mp result⟩
  · rintro ⟨named, noParams, first, only, isString⟩
    simp only at named noParams only
    subst only
    exact ⟨⟨named, noParams⟩, isString_iff.mpr isString⟩

private theorem any_interfaceMethods_iff {underlying : Option TypeId} :
    (table.interfaceMethods underlying).any table.isErrorMethod = true ↔
      ∃ inner, underlying = some inner ∧ table.IsErrorInterface inner := by
  cases underlying with
  | none => simp [interfaceMethods]
  | some inner =>
      simp only [interfaceMethods, Option.bind_some, Option.some.injEq, exists_eq_left',
        IsErrorInterface]
      cases table.get? inner with
      | none => simp
      | some info => cases info <;> simp [isErrorMethod_iff]

theorem not_isNamedError_of_entry {info : TypeInfo} (entry : table.get? id = some info)
    (unnamed : isNamed info = false) (throughPointer : Bool) :
    ¬table.IsNamedError throughPointer id := by
  rintro ⟨_, _, _, _, named, _⟩
  cases entry.symm.trans named
  cases unnamed

/-- Through a pointer more methods are reached. -/
theorem IsNamedError.throughPointer (named : table.IsNamedError false id) :
    table.IsNamedError true id := by
  obtain ⟨package, name, underlying, methods, entry, own | inherited⟩ := named
  · obtain ⟨method, member, _, isError⟩ := own
    exact ⟨package, name, underlying, methods, entry,
      Or.inl ⟨method, member, Or.inl rfl, isError⟩⟩
  · exact ⟨package, name, underlying, methods, entry, Or.inr inherited⟩

theorem errorCapable_pointer_iff {elem : TypeId} (entry : table.get? id = some (.pointer elem)) :
    table.ErrorCapable id ↔ table.IsNamedError true elem := by
  constructor
  · rintro (named | ⟨other, named⟩)
    · exact absurd named (not_isNamedError_of_entry entry rfl false)
    · cases entry.symm.trans other
      exact named
  · exact .pointer entry

theorem errorCapable_value_iff (entry : ∀ elem, table.get? id ≠ some (.pointer elem)) :
    table.ErrorCapable id ↔ table.IsNamedError false id := by
  constructor
  · rintro (named | ⟨pointer, _⟩)
    · exact named
    · exact absurd pointer (entry _)
  · exact .value

end

end TypeTable

end ZeroError.Go

namespace ZeroError.Analysis

open ZeroError.Go

/-- The two answers about a type that decide on a declaration, taken together. -/
theorem isErrorCapable_iff {table : TypeTable} {id : TypeId} {facts : TypeFacts}
    (found : table.resolve id = some facts) (throughPointer : Bool) :
    isErrorCapable facts throughPointer = true ↔ table.IsNamedError throughPointer id := by
  obtain ⟨info, entry, rfl⟩ := Option.map_eq_some_iff.mp found
  have answer : isErrorCapable
      { isNamed := TypeTable.isNamed info
        implementsError := table.hasErrorMethod id false
        pointerImplementsError := table.hasErrorMethod id true
        pointerTo := TypeTable.pointerTo? info } throughPointer =
      (TypeTable.isNamed info && table.hasErrorMethod id throughPointer) := by
    cases throughPointer with
    | false => rfl
    | true => rfl
  rw [answer, TypeTable.IsNamedError, TypeTable.hasErrorMethod, entry]
  cases info with
  | named package name underlying methods =>
      simp only [TypeTable.isNamed, Bool.true_and, Bool.or_eq_true]
      rw [TypeTable.any_interfaceMethods_iff]
      simp only [List.any_eq_true, List.mem_filter, Bool.or_eq_true, Bool.not_eq_true',
        TypeTable.isErrorMethod_iff, and_assoc]
      constructor
      · intro has
        exact ⟨package, name, underlying, methods, rfl, has⟩
      · rintro ⟨_, _, _, _, same, has⟩
        cases same
        exact has
  | _ =>
      simp only [TypeTable.isNamed, Bool.false_and, Bool.false_eq_true, false_iff]
      rintro ⟨_, _, _, _, same, _⟩
      cases same

theorem isErrorType_iff {table : TypeTable} {id : TypeId} :
    isErrorType table id = true ↔ table.ErrorCapable id := by
  unfold isErrorType
  cases found : table.resolve id with
  | none =>
      have absent : table.get? id = none := Option.map_eq_none_iff.mp found
      rw [TypeTable.errorCapable_value_iff (by simp [absent])]
      simp [TypeTable.IsNamedError, absent]
  | some facts =>
      obtain ⟨info, entry, rfl⟩ := Option.map_eq_some_iff.mp found
      cases info with
      | pointer elem =>
          rw [TypeTable.errorCapable_pointer_iff entry]
          simp only [errorTarget, TypeTable.pointerTo?]
          cases target : table.resolve elem with
          | none =>
              have absent : table.get? elem = none := Option.map_eq_none_iff.mp target
              simp [TypeTable.IsNamedError, absent]
          | some reached => exact isErrorCapable_iff target true
      | _ =>
          rw [TypeTable.errorCapable_value_iff (by simp [entry])]
          exact isErrorCapable_iff found false

instance (table : TypeTable) (id : TypeId) : Decidable (table.ErrorCapable id) :=
  decidable_of_iff (isErrorType table id = true) isErrorType_iff

/-- The line has a type of errors and no values, and declares the names. -/
def LeavesErrors (table : TypeTable) (spec : Spec) (names : List String) : Prop :=
  ∃ idents type, spec = .value ⟨idents, some type, []⟩ ∧ table.ErrorCapable type.typeId ∧
    names = idents.map Ident.name

/-- A declaration of variables in a single line without values. -/
def zeroVar (idents : List Ident) (type : TypeExpr) (pos : Pos) : Stmt :=
  .decl ⟨.var, [.value ⟨idents, some type, []⟩], pos⟩

private theorem leavesErrors_iff {table : TypeTable} {spec : Spec} {names : List String} :
    LeavesErrors table spec names ↔
      ∃ line, spec.zeroLine? = some line ∧ isErrorType table line.2 = true ∧ names = line.1 := by
  constructor
  · rintro ⟨idents, type, rfl, capable, rfl⟩
    exact ⟨(idents.map Ident.name, type.typeId), rfl, isErrorType_iff.mpr capable, rfl⟩
  · rintro ⟨line, found, capable, rfl⟩
    cases spec with
    | type spec => cases found
    | value spec =>
        obtain ⟨idents, type, values⟩ := spec
        cases type with
        | none => cases found
        | some type =>
            cases values with
            | cons value values => cases found
            | nil =>
                cases found
                exact ⟨idents, type, rfl, isErrorType_iff.mp capable, rfl⟩

theorem value_atRiskOfSpecs_eq_some_iff {table : TypeTable} {specs : List Spec}
    {names : List String} :
    (atRiskOfSpecs table specs).value = some names ↔
      ∃ before spec after, specs = before ++ spec :: after ∧ LeavesErrors table spec names ∧
        ∀ other ∈ before, ∀ others, ¬LeavesErrors table other others := by
  have counts (spec : Spec) :
      spec.zeroLine?.any (fun line => isErrorType table line.2) = true ↔
        ∃ others, LeavesErrors table spec others := by
    simp only [leavesErrors_iff, Option.any_eq_true]
    constructor
    · rintro ⟨line, found, capable⟩
      exact ⟨line.1, line, found, capable, rfl⟩
    · rintro ⟨_, line, found, capable, _⟩
      exact ⟨line, found, capable⟩
  rw [value_atRiskOfSpecs, List.find?_filterMap, Option.map_eq_some_iff]
  constructor
  · rintro ⟨line, found, rfl⟩
    obtain ⟨spec, first, isLine⟩ := Option.bind_eq_some_iff.mp found
    obtain ⟨capable, before, after, split, skipped⟩ := List.find?_eq_some_iff_append.mp first
    refine ⟨before, spec, after, split, leavesErrors_iff.mpr ⟨line, isLine, ?_, rfl⟩, ?_⟩
    · rwa [isLine] at capable
    · intro other member others leaves
      have rejected := skipped other member
      rw [(counts other).mpr ⟨others, leaves⟩] at rejected
      cases rejected
  · rintro ⟨before, spec, after, split, leaves, skipped⟩
    obtain ⟨line, isLine, capable, rfl⟩ := leavesErrors_iff.mp leaves
    refine ⟨line, Option.bind_eq_some_iff.mpr ⟨spec, ?_, isLine⟩, rfl⟩
    refine List.find?_eq_some_iff_append.mpr ⟨(counts spec).mpr ⟨_, leaves⟩, before, after, split, ?_⟩
    intro other member
    rw [Bool.not_eq_true', ← Bool.not_eq_true]
    intro counted
    obtain ⟨others, otherLeaves⟩ := (counts other).mp counted
    exact skipped other member others otherLeaves

private theorem value_atRiskNames_zeroVar (table : TypeTable) (idents : List Ident)
    (type : TypeExpr)
    (pos : Pos) :
    (atRiskNames table (zeroVar idents type pos)).value =
      if table.ErrorCapable type.typeId then some (idents.map Ident.name) else none := by
  change (atRiskOfSpecs table [.value ⟨idents, some type, []⟩]).value = _
  rw [value_atRiskOfSpecs]
  simp only [Spec.zeroLine?, List.filterMap_cons, List.filterMap_nil, List.find?_cons,
    List.find?_nil, ← isErrorType_iff]
  cases isErrorType table type.typeId with
  | true => rfl
  | false => rfl

/-- The names at risk after a statement are those of the first line of a `var` declaration that has a
type of errors and no values. If a type counts then so does a pointer to it, unless that is a pointer to
a pointer; these never count, nor do interfaces without a name and pointers to them. -/
theorem atRiskNames_of_first_error_line (table : TypeTable) :
    (∀ stmt names, (atRiskNames table stmt).value = some names ↔
      ∃ before spec after pos, stmt = .decl ⟨.var, before ++ spec :: after, pos⟩ ∧
        LeavesErrors table spec names ∧
        ∀ other ∈ before, ∀ others, ¬LeavesErrors table other others) ∧
    (∀ idents pos type pointer, table.get? pointer.typeId = some (.pointer type.typeId) →
      (atRiskNames table (zeroVar idents type pos)).value = some (idents.map Ident.name) →
      ((atRiskNames table (zeroVar idents pointer pos)).value = some (idents.map Ident.name) ↔
        ∀ elem, table.get? type.typeId ≠ some (.pointer elem))) ∧
    (∀ idents pos type elem inner, table.get? type.typeId = some (.pointer elem) →
      table.get? elem = some (.pointer inner) →
      (atRiskNames table (zeroVar idents type pos)).value = none) ∧
    ∀ idents pos type id methods, table.get? id = some (.interface methods) →
      type.typeId = id ∨ table.get? type.typeId = some (.pointer id) →
      (atRiskNames table (zeroVar idents type pos)).value = none := by
  have pointerToPointer (idents : List Ident) (pos : Pos) (type : TypeExpr) (elem inner : TypeId)
      (entry : table.get? type.typeId = some (.pointer elem))
      (innerEntry : table.get? elem = some (.pointer inner)) :
      (atRiskNames table (zeroVar idents type pos)).value = none := by
    rw [value_atRiskNames_zeroVar]
    apply if_neg
    rw [TypeTable.errorCapable_pointer_iff entry]
    exact TypeTable.not_isNamedError_of_entry innerEntry rfl true
  refine ⟨?_, ?_, pointerToPointer, ?_⟩
  · intro stmt names
    constructor
    · intro found
      cases stmt with
      | decl declaration =>
          obtain ⟨tok, specs, pos⟩ := declaration
          cases tok with
          | var =>
              obtain ⟨before, spec, after, rfl, first⟩ := value_atRiskOfSpecs_eq_some_iff.mp found
              exact ⟨before, spec, after, pos, rfl, first⟩
          | const => cases found
          | type => cases found
      | _ => cases found
    · rintro ⟨before, spec, after, pos, rfl, first⟩
      exact value_atRiskOfSpecs_eq_some_iff.mpr ⟨before, spec, after, rfl, first⟩
  · intro idents pos type pointer entry found
    constructor
    · intro pointerFound elem innerEntry
      rw [pointerToPointer idents pos pointer type.typeId elem entry innerEntry] at pointerFound
      cases pointerFound
    · intro notPointer
      rw [value_atRiskNames_zeroVar] at found ⊢
      have capable : table.ErrorCapable type.typeId := by
        by_contra incapable
        rw [if_neg incapable] at found
        cases found
      have named := (TypeTable.errorCapable_value_iff notPointer).mp capable
      exact if_pos (.pointer entry named.throughPointer)
  · intro idents pos type id methods entry reached
    rw [value_atRiskNames_zeroVar]
    apply if_neg
    rcases reached with rfl | pointer
    · rw [TypeTable.errorCapable_value_iff (by simp [entry])]
      exact TypeTable.not_isNamedError_of_entry entry rfl false
    · rw [TypeTable.errorCapable_pointer_iff pointer]
      exact TypeTable.not_isNamedError_of_entry entry rfl true

/-- A type of errors, pointers to it, an interface without a name, and a pointer to itself. -/
def nestedTypes : TypeTable :=
  ⟨[.basic "string", .named (some "a") "Fault" (some ⟨9⟩) [{ name := "Error", results := [⟨0⟩] }],
    .pointer ⟨1⟩, .pointer ⟨2⟩, .interface [{ name := "Error", results := [⟨0⟩] }], .pointer ⟨5⟩]⟩

/-- A declaration of `x` with a type of `nestedTypes`. -/
def nestedVar (number : UInt32) : Stmt :=
  zeroVar [⟨"x", {}⟩] ⟨.ident ⟨"T", {}⟩, ⟨number⟩⟩ {}

theorem atRiskNames_of_first_error_line_nested :
    (atRiskNames nestedTypes (nestedVar 1)).value = some ["x"] ∧
      (atRiskNames nestedTypes (nestedVar 2)).value = some ["x"] ∧
      (atRiskNames nestedTypes (nestedVar 3)).value = none ∧
      (atRiskNames nestedTypes (nestedVar 5)).value = none ∧
      (atRiskNames nestedTypes (nestedVar 4)).value = none := by
  obtain ⟨lines, pointers, twice, interfaces⟩ := atRiskNames_of_first_error_line nestedTypes
  have named : (atRiskNames nestedTypes (nestedVar 1)).value = some ["x"] :=
    (lines (nestedVar 1) ["x"]).mpr
      ⟨[], _, [], {}, rfl, ⟨_, _, rfl, by decide, rfl⟩, fun other member => by cases member⟩
  refine ⟨named, ?_, twice _ _ _ ⟨2⟩ ⟨1⟩ rfl rfl, twice _ _ _ ⟨5⟩ ⟨5⟩ rfl rfl, ?_⟩
  · exact (pointers _ _ _ _ rfl named).mpr (fun elem entry => by cases entry)
  · exact interfaces _ _ _ ⟨4⟩ _ rfl (Or.inl rfl)

end ZeroError.Analysis
