import ZeroError.Document.Reader
import ZeroError.Proofs.Attempts

/-!
When records and choices can be read, and what is read then. Reading goes through an object entry by
entry and fails at the first fault, but whether it succeeds does not depend on that order: it is
told by conditions on the single entries and by what stands under each name.

The main statements are `Fields.ofEntries_eq_ok_iff` and `Fields.ofItems_eq_ok_iff` for the two
forms of a record, `Reader.tagged_object_eq_ok_iff` and `Reader.tagged_list_eq_ok_iff` for those of
a choice.
-/

namespace ZeroError.Document

open ZeroError.Attempts

/-- An item is found by its name if no two have the same. -/
theorem find?_of_distinct {α : Type} {name : α → String} {items : List α} {item : α}
    (distinct : (items.map name).Nodup) (member : item ∈ items) :
    items.find? (fun other => name other = name item) = some item := by
  induction items with
  | nil => cases member
  | cons first items ih =>
      obtain ⟨absent, restDistinct⟩ := List.nodup_cons.mp distinct
      rcases List.mem_cons.mp member with rfl | later
      · exact List.find?_cons_of_pos (decide_eq_true rfl)
      · have different : name first ≠ name item :=
          fun same => absent (List.mem_map.mpr ⟨item, later, same.symm⟩)
        rw [List.find?_cons_of_neg (by exact fun hit => different (of_decide_eq_true hit))]
        exact ih restDistinct later

/-- The values under a name, in the order of the text. -/
def valuesAt (name : String) (entries : List (Literal × Tree)) : List Tree :=
  (entries.filter (fun entry => entry.1.text = name)).map Prod.snd

theorem valuesAt_cons (name : String) (entry : Literal × Tree) (entries : List (Literal × Tree)) :
    valuesAt name (entry :: entries) =
      if entry.1.text = name then entry.2 :: valuesAt name entries else valuesAt name entries := by
  by_cases same : entry.1.text = name
  · rw [if_pos same, valuesAt, List.filter_cons_of_pos (by exact decide_eq_true same)]
    rfl
  · rw [if_neg same, valuesAt,
      List.filter_cons_of_neg (by exact fun hit => same (of_decide_eq_true hit))]
    rfl

theorem Literal.keep_eq_ok_iff {literal : Literal} {name : String} :
    literal.keep = .ok name ↔ literal.unpaired = none ∧ literal.text = name := by
  obtain ⟨text, unpaired⟩ := literal
  cases unpaired with
  | none => simp only [Literal.keep, Except.ok.injEq, true_and]
  | some unpaired => simp only [Literal.keep, reduceCtorEq, false_and]

/-- Whether an entry can be passed where these names are known: its key is sound, and its value too
if it is passed by. -/
def Passes (names : List String) (entry : Literal × Tree) : Prop :=
  entry.1.unpaired = none ∧ (entry.1.text ∉ names → entry.2.skip = .ok ())

namespace FieldRule

variable {α : Type} {field : FieldRule α} {mode : Mode}

/-- Whether a field has the given value when these are the values under its name. -/
def Takes (field : FieldRule α) (mode : Mode) : List Tree → α → Prop
  | [], value => field.default? = some value
  | [tree], value => field.read mode tree = .ok value
  | _ :: _ :: _, _ => False

/-- Whether a place for a field holds what the values under its name have given so far. -/
def Fills (field : FieldRule α) (mode : Mode) : List Tree → Option α → Prop
  | [], slot => slot = none
  | [tree], slot => ∃ value, field.read mode tree = .ok value ∧ slot = some value
  | _ :: _ :: _, _ => False

theorem Fills.unique {trees : List Tree} {first second : Option α}
    (held : field.Fills mode trees first) (other : field.Fills mode trees second) :
    first = second := by
  match trees with
  | [] => exact held.trans other.symm
  | [tree] =>
      obtain ⟨value, read, rfl⟩ := held
      obtain ⟨again, readAgain, rfl⟩ := other
      rw [Except.ok.inj (read.symm.trans readAgain)]
  | _ :: _ :: _ => exact held.elim

theorem Fills.earlier {before after : List Tree} {slot : Option α}
    (held : field.Fills mode (before ++ after) slot) : ∃ earlier, field.Fills mode before earlier := by
  match before with
  | [] => exact ⟨none, rfl⟩
  | [tree] =>
      cases after with
      | nil => exact ⟨slot, held⟩
      | cons _ _ => exact held.elim
  | _ :: _ :: _ => exact held.elim

/-- One value more fills a place that is still empty. -/
theorem Fills.snoc_iff {trees : List Tree} {tree : Tree} {slot later : Option α}
    (held : field.Fills mode trees slot) :
    field.Fills mode (trees ++ [tree]) later ↔
      slot = none ∧ ∃ value, field.read mode tree = .ok value ∧ later = some value := by
  match trees with
  | [] =>
      constructor
      · exact fun filled => ⟨held, filled⟩
      · exact fun filled => filled.2
  | [_] =>
      obtain ⟨value, _, rfl⟩ := held
      constructor
      · exact fun impossible => impossible.elim
      · rintro ⟨impossible, _⟩
        cases impossible
  | _ :: _ :: _ => exact held.elim

theorem Takes.exists_fills {trees : List Tree} {value : α} (taken : field.Takes mode trees value) :
    ∃ slot, field.Fills mode trees slot := by
  match trees with
  | [] => exact ⟨none, rfl⟩
  | [tree] => exact ⟨some value, value, taken, rfl⟩
  | _ :: _ :: _ => exact taken.elim

theorem Fills.orElse_eq_some_iff {trees : List Tree} {slot : Option α} {value : α}
    (held : field.Fills mode trees slot) :
    (slot <|> field.default?) = some value ↔ field.Takes mode trees value := by
  match trees with
  | [] =>
      rw [show slot = none from held]
      exact Iff.rfl
  | [tree] =>
      obtain ⟨known, read, rfl⟩ := held
      have given : field.Takes mode [tree] value ↔ known = value := by
        rw [Takes, read, Except.ok.injEq]
      rw [given]
      exact Option.some_inj
  | _ :: _ :: _ => exact held.elim

end FieldRule

/-! ### Records read entry by entry -/

namespace Slots

variable {α : Type} {types : List Type}

def cons (slot : Option α) (slots : Slots types) : Slots (α :: types) :=
  (slot, slots)

theorem eq_cons (slots : Slots (α :: types)) : ∃ slot others, slots = cons slot others :=
  ⟨slots.1, slots.2, rfl⟩

theorem cons_inj {slot slot' : Option α} {slots slots' : Slots types} :
    cons slot slots = cons slot' slots' ↔ slot = slot' ∧ slots = slots' :=
  Prod.mk.injEq slot slots slot' slots' ▸ Iff.rfl

end Slots

namespace Values

variable {α : Type} {types : List Type}

def cons (value : α) (values : Values types) : Values (α :: types) :=
  (value, values)

theorem eq_cons (values : Values (α :: types)) : ∃ value others, values = cons value others :=
  ⟨values.1, values.2, rfl⟩

theorem cons_inj {value value' : α} {values values' : Values types} :
    cons value values = cons value' values' ↔ value = value' ∧ values = values' :=
  Prod.mk.injEq value values value' values' ▸ Iff.rfl

end Values

namespace Fields

variable {α : Type} {types : List Type} {mode : Mode}

def names : {types : List Type} → Fields types → List String
  | _, nil => []
  | _, cons field rest => field.name :: rest.names

/-- Whether the fields have the given values when `found` says what stands under each name. -/
def Give : {types : List Type} → Fields types → Mode → (String → List Tree) → Values types → Prop
  | _, nil, _, _, _ => True
  | _, cons field rest, mode, found, (value, values) =>
      field.Takes mode (found field.name) value ∧ rest.Give mode found values

/-- Whether the places for the fields hold what has been found under each name so far. -/
def Hold : {types : List Type} → Fields types → Mode → (String → List Tree) → Slots types → Prop
  | _, nil, _, _, _ => True
  | _, cons field rest, mode, found, (slot, slots) =>
      field.Fills mode (found field.name) slot ∧ rest.Hold mode found slots

theorem give_cons {field : FieldRule α} {rest : Fields types} {found : String → List Tree}
    {value : α} {values : Values types} :
    (cons field rest).Give mode found (.cons value values) ↔
      field.Takes mode (found field.name) value ∧ rest.Give mode found values :=
  Iff.rfl

theorem Give.congr {fields : Fields types} {first second : String → List Tree}
    {values : Values types} (same : ∀ name ∈ fields.names, first name = second name) :
    fields.Give mode first values ↔ fields.Give mode second values := by
  induction fields with
  | nil => exact Iff.rfl
  | cons field rest ih =>
      obtain ⟨value, values, rfl⟩ := values.eq_cons
      rw [give_cons, give_cons, same field.name List.mem_cons_self,
        ih (fun name member => same name (List.mem_cons_of_mem _ member))]

theorem hold_cons {field : FieldRule α} {rest : Fields types} {found : String → List Tree}
    {slot : Option α} {slots : Slots types} :
    (cons field rest).Hold mode found (.cons slot slots) ↔
      field.Fills mode (found field.name) slot ∧ rest.Hold mode found slots :=
  Iff.rfl

private theorem hold_empty (fields : Fields types) (mode : Mode) :
    fields.Hold mode (fun _ => []) (Slots.empty types) := by
  induction fields with
  | nil => trivial
  | cons field rest ih => exact ⟨rfl, ih⟩

theorem Hold.unique {fields : Fields types} {found : String → List Tree} {first second : Slots types}
    (held : fields.Hold mode found first) (other : fields.Hold mode found second) :
    first = second := by
  induction fields with
  | nil => rfl
  | cons field rest ih =>
      obtain ⟨slot, slots, rfl⟩ := first.eq_cons
      obtain ⟨slot', slots', rfl⟩ := second.eq_cons
      exact Slots.cons_inj.mpr ⟨held.1.unique other.1, ih held.2 other.2⟩

theorem Hold.congr {fields : Fields types} {first second : String → List Tree} {slots : Slots types}
    (same : ∀ name ∈ fields.names, first name = second name) :
    fields.Hold mode first slots ↔ fields.Hold mode second slots := by
  induction fields with
  | nil => exact Iff.rfl
  | cons field rest ih =>
      obtain ⟨slot, slots, rfl⟩ := slots.eq_cons
      rw [hold_cons, hold_cons, same field.name List.mem_cons_self,
        ih (fun name member => same name (List.mem_cons_of_mem _ member))]

private theorem Hold.earlier {fields : Fields types} {before after : String → List Tree}
    {slots : Slots types}
    (held : fields.Hold mode (fun name => before name ++ after name) slots) :
    ∃ earlier, fields.Hold mode before earlier := by
  induction fields with
  | nil => exact ⟨(), trivial⟩
  | cons field rest ih =>
      obtain ⟨slot, slots, rfl⟩ := slots.eq_cons
      obtain ⟨earlier, here⟩ := held.1.earlier
      obtain ⟨others, there⟩ := ih held.2
      exact ⟨.cons earlier others, here, there⟩

theorem put_cons (field : FieldRule α) (rest : Fields types) (mode : Mode) (name : String)
    (tree : Tree) (slot : Option α) (slots : Slots types) :
    (cons field rest).put mode name tree (.cons slot slots) =
      if name = field.name then
        match slot with
        | some _ => some (.error (.duplicateField name))
        | none => some ((field.read mode tree).map (fun value => .cons (some value) slots))
      else (rest.put mode name tree slots).map (Except.map (Slots.cons slot)) :=
  rfl

theorem put_eq_none_iff {fields : Fields types} {name : String} {tree : Tree} {slots : Slots types} :
    fields.put mode name tree slots = none ↔ name ∉ fields.names := by
  induction fields with
  | nil => exact ⟨fun _ => List.not_mem_nil, fun _ => rfl⟩
  | cons field rest ih =>
      obtain ⟨slot, slots, rfl⟩ := slots.eq_cons
      rw [put_cons, names, List.mem_cons, not_or]
      by_cases here : name = field.name
      · rw [if_pos here]
        constructor
        · intro nothing
          cases slot with
          | none => cases nothing
          | some _ => cases nothing
        · exact fun absent => absurd here absent.1
      · rw [if_neg here, Option.map_eq_none_iff, ih]
        exact (and_iff_right here).symm

/-- Putting a value into its place succeeds if the places hold then what has been found with that
value added. -/
theorem put_eq_ok_iff {fields : Fields types} {name : String} {tree : Tree}
    {found : String → List Tree} {slots later : Slots types} (distinct : fields.names.Nodup)
    (known : name ∈ fields.names) (held : fields.Hold mode found slots) :
    fields.put mode name tree slots = some (.ok later) ↔
      fields.Hold mode (fun other => found other ++ if name = other then [tree] else []) later := by
  induction fields with
  | nil => cases known
  | cons field rest ih =>
      obtain ⟨slot, slots, rfl⟩ := slots.eq_cons
      obtain ⟨slot', slots', rfl⟩ := later.eq_cons
      obtain ⟨absent, restDistinct⟩ := List.nodup_cons.mp distinct
      obtain ⟨slotHeld, slotsHeld⟩ := held
      rw [put_cons, hold_cons]
      by_cases here : name = field.name
      · subst here
        have others : rest.Hold mode
              (fun other => found other ++ if field.name = other then [tree] else []) slots' ↔
            slots = slots' := by
          refine (Hold.congr ?_).trans ⟨slotsHeld.unique, fun equal => equal ▸ slotsHeld⟩
          intro other member
          have different : field.name ≠ other := fun equal => absent (equal ▸ member)
          rw [if_neg different, List.append_nil]
        rw [if_pos rfl, if_pos rfl, slotHeld.snoc_iff, others]
        cases slot with
        | some _ =>
            constructor
            · intro failed
              cases Option.some.inj failed
            · rintro ⟨⟨impossible, _⟩, _⟩
              cases impossible
        | none =>
            simp only [Option.some.injEq, map_eq_ok_iff, Slots.cons_inj, true_and]
            constructor
            · rintro ⟨value, read, rfl, rfl⟩
              exact ⟨⟨value, read, rfl⟩, rfl⟩
            · rintro ⟨⟨value, read, rfl⟩, rfl⟩
              exact ⟨value, read, rfl, rfl⟩
      · have there : name ∈ rest.names := (List.mem_cons.mp known).resolve_left here
        rw [if_neg here, if_neg here, List.append_nil, ← ih restDistinct there slotsHeld]
        simp only [Option.map_eq_some_iff, map_eq_ok_iff, Slots.cons_inj]
        constructor
        · rintro ⟨result, placed, others, rfl, rfl, rfl⟩
          exact ⟨slotHeld, placed⟩
        · rintro ⟨filled, placed⟩
          exact ⟨_, placed, slots', rfl, slotHeld.unique filled, rfl⟩

theorem readEntries_cons (fields : Fields types) (mode : Mode) (name : String) (tree : Tree)
    (entries : List (Literal × Tree)) (slots : Slots types) :
    fields.readEntries mode slots ((⟨name, none⟩, tree) :: entries) =
      match fields.put mode name tree slots with
      | some result => result >>= (fields.readEntries mode · entries)
      | none => tree.skip >>= fun _ => fields.readEntries mode slots entries :=
  rfl

private theorem readEntries_known_iff {fields : Fields types} {name : String} {tree : Tree}
    {entries : List (Literal × Tree)} {slots filled : Slots types} (known : name ∈ fields.names) :
    fields.readEntries mode slots ((⟨name, none⟩, tree) :: entries) = .ok filled ↔
      ∃ later, fields.put mode name tree slots = some (.ok later) ∧
        fields.readEntries mode later entries = .ok filled := by
  rw [readEntries_cons]
  cases placed : fields.put mode name tree slots with
  | none => exact absurd known (put_eq_none_iff.mp placed)
  | some result => simp only [bind_eq_ok_iff, Option.some.injEq]

private theorem readEntries_unknown_iff {fields : Fields types} {name : String} {tree : Tree}
    {entries : List (Literal × Tree)} {slots filled : Slots types} (unknown : name ∉ fields.names) :
    fields.readEntries mode slots ((⟨name, none⟩, tree) :: entries) = .ok filled ↔
      tree.skip = .ok () ∧ fields.readEntries mode slots entries = .ok filled := by
  rw [readEntries_cons, put_eq_none_iff.mpr unknown]
  exact check_eq_ok_iff

-- The induction carries along what has been found before the entries that are left.
private theorem readEntries_eq_ok_iff {fields : Fields types} (distinct : fields.names.Nodup)
    {entries : List (Literal × Tree)} {found : String → List Tree} {slots filled : Slots types}
    (held : fields.Hold mode found slots) :
    fields.readEntries mode slots entries = .ok filled ↔
      (∀ entry ∈ entries, Passes fields.names entry) ∧
        fields.Hold mode (fun name => found name ++ valuesAt name entries) filled := by
  induction entries generalizing found slots with
  | nil =>
      have same : (fun name => found name ++ valuesAt name []) = found :=
        funext (fun name => List.append_nil (found name))
      rw [readEntries, same, Except.ok.injEq]
      constructor
      · rintro rfl
        exact ⟨fun entry member => absurd member List.not_mem_nil, held⟩
      · exact fun done => held.unique done.2
  | cons entry entries ih =>
      obtain ⟨⟨name, unpaired⟩, tree⟩ := entry
      rw [List.forall_mem_cons, Passes]
      cases unpaired with
      | some unpaired =>
          constructor
          · intro failed
            cases failed
          · rintro ⟨⟨⟨impossible, _⟩, _⟩, _⟩
            cases impossible
      | none =>
          by_cases known : name ∈ fields.names
          · have added : (fun other => found other ++ valuesAt other ((⟨name, none⟩, tree) :: entries)) =
                (fun other => (found other ++ if name = other then [tree] else []) ++
                  valuesAt other entries) := by
              funext other
              rw [valuesAt_cons]
              split
              · exact List.append_cons _ _ _
              · rw [List.append_nil]
            rw [readEntries_known_iff known, added]
            constructor
            · rintro ⟨later, placed, read⟩
              obtain ⟨passed, filledHeld⟩ := (ih ((put_eq_ok_iff distinct known held).mp placed)).mp read
              exact ⟨⟨⟨rfl, fun unknown => absurd known unknown⟩, passed⟩, filledHeld⟩
            · rintro ⟨⟨_, passed⟩, filledHeld⟩
              obtain ⟨later, laterHeld⟩ := filledHeld.earlier
              exact ⟨later, (put_eq_ok_iff distinct known held).mpr laterHeld,
                (ih laterHeld).mpr ⟨passed, filledHeld⟩⟩
          · have unchanged : ∀ other ∈ fields.names,
                found other ++ valuesAt other ((⟨name, none⟩, tree) :: entries) =
                  found other ++ valuesAt other entries := by
              intro other member
              have different : name ≠ other := fun equal => known (equal ▸ member)
              rw [valuesAt_cons, if_neg different]
            rw [readEntries_unknown_iff known, ih held, Hold.congr unchanged]
            constructor
            · rintro ⟨skipped, passed, filledHeld⟩
              exact ⟨⟨⟨rfl, fun _ => skipped⟩, passed⟩, filledHeld⟩
            · rintro ⟨⟨⟨_, skipped⟩, passed⟩, filledHeld⟩
              exact ⟨skipped known, passed, filledHeld⟩

private theorem exists_hold {fields : Fields types} {found : String → List Tree}
    {values : Values types}
    (given : fields.Give mode found values) : ∃ slots, fields.Hold mode found slots := by
  induction fields with
  | nil => exact ⟨(), trivial⟩
  | cons field rest ih =>
      obtain ⟨value, values, rfl⟩ := values.eq_cons
      obtain ⟨slot, filled⟩ := given.1.exists_fills
      obtain ⟨slots, held⟩ := ih given.2
      exact ⟨.cons slot slots, filled, held⟩

private theorem collect_cons {α : Type} {field : FieldRule α} {rest : Fields types}
    {slot : Option α}
    {slots : Slots types} :
    (cons field rest).collect (.cons slot slots) =
      (slot <|> field.default?).elim (.error (.missingField field.name))
        fun value => (rest.collect slots).map (Values.cons value) := by
  change (cons field rest).collect (slot, slots) = _
  rw [collect]
  cases slot <|> field.default? with
  | none => rfl
  | some value => rfl

private theorem collect_eq_ok_iff {fields : Fields types} {found : String → List Tree}
    {slots : Slots types}
    {values : Values types} (held : fields.Hold mode found slots) :
    fields.collect slots = .ok values ↔ fields.Give mode found values := by
  induction fields with
  | nil => exact ⟨fun _ => trivial, fun _ => rfl⟩
  | cons field rest ih =>
      obtain ⟨slot, slots, rfl⟩ := slots.eq_cons
      obtain ⟨value, values, rfl⟩ := values.eq_cons
      rw [give_cons, ← held.1.orElse_eq_some_iff, ← ih held.2, collect_cons]
      cases slot <|> field.default? with
      | none => simp only [Option.elim_none, reduceCtorEq, false_and]
      | some known =>
          simp only [Option.elim_some, map_eq_ok_iff, Values.cons_inj, Option.some.injEq]
          constructor
          · rintro ⟨others, collected, rfl, rfl⟩
            exact ⟨rfl, collected⟩
          · rintro ⟨rfl, collected⟩
            exact ⟨values, collected, rfl, rfl⟩

/-- The values of a record are told by what stands under the name of each field. -/
theorem ofEntries_eq_ok_iff {fields : Fields types} (distinct : fields.names.Nodup)
    {entries : List (Literal × Tree)} {ending : ObjectEnd} {values : Values types} :
    fields.ofEntries mode entries ending = .ok values ↔
      ending.keep = .ok () ∧ (∀ entry ∈ entries, Passes fields.names entry) ∧
        fields.Give mode (valuesAt · entries) values := by
  have read : ∀ filled, fields.readEntries mode (Slots.empty types) entries = .ok filled ↔
      (∀ entry ∈ entries, Passes fields.names entry) ∧ fields.Hold mode (valuesAt · entries) filled :=
    fun _ => readEntries_eq_ok_iff distinct (fields.hold_empty mode)
  rw [ofEntries, bind_eq_ok_iff]
  simp only [check_eq_ok_iff, read]
  constructor
  · rintro ⟨slots, ⟨passed, held⟩, ended, collected⟩
    exact ⟨ended, passed, (collect_eq_ok_iff held).mp collected⟩
  · rintro ⟨ended, passed, given⟩
    obtain ⟨slots, held⟩ := exists_hold given
    exact ⟨slots, ⟨passed, held⟩, ended, (collect_eq_ok_iff held).mpr given⟩

/-! ### Records read from a list -/

/-- Whether the fields have the given values when the items are read one after another. -/
def GiveItems : {types : List Type} → Fields types → Mode → List Tree → Values types → Prop
  | _, nil, _, items, _ => items = []
  | _, cons field rest, mode, items, (value, values) =>
      field.Takes mode (items.take 1) value ∧ rest.GiveItems mode (items.drop 1) values

theorem giveItems_cons {field : FieldRule α} {rest : Fields types} {items : List Tree}
    {value : α} {values : Values types} :
    (cons field rest).GiveItems mode items (.cons value values) ↔
      field.Takes mode (items.take 1) value ∧ rest.GiveItems mode (items.drop 1) values :=
  Iff.rfl

private theorem readItems_cons (field : FieldRule α) (rest : Fields types) (wanted : Wanted)
    (mode : Mode)
    (index : Nat) (items : List Tree) (ending : ListEnd) :
    (cons field rest).readItems wanted mode index items ending =
      match items with
      | item :: items =>
          field.read mode item >>= fun value =>
            (rest.readItems wanted mode (index + 1) items ending).map
              (fun result => (Values.cons value result.1, result.2))
      | [] =>
          ending.keep >>= fun _ =>
            match field.default? with
            | none => .error (.invalidLength index wanted)
            | some value =>
                (rest.readItems wanted mode (index + 1) [] ending).map
                  (fun result => (Values.cons value result.1, result.2)) := by
  cases items with
  | nil => rfl
  | cons item items => rfl

private theorem readItems_eq_ok_iff {fields : Fields types} {wanted : Wanted} {index : Nat}
    {items : List Tree} {ending : ListEnd} {values : Values types} (ended : ending.keep = .ok ()) :
    fields.readItems wanted mode index items ending = .ok (values, []) ↔
      fields.GiveItems mode items values := by
  induction fields generalizing index items with
  | nil =>
      constructor
      · intro read
        exact (Prod.mk.inj (Except.ok.inj read)).2
      · rintro rfl
        rfl
  | @cons α types field rest ih =>
      obtain ⟨value, values, rfl⟩ := values.eq_cons
      have collected : ∀ {index items} {known : α},
          (rest.readItems wanted mode index items ending).map
              (fun result => (Values.cons known result.1, result.2)) = .ok (.cons value values, []) ↔
            known = value ∧ rest.GiveItems mode items values := by
        intro index items known
        rw [← ih, map_eq_ok_iff]
        constructor
        · rintro ⟨⟨others, left⟩, read, same⟩
          obtain ⟨sameValues, rfl⟩ := Prod.mk.inj same
          obtain ⟨rfl, rfl⟩ := Values.cons_inj.mp sameValues
          exact ⟨rfl, read⟩
        · rintro ⟨rfl, read⟩
          exact ⟨(values, []), read, rfl⟩
      rw [readItems_cons, giveItems_cons]
      cases items with
      | nil =>
          refine check_eq_ok_iff.trans ((and_iff_right ended).trans ?_)
          show _ ↔ field.default? = some value ∧ rest.GiveItems mode [] values
          cases field.default? with
          | none => simp only [reduceCtorEq, false_and]
          | some known => exact collected.trans (and_congr_left' Option.some_inj.symm)
      | cons item items =>
          refine bind_eq_ok_iff.trans ?_
          show _ ↔ field.read mode item = .ok value ∧ rest.GiveItems mode items values
          constructor
          · rintro ⟨known, read, others⟩
            obtain ⟨rfl, given⟩ := collected.mp others
            exact ⟨read, given⟩
          · rintro ⟨read, given⟩
            exact ⟨value, read, collected.mpr ⟨rfl, given⟩⟩

private theorem ofItems_iff_readItems {fields : Fields types} {title : String} {items : List Tree}
    {ending : ListEnd} {values : Values types} :
    fields.ofItems title mode items ending = .ok values ↔
      fields.readItems (.elements title fields.size) mode 0 items ending = .ok (values, []) ∧
        ending.keep = .ok () := by
  have closed : ending.close = .ok () ↔ ending.keep = .ok () := by
    cases ending <;> simp only [ListEnd.close, ListEnd.keep, reduceCtorEq]
  rw [← closed]
  refine bind_eq_ok_iff.trans ?_
  constructor
  · rintro ⟨⟨others, left⟩, read, done⟩
    cases left with
    | nil =>
        obtain ⟨ended, same⟩ := check_eq_ok_iff.mp done
        cases same
        exact ⟨read, ended⟩
    | cons item left =>
        cases mode with
        | streamed => cases done
        | buffered => cases done
  · rintro ⟨read, ended⟩
    exact ⟨(values, []), read, check_eq_ok_iff.mpr ⟨ended, rfl⟩⟩

/-- The values of a record in a list are told by the item at the place of each field. -/
theorem ofItems_eq_ok_iff {fields : Fields types} {title : String} {items : List Tree}
    {ending : ListEnd} {values : Values types} :
    fields.ofItems title mode items ending = .ok values ↔
      ending.keep = .ok () ∧ fields.GiveItems mode items values := by
  rw [ofItems_iff_readItems, and_comm]
  exact and_congr_right readItems_eq_ok_iff

end Fields

/-! ### Choices -/

namespace Reader

def tagRule {α : Type} (variants : List (Variant α)) (other? : Option (Variant α)) :
    FieldRule (Variant α) :=
  ⟨tagKey, tag variants other?, none⟩

/-- The entries of a choice that belong to its parts. -/
def untagged (entries : List (Literal × Tree)) : List (Literal × Tree) :=
  entries.filter (fun entry => entry.1.text ≠ tagKey)

theorem valuesAt_untagged {name : String} (different : name ≠ tagKey)
    (entries : List (Literal × Tree)) : valuesAt name (untagged entries) = valuesAt name entries := by
  rw [valuesAt, untagged, List.filter_filter, valuesAt]
  congr 2
  funext entry
  by_cases same : entry.1.text = name
  · rw [decide_eq_true same, Bool.true_and]
    exact decide_eq_true (same ▸ different)
  · rw [decide_eq_false same, Bool.false_and]

variable {τ : Type} {field : FieldRule τ} {mode : Mode} {check : Tree → Except Fault Unit}

private theorem splitTag_cons (readTag : Tree → Except Fault τ) (check : Tree → Except Fault Unit)
    (found : Option τ) (name : String) (tree : Tree) (entries : List (Literal × Tree)) :
    splitTag readTag check found ((⟨name, none⟩, tree) :: entries) =
      if name = tagKey then
        match found with
        | some _ => .error (.duplicateField tagKey)
        | none => readTag tree >>= fun value => splitTag readTag check (some value) entries
      else
        check tree >>= fun _ => (splitTag readTag check found entries).map
          (fun result => (result.1, (⟨name, none⟩, tree) :: result.2)) :=
  rfl

theorem untagged_cons (entry : Literal × Tree) (entries : List (Literal × Tree)) :
    untagged (entry :: entries) =
      if entry.1.text = tagKey then untagged entries else entry :: untagged entries := by
  by_cases same : entry.1.text = tagKey
  · rw [if_pos same, untagged,
      List.filter_cons_of_neg (by exact fun kept => of_decide_eq_true kept same)]
    rfl
  · rw [if_neg same, untagged, List.filter_cons_of_pos (by exact decide_eq_true same)]
    rfl

/-- Going over the entries of a choice finds the tag and keeps the other entries. -/
theorem splitTag_eq_ok_iff {entries others : List (Literal × Tree)} {trees : List Tree}
    {found result : Option τ} (held : field.Fills mode trees found) :
    splitTag (field.read mode) check found entries = .ok (result, others) ↔
      (∀ entry ∈ entries, entry.1.unpaired = none ∧
        (entry.1.text ≠ tagKey → check entry.2 = .ok ())) ∧
      field.Fills mode (trees ++ valuesAt tagKey entries) result ∧ others = untagged entries := by
  induction entries generalizing trees found others with
  | nil =>
      rw [splitTag, Except.ok.injEq, Prod.mk.injEq]
      have nothing : trees ++ valuesAt tagKey [] = trees := List.append_nil trees
      rw [nothing]
      constructor
      · rintro ⟨rfl, rfl⟩
        exact ⟨fun entry member => absurd member List.not_mem_nil, held, rfl⟩
      · rintro ⟨_, again, rfl⟩
        exact ⟨held.unique again, rfl⟩
  | cons entry entries ih =>
      obtain ⟨⟨name, unpaired⟩, tree⟩ := entry
      rw [List.forall_mem_cons, untagged_cons, valuesAt_cons]
      cases unpaired with
      | some unpaired =>
          constructor
          · intro failed
            cases failed
          · rintro ⟨⟨⟨impossible, _⟩, _⟩, _⟩
            cases impossible
      | none =>
          rw [splitTag_cons]
          by_cases isTag : name = tagKey
          · rw [if_pos isTag, if_pos isTag, if_pos isTag, List.append_cons]
            constructor
            · intro split
              cases found with
              | some _ => cases split
              | none =>
                  obtain ⟨value, read, rest⟩ := bind_eq_ok_iff.mp split
                  have filled := held.snoc_iff.mpr ⟨rfl, value, read, rfl⟩
                  obtain ⟨checked, found, kept⟩ := (ih filled).mp rest
                  exact ⟨⟨⟨rfl, fun different => absurd isTag different⟩, checked⟩, found, kept⟩
            · rintro ⟨⟨_, checked⟩, filled, kept⟩
              obtain ⟨later, laterHeld⟩ := filled.earlier
              obtain ⟨rfl, value, read, rfl⟩ := held.snoc_iff.mp laterHeld
              exact bind_eq_ok_iff.mpr ⟨value, read, (ih laterHeld).mpr ⟨checked, filled, kept⟩⟩
          · rw [if_neg isTag, if_neg isTag, if_neg isTag, check_eq_ok_iff, map_eq_ok_iff]
            constructor
            · rintro ⟨treeChecked, ⟨result, others⟩, split, same⟩
              obtain ⟨rfl, rfl⟩ := Prod.mk.inj same
              obtain ⟨checked, found, rfl⟩ := (ih held).mp split
              exact ⟨⟨⟨rfl, fun _ => treeChecked⟩, checked⟩, found, rfl⟩
            · rintro ⟨⟨⟨_, treeChecked⟩, checked⟩, found, rfl⟩
              exact ⟨treeChecked isTag, (result, untagged entries),
                (ih held).mpr ⟨checked, found, rfl⟩, rfl⟩

/-- Whether an entry of a choice can be passed: its key is sound, and its value too unless it is the
tag. -/
def TagPasses (depth : Nat) (mode : Mode) (entry : Literal × Tree) : Prop :=
  entry.1.unpaired = none ∧ (entry.1.text ≠ tagKey → settleIn depth mode entry.2 = .ok ())

variable {α : Type} {variants : List (Variant α)} {other? : Option (Variant α)} {title : String}
  {depth : Nat}

/-- A choice is read from an object whose tag tells the variant, by that variant. -/
theorem tagged_object_eq_ok_iff {entries : List (Literal × Tree)} {ending : ObjectEnd} {value : α} :
    tagged title variants other? depth mode (.object entries ending) = .ok value ↔
      ending.keep = .ok () ∧ (∀ entry ∈ entries, TagPasses depth mode entry) ∧
        ∃ variant, (tagRule variants other?).Takes mode (valuesAt tagKey entries) variant ∧
          variant.read (.entries (untagged entries)) = .ok value := by
  have split : ∀ found others,
      splitTag (tag variants other? mode) (settleIn depth mode) none entries = .ok (found, others) ↔
        (∀ entry ∈ entries, TagPasses depth mode entry) ∧
        (tagRule variants other?).Fills mode (valuesAt tagKey entries) found ∧
        others = untagged entries := by
    have start : (tagRule variants other?).Fills mode [] none := rfl
    exact fun _ _ => splitTag_eq_ok_iff start
  refine bind_eq_ok_iff.trans ?_
  constructor
  · rintro ⟨⟨found, others⟩, went, rest⟩
    obtain ⟨passed, filled, rfl⟩ := (split found others).mp went
    obtain ⟨ended, read⟩ := check_eq_ok_iff.mp rest
    cases found with
    | none => cases read
    | some variant => exact ⟨ended, passed, variant, filled.orElse_eq_some_iff.mp rfl, read⟩
  · rintro ⟨ended, passed, variant, taken, read⟩
    obtain ⟨found, filled⟩ := taken.exists_fills
    have told := filled.orElse_eq_some_iff.mpr taken
    cases found with
    | none => cases told
    | some known =>
        cases told
        exact ⟨(some variant, untagged entries), (split _ _).mpr ⟨passed, filled, rfl⟩,
          check_eq_ok_iff.mpr ⟨ended, read⟩⟩

/-- A choice is read from a list whose first item is the tag. -/
theorem tagged_list_eq_ok_iff {items : List Tree} {ending : ListEnd} {value : α} :
    tagged title variants other? depth mode (.list items ending) = .ok value ↔
      ending.keep = .ok () ∧ (∀ item ∈ items.drop 1, settleIn depth mode item = .ok ()) ∧
        ∃ variant, (tagRule variants other?).Takes mode (items.take 1) variant ∧
          variant.read (.items (items.drop 1)) = .ok value := by
  cases items with
  | nil =>
      constructor
      · intro read
        cases (check_eq_ok_iff.mp read).2
      · rintro ⟨_, _, variant, impossible, _⟩
        cases impossible
  | cons first rest =>
      refine bind_eq_ok_iff.trans ?_
      constructor
      · rintro ⟨variant, told, went⟩
        obtain ⟨settled, rest⟩ := check_eq_ok_iff.mp went
        obtain ⟨ended, read⟩ := check_eq_ok_iff.mp rest
        exact ⟨ended, forM_eq_ok_iff.mp settled, variant, told, read⟩
      · rintro ⟨ended, settled, variant, told, read⟩
        exact ⟨variant, told, check_eq_ok_iff.mpr ⟨forM_eq_ok_iff.mpr settled,
          check_eq_ok_iff.mpr ⟨ended, read⟩⟩⟩

theorem tag_text_eq (literal : Literal) :
    tag variants other? mode (.text literal) = literal.keep >>= fun name =>
      (variants.find? (fun variant => variant.name = name) <|> other?).elim
        (.error (.unknownVariant name (variants.map Variant.name))) .ok := by
  rw [tag]
  congr 1
  funext name
  cases variants.find? (fun variant => variant.name = name) <|> other? with
  | none => rfl
  | some variant => rfl

theorem tag_position_eq (index : Nat) :
    tag variants other? .buffered (.number (.natural index)) = (variants[index]? <|> other?).elim
      (.error (.invalidValue (.natural index) (.variantIndex variants.length))) .ok := by
  rw [tag]
  cases variants[index]? <|> other? with
  | none => rfl
  | some variant => rfl

theorem tag_text {index : Nat} {variant : Variant α} (distinct : (variants.map Variant.name).Nodup)
    (known : variants[index]? = some variant) :
    tag variants other? mode (.text ⟨variant.name, none⟩) = .ok variant := by
  have kept : (⟨variant.name, none⟩ : Literal).keep = .ok variant.name := rfl
  have found := find?_of_distinct distinct (List.mem_of_getElem? known)
  rw [tag_text_eq, kept]
  change Option.elim _ _ _ = _
  rw [found]
  rfl

end Reader

theorem Source.read_eq_ok_iff {α : Type} {reader : Nat → Reader α} {source : Source} {value : α} :
    source.read reader = .ok value ↔
      reader maxDepth .streamed source.tree = .ok value ∧ source.trailing = false := by
  refine bind_eq_ok_iff.trans ?_
  cases source.trailing with
  | true => simp only [if_true, reduceCtorEq, and_false, exists_false]
  | false =>
      constructor
      · rintro ⟨known, read, same⟩
        cases same
        exact ⟨read, rfl⟩
      · rintro ⟨read, _⟩
        exact ⟨value, read, rfl⟩

end ZeroError.Document
