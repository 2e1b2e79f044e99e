import ZeroError.Proofs.Shapes

/-!
Readers that respect layout. A reader respects a shape if a step on a value of that shape changes
neither whether it can be read nor what is read. Scalars, options and lists respect what their parts
do. A record is respected if each of its fields is, and if what is written for a part that may be
left out gives the value that leaving it out gives; a choice if each of its variants is.

The main statements are `LayoutFollows.respects` for records and `tagged_respects` for choices.
-/

namespace ZeroError.Go

open ZeroError.Document
open ZeroError.Attempts

/-- Whether a step on a value of the given shape changes nothing about how it is read. -/
def Respects {α : Type} (reader : Reader α) (levels : Nat) (shape : Shape) : Prop :=
  ∀ mode tree other, LayoutStep levels shape tree other →
    ∀ value, reader mode tree = .ok value ↔ reader mode other = .ok value

/-- Whether a reader accepts neither lists nor objects. -/
def ReadsScalars {α : Type} (reader : Reader α) : Prop :=
  ∀ mode value, (∀ items ending, reader mode (.list items ending) ≠ .ok value) ∧
    ∀ entries ending, reader mode (.object entries ending) ≠ .ok value

section Readers

variable {α β : Type} {reader : Reader α} {levels : Nat} {shape : Shape}

theorem ReadsScalars.respects (scalars : ReadsScalars reader) : Respects reader levels shape := by
  intro mode tree other step value
  obtain ⟨noList, noObject⟩ := scalars mode value
  have refused : reader mode tree ≠ .ok value ∧ reader mode other ≠ .ok value := by
    cases step with
    | reorder _ => exact ⟨noObject _ _, noObject _ _⟩
    | addUnknown _ _ _ => exact ⟨noObject _ _, noObject _ _⟩
    | addDefault _ _ _ _ _ => exact ⟨noObject _ _, noObject _ _⟩
    | entry _ => exact ⟨noObject _ _, noObject _ _⟩
    | item _ => exact ⟨noList _ _, noList _ _⟩
    | addItem _ _ _ _ => exact ⟨noList _ _, noList _ _⟩
  exact iff_of_false refused.1 refused.2

theorem Respects.map (respects : Respects reader levels shape) (change : α → β) :
    Respects (fun mode tree => (reader mode tree).map change) levels shape := by
  intro mode tree other step value
  simp only [map_eq_ok_iff, respects mode tree other step]

theorem text_respects : Respects Reader.text levels shape :=
  ReadsScalars.respects fun _ _ =>
    ⟨fun _ _ => nofun, fun _ _ => nofun⟩

theorem boolean_respects : Respects Reader.boolean levels shape :=
  ReadsScalars.respects fun _ _ =>
    ⟨fun _ _ => nofun, fun _ _ => nofun⟩

theorem word_respects : Respects Reader.word levels shape :=
  ReadsScalars.respects fun _ _ =>
    ⟨fun _ _ => nofun, fun _ _ => nofun⟩

theorem noItems_respects : Respects (Reader.noItems : Reader (List α)) levels shape :=
  ReadsScalars.respects fun _ _ =>
    ⟨fun _ _ => nofun, fun _ _ => nofun⟩

theorem noRecord_respects (wanted : Wanted) :
    Respects (Reader.noRecord wanted : Reader α) levels shape :=
  ReadsScalars.respects fun _ _ =>
    ⟨fun _ _ => nofun, fun _ _ => nofun⟩

/-- Steps are made on lists and objects only, so never on what stands for an absent value. -/
theorem option_respects (respects : Respects reader levels shape) :
    Respects (Reader.option reader) levels shape := by
  intro mode tree other step value
  have opened : Reader.option reader mode tree = (reader mode tree).map some ∧
      Reader.option reader mode other = (reader mode other).map some := by
    cases step <;> exact ⟨rfl, rfl⟩
  rw [opened.1, opened.2]
  simp only [map_eq_ok_iff, respects mode tree other step]

/-- What can stand beside the only key of an object in place of a name. -/
def Blank : Tree → Prop
  | .null => True
  | .object [] _ => True
  | _ => False

/-- What a name can be read from. -/
def NameForm : Tree → Prop
  | .text _ => True
  | .object [(_, tree)] _ => Blank tree
  | _ => False

private theorem Blank.fixed {tree other : Tree} (step : LayoutStep levels .any tree other)
    (blank : Blank tree ∨ Blank other) : tree = other := by
  cases step with
  | @reorder _ _ entries others ending reordered =>
      have empty : entries = [] ∧ others = [] := by
        rcases blank with blank | blank
        · cases entries with
          | nil => exact ⟨rfl, reordered.nil_eq.symm⟩
          | cons _ _ => exact blank.elim
        · cases others with
          | nil => exact ⟨reordered.eq_nil, rfl⟩
          | cons _ _ => exact blank.elim
      rw [empty.1, empty.2]
  | addUnknown parts _ _ => cases parts
  | addDefault parts _ _ _ _ => cases parts
  | @entry _ _ before _ _ _ _ _ _ =>
      cases before with
      | nil => exact blank.elim False.elim False.elim
      | cons _ _ => exact blank.elim False.elim False.elim
  | item _ => exact blank.elim False.elim False.elim
  | addItem parts _ _ _ => cases parts

private theorem NameForm.fixed {tree other : Tree} (step : LayoutStep levels .any tree other)
    (form : NameForm tree ∨ NameForm other) : tree = other := by
  cases step with
  | @reorder _ _ entries others ending reordered =>
      have single : ∃ entry, entries = [entry] ∨ others = [entry] := by
        rcases form with form | form
        · match entries with
          | [entry] => exact ⟨entry, .inl rfl⟩
        · match others with
          | [entry] => exact ⟨entry, .inr rfl⟩
      obtain ⟨entry, rfl | rfl⟩ := single
      · rw [List.singleton_perm.mp reordered]
      · rw [List.perm_singleton.mp reordered]
  | addUnknown parts _ _ => cases parts
  | addDefault parts _ _ _ _ => cases parts
  | @entry _ _ before after _ _ _ _ inside =>
      match before, after with
      | [], [] => rw [Blank.fixed inside form]
      | [], _ :: _ => exact form.elim False.elim False.elim
      | [_], _ => exact form.elim False.elim False.elim
      | _ :: _ :: _, _ => exact form.elim False.elim False.elim
  | item _ => exact form.elim False.elim False.elim
  | addItem parts _ _ _ => cases parts

private theorem nameForm_of_streamed {options : List (String × α)} {depth : Nat} {tree : Tree}
    {value : α}
    (read : Reader.streamedName options depth tree = .ok value) : NameForm tree := by
  cases tree with
  | text _ => trivial
  | object entries ending =>
      cases depth with
      | zero => cases read
      | succ depth =>
          cases entries with
          | nil => cases ending <;> cases read
          | cons entry rest =>
              obtain ⟨key, tree⟩ := entry
              obtain ⟨name, _, read⟩ := bind_eq_ok_iff.mp read
              obtain ⟨known, _, read⟩ := bind_eq_ok_iff.mp read
              cases tree with
              | null =>
                  cases rest with
                  | nil => trivial
                  | cons _ _ => cases (check_eq_ok_iff.mp read).1
              | _ => cases read
  | broken cause => cases cause <;> cases depth <;> cases read
  | _ => cases depth <;> cases read

private theorem nameForm_of_buffered {options : List (String × α)} {tree : Tree} {value : α}
    (read : Reader.bufferedName options tree = .ok value) : NameForm tree := by
  cases tree with
  | text _ => trivial
  | object entries ending =>
      cases entries with
      | nil => cases read
      | cons entry rest =>
          obtain ⟨key, tree⟩ := entry
          cases rest with
          | cons _ _ => cases read
          | nil =>
              obtain ⟨name, _, read⟩ := bind_eq_ok_iff.mp read
              obtain ⟨known, _, read⟩ := bind_eq_ok_iff.mp read
              cases tree with
              | null => trivial
              | object entries _ =>
                  cases entries with
                  | nil => trivial
                  | cons _ _ => cases read
              | _ => cases read
  | _ => cases read

private theorem nameForm_of_read {options : List (String × α)} {depth : Nat} {mode : Mode}
    {tree : Tree}
    {value : α} (read : Reader.name options depth mode tree = .ok value) : NameForm tree := by
  cases mode with
  | streamed => exact nameForm_of_streamed read
  | buffered => exact nameForm_of_buffered read

theorem name_respects (options : List (String × α)) (depth : Nat) :
    Respects (Reader.name options depth) levels .any := by
  intro mode tree other step value
  constructor
  · intro read
    rwa [← NameForm.fixed step (.inl (nameForm_of_read read))]
  · intro read
    rwa [NameForm.fixed step (.inr (nameForm_of_read read))]

private theorem forall₂_replace {good : Tree → α → Prop} {tree other : Tree} {after : List Tree}
    (same : ∀ value, good tree value ↔ good other value) (before : List Tree) (values : List α) :
    List.Forall₂ good (before ++ tree :: after) values ↔
      List.Forall₂ good (before ++ other :: after) values := by
  induction before generalizing values with
  | nil =>
      rw [List.nil_append, List.nil_append, List.forall₂_cons_left_iff, List.forall₂_cons_left_iff]
      simp only [same]
  | cons first before ih =>
      rw [List.cons_append, List.cons_append, List.forall₂_cons_left_iff,
        List.forall₂_cons_left_iff]
      simp only [ih]

theorem items_respects {item : Shape} (respects : Respects reader levels item) :
    Respects (Reader.items reader) (levels + 1) (.list item) := by
  intro mode tree other step values
  have opened : ∀ items ending, Reader.items reader mode (.list items ending) = .ok values ↔
      List.Forall₂ (fun item value => reader mode item = .ok value) items values ∧
        ending.keep = .ok () := by
    intro items ending
    refine bind_eq_ok_iff.trans ?_
    simp only [check_eq_ok_iff, mapM_eq_ok_iff]
    constructor
    · rintro ⟨known, read, ended, same⟩
      cases same
      exact ⟨read, ended⟩
    · rintro ⟨read, ended⟩
      exact ⟨values, read, ended, rfl⟩
  cases step with
  | item inside =>
      rw [opened, opened]
      exact and_congr_left' (forall₂_replace (respects mode _ _ inside) _ _)
  | addItem parts _ _ _ => cases parts
  | reorder _ => exact iff_of_false nofun nofun
  | addUnknown parts _ _ => cases parts
  | addDefault parts _ _ _ _ => cases parts
  | entry _ => exact iff_of_false nofun nofun

theorem list_respects {item : Shape} {reader : Nat → Reader α}
    (respects : ∀ depth, Respects (reader depth) depth item) (depth : Nat) :
    Respects (Reader.list reader depth) depth (.list item) := by
  cases depth with
  | zero => exact noItems_respects
  | succ depth => exact items_respects (respects depth)

end Readers

/-- Whether a field is read as its slot says: its name and its shape are those of the slot, and what
is written for the slot gives the value that leaving it out gives. -/
structure FieldFollows {α : Type} (field : FieldRule α) (levels : Nat) (slot : Slot) : Prop where
  name : field.name = slot.name
  respects : Respects field.read levels slot.shape
  default : ∀ json, slot.default? = some json →
    ∃ value, field.default? = some value ∧ field.read.Recovers levels json value

namespace FieldFollows

variable {α : Type} {field : FieldRule α} {levels : Nat} {slot : Slot}

theorem takes_iff (follows : FieldFollows field levels slot) {trees others : List Tree}
    (changes : slot.Changes levels trees others) (mode : Mode) (value : α) :
    field.Takes mode trees value ↔ field.Takes mode others value := by
  cases changes with
  | reordered reordered =>
      rcases trees with _ | ⟨tree, _ | ⟨next, trees⟩⟩
      · rw [reordered.nil_eq]
      · rw [List.singleton_perm.mp reordered]
      · rcases others with _ | ⟨_, _ | ⟨_, _⟩⟩
        · cases reordered.length_eq
        · cases reordered.length_eq
        · exact Iff.rfl
  | @written json default fits =>
      obtain ⟨known, left, recovers⟩ := follows.default json default
      have read : field.read mode (.ofJson json) = .ok known := (recovers fits).2 mode
      rw [FieldRule.Takes, FieldRule.Takes, left, read, Option.some_inj, Except.ok.injEq]
  | @inside before after tree other step =>
      rcases before with _ | ⟨_, _ | ⟨_, _⟩⟩
      · cases after with
        | nil => exact follows.respects mode tree other step value
        | cons => exact Iff.rfl
      · exact Iff.rfl
      · exact Iff.rfl

theorem required {reader : Reader α} {name : String} {shape : Shape}
    (respects : Respects reader levels shape) :
    FieldFollows (Document.required name reader) levels (.required name shape) :=
  ⟨rfl, respects, nofun⟩

theorem optional {reader : Reader α} {name : String} {shape : Shape}
    (respects : Respects reader levels shape) :
    FieldFollows (Document.optional name reader) levels (.optional name shape) where
  name := rfl
  respects := option_respects respects
  default := fun json written => by
    cases written
    exact ⟨none, rfl, fun _ => ⟨trivial, fun _ => rfl⟩⟩

theorem defaulted {reader : Reader α} {name : String} {shape : Shape} {value : α} {json : Json}
    (respects : Respects reader levels shape) (recovers : reader.Recovers levels json value) :
    FieldFollows (Document.defaulted name reader value) levels ⟨name, shape, some json⟩ where
  name := rfl
  respects := respects
  default := fun _ written => by
    cases written
    exact ⟨value, rfl, recovers⟩

theorem flag (name : String) :
    FieldFollows (Document.defaulted name Reader.boolean false) levels (.flag name) :=
  defaulted boolean_respects (Reader.boolean_recovers levels false)

end FieldFollows

/-- Whether the fields are those of the slots, in the same order. -/
inductive FieldsFollow (levels : Nat) : {types : List Type} → Fields types → List Slot → Prop
  | nil : FieldsFollow levels .nil []
  | cons {α : Type} {types : List Type} {field : FieldRule α} {rest : Fields types} {slot : Slot}
      {slots : List Slot} (here : FieldFollows field levels slot)
      (there : FieldsFollow levels rest slots) :
      FieldsFollow levels (.cons field rest) (slot :: slots)

namespace FieldsFollow

variable {types : List Type} {fields : Fields types} {levels : Nat} {slots : List Slot}

private theorem names_eq (follow : FieldsFollow levels fields slots) :
    fields.names = slots.map Slot.name := by
  induction follow with
  | nil => rfl
  | cons here there ih => rw [Fields.names, List.map_cons, here.name, ih]

private theorem give_iff (follow : FieldsFollow levels fields slots)
    {found after : String → List Tree}
    (changes : ∀ slot ∈ slots, slot.Changes levels (found slot.name) (after slot.name)) (mode : Mode)
    (values : Values types) : fields.Give mode found values ↔ fields.Give mode after values := by
  induction follow with
  | nil => exact Iff.rfl
  | @cons α types field rest slot slots here there ih =>
      obtain ⟨value, values, rfl⟩ := values.eq_cons
      obtain ⟨first, others⟩ := List.forall_mem_cons.mp changes
      rw [Fields.give_cons, Fields.give_cons, here.name, here.takes_iff first, ih others]

private theorem giveItems_iff (follow : FieldsFollow levels fields slots) {items others : List Tree}
    (change : ItemsChange levels slots items others) (mode : Mode) (values : Values types) :
    fields.GiveItems mode items values ↔ fields.GiveItems mode others values := by
  induction follow generalizing items others with
  | nil =>
      have lengths := change.rest
      rw [List.length_nil, Nat.le_zero, Nat.le_zero, List.length_eq_zero_iff,
        List.length_eq_zero_iff] at lengths
      exact lengths
  | @cons α types field rest slot slots here there ih =>
      obtain ⟨value, values, rfl⟩ := values.eq_cons
      rw [Fields.giveItems_cons, Fields.giveItems_cons, here.takes_iff change.first,
        ih change.others]

end FieldsFollow

/-- Whether a record is read the same after any change to its entries or items. -/
structure LayoutFollows {α : Type} (layout : Layout α) (levels : Nat) (slots : List Slot) :
    Prop where
  entries : ∀ {entries others}, EntriesChange levels slots entries others → ∀ mode ending value,
    layout.ofEntries mode entries ending = .ok value ↔
      layout.ofEntries mode others ending = .ok value
  items : ∀ {items others}, ItemsChange levels slots items others → ∀ mode ending value,
    layout.ofItems mode items ending = .ok value ↔ layout.ofItems mode others ending = .ok value

namespace LayoutFollows

variable {α β : Type} {layout : Layout α} {levels : Nat} {slots : List Slot}

theorem ofFields {types : List Type} {fields : Fields types} {title : String}
    {build : Builder types α} (named : fields.wellNamed = true)
    (follow : FieldsFollow levels fields slots) :
    LayoutFollows (fields.layout title build) levels slots := by
  have distinct : fields.names.Nodup := (List.nodup_cons.mp (of_decide_eq_true named)).2
  constructor
  · intro entries others change mode ending value
    have given : ∀ values, fields.Give mode (valuesAt · entries) values ↔
        fields.Give mode (valuesAt · others) values := follow.give_iff change.values mode
    refine map_eq_ok_iff.trans (Iff.trans ?_ map_eq_ok_iff.symm)
    simp only [Fields.ofEntries_eq_ok_iff distinct, follow.names_eq, change.passes, given]
  · intro items others change mode ending value
    refine map_eq_ok_iff.trans (Iff.trans ?_ map_eq_ok_iff.symm)
    simp only [Fields.ofItems_eq_ok_iff, follow.giveItems_iff change]

theorem map (follows : LayoutFollows layout levels slots) (change : α → β) :
    LayoutFollows (layout.map change) levels slots := by
  constructor
  · intro entries others changed mode ending value
    refine map_eq_ok_iff.trans (Iff.trans ?_ map_eq_ok_iff.symm)
    simp only [follows.entries changed]
  · intro items others changed mode ending value
    refine map_eq_ok_iff.trans (Iff.trans ?_ map_eq_ok_iff.symm)
    simp only [follows.items changed]

theorem respects {kind : RecordKind} (follows : LayoutFollows layout levels kind.slots) :
    Respects layout.reader (levels + 1) (.record kind) := by
  intro mode tree other step value
  cases tree with
  | object entries ending =>
      obtain ⟨others, rfl⟩ := step.object_eq
      exact follows.entries (step.entriesChange rfl) mode ending value
  | list items ending =>
      obtain ⟨others, rfl⟩ := step.list_eq
      exact follows.items (step.itemsChange rfl) mode ending value
  | _ => cases step

end LayoutFollows

theorem record_respects {α : Type} {title : String} {layout : Nat → Layout α} {kind : RecordKind}
    (follows : ∀ depth, LayoutFollows (layout depth) depth kind.slots) (depth : Nat) :
    Respects (Reader.record title layout depth) depth (.record kind) := by
  cases depth with
  | zero => exact noRecord_respects _
  | succ depth => exact (follows depth).respects

/-- Whether a variant is read the same after any change to its parts. -/
structure VariantFollows {α : Type} (variant : Variant α) (levels : Nat) (slots : List Slot) :
    Prop where
  entries : ∀ {entries others}, EntriesChange levels slots entries others → ∀ value,
    variant.read (.entries entries) = .ok value ↔ variant.read (.entries others) = .ok value
  items : ∀ {items others}, ItemsChange levels slots items others → ∀ value,
    variant.read (.items items) = .ok value ↔ variant.read (.items others) = .ok value

theorem VariantFollows.bare {α : Type} (name : String) (value : α) (levels : Nat) :
    VariantFollows (.bare name value) levels [] where
  entries := fun _ _ => Iff.rfl
  items := fun {items others} change value => by
    have lengths := change.rest
    match items, others with
    | [], [] => exact Iff.rfl
    | _ :: _, _ :: _ => exact iff_of_false nofun nofun
    | [], _ :: _ => cases lengths.mp (Nat.le_refl 0)
    | _ :: _, [] => cases lengths.mpr (Nat.le_refl 0)

section Choices

variable {α : Type} {variants : List (Variant α)} {other? : Option (Variant α)} {levels : Nat}
  {kind : ChoiceKind}

/-- Whether a variant is the one that a line of the table gives. -/
structure VariantAgrees (levels : Nat) (variant : Variant α) (part : String × List Slot) : Prop where
  name : variant.name = part.1
  follows : VariantFollows variant levels part.2

theorem VariantAgrees.record {layout : Layout α} {slots : List Slot} {name : String}
    (follows : LayoutFollows layout levels slots) :
    VariantAgrees levels (.record name layout) (name, slots) where
  name := rfl
  follows :=
    { entries := fun change value => follows.entries change .buffered .closed value
      items := fun change value => follows.items change .buffered .closed value }

theorem VariantAgrees.fields {types : List Type} {fields : Fields types} {title name : String}
    {build : Builder types α} {slots : List Slot} (named : fields.wellNamed = true)
    (follow : FieldsFollow levels fields slots) :
    VariantAgrees levels (.record name (fields.layout title build)) (name, slots) :=
  .record (.ofFields named follow)

theorem VariantAgrees.bare {name : String} {value : α} :
    VariantAgrees levels (.bare name value) (name, []) :=
  ⟨rfl, .bare name value levels⟩

/-- Whether the variants are those of the table, in the same order. -/
def VariantsFollow (variants : List (Variant α)) (levels : Nat) (kind : ChoiceKind) : Prop :=
  List.Forall₂ (VariantAgrees levels) variants kind.variants

private theorem VariantsFollow.find? (follow : VariantsFollow variants levels kind)
    (name : String) :
    Option.Rel (fun variant part => VariantFollows variant levels part.2)
      (variants.find? (fun variant => variant.name = name))
      (kind.variants.find? (fun part => part.1 = name)) := by
  unfold VariantsFollow at follow
  generalize kind.variants = parts at follow
  induction follow with
  | nil => exact .none
  | @cons variant part variants parts here there ih =>
      rw [List.find?_cons, List.find?_cons, here.name]
      by_cases same : part.1 = name
      · rw [decide_eq_true same]
        exact .some here.follows
      · rw [decide_eq_false same]
        exact ih

private theorem VariantsFollow.getElem? (follow : VariantsFollow variants levels kind)
    (index : Nat) :
    Option.Rel (fun variant part => VariantFollows variant levels part.2)
      variants[index]? kind.variants[index]? := by
  unfold VariantsFollow at follow
  generalize kind.variants = parts at follow
  induction follow generalizing index with
  | nil => exact .none
  | cons here there ih =>
      cases index with
      | zero => exact .some here.follows
      | succ index => exact ih index

/-- A variant that a tag tells has the parts that the tag tells. -/
theorem tag_follows (follow : VariantsFollow variants levels kind)
    (otherFollows : ∀ other ∈ other?, VariantFollows other levels []) {mode : Mode} {tree : Tree}
    {variant : Variant α} (told : Reader.tag variants other? mode tree = .ok variant) :
    VariantFollows variant levels (kind.slotsOf tree) := by
  have chosen : ∀ {variant? : Option (Variant α)} {part? : Option (String × List Slot)}
      {fault : Fault},
      Option.Rel (fun variant part => VariantFollows variant levels part.2) variant? part? →
      (variant? <|> other?).elim (.error fault) Except.ok = .ok variant →
      VariantFollows variant levels ((part?.map Prod.snd).getD []) := by
    intro variant? part? fault related found
    cases related with
    | some follows =>
        cases found
        exact follows
    | none =>
        cases other? with
        | none => cases found
        | some other =>
            cases found
            exact otherFollows _ rfl
  cases tree with
  | text literal =>
      rw [Reader.tag_text_eq] at told
      obtain ⟨name, kept, found⟩ := bind_eq_ok_iff.mp told
      obtain ⟨_, rfl⟩ := Literal.keep_eq_ok_iff.mp kept
      exact chosen (follow.find? literal.text) found
  | number value =>
      cases mode with
      | streamed => cases value <;> cases told
      | buffered =>
          cases value with
          | natural index =>
              rw [Reader.tag_position_eq] at told
              exact chosen (follow.getElem? index) told
          | _ => cases told
  | _ => cases mode <;> cases told

private theorem tagRule_follows : FieldFollows (Reader.tagRule variants other?) levels .tag where
  name := rfl
  respects := ReadsScalars.respects fun mode _ => by
    cases mode <;> exact ⟨fun _ _ => nofun, fun _ _ => nofun⟩
  default := nofun

/-- What a step does to the entries of a choice apart from its tag. -/
theorem LayoutStep.untagged_change {entries others : List (Literal × Tree)} {ending : ObjectEnd}
    {tag : Tree} (step : LayoutStep (levels + 1) (.choice kind) (.object entries ending)
      (.object others ending)) (told : valuesAt Reader.tagKey entries = [tag]) :
    EntriesChange levels (kind.slotsOf tag) (Reader.untagged entries) (Reader.untagged others) := by
  have parts : (Shape.choice kind).slotsIn entries = some (.tag :: kind.slotsOf tag) := by
    rw [Shape.slotsIn, told]
    rfl
  obtain ⟨untagged, _⟩ := List.nodup_cons.mp (kind.slotsOf_distinct tag)
  have kept : ∀ (trees : List (Literal × Tree)) (good : Literal × Tree → Prop),
      (∀ entry ∈ Reader.untagged trees, good entry) ↔
        ∀ entry ∈ trees, entry.1.text ≠ Reader.tagKey → good entry := by
    intro trees good
    simp only [Reader.untagged, List.mem_filter, decide_eq_true_eq, and_imp]
  constructor
  · intro slot known
    have different : slot.name ≠ Reader.tagKey :=
      fun same => untagged (same ▸ List.mem_map_of_mem known)
    rw [Reader.valuesAt_untagged different, Reader.valuesAt_untagged different]
    exact step.valuesAt_changes parts (List.mem_cons_of_mem _ known)
  · rw [kept, kept]
    refine step.forall_entries_iff ?_ ?_ ?_
    · exact fun key value scalar _ => ⟨rfl, fun _ => scalar.skip⟩
    · exact fun key json _ _ => ⟨rfl, fun _ => Tree.skip_ofJson json⟩
    · exact fun key inner tree other inside => forall_congr' fun _ =>
        and_congr_right' (forall_congr' fun _ => inside.skip_iff)

theorem settleIn_ofJson {depth : Nat} {mode : Mode} {json : Json} (fits : json.nesting ≤ depth) :
    Reader.settleIn depth mode (.ofJson json) = .ok () := by
  cases mode with
  | streamed => exact Tree.settle_ofJson fits
  | buffered => rfl

theorem LayoutStep.settleIn_iff {shape : Shape} {tree other : Tree}
    (step : LayoutStep levels shape tree other) (mode : Mode) :
    Reader.settleIn levels mode tree = .ok () ↔ Reader.settleIn levels mode other = .ok () := by
  cases mode with
  | streamed => exact step.settle_iff
  | buffered => exact Iff.rfl

private theorem LayoutStep.tagPasses_iff {entries others : List (Literal × Tree)}
    {ending : ObjectEnd}
    (step : LayoutStep (levels + 1) (.choice kind) (.object entries ending)
      (.object others ending)) (mode : Mode) :
    (∀ entry ∈ entries, Reader.TagPasses levels mode entry) ↔
      ∀ entry ∈ others, Reader.TagPasses levels mode entry := by
  refine step.forall_entries_iff ?_ ?_ ?_
  · intro key value scalar
    refine ⟨rfl, fun _ => ?_⟩
    cases mode with
    | streamed => exact scalar.settle levels
    | buffered => rfl
  · exact fun key json fits => ⟨rfl, fun _ => settleIn_ofJson fits⟩
  · exact fun key inner tree other inside =>
      and_congr_right' (forall_congr' fun _ => inside.settleIn_iff mode)

private theorem tagRule_takes {mode : Mode} {trees : List Tree} {variant : Variant α}
    (taken : (Reader.tagRule variants other?).Takes mode trees variant) :
    ∃ tag, trees = [tag] ∧ Reader.tag variants other? mode tag = .ok variant := by
  match trees with
  | [] => cases taken
  | [tag] => exact ⟨tag, rfl, taken⟩
  | _ :: _ :: _ => exact taken.elim

/-- The variant that a changed tag tells reads the changed parts as before. -/
theorem exists_variant_iff (follow : VariantsFollow variants levels kind)
    (otherFollows : ∀ other ∈ other?, VariantFollows other levels []) {mode : Mode}
    {trees others : List Tree} (changes : Slot.tag.Changes levels trees others)
    {content changed : Content} {value : α}
    (reads : ∀ tag variant, trees = [tag] → VariantFollows variant levels (kind.slotsOf tag) →
      (variant.read content = .ok value ↔ variant.read changed = .ok value)) :
    (∃ variant, (Reader.tagRule variants other?).Takes mode trees variant ∧
      variant.read content = .ok value) ↔
    ∃ variant, (Reader.tagRule variants other?).Takes mode others variant ∧
      variant.read changed = .ok value := by
  refine exists_congr fun variant => ?_
  rw [← tagRule_follows.takes_iff changes]
  refine and_congr_right fun taken => ?_
  obtain ⟨tag, found, told⟩ := tagRule_takes taken
  exact reads tag variant found (tag_follows follow otherFollows told)

theorem tagged_respects {title : String} (follow : VariantsFollow variants levels kind)
    (otherFollows : ∀ other ∈ other?, VariantFollows other levels []) :
    Respects (Reader.tagged title variants other? levels) (levels + 1) (.choice kind) := by
  intro mode tree other step value
  cases tree with
  | object entries ending =>
      obtain ⟨others, rfl⟩ := step.object_eq
      have changes : Slot.tag.Changes levels (valuesAt Reader.tagKey entries)
          (valuesAt Reader.tagKey others) := step.valuesAt_changes rfl List.mem_cons_self
      rw [Reader.tagged_object_eq_ok_iff, Reader.tagged_object_eq_ok_iff, step.tagPasses_iff mode]
      refine and_congr_right' (and_congr_right' (exists_variant_iff follow otherFollows changes ?_))
      exact fun tag variant found follows => follows.entries (step.untagged_change found) value
  | list items ending =>
      obtain ⟨others, rfl⟩ := step.list_eq
      have change := step.itemsChange rfl
      have settled : (∀ item ∈ items.drop 1, Reader.settleIn levels mode item = .ok ()) ↔
          ∀ item ∈ others.drop 1, Reader.settleIn levels mode item = .ok () :=
        step.forall_items_iff (fun json fits => settleIn_ofJson fits)
          (fun inner tree other inside => inside.settleIn_iff mode)
      rw [Reader.tagged_list_eq_ok_iff, Reader.tagged_list_eq_ok_iff, settled]
      refine and_congr_right' (and_congr_right'
        (exists_variant_iff follow otherFollows change.first ?_))
      intro tag variant found follows
      have head : items.head? = some tag := by
        cases items with
        | nil => cases found
        | cons first _ =>
            cases found
            rfl
      rw [head] at change
      exact follows.items change.others value
  | _ => cases step

end Choices

end ZeroError.Go
