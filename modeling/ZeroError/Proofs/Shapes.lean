import Mathlib.Data.List.Nodup
import Mathlib.Logic.Relation
import ZeroError.Go.Reading
import ZeroError.Go.Writing
import ZeroError.Proofs.Recovery

/-!
The format of package documents as a table, and documents that differ in layout only. A `Shape` says
what may stand at a place: a list, one of the records, one of the choices, or something without parts
that are known by name. For each record and each variant the table lists its slots: the name of a
part, its shape, and what is written for it where it can also be left out.

A `LayoutStep` changes the layout of a document at one place: the entries of an object are put in another
order, an entry that no slot knows is added, or a part that was left out is written.
-/

namespace ZeroError.Go

open ZeroError.Document

inductive RecordKind
  | pos
  | ident
  | typeExpr
  | field
  | block
  | caseClause
  | commClause
  | funcDecl
  | method
  | sourceFile
  | package
deriving DecidableEq, Repr

inductive ChoiceKind
  | expr
  | stmt
  | spec
  | typeInfo
deriving DecidableEq, Repr

inductive Shape
  | any
  | list (item : Shape)
  | record (kind : RecordKind)
  | choice (kind : ChoiceKind)
deriving DecidableEq, Repr

/-- A part of a record: its name, its shape, and what is written for it if it may be left out. -/
structure Slot where
  name : String
  shape : Shape
  default? : Option Json

namespace Slot

def required (name : String) (shape : Shape) : Slot :=
  ⟨name, shape, none⟩

def optional (name : String) (shape : Shape) : Slot :=
  ⟨name, shape, some .null⟩

def items (name : String) (item : Shape) : Slot :=
  ⟨name, .list item, some (.list [])⟩

def flag (name : String) : Slot :=
  ⟨name, .any, some (.bool false)⟩

def pos : Slot :=
  ⟨"pos", .record .pos, some (Pos.toJson {})⟩

def tag : Slot :=
  .required Reader.tagKey .any

end Slot

def RecordKind.slots : RecordKind → List Slot
  | .pos => [⟨"offset", .any, some (.number 0)⟩, .required "line" .any, .required "column" .any]
  | .ident => [.required "name" .any, .pos]
  | .typeExpr => [.required "expr" (.choice .expr), .required "type_id" .any]
  | .field => [.items "names" (.record .ident), .required "type" (.record .typeExpr)]
  | .block => [.items "stmts" (.choice .stmt), .pos]
  | .caseClause => [.items "list" (.choice .expr), .items "body" (.choice .stmt), .pos]
  | .commClause => [.optional "comm" (.choice .stmt), .items "body" (.choice .stmt), .pos]
  | .funcDecl =>
      [.required "name" (.record .ident), .optional "recv" (.record .field),
        .items "params" (.record .field), .items "results" (.record .field),
        .optional "body" (.record .block)]
  | .method => [.required "name" .any, .flag "pointer_receiver", .items "params" .any,
      .items "results" .any]
  | .sourceFile => [.required "path" .any, .items "funcs" (.record .funcDecl)]
  | .package => [.required "path" .any, .items "types" (.choice .typeInfo),
      .items "files" (.record .sourceFile)]

def ChoiceKind.variants : ChoiceKind → List (String × List Slot)
  | .expr => [
      ("ident", RecordKind.slots .ident),
      ("basic_lit", [.required "lit" .any, .required "value" .any, .pos]),
      ("composite_lit", [.optional "type" (.choice .expr), .items "elts" (.choice .expr), .pos]),
      ("func_lit", [.items "params" (.record .field), .items "results" (.record .field),
        .required "body" (.record .block), .pos]),
      ("paren", [.required "x" (.choice .expr)]),
      ("selector", [.required "x" (.choice .expr), .required "sel" (.record .ident)]),
      ("index", [.required "x" (.choice .expr), .required "index" (.choice .expr)]),
      ("slice", [.required "x" (.choice .expr), .optional "low" (.choice .expr),
        .optional "high" (.choice .expr), .optional "max" (.choice .expr)]),
      ("type_assert", [.required "x" (.choice .expr), .optional "type" (.choice .expr)]),
      ("call", [.required "fun" (.choice .expr), .items "args" (.choice .expr), .flag "ellipsis"]),
      ("star", [.required "x" (.choice .expr), .pos]),
      ("unary", [.required "op" .any, .required "x" (.choice .expr), .pos]),
      ("binary", [.required "x" (.choice .expr), .required "op" .any,
        .required "y" (.choice .expr)]),
      ("key_value", [.required "key" (.choice .expr), .required "value" (.choice .expr)]),
      ("array_type", [.optional "len" (.choice .expr), .required "elt" (.choice .expr)]),
      ("map_type", [.required "key" (.choice .expr), .required "value" (.choice .expr)]),
      ("chan_type", [.required "dir" .any, .required "value" (.choice .expr)]),
      ("func_type", [.items "params" (.record .field), .items "results" (.record .field)]),
      ("struct_type", [.items "fields" (.record .field)]),
      ("interface_type", [.items "methods" (.record .field)]),
      ("ellipsis", [.optional "elt" (.choice .expr)]),
      ("bad", [.pos])]
  | .stmt => [
      ("decl", [.required "tok" .any, .required "specs" (.list (.choice .spec)), .pos]),
      ("assign", [.required "lhs" (.list (.choice .expr)), .required "tok" .any,
        .required "rhs" (.list (.choice .expr)), .pos]),
      ("return", [.items "results" (.choice .expr), .pos]),
      ("expr", [.required "x" (.choice .expr)]),
      ("block", RecordKind.slots .block),
      ("if", [.optional "init" (.choice .stmt), .required "cond" (.choice .expr),
        .required "body" (.record .block), .optional "else" (.choice .stmt), .pos]),
      ("for", [.optional "init" (.choice .stmt), .optional "cond" (.choice .expr),
        .optional "post" (.choice .stmt), .required "body" (.record .block), .pos]),
      ("range", [.optional "key" (.choice .expr), .optional "value" (.choice .expr),
        .flag "define", .required "x" (.choice .expr), .required "body" (.record .block), .pos]),
      ("switch", [.optional "init" (.choice .stmt), .optional "tag" (.choice .expr),
        .items "clauses" (.record .caseClause), .pos]),
      ("type_switch", [.optional "init" (.choice .stmt), .required "assign" (.choice .stmt),
        .items "clauses" (.record .caseClause), .pos]),
      ("select", [.items "clauses" (.record .commClause), .pos]),
      ("labeled", [.required "label" (.record .ident), .required "stmt" (.choice .stmt)]),
      ("go", [.required "call" (.choice .expr)]),
      ("defer", [.required "call" (.choice .expr)]),
      ("inc_dec", [.required "x" (.choice .expr), .required "inc" .any]),
      ("send", [.required "chan" (.choice .expr), .required "value" (.choice .expr)]),
      ("branch", [.required "tok" .any, .optional "label" (.record .ident)]),
      ("empty", [])]
  | .spec => [
      ("value", [.required "names" (.list (.record .ident)), .optional "type" (.record .typeExpr),
        .items "values" (.choice .expr)]),
      ("type", [.required "name" (.record .ident), .required "type" (.record .typeExpr)])]
  | .typeInfo => [
      ("basic", [.required "name" .any]),
      ("named", [.optional "package" .any, .required "name" .any, .optional "underlying" .any,
        .items "methods" (.record .method)]),
      ("pointer", [.required "elem" .any]),
      ("interface", [.items "methods" (.record .method)]),
      ("struct", []),
      ("opaque", [])]

/-- The slots that a tag tells. A tag is the name of a variant, or its position in the table. -/
def ChoiceKind.slotsOf (kind : ChoiceKind) : Tree → List Slot
  | .text literal =>
      ((kind.variants.find? (fun variant => variant.1 = literal.text)).map Prod.snd).getD []
  | .number (.natural index) => (kind.variants[index]?.map Prod.snd).getD []
  | _ => []

/-- The slots of what stands at a place, if it has any; those of a choice depend on its tag. -/
def Shape.slots? : Shape → (tag? : Option Tree) → Option (List Slot)
  | .record kind, _ => some kind.slots
  | .choice kind, tag? => some (.tag :: tag?.elim [] kind.slotsOf)
  | _, _ => none

namespace Shape

def slotsIn (shape : Shape) (entries : List (Literal × Tree)) : Option (List Slot) :=
  shape.slots? (valuesAt Reader.tagKey entries).head?

/-- The shape of the value under a key. -/
def entryShape (shape : Shape) (entries : List (Literal × Tree)) (key : String) : Shape :=
  (((shape.slotsIn entries).getD []).find? (fun slot => slot.name = key)).elim .any Slot.shape

/-- The shape of the item at a position. -/
def itemShape (shape : Shape) (items : List Tree) (index : Nat) : Shape :=
  match shape with
  | .list item => item
  | shape => (((shape.slots? items.head?).getD [])[index]?).elim .any Slot.shape

end Shape

end ZeroError.Go

namespace ZeroError.Document

/-- Whether a value is a scalar whose text can be kept: a string, a boolean, `null`, or a number that
is in range. -/
def Tree.IsScalar : Tree → Prop
  | .null => True
  | .bool _ => True
  | .number value => value ≠ .outOfRange
  | .text literal => literal.unpaired = none
  | _ => False

end ZeroError.Document

namespace ZeroError.Go

open ZeroError.Document

/-- A change of layout at one place of a document, below which `levels` lists and objects may
enclose one another. A record or a choice can also be a list of its parts; there, only what is left
out at the end can be written. -/
inductive LayoutStep : (levels : Nat) → Shape → Tree → Tree → Prop
  | reorder {levels : Nat} {shape : Shape} {entries others : List (Literal × Tree)}
      {ending : ObjectEnd} (reordered : entries.Perm others) :
      LayoutStep levels shape (.object entries ending) (.object others ending)
  | addUnknown {levels : Nat} {shape : Shape} {before after : List (Literal × Tree)}
      {ending : ObjectEnd} {slots : List Slot} {key : String} {value : Tree}
      (parts : shape.slotsIn (before ++ after) = some slots)
      (unknown : ∀ slot ∈ slots, slot.name ≠ key) (scalar : value.IsScalar) :
      LayoutStep levels shape (.object (before ++ after) ending)
        (.object (before ++ (⟨key, none⟩, value) :: after) ending)
  | addDefault {levels : Nat} {shape : Shape} {before after : List (Literal × Tree)}
      {ending : ObjectEnd} {slots : List Slot} {slot : Slot} {json : Json}
      (parts : shape.slotsIn (before ++ after) = some slots) (known : slot ∈ slots)
      (leftOut : ∀ entry ∈ before ++ after, entry.1.text ≠ slot.name)
      (default : slot.default? = some json) (fits : json.nesting < levels) :
      LayoutStep levels shape (.object (before ++ after) ending)
        (.object (before ++ (⟨slot.name, none⟩, .ofJson json) :: after) ending)
  | entry {levels : Nat} {shape : Shape} {before after : List (Literal × Tree)}
      {ending : ObjectEnd} {key : Literal} {tree other : Tree}
      (inside : LayoutStep (levels - 1) (shape.entryShape (before ++ (key, tree) :: after) key.text)
        tree other) :
      LayoutStep levels shape (.object (before ++ (key, tree) :: after) ending)
        (.object (before ++ (key, other) :: after) ending)
  | item {levels : Nat} {shape : Shape} {before after : List Tree} {ending : ListEnd}
      {tree other : Tree}
      (inside : LayoutStep (levels - 1) (shape.itemShape (before ++ tree :: after) before.length)
        tree other) :
      LayoutStep levels shape (.list (before ++ tree :: after) ending)
        (.list (before ++ other :: after) ending)
  | addItem {levels : Nat} {shape : Shape} {items : List Tree} {ending : ListEnd}
      {slots : List Slot} {slot : Slot} {json : Json}
      (parts : shape.slots? items.head? = some slots) (known : slots[items.length]? = some slot)
      (default : slot.default? = some json) (fits : json.nesting < levels) :
      LayoutStep levels shape (.list items ending) (.list (items ++ [.ofJson json]) ending)

private theorem RecordKind.slots_distinct (kind : RecordKind) :
    (kind.slots.map Slot.name).Nodup := by
  cases kind <;> decide

private theorem ChoiceKind.variants_distinct (kind : ChoiceKind) :
    ∀ variant ∈ kind.variants, (Reader.tagKey :: variant.2.map Slot.name).Nodup := by
  cases kind <;> decide

/-- The parts of a choice have names of their own, and none is called like the tag. -/
theorem ChoiceKind.slotsOf_distinct (kind : ChoiceKind) (tag : Tree) :
    (Reader.tagKey :: (kind.slotsOf tag).map Slot.name).Nodup := by
  have known : ∀ {variant? : Option (String × List Slot)},
      (∀ variant ∈ variant?, variant ∈ kind.variants) →
        (Reader.tagKey :: ((variant?.map Prod.snd).getD []).map Slot.name).Nodup := by
    intro variant? listed
    cases variant? with
    | none => exact List.nodup_singleton _
    | some variant => exact kind.variants_distinct variant (listed variant rfl)
  unfold ChoiceKind.slotsOf
  split
  · exact known (fun variant found => List.mem_of_find?_eq_some found)
  · exact known (fun variant found => List.mem_of_getElem? found)
  · exact List.nodup_singleton _

theorem Shape.slots?_distinct {shape : Shape} {tag? : Option Tree} {slots : List Slot}
    (parts : shape.slots? tag? = some slots) : (slots.map Slot.name).Nodup := by
  cases shape with
  | any => cases parts
  | list item => cases parts
  | record kind =>
      cases parts
      exact kind.slots_distinct
  | choice kind =>
      cases parts
      cases tag? with
      | none => exact List.nodup_singleton _
      | some tag => exact kind.slotsOf_distinct tag

private theorem Shape.entryShape_eq {shape : Shape} {entries : List (Literal × Tree)}
    {slots : List Slot}
    {slot : Slot} (parts : shape.slotsIn entries = some slots) (known : slot ∈ slots) :
    shape.entryShape entries slot.name = slot.shape := by
  rw [entryShape, parts, Option.getD_some, find?_of_distinct (slots?_distinct parts) known]
  rfl

private theorem Shape.itemShape_eq {shape : Shape} {items : List Tree} {slots : List Slot}
    {slot : Slot}
    {index : Nat} (parts : shape.slots? items.head? = some slots)
    (known : slots[index]? = some slot) : shape.itemShape items index = slot.shape := by
  cases shape with
  | any => cases parts
  | list item => cases parts
  | record kind =>
      rw [itemShape, parts, Option.getD_some, known]
      · rfl
      · exact fun _ impossible => by cases impossible
  | choice kind =>
      rw [itemShape, parts, Option.getD_some, known]
      · rfl
      · exact fun _ impossible => by cases impossible

section Lists

variable {α : Type} {good : α → Prop} {before after : List α} {item other : α}

theorem forall_mem_insert (holds : good item) :
    (∀ member ∈ before ++ after, good member) ↔ ∀ member ∈ before ++ item :: after, good member := by
  rw [List.forall_mem_append, List.forall_mem_append, List.forall_mem_cons]
  exact and_congr_right' (and_iff_right holds).symm

theorem forall_mem_replace (same : good item ↔ good other) :
    (∀ member ∈ before ++ item :: after, good member) ↔
      ∀ member ∈ before ++ other :: after, good member := by
  rw [List.forall_mem_append, List.forall_mem_append, List.forall_mem_cons, List.forall_mem_cons, same]

theorem forall_mem_snoc (holds : good item) :
    (∀ member ∈ before, good member) ↔ ∀ member ∈ before ++ [item], good member := by
  have inserted : (∀ member ∈ before ++ [], good member) ↔
      ∀ member ∈ before ++ [item], good member := forall_mem_insert holds
  rwa [List.append_nil] at inserted

theorem forall_mem_reorder {items others : List α} (reordered : items.Perm others) :
    (∀ member ∈ items, good member) ↔ ∀ member ∈ others, good member :=
  forall_congr' fun _ => imp_congr_left reordered.mem_iff

end Lists

end ZeroError.Go

namespace ZeroError.Document.Tree

private theorem skipItems_eq_ok_iff {items : List Tree} :
    skipItems items = .ok () ↔ ∀ item ∈ items, item.skip = .ok () := by
  induction items with
  | nil => exact ⟨fun _ item member => absurd member List.not_mem_nil, fun _ => rfl⟩
  | cons item items ih => rw [skipItems, Attempts.check_eq_ok_iff, ih, List.forall_mem_cons]

private theorem skipEntries_eq_ok_iff {entries : List (Literal × Tree)} :
    skipEntries entries = .ok () ↔ ∀ entry ∈ entries, entry.2.skip = .ok () := by
  induction entries with
  | nil => exact ⟨fun _ entry member => absurd member List.not_mem_nil, fun _ => rfl⟩
  | cons entry entries ih => rw [skipEntries, Attempts.check_eq_ok_iff, ih, List.forall_mem_cons]

private theorem skip_list {items : List Tree} {ending : ListEnd} :
    (list items ending).skip = .ok () ↔
      (∀ item ∈ items, item.skip = .ok ()) ∧ ending.skip = .ok () := by
  rw [skip, Attempts.check_eq_ok_iff, skipItems_eq_ok_iff]

private theorem skip_object {entries : List (Literal × Tree)} {ending : ObjectEnd} :
    (object entries ending).skip = .ok () ↔
      (∀ entry ∈ entries, entry.2.skip = .ok ()) ∧ ending.skip = .ok () := by
  rw [skip, Attempts.check_eq_ok_iff, skipEntries_eq_ok_iff]

theorem IsScalar.skip {tree : Tree} (scalar : tree.IsScalar) : tree.skip = .ok () := by
  cases tree with
  | list _ _ => cases scalar
  | object _ _ => cases scalar
  | broken _ => cases scalar
  | _ => rfl

theorem IsScalar.settle {tree : Tree} (scalar : tree.IsScalar) (depth : Nat) :
    tree.settle depth = .ok () := by
  cases tree with
  | list _ _ => cases scalar
  | object _ _ => cases scalar
  | broken _ => cases scalar
  | null => cases depth <;> rfl
  | bool _ => cases depth <;> rfl
  | number value => cases value <;> cases depth <;> first | rfl | exact absurd rfl scalar
  | text literal =>
      have kept : literal.keep = .ok literal.text := Literal.keep_eq_ok_iff.mpr ⟨scalar, rfl⟩
      cases depth <;> rw [Tree.settle, kept] <;> rfl

mutual

/-- A written document can always be passed by. -/
theorem skip_ofJson : (json : Json) → (ofJson json).skip = .ok ()
  | .null => rfl
  | .bool _ => rfl
  | .number _ => rfl
  | .text _ => rfl
  | .list items => by
      rw [ofJson, skip, skipItems_ofItems items]
      rfl
  | .object entries => by
      rw [ofJson, skip, skipEntries_ofEntries entries]
      rfl

theorem skipItems_ofItems : (items : List Json) → skipItems (ofItems items) = .ok ()
  | [] => rfl
  | item :: items => by
      rw [ofItems, skipItems, skip_ofJson item, skipItems_ofItems items]
      rfl

theorem skipEntries_ofEntries : (entries : List (String × Json)) →
    skipEntries (ofEntries entries) = .ok ()
  | [] => rfl
  | (_, value) :: entries => by
      rw [ofEntries, skipEntries, skip_ofJson value, skipEntries_ofEntries entries]
      rfl

end

end ZeroError.Document.Tree

namespace ZeroError.Go

open ZeroError.Document

namespace LayoutStep

variable {levels : Nat} {shape : Shape} {tree other : Tree}

/-- A value that is passed by can still be passed by after a step. -/
theorem skip_iff (step : LayoutStep levels shape tree other) :
    tree.skip = .ok () ↔ other.skip = .ok () := by
  induction step with
  | reorder reordered =>
      rw [Tree.skip_object, Tree.skip_object]
      exact and_congr_left' (forall_mem_reorder reordered)
  | addUnknown _ _ scalar =>
      rw [Tree.skip_object, Tree.skip_object]
      refine and_congr_left' (forall_mem_insert ?_)
      exact scalar.skip
  | addDefault _ _ _ _ _ =>
      rw [Tree.skip_object, Tree.skip_object]
      refine and_congr_left' (forall_mem_insert ?_)
      exact Tree.skip_ofJson _
  | entry _ same =>
      rw [Tree.skip_object, Tree.skip_object]
      exact and_congr_left' (forall_mem_replace same)
  | item _ same =>
      rw [Tree.skip_list, Tree.skip_list]
      exact and_congr_left' (forall_mem_replace same)
  | addItem _ _ _ _ =>
      rw [Tree.skip_list, Tree.skip_list]
      refine and_congr_left' (forall_mem_snoc ?_)
      exact Tree.skip_ofJson _

/-- A value that is kept can still be kept after a step. -/
theorem settle_iff (step : LayoutStep levels shape tree other) :
    tree.settle levels = .ok () ↔ other.settle levels = .ok () := by
  induction step with
  | @reorder levels _ _ _ _ reordered =>
      cases levels with
      | zero => exact Iff.rfl
      | succ levels =>
          rw [Tree.settle_object, Tree.settle_object]
          exact and_congr_left' (forall_mem_reorder reordered)
  | @addUnknown levels _ _ _ _ _ _ _ _ _ scalar =>
      cases levels with
      | zero => exact Iff.rfl
      | succ levels =>
          rw [Tree.settle_object, Tree.settle_object]
          exact and_congr_left' (forall_mem_insert ⟨rfl, scalar.settle levels⟩)
  | @addDefault levels _ _ _ _ _ _ _ _ _ _ _ fits =>
      cases levels with
      | zero => exact Iff.rfl
      | succ levels =>
          rw [Tree.settle_object, Tree.settle_object]
          refine and_congr_left' (forall_mem_insert ⟨rfl, ?_⟩)
          exact Tree.settle_ofJson (Nat.le_of_lt_succ fits)
  | @entry levels _ _ _ _ _ _ _ _ same =>
      cases levels with
      | zero => exact Iff.rfl
      | succ levels =>
          rw [Tree.settle_object, Tree.settle_object]
          exact and_congr_left' (forall_mem_replace (and_congr_right' same))
  | @item levels _ _ _ _ _ _ _ same =>
      cases levels with
      | zero => exact Iff.rfl
      | succ levels =>
          rw [Tree.settle_list, Tree.settle_list]
          exact and_congr_left' (forall_mem_replace same)
  | @addItem levels _ _ _ _ _ _ _ _ _ fits =>
      cases levels with
      | zero => exact Iff.rfl
      | succ levels =>
          rw [Tree.settle_list, Tree.settle_list]
          refine and_congr_left' (forall_mem_snoc ?_)
          exact Tree.settle_ofJson (Nat.le_of_lt_succ fits)

end LayoutStep

/-- What a step can do to the values under the name of a slot, or at its place in a list. -/
inductive Slot.Changes (levels : Nat) (slot : Slot) : List Tree → List Tree → Prop
  | reordered {trees others : List Tree} (reordered : trees.Perm others) :
      Changes levels slot trees others
  | written {json : Json} (default : slot.default? = some json) (fits : json.nesting ≤ levels) :
      Changes levels slot [] [.ofJson json]
  | inside {before after : List Tree} {tree other : Tree}
      (step : LayoutStep levels slot.shape tree other) :
      Changes levels slot (before ++ tree :: after) (before ++ other :: after)

private theorem Slot.Changes.single {levels : Nat} {slot : Slot} {tree other : Tree}
    (step : LayoutStep levels slot.shape tree other) : slot.Changes levels [tree] [other] :=
  @Changes.inside levels slot [] [] tree other step

theorem valuesAt_append (name : String) (first second : List (Literal × Tree)) :
    valuesAt name (first ++ second) = valuesAt name first ++ valuesAt name second := by
  rw [valuesAt, List.filter_append, List.map_append]
  rfl

private theorem valuesAt_eq_nil_iff {name : String} {entries : List (Literal × Tree)} :
    valuesAt name entries = [] ↔ ∀ entry ∈ entries, entry.1.text ≠ name := by
  rw [valuesAt, List.map_eq_nil_iff, List.filter_eq_nil_iff]
  simp only [decide_eq_true_eq, ne_eq]

/-- An entry under another name does not change what stands under this one. -/
theorem valuesAt_insert_of_ne {name : String} {entry : Literal × Tree}
    (different : entry.1.text ≠ name) (before after : List (Literal × Tree)) :
    valuesAt name (before ++ entry :: after) = valuesAt name (before ++ after) := by
  rw [valuesAt_append, valuesAt_append, valuesAt_cons, if_neg different]

namespace LayoutStep

variable {levels : Nat} {shape : Shape} {tree : Tree}

/-- A step on an object changes its entries only. -/
theorem object_eq {entries : List (Literal × Tree)} {ending : ObjectEnd}
    (step : LayoutStep levels shape (.object entries ending) tree) :
    ∃ others, tree = .object others ending := by
  cases step <;> exact ⟨_, rfl⟩

theorem list_eq {items : List Tree} {ending : ListEnd}
    (step : LayoutStep levels shape (.list items ending) tree) :
    ∃ others, tree = .list others ending := by
  cases step <;> exact ⟨_, rfl⟩

theorem valuesAt_changes {entries others : List (Literal × Tree)} {ending : ObjectEnd}
    (step : LayoutStep levels shape (.object entries ending) (.object others ending))
    {slots : List Slot} (parts : shape.slotsIn entries = some slots) {slot : Slot}
    (known : slot ∈ slots) :
    slot.Changes (levels - 1) (valuesAt slot.name entries) (valuesAt slot.name others) := by
  cases step with
  | reorder reordered => exact .reordered ((reordered.filter _).map _)
  | @addUnknown _ _ before after _ _ key value same unknown _ =>
      cases same.symm.trans parts
      have different : (Literal.mk key none).text ≠ slot.name := (unknown slot known).symm
      rw [valuesAt_insert_of_ne different]
      exact .reordered (.refl _)
  | @addDefault _ _ before after _ _ added json same member leftOut default fits =>
      cases same.symm.trans parts
      by_cases here : added.name = slot.name
      · have equal : added = slot :=
          List.inj_on_of_nodup_map (Shape.slots?_distinct parts) member known here
        subst equal
        obtain ⟨nothingBefore, nothingAfter⟩ := List.forall_mem_append.mp leftOut
        rw [valuesAt_append, valuesAt_append, valuesAt_cons, if_pos rfl,
          valuesAt_eq_nil_iff.mpr nothingBefore, valuesAt_eq_nil_iff.mpr nothingAfter]
        exact .written default (Nat.le_sub_one_of_lt fits)
      · have different : (Literal.mk added.name none).text ≠ slot.name := here
        rw [valuesAt_insert_of_ne different]
        exact .reordered (.refl _)
  | @entry _ _ before after _ key tree other inside =>
      by_cases here : key.text = slot.name
      · rw [valuesAt_append, valuesAt_append, valuesAt_cons, valuesAt_cons, if_pos here, if_pos here]
        rw [here, Shape.entryShape_eq parts known] at inside
        exact .inside inside
      · rw [valuesAt_insert_of_ne here, valuesAt_insert_of_ne here]
        exact .reordered (.refl _)

/-- A condition on single entries holds of all of them before a step if it does after it, as long as
it holds of what can be added and cannot tell apart what the step changes. -/
theorem forall_entries_iff {entries others : List (Literal × Tree)} {ending : ObjectEnd}
    {good : Literal × Tree → Prop}
    (step : LayoutStep levels shape (.object entries ending) (.object others ending))
    (scalar : ∀ key value, value.IsScalar → good (⟨key, none⟩, value))
    (written : ∀ key json, json.nesting ≤ levels - 1 → good (⟨key, none⟩, .ofJson json))
    (inside : ∀ key inner tree other, LayoutStep (levels - 1) inner tree other →
      (good (key, tree) ↔ good (key, other))) :
    (∀ entry ∈ entries, good entry) ↔ ∀ entry ∈ others, good entry := by
  cases step with
  | reorder reordered => exact forall_mem_reorder reordered
  | addUnknown _ _ isScalar => exact forall_mem_insert (scalar _ _ isScalar)
  | addDefault _ _ _ _ fits =>
      exact forall_mem_insert (written _ _ (Nat.le_sub_one_of_lt fits))
  | entry step => exact forall_mem_replace (inside _ _ _ _ step)

/-- The same for the items of a list after the first one, which can be a tag. -/
theorem forall_items_iff {items others : List Tree} {ending : ListEnd} {good : Tree → Prop}
    (step : LayoutStep levels shape (.list items ending) (.list others ending))
    (written : ∀ json, json.nesting ≤ levels - 1 → good (.ofJson json))
    (inside : ∀ inner tree other, LayoutStep (levels - 1) inner tree other →
      (good tree ↔ good other)) :
    (∀ item ∈ items.drop 1, good item) ↔ ∀ item ∈ others.drop 1, good item := by
  cases step with
  | @item _ _ before _ _ _ _ step =>
      cases before with
      | nil => exact Iff.rfl
      | cons _ before => exact forall_mem_replace (inside _ _ _ step)
  | addItem _ _ _ fits =>
      cases items with
      | nil => exact Iff.rfl
      | cons _ items => exact forall_mem_snoc (written _ (Nat.le_sub_one_of_lt fits))

end LayoutStep

/-- What a step does to the entries of an object with these slots. -/
structure EntriesChange (levels : Nat) (slots : List Slot) (entries others : List (Literal × Tree)) :
    Prop where
  values : ∀ slot ∈ slots,
    slot.Changes levels (valuesAt slot.name entries) (valuesAt slot.name others)
  passes : (∀ entry ∈ entries, Passes (slots.map Slot.name) entry) ↔
    ∀ entry ∈ others, Passes (slots.map Slot.name) entry

/-- What a step does to the items of a list that stand for these slots. -/
structure ItemsChange (levels : Nat) (slots : List Slot) (items others : List Tree) : Prop where
  values : ∀ (index : Nat) (slot : Slot), slots[index]? = some slot →
    slot.Changes levels items[index]?.toList others[index]?.toList
  rest : items.length ≤ slots.length ↔ others.length ≤ slots.length

theorem ItemsChange.first {levels : Nat} {slot : Slot} {slots : List Slot} {items others : List Tree}
    (change : ItemsChange levels (slot :: slots) items others) :
    slot.Changes levels (items.take 1) (others.take 1) := by
  have taken : ∀ trees : List Tree, trees.take 1 = trees[0]?.toList := by
    intro trees
    cases trees <;> rfl
  rw [taken, taken]
  exact change.values 0 slot rfl

theorem ItemsChange.others {levels : Nat} {slot : Slot} {slots : List Slot}
    {items others : List Tree} (change : ItemsChange levels (slot :: slots) items others) :
    ItemsChange levels slots (items.drop 1) (others.drop 1) where
  values := fun index later known => by
    rw [List.getElem?_drop, List.getElem?_drop, Nat.add_comm]
    exact change.values (index + 1) later known
  rest := by
    have lengths := change.rest
    rw [List.length_cons] at lengths
    rw [List.length_drop, List.length_drop]
    omega

namespace LayoutStep

variable {levels : Nat} {shape : Shape} {slots : List Slot}

theorem entriesChange {entries others : List (Literal × Tree)} {ending : ObjectEnd}
    (step : LayoutStep levels shape (.object entries ending) (.object others ending))
    (parts : shape.slotsIn entries = some slots) : EntriesChange (levels - 1) slots entries others where
  values := fun slot known => step.valuesAt_changes parts known
  passes := by
    refine step.forall_entries_iff ?_ ?_ ?_
    · exact fun key value scalar => ⟨rfl, fun _ => scalar.skip⟩
    · exact fun key json _ => ⟨rfl, fun _ => Tree.skip_ofJson json⟩
    · exact fun key inner tree other inside =>
        and_congr_right' (forall_congr' fun _ => inside.skip_iff)

theorem itemsChange {items others : List Tree} {ending : ListEnd}
    (step : LayoutStep levels shape (.list items ending) (.list others ending))
    (parts : shape.slots? items.head? = some slots) : ItemsChange (levels - 1) slots items others := by
  cases step with
  | @item _ _ before after _ tree other inside =>
      have replaced : before ++ other :: after = (before ++ tree :: after).set before.length other := by
        rw [List.set_append_right _ _ (Nat.le_refl _), Nat.sub_self, List.set_cons_zero]
      rw [replaced]
      constructor
      · intro index slot known
        by_cases here : before.length = index
        · subst here
          rw [Shape.itemShape_eq parts known] at inside
          have placed : before.length < (before ++ tree :: after).length := by
            rw [List.length_append, List.length_cons]
            omega
          rw [List.getElem?_set_self placed, List.getElem?_append_right (Nat.le_refl _), Nat.sub_self]
          exact Slot.Changes.single inside
        · rw [List.getElem?_set_ne here]
          exact .reordered (.refl _)
      · rw [List.length_set]
  | @addItem _ _ _ _ _ added json same place default fits =>
      cases same.symm.trans parts
      have placed : items.length < slots.length := (List.getElem?_eq_some_iff.mp place).1
      constructor
      · intro index slot known
        rcases Nat.lt_trichotomy index items.length with earlier | rfl | later
        · rw [List.getElem?_append_left earlier]
          exact .reordered (.refl _)
        · cases place.symm.trans known
          rw [List.getElem?_eq_none (Nat.le_refl _), List.getElem?_append_right (Nat.le_refl _),
            Nat.sub_self]
          exact .written default (Nat.le_sub_one_of_lt fits)
        · rw [List.getElem?_eq_none (Nat.le_of_lt later), List.getElem?_eq_none]
          · exact .reordered (.refl _)
          · rw [List.length_append, List.length_singleton]
            exact later
      · rw [List.length_append, List.length_singleton]
        omega

end LayoutStep

end ZeroError.Go
