import ZeroError.Document.Scanner

/-!
Reading values out of a document. A record is read either entry by entry, in the order of the text,
or from a list of its fields in the order of their declaration. A choice among records is told by
the entry `kind`; the whole object is gone over before its other entries are read, since their
meaning may depend on a `kind` that stands last. From then on reading is buffered: the text is known
to be sound, and a few faults are worded differently.
-/

namespace ZeroError.Document

/-- Whether the text is still being followed or has been gone over already. -/
inductive Mode
  | streamed
  | buffered
deriving DecidableEq, Repr

abbrev Reader (α : Type) := Mode → Tree → Except Fault α

def maxDepth : Nat := 127

/-! Scalars -/

namespace Reader

def bounded (bound : Nat) (wanted : Wanted) : Reader Nat
  | _, .number (.natural value) =>
      if value < bound then .ok value else .error (.invalidValue (.natural value) wanted)
  | _, .number (.negative magnitude) => .error (.invalidValue (.negative magnitude) wanted)
  | _, tree => .error (tree.refuse wanted)

def word : Reader UInt32 := fun mode tree =>
  (bounded UInt32.size .word mode tree).map UInt32.ofNat

def count : Reader UInt64 := fun mode tree =>
  (bounded UInt64.size .count mode tree).map UInt64.ofNat

def text : Reader String
  | _, .text literal => literal.keep
  | _, tree => .error (tree.refuse .text)

def boolean : Reader Bool
  | _, .bool value => .ok value
  | _, tree => .error (tree.refuse .boolean)

def option {α : Type} (inner : Reader α) : Reader (Option α)
  | _, .null => .ok none
  | mode, tree => (inner mode tree).map some

def items {α : Type} (item : Reader α) : Reader (List α)
  | mode, .list items ending => do
      let values ← items.mapM (item mode)
      ending.keep
      return values
  | _, tree => .error (tree.refuse .sequence)

def noItems {α : Type} : Reader (List α)
  | _, .list _ _ => .error .tooDeep
  | _, tree => .error (tree.refuse .sequence)

def list {α : Type} (item : Nat → Reader α) : (depth : Nat) → Reader (List α)
  | 0 => noItems
  | depth + 1 => items (item depth)

def noRecord {α : Type} (wanted : Wanted) : Reader α
  | _, .list _ _ => .error .tooDeep
  | _, .object _ _ => .error .tooDeep
  | _, tree => .error (tree.refuse wanted)

end Reader

/-! Records -/

/-- A field of a record: its name, how it is read, and its value if it is left out. -/
structure FieldRule (α : Type) where
  name : String
  read : Reader α
  default? : Option α

def required {α : Type} (name : String) (read : Reader α) : FieldRule α :=
  ⟨name, read, none⟩

def defaulted {α : Type} (name : String) (read : Reader α) (value : α) : FieldRule α :=
  ⟨name, read, some value⟩

def optional {α : Type} (name : String) (read : Reader α) : FieldRule (Option α) :=
  ⟨name, Reader.option read, some none⟩

inductive Fields : List Type → Type 1
  | nil : Fields []
  | cons {α : Type} {types : List Type} (field : FieldRule α) (rest : Fields types) :
      Fields (α :: types)

def Values : List Type → Type
  | [] => Unit
  | α :: types => α × Values types

def Builder : List Type → Type → Type
  | [], α => α
  | β :: types, α => β → Builder types α

def Builder.apply {α : Type} : {types : List Type} → Builder types α → Values types → α
  | [], result, _ => result
  | _ :: _, build, (value, values) => Builder.apply (build value) values

def Slots : List Type → Type
  | [] => Unit
  | α :: types => Option α × Slots types

def Slots.empty : (types : List Type) → Slots types
  | [] => ()
  | _ :: types => (none, Slots.empty types)

namespace Fields

def size : {types : List Type} → Fields types → Nat
  | _, nil => 0
  | _, cons _ rest => rest.size + 1

/-- Reads the value of the field with the given name into its place, which must be empty. There is
no result if no field has that name. -/
def put : {types : List Type} → Fields types → Mode → String → Tree → Slots types →
    Option (Except Fault (Slots types))
  | _, nil, _, _, _, _ => none
  | _, cons field rest, mode, name, tree, (slot, slots) =>
      if name = field.name then
        match slot with
        | some _ => some (.error (.duplicateField name))
        | none => some ((field.read mode tree).map (fun value => (some value, slots)))
      else
        (rest.put mode name tree slots).map (fun result => result.map (fun slots => (slot, slots)))

/-- Reads the entries of an object in the order of the text, passing by those that are no field. -/
def readEntries {types : List Type} (fields : Fields types) (mode : Mode) :
    Slots types → List (Literal × Tree) → Except Fault (Slots types)
  | slots, [] => .ok slots
  | slots, (key, tree) :: entries => do
      let name ← key.keep
      match fields.put mode name tree slots with
      | some result =>
          let slots ← result
          readEntries fields mode slots entries
      | none =>
          tree.skip
          readEntries fields mode slots entries

/-- Gives every field its value, or the value it has when it is left out. -/
def collect : {types : List Type} → Fields types → Slots types → Except Fault (Values types)
  | _, nil, _ => .ok ()
  | _, cons field rest, (slot, slots) =>
      match slot <|> field.default? with
      | none => .error (.missingField field.name)
      | some value => (rest.collect slots).map (fun values => (value, values))

def ofEntries {types : List Type} (fields : Fields types) (mode : Mode)
    (entries : List (Literal × Tree)) (ending : ObjectEnd) : Except Fault (Values types) := do
  let slots ← fields.readEntries mode (Slots.empty types) entries
  ending.keep
  fields.collect slots

/-- Reads one field after another from a list, starting with the field at `index`, and gives the
items that are left over. -/
def readItems (wanted : Wanted) : {types : List Type} → Fields types → Mode → (index : Nat) →
    List Tree → ListEnd → Except Fault (Values types × List Tree)
  | _, nil, _, _, items, _ => .ok ((), items)
  | _, cons field rest, mode, index, items, ending => do
      match items with
      | item :: items =>
          let value ← field.read mode item
          let (values, left) ← rest.readItems wanted mode (index + 1) items ending
          return ((value, values), left)
      | [] =>
          ending.keep
          match field.default? with
          | none => .error (.invalidLength index wanted)
          | some value =>
              let (values, left) ← rest.readItems wanted mode (index + 1) [] ending
              return ((value, values), left)

def ofItems {types : List Type} (fields : Fields types) (title : String) (mode : Mode)
    (items : List Tree) (ending : ListEnd) : Except Fault (Values types) := do
  let (values, left) ←
    fields.readItems (.elements title fields.size) mode 0 items ending
  match mode, left with
  | _, [] => ending.close
  | .streamed, _ :: _ => .error .trailingCharacters
  | .buffered, _ :: _ => .error (.invalidLength items.length (.inSequence fields.size))
  return values

end Fields

structure Layout (α : Type) where
  title : String
  ofEntries : Mode → List (Literal × Tree) → ObjectEnd → Except Fault α
  ofItems : Mode → List Tree → ListEnd → Except Fault α

def Fields.layout {types : List Type} {α : Type} (fields : Fields types) (title : String)
    (build : Builder types α) : Layout α where
  title := title
  ofEntries := fun mode entries ending => (fields.ofEntries mode entries ending).map build.apply
  ofItems := fun mode items ending => (fields.ofItems title mode items ending).map build.apply

def Layout.map {α β : Type} (f : α → β) (layout : Layout α) : Layout β where
  title := layout.title
  ofEntries := fun mode entries ending => (layout.ofEntries mode entries ending).map f
  ofItems := fun mode items ending => (layout.ofItems mode items ending).map f

def Layout.reader {α : Type} (layout : Layout α) : Reader α
  | mode, .object entries ending => layout.ofEntries mode entries ending
  | mode, .list items ending => layout.ofItems mode items ending
  | _, tree => .error (tree.refuse (.record layout.title))

def Reader.record {α : Type} (title : String) (layout : Nat → Layout α) : (depth : Nat) → Reader α
  | 0 => Reader.noRecord (.record title)
  | depth + 1 => (layout depth).reader

/-! Choices -/

inductive Content
  | entries (entries : List (Literal × Tree))
  | items (items : List Tree)

structure Variant (α : Type) where
  name : String
  read : Content → Except Fault α

def Variant.bare {α : Type} (name : String) (value : α) : Variant α where
  name := name
  read := fun content =>
    match content with
    | .entries _ => .ok value
    | .items [] => .ok value
    | .items items => .error (.invalidLength items.length (.inSequence 0))

def Variant.record {α : Type} (name : String) (layout : Layout α) : Variant α where
  name := name
  read := fun content =>
    match content with
    | .entries entries => layout.ofEntries .buffered entries .closed
    | .items items => layout.ofItems .buffered items .closed

namespace Reader

def tagKey : String := "kind"

/-- Reads a tag. A buffered tag may also be the position of the variant. -/
def tag {α : Type} (variants : List (Variant α)) (other? : Option (Variant α)) :
    Reader (Variant α)
  | _, .text literal => do
      let name ← literal.keep
      match variants.find? (fun variant => variant.name = name) <|> other? with
      | some variant => .ok variant
      | none => .error (.unknownVariant name (variants.map Variant.name))
  | .buffered, .number (.natural index) =>
      match variants[index]? <|> other? with
      | some variant => .ok variant
      | none => .error (.invalidValue (.natural index) (.variantIndex variants.length))
  | _, tree => .error (tree.refuse .variantName)

/-- Goes over the entries of a tagged object, reading the tag where it stands and settling all other
values. -/
def splitTag {τ : Type} (readTag : Tree → Except Fault τ) (settle : Tree → Except Fault Unit) :
    Option τ → List (Literal × Tree) → Except Fault (Option τ × List (Literal × Tree))
  | found, [] => .ok (found, [])
  | found, (key, tree) :: entries => do
      let name ← key.keep
      if name = tagKey then
        match found with
        | some _ => .error (.duplicateField tagKey)
        | none =>
            let value ← readTag tree
            splitTag readTag settle (some value) entries
      else
        settle tree
        let (found, others) ← splitTag readTag settle found entries
        return (found, (key, tree) :: others)

/-- Goes over a value inside a tagged one; what is buffered has been gone over before. -/
def settleIn (depth : Nat) : Mode → Tree → Except Fault Unit
  | .streamed, tree => tree.settle depth
  | .buffered, _ => .ok ()

/-- Reads a tagged value whose parts may be nested `depth` levels deep. -/
def tagged {α : Type} (title : String) (variants : List (Variant α))
    (other? : Option (Variant α)) (depth : Nat) : Reader α
  | mode, .object entries ending => do
      let (found, others) ←
        splitTag (tag variants other? mode) (settleIn depth mode) none entries
      ending.keep
      match found with
      | none => .error (.missingField tagKey)
      | some variant => variant.read (.entries others)
  | _, .list [] ending => do
      ending.keep
      .error (.missingField tagKey)
  | mode, .list (first :: rest) ending => do
      let variant ← tag variants other? mode first
      rest.forM (settleIn depth mode)
      ending.keep
      variant.read (.items rest)
  | _, tree => .error (tree.refuse (.tagged title))

def named {α : Type} (options : List (String × α)) (name : String) : Except Fault α :=
  match options.lookup name with
  | some value => .ok value
  | none => .error (.unknownVariant name (options.map Prod.fst))

def closeSingle : List (Literal × Tree) → ObjectEnd → Except Fault Unit
  | [], .closed | [], .inside => .ok ()
  | [], .endOfInput => .error .endInObject
  | _, _ => .error .expectedValue

/-- Reads one of a few names while the text is being followed. A name may also be the only key of an
object, with `null` as its value. -/
def streamedName {α : Type} (options : List (String × α)) : (depth : Nat) → Tree → Except Fault α
  | _, .text literal => do
      let name ← literal.keep
      named options name
  | 0, .object _ _ => .error .tooDeep
  | _ + 1, .object [] ending => do
      match ending with
      | .endOfInput => .error .endInValue
      | .noKey face => .error (face.refuse .variantName)
      | ending =>
          ending.keep
          .error .expectedValue
  | _ + 1, .object ((key, tree) :: rest) ending => do
      let name ← key.keep
      let value ← named options name
      match tree with
      | .null =>
          closeSingle rest ending
          return value
      | tree => .error (tree.refuse .unit)
  | _, .broken .endOfInput => .error .endInValue
  | _, .broken (.text unpaired cause) => .error (cause.keepFault unpaired)
  | _, .broken .endAfterKey => .error .endInObject
  | _, .broken .noColon => .error .expectedColon
  | _, _ => .error .expectedValue

def bufferedName {α : Type} (options : List (String × α)) : Tree → Except Fault α
  | .text literal => do
      let name ← literal.keep
      named options name
  | .object [(key, tree)] _ => do
      let name ← key.keep
      let value ← named options name
      match tree with
      | .null | .object [] _ => return value
      | tree => .error (tree.refuse .unit)
  | .object _ _ => .error (.invalidValue .map .singleKey)
  | tree => .error (tree.refuse .nameOrMap)

def name {α : Type} (options : List (String × α)) (depth : Nat) : Reader α
  | .streamed, tree => streamedName options depth tree
  | .buffered, tree => bufferedName options tree

end Reader

/-- Reads a whole document, after which nothing but blanks may follow. -/
def Source.read {α : Type} (reader : Nat → Reader α) (source : Source) : Except Fault α := do
  let value ← reader maxDepth .streamed source.tree
  if source.trailing then .error .trailingCharacters else return value

end ZeroError.Document
