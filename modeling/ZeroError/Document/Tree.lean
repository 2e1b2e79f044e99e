import ZeroError.Document.Fault
import ZeroError.Document.Json

/-!
Documents as far as their text can be followed. A `Tree` is what the text says up to its end or up to
the first place that no JSON text can have; such a place is kept in the tree, so it is always the
last thing in reading order. Whoever reads the tree decides when a broken place is reported:
`Tree.settle` goes over a value that will be kept, `Tree.skip` over one that is passed by and
therefore held to fewer rules.
-/

namespace ZeroError.Document

/-- A number. Out of range means that no finite floating point number is near it. -/
inductive Numeral
  | natural (value : Nat)
  | negative (magnitude : Nat)
  | real (bits : UInt64)
  | outOfRange
deriving DecidableEq, Repr

inductive Unpaired
  | lone
  | cut
deriving DecidableEq, Repr

structure Literal where
  text : String
  unpaired : Option Unpaired := none
deriving DecidableEq, Repr

inductive TextBreak
  | endOfInput
  | escape
  | control
deriving DecidableEq, Repr

inductive Break
  | endOfInput
  | endInWord
  | noValue
  | misspelt
  | malformedNumber
  | endInNumber
  | text (unpaired : Option Unpaired) (cause : TextBreak)
  | endAfterKey
  | noColon
deriving DecidableEq, Repr

inductive ListEnd
  | closed
  | inside
  | endOfInput
  | endAfterComma
  | commaBeforeClose
  | noSeparator
deriving DecidableEq, Repr

/-- What a value looks like from outside: what it is, or why that cannot be told. -/
inductive Face
  | shown (found : Found)
  | faulty (fault : Fault)
deriving DecidableEq, Repr

inductive ObjectEnd
  | closed
  | inside
  | endOfInput
  | endAfterComma
  | commaBeforeClose
  | noSeparator
  | noKey (face : Face)
  | brokenKey (unpaired : Option Unpaired) (cause : TextBreak)
deriving DecidableEq, Repr

inductive Tree
  | null
  | bool (value : Bool)
  | number (value : Numeral)
  | text (value : Literal)
  | list (items : List Tree) (ending : ListEnd)
  | object (entries : List (Literal × Tree)) (ending : ObjectEnd)
  | broken (cause : Break)
deriving Inhabited

def Unpaired.fault : Unpaired → Fault
  | .lone => .loneSurrogate
  | .cut => .cutSurrogate

/-- The fault of a string that is passed by: surrogates need no partner there. -/
def TextBreak.skipFault : TextBreak → Fault
  | .endOfInput => .endInText
  | .escape => .invalidEscape
  | .control => .controlCharacter

/-- The fault of a string that is kept: a surrogate without partner comes first. -/
def TextBreak.keepFault (cause : TextBreak) : Option Unpaired → Fault
  | some unpaired => unpaired.fault
  | none => cause.skipFault

def Literal.keep (literal : Literal) : Except Fault String :=
  match literal.unpaired with
  | some unpaired => .error unpaired.fault
  | none => .ok literal.text

def Break.keepFault : Break → Fault
  | .endOfInput | .endInWord => .endInValue
  | .noValue => .expectedValue
  | .misspelt => .misspelt
  | .malformedNumber => .invalidNumber
  | .endInNumber => .endInValue
  | .text unpaired cause => cause.keepFault unpaired
  | .endAfterKey => .endInObject
  | .noColon => .expectedColon

def Break.skipFault : Break → Fault
  | .endInNumber => .invalidNumber
  | .text _ cause => cause.skipFault
  | cause => cause.keepFault

def ListEnd.keep : ListEnd → Except Fault Unit
  | .closed | .inside => .ok ()
  | .endOfInput => .error .endInList
  | .endAfterComma => .error .endInValue
  | .commaBeforeClose => .error .trailingComma
  | .noSeparator => .error .expectedCommaOrBracket

def ListEnd.skip : ListEnd → Except Fault Unit
  | .commaBeforeClose => .error .expectedValue
  | ending => ending.keep

def ListEnd.close : ListEnd → Except Fault Unit
  | .endAfterComma | .noSeparator => .error .trailingCharacters
  | ending => ending.keep

def ObjectEnd.keep : ObjectEnd → Except Fault Unit
  | .closed | .inside => .ok ()
  | .endOfInput => .error .endInObject
  | .endAfterComma => .error .endInValue
  | .commaBeforeClose => .error .trailingComma
  | .noSeparator => .error .expectedCommaOrBrace
  | .noKey _ => .error .keyNotText
  | .brokenKey unpaired cause => .error (cause.keepFault unpaired)

def ObjectEnd.skip : ObjectEnd → Except Fault Unit
  | .endAfterComma => .error .endInObject
  | .commaBeforeClose => .error .keyNotText
  | .brokenKey _ cause => .error cause.skipFault
  | ending => ending.keep

/-- The fault of something that does not fit the place where it stands. -/
def Face.refuse (wanted : Wanted) : Face → Fault
  | .shown found => .invalidType found wanted
  | .faulty fault => fault

namespace Tree

/-- What a value looks like from outside. A broken place and a number out of range are reported as
such; lists and objects are not opened. -/
def face : Tree → Face
  | null => .shown .null
  | bool value => .shown (.bool value)
  | number (.natural value) => .shown (.natural value)
  | number (.negative magnitude) => .shown (.negative magnitude)
  | number (.real bits) => .shown (.real bits)
  | number .outOfRange => .faulty .numberOutOfRange
  | text literal =>
      match literal.keep with
      | .ok value => .shown (.text value)
      | .error fault => .faulty fault
  | list _ _ => .shown .sequence
  | object _ _ => .shown .map
  | broken cause => .faulty cause.keepFault

/-- The fault of a value that does not fit the place where it stands. -/
def refuse (wanted : Wanted) (tree : Tree) : Fault :=
  tree.face.refuse wanted

/-- Goes over a value that will be kept, in reading order. At most `depth` lists and objects may
enclose one another. -/
def settle : (depth : Nat) → Tree → Except Fault Unit
  | 0, list _ _ => .error .tooDeep
  | 0, object _ _ => .error .tooDeep
  | depth + 1, list items ending => do
      items.forM (settle depth)
      ending.keep
  | depth + 1, object entries ending => do
      entries.forM (fun entry => do
        let _ ← entry.1.keep
        settle depth entry.2)
      ending.keep
  | _, number .outOfRange => .error .numberOutOfRange
  | _, text literal => literal.keep.map (fun _ => ())
  | _, broken cause => .error cause.keepFault
  | _, _ => .ok ()

mutual

/-- Goes over a value that is passed by. Neither depth nor the range of numbers nor the pairing of
surrogates matters there. -/
def skip : Tree → Except Fault Unit
  | list items ending => do
      skipItems items
      ending.skip
  | object entries ending => do
      skipEntries entries
      ending.skip
  | broken cause => .error cause.skipFault
  | _ => .ok ()

def skipItems : List Tree → Except Fault Unit
  | [] => .ok ()
  | item :: items => do
      skip item
      skipItems items

def skipEntries : List (Literal × Tree) → Except Fault Unit
  | [] => .ok ()
  | (_, value) :: entries => do
      skip value
      skipEntries entries

end

mutual

def ofJson : Json → Tree
  | .null => null
  | .bool value => bool value
  | .number value => number (.natural value)
  | .text value => text ⟨value, none⟩
  | .list items => list (ofItems items) .closed
  | .object entries => object (ofEntries entries) .closed

def ofItems : List Json → List Tree
  | [] => []
  | item :: items => ofJson item :: ofItems items

def ofEntries : List (String × Json) → List (Literal × Tree)
  | [] => []
  | (key, value) :: entries => (⟨key, none⟩, ofJson value) :: ofEntries entries

end

end Tree

end ZeroError.Document
