import ZeroError.Decimal.Shortest
import ZeroError.Text.Quoted

/-!
Why a document is refused. A fault is either a mistake in the text itself or a value that does not
fit the place where it stands; `Fault.message` gives the wording of each.
-/

namespace ZeroError.Document

inductive Found
  | null
  | bool (value : Bool)
  | natural (value : Nat)
  | negative (magnitude : Nat)
  | real (bits : UInt64)
  | text (value : String)
  | sequence
  | map
deriving DecidableEq, Repr

inductive Wanted
  | word
  | count
  | text
  | boolean
  | sequence
  | unit
  | record (title : String)
  | elements (title : String) (size : Nat)
  | inSequence (size : Nat)
  | tagged (name : String)
  | variantName
  | variantIndex (size : Nat)
  | nameOrMap
  | singleKey
deriving DecidableEq, Repr

inductive Fault
  | endInValue
  | endInList
  | endInObject
  | endInText
  | expectedValue
  | misspelt
  | expectedColon
  | expectedCommaOrBracket
  | expectedCommaOrBrace
  | trailingComma
  | trailingCharacters
  | keyNotText
  | invalidNumber
  | numberOutOfRange
  | invalidEscape
  | controlCharacter
  | loneSurrogate
  | cutSurrogate
  | tooDeep
  | missingField (name : String)
  | duplicateField (name : String)
  | unknownVariant (name : String) (known : List String)
  | invalidType (found : Found) (wanted : Wanted)
  | invalidValue (found : Found) (wanted : Wanted)
  | invalidLength (length : Nat) (wanted : Wanted)
deriving DecidableEq, Repr

def ticked (word : String) : String :=
  "`" ++ word ++ "`"

def elementCount (size : Nat) : String :=
  toString size ++ (if size = 1 then " element" else " elements")

def choice : List String → String
  | [] => "there are no variants"
  | [name] => ticked name
  | [first, second] => ticked first ++ " or " ++ ticked second
  | names => "one of " ++ String.intercalate ", " (names.map ticked)

def Found.message : Found → String
  | .null => "null"
  | .bool true => "boolean `true`"
  | .bool false => "boolean `false`"
  | .natural value => "integer " ++ ticked (toString value)
  | .negative magnitude => "integer " ++ ticked ("-" ++ toString magnitude)
  | .real bits => "floating point " ++ ticked (Decimal.text bits)
  | .text value => "string " ++ Text.quote value
  | .sequence => "sequence"
  | .map => "map"

def Wanted.message : Wanted → String
  | .word => "u32"
  | .count => "usize"
  | .text => "a string"
  | .boolean => "a boolean"
  | .sequence => "a sequence"
  | .unit => "unit"
  | .record title => title
  | .elements title size => title ++ " with " ++ elementCount size
  | .inSequence size => elementCount size ++ " in sequence"
  | .tagged name => "internally tagged enum " ++ name
  | .variantName => "variant identifier"
  | .variantIndex size => "variant index 0 <= i < " ++ toString size
  | .nameOrMap => "string or map"
  | .singleKey => "map with a single key"

def Fault.message : Fault → String
  | .endInValue => "EOF while parsing a value"
  | .endInList => "EOF while parsing a list"
  | .endInObject => "EOF while parsing an object"
  | .endInText => "EOF while parsing a string"
  | .expectedValue => "expected value"
  | .misspelt => "expected ident"
  | .expectedColon => "expected `:`"
  | .expectedCommaOrBracket => "expected `,` or `]`"
  | .expectedCommaOrBrace => "expected `,` or `\x7d`"
  | .trailingComma => "trailing comma"
  | .trailingCharacters => "trailing characters"
  | .keyNotText => "key must be a string"
  | .invalidNumber => "invalid number"
  | .numberOutOfRange => "number out of range"
  | .invalidEscape => "invalid escape"
  | .controlCharacter => "control character (\\u0000-\\u001F) found while parsing a string"
  | .loneSurrogate => "lone leading surrogate in hex escape"
  | .cutSurrogate => "unexpected end of hex escape"
  | .tooDeep => "recursion limit exceeded"
  | .missingField name => "missing field " ++ ticked name
  | .duplicateField name => "duplicate field " ++ ticked name
  | .unknownVariant name known => "unknown variant " ++ ticked name ++ ", expected " ++ choice known
  | .invalidType found wanted => "invalid type: " ++ found.message ++ ", expected " ++ wanted.message
  | .invalidValue found wanted =>
      "invalid value: " ++ found.message ++ ", expected " ++ wanted.message
  | .invalidLength length wanted =>
      "invalid length " ++ toString length ++ ", expected " ++ wanted.message

end ZeroError.Document
