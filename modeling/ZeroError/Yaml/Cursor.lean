/-!
Reading a configuration text character by character. A cursor knows what is left of the text and at
which line and column it stands. Five characters, and a carriage return with a line feed, end a
line; all but the two separators are read as a line feed.
-/

namespace ZeroError.Yaml

inductive Fault
  | forbiddenCharacter
  | noToken
  | noColonAfterKey
  | entryNotAllowed
  | keyNotAllowed
  | valueNotAllowed
  | malformedDirective
  | malformedAnchor
  | malformedTag
  | malformedBlockHeader
  | tabInIndentation
  | documentMarkInText
  | unclosedText
  | malformedEscape
  | unexpectedColon
  | noContent
  | noKey
  | noEntry
  | unclosedFlow
  | noDocumentStart
  | severalDocuments
  | unknownAnchor
  | unknownTagHandle
  | unsupportedVersion
  | unexpectedNode (wanted : String)
  | unknownName (name : String)
  | duplicateKey (name : String)
deriving DecidableEq, Repr

def Fault.message : Fault → String
  | .forbiddenCharacter => "control characters are not allowed"
  | .noToken => "found character that cannot start any token"
  | .noColonAfterKey => "could not find expected ':'"
  | .entryNotAllowed => "block sequence entries are not allowed in this context"
  | .keyNotAllowed => "mapping keys are not allowed in this context"
  | .valueNotAllowed => "mapping values are not allowed in this context"
  | .malformedDirective => "found a malformed directive"
  | .malformedAnchor => "did not find expected alphabetic or numeric character"
  | .malformedTag => "found a malformed tag"
  | .malformedBlockHeader => "did not find expected comment or line break"
  | .tabInIndentation => "found a tab character where an indentation space is expected"
  | .documentMarkInText => "found unexpected document indicator"
  | .unclosedText => "found unexpected end of stream"
  | .malformedEscape => "found unknown escape character"
  | .unexpectedColon => "found unexpected ':'"
  | .noContent => "did not find expected node content"
  | .noKey => "did not find expected key"
  | .noEntry => "did not find expected '-' indicator"
  | .unclosedFlow => "did not find expected end of flow collection"
  | .noDocumentStart => "did not find expected <document start>"
  | .severalDocuments => "found more than one document"
  | .unknownAnchor => "unknown anchor"
  | .unknownTagHandle => "found undefined tag handle"
  | .unsupportedVersion => "found incompatible YAML document"
  | .unexpectedNode wanted => "invalid type, expected " ++ wanted
  | .unknownName name => "unknown variant `" ++ name ++ "`"
  | .duplicateKey name => "duplicate field `" ++ name ++ "`"

/-- The next line character, and the two separators that stay as they are. -/
def isBreak (c : Char) : Bool :=
  c == '\n' || c == '\r' || c == '\x85' || c == '\u2028' || c == '\u2029'

def isBlank (c : Char) : Bool :=
  c == ' ' || c == '\t'

def isWordChar (c : Char) : Bool :=
  c.isAlphanum || c == '_' || c == '-'

def isAllowed (c : Char) : Bool :=
  c == '\t' || c == '\n' || c == '\r' || (' ' ≤ c && c ≤ '~') || c == '\x85' ||
    (0xA0 ≤ c.toNat && c.toNat ≤ 0xFFFD) || 0x10000 ≤ c.toNat

structure Cursor where
  rest : List Char
  index : Nat := 0
  line : Nat := 0
  column : Nat := 0

namespace Cursor

def peek? (cursor : Cursor) (offset : Nat) : Option Char :=
  cursor.rest[offset]?

def isAt (cursor : Cursor) (offset : Nat) (c : Char) : Bool :=
  cursor.peek? offset == some c

/-- Whether a blank, a line break or the end stands `offset` places ahead. -/
def isGapAt (cursor : Cursor) (offset : Nat) : Bool :=
  match cursor.peek? offset with
  | none => true
  | some c => isBlank c || isBreak c

def next (cursor : Cursor) : Cursor :=
  { cursor with
    rest := cursor.rest.tail, index := cursor.index + 1, column := cursor.column + 1 }

def skip (cursor : Cursor) : (count : Nat) → Cursor
  | 0 => cursor
  | count + 1 => cursor.next.skip count

/-- The line break at the cursor as it is read, and the place after it. -/
def takeBreak (cursor : Cursor) : List Char × Cursor :=
  let after (count : Nat) : Cursor :=
    { rest := cursor.rest.drop count, index := cursor.index + count, line := cursor.line + 1 }
  match cursor.rest with
  | '\r' :: '\n' :: _ => (['\n'], after 2)
  | c :: _ =>
      if c == '\u2028' || c == '\u2029' then ([c], after 1)
      else if isBreak c then (['\n'], after 1)
      else ([], cursor)
  | [] => ([], cursor)

/-- The characters from the cursor on that satisfy a test, and the place after them. -/
def takeWhile (test : Char → Bool) (cursor : Cursor) : List Char × Cursor :=
  let taken := cursor.rest.takeWhile test
  (taken, { cursor with
    rest := cursor.rest.drop taken.length
    index := cursor.index + taken.length
    column := cursor.column + taken.length })

/-- The place after the characters from the cursor on that satisfy a test. -/
def dropWhile (test : Char → Bool) (cursor : Cursor) : Cursor :=
  (cursor.takeWhile test).2

/-- Whether a line starts here with three given characters that stand alone. -/
def isMark (cursor : Cursor) (c : Char) : Bool :=
  cursor.column == 0 && cursor.isAt 0 c && cursor.isAt 1 c && cursor.isAt 2 c && cursor.isGapAt 3

def isDocumentMark (cursor : Cursor) : Bool :=
  cursor.isMark '-' || cursor.isMark '.'

end Cursor

end ZeroError.Yaml
