import ZeroError.Yaml.Cursor

/-!
Scalars as they are written: plain, between quotes, or as an indented block. Line breaks inside a
plain or quoted scalar are folded: a single one becomes a space, and of several the first is
dropped.
-/

namespace ZeroError.Yaml

inductive Style
  | plain
  | singleQuoted
  | doubleQuoted
  | literal
  | folded
deriving DecidableEq, Repr

def foldBreaks (first : List Char) (more : List Char) : List Char :=
  if first == ['\n'] then
    if more.isEmpty then [' '] else more
  else first ++ more

/-- What has been read since the last character that is certainly part of the scalar: blanks, or
line breaks after which blanks no longer count. -/
structure Gap where
  blanks : List Char := []
  broken : Bool := false
  first : List Char := []
  more : List Char := []

def Gap.text (gap : Gap) : List Char :=
  if gap.broken then foldBreaks gap.first gap.more else gap.blanks

structure Reading where
  cursor : Cursor
  done : List Char := []
  gap : Gap := {}

def Reading.takeGap (reading : Reading) : Reading :=
  match reading.cursor.rest with
  | c :: _ =>
      if isBlank c then
        { reading with
          cursor := reading.cursor.next
          gap := if reading.gap.broken then reading.gap
            else { reading.gap with blanks := reading.gap.blanks ++ [c] } }
      else
        let (lineBreak, cursor) := reading.cursor.takeBreak
        { reading with
          cursor := cursor
          gap := if reading.gap.broken then { reading.gap with more := reading.gap.more ++ lineBreak }
            else { blanks := [], broken := true, first := lineBreak, more := [] } }
  | [] => reading

def Reading.take (reading : Reading) (text : List Char) (cursor : Cursor) : Reading :=
  { cursor := cursor, done := reading.done ++ reading.gap.text ++ text, gap := {} }

def Reading.atGap (reading : Reading) : Bool :=
  match reading.cursor.rest with
  | c :: _ => isBlank c || isBreak c
  | [] => false

/-! Plain scalars -/

def isFlowIndicator (c : Char) : Bool :=
  c == ',' || c == '[' || c == ']' || c == '\x7b' || c == '\x7d'

def plainWord (inFlow : Bool) : (fuel : Nat) → Reading → Except Fault Reading
  | 0, reading => .ok reading
  | fuel + 1, reading =>
      match reading.cursor.rest with
      | [] => .ok reading
      | c :: _ =>
          if isBlank c || isBreak c then .ok reading
          else if inFlow && c == ':' &&
              (reading.cursor.peek? 1).any (fun d => isFlowIndicator d || d == '?') then
            .error .unexpectedColon
          else if (c == ':' && reading.cursor.isGapAt 1) || (inFlow && isFlowIndicator c) then
            .ok reading
          else plainWord inFlow fuel (reading.take [c] reading.cursor.next)

def plainGap (indent : Int) : (fuel : Nat) → Reading → Except Fault Reading
  | 0, reading => .ok reading
  | fuel + 1, reading =>
      if reading.atGap then
        if reading.gap.broken && (reading.cursor.column : Int) < indent && reading.cursor.isAt 0 '\t'
        then .error .tabInIndentation
        else plainGap indent fuel reading.takeGap
      else .ok reading

/-- Reads the words of a plain scalar, which may stand on several lines. -/
def plainWords (inFlow : Bool) (indent : Int) : (fuel : Nat) → Reading → Except Fault Reading
  | 0, reading => .ok reading
  | fuel + 1, reading => do
      if reading.cursor.isDocumentMark || reading.cursor.isAt 0 '#' then return reading
      let reading ← plainWord inFlow reading.cursor.rest.length reading
      if !reading.atGap then return reading
      let reading ← plainGap indent reading.cursor.rest.length reading
      if !inFlow && (reading.cursor.column : Int) < indent then return reading
      plainWords inFlow indent fuel reading

def scanPlain (inFlow : Bool) (indent : Int) (cursor : Cursor) :
    Except Fault (String × Bool × Cursor) := do
  let reading ← plainWords inFlow indent cursor.rest.length { cursor := cursor }
  return (String.ofList reading.done, reading.gap.broken, reading.cursor)

/-! Quoted scalars -/

def hexNumber? (digits : List Char) : Option Nat :=
  digits.foldl
    (fun value digit =>
      if '0' ≤ digit && digit ≤ '9' then value.map (· * 16 + (digit.toNat - '0'.toNat))
      else if 'a' ≤ digit && digit ≤ 'f' then value.map (· * 16 + (digit.toNat - 'a'.toNat + 10))
      else if 'A' ≤ digit && digit ≤ 'F' then value.map (· * 16 + (digit.toNat - 'A'.toNat + 10))
      else none)
    (some 0)

def letterEscape? (c : Char) : Option Char :=
  match c with
  | '0' => some '\x00'
  | 'a' => some '\x07'
  | 'b' => some '\x08'
  | 't' => some '\t'
  | '\t' => some '\t'
  | 'n' => some '\n'
  | 'v' => some '\x0b'
  | 'f' => some '\x0c'
  | 'r' => some '\r'
  | 'e' => some '\x1b'
  | ' ' => some ' '
  | '"' => some '"'
  | '/' => some '/'
  | '\\' => some '\\'
  | 'N' => some '\x85'
  | '_' => some '\xa0'
  | 'L' => some '\u2028'
  | 'P' => some '\u2029'
  | _ => none

def escapeLength? (c : Char) : Option Nat :=
  match c with
  | 'x' => some 2
  | 'u' => some 4
  | 'U' => some 8
  | _ => none

def scanEscape (cursor : Cursor) : Except Fault (Char × Cursor) :=
  match cursor.peek? 1 with
  | none => .error .malformedEscape
  | some c =>
      match letterEscape? c, escapeLength? c with
      | some escaped, _ => .ok (escaped, cursor.skip 2)
      | none, none => .error .malformedEscape
      | none, some length =>
          let digits := (cursor.rest.drop 2).take length
          match hexNumber? digits with
          | none => .error .malformedEscape
          | some value =>
              if digits.length = length ∧ value.isValidChar then
                .ok (Char.ofNat value, cursor.skip (2 + length))
              else .error .malformedEscape

/-- Reads characters of a quoted scalar up to a gap or to the closing quote. -/
def quotedWord (single : Bool) : (fuel : Nat) → Reading → Except Fault Reading
  | 0, reading => .ok reading
  | fuel + 1, reading =>
      match reading.cursor.rest with
      | [] => .ok reading
      | c :: rest =>
          if isBlank c || isBreak c then .ok reading
          else if single then
            if c == '\x27' then
              if rest.head? == some '\x27' then
                quotedWord single fuel (reading.take ['\x27'] (reading.cursor.skip 2))
              else .ok reading
            else quotedWord single fuel (reading.take [c] reading.cursor.next)
          else if c == '"' then .ok reading
          else if c == '\\' then
            if rest.head?.any isBreak then
              -- An escaped line break joins the lines without a space.
              let joined := reading.take [] reading.cursor.next
              .ok { joined with
                cursor := joined.cursor.takeBreak.2
                gap := { broken := true } }
            else
              match scanEscape reading.cursor with
              | .ok (escaped, cursor) => quotedWord single fuel (reading.take [escaped] cursor)
              | .error fault => .error fault
          else quotedWord single fuel (reading.take [c] reading.cursor.next)

def quotedGap : (fuel : Nat) → Reading → Reading
  | 0, reading => reading
  | fuel + 1, reading => if reading.atGap then quotedGap fuel reading.takeGap else reading

def quotedWords (single : Bool) : (fuel : Nat) → Reading → Except Fault Reading
  | 0, _ => .error .unclosedText
  | fuel + 1, reading => do
      if reading.cursor.isDocumentMark then .error .documentMarkInText
      else if reading.cursor.rest.isEmpty then .error .unclosedText
      else
        let reading ← quotedWord single reading.cursor.rest.length reading
        if reading.cursor.isAt 0 (if single then '\x27' else '"') then
          return reading.take [] reading.cursor.next
        else
          quotedWords single fuel (quotedGap reading.cursor.rest.length reading)

/-- Reads a quoted scalar at the cursor, which stands on the opening quote. -/
def scanQuoted (single : Bool) (cursor : Cursor) : Except Fault (String × Cursor) := do
  let reading ← quotedWords single (cursor.rest.length + 1) { cursor := cursor.next }
  return (String.ofList reading.done, reading.cursor)

/-! Block scalars -/

inductive Chomping
  | strip
  | clip
  | keep
deriving DecidableEq, Repr

def chomping? (cursor : Cursor) : Option Chomping :=
  if cursor.isAt 0 '+' then some .keep
  else if cursor.isAt 0 '-' then some .strip
  else none

def increment? (cursor : Cursor) : Except Fault (Option Nat) :=
  match cursor.peek? 0 with
  | some c =>
      if c == '0' then .error .malformedBlockHeader
      else if c.isDigit then .ok (some (c.toNat - '0'.toNat))
      else .ok none
  | none => .ok none

def scanHeader (cursor : Cursor) : Except Fault (Chomping × Option Nat × Cursor) := do
  match chomping? cursor with
  | some chomping =>
      let cursor := cursor.next
      match ← increment? cursor with
      | some increment => return (chomping, some increment, cursor.next)
      | none => return (chomping, none, cursor)
  | none =>
      match ← increment? cursor with
      | some increment =>
          let cursor := cursor.next
          match chomping? cursor with
          | some chomping => return (chomping, some increment, cursor.next)
          | none => return (.clip, some increment, cursor)
      | none => return (.clip, none, cursor)

/-- Skips blanks and a comment, after which the line must end, and the line break. -/
def scanLineEnd (cursor : Cursor) : Except Fault Cursor := do
  let cursor := cursor.dropWhile isBlank
  let cursor := if cursor.isAt 0 '#' then cursor.dropWhile (fun c => !isBreak c) else cursor
  match cursor.rest with
  | [] => return cursor
  | c :: _ => if isBreak c then return cursor.takeBreak.2 else .error .malformedBlockHeader

/-- Reads empty lines in front of a line of a block. With no indentation known yet, the widest
line of them is given as well. -/
def scanEmptyLines (indent? : Option Nat) : (fuel : Nat) → (widest : Nat) → (breaks : List Char) →
    Cursor → Except Fault (Nat × List Char × Cursor)
  | 0, widest, breaks, cursor => .ok (widest, breaks, cursor)
  | fuel + 1, widest, breaks, cursor =>
      let inside (column : Nat) : Bool := indent?.all (column < ·)
      let spaces := cursor.rest.takeWhile (· == ' ')
      let count :=
        match indent? with
        | some indent => min spaces.length (indent - cursor.column)
        | none => spaces.length
      let cursor := cursor.skip count
      let widest := max widest cursor.column
      if inside cursor.column && cursor.isAt 0 '\t' then .error .tabInIndentation
      else if (cursor.peek? 0).any isBreak then
        let (lineBreak, cursor) := cursor.takeBreak
        scanEmptyLines indent? fuel widest (breaks ++ lineBreak) cursor
      else .ok (widest, breaks, cursor)

structure BlockReading where
  cursor : Cursor
  done : List Char := []
  last : List Char := []
  empty : List Char := []
  blankStart : Bool := false

def blockLines (literal : Bool) (indent : Nat) : (fuel : Nat) → BlockReading →
    Except Fault BlockReading
  | 0, reading => .ok reading
  | fuel + 1, reading => do
      match reading.cursor.rest with
      | [] => return reading
      | c :: _ =>
          if reading.cursor.column ≠ indent then return reading
          let blank := isBlank c
          let joined :=
            if !literal && reading.last == ['\n'] && !reading.blankStart && !blank then
              if reading.empty.isEmpty then [' '] else []
            else reading.last
          let (line, cursor) := reading.cursor.takeWhile (fun c => !isBreak c)
          let (last, cursor) := cursor.takeBreak
          let (_, empty, cursor) ← scanEmptyLines (some indent) (cursor.rest.length + 1) 0 [] cursor
          blockLines literal indent fuel
            { cursor := cursor
              done := reading.done ++ joined ++ reading.empty ++ line
              last := last
              empty := empty
              blankStart := blank }

/-- Reads a block at the cursor, which stands on its indicator, inside a collection at the given
indentation. -/
def scanBlock (literal : Bool) (outer : Int) (cursor : Cursor) : Except Fault (String × Cursor) := do
  let (chomping, increment, cursor) ← scanHeader cursor.next
  let cursor ← scanLineEnd cursor
  let fixed : Option Nat := increment.map (fun increment => outer.toNat + increment)
  let (widest, empty, cursor) ← scanEmptyLines fixed (cursor.rest.length + 1) 0 [] cursor
  let indent : Nat := fixed.getD (max (max widest (outer + 1).toNat) 1)
  let reading ← blockLines literal indent (cursor.rest.length + 1)
    { cursor := cursor, empty := empty }
  let tail :=
    match chomping with
    | .strip => []
    | .clip => reading.last
    | .keep => reading.last ++ reading.empty
  return (String.ofList (reading.done ++ tail), reading.cursor)

end ZeroError.Yaml
