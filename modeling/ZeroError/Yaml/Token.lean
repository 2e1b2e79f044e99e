import ZeroError.Yaml.Scalar

/-!
The parts of a configuration text: scalars, indicators, and the starts and ends of collections that
only the indentation tells. A key before a colon is recognised when the colon is met, so the token
that announces it is put in front of tokens already read.
-/

namespace ZeroError.Yaml

inductive Token
  | version (major minor : Nat)
  | tagHandle (handle stem : String)
  | documentStart
  | documentEnd
  | blockSequenceStart
  | blockMappingStart
  | blockEnd
  | flowSequenceStart
  | flowSequenceEnd
  | flowMappingStart
  | flowMappingEnd
  | blockEntry
  | flowEntry
  | key
  | value
  | reference (name : String)
  | anchor (name : String)
  | tag (handle suffix : String)
  | scalar (text : String) (style : Style)
deriving DecidableEq, Repr

/-- A place that turns out to be a key if a colon follows on the same line. -/
structure PossibleKey where
  required : Bool
  position : Nat
  index : Nat
  line : Nat
  column : Nat

/-- The scanner between two tokens. There is one place for a possible key outside of all brackets
and braces and one for each that is open, the innermost first. -/
structure Scanner where
  cursor : Cursor
  tokens : List Token := []
  indent : Int := -1
  indents : List Int := []
  keyAllowed : Bool := true
  keys : List (Option PossibleKey) := [none]

namespace Scanner

def inFlow (scanner : Scanner) : Bool :=
  1 < scanner.keys.length

def push (scanner : Scanner) (token : Token) : Scanner :=
  { scanner with tokens := scanner.tokens ++ [token] }

def insertAt (scanner : Scanner) (position : Nat) (token : Token) : Scanner :=
  { scanner with
    tokens := scanner.tokens.take position ++ token :: scanner.tokens.drop position }

def dropKey (scanner : Scanner) : Except Fault Scanner :=
  match scanner.keys with
  | some key :: outer =>
      if key.required then .error .noColonAfterKey
      else .ok { scanner with keys := none :: outer }
  | _ => .ok scanner

/-- Notes that a key may start here. It must be one if the line starts a new entry of a block
mapping. -/
def saveKey (scanner : Scanner) : Except Fault Scanner := do
  if scanner.keyAllowed then
    let required := !scanner.inFlow && scanner.indent == (scanner.cursor.column : Int)
    let scanner ← scanner.dropKey
    return { scanner with
      keys := some {
        required := required
        position := scanner.tokens.length
        index := scanner.cursor.index
        line := scanner.cursor.line
        column := scanner.cursor.column } :: scanner.keys.tail }
  else return scanner

def isStale (cursor : Cursor) (key : PossibleKey) : Bool :=
  key.line < cursor.line || key.index + 1024 < cursor.index

def dropStaleKeys (scanner : Scanner) : Except Fault Scanner := do
  let keys ← scanner.keys.mapM (fun key? =>
    match key? with
    | some key =>
        if isStale scanner.cursor key then
          if key.required then .error .noColonAfterKey else .ok none
        else .ok (some key)
    | none => .ok none)
  return { scanner with keys := keys }

/-- Opens a block collection if the column is further in than the current one. -/
def rollIndent (scanner : Scanner) (column : Nat) (position : Nat) (token : Token) : Scanner :=
  if !scanner.inFlow && scanner.indent < (column : Int) then
    { scanner.insertAt position token with
      indents := scanner.indent :: scanner.indents
      indent := column }
  else scanner

/-- Closes the block collections that are further in than the column. -/
def unrollIndents (column : Int) : (outer : List Int) → Scanner → Scanner
  | [], scanner => scanner
  | outer :: rest, scanner =>
      if column < scanner.indent then
        unrollIndents column rest
          { scanner.push .blockEnd with indent := outer, indents := rest }
      else scanner

/-- Closes the block collections that are further in than the column, outside of brackets and
braces. -/
def unrollIndent (scanner : Scanner) (column : Int) : Scanner :=
  if scanner.inFlow then scanner else unrollIndents column scanner.indents scanner

/-- Skips blanks, comments and line breaks. A tab is a blank only where no key can start, and a byte
order mark is skipped at the start of a line. -/
def skipGap : (fuel : Nat) → Scanner → Scanner
  | 0, scanner => scanner
  | fuel + 1, scanner =>
      let cursor :=
        if scanner.cursor.column = 0 && scanner.cursor.isAt 0 '\ufeff' then scanner.cursor.next
        else scanner.cursor
      let tabs := scanner.inFlow || !scanner.keyAllowed
      let cursor := cursor.dropWhile (fun c => c == ' ' || (tabs && c == '\t'))
      let cursor := if cursor.isAt 0 '#' then cursor.dropWhile (fun c => !isBreak c) else cursor
      if (cursor.peek? 0).any isBreak then
        skipGap fuel { scanner with
          cursor := cursor.takeBreak.2
          keyAllowed := scanner.keyAllowed || !scanner.inFlow }
      else { scanner with cursor := cursor }

/-! Directives, anchors and tags -/

def scanNumber (cursor : Cursor) : Except Fault (Nat × Cursor) :=
  let (digits, cursor) := cursor.takeWhile Char.isDigit
  if digits.isEmpty || 9 < digits.length then .error .malformedDirective
  else
    .ok (digits.foldl (fun value digit => value * 10 + (digit.toNat - '0'.toNat)) 0, cursor)

def isUriChar (verbatim : Bool) (c : Char) : Bool :=
  isWordChar c || ";/?:@&=+$.!~*'()%".toList.contains c || (verbatim && ",[]".toList.contains c)

/-- The bytes of a tag. A percent sign and two hexadecimal digits stand for one. -/
def uriBytes? : List Char → Option (List UInt8)
  | [] => some []
  | '%' :: a :: b :: rest => do
      let value ← hexNumber? [a, b]
      return UInt8.ofNat value :: (← uriBytes? rest)
  | c :: rest => if c = '%' then none else (uriBytes? rest).map (c.toUInt8 :: ·)

def scanUri (verbatim : Bool) (cursor : Cursor) : Except Fault (List Char × Cursor) :=
  let (written, cursor) := cursor.takeWhile (isUriChar verbatim)
  match (uriBytes? written).bind (fun bytes => String.fromUTF8? (ByteArray.mk bytes.toArray)) with
  | some text => .ok (text.toList, cursor)
  | none => .error .malformedTag

/-- Reads the start of a tag: an exclamation mark, and maybe a word and a second one. The word is
given, and whether the second one stands after it. -/
def scanHandle (cursor : Cursor) : Except Fault (List Char × Bool × Cursor) :=
  if cursor.isAt 0 '!' then
    let (word, cursor) := cursor.next.takeWhile isWordChar
    if cursor.isAt 0 '!' then .ok (word, true, cursor.next) else .ok (word, false, cursor)
  else .error .malformedTag

def handleOf (word : List Char) : String :=
  String.ofList ('!' :: word ++ ['!'])

/-- Reads a directive at the cursor, which stands on the percent sign. -/
def scanDirective (cursor : Cursor) : Except Fault (Token × Cursor) := do
  let (name, cursor) := cursor.next.takeWhile isWordChar
  if name.isEmpty || !cursor.isGapAt 0 then .error .malformedDirective
  else
    let cursor := cursor.dropWhile isBlank
    if String.ofList name == "YAML" then
      let (major, cursor) ← scanNumber cursor
      if !cursor.isAt 0 '.' then .error .malformedDirective
      else
        let (minor, cursor) ← scanNumber cursor.next
        return (.version major minor, ← scanLineEnd cursor)
    else if String.ofList name == "TAG" then
      let (word, closed, cursor) ← scanHandle cursor
      let handle := if closed then handleOf word else "!"
      if !closed && !word.isEmpty then .error .malformedDirective
      else if !(cursor.peek? 0).any isBlank then .error .malformedDirective
      else
        let (stem, cursor) ← scanUri true (cursor.dropWhile isBlank)
        if stem.isEmpty || !cursor.isGapAt 0 then .error .malformedDirective
        else return (.tagHandle handle (String.ofList stem), ← scanLineEnd cursor)
    else .error .malformedDirective

def scanName (cursor : Cursor) : Except Fault (String × Cursor) :=
  let (name, cursor) := cursor.next.takeWhile isWordChar
  let ends := cursor.isGapAt 0 ||
    (cursor.peek? 0).any (fun c => "?:,]\x7d%@`".toList.contains c)
  if name.isEmpty || !ends then .error .malformedAnchor else .ok (String.ofList name, cursor)

def scanTag (inFlow : Bool) (cursor : Cursor) : Except Fault (Token × Cursor) := do
  let (token, cursor) ←
    if cursor.isAt 1 '<' then do
      let (uri, cursor) ← scanUri true (cursor.skip 2)
      if uri.isEmpty || !cursor.isAt 0 '>' then .error .malformedTag
      else pure (Token.tag "" (String.ofList uri), cursor.next)
    else do
      let (word, closed, cursor) ← scanHandle cursor
      let (more, cursor) ← scanUri false cursor
      if closed then
        if more.isEmpty then .error .malformedTag
        else pure (Token.tag (handleOf word) (String.ofList more), cursor)
      else if (word ++ more).isEmpty then pure (Token.tag "" "!", cursor)
      else pure (Token.tag "!" (String.ofList (word ++ more)), cursor)
  if cursor.isGapAt 0 || (inFlow && cursor.isAt 0 ',') then return (token, cursor)
  else .error .malformedTag

/-! Tokens -/

/-- Closes all block collections and gives up the possible key, as a mark of a document does. -/
def closeAll (scanner : Scanner) : Except Fault Scanner := do
  let scanner ← (scanner.unrollIndent (-1)).dropKey
  return { scanner with keyAllowed := false }

def takeMark (scanner : Scanner) (token : Token) (length : Nat) (keyAllowed : Bool) : Scanner :=
  { scanner.push token with cursor := scanner.cursor.skip length, keyAllowed := keyAllowed }

def openFlow (scanner : Scanner) (token : Token) : Except Fault Scanner := do
  let scanner ← scanner.saveKey
  return { scanner.takeMark token 1 true with keys := none :: scanner.keys }

def closeFlow (scanner : Scanner) (token : Token) : Except Fault Scanner := do
  let scanner ← scanner.dropKey
  let keys := if scanner.inFlow then scanner.keys.tail else scanner.keys
  return { scanner.takeMark token 1 false with keys := keys }

def takeEntry (scanner : Scanner) : Except Fault Scanner := do
  if !scanner.inFlow && !scanner.keyAllowed then .error .entryNotAllowed
  else
    let scanner :=
      scanner.rollIndent scanner.cursor.column scanner.tokens.length .blockSequenceStart
    let scanner ← scanner.dropKey
    return scanner.takeMark .blockEntry 1 true

def takeKey (scanner : Scanner) : Except Fault Scanner := do
  if !scanner.inFlow && !scanner.keyAllowed then .error .keyNotAllowed
  else
    let scanner :=
      scanner.rollIndent scanner.cursor.column scanner.tokens.length .blockMappingStart
    let scanner ← scanner.dropKey
    return scanner.takeMark .key 1 (!scanner.inFlow)

/-- Takes the indicator of a value. A possible key before it is one now. -/
def takeValue (scanner : Scanner) : Except Fault Scanner := do
  match scanner.keys with
  | some key :: outer =>
      let scanner := scanner.insertAt key.position .key
      let scanner := scanner.rollIndent key.column key.position .blockMappingStart
      return { scanner with keys := none :: outer }.takeMark .value 1 false
  | _ =>
      if !scanner.inFlow && !scanner.keyAllowed then .error .valueNotAllowed
      else
        let scanner :=
          scanner.rollIndent scanner.cursor.column scanner.tokens.length .blockMappingStart
        return scanner.takeMark .value 1 (!scanner.inFlow)

def takeContent (scanner : Scanner) (read : Cursor → Except Fault (Token × Cursor)) :
    Except Fault Scanner := do
  let scanner ← scanner.saveKey
  let (token, cursor) ← read scanner.cursor
  return { scanner.push token with cursor := cursor, keyAllowed := false }

def takeBlock (scanner : Scanner) (literal : Bool) : Except Fault Scanner := do
  let scanner ← scanner.dropKey
  let (text, cursor) ← scanBlock literal scanner.indent scanner.cursor
  let style := if literal then Style.literal else Style.folded
  return { scanner.push (.scalar text style) with cursor := cursor, keyAllowed := true }

/-- Takes a plain scalar. If it ends with its line, a key can start after it. -/
def takePlain (scanner : Scanner) : Except Fault Scanner := do
  let scanner ← scanner.saveKey
  let (text, broken, cursor) ← scanPlain scanner.inFlow (scanner.indent + 1) scanner.cursor
  return { scanner.push (.scalar text .plain) with cursor := cursor, keyAllowed := broken }

def isIndicator (c : Char) : Bool :=
  "-?:,[]\x7b\x7d#&*!|>'\"%@`".toList.contains c

def startsPlain (scanner : Scanner) (c : Char) : Bool :=
  !(isIndicator c || isBlank c || isBreak c) ||
    (c == '-' && !(scanner.cursor.peek? 1).any isBlank) ||
    (!scanner.inFlow && (c == '?' || c == ':') && !scanner.cursor.isGapAt 1)

def takeToken (scanner : Scanner) (c : Char) : Except Fault Scanner :=
  let cursor := scanner.cursor
  let flow := scanner.inFlow
  if cursor.column = 0 && c == '%' then do
    let scanner ← scanner.closeAll
    let (token, cursor) ← scanDirective scanner.cursor
    return { scanner.push token with cursor := cursor }
  else if cursor.isMark '-' then do
    let scanner ← scanner.closeAll
    return scanner.takeMark .documentStart 3 false
  else if cursor.isMark '.' then do
    let scanner ← scanner.closeAll
    return scanner.takeMark .documentEnd 3 false
  else if c == '[' then scanner.openFlow .flowSequenceStart
  else if c == '\x7b' then scanner.openFlow .flowMappingStart
  else if c == ']' then scanner.closeFlow .flowSequenceEnd
  else if c == '\x7d' then scanner.closeFlow .flowMappingEnd
  else if c == ',' then do
    let scanner ← scanner.dropKey
    return scanner.takeMark .flowEntry 1 true
  else if c == '-' && cursor.isGapAt 1 then scanner.takeEntry
  else if c == '?' && (flow || cursor.isGapAt 1) then scanner.takeKey
  else if c == ':' && (flow || cursor.isGapAt 1) then scanner.takeValue
  else if c == '*' then
    scanner.takeContent (fun cursor => do
      let (name, cursor) ← scanName cursor
      return (.reference name, cursor))
  else if c == '&' then
    scanner.takeContent (fun cursor => do
      let (name, cursor) ← scanName cursor
      return (.anchor name, cursor))
  else if c == '!' then scanner.takeContent (scanTag flow)
  else if c == '|' && !flow then scanner.takeBlock true
  else if c == '>' && !flow then scanner.takeBlock false
  else if c == '\x27' then
    scanner.takeContent (fun cursor => do
      let (text, cursor) ← scanQuoted true cursor
      return (.scalar text .singleQuoted, cursor))
  else if c == '"' then
    scanner.takeContent (fun cursor => do
      let (text, cursor) ← scanQuoted false cursor
      return (.scalar text .doubleQuoted, cursor))
  else if scanner.startsPlain c then scanner.takePlain
  else .error .noToken

def takeAll : (fuel : Nat) → Scanner → Except Fault (List Token)
  | 0, scanner => .ok scanner.tokens
  | fuel + 1, scanner => do
      let scanner ← (scanner.skipGap (scanner.cursor.rest.length + 1)).dropStaleKeys
      let scanner := scanner.unrollIndent scanner.cursor.column
      match scanner.cursor.rest with
      | [] =>
          let scanner ← scanner.closeAll
          return scanner.tokens
      | c :: _ =>
          let scanner ← scanner.takeToken c
          takeAll fuel scanner

end Scanner

/-- The tokens of a configuration text. Each takes at least one character. -/
def tokens (text : String) : Except Fault (List Token) :=
  let cs := text.toList
  if cs.all isAllowed then Scanner.takeAll (cs.length + 1) { cursor := { rest := cs } }
  else .error .forbiddenCharacter

end ZeroError.Yaml
