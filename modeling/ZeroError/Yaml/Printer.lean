import ZeroError.Yaml.Cursor
import ZeroError.Yaml.Number
import ZeroError.Yaml.Scalar

/-!
Writing a text as an item of a block sequence. A text with a line feed becomes a literal block if it
can; any other text is written plain where that reads back as the same text, between single quotes
where it does not, and between double quotes where some character needs an escape.
-/

namespace ZeroError.Yaml

def isPrintable (c : Char) : Bool :=
  c == '\n' || (' ' ≤ c && c ≤ '~') ||
    (0xA0 ≤ c.toNat && c.toNat ≤ 0xFFFD && c.toNat ≠ 0xFEFF)

structure Traits where
  indicator : Bool
  special : Bool
  lineBreak : Bool
  leadingGap : Bool
  trailingGap : Bool
  trailingSpace : Bool
  breakBeforeSpace : Bool
  spaceBeforeBreak : Bool
deriving DecidableEq, Repr

/-- A blank, a line break or a null character; the end of a text counts as one. -/
def isGap (c : Char) : Bool :=
  isBlank c || isBreak c || c == '\x00'

/-- Whether the first character of a text would be taken for an indicator. -/
def startsAsIndicator : List Char → Bool
  | [] => false
  | c :: rest =>
      "#,[]\x7b\x7d&*!|>'\"%@`".toList.contains c ||
        ((c == '?' || c == ':' || c == '-') && rest.head?.all isGap)

/-- Whether a later character of a text would be taken for an indicator: a colon before a gap, or a
number sign after one. -/
def continuesAsIndicator : List Char → Bool
  | before :: c :: rest =>
      (c == ':' && rest.head?.all isGap) || (c == '#' && isGap before) ||
        continuesAsIndicator (c :: rest)
  | _ => false

def startsAsMark : List Char → Bool
  | '-' :: '-' :: '-' :: _ => true
  | '.' :: '.' :: '.' :: _ => true
  | _ => false

def hasNeighbours (first second : Char → Bool) : List Char → Bool
  | a :: b :: rest => (first a && second b) || hasNeighbours first second (b :: rest)
  | _ => false

def Traits.of (text : List Char) : Traits where
  indicator := startsAsMark text || startsAsIndicator text || continuesAsIndicator text
  special := text.any (fun c => !isPrintable c)
  lineBreak := text.any isBreak
  leadingGap := text.head?.any (fun c => c == ' ' || isBreak c)
  trailingGap := text.getLast?.any (fun c => c == ' ' || isBreak c)
  trailingSpace := text.getLast? == some ' '
  breakBeforeSpace := hasNeighbours isBreak (· == ' ') text
  spaceBeforeBreak := hasNeighbours (· == ' ') isBreak text

namespace Traits

def allowsPlain (traits : Traits) : Bool :=
  !(traits.indicator || traits.special || traits.lineBreak || traits.leadingGap ||
    traits.trailingGap || traits.breakBeforeSpace || traits.spaceBeforeBreak)

def allowsSingle (traits : Traits) : Bool :=
  !(traits.special || traits.breakBeforeSpace || traits.spaceBeforeBreak)

def allowsBlock (traits : Traits) : Bool :=
  !(traits.special || traits.trailingSpace || traits.spaceBeforeBreak)

end Traits

def styleOf (text : String) : Style :=
  let traits := Traits.of text.toList
  let quoted := if traits.allowsSingle then Style.singleQuoted else .doubleQuoted
  if text.toList.contains '\n' then
    if traits.allowsBlock then .literal else .doubleQuoted
  else if standsForValue text then quoted
  else if traits.allowsPlain then .plain
  else quoted

def margin : List Char := [' ', ' ']

/-- The characters of a text between single quotes. A quote is doubled, and a line that follows a
line break is indented. -/
def singleQuotedChars : (afterBreak : Bool) → List Char → List Char
  | afterBreak, [] => if afterBreak then margin else []
  | afterBreak, c :: rest =>
      if isBreak c then c :: singleQuotedChars true rest
      else
        (if afterBreak then margin else []) ++ (if c == '\x27' then ['\x27', '\x27'] else [c]) ++
          singleQuotedChars false rest

def escapeLetter? (c : Char) : Option Char :=
  match c.toNat with
  | 0x00 => some '0'
  | 0x07 => some 'a'
  | 0x08 => some 'b'
  | 0x09 => some 't'
  | 0x0A => some 'n'
  | 0x0B => some 'v'
  | 0x0C => some 'f'
  | 0x0D => some 'r'
  | 0x1B => some 'e'
  | 0x22 => some '"'
  | 0x5C => some '\\'
  | 0x85 => some 'N'
  | 0xA0 => some '_'
  | 0x2028 => some 'L'
  | 0x2029 => some 'P'
  | _ => none

def paddedHex (width n : Nat) : List Char :=
  let digits := (Nat.toDigits 16 n).map Char.toUpper
  List.replicate (width - digits.length) '0' ++ digits

def escaped (c : Char) : List Char :=
  match escapeLetter? c with
  | some letter => ['\\', letter]
  | none =>
      if c.toNat ≤ 0xFF then ['\\', 'x'] ++ paddedHex 2 c.toNat
      else if c.toNat ≤ 0xFFFF then ['\\', 'u'] ++ paddedHex 4 c.toNat
      else ['\\', 'U'] ++ paddedHex 8 c.toNat

def doubleQuotedChar (c : Char) : List Char :=
  if !isPrintable c || isBreak c || c == '"' || c == '\\' then escaped c else [c]

def blockChars : (afterBreak : Bool) → List Char → List Char
  | _, [] => []
  | afterBreak, c :: rest =>
      if isBreak c then c :: blockChars true rest
      else (if afterBreak then margin else []) ++ c :: blockChars false rest

/-- The indicators of a block: its indentation if the first line does not show it, and what becomes
of the line breaks at its end. -/
def blockHeader (text : List Char) : List Char :=
  let indentation := if text.head?.any (fun c => c == ' ' || isBreak c) then ['2'] else []
  let chomping :=
    match text.reverse with
    | last :: before =>
        if !isBreak last then ['-']
        else if before.head?.all isBreak then ['+']
        else []
    | [] => ['-']
  '|' :: indentation ++ chomping ++ ['\n']

/-- A text as an item of a block sequence, without the line break after it. A block that ends with
a line break needs no further one. -/
def itemChars (text : String) : List Char :=
  let cs := text.toList
  match styleOf text with
  | .plain => cs
  | .singleQuoted => '\x27' :: singleQuotedChars false cs ++ ['\x27']
  | .literal | .folded => blockHeader cs ++ blockChars true cs
  | .doubleQuoted => '"' :: cs.flatMap doubleQuotedChar ++ ['"']

def itemLine (text : String) : String :=
  let item := itemChars text
  let closed := styleOf text == .literal && text.toList.getLast?.any isBreak
  String.ofList (['-', ' '] ++ item ++ (if closed then [] else ['\n']))

end ZeroError.Yaml
