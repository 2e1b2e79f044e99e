import ZeroError.Document.Tree

/-!
From text to tree. Scanning never fails: where the text cannot be followed, the tree holds the
broken place and nothing after it. Every step of the recursion takes at least one character, so a
budget of twice the length of the text is never used up.
-/

namespace ZeroError.Document

def isBlank (c : Char) : Bool :=
  c == ' ' || c == '\t' || c == '\n' || c == '\r'

def dropBlanks (cs : List Char) : List Char :=
  cs.dropWhile isBlank

/-! Numbers -/

structure Written where
  negative : Bool
  whole : List Char
  fraction : Option (List Char)
  exponent : Option (Bool × List Char)

/-- The digits kept in a 64-bit significand, and how many were left out once it was full. -/
def gather (significand : Nat) : List Char → Nat × Nat
  | [] => (significand, 0)
  | digit :: digits =>
      let next := significand * 10 + (digit.toNat - '0'.toNat)
      if next < UInt64.size then gather next digits else (significand, digits.length + 1)

def digitsValue (digits : List Char) : Nat :=
  digits.foldl (fun value digit => value * 10 + (digit.toNat - '0'.toNat)) 0

def powerOfTen (exponent : Nat) : Float :=
  Float.ofScientific 1 false exponent

def scaleDown : (fuel : Nat) → Float → (exponent : Nat) → Float
  | 0, value, _ => value
  | fuel + 1, value, exponent =>
      if exponent ≤ 308 then value / powerOfTen exponent
      else if value == 0.0 then value
      else scaleDown fuel (value / powerOfTen 308) (exponent - 308)

/-- The floating point number `significand * 10 ^ exponent`, computed by one rounding of the
significand and one of each scaling step. -/
def scaled (negative : Bool) (significand : Nat) (exponent : Int) : Numeral :=
  let value := Float.ofNat significand
  let magnitude? : Option Float :=
    if exponent < 0 then some (scaleDown 4 value (-exponent).toNat)
    else if 308 < exponent then if significand = 0 then some value else none
    else
      let product := value * powerOfTen exponent.toNat
      if product.isInf then none else some product
  match magnitude? with
  | none => .outOfRange
  | some magnitude => .real (if negative then -magnitude else magnitude).toBits

/-- The number that a written form stands for. Whole numbers of 64 bits are exact; minus zero and
all others are floating point numbers. -/
def Written.numeral (written : Written) : Numeral :=
  match written.fraction, written.exponent with
  | none, none =>
      let value := digitsValue written.whole
      if value < UInt64.size then
        if written.negative then
          if value = 0 || Nat.pow 2 63 < value then .real (-(Float.ofNat value)).toBits
          else .negative value
        else .natural value
      else
        let (significand, dropped) := gather 0 written.whole
        scaled written.negative significand dropped
  | fraction, exponent =>
      let (significand, dropped) := gather 0 written.whole
      let digits := fraction.getD []
      let (significand, unused) := gather significand digits
      let places := digits.length - unused
      let shift : Int :=
        match exponent with
        | none => 0
        | some (true, digits) => -(digitsValue digits : Int)
        | some (false, digits) => digitsValue digits
      scaled written.negative significand ((dropped : Int) - places + shift)

/-- What a row of characters holds at its front, and what follows it. -/
inductive Scanned (α : Type)
  | found (value : α) (rest : List Char)
  | stopped (cause : Break)

def scanDigits (cs : List Char) : Scanned (List Char) :=
  match cs.span Char.isDigit with
  | ([], []) => .stopped .endInNumber
  | ([], _ :: _) => .stopped .malformedNumber
  | (digits, rest) => .found digits rest

/-- Reads the digits before the point. A zero stands alone. -/
def scanWhole : List Char → Scanned (List Char)
  | '0' :: rest =>
      match rest with
      | digit :: _ => if digit.isDigit then .stopped .malformedNumber else .found ['0'] rest
      | [] => .found ['0'] rest
  | cs => scanDigits cs

def scanFraction : List Char → Scanned (Option (List Char))
  | '.' :: rest =>
      match scanDigits rest with
      | .found digits rest => .found (some digits) rest
      | .stopped cause => .stopped cause
  | cs => .found none cs

def scanExponentDigits (negative : Bool) (cs : List Char) :
    Scanned (Option (Bool × List Char)) :=
  match scanDigits cs with
  | .found digits rest => .found (some (negative, digits)) rest
  | .stopped cause => .stopped cause

def scanExponent : List Char → Scanned (Option (Bool × List Char))
  | mark :: rest =>
      if mark == 'e' || mark == 'E' then
        match rest with
        | '-' :: rest => scanExponentDigits true rest
        | '+' :: rest => scanExponentDigits false rest
        | rest => scanExponentDigits false rest
      else .found none (mark :: rest)
  | [] => .found none []

def scanNumber (negative : Bool) (cs : List Char) : Scanned Numeral :=
  match scanWhole cs with
  | .stopped cause => .stopped cause
  | .found whole rest =>
      match scanFraction rest with
      | .stopped cause => .stopped cause
      | .found fraction rest =>
          match scanExponent rest with
          | .stopped cause => .stopped cause
          | .found exponent rest =>
              .found (Written.numeral ⟨negative, whole, fraction, exponent⟩) rest

/-! Strings -/

def hexValue? (c : Char) : Option Nat :=
  if '0' ≤ c ∧ c ≤ '9' then some (c.toNat - '0'.toNat)
  else if 'a' ≤ c ∧ c ≤ 'f' then some (c.toNat - 'a'.toNat + 10)
  else if 'A' ≤ c ∧ c ≤ 'F' then some (c.toNat - 'A'.toNat + 10)
  else none

def hexQuad? (a b c d : Char) : Option Nat := do
  let a ← hexValue? a
  let b ← hexValue? b
  let c ← hexValue? c
  let d ← hexValue? d
  return ((a * 16 + b) * 16 + c) * 16 + d

def isLeading (unit : Nat) : Bool :=
  0xD800 ≤ unit && unit ≤ 0xDBFF

def isTrailing (unit : Nat) : Bool :=
  0xDC00 ≤ unit && unit ≤ 0xDFFF

def pairChar (leading trailing : Nat) : Char :=
  Char.ofNat (0x10000 + (leading - 0xD800) * 0x400 + (trailing - 0xDC00))

def shortEscape? (c : Char) : Option Char :=
  if c = '"' ∨ c = '\\' ∨ c = '/' then some c
  else if c = 'b' then some '\x08'
  else if c = 'f' then some '\x0c'
  else if c = 'n' then some '\n'
  else if c = 'r' then some '\r'
  else if c = 't' then some '\t'
  else none

def byteCount (cs : List Char) : Nat :=
  cs.foldl (fun count c => count + c.utf8Size) 0

inductive ScannedText
  | found (literal : Literal) (rest : List Char)
  | stopped (unpaired : Option Unpaired) (cause : TextBreak)

/-- Notes that a leading surrogate, if one is waiting, did not find its partner. -/
def note (cause : Unpaired) (waiting : Option Nat) (unpaired : Option Unpaired) : Option Unpaired :=
  if waiting.isSome then unpaired <|> some cause else unpaired

/-- Reads a string after its opening quote. The characters read so far are held in reverse; a
leading surrogate waits for the escape that follows it, and the first one without partner is
noted. Where the input ends while a surrogate waits, the end itself is the fault. -/
def scanText (done : List Char) (waiting : Option Nat) (unpaired : Option Unpaired) :
    List Char → ScannedText
  | [] => .stopped unpaired .endOfInput
  | '"' :: rest => .found ⟨String.ofList done.reverse, note .cut waiting unpaired⟩ rest
  | '\\' :: 'u' :: a :: b :: c :: d :: rest =>
      match hexQuad? a b c d with
      | none => .stopped unpaired .escape
      | some unit =>
          if isTrailing unit then
            match waiting with
            | some leading => scanText (pairChar leading unit :: done) none unpaired rest
            | none => scanText done none (unpaired <|> some .lone) rest
          else if isLeading unit then
            scanText done (some unit) (note .lone waiting unpaired) rest
          else scanText (Char.ofNat unit :: done) none (note .lone waiting unpaired) rest
  | '\\' :: 'u' :: few =>
      .stopped unpaired (if byteCount few < 4 then .endOfInput else .escape)
  | '\\' :: c :: rest =>
      match shortEscape? c with
      | some escaped => scanText (escaped :: done) none (note .cut waiting unpaired) rest
      | none => .stopped (note .cut waiting unpaired) .escape
  | ['\\'] => .stopped unpaired .endOfInput
  | c :: rest =>
      if c.toNat < 0x20 then .stopped (note .cut waiting unpaired) .control
      else scanText (c :: done) none (note .cut waiting unpaired) rest

/-! Values -/

def scanWord (value : Tree) : (letters : List Char) → List Char → Tree × Option (List Char)
  | [], rest => (value, some rest)
  | _ :: _, [] => (.broken .endInWord, none)
  | letter :: letters, c :: rest =>
      if letter = c then scanWord value letters rest else (.broken .misspelt, none)

def numberTree : Scanned Numeral → Tree × Option (List Char)
  | .found numeral rest => (.number numeral, some rest)
  | .stopped cause => (.broken cause, none)

mutual

/-- Reads a value and gives the text after it, unless the value is broken. -/
def scanValue : (fuel : Nat) → List Char → Tree × Option (List Char)
  | 0, _ => (.broken .endOfInput, none)
  | fuel + 1, cs =>
      match dropBlanks cs with
      | [] => (.broken .endOfInput, none)
      | 'n' :: rest => scanWord .null ['u', 'l', 'l'] rest
      | 't' :: rest => scanWord (.bool true) ['r', 'u', 'e'] rest
      | 'f' :: rest => scanWord (.bool false) ['a', 'l', 's', 'e'] rest
      | '"' :: rest =>
          match scanText [] none none rest with
          | .found literal rest => (.text literal, some rest)
          | .stopped unpaired cause => (.broken (.text unpaired cause), none)
      | '[' :: rest =>
          match dropBlanks rest with
          | [] => (.list [] .endOfInput, none)
          | ']' :: rest => (.list [] .closed, some rest)
          | rest =>
              let (items, ending, rest) := scanItems fuel rest
              (.list items ending, rest)
      | '\x7b' :: rest =>
          match dropBlanks rest with
          | [] => (.object [] .endOfInput, none)
          | '\x7d' :: rest => (.object [] .closed, some rest)
          | rest =>
              let (entries, ending, rest) := scanEntries fuel rest
              (.object entries ending, rest)
      | '-' :: rest => numberTree (scanNumber true rest)
      | c :: rest =>
          if c.isDigit then numberTree (scanNumber false (c :: rest))
          else (.broken .noValue, none)

def scanItems : (fuel : Nat) → List Char → List Tree × ListEnd × Option (List Char)
  | 0, _ => ([], .endOfInput, none)
  | fuel + 1, cs =>
      match scanValue fuel cs with
      | (item, none) => ([item], .inside, none)
      | (item, some rest) =>
          match dropBlanks rest with
          | [] => ([item], .endOfInput, none)
          | ']' :: rest => ([item], .closed, some rest)
          | ',' :: rest =>
              match dropBlanks rest with
              | [] => ([item], .endAfterComma, none)
              | ']' :: _ => ([item], .commaBeforeClose, none)
              | rest =>
                  let (items, ending, rest) := scanItems fuel rest
                  (item :: items, ending, rest)
          | _ => ([item], .noSeparator, none)

def scanEntries : (fuel : Nat) → List Char →
    List (Literal × Tree) × ObjectEnd × Option (List Char)
  | 0, _ => ([], .endOfInput, none)
  | fuel + 1, '"' :: cs =>
      match scanText [] none none cs with
      | .stopped unpaired cause => ([], .brokenKey unpaired cause, none)
      | .found key rest =>
          match dropBlanks rest with
          | [] => ([(key, .broken .endAfterKey)], .inside, none)
          | ':' :: rest =>
              match scanValue fuel rest with
              | (value, none) => ([(key, value)], .inside, none)
              | (value, some rest) =>
                  match dropBlanks rest with
                  | [] => ([(key, value)], .endOfInput, none)
                  | '\x7d' :: rest => ([(key, value)], .closed, some rest)
                  | ',' :: rest =>
                      match dropBlanks rest with
                      | [] => ([(key, value)], .endAfterComma, none)
                      | '\x7d' :: _ => ([(key, value)], .commaBeforeClose, none)
                      | rest =>
                          let (entries, ending, rest) := scanEntries fuel rest
                          ((key, value) :: entries, ending, rest)
                  | _ => ([(key, value)], .noSeparator, none)
          | _ => ([(key, .broken .noColon)], .inside, none)
  | fuel + 1, cs => ([], .noKey (scanValue fuel cs).1.face, none)

end

/-- A whole document: its value, and whether anything but blanks follows it. -/
structure Source where
  tree : Tree
  trailing : Bool

def Source.ofText (text : String) : Source :=
  let cs := text.toList
  match scanValue (2 * cs.length + 2) cs with
  | (tree, none) => ⟨tree, false⟩
  | (tree, some rest) => ⟨tree, !(dropBlanks rest).isEmpty⟩

def Source.ofTree (tree : Tree) : Source :=
  ⟨tree, false⟩

end ZeroError.Document
