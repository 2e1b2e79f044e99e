/-!
Patterns for paths. A question mark stands for any character, a star for any run of characters, two
stars that make up a whole component for any number of whole components, and brackets for one
character out of a class. A pattern matches a text as a whole.
-/

namespace ZeroError.Glob

inductive Cause
  | tooManyStars
  | partialComponent
  | badClass
deriving DecidableEq, Repr

structure Fault where
  position : Nat
  cause : Cause
deriving DecidableEq, Repr

def Cause.message : Cause → String
  | .tooManyStars => "wildcards are either regular `*` or recursive `**`"
  | .partialComponent => "recursive wildcards must form a single path component"
  | .badClass => "invalid range pattern"

def Fault.message (fault : Fault) : String :=
  "Pattern syntax error near position " ++ toString fault.position ++ ": " ++ fault.cause.message

/-- A part of a class of characters: a range, which holds nothing if its ends are in the wrong
order. A single character is the range from itself to itself. -/
structure Range where
  low : Char
  high : Char
deriving DecidableEq, Repr

def Range.contains (range : Range) (c : Char) : Bool :=
  range.low ≤ c && c ≤ range.high

inductive Token
  | char (c : Char)
  | anyChar
  | anyRun
  | anyComponents
  | oneOf (ranges : List Range)
  | noneOf (ranges : List Range)
deriving DecidableEq, Repr

def Token.char? : Token → Option Char
  | .char c => some c
  | _ => none

structure Pattern where
  tokens : List Token
deriving DecidableEq, Repr

/-- The ranges between two brackets. A hyphen between two characters makes a range of them. -/
def ranges : List Char → List Range
  | low :: '-' :: high :: rest => ⟨low, high⟩ :: ranges rest
  | c :: rest => ⟨c, c⟩ :: ranges rest
  | [] => []

/-- The characters between brackets, of which there is at least one, and what follows the closing
bracket. The first character is never the closing bracket. -/
def splitClass? : List Char → Option (List Char × List Char)
  | [] => none
  | first :: rest =>
      match rest.dropWhile (· ≠ ']') with
      | _ :: after => some (first :: rest.takeWhile (· ≠ ']'), after)
      | [] => none

def takeClass? : List Char → Option (Token × List Char)
  | '!' :: rest => (splitClass? rest).map (fun (inside, after) => (.noneOf (ranges inside), after))
  | rest => (splitClass? rest).map (fun (inside, after) => (.oneOf (ranges inside), after))

/-- The piece that starts with a star, given the position of the star, the character before it and
what follows it. -/
def takeStars (position : Nat) (before? : Option Char) (rest : List Char) :
    Except Fault (Token × List Char) :=
  match rest with
  | '*' :: '*' :: _ => .error ⟨position + 2, .tooManyStars⟩
  | '*' :: after =>
      if before?.any (· ≠ '/') then .error ⟨position - 1, .partialComponent⟩
      else
        match after with
        | [] => .ok (.anyComponents, [])
        | '/' :: after => .ok (.anyComponents, after)
        | _ => .error ⟨position + 2, .partialComponent⟩
  | after => .ok (.anyRun, after)

/-- The first piece of a pattern that is not empty, and what follows it. -/
def takeToken (position : Nat) (before? : Option Char) (c : Char) (rest : List Char) :
    Except Fault (Token × List Char) :=
  if c = '?' then .ok (.anyChar, rest)
  else if c = '*' then takeStars position before? rest
  else if c = '[' then
    match takeClass? rest with
    | some taken => .ok taken
    | none => .error ⟨position, .badClass⟩
  else .ok (.char c, rest)

/-- The pieces of a pattern from a position on. The fuel is the number of characters that are
left. -/
def tokensFrom : (fuel : Nat) → (position : Nat) → (before? : Option Char) → List Char →
    Except Fault (List Token)
  | _, _, _, [] => .ok []
  | 0, _, _, _ => .ok []
  | fuel + 1, position, before?, c :: rest => do
      let (token, after) ← takeToken position before? c rest
      let taken := (c :: rest).take (rest.length + 1 - after.length)
      let tokens ← tokensFrom fuel (position + taken.length) taken.getLast? after
      return token :: tokens

def Pattern.ofText (text : String) : Except Fault Pattern :=
  (tokensFrom text.length 0 none text.toList).map Pattern.mk

/-! Matching goes through the pieces from the last to the first. For the pieces so far it keeps, for
every end of the text from the whole to the empty one, whether they match it. -/

/-- The ends of a text that start with a character of the right kind and go on with a match. -/
def afterOne (isRight : Char → Bool) : List Char → List Bool → List Bool
  | c :: text, _ :: later => (isRight c && later.headD false) :: afterOne isRight text later
  | _, _ => [false]

def afterRun : List Bool → List Bool
  | [] => []
  | here :: later =>
      let more := afterRun later
      (here || more.headD false) :: more

/-- The ends of a text that have a match right after one of their slashes. -/
def afterSlash : List Char → List Bool → List Bool
  | c :: text, _ :: later =>
      let more := afterSlash text later
      ((c == '/' && later.headD false) || more.headD false) :: more
  | _, _ => [false]

def Token.before (token : Token) (text : List Char) (row : List Bool) : List Bool :=
  match token with
  | .char c => afterOne (· == c) text row
  | .anyChar => afterOne (fun _ => true) text row
  | .anyRun => afterRun row
  | .anyComponents => List.zipWith (· || ·) row (afterSlash text row)
  | .oneOf ranges => afterOne (fun c => ranges.any (·.contains c)) text row
  | .noneOf ranges => afterOne (fun c => !ranges.any (·.contains c)) text row

/-- The ends of a text that match some pieces. Any number of components at the end of a pattern
also stands for a part of one. -/
def matchedEnds (text : List Char) : List Token → List Bool
  | [] => text.map (fun _ => false) ++ [true]
  | [.anyComponents] => true :: text.map (fun _ => true)
  | token :: tokens => token.before text (matchedEnds text tokens)

namespace Pattern

def isMatch (pattern : Pattern) (text : String) : Bool :=
  (matchedEnds text.toList pattern.tokens).headD false

/-- The only text that a pattern without any special characters matches. -/
def literal? (pattern : Pattern) : Option String :=
  (pattern.tokens.mapM Token.char?).map String.ofList

def isRecursive (pattern : Pattern) : Bool :=
  pattern.tokens.contains .anyComponents

end Pattern

end ZeroError.Glob
