/-!
Plain scalars that stand for something other than text: nothing, truth values, whole numbers and
decimal numbers.
-/

namespace ZeroError.Yaml

def isNull (text : String) : Bool :=
  text == "null" || text == "Null" || text == "NULL" || text == "~"

def bool? (text : String) : Option Bool :=
  if text == "true" || text == "True" || text == "TRUE" then some true
  else if text == "false" || text == "False" || text == "FALSE" then some false
  else none

def digit? (base : Nat) (c : Char) : Option Nat :=
  let value? :=
    if '0' ≤ c && c ≤ '9' then some (c.toNat - '0'.toNat)
    else if 'a' ≤ c && c ≤ 'f' then some (c.toNat - 'a'.toNat + 10)
    else if 'A' ≤ c && c ≤ 'F' then some (c.toNat - 'A'.toNat + 10)
    else none
  value?.filter (· < base)

/-- The value of a row of digits, of which there must be at least one. -/
def natural? (base : Nat) (digits : List Char) : Option Nat :=
  if digits.isEmpty then none
  else digits.foldl (fun value digit => do return (← value) * base + (← digit? base digit)) (some 0)

def based? : List Char → Option (Nat × List Char)
  | '0' :: 'x' :: digits => some (16, digits)
  | '0' :: 'o' :: digits => some (8, digits)
  | '0' :: 'b' :: digits => some (2, digits)
  | _ => none

def dropSign : List Char → List Char
  | '+' :: rest => rest
  | '-' :: rest => rest
  | text => text

def dropPlus : List Char → List Char
  | '+' :: rest => rest
  | text => text

/-- Whether a scalar is made of digits after a needless zero, which makes it a text. -/
def isZeroPadded (text : List Char) : Bool :=
  match dropSign text with
  | '0' :: digit :: digits => (digit :: digits).all Char.isDigit
  | _ => false

def unsigned? (bound : Nat) (text : List Char) : Option Nat :=
  let body := dropPlus text
  let decimal? := if isZeroPadded text then none else natural? 10 body
  ((based? body).bind (fun (base, digits) => natural? base digits) <|> decimal?).filter (· < bound)

/-- Whether a plain scalar stands for a negative whole number of at most the given magnitude. -/
def isNegative (bound : Nat) (text : List Char) : Bool :=
  match text with
  | '-' :: body =>
      let decimal? := if isZeroPadded text then none else natural? 10 body
      ((based? body).bind (fun (base, digits) => natural? base digits) <|> decimal?).any (· ≤ bound)
  | _ => false

def splitDigits (text : List Char) : List Char × List Char :=
  (text.takeWhile Char.isDigit, text.dropWhile Char.isDigit)

def exponent? : List Char → Option Int
  | [] => some 0
  | mark :: rest =>
      if mark == 'e' || mark == 'E' then
        match rest with
        | '-' :: digits => (natural? 10 digits).map (fun value => -(value : Int))
        | '+' :: digits => (natural? 10 digits).map Int.ofNat
        | digits => (natural? 10 digits).map Int.ofNat
      else none

def decimal? (text : List Char) : Option (List Char × Int) := do
  let (whole, rest) := splitDigits text
  let (fraction, rest) :=
    match rest with
    | '.' :: rest => splitDigits rest
    | rest => ([], rest)
  if whole.isEmpty && fraction.isEmpty then none
  else
    let exponent ← exponent? rest
    return (whole ++ fraction, exponent - fraction.length)

/-- Whether a decimal number rounds to a finite floating point number, which has 53 significant bits
and a largest exponent of 971. -/
def isFinite (digits : List Char) (exponent : Int) : Bool :=
  match natural? 10 (digits.dropWhile (· == '0')) with
  | none => true
  | some significand =>
      let size : Int := (Nat.toDigits 10 significand).length + exponent
      if size < 300 then true
      else if 320 < size then false
      else
        significand * Nat.pow 10 exponent.toNat <
          (Nat.pow 2 1024 - Nat.pow 2 970) * Nat.pow 10 (-exponent).toNat

/-- Whether a plain scalar stands for a decimal number, an infinity or no number. -/
def isReal (text : String) : Bool :=
  let cs := text.toList
  let body := dropPlus cs
  let unsignedBody :=
    match body with
    | '-' :: rest => if cs.head? == some '+' then body else rest
    | rest => rest
  [".inf", ".Inf", ".INF"].contains (String.ofList body) ||
    ["-.inf", "-.Inf", "-.INF", ".nan", ".NaN", ".NAN"].contains text ||
    (decimal? unsignedBody).any (fun (digits, exponent) => isFinite digits exponent)

/-- Whether a text would be read as something else if it were written as a plain scalar. -/
def standsForValue (text : String) : Bool :=
  let cs := text.toList
  text.isEmpty || isNull text || (bool? text).isSome || (unsigned? (Nat.pow 2 128) cs).isSome ||
    isNegative (Nat.pow 2 127) cs || isReal text || isZeroPadded cs

end ZeroError.Yaml
