/-!
The shortest decimal that stands for a binary floating point number. A finite number is a whole
multiple of a power of two; the reals nearer to it than to its neighbours form an interval, and the
decimal with the fewest digits inside that interval names the number. All comparisons are between
whole numbers, so nothing is lost to rounding.
-/

namespace ZeroError.Decimal

structure Binary where
  significand : Nat
  exponent : Int
  nearerBelow : Bool
deriving DecidableEq, Repr

structure Scaled where
  digits : Nat
  exponent : Int
deriving DecidableEq, Repr

def Binary.ofBits (bits : UInt64) : Binary :=
  let biased : Nat := (bits.toNat / Nat.pow 2 52) % Nat.pow 2 11
  let fraction : Nat := bits.toNat % Nat.pow 2 52
  if biased = 0 then
    ⟨fraction, -1074, false⟩
  else
    ⟨Nat.pow 2 52 + fraction, (biased : Int) - 1075, fraction = 0 && 1 < biased⟩

def isNegative (bits : UInt64) : Bool :=
  Nat.pow 2 63 ≤ bits.toNat

/-- Compares `a * 2 ^ q` with `b * 10 ^ k` after clearing the denominators of both sides. -/
def compareScaled (a : Nat) (q : Int) (b : Nat) (k : Int) : Ordering :=
  compare (a * Nat.pow 2 q.toNat * Nat.pow 10 (-k).toNat)
    (b * Nat.pow 10 k.toNat * Nat.pow 2 (-q).toNat)

def wholeSteps (a : Nat) (q k : Int) : Nat :=
  (a * Nat.pow 2 q.toNat * Nat.pow 10 (-k).toNat) /
    (Nat.pow 10 k.toNat * Nat.pow 2 (-q).toNat)

/-- The largest `p` at most `start`, found within `fuel` steps, for which `10 ^ p` does not exceed
`a * 2 ^ q`. -/
def leadingPower (a : Nat) (q : Int) : (fuel : Nat) → (start : Int) → Int
  | 0, start => start
  | fuel + 1, start =>
      if compareScaled a q 1 start = .lt then leadingPower a q fuel (start - 1) else start

namespace Binary

/-- Whether a decimal lies in the interval of reals that round to the number. Quarters of the last
place keep both ends whole; an end belongs to the interval when the significand is even. -/
def holds (number : Binary) (decimal : Scaled) : Bool :=
  let low := 4 * number.significand - (if number.nearerBelow then 1 else 2)
  let high := 4 * number.significand + 2
  let q := number.exponent - 2
  let atLow := compareScaled low q decimal.digits decimal.exponent
  let atHigh := compareScaled high q decimal.digits decimal.exponent
  if number.significand % 2 = 0 then atLow ≠ .gt && atHigh ≠ .lt
  else atLow = .lt && atHigh = .gt

/-- Of the two decimals around the number on the grid of step `10 ^ k`, the one inside the
interval; of two inside, the nearer one; of two equally near, the even one. -/
def onGrid (number : Binary) (k : Int) : Option Scaled :=
  let below := wholeSteps number.significand number.exponent k
  let lower : Scaled := ⟨below, k⟩
  let upper : Scaled := ⟨below + 1, k⟩
  match number.holds lower, number.holds upper with
  | false, false => none
  | true, false => some lower
  | false, true => some upper
  | true, true =>
      match compareScaled (2 * number.significand) number.exponent (2 * below + 1) k with
      | .lt => some lower
      | .gt => some upper
      | .eq => some (if below % 2 = 0 then lower else upper)

/-- The first grid with a hit among those of one digit more than the last, from the power `k`
downwards. -/
def search (number : Binary) : (fuel : Nat) → (k : Int) → Scaled
  | 0, k => ⟨wholeSteps number.significand number.exponent k, k⟩
  | fuel + 1, k =>
      match number.onGrid k with
      | some decimal => decimal
      | none => search number fuel (k - 1)

/-- The shortest decimal that names the number. Seventeen digits always suffice. -/
def shortest (number : Binary) : Scaled :=
  number.search 17 (leadingPower number.significand number.exponent 640 309)

end Binary

/-- The digits of a whole number without trailing zeros, and how many zeros were taken off. -/
def trimZeros (digits : List Char) : List Char × Nat :=
  let kept := (digits.reverse.dropWhile (· == '0')).reverse
  (kept, digits.length - kept.length)

/-- Decimal text of a magnitude: positional from `0.00001` up to sixteen digits before the point,
always with a fraction there; otherwise one digit before the point and an exponent. -/
def magnitudeText (decimal : Scaled) : String :=
  let (digits, zeros) := trimZeros (Nat.toDigits 10 decimal.digits)
  let length := digits.length
  let exponent := decimal.exponent + zeros
  let point := (length : Int) + exponent
  if digits.isEmpty then "0.0"
  else if 0 ≤ exponent ∧ point ≤ 16 then
    String.ofList (digits ++ List.replicate exponent.toNat '0') ++ ".0"
  else if 0 < point ∧ point ≤ 16 then
    String.ofList (digits.take point.toNat) ++ "." ++ String.ofList (digits.drop point.toNat)
  else if -5 < point ∧ point ≤ 0 then
    "0." ++ String.ofList (List.replicate (-point).toNat '0' ++ digits)
  else
    let mark := "e" ++ toString (point - 1)
    match digits with
    | [digit] => String.ofList [digit] ++ mark
    | digit :: rest => String.ofList [digit] ++ "." ++ String.ofList rest ++ mark
    | [] => "0.0"

/-- Decimal text of a finite floating point number given by its bits. -/
def text (bits : UInt64) : String :=
  let number := Binary.ofBits bits
  let magnitude := if number.significand = 0 then "0.0" else magnitudeText number.shortest
  if isNegative bits then "-" ++ magnitude else magnitude

end ZeroError.Decimal
