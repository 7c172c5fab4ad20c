namespace ModulatorInspector

-- The finite value is `significand * 2 ^ exponent`, with the sign in front.
inductive Binary64 where
  | finite (negative : Bool) (significand : Nat) (exponent : Int)
  | infinite (negative : Bool)
  | notANumber
  deriving DecidableEq, Repr

namespace Binary64

def lowestExponent : Int := -1074
def highestExponent : Int := 971
def implicitBit : Nat := 4503599627370496

def decimalLength (n : Nat) : Nat := (Nat.toDigits 10 n).length

-- A half goes to the even neighbour.
def divideRounding (numerator denominator : Nat) : Nat :=
  let low := numerator / denominator
  let rest := 2 * (numerator % denominator)
  if rest < denominator then low
  else if denominator < rest then low + 1
  else if low % 2 = 0 then low else low + 1

def scaled (base numerator denominator : Nat) (exponent : Int) : Nat × Nat :=
  if 0 ≤ exponent then (numerator * Nat.pow base exponent.toNat, denominator)
  else (numerator, denominator * Nat.pow base (-exponent).toNat)

-- `none` is beyond every finite value. The fraction is positive.
def nearest? (numerator denominator : Nat) : Option (Nat × Int) :=
  let guess : Int := (numerator.log2 : Int) - denominator.log2 - 52
  let (n, d) := scaled 2 numerator denominator (-guess)
  let exponent := max lowestExponent (if n / d < implicitBit then guess - 1 else guess)
  let (n, d) := scaled 2 numerator denominator (-exponent)
  let significand := divideRounding n d
  let (significand, exponent) :=
    if significand = 2 * implicitBit then (implicitBit, exponent + 1) else (significand, exponent)
  if highestExponent < exponent then none else some (significand, exponent)

def ofDecimal (negative : Bool) (coefficient : Nat) (exponent : Int) : Binary64 :=
  let size := (decimalLength coefficient : Int) + exponent
  if coefficient = 0 ∨ size < -330 then .finite negative 0 lowestExponent
  else if 310 < size then .infinite negative
  else
    let (numerator, denominator) := scaled 10 coefficient 1 exponent
    match nearest? numerator denominator with
    | some (significand, e) => .finite negative significand e
    | none => .infinite negative

-- The `p` with `10 ^ (p - 1) ≤ numerator / denominator < 10 ^ p`.
def decimalPlace (numerator denominator : Nat) : Int :=
  if denominator ≤ numerator then decimalLength (numerator / denominator)
  else
    let size := decimalLength (denominator / numerator)
    if denominator ≤ numerator * Nat.pow 10 (size - 1) then 2 - size else 1 - size

def carried (digits coefficient : Nat) (exponent : Int) : Nat × Int :=
  if coefficient = Nat.pow 10 digits then (Nat.pow 10 (digits - 1), exponent + 1)
  else (coefficient, exponent)

-- Of the two neighbours with so many digits, those that read back; the nearer of two, and of two
-- that are as near the greater.
def withDigits? (numerator denominator : Nat) (value : Nat × Int) (digits : Nat) :
    Option (Nat × Int) :=
  let exponent := decimalPlace numerator denominator - digits
  let (n, d) := scaled 10 numerator denominator (-exponent)
  let low := n / d
  let readsBack (coefficient : Nat) : Bool :=
    let (top, bottom) := scaled 10 coefficient 1 exponent
    coefficient ≠ 0 && nearest? top bottom == some value
  match readsBack low, readsBack (low + 1) with
  | true, true => some (carried digits (if 2 * (n % d) < d then low else low + 1) exponent)
  | true, false => some (carried digits low exponent)
  | false, true => some (carried digits (low + 1) exponent)
  | false, false => none

def shortest (significand : Nat) (exponent : Int) : Nat × Int :=
  let (numerator, denominator) := scaled 2 significand 1 exponent
  ((List.range 17).findSome? fun k =>
    withDigits? numerator denominator (significand, exponent) (k + 1)).getD (significand, exponent)

def positional (coefficient : Nat) (exponent : Int) : List Char :=
  let digits := Nat.toDigits 10 coefficient
  if 0 ≤ exponent then digits ++ List.replicate exponent.toNat '0' ++ ['.', '0']
  else
    let places := (-exponent).toNat
    let padded := List.replicate (places + 1 - digits.length) '0' ++ digits
    padded.take (padded.length - places) ++ '.' :: padded.drop (padded.length - places)

def signed (negative : Bool) (text : List Char) : String :=
  String.ofList (if negative then '-' :: text else text)

def text : Binary64 → String
  | .finite negative significand exponent =>
      let (coefficient, place) := if significand = 0 then (0, 0) else shortest significand exponent
      signed negative (positional coefficient place)
  | .infinite negative => signed negative ['i', 'n', 'f']
  | .notANumber => "NaN"

end Binary64

end ModulatorInspector
