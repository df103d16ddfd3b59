import ScriptFront.Number.Shortest

/-!
# Number texts

Two ways to write a number with its shortest digits. The plain text is positional whatever the size
of the number and has a point only when digits follow it. The exchange text always shows that the
number is no integer type, by a point or an exponent, and turns to an exponent for large and small
numbers; it is the text of numbers in JSON.
-/
namespace ScriptFront

def zeros (count : Nat) : List Char := List.replicate count '0'

namespace Decimal

def digits (decimal : Decimal) : List Char := (toString decimal.coefficient).toList

/-- The power of ten of the first digit. -/
def magnitude (decimal : Decimal) : Int :=
  decimal.exponent + decimal.digits.length - 1

/-- Positional notation, with `.0` after a whole number if `pointed`. -/
def positional (pointed : Bool) (decimal : Decimal) : List Char :=
  let digits := decimal.digits
  match decimal.exponent with
  | .ofNat places => digits ++ zeros places ++ (if pointed then ['.', '0'] else [])
  | .negSucc places =>
    let whole := digits.length - (places + 1)
    if 0 < whole then digits.take whole ++ '.' :: digits.drop whole
    else '0' :: '.' :: (zeros (places + 1 - digits.length) ++ digits)

/-- One digit, the others after a point, and the power of ten with its sign. -/
def scientific (decimal : Decimal) : List Char :=
  let mantissa :=
    match decimal.digits with
    | first :: second :: rest => first :: '.' :: second :: rest
    | short => short
  let power :=
    match decimal.magnitude with
    | .ofNat size => '+' :: (toString size).toList
    | .negSucc size => '-' :: (toString (size + 1)).toList
  mantissa ++ 'e' :: power

end Decimal

namespace Binary64

def signed (x : Binary64) (text : List Char) : List Char :=
  if x.isNegative then '-' :: text else text

/-- The digits of a number in positional notation; of two nearest decimals the greater is taken. -/
def plainText (x : Binary64) : List Char :=
  if x.isNaN then "NaN".toList
  else if x.isInfinite then x.signed "inf".toList
  else if x.isZero then x.signed ['0']
  else x.signed ((x.shortest .up).positional false)

/-- The text of a finite number for exchange; from 10^16 on and below 10^-5 it has an exponent. -/
def exchangeText (x : Binary64) : List Char :=
  if x.isZero then x.signed "0.0".toList
  else
    let decimal := x.shortest .even
    if -5 ≤ decimal.magnitude ∧ decimal.magnitude ≤ 15 then x.signed (decimal.positional true)
    else x.signed decimal.scientific

end Binary64

end ScriptFront
