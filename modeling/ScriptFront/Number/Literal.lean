import ScriptFront.Number.Binary64

/-!
# Number literals

A literal is a run of digits, which a point and a further run of digits may follow. Its value is the
double precision number nearest to the decimal that is written; a literal beyond the largest number
is infinite.
-/
namespace ScriptFront

/-- The value of a run of decimal digits. -/
def digitsValue (digits : List Char) : Nat :=
  digits.foldl (fun value digit => 10 * value + (digit.toNat - '0'.toNat)) 0

/-- The number that a literal denotes. -/
def literalValue? (literal : List Char) : Option Binary64 :=
  let whole := literal.takeWhile Char.isDigit
  match whole, literal.dropWhile Char.isDigit with
  | [], _ => none
  | _, [] => some (Binary64.ofRatio (digitsValue whole) 1)
  | _, '.' :: places =>
    if !places.isEmpty && places.all Char.isDigit then
      some (Binary64.ofRatio (digitsValue (whole ++ places)) (Nat.pow 10 places.length))
    else none
  | _, _ => none

end ScriptFront
