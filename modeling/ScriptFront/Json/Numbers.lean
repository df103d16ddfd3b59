import ScriptFront.Json.Reader

/-!
# Reading numbers

A number is read into a significand of at most 64 bits and a power of ten. Digits that no longer fit
are dropped: before the point they raise the power of ten, after it they do not count. The value is
the significand times or divided by the power, each rounded to double precision, so that it may
differ from the nearest number in the last place. A whole number that fits is read exactly.

A number that is only passed over has a form but no value.
-/
namespace ScriptFront.Json

def isSign (c : Char) : Bool := c = '+' || c = '-'

def isExponentMark (c : Char) : Bool := c = 'e' || c = 'E'

def startsWithDigit (text : List Char) : Bool := text.head?.any Char.isDigit

/-- Takes digits onto a value as long as it stays within a limit. -/
def absorb (limit value : Nat) : List Char → Nat × List Char
  | [] => (value, [])
  | c :: rest =>
    let more := 10 * value + (c.toNat - '0'.toNat)
    if c.isDigit && more ≤ limit then absorb limit more rest else (value, c :: rest)

theorem absorb_shrinks (limit value : Nat) (text : List Char) :
    (absorb limit value text).2.length ≤ text.length := by
  induction text generalizing value with
  | nil => exact Nat.le_refl _
  | cons c rest shorter =>
    unfold absorb
    dsimp only
    split
    · exact Nat.le_succ_of_le (shorter _)
    · exact Nat.le_refl _

/-- The largest significand. -/
def significandLimit : Nat := Nat.pow 2 64 - 1

/-- The largest exponent that is read. -/
def exponentLimit : Nat := Nat.pow 2 31 - 1

/-- The largest power of ten in double precision. -/
def powerLimit : Nat := 308

def powerOfTen (exponent : Nat) : Binary64 := .ofRatio (Nat.pow 10 exponent) 1

/-- The product of two finite magnitudes. -/
def product (x y : Binary64) : Binary64 :=
  .ofRatio (x.units * y.units) (Binary64.unitsPerOne * Binary64.unitsPerOne)

/-- The quotient of two finite magnitudes, of which the second is not zero. -/
def quotient (x y : Binary64) : Binary64 := .ofRatio x.units y.units

/-- A magnitude divided by a power of ten, in steps of the largest power. -/
def dividedByPower (x : Binary64) (exponent : Nat) : Binary64 :=
  if exponent ≤ powerLimit then quotient x (powerOfTen exponent)
  else if x.isZero then x
  else dividedByPower (quotient x (powerOfTen powerLimit)) (exponent - powerLimit)
termination_by exponent
decreasing_by simp only [powerLimit] at *; omega

/-- A significand times a power of ten, if that is a finite number. -/
def scaled? (significand : Nat) (exponent : Int) : Option Binary64 :=
  let x := Binary64.ofRatio significand 1
  match exponent with
  | .ofNat raised =>
    if raised ≤ powerLimit then
      let value := product x (powerOfTen raised)
      if value.isInfinite then none else some value
    else if x.isZero then some x
    else none
  | .negSucc lowered => some (dividedByPower x (lowered + 1))

def withSign (negative : Bool) (x : Binary64) : Binary64 := if negative then x.negate else x

namespace Reader

/-- Takes digits within a limit. -/
def absorbed (limit : Nat) (value : Nat) : Reader Nat where
  run text := .ok (absorb limit value text)
  shrinks := by
    intro text found rest read
    have shorter := absorb_shrinks limit value text
    simp only [Except.ok.injEq] at read
    rw [read] at shorter
    exact shorter

/-- A value that is not whole, with its sign. -/
def real (negative : Bool) (significand : Nat) (exponent : Int) : Reader Found := do
  match scaled? significand exponent with
  | some value => return .real (withSign negative value)
  | none => failBefore .numberOutOfRange

/-- An exponent beyond its limit makes a number zero or too large. -/
def hugeExponent (negative raises : Bool) (significand : Nat) : Reader Found := do
  drop 1
  if significand ≠ 0 ∧ raises then failBefore .numberOutOfRange
  else do
    let _ ← takeWhile Char.isDigit
    return .real (withSign negative .zero)

/-- The exponent after its mark, and the value with it. -/
def exponentPart (negative : Bool) (significand : Nat) (exponent : Int) : Reader Found := do
  drop 1
  let raises := (← ahead).head? != some '-'
  if (← ahead).head?.any isSign then drop 1
  match ← ahead with
  | [] => failBefore .endInValue
  | c :: _ =>
    if c.isDigit then do
      let power ← absorbed exponentLimit 0
      if startsWithDigit (← ahead) then hugeExponent negative raises significand
      else real negative significand (if raises then exponent + power else exponent - power)
    else failUpon .invalidNumber

/-- The digits after a point, and the value with them. -/
def decimalPart (negative : Bool) (significand : Nat) (exponent : Int) : Reader Found := do
  drop 1
  let before ← ahead
  let value ← absorbed significandLimit significand
  let after ← ahead
  let places := before.length - after.length
  if places = 0 ∧ ¬ startsWithDigit after then
    if after.isEmpty then failUpon .endInValue else failUpon .invalidNumber
  else do
    let _ ← takeWhile Char.isDigit
    if (← ahead).head?.any isExponentMark then exponentPart negative value (exponent - places)
    else real negative value (exponent - places)

/-- A whole number. Zero has no negative, and below -2^63 a whole number is not exact. -/
def whole (negative : Bool) (significand : Nat) : Found :=
  if !negative then .integer significand
  else if significand = 0 ∨ Nat.pow 2 63 < significand then
    .real (Binary64.ofRatio significand 1).negate
  else .integer (-(significand : Int))

/-- What follows the digits before the point, some of which may have been dropped. -/
def fractionPart (negative : Bool) (significand dropped : Nat) : Reader Found := do
  match ← ahead with
  | '.' :: _ => decimalPart negative significand dropped
  | c :: _ =>
    if isExponentMark c then exponentPart negative significand dropped
    else if dropped = 0 then return whole negative significand
    else real negative significand dropped
  | [] =>
    if dropped = 0 then return whole negative significand
    else real negative significand dropped

/-- A number, after its sign. -/
def number (negative : Bool) : Reader Found := do
  match ← ahead with
  | [] => failBefore .endInValue
  | '0' :: rest =>
    if startsWithDigit rest then do
      drop 1
      failUpon .invalidNumber
    else do
      drop 1
      fractionPart negative 0 0
  | c :: _ =>
    if c.isDigit then do
      let significand ← absorbed significandLimit 0
      let dropped ← takeWhile Char.isDigit
      fractionPart negative significand dropped.length
    else failUpon .invalidNumber

/-- Passes over an exponent, if there is one. -/
def skipExponent : Reader Unit := do
  if (← ahead).head?.any isExponentMark then do
    drop 1
    if (← ahead).head?.any isSign then drop 1
    if startsWithDigit (← ahead) then do
      let _ ← takeWhile Char.isDigit
    else failUpon .invalidNumber

/-- Passes over a number, after its sign. -/
def skipNumber : Reader Unit := do
  match ← ahead with
  | '0' :: rest => do
    drop 1
    if startsWithDigit rest then failUpon .invalidNumber
  | text =>
    if startsWithDigit text then do
      let _ ← takeWhile Char.isDigit
    else failUpon .invalidNumber
  if (← ahead).head? = some '.' then do
    drop 1
    if startsWithDigit (← ahead) then do
      let _ ← takeWhile Char.isDigit
    else failUpon .invalidNumber
  skipExponent

end Reader

end ScriptFront.Json
