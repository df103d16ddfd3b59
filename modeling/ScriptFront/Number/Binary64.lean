/-!
# Double precision numbers

A number is held by the 64 bits of its interchange form: a sign, eleven bits of exponent and 52 bits
of fraction. Every finite magnitude is a whole number of units of 2^-1074, so that reading and
arithmetic are exact on naturals up to the one rounding at the end: to the nearest number, and to
the one with the even significand when two are equally near.

Two numbers that are equal as values may differ in their bits (0 and -0), and a value that is not a
number differs from itself; `Binary64.sameValue` compares values, `=` compares bits.
-/
namespace ScriptFront

structure Binary64 where
  bits : UInt64
  deriving DecidableEq, Repr

namespace Binary64

/-- One more than the largest fraction. -/
def fractionCount : Nat := Nat.pow 2 52

/-- The place of the sign. -/
def signPlace : Nat := Nat.pow 2 63

/-- The exponent field of the values that are not finite. -/
def topField : Nat := 2047

/-- The bits without the sign. Magnitudes are ordered as these codes are. -/
def code (x : Binary64) : Nat := x.bits.toNat % signPlace

def isNegative (x : Binary64) : Bool := signPlace ≤ x.bits.toNat

def field (x : Binary64) : Nat := x.code / fractionCount

def fraction (x : Binary64) : Nat := x.code % fractionCount

def isFinite (x : Binary64) : Bool := x.field < topField

def isInfinite (x : Binary64) : Bool := x.code == topField * fractionCount

def isNaN (x : Binary64) : Bool := topField * fractionCount < x.code

def isZero (x : Binary64) : Bool := x.code == 0

/-- The significand of a finite number; the leading bit of a normal number is not written out. -/
def significand (x : Binary64) : Nat :=
  if x.field = 0 then x.fraction else fractionCount + x.fraction

/-- How often the unit 2^-1074 is doubled to give the last place of the significand. -/
def shift (x : Binary64) : Nat := x.field - 1

/-- The magnitude of a finite number in units of 2^-1074. -/
def units (x : Binary64) : Nat := x.significand * Nat.pow 2 x.shift

/-- How many units make one. -/
def unitsPerOne : Nat := Nat.pow 2 1074

def ofCode (negative : Bool) (code : Nat) : Binary64 :=
  ⟨UInt64.ofNat (if negative then signPlace + code else code)⟩

def negate (x : Binary64) : Binary64 := ofCode (!x.isNegative) x.code

def zero : Binary64 := ofCode false 0

def infinity : Binary64 := ofCode false (topField * fractionCount)

/-- A quotient rounded to the nearest natural, a half to the even one. -/
def roundedQuotient (numerator denominator : Nat) : Nat :=
  let quotient := numerator / denominator
  let doubled := 2 * (numerator % denominator)
  if doubled < denominator then quotient
  else if denominator < doubled then quotient + 1
  else quotient + quotient % 2

/--
The number nearest to a quotient of naturals. The shift is the least one that leaves a significand
of at most 53 bits. Should rounding carry into a further bit, then the code is that of the next
exponent, because fraction and exponent field stand side by side.
-/
def ofRatio (numerator denominator : Nat) : Binary64 :=
  let scaled := numerator * unitsPerOne
  let shift := Nat.log2 (scaled / denominator) - 52
  let significand := roundedQuotient scaled (denominator * Nat.pow 2 shift)
  ofCode false (min (shift * fractionCount + significand) (topField * fractionCount))

/-- Equality of values: 0 equals -0, and what is not a number equals nothing. -/
def sameValue (x y : Binary64) : Bool :=
  !x.isNaN && !y.isNaN && (x.bits == y.bits || x.isZero && y.isZero)

end Binary64

end ScriptFront
