import ScriptFront.Number.Binary64

/-!
# Shortest decimals

A double precision number stands for every real that rounds to it. Among the decimals in that
interval the shortest is the one on the coarsest grid of powers of ten that has a point there, and
of several points of that grid it is the one nearest to the number. The search is exact: everything
is multiplied by a common denominator.

The grid is searched at the two neighbours of the number only. If any point of a grid lies in the
interval, then so does one of these two, since the interval has no gaps and holds the number.
-/
namespace ScriptFront

/-- The decimal `coefficient * 10 ^ exponent`. -/
structure Decimal where
  coefficient : Nat
  exponent : Int
  deriving DecidableEq, Repr

/-- Which of two equally near decimals is taken. -/
inductive Tie where
  | up | even
  deriving DecidableEq, Repr

/--
The reals that round to a number, in quarters of the unit of `Binary64`, so that the ends are whole.
The ends belong to the interval when the significand is even.
-/
structure Interval where
  low : Nat
  middle : Nat
  high : Nat
  closed : Bool

namespace Binary64

/-- Below a power of two the numbers stand twice as close as above it. -/
def interval (x : Binary64) : Interval :=
  let place := Nat.pow 2 x.shift
  let below := if x.significand = fractionCount ∧ 0 < x.shift then place else 2 * place
  { low := 4 * x.units - below
    middle := 4 * x.units
    high := 4 * x.units + 2 * place
    closed := x.significand % 2 == 0 }

end Binary64

namespace Interval

def contains (interval : Interval) (point : Nat) : Bool :=
  interval.low < point && point < interval.high
    || interval.closed && (point == interval.low || point == interval.high)

/-- The interval in a unit `factor` times smaller. -/
def scale (interval : Interval) (factor : Nat) : Interval :=
  { interval with
    low := interval.low * factor
    middle := interval.middle * factor
    high := interval.high * factor }

/-- The multiple of `step` in the interval that is nearest to its middle. -/
def nearest? (tie : Tie) (interval : Interval) (step : Nat) : Option Nat :=
  let lower := interval.middle / step
  let beyond := interval.middle % step
  match interval.contains (lower * step), interval.contains ((lower + 1) * step) with
  | false, false => none
  | true, false => some lower
  | false, true => some (lower + 1)
  | true, true =>
    if 2 * beyond < step then some lower
    else if step < 2 * beyond then some (lower + 1)
    else match tie with
      | .up => some (lower + 1)
      | .even => some (lower + lower % 2)

/-- The nearest point of the grid of multiples of `10 ^ exponent`. -/
def onGrid? (tie : Tie) (interval : Interval) (exponent : Int) : Option Decimal :=
  let unit := 4 * Binary64.unitsPerOne
  let found :=
    match exponent with
    | .ofNat places => interval.nearest? tie (unit * Nat.pow 10 places)
    | .negSucc places => (interval.scale (Nat.pow 10 (places + 1))).nearest? tie unit
  found.map (⟨·, exponent⟩)

end Interval

namespace Binary64

/-- An exponent of ten above the magnitude of a finite number: 10 to this power exceeds the number.
It is read off the binary exponent, with 0.30103 and 0.30102 on either side of the logarithm of two.
-/
def exponentAbove (x : Binary64) : Int :=
  let doublings : Int := (Nat.log2 x.units : Int) + 1 - 1074
  if 0 ≤ doublings then doublings * 30103 / 100000 + 1 else doublings * 30102 / 100000 + 1

/-- The decimal that a finite number is, to its last digit. -/
def exactDecimal (x : Binary64) : Decimal := ⟨x.units * Nat.pow 5 1074, -1074⟩

/--
The shortest decimal that rounds to a finite number other than zero. Seventeen digits always do, and
the search begins at most three grids above the first digit, so the exact decimal is never needed.
-/
def shortest (tie : Tie) (x : Binary64) : Decimal :=
  ((List.range 24).findSome? fun (finer : Nat) =>
    x.interval.onGrid? tie (x.exponentAbove - finer)).getD x.exactDecimal

end Binary64

end ScriptFront
