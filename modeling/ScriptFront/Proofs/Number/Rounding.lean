import Mathlib.Tactic.Ring
import ScriptFront.Number.Shortest

/-!
# Rounding

What lies in the interval of a finite number rounds to it (`Binary64.ofRatio_of_contains`). So no
decimal lies in the intervals of two magnitudes, and the shortest decimal of a number, which is
looked for in its interval, gives its magnitude back (`Binary64.ofRatio_shortest`).
-/
namespace ScriptFront

namespace Binary64

/-- A quotient is rounded to a natural from which it differs by a half at most, and by less than a
half if the natural is odd. -/
theorem roundedQuotient_eq {numerator denominator rounded : Nat} (positive : 0 < denominator)
    (low : 2 * (rounded * denominator) ≤ 2 * numerator + denominator)
    (high : 2 * numerator ≤ 2 * (rounded * denominator) + denominator)
    (odd : rounded % 2 = 1 → 2 * (rounded * denominator) < 2 * numerator + denominator ∧
      2 * numerator < 2 * (rounded * denominator) + denominator) :
    roundedQuotient numerator denominator = rounded := by
  have parts := Nat.div_add_mod' numerator denominator
  have small := Nat.mod_lt numerator positive
  unfold roundedQuotient
  dsimp only
  generalize numerator / denominator = quotient at *
  generalize numerator % denominator = beyond at *
  have near : rounded = quotient ∨ rounded = quotient + 1 := by
    rcases Nat.lt_trichotomy rounded quotient with less | same | more
    · have gap : (rounded + 1) * denominator ≤ quotient * denominator :=
        Nat.mul_le_mul_right _ less
      rw [Nat.succ_mul] at gap
      omega
    · exact .inl same
    · by_contra far
      have gap : (quotient + 2) * denominator ≤ rounded * denominator :=
        Nat.mul_le_mul_right _ (by omega)
      rw [Nat.add_mul] at gap
      omega
  rcases near with rfl | rfl
  · split
    · rfl
    split
    · omega
    · have even : rounded % 2 = 0 := by
        by_contra notEven
        have strict := odd (by omega)
        omega
      omega
  · have next : (quotient + 1) * denominator = quotient * denominator + denominator :=
      Nat.succ_mul ..
    split
    · omega
    split
    · rfl
    · have even : (quotient + 1) % 2 = 0 := by
        by_contra notEven
        have strict := odd (by omega)
        omega
      omega

theorem roundedQuotient_scale (numerator denominator : Nat) {factor : Nat} (positive : 0 < factor) :
    roundedQuotient (numerator * factor) (denominator * factor) =
      roundedQuotient numerator denominator := by
  have doubled : 2 * (numerator % denominator * factor) = 2 * (numerator % denominator) * factor :=
    (Nat.mul_assoc ..).symm
  simp only [roundedQuotient, Nat.mul_div_mul_right _ _ positive, Nat.mul_mod_mul_right, doubled,
    Nat.mul_lt_mul_right positive]

/-- What a quotient is rounded to does not depend on how the quotient is written. -/
theorem ofRatio_congr {numerator denominator numerator' denominator' : Nat}
    (positive : 0 < denominator) (positive' : 0 < denominator')
    (same : numerator * denominator' = numerator' * denominator) :
    ofRatio numerator denominator = ofRatio numerator' denominator' := by
  have scale (numerator denominator : Nat) {factor : Nat} (positive : 0 < factor) :
      ofRatio (numerator * factor) (denominator * factor) = ofRatio numerator denominator := by
    have scaled : numerator * factor * unitsPerOne = numerator * unitsPerOne * factor :=
      Nat.mul_right_comm ..
    have placed (shift : Nat) : denominator * factor * Nat.pow 2 shift =
        denominator * Nat.pow 2 shift * factor := Nat.mul_right_comm ..
    simp only [ofRatio, scaled, placed, Nat.mul_div_mul_right _ _ positive,
      roundedQuotient_scale _ _ positive]
  rw [← scale numerator denominator positive', same, Nat.mul_comm denominator,
    scale numerator' denominator' positive]

theorem ofRatio_zero {denominator : Nat} (positive : 0 < denominator) :
    ofRatio 0 denominator = zero := by
  have nothing : roundedQuotient 0 denominator = 0 := by simp [roundedQuotient, positive]
  simp [ofRatio, nothing, zero]

section Parts

variable {x : Binary64}

theorem fraction_lt (x : Binary64) : x.fraction < fractionCount :=
  Nat.mod_lt _ (by decide)

theorem significand_lt (x : Binary64) : x.significand < 2 * fractionCount := by
  have small := x.fraction_lt
  unfold significand
  split <;> omega

theorem significand_of_shift (shifted : 0 < x.shift) : fractionCount ≤ x.significand := by
  have normal : x.field ≠ 0 := fun none => by simp [shift, none] at shifted
  rw [significand, if_neg normal]
  exact Nat.le_add_right ..

/-- Fraction and exponent field stand side by side. -/
theorem code_eq (x : Binary64) : x.shift * fractionCount + x.significand = x.code := by
  have parts : x.field * fractionCount + x.fraction = x.code := Nat.div_add_mod' ..
  rw [← parts]
  unfold shift significand
  cases x.field with
  | zero => simp
  | succ field =>
    rw [if_neg (Nat.succ_ne_zero field), Nat.succ_mul, Nat.succ_sub_one]
    omega

theorem code_lt_of_isFinite (finite : x.isFinite) : x.code < topField * fractionCount := by
  have below : x.code / fractionCount < topField := of_decide_eq_true finite
  exact (Nat.div_lt_iff_lt_mul (by decide)).mp below

/-- The number without its sign. -/
def magnitude (x : Binary64) : Binary64 := ofCode false x.code

theorem code_lt (x : Binary64) : x.code < signPlace := Nat.mod_lt _ (by decide)

theorem bits_eq (x : Binary64) :
    x.bits.toNat = if x.isNegative then signPlace + x.code else x.code := by
  have small := x.bits.toNat_lt
  have places : 2 ^ 64 = signPlace + signPlace := by decide
  by_cases negative : signPlace ≤ x.bits.toNat
  · have split := Nat.mod_eq_sub_mod negative
    have code : x.code = x.bits.toNat - signPlace :=
      split.trans (Nat.mod_eq_of_lt (by omega))
    rw [isNegative, if_pos (decide_eq_true negative), code]
    omega
  · rw [isNegative, if_neg (by simpa using negative), code,
      Nat.mod_eq_of_lt (Nat.lt_of_not_le negative)]

theorem ofCode_code (x : Binary64) : ofCode x.isNegative x.code = x := by
  rw [ofCode, ← bits_eq, UInt64.ofNat_toNat]

theorem magnitude_of_notNegative (notNegative : ¬ x.isNegative) : x.magnitude = x := by
  have code := x.ofCode_code
  rwa [Bool.eq_false_iff.mpr notNegative] at code

theorem magnitude_code (x : Binary64) : x.magnitude.code = x.code := by
  have small := x.code_lt
  have places : signPlace < UInt64.size := by decide
  simp only [magnitude, ofCode, code, Bool.false_eq_true, ↓reduceIte]
  rw [UInt64.toNat_ofNat_of_lt' (by rw [code] at small; omega), Nat.mod_mod]

theorem eq_of_magnitude {y : Binary64} (same : x.magnitude = y.magnitude)
    (sign : x.isNegative = y.isNegative) : x = y := by
  have code : x.code = y.code := by rw [← magnitude_code, same, magnitude_code]
  rw [← x.ofCode_code, ← y.ofCode_code, sign, code]

end Parts

/-- The code of what a quotient rounds to, where the place of its first digit is known. -/
theorem ofRatio_eq {numerator denominator shift rounded : Nat}
    (place : Nat.log2 (numerator * unitsPerOne / denominator) - 52 = shift)
    (near : roundedQuotient (numerator * unitsPerOne) (denominator * 2 ^ shift) = rounded)
    (finite : shift * fractionCount + rounded ≤ topField * fractionCount) :
    ofRatio numerator denominator = ofCode false (shift * fractionCount + rounded) := by
  simp only [ofRatio, place, Nat.pow_eq, near, Nat.min_eq_left finite]

/-- The place of the first digit of a quotient. -/
theorem log2_quotient {scaled denominator place : Nat} (positive : 0 < denominator)
    (low : denominator * 2 ^ place ≤ scaled) (high : scaled < denominator * 2 ^ (place + 1)) :
    Nat.log2 (scaled / denominator) = place := by
  have atLeast : 2 ^ place ≤ scaled / denominator :=
    (Nat.le_div_iff_mul_le positive).mpr (by rwa [Nat.mul_comm])
  have less : scaled / denominator < 2 ^ (place + 1) :=
    (Nat.div_lt_iff_lt_mul positive).mpr (by rwa [Nat.mul_comm])
  have some : scaled / denominator ≠ 0 := by
    have := Nat.two_pow_pos place
    omega
  exact (Nat.log2_eq_iff some).mpr ⟨atLeast, less⟩

/-- What a multiple of the interval reaches: a half of the last place up and down, but only a
quarter down from a power of two. The ends belong to even significands only. -/
theorem bounds_of_contains {x : Binary64} {factor point : Nat}
    (inside : (x.interval.scale factor).contains point) :
    let place := factor * 2 ^ x.shift
    let below := if x.significand = fractionCount ∧ 0 < x.shift then place else 2 * place
    4 * (x.significand * place) ≤ point + below ∧
      point ≤ 4 * (x.significand * place) + 2 * place ∧
      (x.significand % 2 = 1 → 4 * (x.significand * place) < point + below ∧
        point < 4 * (x.significand * place) + 2 * place) := by
  intro place below
  have middle : 4 * x.units * factor = 4 * (x.significand * place) := by
    simp only [units, Nat.pow_eq, place]
    ring
  have width : 2 * Nat.pow 2 x.shift * factor = 2 * place := by
    simp only [Nat.pow_eq, place]
    ring
  have lower : (if x.significand = fractionCount ∧ 0 < x.shift then Nat.pow 2 x.shift
      else 2 * Nat.pow 2 x.shift) * factor = below := by
    simp only [below, Nat.pow_eq, place]
    split <;> ring
  simp only [Interval.contains, Interval.scale, interval, Nat.sub_mul, Nat.add_mul, middle, width,
    lower, Bool.or_eq_true, Bool.and_eq_true, decide_eq_true_eq, beq_iff_eq] at inside
  omega

theorem fractionCount_mul (factor place : Nat) :
    factor * 2 ^ (52 + place) = fractionCount * (factor * 2 ^ place) := by
  rw [fractionCount, Nat.pow_eq, Nat.pow_add]
  ring

/-- A quotient within half of the last place of a number has its first digit where the number has
it, unless the number is a power of two and the quotient less. -/
theorem place_of_near {x : Binary64} {scaled denominator : Nat} (positive : 0 < denominator)
    (low : 2 * (x.significand * (denominator * 2 ^ x.shift)) ≤
      2 * scaled + denominator * 2 ^ x.shift)
    (high : 2 * scaled ≤
      2 * (x.significand * (denominator * 2 ^ x.shift)) + denominator * 2 ^ x.shift)
    (notLess : x.significand = fractionCount → 0 < x.shift →
      x.significand * (denominator * 2 ^ x.shift) ≤ scaled) :
    Nat.log2 (scaled / denominator) - 52 = x.shift := by
  have step : 0 < denominator * 2 ^ x.shift := Nat.mul_pos positive (Nat.two_pow_pos _)
  have doubled : denominator * 2 ^ (52 + x.shift + 1) =
      2 * (fractionCount * (denominator * 2 ^ x.shift)) := by
    rw [Nat.pow_succ, ← Nat.mul_assoc, fractionCount_mul, Nat.mul_comm]
  have top : (x.significand + 1) * (denominator * 2 ^ x.shift) ≤
      2 * fractionCount * (denominator * 2 ^ x.shift) :=
    Nat.mul_le_mul_right _ x.significand_lt
  rw [Nat.succ_mul, Nat.mul_assoc] at top
  have less : scaled < denominator * 2 ^ (52 + x.shift + 1) := by omega
  by_cases shifted : 0 < x.shift
  · have atLeast : denominator * 2 ^ (52 + x.shift) ≤ scaled := by
      rw [fractionCount_mul]
      rcases Nat.lt_or_eq_of_le (significand_of_shift shifted) with more | same
      · have bottom : (fractionCount + 1) * (denominator * 2 ^ x.shift) ≤
            x.significand * (denominator * 2 ^ x.shift) := Nat.mul_le_mul_right _ more
        rw [Nat.succ_mul] at bottom
        omega
      · rw [same]
        exact notLess same.symm shifted
    rw [log2_quotient positive atLeast less, Nat.add_sub_cancel_left]
  · have none : x.shift = 0 := Nat.eq_zero_of_not_pos shifted
    have small : scaled / denominator < 2 ^ 53 := by
      rw [none] at less
      exact (Nat.div_lt_iff_lt_mul positive).mpr (by rwa [Nat.mul_comm])
    have first : Nat.log2 (scaled / denominator) < 53 := by
      by_cases zero : scaled / denominator = 0
      · rw [zero]
        decide
      · exact (Nat.log2_lt zero).mpr small
    omega

/-- Below a power of two the last place is half as large, and rounding carries. -/
theorem ofRatio_below_power {numerator denominator shift : Nat} (positive : 0 < denominator)
    (low : 8 * (fractionCount * (denominator * 2 ^ shift)) ≤
      4 * (numerator * unitsPerOne) + 2 * (denominator * 2 ^ shift))
    (less : numerator * unitsPerOne < 2 * (fractionCount * (denominator * 2 ^ shift)))
    (finite : (shift + 2) * fractionCount ≤ topField * fractionCount) :
    ofRatio numerator denominator = ofCode false ((shift + 2) * fractionCount) := by
  have step : 0 < denominator * 2 ^ shift := Nat.mul_pos positive (Nat.two_pow_pos _)
  have many : denominator * 2 ^ shift ≤ fractionCount * (denominator * 2 ^ shift) :=
    Nat.le_mul_of_pos_left _ (by decide)
  have place : Nat.log2 (numerator * unitsPerOne / denominator) = 52 + shift := by
    apply log2_quotient positive
    · rw [fractionCount_mul]
      omega
    · rw [Nat.pow_succ, ← Nat.mul_assoc, fractionCount_mul]
      omega
  have near : roundedQuotient (numerator * unitsPerOne) (denominator * 2 ^ shift) =
      2 * fractionCount := by
    apply roundedQuotient_eq step
    · rw [Nat.mul_assoc]
      omega
    · rw [Nat.mul_assoc]
      omega
    · intro odd
      exact absurd odd (by decide)
  have carried : shift * fractionCount + 2 * fractionCount = (shift + 2) * fractionCount :=
    (Nat.add_mul ..).symm
  rw [ofRatio_eq (by rw [place, Nat.add_sub_cancel_left]) near (by rwa [carried]), carried]

/-- A quotient in the interval of a number rounds to its magnitude. -/
theorem ofRatio_of_contains {x : Binary64} (finite : x.isFinite) {numerator denominator : Nat}
    (positive : 0 < denominator)
    (inside : (x.interval.scale denominator).contains (4 * (numerator * unitsPerOne))) :
    ofRatio numerator denominator = x.magnitude := by
  obtain ⟨low, high, odd⟩ := bounds_of_contains inside
  have code := x.code_eq
  have codeLt := code_lt_of_isFinite finite
  rw [magnitude]
  by_cases lowest : x.significand = fractionCount ∧ 0 < x.shift ∧
      numerator * unitsPerOne < x.significand * (denominator * 2 ^ x.shift)
  · obtain ⟨power, shifted, less⟩ := lowest
    obtain ⟨shift, same⟩ : ∃ shift, x.shift = shift + 1 :=
      ⟨x.shift - 1, (Nat.succ_pred_eq_of_pos shifted).symm⟩
    have last : denominator * 2 ^ x.shift = 2 * (denominator * 2 ^ shift) := by
      rw [same, Nat.pow_succ]
      ring
    have half : fractionCount * (denominator * 2 ^ x.shift) =
        2 * (fractionCount * (denominator * 2 ^ shift)) := by
      rw [last]
      ring
    have whole : (shift + 2) * fractionCount = x.code := by
      rw [← code, power, same]
      ring
    rw [if_pos ⟨power, shifted⟩, power, half, last] at low
    rw [power, half] at less
    rw [ofRatio_below_power positive (by omega) less (by omega), whole]
  · have notLess (power : x.significand = fractionCount) (shifted : 0 < x.shift) :
        x.significand * (denominator * 2 ^ x.shift) ≤ numerator * unitsPerOne :=
      Nat.le_of_not_lt fun less => lowest ⟨power, shifted, less⟩
    have step : 0 < denominator * 2 ^ x.shift := Nat.mul_pos positive (Nat.two_pow_pos _)
    have even : fractionCount % 2 = 0 := by decide
    have lower : 2 * (x.significand * (denominator * 2 ^ x.shift)) ≤
          2 * (numerator * unitsPerOne) + denominator * 2 ^ x.shift ∧
        (x.significand % 2 = 1 → 2 * (x.significand * (denominator * 2 ^ x.shift)) <
          2 * (numerator * unitsPerOne) + denominator * 2 ^ x.shift) := by
      by_cases power : x.significand = fractionCount ∧ 0 < x.shift
      · have atLeast := notLess power.1 power.2
        exact ⟨by omega, fun isOdd => by omega⟩
      · rw [if_neg power] at low odd
        exact ⟨by omega, fun isOdd => by have := odd isOdd; omega⟩
    have near := roundedQuotient_eq step lower.1 (by omega) fun isOdd =>
      ⟨lower.2 isOdd, by have := odd isOdd; omega⟩
    have place := place_of_near positive lower.1 (by omega) notLess
    rw [ofRatio_eq place near (by omega), code]

end Binary64

namespace Decimal

/-! A decimal as a quotient. -/

def numerator (decimal : Decimal) : Nat := decimal.coefficient * 10 ^ decimal.exponent.toNat

def denominator (decimal : Decimal) : Nat := 10 ^ (-decimal.exponent).toNat

theorem denominator_pos (decimal : Decimal) : 0 < decimal.denominator :=
  Nat.pow_pos (by decide)

/-- Whether the decimal lies in an interval. -/
def In (decimal : Decimal) (interval : Interval) : Prop :=
  (interval.scale decimal.denominator).contains (4 * (decimal.numerator * Binary64.unitsPerOne))

end Decimal

namespace Interval

variable {tie : Tie} {interval : Interval}

theorem contains_nearest? {step multiple : Nat}
    (found : interval.nearest? tie step = some multiple) : interval.contains (multiple * step) := by
  unfold nearest? at found
  dsimp only at found
  split at found
  next => contradiction
  next lower _ =>
    cases found
    exact lower
  next _ upper =>
    cases found
    exact upper
  next lower upper =>
    split at found
    · cases found
      exact lower
    split at found
    · cases found
      exact upper
    split at found
    · cases found
      exact upper
    · rcases Nat.mod_two_eq_zero_or_one (interval.middle / step) with even | odd
      · rw [even] at found
        cases found
        exact lower
      · rw [odd] at found
        cases found
        exact upper

theorem contains_middle (lower : interval.low < interval.middle)
    (upper : interval.middle < interval.high) {factor : Nat} (positive : 0 < factor) :
    (interval.scale factor).contains (interval.middle * factor) := by
  have above := Nat.mul_lt_mul_of_pos_right lower positive
  have below := Nat.mul_lt_mul_of_pos_right upper positive
  simp [contains, scale, above, below]

theorem in_of_onGrid? {exponent : Int} {decimal : Decimal}
    (found : interval.onGrid? tie exponent = some decimal) : decimal.In interval := by
  obtain ⟨multiple, near, rfl⟩ := Option.map_eq_some_iff.mp found
  cases exponent with
  | ofNat places =>
    have inside := contains_nearest? near
    have point : 4 * (multiple * 10 ^ places * Binary64.unitsPerOne) =
        multiple * (4 * Binary64.unitsPerOne * Nat.pow 10 places) := by
      rw [Nat.pow_eq]
      ring
    have whole : interval.scale 1 = interval := by simp [scale]
    have unscaled : (-Int.ofNat places).toNat = 0 := by simp
    have raised : (Int.ofNat places).toNat = places := rfl
    rw [Decimal.In, Decimal.numerator, Decimal.denominator, unscaled, raised, Nat.pow_zero, whole,
      point]
    exact inside
  | negSucc places =>
    have inside := contains_nearest? near
    have point : 4 * (multiple * 10 ^ 0 * Binary64.unitsPerOne) =
        multiple * (4 * Binary64.unitsPerOne) := by
      ring
    have lowered : (-Int.negSucc places).toNat = places + 1 := rfl
    have unraised : (Int.negSucc places).toNat = 0 := rfl
    rw [Decimal.In, Decimal.numerator, Decimal.denominator, lowered, unraised, point]
    exact inside

end Interval

namespace Binary64

variable {x : Binary64}

theorem significand_pos (notZero : ¬ x.isZero) : 0 < x.significand := by
  have some : x.code ≠ 0 := by simpa [isZero] using notZero
  by_contra none
  have nothing : x.significand = 0 := Nat.eq_zero_of_not_pos none
  have unshifted : ¬ 0 < x.shift := fun shifted => by
    have normal := significand_of_shift shifted
    rw [nothing] at normal
    exact absurd normal (by decide)
  have code := x.code_eq
  rw [nothing, Nat.eq_zero_of_not_pos unshifted, Nat.zero_mul] at code
  exact some code.symm

theorem middle_in_interval (notZero : ¬ x.isZero) :
    x.interval.low < x.interval.middle ∧ x.interval.middle < x.interval.high := by
  have place : 0 < Nat.pow 2 x.shift := Nat.two_pow_pos _
  have units : 0 < x.units := Nat.mul_pos (significand_pos notZero) place
  unfold interval
  dsimp only
  split <;> omega

/-- The search does not have to succeed: a number lies in its own interval. -/
theorem exactDecimal_in (notZero : ¬ x.isZero) : x.exactDecimal.In x.interval := by
  obtain ⟨places, unit, decimal⟩ : ∃ places : Nat, unitsPerOne = Nat.pow 2 places ∧
      x.exactDecimal = ⟨x.units * Nat.pow 5 places, -(places : Int)⟩ := ⟨1074, rfl, rfl⟩
  have tens : 10 ^ places = 5 ^ places * 2 ^ places := Nat.mul_pow 5 2 places
  have point : 4 * (x.exactDecimal.numerator * unitsPerOne) =
      x.interval.middle * x.exactDecimal.denominator := by
    have middle : x.interval.middle = 4 * x.units := rfl
    rw [decimal, unit, middle, Decimal.numerator, Decimal.denominator]
    simp only [Int.neg_neg, Int.toNat_natCast, Int.toNat_neg_natCast, Nat.pow_eq, tens]
    ring
  obtain ⟨lower, upper⟩ := middle_in_interval notZero
  rw [Decimal.In, point]
  exact Interval.contains_middle lower upper x.exactDecimal.denominator_pos

theorem shortest_in (tie : Tie) (notZero : ¬ x.isZero) : (x.shortest tie).In x.interval := by
  unfold shortest
  cases found : (List.range 24).findSome? fun (finer : Nat) =>
      x.interval.onGrid? tie (x.exponentAbove - finer) with
  | none => exact exactDecimal_in notZero
  | some decimal =>
    obtain ⟨finer, -, onGrid⟩ := List.exists_of_findSome?_eq_some found
    exact Interval.in_of_onGrid? onGrid

/-- The shortest decimal of a number rounds to its magnitude. -/
theorem ofRatio_shortest (tie : Tie) (finite : x.isFinite) (notZero : ¬ x.isZero) :
    ofRatio (x.shortest tie).numerator (x.shortest tie).denominator = x.magnitude :=
  ofRatio_of_contains finite (Decimal.denominator_pos _) (shortest_in tie notZero)

end Binary64

end ScriptFront
