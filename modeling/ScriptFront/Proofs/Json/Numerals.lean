import ScriptFront.Proofs.Json.Grammar

/-!
# Numbers in JSON

The exchange text of a finite number is a JSON number, and the number nearest to what is written is
the number itself (`Spells.exchangeText`).
-/
namespace ScriptFront

/-- A decimal with some of its digits after the point. -/
theorem Decimal.nearest_places (value places : Nat) :
    (⟨value, 0 - places⟩ : Decimal).nearest = .ofRatio value (10 ^ places) := by
  have numerator : (⟨value, 0 - places⟩ : Decimal).numerator = value := by
    simp [Decimal.numerator]
  have denominator : (⟨value, 0 - places⟩ : Decimal).denominator = 10 ^ places := by
    simp [Decimal.denominator]
  rw [nearest, numerator, denominator]

namespace Binary64

variable {x : Binary64}

theorem negate_magnitude (negative : x.isNegative) : x.magnitude.negate = x := by
  have small := x.code_lt
  have places : signPlace < UInt64.size := by decide
  have sign : x.magnitude.isNegative = false := by
    have bits : (UInt64.ofNat x.code).toNat = x.code := UInt64.toNat_ofNat_of_lt' (by omega)
    simp only [isNegative, magnitude, ofCode, Bool.false_eq_true, ↓reduceIte, bits,
      decide_eq_false_iff_not]
    omega
  have whole := x.ofCode_code
  rw [negate, sign, magnitude_code]
  rwa [negative] at whole

end Binary64

namespace Json

variable {decimal : Decimal}

theorem isDigits_toString (value : Nat) : IsDigits (toString value).toList :=
  ⟨toString_ne_nil value, isDigit_toString value⟩

theorem isWhole_toString (value : Nat) : IsWhole (toString value).toList := by
  obtain ⟨some, digit⟩ := isDigits_toString value
  refine ⟨digit, some, fun zero => ?_⟩
  rcases Nat.eq_zero_or_pos value with rfl | positive
  · rfl
  · rw [toList_toString] at zero
    exact absurd zero (head?_toDigits positive)

theorem numeral_pointed {whole places : List Char} (isWhole : IsWhole whole)
    (isDigits : IsDigits places) :
    ∃ written, Numeral (whole ++ '.' :: places) written ∧
      written.nearest = .ofRatio (digitsValue (whole ++ places)) (10 ^ places.length) := by
  have numeral := Numeral.of isWhole (.places isDigits) .none
  rw [List.append_nil] at numeral
  exact ⟨_, numeral, Decimal.nearest_places ..⟩

theorem numeral_positional (positive : 0 < decimal.coefficient) :
    ∃ written, Numeral (decimal.positional true) written ∧ written.nearest = decimal.nearest := by
  cases exponent : decimal.exponent with
  | ofNat places =>
    obtain ⟨whole, form, value, single, text⟩ := Decimal.positional_whole exponent positive
    obtain ⟨written, numeral, nearest⟩ := numeral_pointed form (by simp [IsDigits] : IsDigits ['0'])
    have zero : digitsValue ['0'] = 0 := by decide
    refine ⟨written, by rw [text]; exact numeral, ?_⟩
    rw [nearest, Decimal.nearest, digitsValue_append, zero, value, single]
    exact Binary64.ofRatio_congr (Nat.pow_pos (by decide)) (by decide) (by simp)
  | negSucc places =>
    obtain ⟨whole, fraction, form, digit, length, value, text⟩ :=
      Decimal.positional_pointed exponent positive
    obtain ⟨written, numeral, nearest⟩ :=
      numeral_pointed form ⟨List.ne_nil_of_length_eq_add_one length, digit⟩
    refine ⟨written, by rw [text]; exact numeral, ?_⟩
    rw [nearest, Decimal.nearest, value, length, Decimal.denominator, exponent]
    rfl

theorem power_magnitude (decimal : Decimal) :
    Power ('e' :: match decimal.magnitude with
      | .ofNat size => '+' :: (toString size).toList
      | .negSucc size => '-' :: (toString (size + 1)).toList) decimal.magnitude := by
  cases decimal.magnitude with
  | ofNat size =>
    have power := Power.raised (.inl rfl : 'e' = 'e' ∨ 'e' = 'E') (isDigits_toString size)
    rwa [digitsValue_toString] at power
  | negSucc size =>
    have power := Power.lowered (.inl rfl : 'e' = 'e' ∨ 'e' = 'E') (isDigits_toString (size + 1))
    rwa [digitsValue_toString] at power

/-- One digit stands before the point, so that the power of ten is that of the first digit. -/
theorem numeral_scientific (positive : 0 < decimal.coefficient) :
    Numeral decimal.scientific decimal := by
  have power := power_magnitude decimal
  have value := decimal.digitsValue_digits
  have digit := decimal.isDigit_digits
  have lead := Decimal.head?_digits positive
  have place : decimal.magnitude = decimal.exponent + decimal.digits.length - 1 := rfl
  unfold Decimal.scientific
  cases found : decimal.digits with
  | nil => exact absurd found decimal.digits_ne_nil
  | cons first rest =>
    rw [found] at value digit lead place
    obtain ⟨digitFirst, digitRest⟩ := List.forall_mem_cons.mp digit
    have isWhole : IsWhole [first] :=
      ⟨by simpa using digitFirst, by simp, fun zero => absurd zero (by simpa using lead)⟩
    cases rest with
    | nil =>
      have numeral := Numeral.of isWhole .none power
      have exponent : decimal.magnitude - ([] : List Char).length = decimal.exponent := by
        rw [place]
        simp
      rwa [List.append_nil, value, exponent] at numeral
    | cons second rest =>
      have numeral := Numeral.of isWhole (.places ⟨by simp, digitRest⟩) power
      have exponent : decimal.magnitude - (second :: rest).length = decimal.exponent := by
        rw [place]
        simp only [List.length_cons]
        omega
      rwa [List.singleton_append, List.singleton_append, value, exponent] at numeral

namespace Spells

variable {x : Binary64}

theorem signed {body after : List Char} (isNumeral : Numeral body decimal)
    (nearest : decimal.nearest = x.magnitude) :
    Spells (.value (.number x)) (x.signed body ++ after) after := by
  by_cases negative : x.isNegative
  · rw [Binary64.signed, if_pos negative, ← Binary64.negate_magnitude negative, ← nearest]
    exact .negative isNumeral
  · rw [Binary64.signed, if_neg negative, ← Binary64.magnitude_of_notNegative negative, ← nearest]
    exact .positive isNumeral

/-- A natural is a number without a point. -/
theorem natural (value : Nat) (after : List Char) :
    Spells (.value (.number (.ofRatio value 1))) ((toString value).toList ++ after) after := by
  have numeral := Numeral.of (isWhole_toString value) .none .none
  simp only [List.append_nil, digitsValue_toString] at numeral
  have nearest := Decimal.nearest_places value 0
  rw [Nat.pow_zero] at nearest
  rw [← nearest]
  exact .positive numeral

/-- A finite number can be read back from its exchange text. -/
theorem exchangeText (finite : x.isFinite) (after : List Char) :
    Spells (.value (.number x)) (x.exchangeText ++ after) after := by
  unfold Binary64.exchangeText
  split
  next zero =>
    obtain ⟨written, numeral, nearest⟩ :=
      numeral_pointed isWhole_zero (by simp [IsDigits] : IsDigits ['0'])
    have none : digitsValue (['0'] ++ ['0']) = 0 := by decide
    have code : x.code = 0 := by simpa [Binary64.isZero] using zero
    refine signed numeral ?_
    rw [nearest, none, Binary64.ofRatio_zero (by decide), Binary64.magnitude, code]
    rfl
  next notZero =>
    have positive := Binary64.coefficient_pos .even finite notZero
    have rounded := Binary64.ofRatio_shortest .even finite notZero
    dsimp only
    split
    · obtain ⟨written, numeral, nearest⟩ := numeral_positional positive
      exact signed numeral (nearest.trans rounded)
    · exact signed (numeral_scientific positive) rounded

end Spells

end Json

end ScriptFront
