import Mathlib.Tactic.IntervalCases
import ScriptFront.Number.Text
import ScriptFront.Proofs.Number.Literal
import ScriptFront.Proofs.Number.Rounding

/-!
# Texts of numbers

A positional text is a literal, and its value is the number nearest to the decimal that is written
(`Decimal.literalValue?_positional`). The plain text of a number is made of digits, a point, a sign
and the letters of `inf`, and since it shows the shortest decimal of the number, no two numbers have
one plain text (`Binary64.eq_of_plainText`).
-/
namespace ScriptFront

/-- A run of digits as it may stand before a point: no zero is in front of further digits. -/
structure IsWhole (digits : List Char) : Prop where
  digit : ∀ c ∈ digits, c.isDigit
  some : digits ≠ []
  leading : digits.head? = .some '0' → digits = ['0']

theorem isWhole_zero : IsWhole ['0'] := ⟨by simp, by simp, fun _ => rfl⟩

private theorem head?_append {digits : List Char} (some : digits ≠ []) (more : List Char) :
    (digits ++ more).head? = digits.head? := by
  rw [List.head?_append, Option.or_of_isSome (List.isSome_head?.mpr some)]

theorem head?_toDigits {value : Nat} (positive : 0 < value) :
    (Nat.toDigits 10 value).head? ≠ some '0' := by
  induction value using Nat.strongRecOn with
  | ind value ih =>
    rcases Nat.lt_or_ge value 10 with less | more
    · rw [Nat.toDigits_of_lt_base less]
      interval_cases value <;> decide
    · have first : (Nat.toDigits 10 value).head? = (Nat.toDigits 10 (value / 10)).head? := by
        rw [Nat.toDigits_of_base_le (by decide) more]
        exact head?_append Nat.toDigits_ne_nil _
      rw [first]
      exact ih (value / 10) (by omega) (by omega)

theorem isDigit_zeros (count : Nat) : ∀ c ∈ zeros count, c.isDigit := by
  intro c among
  rw [List.eq_of_mem_replicate among]
  decide

namespace Decimal

/-- The number nearest to a decimal. -/
def nearest (decimal : Decimal) : Binary64 := .ofRatio decimal.numerator decimal.denominator

section Digits

variable (decimal : Decimal)

theorem digits_eq : decimal.digits = Nat.toDigits 10 decimal.coefficient := Nat.toList_repr

theorem isDigit_digits : ∀ c ∈ decimal.digits, c.isDigit := by
  intro c among
  rw [digits_eq] at among
  exact Nat.isDigit_of_mem_toDigits (by decide) (by decide) among

theorem digits_ne_nil : decimal.digits ≠ [] := by
  rw [digits_eq]
  exact Nat.toDigits_ne_nil

@[simp] theorem digitsValue_digits : digitsValue decimal.digits = decimal.coefficient := by
  rw [digits_eq, digitsValue_toDigits]

theorem head?_digits {decimal : Decimal} (positive : 0 < decimal.coefficient) :
    decimal.digits.head? ≠ some '0' := by
  rw [digits_eq]
  exact head?_toDigits positive

end Digits

variable {decimal : Decimal}

/-- A decimal without digits after the point. -/
theorem positional_whole {places : Nat} (exponent : decimal.exponent = .ofNat places)
    (positive : 0 < decimal.coefficient) :
    ∃ whole, IsWhole whole ∧ digitsValue whole = decimal.numerator ∧ decimal.denominator = 1 ∧
      ∀ pointed, decimal.positional pointed = whole ++ if pointed then ['.', '0'] else [] := by
  refine ⟨decimal.digits ++ zeros places, ⟨?_, ?_, ?_⟩, ?_, ?_, ?_⟩
  · intro c among
    exact (List.mem_append.mp among).elim (decimal.isDigit_digits c) (isDigit_zeros places c)
  · simp [decimal.digits_ne_nil]
  · rw [head?_append decimal.digits_ne_nil]
    exact fun zero => absurd zero (head?_digits positive)
  · rw [digitsValue_append, digitsValue_digits, zeros, digitsValue_zeros, List.length_replicate,
      numerator, exponent]
    rfl
  · simp [denominator, exponent]
  · intro pointed
    simp [positional, exponent]

/-- With a negative exponent some digits stand after the point, zeros among them should there be too
few. -/
theorem positional_pointed {places : Nat} (exponent : decimal.exponent = .negSucc places)
    (positive : 0 < decimal.coefficient) :
    ∃ whole fraction, IsWhole whole ∧ (∀ c ∈ fraction, c.isDigit) ∧
      fraction.length = places + 1 ∧ digitsValue (whole ++ fraction) = decimal.numerator ∧
      ∀ pointed, decimal.positional pointed = whole ++ '.' :: fraction := by
  have numerator : decimal.numerator = decimal.coefficient := by
    rw [numerator, exponent]
    exact Nat.mul_one _
  rw [numerator]
  by_cases some : 0 < decimal.digits.length - (places + 1)
  · refine ⟨decimal.digits.take (decimal.digits.length - (places + 1)),
      decimal.digits.drop (decimal.digits.length - (places + 1)), ⟨?_, ?_, ?_⟩, ?_, ?_, ?_, ?_⟩
    · exact fun c among => decimal.isDigit_digits c (List.mem_of_mem_take among)
    · simp [decimal.digits_ne_nil]
      omega
    · rw [List.head?_take, if_neg (by omega)]
      exact fun zero => absurd zero (head?_digits positive)
    · exact fun c among => decimal.isDigit_digits c (List.mem_of_mem_drop among)
    · rw [List.length_drop]
      omega
    · rw [List.take_append_drop, digitsValue_digits]
    · intro pointed
      simp only [positional, exponent, some, ↓reduceIte]
  · refine ⟨['0'], zeros (places + 1 - decimal.digits.length) ++ decimal.digits, isWhole_zero,
      ?_, ?_, ?_, ?_⟩
    · intro c among
      exact (List.mem_append.mp among).elim (isDigit_zeros _ c) (decimal.isDigit_digits c)
    · simp only [zeros, List.length_append, List.length_replicate]
      omega
    · have none : digitsValue ['0'] = 0 := by decide
      rw [digitsValue_append, digitsValue_append, none, zeros, digitsValue_zeros,
        digitsValue_digits, Nat.zero_mul, Nat.zero_mul, Nat.zero_add, Nat.zero_add]
    · intro pointed
      simp only [positional, exponent, some, ↓reduceIte, List.singleton_append]

/-- Positional notation is a literal for the nearest number. -/
theorem literalValue?_positional (positive : 0 < decimal.coefficient) :
    literalValue? (decimal.positional false) = some decimal.nearest := by
  cases exponent : decimal.exponent with
  | ofNat places =>
    obtain ⟨whole, form, value, single, text⟩ := positional_whole exponent positive
    rw [text, if_neg (by decide), List.append_nil, literalValue?_whole form.digit form.some, value,
      nearest, single]
  | negSucc places =>
    obtain ⟨whole, fraction, form, digit, length, value, text⟩ :=
      positional_pointed exponent positive
    have some : fraction ≠ [] := List.ne_nil_of_length_eq_add_one length
    rw [text, literalValue?_pointed form.digit form.some digit some, value, length, nearest,
      denominator, exponent]
    rfl

end Decimal

namespace Binary64

variable {x y : Binary64}

theorem coefficient_pos (tie : Tie) (finite : x.isFinite) (notZero : ¬ x.isZero) :
    0 < (x.shortest tie).coefficient := by
  by_contra none
  have nothing : (x.shortest tie).numerator = 0 := by
    rw [Decimal.numerator, Nat.eq_zero_of_not_pos none, Nat.zero_mul]
  have rounded := ofRatio_shortest tie finite notZero
  rw [nothing, ofRatio_zero (Decimal.denominator_pos _)] at rounded
  have code : x.code = 0 := by rw [← magnitude_code, ← rounded]; decide
  exact notZero (by simp [isZero, code])

theorem isInfinite_iff : x.isInfinite ↔ x.code = topField * fractionCount := by
  simp [isInfinite]

theorem isInfinite_of_not_isFinite (notNaN : ¬ x.isNaN) (infinite : ¬ x.isFinite) :
    x.isInfinite := by
  have atMost : x.code ≤ topField * fractionCount := by simpa [isNaN] using notNaN
  have atLeast : topField * fractionCount ≤ x.code := by
    have top : ¬ x.code / fractionCount < topField := by
      rwa [isFinite, field, decide_eq_true_eq] at infinite
    exact (Nat.le_div_iff_mul_le (by decide)).mp (Nat.le_of_not_lt top)
  exact isInfinite_iff.mpr (Nat.le_antisymm atMost atLeast)

theorem not_isFinite_of_isInfinite (infinite : x.isInfinite) : ¬ x.isFinite := by
  simp [isFinite, field, isInfinite_iff.mp infinite, fractionCount]

/-- The plain text without the sign. -/
def plainDigits (x : Binary64) : List Char :=
  if x.isInfinite then "inf".toList
  else if x.isZero then ['0']
  else (x.shortest .up).positional false

theorem plainText_eq (notNaN : ¬ x.isNaN) : x.plainText = x.signed x.plainDigits := by
  unfold plainText plainDigits
  rw [if_neg notNaN]
  split
  · rfl
  · split <;> rfl

/-- The plain text of a finite number is a literal for its magnitude. -/
theorem literalValue?_plainDigits (finite : x.isFinite) :
    literalValue? x.plainDigits = some x.magnitude := by
  have notInfinite : ¬ x.isInfinite := fun infinite => not_isFinite_of_isInfinite infinite finite
  rw [plainDigits, if_neg notInfinite]
  split
  next zero =>
    have code : x.code = 0 := by simpa [isZero] using zero
    have none : digitsValue ['0'] = 0 := by decide
    rw [literalValue?_whole isWhole_zero.digit isWhole_zero.some, none, ofRatio_zero (by decide),
      magnitude, code]
    rfl
  next notZero =>
    rw [Decimal.literalValue?_positional (coefficient_pos .up finite notZero), Decimal.nearest,
      ofRatio_shortest .up finite notZero]

/-- A digit, or a letter of `inf`, begins the plain text after the sign. -/
theorem chars_plainDigits (notNaN : ¬ x.isNaN) :
    (∃ first rest, x.plainDigits = first :: rest ∧ (first.isDigit ∨ first = 'i')) ∧
      ∀ c ∈ x.plainDigits, c.isDigit ∨ c ∈ ['.', 'i', 'n', 'f'] := by
  by_cases finite : x.isFinite
  · obtain ⟨⟨first, rest, text, digit⟩, chars⟩ :=
      chars_of_literalValue? (literalValue?_plainDigits finite)
    refine ⟨⟨first, rest, text, .inl digit⟩, fun c among => ?_⟩
    exact (chars c among).imp_right fun point => by simp [point]
  · have text : x.plainDigits = "inf".toList := if_pos (isInfinite_of_not_isFinite notNaN finite)
    rw [text]
    exact ⟨⟨'i', _, rfl, .inr rfl⟩, fun c among => .inr (List.mem_cons_of_mem _ among)⟩

theorem chars_plainText (notNaN : ¬ x.isNaN) :
    (∃ first rest, x.plainText = first :: rest ∧ (first.isDigit ∨ first = '-' ∨ first = 'i')) ∧
      ∀ c ∈ x.plainText, c.isDigit ∨ c ∈ ['-', '.', 'i', 'n', 'f'] := by
  obtain ⟨⟨first, rest, text, begins⟩, chars⟩ := chars_plainDigits notNaN
  rw [plainText_eq notNaN, signed]
  split
  · refine ⟨⟨'-', _, rfl, .inr (.inl rfl)⟩, fun c among => ?_⟩
    rcases List.mem_cons.mp among with rfl | behind
    · exact .inr List.mem_cons_self
    · exact (chars c behind).imp_right (List.mem_cons_of_mem _)
  · exact ⟨⟨first, rest, text, begins.imp_right .inr⟩,
      fun c among => (chars c among).imp_right (List.mem_cons_of_mem _)⟩

theorem magnitude_of_plainDigits (notNaN : ¬ x.isNaN) (notNaN' : ¬ y.isNaN)
    (same : x.plainDigits = y.plainDigits) : x.magnitude = y.magnitude := by
  have unread {z : Binary64} (infinite : z.isInfinite) : literalValue? z.plainDigits = none := by
    rw [plainDigits, if_pos infinite]
    rfl
  by_cases finite : x.isFinite <;> by_cases finite' : y.isFinite
  · have read := literalValue?_plainDigits finite
    rw [same, literalValue?_plainDigits finite'] at read
    exact (Option.some.inj read).symm
  · have read := literalValue?_plainDigits finite
    rw [same, unread (isInfinite_of_not_isFinite notNaN' finite')] at read
    contradiction
  · have read := literalValue?_plainDigits finite'
    rw [← same, unread (isInfinite_of_not_isFinite notNaN finite)] at read
    contradiction
  · have code := isInfinite_iff.mp (isInfinite_of_not_isFinite notNaN finite)
    have code' := isInfinite_iff.mp (isInfinite_of_not_isFinite notNaN' finite')
    rw [magnitude, magnitude, code, code']

/-- No two numbers have one plain text. -/
theorem eq_of_plainText (notNaN : ¬ x.isNaN) (notNaN' : ¬ y.isNaN)
    (same : x.plainText = y.plainText) : x = y := by
  obtain ⟨⟨first, rest, text, begins⟩, -⟩ := chars_plainDigits notNaN
  obtain ⟨⟨first', rest', text', begins'⟩, -⟩ := chars_plainDigits notNaN'
  have noSign {c : Char} (begins : c.isDigit ∨ c = 'i') : c ≠ '-' := by
    rintro rfl
    simp at begins
  rw [plainText_eq notNaN, plainText_eq notNaN', signed, signed] at same
  cases sign : x.isNegative <;> cases sign' : y.isNegative <;>
    simp only [sign, sign', Bool.false_eq_true, ↓reduceIte] at same
  · exact eq_of_magnitude (magnitude_of_plainDigits notNaN notNaN' same) (sign.trans sign'.symm)
  · rw [text] at same
    exact absurd (List.cons.inj same).1 (noSign begins)
  · rw [text'] at same
    exact absurd (List.cons.inj same).1.symm (noSign begins')
  · exact eq_of_magnitude (magnitude_of_plainDigits notNaN notNaN' (List.cons.inj same).2)
      (sign.trans sign'.symm)

end Binary64

end ScriptFront
