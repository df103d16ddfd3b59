import Mathlib.Algebra.Ring.Nat
import Mathlib.Data.List.TakeWhile
import ScriptFront.Number.Literal

/-!
# Values of literals

The value of a run of digits follows the run from left to right, so that it can be worked out in
parts. A run of digits is a literal, with a point and a further run behind it or not, and its value
is the quotient that is written.
-/
namespace ScriptFront

theorem digitsValue_eq (digits : List Char) : digitsValue digits = Nat.ofDigitChars 10 digits 0 :=
  Nat.ofDigitChars_eq_foldl.symm

theorem digitsValue_append (digits more : List Char) :
    digitsValue (digits ++ more) = digitsValue digits * 10 ^ more.length + digitsValue more := by
  rw [digitsValue_eq, digitsValue_eq, digitsValue_eq, Nat.ofDigitChars_append,
    Nat.ofDigitChars_eq_ofDigitChars_zero, Nat.mul_comm]

@[simp] theorem digitsValue_zeros (count : Nat) : digitsValue (List.replicate count '0') = 0 := by
  rw [digitsValue_eq, Nat.ofDigitChars_replicate_zero, Nat.mul_zero]

@[simp] theorem digitsValue_toDigits (value : Nat) :
    digitsValue (Nat.toDigits 10 value) = value := by
  rw [digitsValue_eq, Nat.ofDigitChars_ten_toDigits]

section Written

variable (value : Nat)

theorem toList_toString : (toString value).toList = Nat.toDigits 10 value :=
  Nat.toList_repr

theorem toString_ne_nil : (toString value).toList ≠ [] := by
  rw [toList_toString]
  exact Nat.toDigits_ne_nil

theorem isDigit_toString : ∀ c ∈ (toString value).toList, c.isDigit := by
  rw [toList_toString]
  exact fun c => Nat.isDigit_of_mem_toDigits (by decide) (by decide)

theorem digitsValue_toString : digitsValue (toString value).toList = value := by
  rw [toList_toString, digitsValue_toDigits]

end Written

section Literals

variable {digits places : List Char}

private theorem takeWhile_digits (all : ∀ c ∈ digits, c.isDigit) (rest : List Char) :
    (digits ++ rest).takeWhile Char.isDigit = digits ++ rest.takeWhile Char.isDigit :=
  List.takeWhile_append_of_pos all

private theorem dropWhile_digits (all : ∀ c ∈ digits, c.isDigit) (rest : List Char) :
    (digits ++ rest).dropWhile Char.isDigit = rest.dropWhile Char.isDigit :=
  List.dropWhile_append_of_pos all

theorem literalValue?_whole (all : ∀ c ∈ digits, c.isDigit) (some : digits ≠ []) :
    literalValue? digits = .some (.ofRatio (digitsValue digits) 1) := by
  have taken := takeWhile_digits all []
  have left := dropWhile_digits all []
  rw [List.append_nil] at taken left
  obtain ⟨first, rest, rfl⟩ := List.exists_cons_of_ne_nil some
  simp only [literalValue?, taken, left, List.takeWhile_nil, List.append_nil, List.dropWhile_nil]

theorem literalValue?_pointed (all : ∀ c ∈ digits, c.isDigit) (some : digits ≠ [])
    (after : ∀ c ∈ places, c.isDigit) (someAfter : places ≠ []) :
    literalValue? (digits ++ '.' :: places) =
      .some (.ofRatio (digitsValue (digits ++ places)) (10 ^ places.length)) := by
  have taken := takeWhile_digits all ('.' :: places)
  have left := dropWhile_digits all ('.' :: places)
  have point : ('.' : Char).isDigit = false := by decide
  simp only [List.takeWhile_cons, List.dropWhile_cons, point, Bool.false_eq_true, ↓reduceIte,
    List.append_nil] at taken left
  have admitted : (!places.isEmpty && places.all Char.isDigit) = true := by
    simpa [List.isEmpty_iff] using ⟨someAfter, after⟩
  obtain ⟨first, rest, rfl⟩ := List.exists_cons_of_ne_nil some
  simp only [literalValue?, taken, left, admitted, ↓reduceIte, Nat.pow_eq]

/-- Literals begin with a digit and have nothing but digits and a point in them. -/
theorem chars_of_literalValue? {text : List Char} {value : Binary64}
    (read : literalValue? text = some value) :
    (∃ first rest, text = first :: rest ∧ first.isDigit) ∧ ∀ c ∈ text, c.isDigit ∨ c = '.' := by
  have whole : ∀ c ∈ text.takeWhile Char.isDigit, c.isDigit := fun c => List.mem_takeWhile_imp
  have parts := text.takeWhile_append_dropWhile (p := Char.isDigit)
  unfold literalValue? at read
  generalize text.takeWhile Char.isDigit = taken at *
  generalize text.dropWhile Char.isDigit = left at *
  subst parts
  cases taken with
  | nil => simp at read
  | cons first rest =>
    have digit := whole first List.mem_cons_self
    cases left with
    | nil =>
      exact ⟨⟨first, rest, List.append_nil _, digit⟩,
        fun c among => .inl (whole c (by simpa using among))⟩
    | cons point places =>
      obtain rfl : point = '.' := by
        by_contra other
        simp [other] at read
      by_cases admitted : !places.isEmpty && places.all Char.isDigit
      · simp only [Bool.and_eq_true, List.all_eq_true] at admitted
        refine ⟨⟨first, _, rfl, digit⟩, fun c among => ?_⟩
        rcases List.mem_append.mp among with before | behind
        · exact .inl (whole c before)
        rcases List.mem_cons.mp behind with point | after
        · exact .inr point
        · exact .inl (admitted.2 c after)
      · simp [admitted] at read

end Literals

end ScriptFront
