import Mathlib.Data.List.DropRight
import ScriptFront.Json.Skip
import ScriptFront.Proofs.Json.Strings

/-!
# Passing over values of the grammar

A value is passed over whatever it says and however deep it is nested: what is open is kept in a
list, so each part of the grammar takes that list back to where it was (`Spells.passes`).
-/
namespace ScriptFront.Json

/-- What a number would go on with. -/
def prolongs (c : Char) : Bool := c.isDigit || c = '.' || isExponentMark c

/-- What comes behind a value with the white space around it. -/
structure Closes (after : List Char) : Prop where
  notBlank : Halts isBlank after
  notNumber : Halts prolongs after

theorem closes_nil : Closes [] := ⟨halts_nil, halts_nil⟩

theorem closes_cons {c : Char} {rest : List Char} (known : c ∈ [',', ']', '\x7d']) :
    Closes (c :: rest) := by
  simp only [List.mem_cons, List.not_mem_nil, or_false] at known
  rcases known with rfl | rfl | rfl <;> exact ⟨halts_cons.mpr rfl, halts_cons.mpr rfl⟩

namespace Reader

variable {text after : List Char}

theorem run_word (expected after : List Char) :
    (word expected).run (expected ++ after) = .ok ((), after) := by
  induction expected with
  | nil => rfl
  | cons c expected ih => simp [word, ih]

@[simp] theorem run_takeWhile (p : Char → Bool) (text : List Char) :
    (takeWhile p).run text = .ok (text.takeWhile p, text.dropWhile p) := rfl

section Numbers

variable {fraction places power : List Char} {exponent : Int}

theorem halts_digit (halts : Halts prolongs after) : Halts Char.isDigit after := by
  intro c first
  have free := halts c first
  simp only [prolongs, Bool.or_eq_false_iff] at free
  exact free.1.1

theorem startsWithDigit_of_halts (halts : Halts Char.isDigit text) :
    startsWithDigit text = false := by
  cases text with
  | nil => rfl
  | cons c rest => simpa [startsWithDigit] using halts

theorem startsWithDigit_digits {digits : List Char} (isDigits : IsDigits digits)
    (after : List Char) : startsWithDigit (digits ++ after) = true := by
  obtain ⟨first, rest, rfl⟩ := List.exists_cons_of_ne_nil isDigits.1
  simpa [startsWithDigit] using isDigits.2 first List.mem_cons_self

theorem not_sign_digits {digits : List Char} (isDigits : IsDigits digits) (after : List Char) :
    Option.any isSign (digits ++ after).head? = false := by
  obtain ⟨first, rest, rfl⟩ := List.exists_cons_of_ne_nil isDigits.1
  by_contra sign
  have digit := isDigits.2 first List.mem_cons_self
  simp only [List.cons_append, List.head?_cons, Option.any_some, isSign, Bool.not_eq_false,
    Bool.or_eq_true, decide_eq_true_eq] at sign
  rcases sign with rfl | rfl <;> simp at digit

theorem halts_power (isPower : Power power exponent) (halts : Halts prolongs after) :
    Halts Char.isDigit (power ++ after) ∧ (power ++ after).head? ≠ some '.' := by
  cases isPower with
  | none =>
    refine ⟨halts_digit halts, fun point => ?_⟩
    have free := halts '.' point
    simp [prolongs] at free
  | plain isMark | raised isMark | lowered isMark => rcases isMark with rfl | rfl <;> simp

theorem halts_fraction (isFraction : Fraction fraction places) (isPower : Power power exponent)
    (halts : Halts prolongs after) : Halts Char.isDigit (fraction ++ (power ++ after)) := by
  cases isFraction with
  | none => exact (halts_power isPower halts).1
  | places => simp

theorem skipExponent_run (isPower : Power power exponent) (halts : Halts prolongs after) :
    skipExponent.run (power ++ after) = .ok ((), after) := by
  have ends {digits : List Char} (isDigits : IsDigits digits) :
      (digits ++ after).dropWhile Char.isDigit = after :=
    dropWhile_stretch isDigits.2 (halts_digit halts)
  have isMark {mark : Char} (known : mark = 'e' ∨ mark = 'E') : isExponentMark mark = true := by
    rcases known with rfl | rfl <;> rfl
  cases isPower with
  | none =>
    have noMark : Option.any isExponentMark after.head? = false := by
      cases after with
      | nil => rfl
      | cons c rest =>
        have free := halts_cons.mp halts
        simp only [prolongs, Bool.or_eq_false_iff] at free
        exact free.2
    simp [skipExponent, noMark]
  | plain mark isDigits =>
    have noSign := not_sign_digits isDigits after
    simp [skipExponent, isMark mark, noSign, startsWithDigit_digits isDigits, ends isDigits,
      -List.head?_append]
  | raised mark isDigits | lowered mark isDigits =>
    simp [skipExponent, isMark mark, isSign, startsWithDigit_digits isDigits, ends isDigits]

/-- Passes over what follows the whole part of a number. -/
def skipFraction : Reader Unit := do
  if (← ahead).head? = some '.' then do
    drop 1
    if startsWithDigit (← ahead) then do
      let _ ← takeWhile Char.isDigit
    else failUpon .invalidNumber
  skipExponent

theorem skipFraction_run (isFraction : Fraction fraction places) (isPower : Power power exponent)
    (halts : Halts prolongs after) :
    skipFraction.run (fraction ++ (power ++ after)) = .ok ((), after) := by
  obtain ⟨ends, noPoint⟩ := halts_power isPower halts
  have last := skipExponent_run isPower halts
  cases isFraction with
  | none => simp [skipFraction, noPoint, last, -List.head?_append]
  | places isDigits =>
    simp [skipFraction, startsWithDigit_digits isDigits, dropWhile_stretch isDigits.2 ends, last]

theorem skipNumber_zero (noDigit : startsWithDigit text = false) :
    skipNumber.run ('0' :: text) = skipFraction.run text := by
  simp [skipNumber, skipFraction, noDigit]

theorem skipNumber_digit {first : Char} (digit : first.isDigit) (notZero : first ≠ '0')
    (text : List Char) :
    skipNumber.run (first :: text) = skipFraction.run (text.dropWhile Char.isDigit) := by
  simp [skipNumber, skipFraction, notZero, startsWithDigit, digit]

theorem skipScalar_digit {first : Char} (digit : first.isDigit) (text : List Char) :
    skipScalar.run (first :: text) = skipNumber.run (first :: text) := by
  have other {c : Char} : c.isDigit = false → first ≠ c := ne_of_digit digit
  simp [skipScalar, startsWithDigit, digit, other]

theorem skipNumber_run {numeral : List Char} {decimal : Decimal}
    (isNumeral : Numeral numeral decimal) (halts : Halts prolongs after) :
    skipNumber.run (numeral ++ after) = .ok ((), after) := by
  cases isNumeral with
  | of isWhole isFraction isPower =>
  have ends := halts_fraction isFraction isPower halts
  rw [List.append_assoc, List.append_assoc]
  obtain ⟨first, more, rfl⟩ := List.exists_cons_of_ne_nil isWhole.some
  obtain ⟨digit, digits⟩ := List.forall_mem_cons.mp isWhole.digit
  rw [List.cons_append]
  by_cases zero : first = '0'
  · obtain ⟨-, rfl⟩ := List.cons.inj (isWhole.leading (by simp [zero]))
    subst zero
    rw [List.nil_append, skipNumber_zero (startsWithDigit_of_halts ends)]
    exact skipFraction_run isFraction isPower halts
  · rw [skipNumber_digit digit zero, dropWhile_stretch digits ends]
    exact skipFraction_run isFraction isPower halts

theorem halts_blanks {blanks : List Char} (blank : ∀ c ∈ blanks, isBlank c)
    (halts : Halts prolongs after) : Halts prolongs (blanks ++ after) := by
  cases blanks with
  | nil => exact halts
  | cons c rest =>
    have known := blank c List.mem_cons_self
    simp only [isBlank, Bool.or_eq_true, decide_eq_true_eq] at known
    rw [List.cons_append, halts_cons]
    rcases known with ((rfl | rfl) | rfl) | rfl <;> rfl

end Numbers

theorem colon_run {blanks : List Char} (blank : ∀ c ∈ blanks, isBlank c) (after : List Char) :
    colon.run (blanks ++ ':' :: after) = .ok ((), after) := by
  have found : (blanks ++ ':' :: after).dropWhile isBlank = ':' :: after :=
    dropWhile_stretch blank (by simp [isBlank])
  simp [colon, found]

section Steps

/-- A step in front of a value, without the evidence that it comes to an end. -/
theorem skipFrom_value (opened : List Enclosure) (text : List Char) :
    skipFrom false opened text =
      match text.dropWhile isBlank with
      | [] => .error (.before .endInValue [])
      | c :: rest =>
        match Enclosure.ofOpening? c with
        | none =>
          match skipScalar.run (c :: rest) with
          | .ok (_, after) => skipFrom true opened after
          | .error fault => .error fault
        | some enclosure =>
          match rest.dropWhile isBlank with
          | [] => .error (.before enclosure.unfinished [])
          | d :: after =>
            if d = enclosure.closing then skipFrom true opened after
            else
              match (skipToPart enclosure).run (d :: after) with
              | .ok (_, part) => skipFrom false (enclosure :: opened) part
              | .error fault => .error fault := by
  rw [skipFrom]
  split
  next none => simp only [none]
  next c rest first =>
    simp only [first]
    cases Enclosure.ofOpening? c with
    | none =>
      dsimp only
      split <;> simp only [*]
    | some enclosure =>
      dsimp only
      split
      next none => simp only [none]
      next d after second =>
        simp only [second]
        split
        next => rfl
        next => split <;> simp only [*]

/-- The same for a step behind a value. -/
theorem skipFrom_ended (enclosure : Enclosure) (outer : List Enclosure) (text : List Char) :
    skipFrom true (enclosure :: outer) text =
      match text.dropWhile isBlank with
      | [] => .error (.before enclosure.unfinished [])
      | c :: rest =>
        if c = ',' then
          match (skipToPart enclosure).run rest with
          | .ok (_, part) => skipFrom false (enclosure :: outer) part
          | .error fault => .error fault
        else if c = enclosure.closing then skipFrom true outer rest
        else .error (.upon enclosure.unseparated (c :: rest)) := by
  rw [skipFrom]
  split
  next none => simp only [none]
  next c rest first =>
    simp only [first]
    split
    next => split <;> simp only [*]
    next => rfl

theorem skipFrom_done (text : List Char) : skipFrom true [] text = .ok text := by
  rw [skipFrom]

theorem skipFrom_blanks (opened : List Enclosure) (text : List Char) :
    skipFrom false opened (text.dropWhile isBlank) = skipFrom false opened text := by
  rw [skipFrom_value, List.dropWhile_idempotent, ← skipFrom_value]

theorem skipKey_blanks (text : List Char) :
    skipKey.run (text.dropWhile isBlank) = skipKey.run text := by
  simp only [skipKey, run_bind, run_next, List.dropWhile_idempotent]

theorem skipFrom_scalar {c : Char} {rest after : List Char} (notBlank : isBlank c = false)
    (notOpening : Enclosure.ofOpening? c = none)
    (passed : skipScalar.run (c :: rest) = .ok ((), after)) (opened : List Enclosure) :
    skipFrom false opened (c :: rest) = skipFrom true opened after := by
  simp [skipFrom_value, notBlank, notOpening, passed]

end Steps

section Parts

variable {enclosure : Enclosure} {text rest after : List Char}

/-- A part of a list or an object is passed over, and white space behind it is left. -/
def PassesPart (enclosure : Enclosure) (text after : List Char) : Prop :=
  ∃ part behind, (∀ c ∈ behind, isBlank c) ∧ (skipToPart enclosure).run text = .ok ((), part) ∧
    ∀ outer, skipFrom false (enclosure :: outer) part =
      skipFrom true (enclosure :: outer) (behind ++ after)

/-- What is left of a list or an object is passed over together with its end. -/
def PassesRest (enclosure : Enclosure) (text after : List Char) : Prop :=
  ∃ part, (skipToPart enclosure).run text = .ok ((), part) ∧
    ∀ outer, skipFrom false (enclosure :: outer) part = skipFrom true outer after

theorem dropWhile_closing {blanks : List Char} (blank : ∀ c ∈ blanks, isBlank c)
    (enclosure : Enclosure) (after : List Char) :
    (blanks ++ enclosure.closing :: after).dropWhile isBlank = enclosure.closing :: after := by
  have notBlank : isBlank enclosure.closing = false := by cases enclosure <;> rfl
  exact dropWhile_stretch blank (halts_cons.mpr notBlank)

theorem PassesPart.last (last : PassesPart enclosure text (enclosure.closing :: after)) :
    PassesRest enclosure text after := by
  obtain ⟨part, behind, blank, begun, passed⟩ := last
  refine ⟨part, begun, fun outer => ?_⟩
  have notComma : enclosure.closing ≠ ',' := by cases enclosure <;> decide
  rw [passed, skipFrom_ended, dropWhile_closing blank]
  simp only [notComma, ↓reduceIte]

theorem PassesPart.next (part : PassesPart enclosure text (',' :: rest))
    (more : PassesRest enclosure rest after) : PassesRest enclosure text after := by
  obtain ⟨part, behind, blank, begun, passed⟩ := part
  obtain ⟨onward, begunNext, passedRest⟩ := more
  refine ⟨part, begun, fun outer => ?_⟩
  have comma : (behind ++ ',' :: rest).dropWhile isBlank = ',' :: rest :=
    dropWhile_stretch blank (by simp [isBlank])
  rw [passed, skipFrom_ended, comma]
  simp only [↓reduceIte, begunNext, passedRest]

theorem PassesRest.blanks (more : PassesRest enclosure text after) :
    PassesRest enclosure (text.dropWhile isBlank) after := by
  obtain ⟨part, begun, passed⟩ := more
  cases enclosure with
  | list =>
    obtain rfl : text = part := by simpa [skipToPart] using begun
    exact ⟨_, rfl, fun outer => by rw [skipFrom_blanks, passed]⟩
  | object => exact ⟨part, by rw [skipToPart, skipKey_blanks]; exact begun, passed⟩

theorem skipFrom_open (enclosure : Enclosure) {c d : Char}
    (opening : Enclosure.ofOpening? c = some enclosure)
    (notBlank : isBlank c = false) (first : text.dropWhile isBlank = d :: rest)
    (some : d ≠ enclosure.closing) (more : PassesRest enclosure text after)
    (opened : List Enclosure) :
    skipFrom false opened (c :: text) = skipFrom true opened after := by
  obtain ⟨part, begun, passed⟩ := more.blanks
  rw [first] at begun
  rw [skipFrom_value]
  simp [notBlank, opening, first, some, begun, passed]

theorem skipFrom_empty (enclosure : Enclosure) {c : Char}
    (opening : Enclosure.ofOpening? c = some enclosure)
    (notBlank : isBlank c = false) (none : text.dropWhile isBlank = enclosure.closing :: after)
    (opened : List Enclosure) :
    skipFrom false opened (c :: text) = skipFrom true opened after := by
  rw [skipFrom_value]
  simp [notBlank, opening, none]

/-- What passing over does at each part of the grammar. -/
def Passes : Part → List Char → List Char → Prop
  | .value _, text, after => Halts prolongs after →
    ∀ opened, skipFrom false opened text = skipFrom true opened after
  | .padded _, text, after => Halts prolongs after →
    ∃ behind, (∀ c ∈ behind, isBlank c) ∧
      ∀ opened, skipFrom false opened text = skipFrom true opened (behind ++ after)
  | .items [], text, after => text.dropWhile isBlank = ']' :: after
  | .items (_ :: _), text, after =>
    (∃ c rest, text.dropWhile isBlank = c :: rest ∧ c ≠ ']') ∧ PassesRest .list text after
  | .member _ _, text, after => (∃ rest, text.dropWhile isBlank = '"' :: rest) ∧
    (Halts prolongs after → PassesPart .object text after)
  | .members [], text, after => text.dropWhile isBlank = '\x7d' :: after
  | .members (_ :: _), text, after =>
    (∃ rest, text.dropWhile isBlank = '"' :: rest) ∧ PassesRest .object text after

end Parts

end Reader

open Reader

theorem Spells.passes {part : Part} {text after : List Char} (spells : Spells part text after) :
    Passes part text after := by
  induction spells with
  | null => exact fun _ => skipFrom_scalar rfl rfl (run_word "null".toList _)
  | @bool value =>
    cases value with
    | false => exact fun _ => skipFrom_scalar rfl rfl (run_word "false".toList _)
    | true => exact fun _ => skipFrom_scalar rfl rfl (run_word "true".toList _)
  | @positive numeral _ after isNumeral =>
    intro halts
    obtain ⟨c, rest, text, digit⟩ := isNumeral.first
    have other {d : Char} : d.isDigit = false → c ≠ d := ne_of_digit digit
    have passed := skipNumber_run isNumeral halts
    rw [text, List.cons_append] at passed ⊢
    rw [← skipScalar_digit digit] at passed
    exact skipFrom_scalar (by simp [isBlank, other]) (by simp [Enclosure.ofOpening?, other]) passed
  | negative isNumeral =>
    intro halts
    apply skipFrom_scalar rfl rfl
    rw [← skipNumber_run isNumeral halts]
    rfl
  | string inscribes =>
    obtain ⟨found, passed, -⟩ := stringOnto_inscribed inscribes false []
    intro _
    apply skipFrom_scalar rfl rfl
    simp [skipScalar, Reader.string, passed]
  | @array items text after inside ih =>
    intro _
    cases items with
    | nil => exact skipFrom_empty .list rfl rfl ih
    | cons =>
      obtain ⟨⟨c, rest, first, some⟩, more⟩ := ih
      exact skipFrom_open .list rfl rfl first some more
  | @object members text after inside ih =>
    intro _
    cases members with
    | nil => exact skipFrom_empty .object rfl rfl ih
    | cons =>
      obtain ⟨⟨rest, first⟩, more⟩ := ih
      exact skipFrom_open .object rfl rfl first (by decide) more
  | @padded datum before text behind after blankBefore blankBehind inside ih =>
    intro halts
    refine ⟨behind, blankBehind, fun opened => ?_⟩
    rw [← skipFrom_blanks, inside.dropWhile_value blankBefore]
    exact ih (halts_blanks blankBehind halts) opened
  | noItems blank => exact dropWhile_closing blank .list _
  | lastItem last ih =>
    obtain ⟨behind, blank, passed⟩ := ih (by simp [prolongs, isExponentMark])
    have part : PassesPart .list _ _ :=
      ⟨_, behind, blank, rfl, fun outer => passed (.list :: outer)⟩
    exact ⟨last.first_padded, part.last⟩
  | nextItem first more ihFirst ihMore =>
    obtain ⟨behind, blank, passed⟩ := ihFirst (by simp [prolongs, isExponentMark])
    have part : PassesPart .list _ _ :=
      ⟨_, behind, blank, rfl, fun outer => passed (.list :: outer)⟩
    exact ⟨first.first_padded, part.next ihMore.2⟩
  | @member datum before between key text rest after blankBefore blankBetween inscribes value ih =>
    have quote : (before ++ '"' :: text).dropWhile isBlank = '"' :: text :=
      dropWhile_stretch blankBefore (by simp [isBlank])
    refine ⟨⟨text, quote⟩, fun halts => ?_⟩
    obtain ⟨behind, blank, passed⟩ := ih halts
    refine ⟨rest, behind, blank, ?_, fun outer => passed (.object :: outer)⟩
    obtain ⟨found, keyRead, -⟩ := stringOnto_inscribed inscribes false []
    simp [skipToPart, skipKey, quote, Reader.string, keyRead, colon_run blankBetween]
  | noMembers blank => exact dropWhile_closing blank .object _
  | lastMember last ih => exact ⟨ih.1, (ih.2 (by simp [prolongs, isExponentMark])).last⟩
  | nextMember first more ihFirst ihMore =>
    exact ⟨ihFirst.1, (ihFirst.2 (by simp [prolongs, isExponentMark])).next ihMore.2⟩

/-- A value is passed over up to the white space behind it. -/
theorem Spells.skip_run {datum : Datum} {text after : List Char}
    (spells : Spells (.padded datum) text after) (halts : Halts prolongs after) :
    ∃ behind, (∀ c ∈ behind, isBlank c) ∧ skip.run text = .ok ((), behind ++ after) := by
  obtain ⟨behind, blank, passed⟩ := spells.passes halts
  exact ⟨behind, blank, by simp [skip, passed, skipFrom_done]⟩

end ScriptFront.Json
