import ScriptFront.Json.Reader
import ScriptFront.Proofs.Number.Text
import ScriptFront.Proofs.Text.Stretch
import ScriptFront.Text.Hexadecimal

/-!
# The grammar of JSON

Which texts are JSON, and what they say. Each rule relates what a part of a text says to the text
from the part on and to what is left behind the part. White space can stand around every value; an
object can have several members of one name.
-/
namespace ScriptFront.Json

/-- What a JSON text says. Numbers are taken to the nearest one in double precision. -/
inductive Datum where
  | null
  | bool (value : Bool)
  | number (value : Binary64)
  | string (value : String)
  | array (items : List Datum)
  | object (members : List (String × Datum))

/-- The letter after a backslash, and what it stands for. -/
inductive Escape : Char → Char → Prop where
  | quote : Escape '"' '"'
  | backslash : Escape '\\' '\\'
  | slash : Escape '/' '/'
  | backspace : Escape 'b' '\x08'
  | formFeed : Escape 'f' '\x0c'
  | newLine : Escape 'n' '\n'
  | carriageReturn : Escape 'r' '\r'
  | tab : Escape 't' '\t'

/-- The rest of a string, with the quote that ends it. A character beyond the reach of four
hexadecimal digits is escaped as a pair of surrogates; a surrogate alone stands for nothing. -/
inductive Inscribes : List Char → List Char → List Char → Prop where
  | done {after : List Char} : Inscribes [] ('"' :: after) after
  | plain {c : Char} {value text after : List Char} (notQuote : c ≠ '"') (notBackslash : c ≠ '\\')
      (noControl : 32 ≤ c.toNat) (more : Inscribes value text after) :
      Inscribes (c :: value) (c :: text) after
  | escaped {letter c : Char} {value text after : List Char} (escape : Escape letter c)
      (more : Inscribes value text after) : Inscribes (c :: value) ('\\' :: letter :: text) after
  | coded {digits : List Char} {code : Nat} {value text after : List Char}
      (four : digits.length = 4) (hex : hexNumber? digits = some code)
      (noSurrogate : code < 0xD800 ∨ 0xE000 ≤ code) (more : Inscribes value text after) :
      Inscribes (Char.ofNat code :: value) ('\\' :: 'u' :: (digits ++ text)) after
  | paired {digits digits' : List Char} {high low : Nat} {value text after : List Char}
      (four : digits.length = 4) (hex : hexNumber? digits = some (0xD800 + high))
      (four' : digits'.length = 4) (hex' : hexNumber? digits' = some (0xDC00 + low))
      (isHigh : high < 0x400) (isLow : low < 0x400) (more : Inscribes value text after) :
      Inscribes (Char.ofNat (0x10000 + 0x400 * high + low) :: value)
        ('\\' :: 'u' :: (digits ++ '\\' :: 'u' :: (digits' ++ text))) after

/-- A run of digits that is not empty. -/
def IsDigits (digits : List Char) : Prop := digits ≠ [] ∧ ∀ c ∈ digits, c.isDigit

/-- What can stand behind the whole part of a number, and its digits. -/
inductive Fraction : List Char → List Char → Prop where
  | none : Fraction [] []
  | places {digits : List Char} (isDigits : IsDigits digits) : Fraction ('.' :: digits) digits

/-- What can stand at the end of a number, and the power of ten it stands for. -/
inductive Power : List Char → Int → Prop where
  | none : Power [] 0
  | plain {mark : Char} {digits : List Char} (isMark : mark = 'e' ∨ mark = 'E')
      (isDigits : IsDigits digits) : Power (mark :: digits) (digitsValue digits)
  | raised {mark : Char} {digits : List Char} (isMark : mark = 'e' ∨ mark = 'E')
      (isDigits : IsDigits digits) : Power (mark :: '+' :: digits) (digitsValue digits)
  | lowered {mark : Char} {digits : List Char} (isMark : mark = 'e' ∨ mark = 'E')
      (isDigits : IsDigits digits) : Power (mark :: '-' :: digits) (-(digitsValue digits : Int))

/-- A number without its sign, and the decimal that is written. -/
inductive Numeral : List Char → Decimal → Prop where
  | of {whole fraction places power : List Char} {exponent : Int} (isWhole : IsWhole whole)
      (isFraction : Fraction fraction places) (isPower : Power power exponent) :
      Numeral (whole ++ fraction ++ power)
        ⟨digitsValue (whole ++ places), exponent - places.length⟩

/-- The parts that a JSON text is made of. -/
inductive Part where
  | value (datum : Datum)
  /-- A value with the white space around it. -/
  | padded (datum : Datum)
  /-- The items of a list, with the bracket that ends it. -/
  | items (items : List Datum)
  | member (key : String) (datum : Datum)
  /-- The members of an object, with the bracket that ends it. -/
  | members (members : List (String × Datum))

inductive Spells : Part → List Char → List Char → Prop where
  | null {after : List Char} : Spells (.value .null) ("null".toList ++ after) after
  | bool {value : Bool} {after : List Char} :
      Spells (.value (.bool value)) ((if value then "true" else "false").toList ++ after) after
  | positive {numeral : List Char} {decimal : Decimal} {after : List Char}
      (isNumeral : Numeral numeral decimal) :
      Spells (.value (.number decimal.nearest)) (numeral ++ after) after
  | negative {numeral : List Char} {decimal : Decimal} {after : List Char}
      (isNumeral : Numeral numeral decimal) :
      Spells (.value (.number decimal.nearest.negate)) ('-' :: (numeral ++ after)) after
  | string {value text after : List Char} (inscribes : Inscribes value text after) :
      Spells (.value (.string (String.ofList value))) ('"' :: text) after
  | array {items : List Datum} {text after : List Char}
      (inside : Spells (.items items) text after) :
      Spells (.value (.array items)) ('[' :: text) after
  | object {members : List (String × Datum)} {text after : List Char}
      (inside : Spells (.members members) text after) :
      Spells (.value (.object members)) ('\x7b' :: text) after
  | padded {datum : Datum} {before text behind after : List Char}
      (blankBefore : ∀ c ∈ before, isBlank c) (blankBehind : ∀ c ∈ behind, isBlank c)
      (inside : Spells (.value datum) text (behind ++ after)) :
      Spells (.padded datum) (before ++ text) after
  | noItems {blanks after : List Char} (blank : ∀ c ∈ blanks, isBlank c) :
      Spells (.items []) (blanks ++ ']' :: after) after
  | lastItem {item : Datum} {text after : List Char}
      (last : Spells (.padded item) text (']' :: after)) : Spells (.items [item]) text after
  | nextItem {item next : Datum} {items : List Datum} {text rest after : List Char}
      (first : Spells (.padded item) text (',' :: rest))
      (more : Spells (.items (next :: items)) rest after) :
      Spells (.items (item :: next :: items)) text after
  | member {datum : Datum} {before between key text rest after : List Char}
      (blankBefore : ∀ c ∈ before, isBlank c) (blankBetween : ∀ c ∈ between, isBlank c)
      (inscribes : Inscribes key text (between ++ ':' :: rest))
      (value : Spells (.padded datum) rest after) :
      Spells (.member (String.ofList key) datum) (before ++ '"' :: text) after
  | noMembers {blanks after : List Char} (blank : ∀ c ∈ blanks, isBlank c) :
      Spells (.members []) (blanks ++ '\x7d' :: after) after
  | lastMember {key : String} {datum : Datum} {text after : List Char}
      (last : Spells (.member key datum) text ('\x7d' :: after)) :
      Spells (.members [(key, datum)]) text after
  | nextMember {key : String} {datum : Datum} {next : String × Datum}
      {members : List (String × Datum)} {text rest after : List Char}
      (first : Spells (.member key datum) text (',' :: rest))
      (more : Spells (.members (next :: members)) rest after) :
      Spells (.members ((key, datum) :: next :: members)) text after

theorem Numeral.first {numeral : List Char} {decimal : Decimal}
    (isNumeral : Numeral numeral decimal) : ∃ c rest, numeral = c :: rest ∧ c.isDigit := by
  cases isNumeral with
  | of isWhole =>
    obtain ⟨c, rest, rfl⟩ := List.exists_cons_of_ne_nil isWhole.some
    exact ⟨c, _, rfl, isWhole.digit c List.mem_cons_self⟩

theorem ne_of_digit {c d : Char} (digit : c.isDigit) (other : d.isDigit = false) : c ≠ d := by
  rintro rfl
  simp [digit] at other

namespace Spells

variable {datum : Datum} {text after : List Char}

/-- A value begins with a character that is neither white space nor the end of a list. -/
theorem first (spells : Spells (.value datum) text after) :
    ∃ c rest, text = c :: rest ∧ isBlank c = false ∧ c ≠ ']' := by
  cases spells with
  | null => exact ⟨'n', _, rfl, rfl, by decide⟩
  | @bool value => cases value <;> exact ⟨_, _, rfl, rfl, by decide⟩
  | positive isNumeral =>
    obtain ⟨c, rest, rfl, digit⟩ := isNumeral.first
    have other {d : Char} : d.isDigit = false → c ≠ d := ne_of_digit digit
    exact ⟨c, _, rfl, by simp [isBlank, other], other rfl⟩
  | negative => exact ⟨'-', _, rfl, rfl, by decide⟩
  | string => exact ⟨'"', _, rfl, rfl, by decide⟩
  | array => exact ⟨'[', _, rfl, rfl, by decide⟩
  | object => exact ⟨'\x7b', _, rfl, rfl, by decide⟩

theorem dropWhile_value (spells : Spells (.value datum) text after) {blanks : List Char}
    (blank : ∀ c ∈ blanks, isBlank c) : (blanks ++ text).dropWhile isBlank = text := by
  obtain ⟨c, rest, rfl, notBlank, -⟩ := spells.first
  exact dropWhile_stretch blank (halts_cons.mpr notBlank)

theorem first_padded (spells : Spells (.padded datum) text after) :
    ∃ c rest, text.dropWhile isBlank = c :: rest ∧ c ≠ ']' := by
  cases spells with
  | padded blankBefore _ inside =>
    obtain ⟨c, rest, same, -, notEnd⟩ := inside.first
    exact ⟨c, rest, by rw [inside.dropWhile_value blankBefore, same], notEnd⟩

end Spells

/-- Whether a whole text is JSON and says the given. -/
def Datum.WrittenAs (datum : Datum) (text : String) : Prop :=
  Spells (.padded datum) text.toList []

end ScriptFront.Json
