import ScriptFront.Proofs.Json.Skip

/-!
# What a JSON text says

A text says one thing at most (`Datum.unique`): where a part of it ends is settled by the part and
the character behind it, and which rule a part is by goes by its first characters. Items and members
are lists of the same form, and a list is settled if its elements are (`Listed.unique`).
-/
namespace ScriptFront.Json

variable {after after' : List Char}

theorem Inscribes.unique {value value' text : List Char} (inscribes : Inscribes value text after)
    (inscribes' : Inscribes value' text after') : value = value' ∧ after = after' := by
  have read := Reader.string_run inscribes
  rw [Reader.string_run inscribes'] at read
  simpa [String.ofList_inj, eq_comm] using read

section Numerals

/-- The power of ten, read off its text. -/
def powerOf : List Char → Int
  | _ :: '-' :: digits => -(digitsValue digits : Int)
  | _ :: '+' :: digits => digitsValue digits
  | _ :: digits => digitsValue digits
  | [] => 0

theorem Power.eq_powerOf {power : List Char} {exponent : Int} (isPower : Power power exponent) :
    exponent = powerOf power := by
  cases isPower with
  | none | raised | lowered => rfl
  | plain _ isDigits =>
    obtain ⟨first, rest, rfl⟩ := List.exists_cons_of_ne_nil isDigits.1
    have digit := isDigits.2 first List.mem_cons_self
    simp [powerOf, ne_of_digit digit]

theorem Fraction.unique {fraction fraction' places places' power power' : List Char}
    {exponent exponent' : Int} (isFraction : Fraction fraction places)
    (isFraction' : Fraction fraction' places') (isPower : Power power exponent)
    (isPower' : Power power' exponent') (halts : Halts prolongs after)
    (halts' : Halts prolongs after')
    (same : fraction ++ (power ++ after) = fraction' ++ (power' ++ after')) :
    places = places' ∧ power ++ after = power' ++ after' := by
  obtain ⟨ends, noPoint⟩ := Reader.halts_power isPower halts
  obtain ⟨ends', noPoint'⟩ := Reader.halts_power isPower' halts'
  cases isFraction with
  | none =>
    cases isFraction' with
    | none => exact ⟨rfl, same⟩
    | places => exact absurd (congrArg List.head? same) noPoint
  | places isDigits =>
    cases isFraction' with
    | none => exact absurd (congrArg List.head? same).symm noPoint'
    | places isDigits' =>
      exact split_of_stretch isDigits.2 isDigits'.2 ends ends' (List.cons.inj same).2

theorem Numeral.unique {numeral numeral' : List Char} {decimal decimal' : Decimal}
    (isNumeral : Numeral numeral decimal) (isNumeral' : Numeral numeral' decimal')
    (halts : Halts prolongs after) (halts' : Halts prolongs after')
    (same : numeral ++ after = numeral' ++ after') : decimal = decimal' ∧ after = after' := by
  have passed := Reader.skipNumber_run isNumeral halts
  rw [same, Reader.skipNumber_run isNumeral' halts'] at passed
  obtain rfl : after = after' := by simpa [eq_comm] using passed
  refine ⟨?_, rfl⟩
  cases isNumeral with
  | of isWhole isFraction isPower =>
  cases isNumeral' with
  | of isWhole' isFraction' isPower' =>
  simp only [List.append_assoc] at same
  obtain ⟨whole, rest⟩ := split_of_stretch isWhole.digit isWhole'.digit
    (Reader.halts_fraction isFraction isPower halts)
    (Reader.halts_fraction isFraction' isPower' halts) same
  obtain ⟨places, power⟩ :=
    isFraction.unique isFraction' isPower isPower' halts halts rest
  rw [whole, places, isPower.eq_powerOf, isPower'.eq_powerOf, List.append_cancel_right power]

end Numerals

section Lists

variable {α : Type} {element : α → List Char → List Char → Prop} {bracket : Char}
  {items items' : List α} {text : List Char}

/-- A list in a text: elements with commas between them, or nothing, and a bracket that ends it. -/
inductive Listed (element : α → List Char → List Char → Prop) (bracket : Char) :
    List α → List Char → List Char → Prop where
  | nothing {blanks after : List Char} (blank : ∀ c ∈ blanks, isBlank c) :
      Listed element bracket [] (blanks ++ bracket :: after) after
  | last {item : α} {text after : List Char} (last : element item text (bracket :: after)) :
      Listed element bracket [item] text after
  | next {item next : α} {items : List α} {text rest after : List Char}
      (first : element item text (',' :: rest))
      (more : Listed element bracket (next :: items) rest after) :
      Listed element bracket (item :: next :: items) text after

/-- An element that is the only one its text can begin with. -/
structure Settled (element : α → List Char → List Char → Prop) (item : α)
    (text after : List Char) : Prop where
  stands : element item text after
  only {item' : α} {after' : List Char} : Closes after' → element item' text after' →
    item = item' ∧ after = after'

/-- What ends a list, and does not begin an element of it. -/
structure Ends (element : α → List Char → List Char → Prop) (bracket : Char) : Prop where
  closing : bracket ∈ [']', '\x7d']
  free {item : α} {text after : List Char} : element item text after →
    (text.dropWhile isBlank).head? ≠ some bracket

namespace Ends

variable (ends : Ends element bracket)
include ends

theorem closes (rest : List Char) : Closes (bracket :: rest) :=
  closes_cons (List.mem_cons_of_mem _ ends.closing)

theorem ne_comma : bracket ≠ ',' := by
  have closing := ends.closing
  rintro rfl
  simp at closing

theorem not_element {blanks rest : List Char} (blank : ∀ c ∈ blanks, isBlank c) {item : α} :
    ¬ element item (blanks ++ bracket :: rest) after := by
  intro stands
  have passed := dropWhile_stretch blank (ends.closes rest).notBlank
  exact ends.free stands (by rw [passed, List.head?_cons])

end Ends

theorem Listed.unique (ends : Ends element bracket)
    (listed : Listed (Settled element) bracket items text after)
    (listed' : Listed element bracket items' text after') : items = items' ∧ after = after' := by
  have comma (rest : List Char) : Closes (',' :: rest) := closes_cons List.mem_cons_self
  induction listed generalizing items' with
  | @nothing blanks after blank =>
    generalize same : blanks ++ bracket :: after = text at listed'
    cases listed' with
    | nothing blank' =>
      have behind := split_of_stretch blank blank' (ends.closes _).notBlank
        (ends.closes _).notBlank same
      exact ⟨rfl, (List.cons.inj behind.2).2⟩
    | last last' => exact absurd (same ▸ last') (ends.not_element blank)
    | next first' => exact absurd (same ▸ first') (ends.not_element blank)
  | last last =>
    cases listed' with
    | nothing blank' => exact absurd last.stands (ends.not_element blank')
    | last last' =>
      obtain ⟨rfl, behind⟩ := last.only (ends.closes _) last'
      exact ⟨rfl, (List.cons.inj behind).2⟩
    | next first' =>
      obtain ⟨-, behind⟩ := last.only (comma _) first'
      exact absurd (List.cons.inj behind).1 ends.ne_comma
  | next first more ih =>
    cases listed' with
    | nothing blank' => exact absurd first.stands (ends.not_element blank')
    | last last' =>
      obtain ⟨-, behind⟩ := first.only (ends.closes _) last'
      exact absurd (List.cons.inj behind).1.symm ends.ne_comma
    | next first' more' =>
      obtain ⟨rfl, behind⟩ := first.only (comma _) first'
      obtain ⟨-, rfl⟩ := List.cons.inj behind
      obtain ⟨rest, rfl⟩ := ih more'
      exact ⟨by rw [rest], rfl⟩

end Lists

namespace Spells

variable {datum : Datum} {text : List Char}

/-- An item of a list, with the white space around it. -/
abbrev Item (item : Datum) : List Char → List Char → Prop := Spells (.padded item)

/-- A member of an object. -/
abbrev Member (member : String × Datum) : List Char → List Char → Prop :=
  Spells (.member member.1 member.2)

theorem ends_items : Ends Item ']' where
  closing := List.mem_cons_self
  free spells := by
    obtain ⟨c, rest, first, notEnd⟩ := spells.first_padded
    simpa [first] using notEnd

theorem ends_members : Ends Member '\x7d' where
  closing := List.mem_cons_of_mem _ List.mem_cons_self
  free {member _ _} spells := by
    obtain ⟨key, datum⟩ := member
    cases spells with
    | member blankBefore =>
      rw [dropWhile_stretch blankBefore (halts_cons.mpr rfl)]
      simp

theorem listed_items {items : List Datum} (spells : Spells (.items items) text after) :
    Listed Item ']' items text after := by
  generalize isItems : Part.items items = part at spells
  induction spells generalizing items with
  | noItems blank =>
    cases isItems
    exact .nothing blank
  | lastItem last =>
    cases isItems
    exact .last last
  | nextItem first more ihFirst ihMore =>
    cases isItems
    exact .next first (ihMore rfl)
  | _ => cases isItems

theorem listed_members {members : List (String × Datum)}
    (spells : Spells (.members members) text after) : Listed Member '\x7d' members text after := by
  generalize isMembers : Part.members members = part at spells
  induction spells generalizing members with
  | noMembers blank =>
    cases isMembers
    exact .nothing blank
  | lastMember last =>
    cases isMembers
    exact .last last
  | nextMember first more ihFirst ihMore =>
    cases isMembers
    exact .next first (ihMore rfl)
  | _ => cases isMembers

/-! ## Values by their first character -/

/-- The first character of a value that is no number. -/
def opening? : Datum → Option Char
  | .null => some 'n'
  | .bool value => some (if value then 't' else 'f')
  | .number _ => none
  | .string _ => some '"'
  | .array _ => some '['
  | .object _ => some '\x7b'

def isOpening (c : Char) : Bool := ['n', 't', 'f', '"', '[', '\x7b'].contains c

theorem opening (spells : Spells (.value datum) text after) :
    text.head?.filter isOpening = opening? datum := by
  cases spells with
  | null | negative | string | array | object => rfl
  | @bool value => cases value <;> rfl
  | positive isNumeral =>
    obtain ⟨c, rest, rfl, digit⟩ := isNumeral.first
    have other {d : Char} : d.isDigit = false → c ≠ d := ne_of_digit digit
    simp [isOpening, other, opening?]

theorem of_null (spells : Spells (.value datum) ("null".toList ++ text) after) :
    .null = datum ∧ text = after := by
  have opening : opening? datum = some 'n' := spells.opening.symm
  generalize same : "null".toList ++ text = written at spells
  rcases datum with _ | (_ | _) | _ | _ | _ | _ <;> simp [opening?] at opening
  cases spells with
  | null => exact ⟨rfl, List.append_cancel_left same⟩

theorem of_bool {value : Bool}
    (spells : Spells (.value datum) ((if value then "true" else "false").toList ++ text) after) :
    .bool value = datum ∧ text = after := by
  have opening : opening? datum = some (if value then 't' else 'f') := by
    cases value <;> exact spells.opening.symm
  generalize same : (if value then "true" else "false").toList ++ text = written at spells
  cases datum with
  | bool value' =>
    obtain rfl : value = value' := by cases value <;> cases value' <;> simp [opening?] at opening ⊢
    cases spells with
    | bool => exact ⟨rfl, List.append_cancel_left same⟩
  | _ => cases value <;> simp [opening?] at opening

theorem of_quote (spells : Spells (.value datum) ('"' :: text) after) :
    ∃ value, .string (String.ofList value) = datum ∧ Inscribes value text after := by
  have opening : opening? datum = some '"' := spells.opening.symm
  rcases datum with _ | (_ | _) | _ | _ | _ | _ <;> simp [opening?] at opening
  cases spells with
  | string inscribes => exact ⟨_, rfl, inscribes⟩

theorem of_bracket (spells : Spells (.value datum) ('[' :: text) after) :
    ∃ items, .array items = datum ∧ Spells (.items items) text after := by
  have opening : opening? datum = some '[' := spells.opening.symm
  rcases datum with _ | (_ | _) | _ | _ | _ | _ <;> simp [opening?] at opening
  cases spells with
  | array inside => exact ⟨_, rfl, inside⟩

theorem of_brace (spells : Spells (.value datum) ('\x7b' :: text) after) :
    ∃ members, .object members = datum ∧ Spells (.members members) text after := by
  have opening : opening? datum = some '\x7b' := spells.opening.symm
  rcases datum with _ | (_ | _) | _ | _ | _ | _ <;> simp [opening?] at opening
  cases spells with
  | object inside => exact ⟨_, rfl, inside⟩

theorem of_minus (spells : Spells (.value datum) ('-' :: text) after) :
    ∃ numeral decimal, Numeral numeral decimal ∧ .number decimal.nearest.negate = datum ∧
      text = numeral ++ after := by
  have opening : opening? datum = none := spells.opening.symm
  generalize same : '-' :: text = written at spells
  rcases datum with _ | (_ | _) | _ | _ | _ | _ <;> simp [opening?] at opening
  cases spells with
  | positive isNumeral =>
    obtain ⟨c, rest, rfl, digit⟩ := isNumeral.first
    exact absurd (List.cons.inj same).1.symm (ne_of_digit digit rfl)
  | negative isNumeral => exact ⟨_, _, isNumeral, rfl, (List.cons.inj same).2⟩

theorem of_digit {c : Char} (digit : c.isDigit) (spells : Spells (.value datum) (c :: text) after) :
    ∃ numeral decimal, Numeral numeral decimal ∧ .number decimal.nearest = datum ∧
      c :: text = numeral ++ after := by
  have other {d : Char} : d.isDigit = false → c ≠ d := ne_of_digit digit
  have opening : opening? datum = none := by
    rw [← spells.opening]
    simp [isOpening, other]
  generalize same : c :: text = written at spells
  rcases datum with _ | (_ | _) | _ | _ | _ | _ <;> simp [opening?] at opening
  cases spells with
  | positive isNumeral => exact ⟨_, _, isNumeral, rfl, rfl⟩
  | negative => exact absurd (List.cons.inj same).1 (other rfl)

/-! ## Parts of a text -/

/-- How a part of a text determines what it says and where it ends. A list does so by its
elements. -/
def Determines (after : List Char) : Part → List Char → Prop
  | .value datum, text => Halts prolongs after → ∀ datum' after', Halts prolongs after' →
    Spells (.value datum') text after' → datum = datum' ∧ after = after'
  | .padded datum, text => Closes after → Settled Item datum text after
  | .items items, text => Listed (Settled Item) ']' items text after
  | .member key datum, text => Closes after → Settled Member (key, datum) text after
  | .members members, text => Listed (Settled Member) '\x7d' members text after

theorem settled_item {before behind : List Char} (blankBefore : ∀ c ∈ before, isBlank c)
    (blankBehind : ∀ c ∈ behind, isBlank c)
    (inside : Spells (.value datum) text (behind ++ after))
    (determines : Determines (behind ++ after) (.value datum) text) (closes : Closes after) :
    Settled Item datum (before ++ text) after where
  stands := .padded blankBefore blankBehind inside
  only {datum' after'} closes' spells' := by
    generalize same : before ++ text = written at spells'
    cases spells' with
    | padded blankBefore' blankBehind' inside' =>
      have left := congrArg (List.dropWhile isBlank) same
      rw [inside.dropWhile_value blankBefore, inside'.dropWhile_value blankBefore'] at left
      subst left
      obtain ⟨rfl, ends⟩ := determines (Reader.halts_blanks blankBehind closes.notNumber) _ _
        (Reader.halts_blanks blankBehind' closes'.notNumber) inside'
      obtain ⟨-, rfl⟩ :=
        split_of_stretch blankBehind blankBehind' closes.notBlank closes'.notBlank ends
      exact ⟨rfl, rfl⟩

theorem settled_member {before between key rest : List Char}
    (blankBefore : ∀ c ∈ before, isBlank c) (blankBetween : ∀ c ∈ between, isBlank c)
    (inscribes : Inscribes key text (between ++ ':' :: rest))
    (value : Settled Item datum rest after) :
    Settled Member (String.ofList key, datum) (before ++ '"' :: text) after where
  stands := .member blankBefore blankBetween inscribes value.stands
  only {member' after'} closes' spells' := by
    obtain ⟨key', datum'⟩ := member'
    generalize same : before ++ '"' :: text = written at spells'
    cases spells' with
    | member blankBefore' blankBetween' inscribes' value' =>
      obtain ⟨-, quoted⟩ := split_of_stretch blankBefore blankBefore' (halts_cons.mpr rfl)
        (halts_cons.mpr rfl) same
      obtain ⟨-, rfl⟩ := List.cons.inj quoted
      obtain ⟨rfl, colon⟩ := inscribes.unique inscribes'
      obtain ⟨-, behind⟩ := split_of_stretch blankBetween blankBetween' (halts_cons.mpr rfl)
        (halts_cons.mpr rfl) colon
      obtain ⟨-, rfl⟩ := List.cons.inj behind
      obtain ⟨rfl, rfl⟩ := value.only closes' value'
      exact ⟨rfl, rfl⟩

theorem determines {part : Part} (spells : Spells part text after) :
    Determines after part text := by
  induction spells with
  | null => exact fun _ _ _ _ spells' => spells'.of_null
  | bool => exact fun _ _ _ _ spells' => spells'.of_bool
  | positive isNumeral =>
    intro halts datum' after' halts' spells'
    obtain ⟨c, rest, rfl, digit⟩ := isNumeral.first
    obtain ⟨numeral', decimal', isNumeral', rfl, same⟩ := spells'.of_digit digit
    obtain ⟨rfl, rfl⟩ := isNumeral.unique isNumeral' halts halts' same
    exact ⟨rfl, rfl⟩
  | negative isNumeral =>
    intro halts datum' after' halts' spells'
    obtain ⟨numeral', decimal', isNumeral', rfl, same⟩ := spells'.of_minus
    obtain ⟨rfl, rfl⟩ := isNumeral.unique isNumeral' halts halts' same
    exact ⟨rfl, rfl⟩
  | string inscribes =>
    intro _ datum' after' _ spells'
    obtain ⟨value', rfl, inscribes'⟩ := spells'.of_quote
    obtain ⟨rfl, rfl⟩ := inscribes.unique inscribes'
    exact ⟨rfl, rfl⟩
  | array inside listed =>
    intro _ datum' after' _ spells'
    obtain ⟨items', rfl, inside'⟩ := spells'.of_bracket
    obtain ⟨rfl, rfl⟩ := Listed.unique ends_items listed inside'.listed_items
    exact ⟨rfl, rfl⟩
  | object inside listed =>
    intro _ datum' after' _ spells'
    obtain ⟨members', rfl, inside'⟩ := spells'.of_brace
    obtain ⟨rfl, rfl⟩ := Listed.unique ends_members listed inside'.listed_members
    exact ⟨rfl, rfl⟩
  | padded blankBefore blankBehind inside ih =>
    exact settled_item blankBefore blankBehind inside ih
  | noItems blank => exact .nothing blank
  | lastItem last ih => exact .last (ih (closes_cons (by simp)))
  | nextItem first more ihFirst ihMore => exact .next (ihFirst (closes_cons (by simp))) ihMore
  | member blankBefore blankBetween inscribes value ih =>
    exact fun closes => settled_member blankBefore blankBetween inscribes (ih closes)
  | noMembers blank => exact .nothing blank
  | lastMember last ih => exact .last (ih (closes_cons (by simp)))
  | nextMember first more ihFirst ihMore => exact .next (ihFirst (closes_cons (by simp))) ihMore

end Spells

theorem Datum.unique {datum datum' : Datum} {text : String} (written : datum.WrittenAs text)
    (written' : datum'.WrittenAs text) : datum = datum' :=
  ((Spells.determines written closes_nil).only closes_nil written').1

end ScriptFront.Json
