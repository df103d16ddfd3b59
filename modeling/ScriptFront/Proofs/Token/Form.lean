import ScriptFront.Token.Scan

/-!
# Token forms

Which texts are tokens, said without a scanner:

    word   = (letter | "_") (letter | digit | "_")*
    number = digit+ ("." digit+)?
    string = '"' (any character but '"')* '"'
    mark   = a text of the table of marks

A word is a keyword if it stands in the table of keywords, and a name otherwise. The first character
of a text tells which form it can have (`Form.begins`), so a text is a token of one kind at most
(`Form.unique`).
-/
namespace ScriptFront

def IsWord (text : List Char) : Prop :=
  ∃ first rest, text = first :: rest ∧ (first.isAlpha ∨ first = '_') ∧
    ∀ c ∈ rest, c.isAlpha ∨ c.isDigit ∨ c = '_'

def IsDigits (text : List Char) : Prop := text ≠ [] ∧ ∀ c ∈ text, c.isDigit

def IsNumber (text : List Char) : Prop :=
  IsDigits text ∨
    ∃ whole places, text = whole ++ '.' :: places ∧ IsDigits whole ∧ IsDigits places

def IsQuoted (text : List Char) : Prop := ∃ body, text = '"' :: (body ++ ['"']) ∧ '"' ∉ body

/-- The texts that are tokens, by their kinds. -/
inductive Form : Kind → List Char → Prop where
  | mark {kind : Kind} {text : List Char} (spelled : kind.markText = some (String.ofList text)) :
      Form kind text
  | keyword {kind : Kind} {text : List Char} (isWord : IsWord text)
      (spelled : kind.keywordText = some (String.ofList text)) : Form kind text
  | identifier {text : List Char} (isWord : IsWord text)
      (other : ∀ kind : Kind, kind.keywordText ≠ some (String.ofList text)) :
      Form .identifier text
  | number {text : List Char} (isNumber : IsNumber text) : Form .numericLiteral text
  | string {text : List Char} (isQuoted : IsQuoted text) : Form .stringLiteral text

def IsForm (text : List Char) : Prop := ∃ kind, Form kind text

/-- What can stand between tokens, besides comments. -/
def whiteSpace : List Char := [' ', '\t', '\r', '\n']

theorem mem_whiteSpace {c : Char} :
    c ∈ whiteSpace ↔ c = ' ' ∨ c = '\t' ∨ c = '\r' ∨ c = '\n' := by
  simp [whiteSpace]

theorem isWordPart_iff {c : Char} : isWordPart c ↔ c.isAlpha ∨ c.isDigit ∨ c = '_' := by
  simp only [isWordPart, isWordStart, Bool.or_eq_true, decide_eq_true_eq]
  rw [or_assoc, or_comm (a := c = '_')]

theorem not_isDigit_of_isWordStart {c : Char} (start : isWordStart c) : c.isDigit = false := by
  by_cases underscore : c = '_'
  · rw [underscore]
    decide
  · have alpha : c.isAlpha := by simpa [isWordStart, underscore] using start
    have letters : (decide (65 ≤ c.val ∧ c.val ≤ 90) ||
        (decide (97 ≤ c.val) && decide (c.val ≤ 122))) = true := alpha
    have digits : c.isDigit = (decide (48 ≤ c.val) && decide (c.val ≤ 57)) := rfl
    grind

theorem not_isWordStart_quote : isWordStart '"' = false := by decide

namespace Mark

/-- The text of a mark is read as that mark. -/
theorem found_of_text {mark : Mark} {first : Char} {rest : List Char}
    (written : mark.text.toList = first :: rest) :
    (Front.punctuation first rest).found = .ok (.mark mark) := by
  cases mark <;> (obtain ⟨rfl, rfl⟩ := List.cons.inj written; rfl)

theorem eq_of_text {mark other : Mark} {first : Char} {rest : List Char}
    (written : mark.text.toList = first :: rest)
    (written' : other.text.toList = first :: rest) : mark = other := by
  have same := (found_of_text written).symm.trans (found_of_text written')
  exact Kind.mark.inj (Except.ok.inj same)

theorem text_length (mark : Mark) :
    mark.text.toList.length = 1 ∨ mark.text.toList.length = 2 := by
  cases mark <;> decide

/-- A mark begins no word, number or string. -/
theorem text_head (mark : Mark) :
    ∀ first ∈ mark.text.toList.head?,
      isWordStart first = false ∧ first.isDigit = false ∧ first ≠ '"' := by
  intro first head
  cases mark <;> (obtain rfl := Option.some.inj head; decide)

theorem white_not_mem_text (mark : Mark) : ∀ c ∈ whiteSpace, c ∉ mark.text.toList := by
  intro c white
  rcases mem_whiteSpace.mp white with rfl | rfl | rfl | rfl <;> cases mark <;> decide

end Mark

namespace Keyword

theorem ofText?_text (word : Keyword) : ofText? word.text = some word := by
  cases word <;> rfl

theorem text_of_ofText? {text : String} {word : Keyword} (found : ofText? text = some word) :
    word.text = text := by
  unfold ofText? at found
  split at found
  case h_15 => contradiction
  all_goals exact Option.some.inj found ▸ rfl

/-- A text is read as the keyword that is written so. -/
theorem ofText?_eq_some_iff {text : String} {word : Keyword} :
    ofText? text = some word ↔ word.text = text :=
  ⟨text_of_ofText?, fun same => same ▸ ofText?_text word⟩

end Keyword

/-- The kind of a word. -/
def Kind.ofWord (text : List Char) : Kind :=
  ((Keyword.ofText? (String.ofList text)).map Kind.keyword).getD .identifier

theorem Kind.ofWord_of_keywordText {kind : Kind} {text : List Char}
    (spelled : kind.keywordText = some (String.ofList text)) : ofWord text = kind := by
  cases kind with
  | keyword word =>
    have same : word.text = String.ofList text := Option.some.inj spelled
    rw [ofWord, Keyword.ofText?_eq_some_iff.mpr same]
    rfl
  | _ => simp [keywordText] at spelled

theorem Kind.ofWord_of_other {text : List Char}
    (other : ∀ kind : Kind, kind.keywordText ≠ some (String.ofList text)) :
    ofWord text = .identifier := by
  unfold ofWord
  cases found : Keyword.ofText? (String.ofList text) with
  | none => rfl
  | some word =>
    have same := Keyword.ofText?_eq_some_iff.mp found
    exact absurd (congrArg some same) (other (.keyword word))

theorem Form.ofWord {text : List Char} (isWord : IsWord text) : Form (Kind.ofWord text) text := by
  by_cases known : ∃ kind : Kind, kind.keywordText = some (String.ofList text)
  · obtain ⟨kind, spelled⟩ := known
    rw [Kind.ofWord_of_keywordText spelled]
    exact .keyword isWord spelled
  · have other : ∀ kind : Kind, kind.keywordText ≠ some (String.ofList text) := by
      simpa using known
    rw [Kind.ofWord_of_other other]
    exact .identifier isWord other

variable {kind kind' : Kind} {text rest : List Char} {first : Char}

theorem IsWord.start (isWord : IsWord (first :: rest)) :
    isWordStart first ∧ ∀ c ∈ rest, isWordPart c := by
  obtain ⟨_, _, same, start, inside⟩ := isWord
  obtain ⟨rfl, rfl⟩ := List.cons.inj same
  exact ⟨by simpa [isWordStart] using start, fun c among => isWordPart_iff.mpr (inside c among)⟩

theorem isWord_cons (start : isWordStart first) (inside : ∀ c ∈ rest, isWordPart c) :
    IsWord (first :: rest) :=
  ⟨first, rest, rfl, by simpa [isWordStart] using start,
    fun c among => isWordPart_iff.mp (inside c among)⟩

theorem IsNumber.digit (isNumber : IsNumber (first :: rest)) : first.isDigit := by
  rcases isNumber with ⟨_, digits⟩ | ⟨whole, places, same, ⟨some, digits⟩, _⟩
  · exact digits first List.mem_cons_self
  · obtain ⟨c, more, rfl⟩ := List.exists_cons_of_ne_nil some
    obtain rfl : first = c := (List.cons.inj same).1
    exact digits first List.mem_cons_self

theorem IsQuoted.quote (isQuoted : IsQuoted (first :: rest)) : first = '"' := by
  obtain ⟨_, same, _⟩ := isQuoted
  exact (List.cons.inj same).1

/-- What the first character of a token says about the rest and the kind. -/
inductive Begins (kind : Kind) (first : Char) (rest : List Char) : Prop where
  | word (start : isWordStart first) (isWord : IsWord (first :: rest))
      (same : kind = Kind.ofWord (first :: rest))
  | number (digit : first.isDigit) (isNumber : IsNumber (first :: rest))
      (same : kind = .numericLiteral)
  | string (quote : first = '"') (isQuoted : IsQuoted (first :: rest))
      (same : kind = .stringLiteral)
  | mark (mark : Mark) (spelled : mark.text.toList = first :: rest) (same : kind = .mark mark)

theorem Form.begins (form : Form kind (first :: rest)) : Begins kind first rest := by
  cases form with
  | mark spelled =>
    cases kind with
    | mark mark =>
      have same : mark.text = String.ofList (first :: rest) := Option.some.inj spelled
      exact .mark mark (by simp [same]) rfl
    | _ => simp [Kind.markText] at spelled
  | keyword isWord spelled =>
    exact .word isWord.start.1 isWord (Kind.ofWord_of_keywordText spelled).symm
  | identifier isWord other => exact .word isWord.start.1 isWord (Kind.ofWord_of_other other).symm
  | number isNumber => exact .number isNumber.digit isNumber rfl
  | string isQuoted => exact .string isQuoted.quote isQuoted rfl

theorem Form.exists_cons (form : Form kind text) : ∃ first rest, text = first :: rest := by
  cases text with
  | cons first rest => exact ⟨first, rest, rfl⟩
  | nil =>
    cases form with
    | mark spelled =>
      cases kind with
      | mark mark => cases mark <;> simp [Kind.markText, Mark.text] at spelled
      | _ => simp [Kind.markText] at spelled
    | keyword isWord => obtain ⟨_, _, same, _⟩ := isWord; simp at same
    | identifier isWord => obtain ⟨_, _, same, _⟩ := isWord; simp at same
    | number isNumber =>
      rcases isNumber with ⟨some, _⟩ | ⟨_, _, same, _⟩
      · simp at some
      · simp at same
    | string isQuoted => obtain ⟨_, same, _⟩ := isQuoted; simp at same

namespace Begins

variable (begins : Begins kind first rest)

include begins

theorem of_isWordStart (start : isWordStart first) :
    IsWord (first :: rest) ∧ kind = Kind.ofWord (first :: rest) := by
  cases begins with
  | word _ isWord same => exact ⟨isWord, same⟩
  | number digit => simp [not_isDigit_of_isWordStart start] at digit
  | string quote => simp [quote, not_isWordStart_quote] at start
  | mark mark spelled =>
    have head := mark.text_head first (by simp [spelled])
    simp [head.1] at start

theorem of_isDigit (digit : first.isDigit) :
    IsNumber (first :: rest) ∧ kind = .numericLiteral := by
  cases begins with
  | word start => simp [not_isDigit_of_isWordStart start] at digit
  | number _ isNumber same => exact ⟨isNumber, same⟩
  | string quote => simp [quote] at digit
  | mark mark spelled =>
    have head := mark.text_head first (by simp [spelled])
    simp [head.2.1] at digit

theorem of_quote (quote : first = '"') :
    IsQuoted (first :: rest) ∧ kind = .stringLiteral := by
  cases begins with
  | word start => simp [quote, not_isWordStart_quote] at start
  | number digit => simp [quote] at digit
  | string _ isQuoted same => exact ⟨isQuoted, same⟩
  | mark mark spelled =>
    have head := mark.text_head first (by simp [spelled])
    exact absurd quote head.2.2

theorem of_other (noWord : ¬ isWordStart first) (noDigit : ¬ first.isDigit)
    (noQuote : first ≠ '"') :
    ∃ mark : Mark, mark.text.toList = first :: rest ∧ kind = .mark mark := by
  cases begins with
  | word start => exact absurd start noWord
  | number digit => exact absurd digit noDigit
  | string quote => exact absurd quote noQuote
  | mark mark spelled same => exact ⟨mark, spelled, same⟩

end Begins

theorem Form.isNumber (form : Form .numericLiteral text) : IsNumber text := by
  cases form with
  | mark spelled => simp [Kind.markText] at spelled
  | keyword _ spelled => simp [Kind.keywordText] at spelled
  | number isNumber => exact isNumber

theorem Form.isQuoted (form : Form .stringLiteral text) : IsQuoted text := by
  cases form with
  | mark spelled => simp [Kind.markText] at spelled
  | keyword _ spelled => simp [Kind.keywordText] at spelled
  | string isQuoted => exact isQuoted

/-- A character that is part of no word, number or mark can only be in a string. -/
theorem Form.not_mem (form : Form kind text) (notQuoted : ¬ IsQuoted text) {c : Char}
    (noPart : isWordPart c = false) (noPoint : c ≠ '.')
    (noMark : ∀ mark : Mark, c ∉ mark.text.toList) : c ∉ text := by
  have noWord : isWordStart c = false ∧ c.isDigit = false := by
    simpa [isWordPart] using noPart
  have notIn {digits : List Char} (all : IsDigits digits) : c ∉ digits := fun among => by
    simp [all.2 c among] at noWord
  obtain ⟨first, rest, rfl⟩ := form.exists_cons
  cases form.begins with
  | word start isWord =>
    intro among
    rcases List.mem_cons.mp among with rfl | inside
    · simp [start] at noWord
    · simp [isWord.start.2 c inside] at noPart
  | number digit isNumber =>
    rcases isNumber with digits | ⟨whole, places, same, isWhole, isPlaces⟩
    · exact notIn digits
    · rw [same, List.mem_append, List.mem_cons]
      rintro (inside | point | inside)
      · exact notIn isWhole inside
      · exact noPoint point
      · exact notIn isPlaces inside
  | string _ isQuoted => exact absurd isQuoted notQuoted
  | mark mark spelled => exact spelled ▸ noMark mark

/-- Only a string can have white space in it. -/
theorem Form.white_not_mem (form : Form kind text) (notQuoted : ¬ IsQuoted text) :
    ∀ c ∈ whiteSpace, c ∉ text := by
  intro c white
  obtain ⟨noPart, noPoint⟩ : isWordPart c = false ∧ c ≠ '.' := by
    rcases mem_whiteSpace.mp white with rfl | rfl | rfl | rfl <;> decide
  exact form.not_mem notQuoted noPart noPoint fun mark => mark.white_not_mem_text c white

/-- A string ends with its closing quote. -/
theorem IsQuoted.eq_of_prefix {text text' : List Char} (isQuoted : IsQuoted text)
    (isQuoted' : IsQuoted text') (isPrefix : text <+: text') : text = text' := by
  obtain ⟨body, rfl, _⟩ := isQuoted
  obtain ⟨body', rfl, inside⟩ := isQuoted'
  have within := (List.cons_prefix_cons.mp isPrefix).2
  rcases List.prefix_concat_iff.mp within with same | shorter
  · rw [same]
  · have quote : '"' ∈ body' := shorter.subset (by simp)
    exact absurd quote inside

/-- A text is a token of one kind at most. -/
theorem Form.unique (form : Form kind text) (form' : Form kind' text) : kind = kind' := by
  obtain ⟨first, rest, rfl⟩ := form.exists_cons
  by_cases start : isWordStart first
  · rw [(form.begins.of_isWordStart start).2, (form'.begins.of_isWordStart start).2]
  by_cases digit : first.isDigit
  · rw [(form.begins.of_isDigit digit).2, (form'.begins.of_isDigit digit).2]
  by_cases quote : first = '"'
  · rw [(form.begins.of_quote quote).2, (form'.begins.of_quote quote).2]
  · obtain ⟨mark, spelled, rfl⟩ := form.begins.of_other start digit quote
    obtain ⟨mark', spelled', rfl⟩ := form'.begins.of_other start digit quote
    rw [Mark.eq_of_text spelled spelled']

end ScriptFront
