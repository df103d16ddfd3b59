import ScriptFront.Token.Basic

/-!
# Scanning

A cursor stands in a source and gives one token at a time. It skips blanks, line feeds and line
comments, and then takes the longest text that is a token. Text that is no token becomes a token of
kind `error`, so that scanning never fails. At the end of the source every further token is the
same end of input.

`tokenize` scans a whole source. It ends because each token other than the end of input takes at
least one character (`Cursor.next_shorter`).
-/
namespace ScriptFront

/-- Why a text is no token. -/
inductive ScanFault where
  | unexpectedCharacter | unterminatedString
  deriving DecidableEq, Repr

def ScanFault.message : ScanFault → String
  | unexpectedCharacter => "Unexpected character"
  | unterminatedString => "Unterminated string"

/-- White space that ends no line. -/
def isBlank (c : Char) : Bool := c = ' ' || c = '\t' || c = '\r'

/-- ASCII letters and the underscore begin a word. -/
def isWordStart (c : Char) : Bool := c.isAlpha || c = '_'

def isWordPart (c : Char) : Bool := isWordStart c || c.isDigit

/-- What stands at the front of a text: a kind of token or a fault, its characters, and what
follows them. -/
structure Front where
  found : Except ScanFault Kind
  taken : List Char
  after : List Char

namespace Front

def kind (front : Front) : Kind :=
  match front.found with
  | .ok kind => kind
  | .error _ => .error

def lexeme (front : Front) : String :=
  match front.found with
  | .ok _ => String.ofList front.taken
  | .error fault => fault.message

def word (first : Char) (rest : List Char) : Front :=
  let taken := first :: rest.takeWhile isWordPart
  let kind := ((Keyword.ofText? (String.ofList taken)).map Kind.keyword).getD .identifier
  ⟨.ok kind, taken, rest.dropWhile isWordPart⟩

/-- Digits; a point belongs to the number only when a digit follows it. -/
def number (first : Char) (rest : List Char) : Front :=
  let whole := first :: rest.takeWhile Char.isDigit
  match rest.dropWhile Char.isDigit with
  | '.' :: digit :: after =>
    if digit.isDigit then
      ⟨.ok .numericLiteral, whole ++ '.' :: digit :: after.takeWhile Char.isDigit,
        after.dropWhile Char.isDigit⟩
    else ⟨.ok .numericLiteral, whole, '.' :: digit :: after⟩
  | after => ⟨.ok .numericLiteral, whole, after⟩

/-- The text after an opening quote up to the next quote. There are no escapes, and a string may
run over lines. -/
def quoted (rest : List Char) : Front :=
  let body := rest.takeWhile (· != '"')
  match rest.dropWhile (· != '"') with
  | [] => ⟨.error .unterminatedString, '"' :: body, []⟩
  | quote :: after => ⟨.ok .stringLiteral, '"' :: (body ++ [quote]), after⟩

/-- A mark that is a longer one with `=` behind it. -/
def withEquals (longer alone : Mark) (first : Char) (rest : List Char) : Front :=
  match rest with
  | '=' :: after => ⟨.ok (.mark longer), [first, '='], after⟩
  | _ => ⟨.ok (.mark alone), [first], rest⟩

def punctuation (first : Char) (rest : List Char) : Front :=
  let single (mark : Mark) : Front := ⟨.ok (.mark mark), [first], rest⟩
  match first with
  | '(' => single .openParen
  | ')' => single .closeParen
  | '{' => single .openBrace
  | '}' => single .closeBrace
  | ',' => single .comma
  | '.' => single .dot
  | '-' => single .minus
  | '+' => single .plus
  | ';' => single .semicolon
  | '/' => single .slash
  | '*' => single .asterisk
  | '!' => withEquals .exclamationEquals .exclamation first rest
  | '=' => withEquals .equalsEquals .equals first rest
  | '<' => withEquals .lessThanEquals .lessThan first rest
  | '>' => withEquals .greaterThanEquals .greaterThan first rest
  | _ => ⟨.error .unexpectedCharacter, [first], rest⟩

def ofChars (first : Char) (rest : List Char) : Front :=
  if isWordStart first then word first rest
  else if first.isDigit then number first rest
  else if first = '"' then quoted rest
  else punctuation first rest

/-- What a front of marks is by their texts: the longest mark that a text begins with, or none. -/
inductive LongestMark (first : Char) : List Char → Front → Prop where
  | single {mark : Mark} {rest : List Char} (written : mark.text.toList = [first])
      (noLonger : ∀ (other : Mark) (second : Char) (after : List Char),
        rest = second :: after → other.text.toList ≠ [first, second]) :
      LongestMark first rest ⟨.ok (.mark mark), [first], rest⟩
  | double {mark : Mark} {second : Char} {after : List Char}
      (written : mark.text.toList = [first, second]) :
      LongestMark first (second :: after) ⟨.ok (.mark mark), [first, second], after⟩
  | none {rest : List Char} (noMark : ∀ mark : Mark, mark.text.toList.head? ≠ some first) :
      LongestMark first rest ⟨.error .unexpectedCharacter, [first], rest⟩

theorem longestMark_withEquals {longer alone : Mark} {first : Char}
    (pair : longer.text.toList = [first, '=']) (single : alone.text.toList = [first])
    (rest : List Char) : LongestMark first rest (withEquals longer alone first rest) := by
  unfold withEquals
  split
  · exact .double pair
  next noEquals =>
    refine .single single fun other second after same written => ?_
    obtain ⟨-, rfl⟩ := other.of_text_pair written
    exact noEquals after same

theorem longestMark_of_single {mark : Mark} {first : Char} (written : mark.text.toList = [first])
    (noPair : first ∉ ['!', '=', '<', '>']) (rest : List Char) :
    LongestMark first rest ⟨.ok (.mark mark), [first], rest⟩ :=
  .single written fun other _ _ _ longer => noPair (other.of_text_pair longer).1

/-- The dispatch on the first character agrees with the texts of the marks. -/
theorem longestMark_punctuation (first : Char) (rest : List Char) :
    LongestMark first rest (punctuation first rest) := by
  unfold punctuation
  split
  case h_12 => exact longestMark_withEquals rfl rfl rest
  case h_13 => exact longestMark_withEquals rfl rfl rest
  case h_14 => exact longestMark_withEquals rfl rfl rest
  case h_15 => exact longestMark_withEquals rfl rfl rest
  case h_16 =>
    refine .none fun mark head => ?_
    have same := head.symm
    cases mark <;> simp_all [Mark.text]
  all_goals exact longestMark_of_single rfl (by decide) rest

theorem LongestMark.split {first : Char} {rest : List Char} {front : Front}
    (longest : LongestMark first rest front) : first :: rest = front.taken ++ front.after := by
  cases longest <;> rfl

theorem LongestMark.taken {first : Char} {rest : List Char} {front : Front}
    (longest : LongestMark first rest front) : ∃ more, front.taken = first :: more := by
  cases longest <;> exact ⟨_, rfl⟩

/-- Nothing of the text is lost. -/
theorem ofChars_split (first : Char) (rest : List Char) :
    first :: rest = (ofChars first rest).taken ++ (ofChars first rest).after := by
  have whole := List.takeWhile_append_dropWhile (p := isWordPart) (l := rest)
  unfold ofChars
  split
  · exact congrArg (first :: ·) whole.symm
  split
  · have whole := List.takeWhile_append_dropWhile (p := Char.isDigit) (l := rest)
    unfold number
    dsimp only
    split
    next digit after remains =>
      rw [remains] at whole
      conv => lhs; rw [← whole]
      split <;> simp
    next => exact congrArg (first :: ·) whole.symm
  split
  next isQuote =>
    have whole := List.takeWhile_append_dropWhile (p := (· != '"')) (l := rest)
    unfold quoted
    dsimp only
    split
    next remains =>
      rw [remains] at whole
      conv => lhs; rw [← whole, isQuote]
      simp
    next quote after remains =>
      rw [remains] at whole
      conv => lhs; rw [← whole, isQuote]
      simp
  · exact (longestMark_punctuation first rest).split

/-- A token takes at least the first character. -/
theorem ofChars_taken (first : Char) (rest : List Char) :
    ∃ more, (ofChars first rest).taken = first :: more := by
  unfold ofChars
  split
  · exact ⟨_, rfl⟩
  split
  · unfold number
    dsimp only
    split
    · split
      · exact ⟨_, List.cons_append⟩
      · exact ⟨_, rfl⟩
    · exact ⟨_, rfl⟩
  split
  next isQuote =>
    unfold quoted
    dsimp only
    split
    · exact ⟨_, by rw [isQuote]⟩
    · exact ⟨_, by rw [isQuote]⟩
  · exact (longestMark_punctuation first rest).taken

theorem ofChars_after_length (first : Char) (rest : List Char) :
    (ofChars first rest).after.length ≤ rest.length := by
  obtain ⟨more, taken⟩ := ofChars_taken first rest
  have split := congrArg List.length (ofChars_split first rest)
  rw [taken] at split
  simp only [List.length_cons, List.length_append] at split
  omega

end Front

/-- A place in a source: what is left of it, and the characters and lines that lie behind. -/
structure Cursor where
  rest : List Char
  offset : Nat
  line : Nat
  deriving DecidableEq, Repr

namespace Cursor

def start (source : String) : Cursor := ⟨source.toList, 0, 1⟩

/-- The cursor after blanks, line feeds and comments, for a cursor that may stand in a comment. -/
def pastTrivia (inComment : Bool) : List Char → Nat → Nat → Cursor
  | [], offset, line => ⟨[], offset, line⟩
  | c :: rest, offset, line =>
    if c = '\n' then pastTrivia false rest (offset + 1) (line + 1)
    else if inComment || isBlank c then pastTrivia inComment rest (offset + 1) line
    else if c = '/' ∧ rest.head? = some '/' then pastTrivia true rest (offset + 1) line
    else ⟨c :: rest, offset, line⟩

def skipTrivia (cursor : Cursor) : Cursor :=
  pastTrivia false cursor.rest cursor.offset cursor.line

theorem pastTrivia_length (inComment : Bool) (rest : List Char) (offset line : Nat) :
    (pastTrivia inComment rest offset line).rest.length ≤ rest.length := by
  induction rest generalizing inComment offset line with
  | nil => exact Nat.le_refl _
  | cons c rest shorter =>
    unfold pastTrivia
    split
    · exact Nat.le_succ_of_le (shorter ..)
    split
    · exact Nat.le_succ_of_le (shorter ..)
    split
    · exact Nat.le_succ_of_le (shorter ..)
    · exact Nat.le_refl _

/-- The next token, and the cursor after it. -/
def next (cursor : Cursor) : Token × Cursor :=
  let here := cursor.skipTrivia
  match here.rest with
  | [] => (⟨.endOfInput, "", here.offset, 0, here.line⟩, here)
  | first :: rest =>
    let front := Front.ofChars first rest
    let length := front.taken.length
    let line := here.line + front.taken.count '\n'
    (⟨front.kind, front.lexeme, here.offset, length, line⟩,
      ⟨front.after, here.offset + length, line⟩)

theorem next_shorter (cursor : Cursor) (notEnd : ¬ cursor.next.1.isEnd) :
    cursor.next.2.rest.length < cursor.rest.length := by
  have skipped : cursor.skipTrivia.rest.length ≤ cursor.rest.length := pastTrivia_length ..
  unfold next at notEnd ⊢
  cases left : cursor.skipTrivia.rest with
  | nil => simp [left, Token.isEnd] at notEnd
  | cons first rest =>
    simp only [left, List.length_cons] at skipped ⊢
    exact Nat.lt_of_le_of_lt (Front.ofChars_after_length first rest) skipped

/-- Scans to the end of input, onto the tokens already seen, the latest of which comes first. -/
def tokensOnto (seen : List Token) (cursor : Cursor) : List Token :=
  if cursor.next.1.isEnd then cursor.next.1 :: seen
  else tokensOnto (cursor.next.1 :: seen) cursor.next.2
termination_by cursor.rest.length
decreasing_by exact next_shorter cursor ‹_›

/-- The tokens from here on; the last one is the end of input. -/
def tokens (cursor : Cursor) : List Token := (tokensOnto [] cursor).reverse

theorem tokensOnto_eq (seen : List Token) (cursor : Cursor) :
    tokensOnto seen cursor = tokensOnto [] cursor ++ seen := by
  induction size : cursor.rest.length using Nat.strongRecOn generalizing cursor seen with
  | ind _ shorter =>
    unfold tokensOnto
    split
    · rfl
    next notEnd =>
      have less := size ▸ next_shorter cursor notEnd
      rw [shorter _ less (cursor.next.1 :: seen) _ rfl, shorter _ less [cursor.next.1] _ rfl]
      simp

/-- The tokens of a cursor: the end of input alone, or the next token before those after it. -/
theorem tokens_eq (cursor : Cursor) :
    cursor.tokens =
      if cursor.next.1.isEnd then [cursor.next.1] else cursor.next.1 :: cursor.next.2.tokens := by
  unfold tokens
  rw [tokensOnto]
  split
  · rfl
  · rw [tokensOnto_eq]
    simp

/-- The first `count` tokens that the cursor gives, also past the end of input. -/
def pulls (cursor : Cursor) : Nat → List Token
  | 0 => []
  | count + 1 => cursor.next.1 :: pulls cursor.next.2 count

end Cursor

/-- All tokens of a source, of which the last one is its only end of input. -/
def tokenize (source : String) : List Token := (Cursor.start source).tokens

end ScriptFront
