import ScriptFront.Pattern.Progress
import ScriptFront.Text.Hexadecimal

/-!
# Escapes

What a backslash begins: a character that would mean something else without it, or one given by its
code, a class of characters, or a condition on a place.
-/
namespace ScriptFront.Pattern

/-- Whether a backslash before an ASCII character takes away what it means. -/
def isEscapable (c : Char) : Bool :=
  c.toNat < 128 && !c.isAlphanum && c ≠ '<' && c ≠ '>'

/-- The control characters that have letters. -/
def controlOf? : Char → Option Char
  | 'a' => some '\x07'
  | 'f' => some '\x0c'
  | 't' => some '\t'
  | 'n' => some '\n'
  | 'r' => some '\r'
  | 'v' => some '\x0b'
  | _ => none

def letterClassOf? : Char → Option (LetterClass × Bool)
  | 'd' => some (.digit, false)
  | 's' => some (.space, false)
  | 'w' => some (.word, false)
  | 'D' => some (.digit, true)
  | 'S' => some (.space, true)
  | 'W' => some (.word, true)
  | _ => none

def assertionOf? : Char → Option Assertion
  | 'A' => some .textStart
  | 'z' => some .textEnd
  | 'b' => some .wordBoundary
  | 'B' => some .noWordBoundary
  | '<' => some .wordStart
  | '>' => some .wordEnd
  | _ => none

/-- Word boundaries that have names. -/
def boundaryOf? (name : String) : Option Assertion :=
  match name with
  | "start" => some .wordStart
  | "end" => some .wordEnd
  | "start-half" => some .wordStartHalf
  | "end-half" => some .wordEndHalf
  | _ => none

/-- The character of a code in hexadecimal digits. -/
def charOfHex? (digits : List Char) : Option Char := do
  let code ← hexNumber? digits
  if code.isValidChar then some (Char.ofNat code) else none

/-- As many hexadecimal digits. -/
def readHexDigits : Nat → Reader (List Char)
  | 0 => return []
  | count + 1 => do
    match ← next? with
    | none => fail .escapeEnd (.point (← here))
    | some c =>
      if !isHexDigit c then fail .hexDigit (← nextStretch)
      skipSpaced
      return c :: (← readHexDigits count)

/-- Hexadecimal digits between braces, and their stretch. -/
def readBracedHex : Reader (List Char × Stretch) := do
  let brace ← here
  let first := (← nextStretch).stop
  skipSpaced
  let step (taken : List Char) : Reader (List Char) := do
    match ← next? with
    | none | some '}' => return taken
    | some c =>
      if !isHexDigit c then fail .hexDigit (← nextStretch)
      skipSpaced
      return c :: taken
  let digits := (← repeatStep step []).reverse
  if ← atEnd then fail .escapeEnd (← since brace)
  let stop ← here
  skipSpaced
  if digits.isEmpty then fail .hexEmpty (← since brace)
  return (digits, ⟨first, stop⟩)

/-- How many digits follow a letter for codes, if they are not between braces. -/
def hexDigitCount (letter : Char) : Nat :=
  if letter = 'x' then 2 else if letter = 'u' then 4 else 8

/-- A character by its code, after a backslash at `start` and before the letter. -/
def readCode (start : Mark) (letter : Char) : Reader Literal := do
  skipSpaced
  if ← atEnd then fail .escapeEnd (.point (← here))
  let braced := (← next?) = some '{'
  let (digits, stretch) ←
    if braced then readBracedHex
    else do
      let first ← here
      let digits ← readHexDigits (hexDigitCount letter)
      pure (digits, ← since first)
  match charOfHex? digits with
  | none => fail .hexCode stretch
  | some char => return ⟨← since start, char, !braced && letter = 'x'⟩

/-- The name of a class by property, after a backslash at `start` and before the letter. -/
def readProperty (start : Mark) : Reader Tree := do
  skipSpaced
  match ← next? with
  | none => fail .escapeEnd (.point (← here))
  | some '{' =>
    skipSpaced
    let name ← readWhile (· ≠ '}') skipSpaced
    if ← atEnd then fail .escapeEnd (.point (← here))
    skip
    return .property (← since start) (String.ofList name)
  | some c =>
    if c = '\\' then fail .propertyName (← nextStretch)
    skipSpaced
    return .property (← since start) (String.singleton c)

def isBoundaryLetter (c : Char) : Bool := c.isAlpha || c = '-'

/-- A word boundary, whose letter has been read. It may have a name between braces; if what is there
is no name, the braces hold a count. -/
def readBoundary (start : Mark) : Reader Tree := do
  let plain := Tree.assertion (← since start) .wordBoundary
  if (← next?) ≠ some '{' then return plain
  let before ← get
  skipSpaced
  match ← next? with
  | none => fail .boundaryEnd (← since start)
  | some c =>
    if !isBoundaryLetter c then
      set before
      return plain
    let first ← here
    let name ← readWhile isBoundaryLetter skipSpaced
    if (← next?) ≠ some '}' then fail .boundaryOpen (← since before.mark)
    let stop ← here
    skip
    match boundaryOf? (String.ofList name) with
    | none => fail .boundaryUnknown ⟨first, stop⟩
    | some boundary => return .assertion (← since start) boundary

/-- What a backslash begins. -/
def readEscape : Reader Tree := do
  let start ← here
  skip
  match ← next? with
  | none => fail .escapeEnd (← since start)
  | some c =>
    if c.isDigit then fail .backreference ⟨start, (← nextStretch).stop⟩
    else if c = 'x' || c = 'u' || c = 'U' then return .literal (← readCode start c)
    else if c = 'p' || c = 'P' then readProperty start
    else
      skip
      let stretch ← since start
      match letterClassOf? c, controlOf? c, assertionOf? c with
      | some (kind, negated), _, _ => return .letter stretch kind negated
      | _, some control, _ => return .literal ⟨stretch, control, false⟩
      | _, _, some .wordBoundary => readBoundary start
      | _, _, some assertion => return .assertion stretch assertion
      | _, _, none =>
        if isEscapable c then return .literal ⟨stretch, c, false⟩
        else fail .escapeUnknown stretch

end ScriptFront.Pattern
