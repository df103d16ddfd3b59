import ScriptFront.Text.LineClass

/-!
# Line breaks

Where a line of a text may end, by the Unicode line breaking algorithm. The algorithm decides
between two characters by their classes. Combining characters belong to the character before them,
and a few rules look further back: over spaces, and at what is before a hyphen or a row of regional
indicators.
-/
namespace ScriptFront

namespace LineClass

def isLetter (kind : LineClass) : Bool := kind = letter || kind = hebrew

def isIdeograph (kind : LineClass) : Bool :=
  kind = ideograph || kind = picture || kind = futurePicture || kind = modifier

def isSyllable (kind : LineClass) : Bool :=
  [leadingJamo, vowelJamo, trailingJamo, openSyllable, closedSyllable].contains kind

/-- The classes that end a line wherever they are. -/
def endsLine (kind : LineClass) : Bool :=
  [mandatory, carriageReturn, lineFeed, nextLine].contains kind

/-- The classes that are part of the character before them. -/
def isAttached (kind : LineClass) : Bool := kind = combining || kind = joiner

/-- The class of a character that could not be attached. -/
def detached (kind : LineClass) : LineClass := if kind.isAttached then letter else kind

/-- Whether two classes are parts of one number. -/
def joinNumber : LineClass → LineClass → Bool
  | closing, afterNumber | parenthesis, afterNumber | closing, beforeNumber
  | parenthesis, beforeNumber | numeric, afterNumber | numeric, beforeNumber
  | afterNumber, opening | afterNumber, wideOpening | afterNumber, numeric
  | beforeNumber, opening | beforeNumber, wideOpening | beforeNumber, numeric
  | hyphen, numeric | separator, numeric | numeric, numeric | slash, numeric => true
  | _, _ => false

/-- Whether two classes are parts of one syllable. -/
def joinSyllable : LineClass → LineClass → Bool
  | leadingJamo, next => [leadingJamo, vowelJamo, openSyllable, closedSyllable].contains next
  | vowelJamo, next | openSyllable, next => [vowelJamo, trailingJamo].contains next
  | trailingJamo, next | closedSyllable, next => next = trailingJamo
  | _, _ => false

/-- Whether two classes that follow one another at once stay on a line. -/
def stayTogether (last next : LineClass) : Bool :=
  next = breakAfter || next = hyphen || next = nonstarter || last = breakBefore
    || next = inseparable
    || last = slash && next = hebrew
    || last.isLetter && next = numeric || last = numeric && next.isLetter
    || last = beforeNumber && (next.isIdeograph || next.isLetter || next.isSyllable)
    || (last.isIdeograph || last.isLetter || last.isSyllable) && next = afterNumber
    || last.isLetter && next = beforeNumber || last = afterNumber && next.isLetter
    || joinNumber last next || joinSyllable last next
    || last.isLetter && next.isLetter || last = separator && next.isLetter
    || (last.isLetter || last = numeric) && next = opening
    || last = parenthesis && (next.isLetter || next = numeric)
    || (last = picture || last = futurePicture) && next = modifier

end LineClass

/-- What the algorithm knows of the text before a place. -/
structure LineBreaker where
  /-- The class of the last character that is no space, without what is attached to it. -/
  last : LineClass
  /-- Whether there are spaces after it. -/
  spaced : Bool
  /-- Whether the character before the place is a joiner. -/
  joined : Bool
  /-- Whether the last two characters are a Hebrew letter and a hyphen. -/
  hebrewHyphen : Bool
  /-- Whether a row of regional indicators ends here, and their number is odd. -/
  oddRegional : Bool
  deriving DecidableEq, Repr

namespace LineBreaker

open LineClass

/-- After the first character of a line. -/
def first (kind : LineClass) : LineBreaker :=
  ⟨kind.detached, kind = space, kind = joiner, false, kind = regional⟩

/-- Whether the character before the place ends the line. -/
def mustBreak (state : LineBreaker) (next : LineClass) : Bool :=
  !state.spaced && state.last.endsLine && !(state.last = carriageReturn && next = lineFeed)

/-- Whether a class becomes part of the last character. -/
def attaches (state : LineBreaker) (next : LineClass) : Bool :=
  next.isAttached && !state.spaced && state.last ≠ widthlessSpace

/-- Whether a line may end before a class that is no part of the last character. -/
def mayBreakBefore (state : LineBreaker) (next : LineClass) : Bool :=
  let last := state.last
  if next.endsLine || next = space || next = widthlessSpace then false
  else if last = widthlessSpace then true
  else if state.joined || next = wordJoiner then false
  else if !state.spaced && (last = wordJoiner || last = glue) then false
  else if next = glue && !(state.spaced || last = breakAfter || last = hyphen) then false
  else if [closing, parenthesis, exclamation, separator, slash].contains next then false
  else if last = opening || last = wideOpening then false
  else if last = quotation && (next = opening || next = wideOpening) then false
  else if (last = closing || last = parenthesis) && next = nonstarter then false
  else if last = dash && next = dash then false
  else if state.spaced then true
  else if last = quotation || next = quotation then false
  else if last = contingent || next = contingent then true
  else if state.hebrewHyphen || state.oddRegional && next = regional then false
  else !stayTogether last next

/-- Whether a line may end before a class. -/
def breaksBefore (state : LineBreaker) (next : LineClass) : Bool :=
  state.mustBreak next || !state.attaches next && state.mayBreakBefore next.detached

/-- After a further character. -/
def advance (state : LineBreaker) (next : LineClass) : LineBreaker :=
  if state.mustBreak next then first next
  else if state.attaches next then { state with joined := next = joiner }
  else if next = space then { state with spaced := true, joined := false }
  else
    { last := next.detached
      spaced := false
      joined := next = joiner
      hebrewHyphen :=
        state.last = hebrew && !state.spaced && (next = hyphen || next = breakAfter)
      oddRegional := next = regional && !(state.oddRegional && !state.spaced) }

/-- For each class of a text whether a line may end before it. -/
def breaks (state : LineBreaker) : List LineClass → List Bool
  | [] => []
  | kind :: rest => state.breaksBefore kind :: breaks (state.advance kind) rest

end LineBreaker

/-- For each character of a text whether a line may end before it. -/
def lineBreaks (text : List Char) : List Bool :=
  match text.map LineClass.ofChar with
  | [] => []
  | kind :: rest => false :: (LineBreaker.first kind).breaks rest

end ScriptFront
