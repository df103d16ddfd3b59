import ScriptFront.Pattern.Tree

/-!
# Faults of patterns

Why a text is no pattern, or a pattern cannot be matched, and how that is told: with the pattern,
and carets below the stretch that is at fault. A pattern of several lines is shown with line
numbers.
-/
namespace ScriptFront.Pattern

inductive FaultCause where
  | backreference | lookAround
  | groupOpen | groupClosed | nesting
  | nameEnd | nameEmpty | nameLetter | nameAgain
  | flagEnd | flagUnknown | flagAgain | negationAgain | negationLast
  | nothingToRepeat | countOpen | countMissing | countRange | decimalTooLarge
  | escapeEnd | escapeUnknown | hexEmpty | hexDigit | hexCode
  | boundaryEnd | boundaryOpen | boundaryUnknown
  | setOpen | setEscape | rangeOrder | rangeEnd
  | propertyName
  | noProperty | noPropertyValue | noLetterClass | noCaseless | notUnicode | notText
  deriving DecidableEq, Repr

/-- How deep parts of a pattern may be nested. -/
def nestingLimit : Nat := 250

namespace FaultCause

def message : FaultCause → String
  | backreference => "backreferences are not supported"
  | lookAround => "look-around, including look-ahead and look-behind, is not supported"
  | groupOpen => "unclosed group"
  | groupClosed => "unopened group"
  | nesting =>
    "exceed the maximum number of nested parentheses/brackets (" ++ toString nestingLimit ++ ")"
  | nameEnd => "unclosed capture group name"
  | nameEmpty => "empty capture group name"
  | nameLetter => "invalid capture group character"
  | nameAgain => "duplicate capture group name"
  | flagEnd => "expected flag but got end of regex"
  | flagUnknown => "unrecognized flag"
  | flagAgain => "duplicate flag"
  | negationAgain => "flag negation operator repeated"
  | negationLast => "dangling flag negation operator"
  | nothingToRepeat => "repetition operator missing expression"
  | countOpen => "unclosed counted repetition"
  | countMissing => "repetition quantifier expects a valid decimal"
  | countRange => "invalid repetition count range, the start must be <= the end"
  | decimalTooLarge => "decimal literal invalid"
  | escapeEnd => "incomplete escape sequence, reached end of pattern prematurely"
  | escapeUnknown => "unrecognized escape sequence"
  | hexEmpty => "hexadecimal literal empty"
  | hexDigit => "invalid hexadecimal digit"
  | hexCode => "hexadecimal literal is not a Unicode scalar value"
  | boundaryEnd =>
    "found either the beginning of a special word boundary or a bounded repetition on a \\b with "
      ++ "an opening brace, but no closing brace"
  | boundaryOpen =>
    "special word boundary assertion is either unclosed or contains an invalid character"
  | boundaryUnknown =>
    "unrecognized special word boundary assertion, valid choices are: start, end, start-half or "
      ++ "end-half"
  | setOpen => "unclosed character class"
  | setEscape => "invalid escape sequence found in character class"
  | rangeOrder => "invalid character class range, the start must be <= the end"
  | rangeEnd => "invalid range boundary, must be a literal"
  | propertyName => "invalid Unicode character class"
  | noProperty => "Unicode property not found"
  | noPropertyValue => "Unicode property value not found"
  | noLetterClass =>
    "Unicode-aware Perl class not found (make sure the unicode-perl feature is enabled)"
  | noCaseless =>
    "Unicode-aware case insensitivity matching is not available (make sure the unicode-case "
      ++ "feature is enabled)"
  | notUnicode => "Unicode not allowed here"
  | notText => "pattern can match invalid UTF-8"

end FaultCause

/-- A fault in a stretch of a pattern. -/
structure PlacedFault where
  cause : FaultCause
  stretch : Stretch
  /-- The stretch that the faulty one repeats, if that is the fault. -/
  first : Option Stretch
  deriving DecidableEq, Repr

namespace PlacedFault

/-- The lines of a pattern, without what ends them. A line that would be empty at the end is
none. -/
def lines (pattern : List Char) : List (List Char) :=
  let pieces := pattern.splitOn '\n'
  let ended := pieces.dropLast.map fun piece =>
    if piece.getLast? = some '\r' then piece.dropLast else piece
  match pieces.getLast? with
  | none | some [] => ended
  | some last => ended ++ [last]

/-- The carets below stretches of a line, in their order; the columns up to `column` are written. -/
def carets (column : Nat) : List Stretch → String
  | [] => ""
  | stretch :: rest =>
    let start := max column stretch.start.column
    let count := max 1 (stretch.stop.column - stretch.start.column)
    String.ofList (List.replicate (start - column) ' ' ++ List.replicate count '^')
      ++ carets (start + count) rest

/-- The stretches of the fault, in their order. -/
def stretches (fault : PlacedFault) : List Stretch :=
  match fault.first with
  | none => [fault.stretch]
  | some first =>
    if first.start.before fault.stretch.start then [first, fault.stretch]
    else [fault.stretch, first]

/-- The line of a pattern with its number, and the carets below it. -/
def lineRows (width : Nat) (stretches : List Stretch) (line : Nat × List Char) : String :=
  let (number, text) := line
  let digits := toString number
  let head :=
    if width = 0 then "    "
    else String.ofList (List.replicate (width - digits.length) ' ') ++ digits ++ ": "
  let below := stretches.filter fun stretch => stretch.onOneLine && stretch.start.line == number
  head ++ String.ofList text ++ "\n"
    ++ if below.isEmpty then ""
      else String.ofList (List.replicate head.length ' ') ++ carets 1 below ++ "\n"

/-- What is said of a stretch of several lines. -/
def linesNote (stretch : Stretch) : String :=
  "on line " ++ toString stretch.start.line ++ " (column " ++ toString stretch.start.column
    ++ ") through line " ++ toString stretch.stop.line ++ " (column "
    ++ toString (stretch.stop.column - 1) ++ ")"

/-- The fault as it is told of a pattern. -/
def message (fault : PlacedFault) (pattern : String) : String :=
  let text := pattern.toList
  let rows := lines text
  let count := rows.length + if text.getLast? = some '\n' then 1 else 0
  let width := if count ≤ 1 then 0 else (toString count).length
  let numbered := (List.range rows.length).map (· + 1) |>.zip rows
  let shown := String.join (numbered.map (lineRows width fault.stretches))
  let told :=
    if text.contains '\n' then
      let divider := String.ofList (List.replicate 79 '~') ++ "\n"
      let notes := (fault.stretches.filter (!·.onOneLine)).map linesNote
      divider ++ shown ++ divider
        ++ if notes.isEmpty then "" else String.intercalate "\n" notes ++ "\n"
    else shown
  "regex parse error:\n" ++ told ++ "error: " ++ fault.cause.message

end PlacedFault

end ScriptFront.Pattern
